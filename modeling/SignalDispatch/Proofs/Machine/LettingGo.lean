import SignalDispatch.Proofs.Machine.Alike
import SignalDispatch.Proofs.Machine.Hands
import Mathlib.Data.List.Dedup

/-!
# Contexts that are let go of in another order

Two buses may let go of the same contexts in different orders, so two machines that are alike before
are not alike while that goes on.  If no farewell has commands it takes a number of moves that does
not depend on the order, nothing that user code takes part in happens meanwhile, and the machines
are alike again when it is over.

`Machine.Meets` says that two machines are alike or will be after the same number of such moves.
-/

namespace SignalDispatch

/-- The farewell of a context has no commands. -/
def Context.Silent (program : Program) (context : Context) : Prop :=
  ∀ ticket label farewell, context = .tracked ticket label farewell →
    (program.routine farewell).commands = []

namespace Machine

/-- Some moves lead from one state to another, and user code takes part in none. -/
inductive Hushed (program : Program) : Nat → Machine → Machine → Prop where
  | rest (machine : Machine) : Hushed program 0 machine machine
  | move {count : Nat} {machine after : Machine} :
      machine.stack ≠ [] →
      (machine.step program).observed = machine.observed →
      Hushed program count (machine.step program) after →
      Hushed program (count + 1) machine after

/-- Two machines are alike, or they will be after some moves that user code takes no part in. -/
inductive Meets (program : Program) (signalRoom slotRoom : Nat) : Machine → Machine → Prop where
  | now {left right : Machine} :
      left.Alike (Context.Silent program) signalRoom slotRoom right →
      Meets program signalRoom slotRoom left right
  | later {left right : Machine} :
      left.stack ≠ [] →
      right.stack ≠ [] →
      List.Forall₂ (Event.Agrees signalRoom slotRoom) left.observed right.observed →
      Meets program signalRoom slotRoom (left.step program) (right.step program) →
      Meets program signalRoom slotRoom left right

variable {program : Program} {signalRoom slotRoom : Nat}

theorem Hushed.observed_eq
    {count : Nat}
    {machine after : Machine}
    (hushed : Hushed program count machine after) :
    after.observed = machine.observed := by
  induction hushed with
  | rest machine => rfl
  | move _ same _ ih => exact ih.trans same

/-- Machines that will be alike after the same number of silent moves. -/
theorem Hushed.meets
    {count : Nat}
    {left right nextLeft nextRight : Machine}
    (hushed : Hushed program count left nextLeft)
    (hushed' : Hushed program count right nextRight)
    (alike : nextLeft.Alike (Context.Silent program) signalRoom slotRoom nextRight) :
    Meets program signalRoom slotRoom left right := by
  have events := alike.events
  rw [hushed.observed_eq, hushed'.observed_eq] at events
  induction hushed generalizing right with
  | rest machine =>
      cases hushed' with
      | rest => exact .now alike
  | move busy same rest ih =>
      cases hushed' with
      | move busy' same' rest' =>
          refine .later busy busy' events (ih rest' alike ?_)
          rw [same, same']
          exact events

/-! ## Letting go -/

/-- The tickets of the contexts that a bus and some frames own. -/
def ownedBy (bus : Bus) (frames : List Frame) : List Nat :=
  ticketsOf (bus.contexts ++ frames.flatMap Frame.contexts)

/-- The number of moves that letting go of contexts takes: one for each of them, one for each
farewell, and one to go on. -/
def releaseMoves (owned : List Nat) (contexts : List Context) : Nat :=
  contexts.length + ((ticketsOf contexts).dedup.filter fun ticket => ticket ∉ owned).length + 1

theorem releaseMoves_text (owned : List Nat) (value : String) (rest : List Context) :
    releaseMoves owned (.text value :: rest) = releaseMoves owned rest + 1 := by
  have same : ticketsOf (.text value :: rest) = ticketsOf rest := rfl
  rw [releaseMoves, same, List.length_cons, releaseMoves]
  omega

/-- A context that is owned elsewhere, or is let go of once more, takes one move. -/
theorem releaseMoves_owned
    {owned : List Nat}
    {ticket : Nat}
    {rest : List Context}
    (other : ticket ∈ ticketsOf rest ∨ ticket ∈ owned)
    (label : String)
    (farewell : RoutineId) :
    releaseMoves owned (.tracked ticket label farewell :: rest) = releaseMoves owned rest + 1 := by
  have same : ticketsOf (.tracked ticket label farewell :: rest) = ticket :: ticketsOf rest := rfl
  rw [releaseMoves, same, List.length_cons, releaseMoves]
  by_cases again : ticket ∈ ticketsOf rest
  · rw [List.dedup_cons_of_mem again]
    omega
  · have known := other.resolve_left again
    rw [List.dedup_cons_of_notMem again, List.filter_cons_of_neg (by simpa using known)]
    omega

/-- The last owner of a context takes one move more, for the farewell. -/
theorem releaseMoves_last
    {owned : List Nat}
    {ticket : Nat}
    {rest : List Context}
    (once : ticket ∉ ticketsOf rest)
    (unknown : ticket ∉ owned)
    (label : String)
    (farewell : RoutineId) :
    releaseMoves owned (.tracked ticket label farewell :: rest) = releaseMoves owned rest + 2 := by
  have same : ticketsOf (.tracked ticket label farewell :: rest) = ticket :: ticketsOf rest := rfl
  rw [releaseMoves, same, List.length_cons, releaseMoves, List.dedup_cons_of_notMem once,
    List.filter_cons_of_pos (by simpa using unknown), List.length_cons]
  omega

/-- The number of moves does not depend on the order. -/
theorem releaseMoves_perm
    {owned owned' : List Nat}
    {contexts contexts' : List Context}
    (same : ∀ ticket, ticket ∈ owned ↔ ticket ∈ owned')
    (order : contexts.Perm contexts') :
    releaseMoves owned contexts = releaseMoves owned' contexts' := by
  have tests : (fun ticket => decide (ticket ∉ owned)) = fun ticket => decide (ticket ∉ owned') :=
    funext fun ticket => decide_eq_decide.mpr (not_congr (same ticket))
  have tickets : (ticketsOf contexts).Perm (ticketsOf contexts') := order.filterMap _
  rw [releaseMoves, releaseMoves, order.length_eq, tests,
    (tickets.dedup.filter fun ticket => decide (ticket ∉ owned')).length_eq]

theorem owns_release_iff
    {machine : Machine}
    {rest : List Context}
    {panic : Option String}
    {below : List Frame}
    (stack : machine.stack = .release rest panic :: below)
    (ticket : Nat) :
    machine.owns ticket = true ↔
      ticket ∈ ticketsOf rest ∨ ticket ∈ ownedBy machine.world.bus below := by
  rw [owns, any_hasTicket_iff, Machine.contexts, stack, ownedBy, List.flatMap_cons,
    Frame.contexts]
  simp only [ticketsOf, List.filterMap_append, List.mem_append]
  exact or_left_comm

/-- How things go on after contexts have been let go of. -/
def afterRelease : Option String → Control
  | none => .proceed
  | some message => .unwind message

theorem step_release
    (program : Program)
    {machine : Machine}
    {contexts : List Context}
    {panic : Option String}
    {below : List Frame}
    (stack : machine.stack = .release contexts panic :: below)
    (control : machine.control = .proceed) :
    machine.stack ≠ [] ∧
      machine.step program =
        ({ machine with stack := below } : Machine).proceedRelease program contexts panic := by
  refine ⟨by rw [stack]; exact List.cons_ne_nil _ _, ?_⟩
  rw [step, stack]
  simp only [control, proceed]

/-- Letting go of contexts whose farewells have no commands. -/
theorem hushed_release
    {contexts : List Context}
    (silent : ∀ context ∈ contexts, context.Silent program)
    {machine : Machine}
    {panic : Option String}
    {below : List Frame}
    (stack : machine.stack = .release contexts panic :: below)
    (control : machine.control = .proceed) :
    ∃ after,
      Hushed program (releaseMoves (ownedBy machine.world.bus below) contexts) machine after ∧
        after.world = machine.world ∧ after.stack = below ∧
        after.control = afterRelease panic := by
  induction contexts generalizing machine with
  | nil =>
      rcases step_release program stack control with ⟨busy, moved⟩
      refine ⟨machine.step program, .move busy ?_ (.rest _), ?_⟩
      · rw [moved]
        cases panic <;> rfl
      · rw [moved]
        cases panic <;> exact ⟨rfl, rfl, rfl⟩
  | cons context rest ih =>
      rcases step_release program stack control with ⟨busy, moved⟩
      have later (moves : Machine) (world : moves.world = machine.world)
          (onwards : moves.stack = .release rest panic :: below)
          (going : moves.control = .proceed) :
          ∃ after,
            Hushed program (releaseMoves (ownedBy machine.world.bus below) rest) moves after ∧
              after.world = machine.world ∧ after.stack = below ∧
              after.control = afterRelease panic := by
        rw [← world]
        exact ih (fun other member => silent other (List.mem_cons_of_mem _ member)) onwards going
      cases context with
      | text value =>
          have onwards : machine.step program =
              (({ machine with stack := below } : Machine).push
                (.release rest panic)).proceeding :=
            moved
          rcases later (machine.step program) (by rw [onwards]; rfl) (by rw [onwards]; rfl)
            (by rw [onwards]; rfl) with ⟨after, hushed, ended⟩
          rw [releaseMoves_text]
          exact ⟨after, .move busy (by rw [onwards]; rfl) hushed, ended⟩
      | tracked ticket label farewell =>
          have remaining :
              (({ machine with stack := below } : Machine).push (.release rest panic)).stack =
                .release rest panic :: below :=
            rfl
          have owners := owns_release_iff remaining ticket
          rw [proceedRelease] at moved
          by_cases owned : ticket ∈ ticketsOf rest ∨ ticket ∈ ownedBy machine.world.bus below
          · rw [if_pos (owners.mpr owned)] at moved
            rcases later (machine.step program) (by rw [moved]; rfl) (by rw [moved]; rfl)
              (by rw [moved]; rfl) with ⟨after, hushed, ended⟩
            rw [releaseMoves_owned owned]
            exact ⟨after, .move busy (by rw [moved]; rfl) hushed, ended⟩
          · rw [if_neg fun still => owned (owners.mp still),
              silent _ List.mem_cons_self ticket label farewell rfl] at moved
            rw [not_or] at owned
            have again : (machine.step program).step program =
                { machine with
                  stack := .release rest panic :: below
                  control := .proceed
                  events := .released label :: machine.events } := by
              rw [moved]
              rfl
            rcases later ((machine.step program).step program) (by rw [again]) (by rw [again])
              (by rw [again]) with ⟨after, hushed, ended⟩
            rw [releaseMoves_last owned.1 owned.2]
            refine ⟨after, .move busy ?_ (.move ?_ ?_ hushed), ended⟩
            · rw [moved]
              rfl
            · rw [moved]
              exact List.cons_ne_nil _ _
            · rw [again, moved]
              rfl

/-- Buses and frames that are alike own the contexts of the same tickets. -/
theorem mem_ownedBy_iff
    {allowed : Context → Prop}
    {left right : Bus}
    {below below' : List Frame}
    (alike : left.Alike allowed signalRoom slotRoom right)
    (sane : left.Sane)
    (sane' : right.Sane)
    (frames : List.Forall₂ (Frame.Alike allowed signalRoom slotRoom left right) below below')
    (ticket : Nat) :
    ticket ∈ ownedBy left below ↔ ticket ∈ ownedBy right below' := by
  have same : below.flatMap Frame.contexts = below'.flatMap Frame.contexts := by
    induction frames with
    | nil => rfl
    | cons first _ ih => rw [List.flatMap_cons, List.flatMap_cons, first.contexts_eq, ih]
  have stored : left.contexts.Perm right.contexts := by
    rcases alike.parts with ⟨absent, shape⟩ | ⟨registry, registry', present, shape, both⟩
    · rw [Bus.contexts, absent, shape]
      exact .nil
    · have present' : right.registry = some registry' := by rw [shape]; rfl
      rw [Bus.contexts, present, Bus.contexts, present']
      exact both.contexts_perm (sane.registry present).formed (sane'.registry present').formed
  rw [ownedBy, ownedBy, same]
  exact ((stored.append_right _).filterMap _).mem_iff

/-- Machines that let go of the same contexts, each in its order, meet when that is over. -/
theorem meets_release
    {left right : Machine}
    {contexts contexts' : List Context}
    {panic : Option String}
    {below below' : List Frame}
    (agree : left.Agree (Context.Silent program) signalRoom slotRoom right)
    (sane : left.world.bus.Sane)
    (sane' : right.world.bus.Sane)
    (stack : left.stack = .release contexts panic :: below)
    (stack' : right.stack = .release contexts' panic :: below')
    (control : left.control = .proceed)
    (control' : right.control = .proceed)
    (order : contexts.Perm contexts')
    (silent : ∀ context ∈ contexts, context.Silent program)
    (frames :
      List.Forall₂
        (Frame.Alike (Context.Silent program) signalRoom slotRoom left.world.bus right.world.bus)
        below below') :
    Meets program signalRoom slotRoom left right := by
  have silent' : ∀ context ∈ contexts', context.Silent program :=
    fun context member => silent context (order.mem_iff.mpr member)
  rcases hushed_release silent stack control with ⟨after, hushed, world, under, going⟩
  rcases hushed_release silent' stack' control' with ⟨after', hushed', world', under', going'⟩
  rw [← releaseMoves_perm (mem_ownedBy_iff agree.world.bus sane sane' frames) order] at hushed'
  refine hushed.meets hushed' ⟨⟨?_, ?_⟩, ?_, ?_⟩
  · rw [world, world']
    exact agree.world
  · rw [hushed.observed_eq, hushed'.observed_eq]
    exact agree.events
  · rw [world, world', under, under']
    exact frames
  · rw [going, going']
    cases panic with
    | none => exact .proceed
    | some message => exact .unwind message

end Machine

end SignalDispatch
