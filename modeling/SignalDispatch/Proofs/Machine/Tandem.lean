import SignalDispatch.Proofs.Machine.LettingGo
import Mathlib.Data.List.Forall2

/-!
# Two machines in tandem

What one move does to a machine on growing storage and to a machine on pools that agrees with it.
`Machine.Tandem` lists the possibilities: they put frames that are alike above the ones they had,
they let go of the same contexts on the way, or the pools have no room and growing storage has
outgrown them.

There is one lemma for each thing that a move can be: taking over the effect of a call, beginning an
emission, connecting a slot, starting any operation.
-/

namespace SignalDispatch

namespace Operation

/-- The signal name that an operation registers. -/
def registers? : Operation → Option String
  | register name _ _ => some name
  | _ => none

/-- The farewell of the context that an operation connects. -/
def farewell? : Operation → Option RoutineId
  | connect _ _ _ (some (.tracked _ farewell)) _ => some farewell
  | _ => none

/-- An operation that does the same on growing storage and on pools: the name that it registers fits
a pool, and the context that it connects does nothing when it is let go of. -/
def Portable (program : Program) (operation : Operation) : Prop :=
  (∀ name ∈ operation.registers?, name.utf8ByteSize ≤ Limits.poolNameBytes) ∧
    ∀ farewell ∈ operation.farewell?, (program.routine farewell).commands = []

instance (program : Program) (operation : Operation) : Decidable (operation.Portable program) :=
  inferInstanceAs (Decidable (_ ∧ _))

end Operation

/-- The frame that a call leaves below the contexts that it lets go of. -/
def Effect.last (effect : Effect) : Frame :=
  match effect.result with
  | .ok answer => .conclude effect.after answer
  | .error fault => .reject fault

/-- The same change of two worlds that concerns their buses, or has nothing to do with them. -/
theorem World.Alike.update
    {allowed : Context → Prop}
    {signalRoom slotRoom : Nat}
    {left right : World}
    (alike : left.Alike allowed signalRoom slotRoom right)
    (change : World → World)
    (bus : (change left).bus.Alike allowed signalRoom slotRoom (change right).bus)
    (apart :
      ∀ other,
        change { left with bus := other } =
          { change left with bus := (change { left with bus := other }).bus }) :
    (change left).Alike allowed signalRoom slotRoom (change right) := by
  refine ⟨bus, ?_⟩
  have same := apart right.bus
  rw [← alike.same] at same
  exact same

/-- Worlds that are alike get buses that are alike. -/
theorem World.Alike.setBus
    {allowed : Context → Prop}
    {signalRoom slotRoom : Nat}
    {left right : World}
    {bus bus' : Bus}
    (alike : left.Alike allowed signalRoom slotRoom right)
    (buses : bus.Alike allowed signalRoom slotRoom bus') :
    ({ left with bus := bus } : World).Alike allowed signalRoom slotRoom
      { right with bus := bus' } := by
  refine ⟨buses, ?_⟩
  rw [alike.same]

namespace Machine

/-- The ticket of the context that a connection asks for is issued. -/
def issuing (machine : Machine) (request : Option ContextRequest) : Machine :=
  { machine with
    world :=
      { machine.world with
        tickets :=
          machine.world.tickets +
            (ticketsOf (issuedContext request machine.world.tickets).toList).length } }

/-- What is left to be done once a connection was tried. -/
def settle (machine : Machine) (keep : KeepRequest) (effect : Effect) : Machine :=
  match effect.result, keep with
  | .ok (.connected handle), .under place =>
      { machine with world := machine.world.keep place handle }.apply effect
  | .ok _, .unreadable complaint =>
      machine.apply { effect with result := .ok (.unreadable complaint) }
  | _, _ => machine.apply effect

theorem bus_settle (machine : Machine) (keep : KeepRequest) (effect : Effect) :
    (machine.settle keep effect).world.bus = effect.bus := by
  rw [settle.eq_def]
  split <;> rw [world_apply]

/-- Connecting is a call on the bus with a context whose ticket has been issued. -/
theorem connect_eq_settle
    (machine : Machine)
    (name : String)
    (callback : RoutineId)
    (priority : Option Priority)
    (request : Option ContextRequest)
    (keep : KeepRequest) :
    machine.connect name callback priority request keep =
      (machine.issuing request).settle keep
        (machine.world.bus.connect name callback
          (issuedContext request machine.world.tickets) priority) := by
  rcases request with _ | ⟨value⟩ | ⟨label, farewell⟩ <;> rfl

/-- A pool has refused an entry, and the fault is about to be reported. -/
def Refused (signalRoom slotRoom : Nat) (machine : Machine) : Prop :=
  ∃ fault, PoolFault signalRoom slotRoom fault ∧ .reject fault ∈ machine.stack

theorem apply_stack (machine : Machine) (effect : Effect) :
    (machine.apply effect).stack =
      .release effect.released none :: effect.last :: machine.stack := by
  rw [apply, Effect.last]
  have stack := stack_log (machine.setBus effect.bus) effect.before
  exact congrArg (fun rest => .release effect.released none :: _ :: rest) stack

theorem observed_apply (machine : Machine) (effect : Effect) :
    (machine.apply effect).observed = machine.observed := by
  have observed := observed_log (machine.setBus effect.bus) effect.before
  rw [apply]
  exact observed

/-- What two machines come to above the frames that they had. -/
inductive Tandem
    (allowed : Context → Prop)
    (signalRoom slotRoom : Nat)
    (below below' : List Frame)
    (left right : Machine) : Prop where
  /-- They have the same to do next. -/
  | plain {above above' : List Frame} :
      left.Agree allowed signalRoom slotRoom right →
      left.stack = above ++ below →
      right.stack = above' ++ below' →
      List.Forall₂ (Frame.Alike allowed signalRoom slotRoom left.world.bus right.world.bus)
        above above' →
      left.control.Alike signalRoom slotRoom right.control →
      Tandem allowed signalRoom slotRoom below below' left right
  /-- They let go of the same contexts, and then they have the same to do. -/
  | letting {contexts contexts' : List Context} {panic : Option String}
      {above above' : List Frame} :
      left.Agree allowed signalRoom slotRoom right →
      left.stack = .release contexts panic :: (above ++ below) →
      right.stack = .release contexts' panic :: (above' ++ below') →
      contexts.Perm contexts' →
      (∀ context ∈ contexts, allowed context) →
      List.Forall₂ (Frame.Alike allowed signalRoom slotRoom left.world.bus right.world.bus)
        above above' →
      left.control = .proceed →
      right.control = .proceed →
      Tandem allowed signalRoom slotRoom below below' left right
  /-- A pool refuses an entry that growing storage has taken. -/
  | outgrown :
      ¬ left.world.bus.Fits signalRoom slotRoom →
      right.Refused signalRoom slotRoom →
      Tandem allowed signalRoom slotRoom below below' left right

variable {allowed : Context → Prop} {signalRoom slotRoom : Nat}

/-- A frame that was put above the others counts as one of those put above them. -/
theorem Tandem.under
    {frame other : Frame}
    {below below' : List Frame}
    {left right : Machine}
    (tandem : Tandem allowed signalRoom slotRoom (frame :: below) (other :: below') left right)
    (frames :
      Frame.Alike allowed signalRoom slotRoom left.world.bus right.world.bus frame other) :
    Tandem allowed signalRoom slotRoom below below' left right := by
  cases tandem with
  | plain agree stack stack' first control =>
      rw [List.append_cons] at stack stack'
      exact .plain agree stack stack' (List.rel_append first (.cons frames .nil)) control
  | letting agree stack stack' order carries first control control' =>
      rw [List.append_cons] at stack stack'
      exact .letting agree stack stack' order carries (List.rel_append first (.cons frames .nil))
        control control'
  | outgrown unfit refused => exact .outgrown unfit refused

/-- In tandem above frames that go on being alike, two machines meet. -/
theorem Tandem.meets
    {program : Program}
    {below below' : List Frame}
    {left right : Machine}
    (tandem : Tandem (Context.Silent program) signalRoom slotRoom below below' left right)
    (sane : left.world.bus.Sane)
    (sane' : right.world.bus.Sane)
    (frames :
      ∀ above above',
        left.world.bus.Alike (Context.Silent program) signalRoom slotRoom right.world.bus →
          left.stack = above ++ below → right.stack = above' ++ below' →
            List.Forall₂
              (Frame.Alike (Context.Silent program) signalRoom slotRoom left.world.bus
                right.world.bus)
              below below')
    (room : left.world.bus.Fits signalRoom slotRoom ∨ ¬ right.Refused signalRoom slotRoom) :
    Meets program signalRoom slotRoom left right := by
  cases tandem with
  | plain agree stack stack' first control =>
      refine .now ⟨agree, ?_, control⟩
      have rest := frames _ _ agree.world.bus stack stack'
      rw [stack, stack']
      exact List.rel_append first rest
  | letting agree stack stack' order silent first control control' =>
      have rest := frames (_ :: _) (_ :: _) agree.world.bus stack stack'
      exact meets_release agree sane sane' stack stack' control control' order silent
        (List.rel_append first rest)
  | outgrown unfit refused =>
      rcases room with fit | unrefused
      · exact absurd fit unfit
      · exact absurd refused unrefused

namespace Agree

variable {left right : Machine}

/-- Nothing is put above what was there. -/
theorem plainly
    {below below' : List Frame}
    (agree : left.Agree allowed signalRoom slotRoom right)
    (stack : left.stack = below)
    (stack' : right.stack = below')
    (control : left.control.Alike signalRoom slotRoom right.control) :
    Tandem allowed signalRoom slotRoom below below' left right :=
  .plain agree (stack.trans (List.nil_append _).symm) (stack'.trans (List.nil_append _).symm) .nil
    control

/-- One frame is put above what was there. -/
theorem pushed
    {below below' : List Frame}
    {frame other : Frame}
    (agree : left.Agree allowed signalRoom slotRoom right)
    (stack : left.stack = frame :: below)
    (stack' : right.stack = other :: below')
    (frames : Frame.Alike allowed signalRoom slotRoom left.world.bus right.world.bus frame other)
    (control : left.control.Alike signalRoom slotRoom right.control) :
    Tandem allowed signalRoom slotRoom below below' left right :=
  .plain agree (stack.trans List.singleton_append.symm) (stack'.trans List.singleton_append.symm)
    (.cons frames .nil) control

/-- Contexts are let go of above one more frame. -/
theorem releasing
    {contexts contexts' : List Context}
    {panic : Option String}
    {below below' : List Frame}
    {frame other : Frame}
    (agree : left.Agree allowed signalRoom slotRoom right)
    (stack : left.stack = .release contexts panic :: frame :: below)
    (stack' : right.stack = .release contexts' panic :: other :: below')
    (order : contexts.Perm contexts')
    (carries : ∀ context ∈ contexts, allowed context)
    (frames : Frame.Alike allowed signalRoom slotRoom left.world.bus right.world.bus frame other)
    (control : left.control = .proceed)
    (control' : right.control = .proceed) :
    Tandem allowed signalRoom slotRoom below below' left right := by
  have above : left.stack = .release contexts panic :: ([frame] ++ below) := stack
  have above' : right.stack = .release contexts' panic :: ([other] ++ below') := stack'
  exact .letting agree above above' order carries (.cons frames .nil) control control'

/-- Two machines come to an answer. -/
theorem answering
    (agree : left.Agree allowed signalRoom slotRoom right)
    {answer other : Answer}
    (agrees : answer.Agrees signalRoom slotRoom other) :
    Tandem allowed signalRoom slotRoom left.stack right.stack (left.answering answer)
      (right.answering other) :=
  plainly ⟨agree.world, agree.events⟩ rfl rfl (.answer agrees)

/-- Two machines go on with one more frame. -/
theorem pushing
    (agree : left.Agree allowed signalRoom slotRoom right)
    {frame other : Frame}
    (frames :
      Frame.Alike allowed signalRoom slotRoom left.world.bus right.world.bus frame other) :
    Tandem allowed signalRoom slotRoom left.stack right.stack (left.push frame).proceeding
      (right.push other).proceeding :=
  pushed ⟨agree.world, agree.events⟩ rfl rfl frames .proceed

theorem log
    (agree : left.Agree allowed signalRoom slotRoom right)
    (records records' : List LogRecord) :
    (left.log records).Agree allowed signalRoom slotRoom (right.log records') := by
  refine ⟨?_, ?_⟩
  · rw [world_log, world_log]
    exact agree.world
  · rw [observed_log, observed_log]
    exact agree.events

/-- Two machines write records and come to an answer. -/
theorem concluding
    (agree : left.Agree allowed signalRoom slotRoom right)
    (records records' : List LogRecord)
    {answer other : Answer}
    (agrees : answer.Agrees signalRoom slotRoom other) :
    Tandem allowed signalRoom slotRoom left.stack right.stack
      ((left.log records).answering answer) ((right.log records').answering other) := by
  have logged := agree.log records records'
  exact plainly ⟨logged.world, logged.events⟩ (stack_log _ _) (stack_log _ _) (.answer agrees)

/-! ## Calls -/

/-- Two machines take over effects that do the same. -/
theorem apply
    (agree : left.Agree allowed signalRoom slotRoom right)
    {effect other : Effect}
    (effects : effect.Alike allowed signalRoom slotRoom other) :
    Tandem allowed signalRoom slotRoom left.stack right.stack (left.apply effect)
      (right.apply other) := by
  have onwards : (left.apply effect).Agree allowed signalRoom slotRoom (right.apply other) := by
    refine ⟨?_, ?_⟩
    · rw [world_apply, world_apply]
      exact agree.world.setBus effects.bus
    · rw [observed_apply, observed_apply]
      exact agree.events
  refine .letting onwards (apply_stack left effect) (apply_stack right other) effects.released
    effects.allowed (.cons ?_ .nil) rfl rfl
  have results := effects.result
  rw [Effect.last, Effect.last]
  generalize effect.result = result at results ⊢
  generalize other.result = result' at results ⊢
  cases results with
  | fault cause => exact .reject cause
  | answer agrees => exact .conclude _ _ agrees

/-- The pools have no room for what a call adds. -/
theorem apply_outgrown
    {effect other : Effect}
    {below below' : List Frame}
    (outgrows : effect.Outgrows signalRoom slotRoom other) :
    Tandem allowed signalRoom slotRoom below below' (left.apply effect) (right.apply other) := by
  refine .outgrown ?_ ?_
  · rw [world_apply]
    exact outgrows.outgrown
  · rcases outgrows.refused with ⟨fault, result, pool⟩
    refine ⟨fault, pool, ?_⟩
    rw [apply_stack, Effect.last, result]
    exact List.mem_cons_of_mem _ List.mem_cons_self

theorem apply_either
    (agree : left.Agree allowed signalRoom slotRoom right)
    {effect other : Effect}
    (effects :
      effect.Alike allowed signalRoom slotRoom other ∨
        effect.Outgrows signalRoom slotRoom other) :
    Tandem allowed signalRoom slotRoom left.stack right.stack (left.apply effect)
      (right.apply other) := by
  rcases effects with alike | outgrows
  · exact agree.apply alike
  · exact apply_outgrown outgrows

/-- Two machines begin an emission. -/
theorem beginEmission
    (agree : left.Agree allowed signalRoom slotRoom right)
    (sane : left.world.bus.Sane)
    (sane' : right.world.bus.Sane)
    (emission : Emission) :
    Tandem allowed signalRoom slotRoom left.stack right.stack (left.beginEmission emission)
      (right.beginEmission emission) := by
  have alike := agree.world.bus
  have profiling : right.world.bus.profiling = left.world.bus.profiling := by rw [alike.same]; rfl
  have readings : right.world.readings = left.world.readings := by rw [agree.world.same]
  rw [Machine.beginEmission, Machine.beginEmission]
  rcases alike.parts with ⟨absent, shape⟩ | ⟨registry, registry', present, shape, both⟩
  · have absent' : right.world.bus.registry = none := by rw [shape]; rfl
    rw [absent, absent']
    exact agree.pushing (.reject _)
  · have present' : right.world.bus.registry = some registry' := by rw [shape]; rfl
    have formed := (sane.registry present).formed
    have formed' := (sane'.registry present').formed
    rw [present, present']
    rcases both.beginEmission formed formed' emission.name with
      ⟨fault, failed, failed'⟩ |
        ⟨next, next', signalRef, signalRef', head, head', begun, begun', kept, serial, heads⟩
    · simp only [failed, failed']
      exact agree.pushing (.reject fault)
    · simp only [begun, begun', profiling, readings]
      have buses := alike.setRegistry kept
      refine pushed ⟨?_, agree.events⟩ rfl rfl (.walk ?_) .proceed
      · refine ⟨buses, ?_⟩
        dsimp only [push, proceeding]
        rw [agree.world.same]
      · refine ⟨rfl, ⟨serial.symm, ?_, ?_⟩, fun _ => ?_, rfl, Walk.carries_of_idle rfl⟩
        · intro index signal found
          exact formed.beginEmission_home begun index signal found
        · intro index signal found
          exact formed'.beginEmission_home begun' index signal found
        · have placed : (left.world.bus.setRegistry next).registry = some next := rfl
          have placed' : (right.world.bus.setRegistry next').registry = some next' := rfl
          exact (Bus.handleAt?_of_some placed head).trans
            (heads.trans (Bus.handleAt?_of_some placed' head').symm)

/-! ## Connecting -/

/-- The effect of a connection is taken over, and its handle kept. -/
theorem settle
    (agree : left.Agree allowed signalRoom slotRoom right)
    {effect other : Effect}
    (effects :
      effect.Alike allowed signalRoom slotRoom other ∨
        effect.Outgrows signalRoom slotRoom other)
    (keep : KeepRequest) :
    Tandem allowed signalRoom slotRoom left.stack right.stack (left.settle keep effect)
      (right.settle keep other) := by
  rcases effects with alike | outgrows
  · have applied := agree.apply alike
    have result := alike.result
    rw [Machine.settle.eq_def, Machine.settle.eq_def]
    generalize effect.result = outcome at result ⊢
    generalize other.result = outcome' at result ⊢
    cases result with
    | fault cause => exact applied
    | @answer answer answer' agrees =>
        cases keep with
        | nowhere => cases answer <;> cases answer' <;> exact applied
        | unreadable complaint =>
            have complained :
                Effect.Alike allowed signalRoom slotRoom
                  { effect with result := .ok (.unreadable complaint) }
                  { other with result := .ok (.unreadable complaint) } :=
              ⟨alike.bus, alike.released, alike.allowed, .answer (.same _)⟩
            have applied := agree.apply complained
            cases answer <;> cases answer' <;> exact applied
        | under place =>
            cases agrees with
            | listing | memory | display => exact applied
            | same =>
                cases answer with
                | connected handle =>
                    have kept :
                        Agree allowed signalRoom slotRoom
                          { left with world := left.world.keep place handle }
                          { right with world := right.world.keep place handle } :=
                      ⟨agree.world.update (fun world => world.keep place handle)
                        agree.world.bus fun _ => rfl, agree.events⟩
                    exact kept.apply alike
                | done | flag | number | text | listing | timing | memory | batch | fault
                | panicked | unreadable => exact applied
  · refine .outgrown ?_ ?_
    · rw [bus_settle]
      exact outgrows.outgrown
    · rcases outgrows.refused with ⟨fault, result, pool⟩
      refine ⟨fault, pool, ?_⟩
      rw [Machine.settle.eq_def, result]
      dsimp only
      rw [apply_stack, Effect.last, result]
      exact List.mem_cons_of_mem _ List.mem_cons_self

/-- Two machines connect a callback. -/
theorem connect
    (agree : left.Agree allowed signalRoom slotRoom right)
    (sane : left.world.bus.Sane)
    (sane' : right.world.bus.Sane)
    (name : String)
    (callback : RoutineId)
    (priority : Option Priority)
    (request : Option ContextRequest)
    (carries : ∀ ticket given, issuedContext request ticket = some given → allowed given)
    (keep : KeepRequest) :
    Tandem allowed signalRoom slotRoom left.stack right.stack
      (left.connect name callback priority request keep)
      (right.connect name callback priority request keep) := by
  have tickets : right.world.tickets = left.world.tickets := by rw [agree.world.same]
  rw [connect_eq_settle, connect_eq_settle, tickets]
  have issued :
      Agree allowed signalRoom slotRoom (left.issuing request) (right.issuing request) := by
    refine ⟨⟨agree.world.bus, ?_⟩, agree.events⟩
    rw [issuing, issuing, tickets]
    dsimp only
    rw [agree.world.same]
  exact issued.settle
    (agree.world.bus.connect sane sane' name callback (carries left.world.tickets) priority) keep

/-! ## Starting an operation -/

/-- Two machines start the same operation. -/
theorem execute
    {program : Program}
    (agree : left.Agree (Context.Silent program) signalRoom slotRoom right)
    (sane : left.world.bus.Sane)
    (sane' : right.world.bus.Sane)
    (payload : Payload)
    {operation : Operation}
    (portable : operation.Portable program) :
    Tandem (Context.Silent program) signalRoom slotRoom left.stack right.stack
      (left.execute program payload operation) (right.execute program payload operation) := by
  have alike := agree.world.bus
  have shape := alike.same
  have other := agree.world.same
  have rest {α : Type} (part : Bus → α)
      (apart :
        ∀ bus registry, part (Bus.onPools bus signalRoom slotRoom registry) = part bus) :
      part right.world.bus = part left.world.bus := by
    rw [shape, apart]
  have elsewhere {α : Type} (part : World → α)
      (apart : ∀ world bus, part { world with bus := bus } = part world) :
      part right.world = part left.world := by
    rw [other, apart]
  cases operation with
  | init => exact agree.apply alike.init
  | cleanup => exact agree.apply (alike.cleanup sane sane')
  | register name description priority =>
      exact agree.apply_either (alike.register sane sane' (portable.1 name rfl) description _)
  | unregister name => exact agree.apply (alike.unregister sane sane' name)
  | connect name callback priority request keep =>
      refine agree.connect sane sane' name callback priority request ?_ keep
      intro ticket given asked ticket' label farewell same
      subst same
      rcases request with _ | ⟨value⟩ | ⟨label', farewell'⟩
      · cases asked
      · cases asked
      · cases asked
        exact portable.2 farewell rfl
  | disconnect name callback => exact agree.apply (alike.disconnect sane sane' name callback)
  | disconnectHandle source =>
      have handles : right.world.handleOf source = left.world.handleOf source :=
        elsewhere (fun world => world.handleOf source) fun _ _ => by cases source <;> rfl
      rw [Machine.execute, Machine.execute, handles]
      exact agree.apply (alike.disconnectHandle sane sane' _)
  | disconnectAll name => exact agree.apply (alike.disconnectAll sane sane' name)
  | emit emission => exact agree.beginEmission sane sane' emission
  | forward name => exact agree.beginEmission sane sane' ⟨name, payload⟩
  | emitIn space emission =>
      have names : right.world.bus.qualify space emission.name =
          left.world.bus.qualify space emission.name :=
        rest (fun bus => bus.qualify space emission.name) fun _ _ => rfl
      rw [Machine.execute, Machine.execute, names]
      exact agree.beginEmission sane sane' _
  | forwardDeferred name => exact agree.apply (alike.defer ⟨name, payload⟩)
  | defer emission => exact agree.apply (alike.defer emission)
  | emitDown request =>
      simp only [Machine.execute]
      split
      · cases request with
        | name name => exact agree.beginEmission sane sane' _
        | unreadable complaint => exact agree.answering (.same _)
      · exact agree.answering (.same _)
  | flush =>
      have length : right.world.bus.deferred.length = left.world.bus.deferred.length :=
        rest (fun bus => bus.deferred.length) fun _ _ => rfl
      rw [Machine.execute, Machine.execute, ← alike.isInitialized, length]
      split
      · exact agree.pushing (.flush _ _)
      · exact agree.pushing (.reject _)
  | interrupt name value =>
      have interrupts : right.world.bus.interrupts = left.world.bus.interrupts :=
        rest Bus.interrupts fun _ _ => rfl
      rw [Machine.execute, Machine.execute, interrupts]
      cases left.world.bus.interrupts.push name value with
      | error fault => exact agree.answering (.same _)
      | ok pushed =>
          have buses := alike.update (fun bus => { bus with interrupts := pushed }) rfl
            (fun _ => rfl) fun _ => rfl
          exact plainly ⟨agree.world.setBus buses, agree.events⟩ rfl rfl (.answer (.same _))
  | drain => exact agree.pushing (.drain 0 0)
  | setMaxSlots limit => exact agree.apply (alike.setMaxSlots limit)
  | setThreadSafe enabled => exact agree.apply (alike.setThreadSafe enabled)
  | setProfiling enabled => exact agree.apply (alike.setProfiling enabled)
  | setSpace space => exact agree.apply (alike.setSpace space)
  | setHook routine => exact agree.apply (alike.setHook routine)
  | timing name => exact agree.apply (alike.timing sane' name)
  | resetTiming => exact agree.apply (alike.resetTiming sane sane')
  | resetPeak => exact agree.apply alike.resetPeak
  | memoryStats => exact agree.apply alike.memoryStats
  | display => exact agree.answering alike.display
  | listing => exact agree.answering (.listing (alike.listing sane sane'))
  | isInitialized =>
      rw [Machine.execute, Machine.execute, ← alike.isInitialized]
      exact agree.answering (.same _)
  | contains name =>
      rw [Machine.execute, Machine.execute, ← alike.contains sane' name]
      exact agree.answering (.same _)
  | count =>
      rw [Machine.execute, Machine.execute, ← alike.count]
      exact agree.answering (.same _)
  | deferredLength =>
      rw [Machine.execute, Machine.execute, rest (fun bus => bus.deferred.length) fun _ _ => rfl]
      exact agree.answering (.same _)
  | space =>
      rw [Machine.execute, Machine.execute, rest Bus.space fun _ _ => rfl]
      exact agree.answering (.same _)
  | pendingInterrupts =>
      rw [Machine.execute, Machine.execute,
        rest (fun bus => bus.interrupts.pending) fun _ _ => rfl]
      exact agree.answering (.same _)
  | maxSlots =>
      rw [Machine.execute, Machine.execute, rest Bus.maxSlots fun _ _ => rfl]
      exact agree.answering (.same _)
  | isThreadSafe =>
      rw [Machine.execute, Machine.execute, rest (fun bus => bus.guard.enabled) fun _ _ => rfl]
      exact agree.answering (.same _)
  | isProfiling =>
      rw [Machine.execute, Machine.execute, rest Bus.profiling fun _ _ => rfl]
      exact agree.answering (.same _)
  | batchAdd name emission =>
      have batches : right.world.batchOf name = left.world.batchOf name :=
        elsewhere (fun world => world.batchOf name) fun _ _ => rfl
      rw [Machine.execute, Machine.execute, batches]
      refine plainly ⟨?_, agree.events⟩ rfl rfl (.answer (.same _))
      exact agree.world.update
        (fun world => world.setBatch name ((left.world.batchOf name).add emission)) alike
        fun _ => rfl
  | batchInfo name =>
      have batches : right.world.batchOf name = left.world.batchOf name :=
        elsewhere (fun world => world.batchOf name) fun _ _ => rfl
      rw [Machine.execute, Machine.execute, batches]
      exact agree.answering (.same _)
  | batchClear name =>
      refine plainly ⟨?_, agree.events⟩ rfl rfl (.answer (.same _))
      exact agree.world.update (fun world => world.setBatch name {}) alike fun _ => rfl
  | batchEmit name =>
      have batches : right.world.batchOf name = left.world.batchOf name :=
        elsewhere (fun world => world.batchOf name) fun _ _ => rfl
      rw [Machine.execute, Machine.execute, batches]
      exact agree.pushing (.batch _ _)
  | panic message => exact plainly ⟨agree.world, agree.events⟩ rfl rfl (.unwind message)
  | catching routine =>
      exact .plain ⟨agree.world, agree.events⟩ rfl rfl
        (.cons (.routine _ _ _) (.cons .catching .nil)) .proceed
  | unreadable complaint => exact agree.answering (.same _)

end Agree

end Machine

end SignalDispatch
