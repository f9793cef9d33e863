import SignalDispatch.Proofs.Bus.Resemblance
import SignalDispatch.Proofs.Machine.Lockstep

/-!
# Machines that go the same way

Two machines resemble each other if their worlds do, if they have the same frames and if they have
told the same so far, up to the numbers of handles and to what is not seen of times.  What an
operation comes back with is compared by the operation that was asked for: it is in front of the
frame that waits, and `awaited` is where a stack waits for it.
-/

namespace SignalDispatch

/-! ## Events -/

/-- Whether an event is a record in the log. -/
def Event.isRecord : Event → Bool
  | logged _ => true
  | _ => false

/-- The same happens, with handles that go along. -/
inductive Event.Resembles (view : View) : Event → Event → Prop where
  | called
      (handle : Handle)
      (callback : RoutineId)
      (payload : Payload)
      (context : Option Context) :
      Resembles view (.called (handle.seen view) callback payload context)
        (.called handle callback payload context)
  | acted (label : String) (asked : Option Operation) {answer other : Answer} :
      answer.Resembles view asked other →
      Resembles view (.acted label answer) (.acted label other)
  | hooked (asked : Option Operation) {fault other : Fault} :
      fault.Resembles view asked other →
      Resembles view (.hooked fault.kind fault.message) (.hooked other.kind other.message)
  | released (label : String) : Resembles view (.released label) (.released label)

theorem Event.Resembles.isRecord_eq
    {view : View}
    {event other : Event}
    (same : event.Resembles view other) :
    event.isRecord = false ∧ other.isRecord = false := by
  cases same <;> exact ⟨rfl, rfl⟩

/-! ## Frames -/

/-- The operation that a frame waits for, if it is user code. -/
def Frame.awaits : Frame → Option Operation
  | .routine (command :: _) _ _ => some command.operation
  | _ => none

/-- The operation that a stack waits for: the one that its innermost frame started, or the one that
the session has asked for. -/
def awaited (asked : Option Operation) : List Frame → Option Operation
  | [] => asked
  | frame :: _ => frame.awaits

/-- Two emissions at the same place, of registrations that go along. -/
structure Walk.Resembles (view : View) (walk other : Walk) : Prop where
  name : walk.name = other.name
  payload : walk.payload = other.payload
  signalRef : walk.signalRef = other.signalRef.seen view
  cursor : walk.cursor = other.cursor
  invoked : walk.invoked = other.invoked
  startedAt : view.timed = true → walk.startedAt = other.startedAt
  running : walk.running = other.running.map (Slot.seen view)

/-- Two frames that have the same to do, where they come back to what was asked for. -/
inductive Frame.Resembles (view : View) (asked : Option Operation) : Frame → Frame → Prop where
  | routine (commands : List Command) (payload : Payload) (turn : Nat) :
      Resembles view asked (.routine commands payload turn) (.routine commands payload turn)
  | walk {walk other : Walk} :
      walk.Resembles view other →
      Resembles view asked (.walk walk) (.walk other)
  | release (contexts : List Context) (panic : Option String) :
      Resembles view asked (.release contexts panic) (.release contexts panic)
  | conclude (records records' : List LogRecord) {answer other : Answer} :
      answer.Resembles view asked other →
      Resembles view asked (.conclude records answer) (.conclude records' other)
  | reject {fault other : Fault} :
      fault.Resembles view asked other →
      Resembles view asked (.reject fault) (.reject other)
  | flush (remaining delivered : Nat) :
      Resembles view asked (.flush remaining delivered) (.flush remaining delivered)
  | drain (position delivered : Nat) :
      Resembles view asked (.drain position delivered) (.drain position delivered)
  | batch (entries : List Emission) (first : Option Fault) :
      asked.any Operation.namesHandle = false →
      Resembles view asked (.batch entries first) (.batch entries first)
  | catching : Resembles view asked .catching .catching

/-- The same contexts are owned by frames that resemble each other. -/
theorem Frame.Resembles.contexts_eq
    {view : View}
    {asked : Option Operation}
    {frame other : Frame}
    (same : frame.Resembles view asked other) :
    frame.contexts = other.contexts := by
  cases same with
  | walk walks =>
      rw [Frame.contexts, walks.running, Option.bind_map, Frame.contexts]
      rfl
  | routine | release | conclude | reject | flush | drain | batch | catching => rfl

/-- Stacks of frames that resemble each other, each by what the frames below wait for. -/
inductive FramesResemble (view : View) (asked : Option Operation) :
    List Frame → List Frame → Prop where
  | nil : FramesResemble view asked [] []
  | cons {frame other : Frame} {below below' : List Frame} :
      frame.Resembles view (awaited asked below) other →
      FramesResemble view asked below below' →
      FramesResemble view asked (frame :: below) (other :: below')

theorem FramesResemble.length_eq
    {view : View}
    {asked : Option Operation}
    {frames others : List Frame}
    (same : FramesResemble view asked frames others) :
    frames.length = others.length := by
  induction same with
  | nil => rfl
  | cons _ _ ih => exact congrArg (· + 1) ih

/-- How the innermost frames go on is the same. -/
inductive Control.Resembles (view : View) (asked : Option Operation) :
    Control → Control → Prop where
  | proceed : Resembles view asked .proceed .proceed
  | answer {answer other : Answer} :
      answer.Resembles view asked other →
      Resembles view asked (.answer answer) (.answer other)
  | unwind (message : String) : Resembles view asked (.unwind message) (.unwind message)
  | aborted : Resembles view asked .aborted .aborted

/-! ## Worlds -/

/-- Worlds with buses that resemble each other.  Every handle that is kept in the second one is kept
in the first one too, as it is seen; if nothing but times is not seen, the same handles are kept. -/
structure World.Resembles (view : View) (left right : World) : Prop where
  bus : left.bus.Resembles view right.bus
  calls : left.calls = right.calls
  tickets : left.tickets = right.tickets
  kept :
    ∀ name handle, right.kept.lookup name = some handle →
      left.kept.lookup name = some (handle.seen view)
  same : view.timed = false → left.kept = right.kept
  batches : left.batches = right.batches
  readings : view.timed = true → left.readings = right.readings

/-- Whether an operation names a slot only by a handle that is kept. -/
def World.namesKept (world : World) : Operation → Bool
  | .disconnectHandle (.number _) => false
  | .disconnectHandle (.kept name) => (world.kept.lookup name).isSome
  | _ => true

/-- Where handles are seen as others, an operation names only handles that are kept. -/
def World.Knows (view : View) (world : World) (operation : Operation) : Prop :=
  view.timed = true → world.namesKept operation = true

/-- A handle that is known goes along. -/
theorem World.Resembles.handleOf
    {view : View}
    {left right : World}
    {source : HandleSource}
    (same : left.Resembles view right)
    (known : right.Knows view (.disconnectHandle source)) :
    left.handleOf source = (right.handleOf source).seen view := by
  cases view with
  | untimed =>
      rw [Handle.seen_untimed]
      cases source with
      | number value => rfl
      | kept name => rw [World.handleOf, same.same rfl, World.handleOf]
  | shifted handles serials =>
      have named := known rfl
      cases source with
      | number value => cases named
      | kept name =>
          rcases Option.isSome_iff_exists.mp named with ⟨handle, found⟩
          rw [World.handleOf, World.handleOf, same.kept name handle found, found]
          rfl

theorem lookup_filter_ne
    {β : Type}
    {place name : String}
    (entries : List (String × β))
    (other : name ≠ place) :
    (entries.filter fun entry => entry.1 != place).lookup name = entries.lookup name := by
  induction entries with
  | nil => rfl
  | cons entry rest ih =>
      rcases entry with ⟨first, value⟩
      by_cases same : first = place
      · have apart : (name == first) = false := beq_false_of_ne (same ▸ other)
        rw [List.filter_cons_of_neg (by simp [same]), ih, List.lookup_cons, apart]
      · rw [List.filter_cons_of_pos (by simp [same]), List.lookup_cons, List.lookup_cons, ih]

/-- Keeping a handle and the one that goes along. -/
theorem World.Resembles.keep
    {view : View}
    {left right : World}
    (same : left.Resembles view right)
    (place : String)
    (handle : Handle) :
    (left.keep place (handle.seen view)).Resembles view (right.keep place handle) := by
  have found (world : World) (handle : Handle) (name : String) :
      (world.keep place handle).kept.lookup name =
        if name = place then some handle else world.kept.lookup name := by
    simp only [World.keep, List.lookup_cons]
    by_cases here : name = place
    · simp [here]
    · rw [if_neg here, beq_false_of_ne here]
      exact lookup_filter_ne world.kept here
  refine { same with kept := ?_, same := ?_ }
  · intro name kept there
    rw [found] at there ⊢
    split at there
    next here => rw [if_pos here, ← Option.some.inj there]
    next elsewhere => rw [if_neg elsewhere, same.kept name kept there]
  · intro untimed
    have still : handle.seen view = handle := by
      cases view with
      | shifted handles serials => cases untimed
      | untimed => exact Handle.seen_untimed handle
    rw [World.keep, World.keep, same.same untimed, still]

/-! ## Machines -/

namespace Machine

/-- What has been observed apart from the log, the latest in front. -/
def told (machine : Machine) : List Event :=
  machine.events.filter fun event => !event.isRecord

/-- Two machines that have the same frames and have told the same. -/
structure Pairs (view : View) (asked : Option Operation) (left right : Machine) : Prop where
  world : left.world.Resembles view right.world
  stack : FramesResemble view asked left.stack right.stack
  events : List.Forall₂ (Event.Resembles view) left.told right.told

/-- Two machines that go the same way. -/
structure Resembles (view : View) (asked : Option Operation) (left right : Machine) : Prop
    extends Pairs view asked left right where
  control : left.control.Resembles view (awaited asked left.stack) right.control

theorem told_log (machine : Machine) (records : List LogRecord) :
    (machine.log records).told = machine.told := by
  have silent :
      (records.map Event.logged).reverse.filter (fun event => !event.isRecord) = [] := by
    rw [List.filter_eq_nil_iff]
    intro event member
    rcases List.mem_map.mp (List.mem_reverse.mp member) with ⟨record, _, rfl⟩
    exact Bool.false_ne_true
  rw [told, events_log, List.filter_append, silent]
  rfl

namespace Pairs

variable {view : View} {asked : Option Operation} {left right : Machine}

theorem push
    {frame other : Frame}
    (pairs : Pairs view asked left right)
    (frames : frame.Resembles view (awaited asked left.stack) other) :
    Pairs view asked (left.push frame) (right.push other) :=
  ⟨pairs.world, .cons frames pairs.stack, pairs.events⟩

theorem observe
    {event other : Event}
    (pairs : Pairs view asked left right)
    (same : event.Resembles view other) :
    Pairs view asked (left.observe event) (right.observe other) := by
  refine ⟨pairs.world, pairs.stack, ?_⟩
  have plain := same.isRecord_eq
  have tells (machine : Machine) (event : Event) (plain : event.isRecord = false) :
      (machine.observe event).told = event :: machine.told :=
    List.filter_cons_of_pos (by simp [plain])
  rw [tells left event plain.1, tells right other plain.2]
  exact .cons same pairs.events

theorem log
    (pairs : Pairs view asked left right)
    (records records' : List LogRecord) :
    Pairs view asked (left.log records) (right.log records') := by
  refine ⟨?_, ?_, ?_⟩
  · rw [world_log, world_log]
    exact pairs.world
  · rw [stack_log, stack_log]
    exact pairs.stack
  · rw [told_log, told_log]
    exact pairs.events

theorem setWorld
    {world world' : World}
    (pairs : Pairs view asked left right)
    (worlds : world.Resembles view world') :
    Pairs view asked { left with world := world } { right with world := world' } :=
  ⟨worlds, pairs.stack, pairs.events⟩

theorem setBus
    {bus bus' : Bus}
    (pairs : Pairs view asked left right)
    (buses : bus.Resembles view bus') :
    Pairs view asked (left.setBus bus) (right.setBus bus') :=
  pairs.setWorld { pairs.world with bus := buses }

theorem proceeding (pairs : Pairs view asked left right) :
    Resembles view asked left.proceeding right.proceeding :=
  ⟨⟨pairs.world, pairs.stack, pairs.events⟩, .proceed⟩

theorem answering
    {answer other : Answer}
    (pairs : Pairs view asked left right)
    (answers : answer.Resembles view (awaited asked left.stack) other) :
    Resembles view asked (left.answering answer) (right.answering other) :=
  ⟨⟨pairs.world, pairs.stack, pairs.events⟩, .answer answers⟩

theorem unwinding (pairs : Pairs view asked left right) (message : String) :
    Resembles view asked (left.unwinding message) (right.unwinding message) :=
  ⟨⟨pairs.world, pairs.stack, pairs.events⟩, .unwind message⟩

end Pairs

end Machine

end SignalDispatch
