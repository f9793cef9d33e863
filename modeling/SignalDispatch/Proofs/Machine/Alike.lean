import SignalDispatch.Proofs.Bus.AlikeRoom
import SignalDispatch.Proofs.Machine.Reachability

/-!
# Machines that agree

`Machine.Alike` relates a machine whose bus is on growing storage to one whose bus is on pools.
Their buses are alike, the frames of their stacks are the same but for the places of signals and
slots, and what user code could observe agrees.

Two walks are alike when they are in the same registration and their cursors are at slots of the
same handle.  A move that retains both buses keeps the walks below alike, whatever else it does.
-/

namespace SignalDispatch

/-! ## Events -/

/-- Whether user code takes part in an event: it is called, or one of its commands is finished. -/
def Event.visible : Event → Bool
  | called _ _ _ _ => true
  | acted _ _ => true
  | hooked _ _ => true
  | released _ => false
  | logged _ => false

/-- Two events are the same, or the same command finished with answers that agree. -/
inductive Event.Agrees (signalRoom slotRoom : Nat) : Event → Event → Prop where
  | same (event : Event) : Agrees signalRoom slotRoom event event
  | acted (label : String) {answer other : Answer} :
      answer.Agrees signalRoom slotRoom other →
      Agrees signalRoom slotRoom (.acted label answer) (.acted label other)

namespace Machine

/-- The events that user code takes part in, the latest in front. -/
def observed (machine : Machine) : List Event :=
  machine.events.filter Event.visible

@[simp]
theorem observed_log (machine : Machine) (records : List LogRecord) :
    (machine.log records).observed = machine.observed := by
  have silent : (records.map Event.logged).reverse.filter Event.visible = [] := by
    rw [List.filter_reverse, List.filter_map]
    have dropped : records.filter (Event.visible ∘ Event.logged) = [] :=
      List.filter_eq_nil_iff.mpr fun _ _ => Bool.false_ne_true
    rw [dropped]
    rfl
  rw [observed, events_log, List.filter_append, silent]
  rfl

end Machine

/-! ## Walks -/

namespace Bus

/-- A registration is nowhere but at its index. -/
def Homed (bus : Bus) (signalRef : SignalRef) : Prop :=
  ∀ index signal, bus.signalAt index = some signal → signal.serial = signalRef.serial →
    index = signalRef.index

/-- The handle of the slot at a cursor. -/
def handleAt? (bus : Bus) (cursor : Option Nat) : Option Handle :=
  (cursor.bind bus.slotAt).map Slot.handle

theorem handleAt?_of_some
    {bus : Bus}
    {registry : Registry}
    (present : bus.registry = some registry)
    (cursor : Option Nat) :
    bus.handleAt? cursor = registry.handleAt? cursor := by
  have same : bus.slotAt = Registry.contentAt registry.slots := funext (slotAt_of_some present)
  rw [handleAt?, same, Registry.handleAt?]

theorem Retains.homed
    {before after : Bus}
    {depth : Nat → Nat → Nat}
    {signalRef : SignalRef}
    (retains : Retains depth before after)
    (known : signalRef.serial < before.nextSerial)
    (home : before.Homed signalRef) :
    after.Homed signalRef := by
  intro index signal found serial
  rcases retains.signals found with ⟨earlier, there, same, _⟩ | ⟨fresh, _⟩
  · exact home index earlier there (same.symm.trans serial)
  · omega

end Bus

/-- The same registration on two buses. -/
structure SignalRef.Alike (left right : Bus) (signalRef other : SignalRef) : Prop where
  serial : other.serial = signalRef.serial
  home : left.Homed signalRef
  home' : right.Homed other

/-- A registration is gone from two buses that are alike, or shown by both. -/
theorem SignalRef.Alike.places
    {allowed : Context → Prop}
    {signalRoom slotRoom : Nat}
    {left right : Bus}
    {signalRef other : SignalRef}
    (same : signalRef.Alike left right other)
    (alike : left.Alike allowed signalRoom slotRoom right) :
    (¬ left.Resolves signalRef ∧ ¬ right.Resolves other) ∨
      left.Resolves signalRef ∧ right.Resolves other ∧
        ∃ registry registry' signal,
          left.registry = some registry ∧ right.registry = some registry' ∧
            Registry.Alike allowed signalRoom slotRoom registry registry' ∧
            Registry.Coincides registry registry' signalRef.index other.index signal ∧
            signal.serial = signalRef.serial := by
  rcases alike.parts with ⟨absent, shape⟩ | ⟨registry, registry', present, shape, both⟩
  · have absent' : right.registry = none := by rw [shape]; rfl
    exact Or.inl ⟨Bus.not_resolves_of_none absent _, Bus.not_resolves_of_none absent' _⟩
  · have present' : right.registry = some registry' := by rw [shape]; rfl
    by_cases resolves : left.Resolves signalRef
    · rcases resolves with ⟨signal, found, serial⟩
      have view := found
      rw [Bus.signalAt_of_some present] at view
      rcases both.coincides view with ⟨there, coincide⟩
      have found' : right.signalAt there = some signal :=
        (Bus.signalAt_of_some present' there).trans coincide.inRight
      have place := same.home' there signal found' (serial.trans same.serial.symm)
      rw [place] at coincide found'
      exact Or.inr ⟨⟨signal, found, serial⟩, ⟨signal, found', serial.trans same.serial.symm⟩,
        registry, registry', signal, present, present', both, coincide, serial⟩
    · refine Or.inl ⟨resolves, ?_⟩
      rintro ⟨signal, found', serial⟩
      rw [Bus.signalAt_of_some present'] at found'
      rcases both.coincides_right found' with ⟨here, coincide⟩
      have found : left.signalAt here = some signal :=
        (Bus.signalAt_of_some present here).trans coincide.inLeft
      have place := same.home here signal found (serial.trans same.serial)
      rw [place] at found
      exact resolves ⟨signal, found, serial.trans same.serial⟩

/-- Of two slots with the same content both are there or none is. -/
theorem Slot.both_of_map_content
    {left right : Option Slot}
    (same : left.map Slot.content = right.map Slot.content) :
    left = none ∧ right = none ∨
      ∃ slot other, left = some slot ∧ right = some other ∧ slot.content = other.content := by
  cases left with
  | none => exact Or.inl ⟨rfl, Option.map_eq_none_iff.mp same.symm⟩
  | some slot =>
      rcases Option.map_eq_some_iff.mp same.symm with ⟨other, there, content⟩
      exact Or.inr ⟨slot, other, rfl, there, content.symm⟩

/-- Two walks in one registration, at slots of one handle, that are otherwise the same. -/
structure Walk.Alike
    (allowed : Context → Prop)
    (left right : Bus)
    (walk other : Walk) : Prop where
  same :
    other =
      { walk with
        signalRef := other.signalRef
        cursor := other.cursor
        running := other.running }
  signalRef : walk.signalRef.Alike left right other.signalRef
  cursor :
    left.Resolves walk.signalRef → left.handleAt? walk.cursor = right.handleAt? other.cursor
  running : walk.running.map Slot.content = other.running.map Slot.content
  carries : ∀ slot, walk.running = some slot → slot.Carries allowed

/-- A walk that runs no callback carries no context. -/
theorem Walk.carries_of_idle
    {allowed : Context → Prop}
    {walk : Walk}
    (idle : walk.running = none)
    (slot : Slot)
    (running : walk.running = some slot) :
    slot.Carries allowed := by
  rw [idle] at running
  cases running

/-- A walk goes on being where it is: its registration and its cursor mean what they meant. -/
structure Walk.Stays (before after : Bus) (walk : Walk) : Prop where
  home : before.Homed walk.signalRef → after.Homed walk.signalRef
  cursor :
    after.Resolves walk.signalRef →
      before.Resolves walk.signalRef ∧
        after.handleAt? walk.cursor = before.handleAt? walk.cursor

/-- What retains a bus leaves every walk where it is. -/
theorem Coherent.stays
    {before after : Bus}
    {walks later : List Walk}
    {depth : Nat → Nat → Nat}
    {walk : Walk}
    (coherent : Coherent before walks)
    (coherentAfter : Coherent after later)
    (retains : Bus.Retains depth before after)
    (member : walk ∈ walks)
    (still : walk ∈ later) :
    walk.Stays before after := by
  have known := coherent.known walk member
  refine ⟨retains.homed known, ?_⟩
  intro resolves
  have earlier : before.Resolves walk.signalRef := by
    rcases retains.resolves_before known resolves with ⟨signal, _, found, serial, _⟩
    exact ⟨signal, found, serial⟩
  refine ⟨earlier, ?_⟩
  cases cursor : walk.cursor with
  | none => rfl
  | some position =>
      have placed := coherent.cursors walk member earlier position cursor
      have placedAfter := coherentAfter.cursors walk still resolves position cursor
      rcases coherent.sane.slotAt_of_mem placed with ⟨slot, found⟩
      rcases coherentAfter.sane.slotAt_of_mem placedAfter with ⟨later, foundAfter⟩
      rw [Bus.handleAt?, Option.bind_some, foundAfter, Bus.handleAt?, Option.bind_some, found]
      rcases retains.slots foundAfter with ⟨kept, there, outlasts⟩ | ⟨vacant, _⟩
      · rw [found, Option.some.injEq] at there
        rw [Option.map_some, Option.map_some, there, outlasts.handle_eq]
      · rw [found] at vacant
        cases vacant

/-- Walks that stay where they are go on being alike. -/
theorem Walk.Alike.retain
    {allowed : Context → Prop}
    {signalRoom slotRoom : Nat}
    {left right nextLeft nextRight : Bus}
    {walk other : Walk}
    (walks : Walk.Alike allowed left right walk other)
    (alike : nextLeft.Alike allowed signalRoom slotRoom nextRight)
    (stays : walk.Stays left nextLeft)
    (stays' : other.Stays right nextRight) :
    Walk.Alike allowed nextLeft nextRight walk other := by
  have signalRef : walk.signalRef.Alike nextLeft nextRight other.signalRef :=
    ⟨walks.signalRef.serial, stays.home walks.signalRef.home, stays'.home walks.signalRef.home'⟩
  refine ⟨walks.same, signalRef, ?_, walks.running, walks.carries⟩
  intro resolves
  rcases stays.cursor resolves with ⟨before, same⟩
  rcases signalRef.places alike with ⟨gone, _⟩ | ⟨_, resolves', _⟩
  · exact absurd resolves gone
  · rw [same, (stays'.cursor resolves').2, walks.cursor before]

/-! ## Frames -/

/-- Two frames that have the same to do. -/
inductive Frame.Alike
    (allowed : Context → Prop)
    (signalRoom slotRoom : Nat)
    (left right : Bus) : Frame → Frame → Prop where
  | routine (commands : List Command) (payload : Payload) (turn : Nat) :
      Alike allowed signalRoom slotRoom left right (.routine commands payload turn)
        (.routine commands payload turn)
  | walk {walk other : Walk} :
      walk.Alike allowed left right other →
      Alike allowed signalRoom slotRoom left right (.walk walk) (.walk other)
  | conclude (records records' : List LogRecord) {answer other : Answer} :
      answer.Agrees signalRoom slotRoom other →
      Alike allowed signalRoom slotRoom left right (.conclude records answer)
        (.conclude records' other)
  | reject (fault : Fault) :
      Alike allowed signalRoom slotRoom left right (.reject fault) (.reject fault)
  | flush (remaining delivered : Nat) :
      Alike allowed signalRoom slotRoom left right (.flush remaining delivered)
        (.flush remaining delivered)
  | drain (position delivered : Nat) :
      Alike allowed signalRoom slotRoom left right (.drain position delivered)
        (.drain position delivered)
  | batch (entries : List Emission) (first : Option Fault) :
      Alike allowed signalRoom slotRoom left right (.batch entries first) (.batch entries first)
  | catching : Alike allowed signalRoom slotRoom left right .catching .catching

/-- Frames whose walks stay where they are go on being alike. -/
theorem frames_retain
    {allowed : Context → Prop}
    {signalRoom slotRoom : Nat}
    {left right nextLeft nextRight : Bus}
    {frames others : List Frame}
    (alike : List.Forall₂ (Frame.Alike allowed signalRoom slotRoom left right) frames others)
    (buses : nextLeft.Alike allowed signalRoom slotRoom nextRight)
    (stays : ∀ walk ∈ frames.filterMap Frame.walk?, walk.Stays left nextLeft)
    (stays' : ∀ walk ∈ others.filterMap Frame.walk?, walk.Stays right nextRight) :
    List.Forall₂ (Frame.Alike allowed signalRoom slotRoom nextLeft nextRight) frames others := by
  induction alike with
  | nil => exact .nil
  | cons first _ ih =>
      cases first with
      | walk walks =>
          refine .cons (.walk (walks.retain buses (stays _ ?_) (stays' _ ?_))) (ih ?_ ?_)
          · exact List.mem_cons_self
          · exact List.mem_cons_self
          · exact fun walk member => stays walk (List.mem_cons_of_mem _ member)
          · exact fun walk member => stays' walk (List.mem_cons_of_mem _ member)
      | routine commands payload turn =>
          exact .cons (.routine commands payload turn) (ih stays stays')
      | conclude records records' agrees =>
          exact .cons (.conclude records records' agrees) (ih stays stays')
      | reject fault => exact .cons (.reject fault) (ih stays stays')
      | flush remaining delivered => exact .cons (.flush remaining delivered) (ih stays stays')
      | drain position delivered => exact .cons (.drain position delivered) (ih stays stays')
      | batch entries fault => exact .cons (.batch entries fault) (ih stays stays')
      | catching => exact .cons .catching (ih stays stays')

/-- The same contexts are owned by frames that are alike. -/
theorem Frame.Alike.contexts_eq
    {allowed : Context → Prop}
    {signalRoom slotRoom : Nat}
    {left right : Bus}
    {frame other : Frame}
    (alike : Frame.Alike allowed signalRoom slotRoom left right frame other) :
    frame.contexts = other.contexts := by
  cases alike with
  | walk walks =>
      rw [Frame.contexts, Frame.contexts]
      rcases Slot.both_of_map_content walks.running with
        ⟨idle, idle'⟩ | ⟨slot, slot', calling, calling', content⟩
      · rw [idle, idle']
      · have same : slot.content.context = slot'.content.context := by rw [content]
        rw [calling, calling']
        exact congrArg Option.toList same
  | routine | conclude | reject | flush | drain | batch | catching => rfl

/-! ## Machines -/

/-- How the innermost frames go on is the same. -/
inductive Control.Alike (signalRoom slotRoom : Nat) : Control → Control → Prop where
  | proceed : Alike signalRoom slotRoom .proceed .proceed
  | answer {answer other : Answer} :
      answer.Agrees signalRoom slotRoom other →
      Alike signalRoom slotRoom (.answer answer) (.answer other)
  | unwind (message : String) : Alike signalRoom slotRoom (.unwind message) (.unwind message)

/-- Worlds with buses that are alike, and the same otherwise. -/
structure World.Alike
    (allowed : Context → Prop)
    (signalRoom slotRoom : Nat)
    (left right : World) : Prop where
  bus : left.bus.Alike allowed signalRoom slotRoom right.bus
  same : right = { left with bus := right.bus }

namespace Machine

/-- What two machines have in common apart from what is left to be done. -/
structure Agree
    (allowed : Context → Prop)
    (signalRoom slotRoom : Nat)
    (left right : Machine) : Prop where
  world : left.world.Alike allowed signalRoom slotRoom right.world
  events : List.Forall₂ (Event.Agrees signalRoom slotRoom) left.observed right.observed

/-- Two machines have the same to do and have observed the same. -/
structure Alike
    (allowed : Context → Prop)
    (signalRoom slotRoom : Nat)
    (left right : Machine) : Prop
    extends Agree allowed signalRoom slotRoom left right where
  stack :
    List.Forall₂ (Frame.Alike allowed signalRoom slotRoom left.world.bus right.world.bus)
      left.stack right.stack
  control : left.control.Alike signalRoom slotRoom right.control

end Machine

end SignalDispatch
