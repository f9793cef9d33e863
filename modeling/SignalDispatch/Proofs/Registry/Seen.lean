import SignalDispatch.Proofs.Storage.Mapping
import SignalDispatch.Registry.Registration
import SignalDispatch.Registry.Report
import SignalDispatch.Registry.Walk

/-!
# Registries seen with other numbers

The numbers of handles and registrations mean nothing but which of them are equal, and the times of
emissions are only reported.  `Registry.seen` is a registry with its numbers moved up, or without
its times.  Whatever is done to a registry as it is seen is what was done to the registry, as it is
seen: places, chains and counts are the same, and the numbers go along.
-/

namespace SignalDispatch

/-- How a session looks next to another one. -/
inductive View where
  /-- As if so many handles and serials had been drawn before. -/
  | shifted (handles serials : Nat)
  /-- As if no emission were timed. -/
  | untimed
  deriving DecidableEq, Repr, Inhabited

namespace View

/-- The handles that have been drawn before. -/
def handles : View → Nat
  | shifted handles _ => handles
  | untimed => 0

/-- The serials that have been drawn before. -/
def serials : View → Nat
  | shifted _ serials => serials
  | untimed => 0

/-- Whether times are seen. -/
def timed : View → Bool
  | shifted _ _ => true
  | untimed => false

/-- The view of the other session: nothing has been drawn before it. -/
def still : View → View
  | shifted _ _ => shifted 0 0
  | untimed => untimed

/-- A time as it is seen. -/
def time? (view : View) (elapsed : Option Nat) : Option Nat :=
  if view.timed then elapsed else none

/-- The times of a signal as they are seen. -/
def timing (view : View) (timing : Timing) : Timing :=
  if view.timed then timing else {}

@[simp]
theorem handles_still (view : View) : view.still.handles = 0 := by
  cases view <;> rfl

@[simp]
theorem serials_still (view : View) : view.still.serials = 0 := by
  cases view <;> rfl

@[simp]
theorem timed_still (view : View) : view.still.timed = view.timed := by
  cases view <;> rfl

theorem time?_still (view : View) (elapsed : Option Nat) :
    view.still.time? elapsed = view.time? elapsed := by
  rw [time?, timed_still, time?]

theorem timing_still (view : View) (timing : Timing) :
    view.still.timing timing = view.timing timing := by
  rw [View.timing, timed_still, View.timing]

@[simp]
theorem timing_zero (view : View) : view.timing {} = {} := by
  rw [timing]
  split <;> rfl

/-- The times of a signal after one more emission. -/
theorem timing_record (view : View) (timing : Timing) (elapsed : Option Nat) :
    view.timing
        (match elapsed with
        | none => timing
        | some elapsed => timing.record elapsed) =
      match view.time? elapsed with
      | none => view.timing timing
      | some elapsed => (view.timing timing).record elapsed := by
  cases view with
  | shifted handles serials => cases elapsed <;> rfl
  | untimed => cases elapsed <;> rfl

end View

/-! ## Numbers -/

/-- A handle as it is seen; the one that is never issued stays. -/
def Handle.seen (view : View) (handle : Handle) : Handle :=
  if handle.isValid then ⟨handle.number + view.handles⟩ else handle

namespace Handle

variable (view : View)

theorem number_seen_eq_zero_iff (handle : Handle) :
    (handle.seen view).number = 0 ↔ handle.number = 0 := by
  rw [seen]
  split
  next valid =>
    simp only [isValid, decide_eq_true_eq] at valid
    dsimp only
    omega
  next => exact Iff.rfl

@[simp]
theorem isValid_seen (handle : Handle) : (handle.seen view).isValid = handle.isValid := by
  rw [isValid, isValid]
  exact decide_eq_decide.mpr (not_congr (number_seen_eq_zero_iff view handle))

@[simp]
theorem seen_still (handle : Handle) : handle.seen view.still = handle := by
  rw [seen]
  split
  · rw [View.handles_still, Nat.add_zero]
  · rfl

/-- Where only times are not seen, every handle is. -/
@[simp]
theorem seen_untimed (handle : Handle) : handle.seen .untimed = handle :=
  seen_still .untimed handle

theorem seen_of_pos {number : Nat} (issued : 0 < number) :
    (⟨number⟩ : Handle).seen view = ⟨number + view.handles⟩ :=
  if_pos (by simp only [isValid, decide_eq_true_eq]; omega)

/-- Different handles are seen as different ones. -/
theorem seen_inj {handle other : Handle} : handle.seen view = other.seen view ↔ handle = other := by
  constructor
  · intro same
    have issued := number_seen_eq_zero_iff view handle
    have issued' := number_seen_eq_zero_iff view other
    have numbers := congrArg Handle.number same
    rw [seen, seen] at numbers
    rw [same, issued'] at issued
    rcases handle with ⟨number⟩
    rcases other with ⟨number'⟩
    simp only [isValid, decide_eq_true_eq, ne_eq] at numbers issued
    split at numbers <;> split at numbers <;> simp only [mk.injEq] <;> dsimp only at numbers <;>
      omega
  · intro same
    rw [same]

@[simp]
theorem seen_beq (handle other : Handle) :
    (handle.seen view == other.seen view) = (handle == other) :=
  decide_eq_decide.mpr (seen_inj view)

end Handle

/-- A slot as it is seen. -/
def Slot.seen (view : View) (slot : Slot) : Slot :=
  { slot with handle := slot.handle.seen view }

/-- A signal as it is seen. -/
def Signal.seen (view : View) (signal : Signal) : Signal :=
  { signal with
    serial := signal.serial + view.serials
    timing := view.timing signal.timing }

/-- A registration as it is seen. -/
def SignalRef.seen (view : View) (signalRef : SignalRef) : SignalRef :=
  { signalRef with serial := signalRef.serial + view.serials }

/-- A reading of a chain as it is seen. -/
def SlotReading.seen (view : View) (reading : SlotReading) : SlotReading :=
  { reading with target := reading.target.map (Slot.seen view) }

@[simp]
theorem SignalRef.seen_still (view : View) (signalRef : SignalRef) :
    signalRef.seen view.still = signalRef := by
  rw [seen, View.serials_still, Nat.add_zero]

namespace Registry

/-- A registry as it is seen. -/
def seen (view : View) (registry : Registry) : Registry :=
  { registry with
    signals := registry.signals.map (Signal.seen view)
    slots := registry.slots.map (Slot.seen view) }

/-- What a removal leaves and lets go of, as it is seen. -/
def removalSeen (view : View) (removal : Registry × List Slot) : Registry × List Slot :=
  (removal.1.seen view, removal.2.map (Slot.seen view))

variable (view : View) (registry : Registry)

@[simp]
theorem seen_empty (signalPolicy slotPolicy : StoragePolicy) :
    (empty signalPolicy slotPolicy).seen view = empty signalPolicy slotPolicy := by
  simp [seen, empty]

@[simp]
theorem signal_seen (index : Nat) :
    (registry.seen view).signals.get? index =
      (registry.signals.get? index).map (Signal.seen view) :=
  Arena.get?_map _ _ _

@[simp]
theorem slot_seen (position : Nat) :
    (registry.seen view).slots.get? position =
      (registry.slots.get? position).map (Slot.seen view) :=
  Arena.get?_map _ _ _

/-! ## Chains -/

theorem follow_seen (slots : Arena Slot) (limit : Nat) (start : Option Nat) :
    follow (slots.map (Slot.seen view)) limit start = follow slots limit start := by
  induction limit generalizing start with
  | zero => rfl
  | succ limit ih =>
      cases start with
      | none => rfl
      | some index =>
          rw [follow, follow, Arena.get?_map]
          cases slots.get? index with
          | none => rfl
          | some slot => exact congrArg (index :: ·) (ih slot.next)

@[simp]
theorem chain_seen (index : Nat) : (registry.seen view).chain index = registry.chain index := by
  rw [chain, chain, signal_seen]
  cases registry.signals.get? index with
  | none => rfl
  | some signal =>
      have reserved := Arena.reserved_map registry.slots (Slot.seen view)
      simp only [Option.map_some, chainFrom, seen, reserved]
      exact follow_seen view registry.slots _ _

theorem thread_seen (slots : Arena Slot) (order : List Nat) :
    thread (slots.map (Slot.seen view)) order = (thread slots order).map (Slot.seen view) := by
  induction order generalizing slots with
  | nil => rfl
  | cons index rest ih =>
      rw [thread, thread, ← ih,
        Arena.map_modify slots _ (fun slot => { slot with next := rest.head? }) (fun _ => rfl)
          index]

/-- A change of one signal that treats the signal as it is seen the same way. -/
theorem signals_modify_seen
    (change : Signal → Signal)
    (same : ∀ signal, (change signal).seen view = change (signal.seen view))
    (index : Nat) :
    (registry.seen view).signals.modify index change =
      (registry.signals.modify index change).map (Signal.seen view) :=
  (Arena.map_modify registry.signals change change same index).symm

theorem modify_signal_seen
    (change : Signal → Signal)
    (same : ∀ signal, (change signal).seen view = change (signal.seen view))
    (index : Nat) :
    ({ registry.seen view with signals := (registry.seen view).signals.modify index change } :
        Registry) =
      Registry.seen view { registry with signals := registry.signals.modify index change } := by
  rw [signals_modify_seen view registry change same]
  rfl

@[simp]
theorem relink_seen (index : Nat) (order : List Nat) :
    (registry.seen view).relink index order = (registry.relink index order).seen view := by
  rw [relink,
    signals_modify_seen view registry (fun signal => { signal with head := order.head? })
      (fun _ => rfl),
    relink]
  exact congrArg (fun slots => (⟨_, slots, registry.peakSlots⟩ : Registry))
    (thread_seen view registry.slots order)

/-! ## Looking up -/

@[simp]
theorem find?_seen (name : String) : (registry.seen view).find? name = registry.find? name := by
  rw [find?, find?, seen, Arena.toList_map, List.find?_map, Option.map_map]
  rfl

@[simp]
theorem lookup_seen (name : String) : (registry.seen view).lookup name = registry.lookup name := by
  rw [lookup, lookup, find?_seen]

@[simp]
theorem count_seen : (registry.seen view).count = registry.count :=
  rfl

/-- The first live slot that a test accepts, if the test treats slots as they are seen the same. -/
theorem firstLive?_seen
    {accepts accepts' : Slot → Bool}
    (same : ∀ slot, accepts' (slot.seen view) = accepts slot)
    (index : Nat) :
    (registry.seen view).firstLive? index accepts' = registry.firstLive? index accepts := by
  rw [firstLive?, firstLive?, chain_seen]
  refine congrArg (fun test => (registry.chain index).find? test) (funext fun position => ?_)
  rw [slot_seen]
  cases registry.slots.get? position with
  | none => rfl
  | some slot => exact congrArg (!slot.removed && ·) (same slot)

@[simp]
theorem owner?_seen (handle : Handle) :
    (registry.seen view).owner? (handle.seen view) = registry.owner? handle := by
  have tests (index : Nat) :
      (registry.seen view).firstLive? index (fun slot => slot.handle == handle.seen view) =
        registry.firstLive? index fun slot => slot.handle == handle :=
    firstLive?_seen view registry (fun slot => Handle.seen_beq view slot.handle handle) index
  simp only [owner?, tests]
  rw [seen, Arena.toList_map, List.find?_map, Option.map_map]
  rfl

/-! ## Registering and connecting -/

/-- Registering with a serial as it is seen. -/
theorem register_seen
    (name : String)
    (description : Option String)
    (priority : Priority)
    (serial : Nat) :
    (registry.seen view).register name description priority (serial + view.serials) =
      (registry.register name description priority serial).map (Registry.seen view) := by
  have fresh :
      ({ name := name, description := description, priority := priority,
         serial := serial + view.serials } : Signal) =
        Signal.seen view
          { name := name, description := description, priority := priority, serial := serial } := by
    rw [Signal.seen, View.timing_zero]
  rw [register, register, find?_seen]
  split
  · rfl
  · dsimp only
    rw [fresh, seen, Arena.insert_map]
    cases registry.signals.insert
        { name := name, description := description, priority := priority, serial := serial } with
    | error fault => rfl
    | ok stored => rfl

@[simp]
theorem grant_seen (index limit : Nat) :
    (registry.seen view).grant index limit = registry.grant index limit := by
  have room := Arena.reserve_map registry.slots (Slot.seen view)
  rw [grant, grant, signal_seen]
  cases registry.signals.get? index with
  | none => rfl
  | some signal =>
      simp only [Option.map_some, seen, room]
      rfl

@[simp]
theorem precedes_seen (slots : Arena Slot) (priority : Priority) :
    precedes (slots.map (Slot.seen view)) priority = precedes slots priority := by
  funext position
  rw [precedes, precedes, Arena.get?_map]
  cases slots.get? position <;> rfl

@[simp]
theorem ordered_seen
    (slots : Arena Slot)
    (priority : Priority)
    (position : Nat)
    (order : List Nat) :
    ordered (slots.map (Slot.seen view)) priority position order =
      ordered slots priority position order := by
  rw [ordered, ordered, precedes_seen]

/-- Connecting a slot as it is seen. -/
theorem attach_seen (index : Nat) (slot : Slot) :
    (registry.seen view).attach index (slot.seen view) =
      (registry.attach index slot).map (Registry.seen view) := by
  have stored : (registry.seen view).slots.insert (slot.seen view) =
      (registry.slots.insert slot).map fun stored => (stored.1, stored.2.map (Slot.seen view)) :=
    Arena.insert_map registry.slots (Slot.seen view) slot
  have order (position : Nat) :
      ordered (registry.seen view).slots (slot.seen view).priority position
          (registry.chain index) =
        ordered registry.slots slot.priority position (registry.chain index) :=
    ordered_seen view registry.slots slot.priority position _
  rw [attach, stored, attach]
  cases registry.slots.insert slot with
  | error fault => rfl
  | ok stored =>
      rcases stored with ⟨position, slots⟩
      have relinked (order : List Nat) :
          Registry.relink { registry.seen view with slots := slots.map (Slot.seen view) } index
              order =
            (Registry.relink { registry with slots := slots } index order).seen view :=
        relink_seen view { registry with slots := slots } index order
      simp only [Except.map, chain_seen, order, relinked]
      rw [signals_modify_seen view _ (fun signal => { signal with live := signal.live + 1 })
        (fun _ => rfl)]
      rfl

/-! ## Removing -/

theorem freeChain_seen (index : Nat) :
    (registry.seen view).freeChain index = removalSeen view (registry.freeChain index) := by
  have removed : (registry.seen view).slots.removeAll (registry.chain index) =
      ((registry.slots.removeAll (registry.chain index)).1.map (Slot.seen view),
        (registry.slots.removeAll (registry.chain index)).2.map (Slot.seen view)) :=
    Arena.removeAll_map registry.slots (Slot.seen view) _
  rw [freeChain, chain_seen, removed,
    signals_modify_seen view registry
      (fun signal => { signal with head := none, live := 0, tombstones := 0 }) (fun _ => rfl)]
  rfl

theorem unregister_seen (name : String) :
    (registry.seen view).unregister name =
      (registry.unregister name).map (removalSeen view) := by
  rw [unregister, unregister, lookup_seen]
  cases registry.lookup name with
  | error fault => rfl
  | ok index =>
      have vacated := Arena.map_vacate (registry.freeChain index).1.signals (Signal.seen view) index
      dsimp only
      rw [freeChain_seen]
      exact congrArg (fun signals : Arena Signal =>
        Except.ok (({ (registry.freeChain index).1.seen view with signals := signals },
          (registry.freeChain index).2.map (Slot.seen view)) : Registry × List Slot)) vacated.symm

@[simp]
theorem bury_seen (position : Nat) :
    (registry.seen view).bury position = (registry.bury position).seen view :=
  congrArg (fun slots => (⟨_, slots, registry.peakSlots⟩ : Registry))
    (Arena.map_modify registry.slots _ (fun slot => { slot with removed := true }) (fun _ => rfl)
      position).symm

theorem unlink_seen (index position : Nat) :
    (registry.seen view).unlink index position =
      removalSeen view (registry.unlink index position) := by
  rw [unlink, chain_seen, relink_seen, unlink]
  generalize registry.relink index ((registry.chain index).erase position) = relinked
  have removed : (relinked.seen view).slots.removeAll [position] =
      ((relinked.slots.removeAll [position]).1.map (Slot.seen view),
        (relinked.slots.removeAll [position]).2.map (Slot.seen view)) :=
    Arena.removeAll_map relinked.slots (Slot.seen view) _
  rw [removed]
  rfl

theorem retire_seen (index position : Nat) :
    (registry.seen view).retire index position =
      removalSeen view (registry.retire index position) := by
  rw [retire, retire, signal_seen]
  cases registry.signals.get? index with
  | none => rfl
  | some signal =>
      have idle : (signal.seen view).emitting = signal.emitting := rfl
      simp only [Option.map_some, idle]
      split
      · rw [modify_signal_seen view registry (fun signal => { signal with live := signal.live - 1 })
          fun _ => rfl]
        exact unlink_seen view _ index position
      · rw [modify_signal_seen view registry
          (fun signal =>
            { signal with live := signal.live - 1, tombstones := signal.tombstones + 1 })
          fun _ => rfl]
        exact congrArg (·, []) (bury_seen view _ position)

/-- Removing the first live slot that a test accepts. -/
theorem removeFirst_seen
    {accepts accepts' : Slot → Bool}
    (same : ∀ slot, accepts' (slot.seen view) = accepts slot)
    (index : Nat) :
    (registry.seen view).removeFirst index accepts' =
      (registry.removeFirst index accepts).map (removalSeen view) := by
  rw [removeFirst, removeFirst, firstLive?_seen view registry same, Option.map_map]
  exact congrArg (fun retire => (registry.firstLive? index accepts).map retire)
    (funext (retire_seen view registry index))

theorem removeHandle_seen (handle : Handle) :
    (registry.seen view).removeHandle (handle.seen view) =
      (registry.removeHandle handle).map (removalSeen view) := by
  rw [removeHandle, removeHandle, owner?_seen]
  cases registry.owner? handle with
  | none => rfl
  | some index =>
      exact removeFirst_seen view registry
        (fun slot => Handle.seen_beq view slot.handle handle) index

theorem foldl_bury_seen (order : List Nat) :
    order.foldl bury (registry.seen view) = (order.foldl bury registry).seen view := by
  induction order generalizing registry with
  | nil => rfl
  | cons position rest ih => rw [List.foldl_cons, bury_seen, ih, List.foldl_cons]

theorem retireAll_seen (index : Nat) :
    (registry.seen view).retireAll index =
      ((registry.retireAll index).1, removalSeen view (registry.retireAll index).2) := by
  rw [retireAll, retireAll, signal_seen]
  cases registry.signals.get? index with
  | none => rfl
  | some signal =>
      have idle : (signal.seen view).emitting = signal.emitting := rfl
      simp only [Option.map_some, idle]
      split
      · rw [freeChain_seen]
        rfl
      · rw [chain_seen, foldl_bury_seen,
          modify_signal_seen view _
            (fun other => { other with live := 0, tombstones := other.tombstones + other.live })
            fun _ => rfl]
        rfl

@[simp]
theorem isTombstone_seen (slots : Arena Slot) :
    isTombstone (slots.map (Slot.seen view)) = isTombstone slots := by
  funext position
  rw [isTombstone, isTombstone, Arena.get?_map]
  cases slots.get? position <;> rfl

theorem sweep_seen (index : Nat) :
    (registry.seen view).sweep index = removalSeen view (registry.sweep index) := by
  rw [sweep, sweep, signal_seen]
  cases registry.signals.get? index with
  | none => rfl
  | some signal =>
      have idle : (signal.seen view).emitting = signal.emitting := rfl
      have buried : (signal.seen view).tombstones = signal.tombstones := rfl
      have tombstone : isTombstone (registry.seen view).slots = isTombstone registry.slots :=
        isTombstone_seen view registry.slots
      simp only [Option.map_some, idle, buried, chain_seen, tombstone, relink_seen]
      split
      · generalize registry.relink index
          ((registry.chain index).filter fun position => !isTombstone registry.slots position) =
            relinked
        have removed (order : List Nat) : (relinked.seen view).slots.removeAll order =
            ((relinked.slots.removeAll order).1.map (Slot.seen view),
              (relinked.slots.removeAll order).2.map (Slot.seen view)) :=
          Arena.removeAll_map relinked.slots (Slot.seen view) _
        rw [removed,
          signals_modify_seen view relinked (fun signal => { signal with tombstones := 0 })
            fun _ => rfl]
        rfl
      · rfl

/-! ## Emitting -/

theorem resolve?_seen (signalRef : SignalRef) :
    (registry.seen view).resolve? (signalRef.seen view) =
      (registry.resolve? signalRef).map (Signal.seen view) := by
  rw [resolve?, resolve?, SignalRef.seen, signal_seen]
  cases registry.signals.get? signalRef.index with
  | none => rfl
  | some signal =>
      have same : (signal.serial + view.serials == signalRef.serial + view.serials) =
          (signal.serial == signalRef.serial) :=
        decide_eq_decide.mpr (Nat.add_right_cancel_iff)
      simp only [Option.map_some, Option.filter_some, Signal.seen, same]
      split <;> rfl

/-- Entering a signal: the registration that is entered goes along. -/
theorem beginEmission_seen (name : String) :
    (registry.seen view).beginEmission name =
      (registry.beginEmission name).map fun entered =>
        (entered.1.seen view, entered.2.1.seen view, entered.2.2) := by
  rw [beginEmission, beginEmission, lookup_seen]
  cases registry.lookup name with
  | error fault => rfl
  | ok index =>
      simp only [signal_seen]
      cases registry.signals.get? index with
      | none => rfl
      | some signal =>
          simp only [Option.map_some]
          rw [modify_signal_seen view registry
            (fun signal => { signal with emitting := signal.emitting + 1 }) fun _ => rfl]
          rfl

theorem read?_seen (signalRef : SignalRef) (position : Nat) :
    (registry.seen view).read? (signalRef.seen view) position =
      (registry.read? signalRef position).map (SlotReading.seen view) := by
  rw [read?, read?, resolve?_seen, slot_seen]
  cases registry.resolve? signalRef with
  | none => rfl
  | some signal =>
      cases registry.slots.get? position with
      | none => rfl
      | some slot =>
          simp only [Option.map_some, SlotReading.seen, Option.some.injEq, SlotReading.mk.injEq]
          refine ⟨rfl, ?_⟩
          cases removed : slot.removed <;> simp [Slot.seen, removed]

/-- Leaving a signal: only a time that is seen is recorded as it is seen. -/
theorem endEmission_seen (signalRef : SignalRef) (elapsed : Option Nat) :
    (registry.seen view).endEmission (signalRef.seen view) (view.time? elapsed) =
      removalSeen view (registry.endEmission signalRef elapsed) := by
  rw [endEmission, endEmission, resolve?_seen]
  cases registry.resolve? signalRef with
  | none => rfl
  | some signal =>
      have left :
          ({ registry.seen view with
              signals := (registry.seen view).signals.modify signalRef.index fun signal =>
                { signal with
                  emitting := signal.emitting - 1
                  timing :=
                    match view.time? elapsed with
                    | none => signal.timing
                    | some elapsed => signal.timing.record elapsed } } : Registry) =
            Registry.seen view
              { registry with
                signals := registry.signals.modify signalRef.index fun signal =>
                  { signal with
                    emitting := signal.emitting - 1
                    timing :=
                      match elapsed with
                      | none => signal.timing
                      | some elapsed => signal.timing.record elapsed } } := by
        refine congrArg (fun signals => (⟨signals, _, registry.peakSlots⟩ : Registry)) ?_
        refine (Arena.map_modify registry.signals _ _ (fun other => ?_) signalRef.index).symm
        rw [Signal.seen, View.timing_record, Signal.seen]
      exact (congrArg (fun registry => registry.sweep signalRef.index) left).trans
        (sweep_seen view _ signalRef.index)

/-! ## Reports -/

@[simp]
theorem listing_seen : (registry.seen view).listing = registry.listing := by
  rw [listing, listing, seen, Arena.toList_map, List.map_map]
  rfl

theorem timing_seen (name : String) :
    (registry.seen view).timing name = (registry.timing name).map view.timing := by
  rw [timing, timing, lookup_seen]
  cases registry.lookup name with
  | error fault => rfl
  | ok index =>
      simp only [signal_seen]
      cases registry.signals.get? index <;> rfl

theorem resetTiming_seen : (registry.seen view).resetTiming = registry.resetTiming.seen view := by
  have reset (signal : Signal) :
      Signal.seen view { signal with timing := {} } = { signal.seen view with timing := {} } := by
    rw [Signal.seen, View.timing_zero, Signal.seen]
  exact congrArg (fun signals => (⟨signals, _, registry.peakSlots⟩ : Registry))
    (Arena.map_map registry.signals reset).symm

@[simp]
theorem memoryStats_seen (kind : StorageKind) :
    (registry.seen view).memoryStats kind = registry.memoryStats kind := by
  have signals := Arena.reserved_map registry.signals (Signal.seen view)
  have slots := Arena.reserved_map registry.slots (Slot.seen view)
  have entries := Arena.toList_map registry.signals (Signal.seen view)
  simp only [memoryStats, seen, signals, slots, entries, List.foldl_map]
  rfl

theorem resetPeak_seen : (registry.seen view).resetPeak = registry.resetPeak.seen view :=
  rfl

end Registry

end SignalDispatch
