import SignalDispatch.Proofs.Registry.Seen

/-!
# Registries that look the same

Two registries resemble each other if one looks like the other as it is seen.  Then every call
answers the same, lets go of the same contexts and leaves registries that resemble each other.
-/

namespace SignalDispatch

/-- Letting go of slots as they are seen lets go of the same contexts. -/
theorem Slot.contexts_seen (view : View) (slots : List Slot) :
    (slots.map (Slot.seen view)).filterMap Slot.context = slots.filterMap Slot.context := by
  rw [List.filterMap_map]
  rfl

namespace Registry

/-- Next to the other registry this one looks the same. -/
def Resembles (view : View) (left right : Registry) : Prop :=
  left.seen view.still = right.seen view

/-- Two removals leave registries that look the same, and let go of the same contexts. -/
structure RemovalsResemble (view : View) (removal other : Registry × List Slot) : Prop where
  registry : removal.1.Resembles view other.1
  contexts : removal.2.filterMap Slot.context = other.2.filterMap Slot.context

variable {view : View}

theorem RemovalsResemble.of_eq
    {removal other : Registry × List Slot}
    (same : removalSeen view.still removal = removalSeen view other) :
    RemovalsResemble view removal other := by
  refine ⟨congrArg Prod.fst same, ?_⟩
  have slots : removal.2.map (Slot.seen view.still) = other.2.map (Slot.seen view) :=
    congrArg Prod.snd same
  rw [← Slot.contexts_seen view.still, slots, Slot.contexts_seen]

/-- A slot looks as it is from where nothing has been drawn before. -/
theorem slot_seen_still (slot : Slot) : slot.seen view.still = slot := by
  rw [Slot.seen, Handle.seen_still]

theorem map_slot_seen_still (reading : Option SlotReading) :
    reading.map (SlotReading.seen view.still) = reading := by
  have same (reading : SlotReading) : reading.seen view.still = reading := by
    have slots : Slot.seen view.still = id := funext slot_seen_still
    rw [SlotReading.seen, slots, Option.map_id, id]
  cases reading with
  | none => rfl
  | some reading => exact congrArg some (same reading)

namespace Resembles

variable {left right : Registry}

theorem find? (same : left.Resembles view right) (name : String) :
    left.find? name = right.find? name := by
  rw [← find?_seen view.still, same, find?_seen]

theorem lookup (same : left.Resembles view right) (name : String) :
    left.lookup name = right.lookup name := by
  rw [← lookup_seen view.still, same, lookup_seen]

theorem count (same : left.Resembles view right) : left.count = right.count := by
  rw [← count_seen view.still, same, count_seen]

theorem listing (same : left.Resembles view right) : left.listing = right.listing := by
  rw [← listing_seen view.still, same, listing_seen]

theorem memoryStats (same : left.Resembles view right) (kind : StorageKind) :
    left.memoryStats kind = right.memoryStats kind := by
  rw [← memoryStats_seen view.still, same, memoryStats_seen]

theorem grant (same : left.Resembles view right) (index limit : Nat) :
    left.grant index limit = right.grant index limit := by
  rw [← grant_seen view.still, same, grant_seen]

/-- The same contexts are stored. -/
theorem contexts (same : left.Resembles view right) :
    (left.slots.toList.map Prod.snd).filterMap Slot.context =
      (right.slots.toList.map Prod.snd).filterMap Slot.context := by
  have stored (view : View) (registry : Registry) :
      (registry.seen view).slots.toList.map Prod.snd =
        (registry.slots.toList.map Prod.snd).map (Slot.seen view) := by
    have entries : (registry.seen view).slots.toList =
        registry.slots.toList.map fun entry => (entry.1, entry.2.seen view) :=
      Arena.toList_map registry.slots (Slot.seen view)
    rw [entries, List.map_map, List.map_map]
    rfl
  rw [← Slot.contexts_seen view.still, ← stored, same, stored, Slot.contexts_seen]

theorem register
    (same : left.Resembles view right)
    (name : String)
    (description : Option String)
    (priority : Priority)
    (serial : Nat) :
    (left.register name description priority (serial + view.serials)).map
        (Registry.seen view.still) =
      (right.register name description priority serial).map (Registry.seen view) := by
  rw [← register_seen, View.serials_still, Nat.add_zero, same, register_seen]

theorem attach
    (same : left.Resembles view right)
    (index : Nat)
    (slot : Slot) :
    (left.attach index (slot.seen view)).map (Registry.seen view.still) =
      (right.attach index slot).map (Registry.seen view) := by
  rw [← attach_seen, slot_seen_still, same, attach_seen]

theorem unregister (same : left.Resembles view right) (name : String) :
    (left.unregister name).map (removalSeen view.still) =
      (right.unregister name).map (removalSeen view) := by
  rw [← unregister_seen, same, unregister_seen]

/-- Removing the first live slot of a callback. -/
theorem removeFirst (same : left.Resembles view right) (index : Nat) (callback : RoutineId) :
    (left.removeFirst index fun slot => slot.callback == callback).map (removalSeen view.still) =
      (right.removeFirst index fun slot => slot.callback == callback).map (removalSeen view) := by
  have runs (view : View) (registry : Registry) :
      (registry.seen view).removeFirst index (fun slot => slot.callback == callback) =
        (registry.removeFirst index fun slot => slot.callback == callback).map
          (removalSeen view) :=
    removeFirst_seen view registry (fun _ => rfl) index
  rw [← runs, same, runs]

theorem removeHandle (same : left.Resembles view right) (handle : Handle) :
    (left.removeHandle (handle.seen view)).map (removalSeen view.still) =
      (right.removeHandle handle).map (removalSeen view) := by
  rw [← removeHandle_seen, Handle.seen_still, same, removeHandle_seen]

theorem retireAll (same : left.Resembles view right) (index : Nat) :
    (left.retireAll index).1 = (right.retireAll index).1 ∧
      RemovalsResemble view (left.retireAll index).2 (right.retireAll index).2 := by
  have both : ((left.retireAll index).1, removalSeen view.still (left.retireAll index).2) =
      ((right.retireAll index).1, removalSeen view (right.retireAll index).2) := by
    rw [← retireAll_seen, same, retireAll_seen]
  rw [Prod.mk.injEq] at both
  exact ⟨both.1, .of_eq both.2⟩

theorem beginEmission (same : left.Resembles view right) (name : String) :
    (left.beginEmission name).map
        (fun entered => (entered.1.seen view.still, entered.2.1.seen view.still, entered.2.2)) =
      (right.beginEmission name).map
        fun entered => (entered.1.seen view, entered.2.1.seen view, entered.2.2) := by
  rw [← beginEmission_seen, same, beginEmission_seen]

theorem read?
    (same : left.Resembles view right)
    (signalRef : SignalRef)
    (position : Nat) :
    left.read? (signalRef.seen view) position =
      (right.read? signalRef position).map (SlotReading.seen view) := by
  have reading := read?_seen view.still left (signalRef.seen view) position
  rw [map_slot_seen_still, SignalRef.seen_still, same, read?_seen] at reading
  exact reading.symm

theorem endEmission
    (same : left.Resembles view right)
    (signalRef : SignalRef)
    {elapsed elapsed' : Option Nat}
    (times : view.time? elapsed = view.time? elapsed') :
    RemovalsResemble view (left.endEmission (signalRef.seen view) elapsed)
      (right.endEmission signalRef elapsed') := by
  apply RemovalsResemble.of_eq
  rw [← endEmission_seen, SignalRef.seen_still, View.time?_still, times, same, endEmission_seen]

theorem timing (same : left.Resembles view right) (name : String) :
    (left.timing name).map view.timing = (right.timing name).map view.timing := by
  have times := timing_seen view.still left name
  have still : view.still.timing = view.timing := funext view.timing_still
  rw [same, timing_seen, still] at times
  exact times.symm

theorem resetTiming (same : left.Resembles view right) :
    left.resetTiming.Resembles view right.resetTiming := by
  rw [Resembles, ← resetTiming_seen, same, resetTiming_seen]

theorem resetPeak (same : left.Resembles view right) :
    left.resetPeak.Resembles view right.resetPeak := by
  rw [Resembles, ← resetPeak_seen, same, resetPeak_seen]

end Resembles

end Registry

end SignalDispatch
