import SignalDispatch.Config
import SignalDispatch.Document.Basic
import SignalDispatch.Registry.Report

/-!
# Settings and reports as documents

The written forms of configurations, priorities, handles, listings, timing and memory statistics.
A configuration may leave anything out; what is missing takes its standard value.
-/

namespace SignalDispatch

instance : Documented Priority where
  read? document := document.signed32?.map Priority.mk
  write priority := .integer priority.rank

instance : Documented Handle where
  read? document := document.natural?.map Handle.mk
  write handle := .ofNat handle.number

instance : Documented StorageKind where
  read? document := (document.word? .atOnce).bind StorageKind.ofWord?
  write kind := .text kind.word

instance : Documented Config where
  read? document := do
    let names := ["max_slots_per_signal", "thread_safe", "profiling", "deferred_capacity"]
    match ← document.fields? names true with
    | [maxSlots, threadSafe, profiling, deferredCapacity] =>
        let standard := Config.standard
        return {
          maxSlots := ← Document.defaulted? Document.natural? standard.maxSlots maxSlots
          threadSafe := ← Document.defaulted? Document.flag? standard.threadSafe threadSafe
          profiling := ← Document.defaulted? Document.flag? standard.profiling profiling
          deferredCapacity :=
            ← Document.defaulted? Document.natural? standard.deferredCapacity deferredCapacity }
    | _ => none
  write config :=
    .record
      [("max_slots_per_signal", .ofNat config.maxSlots),
        ("thread_safe", .flag config.threadSafe),
        ("profiling", .flag config.profiling),
        ("deferred_capacity", .ofNat config.deferredCapacity)]

instance : Documented SignalInfo where
  read? document := do
    match ← document.fields? ["name", "description", "priority", "slot_count"] false with
    | [name, description, priority, slotCount] =>
        return {
          name := ← Document.required? Document.text? name
          description := ← Document.nullable? Document.text? description
          priority := ← Document.required? Document.read? priority
          slotCount := ← Document.required? Document.natural? slotCount }
    | _ => none
  write info :=
    .record
      [("name", .text info.name),
        ("description", .ofText? info.description),
        ("priority", Documented.write info.priority),
        ("slot_count", .ofNat info.slotCount)]

instance : Documented Timing where
  read? document := do
    let names :=
      ["total_emissions", "total_time_ns", "avg_time_ns", "min_time_ns", "max_time_ns"]
    match ← (← document.fields? names false).mapM (Document.required? Document.natural?) with
    | [emissions, total, mean, least, greatest] =>
        return { emissions, total, mean, least, greatest }
    | _ => none
  write timing :=
    .record
      [("total_emissions", .ofNat timing.emissions),
        ("total_time_ns", .ofNat timing.total),
        ("avg_time_ns", .ofNat timing.mean),
        ("min_time_ns", .ofNat timing.least),
        ("max_time_ns", .ofNat timing.greatest)]

instance : Documented MemoryStats where
  read? document := do
    let names :=
      ["backend", "signals_allocated", "signals_used", "slots_allocated", "slots_used",
        "peak_slots_used", "string_bytes"]
    match ← document.fields? names false with
    | kind :: counts =>
        let kind : StorageKind ← Document.required? Document.read? kind
        match ← counts.mapM (Document.required? Document.natural?) with
        | [signalsAllocated, signalsUsed, slotsAllocated, slotsUsed, peakSlotsUsed, stringBytes] =>
            return { kind, signalsAllocated, signalsUsed, slotsAllocated, slotsUsed,
                     peakSlotsUsed, stringBytes }
        | _ => none
    | _ => none
  write stats :=
    .record
      [("backend", Documented.write stats.kind),
        ("signals_allocated", .ofNat stats.signalsAllocated),
        ("signals_used", .ofNat stats.signalsUsed),
        ("slots_allocated", .ofNat stats.slotsAllocated),
        ("slots_used", .ofNat stats.slotsUsed),
        ("peak_slots_used", .ofNat stats.peakSlotsUsed),
        ("string_bytes", .ofNat stats.stringBytes)]

end SignalDispatch
