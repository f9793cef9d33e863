import SignalDispatch.Proofs.Bus.Invariant
import SignalDispatch.Proofs.Directory.Mirror
import SignalDispatch.Proofs.Registry.Growing

/-!
# Calls on a bus and on a directory

A bus on growing storage tallies with a directory when the directory mirrors its registry and both
number connections and bound them alike.  Every call keeps the two in step: it does to the directory
what it does to the bus, and both come back with the same result, whether or not the signals that
are concerned are being emitted.
-/

namespace SignalDispatch

/-- The bus is on growing storage, and the directory says of it what a caller may know. -/
structure Bus.Tallies (bus : Bus) (directory : Directory) : Prop where
  backend : bus.backend = .heap
  nextHandle : directory.nextHandle = bus.nextHandle
  limit : directory.limit = bus.maxSlots
  registry :
    ∃ registry, bus.registry = some registry ∧ registry.Growing ∧ directory.Mirrors registry

/-- A call on a bus is matched by a call on a directory. -/
structure Effect.Matches (effect : Effect) (outcome : Directory.Outcome) : Prop where
  tallies : effect.bus.Tallies outcome.1
  result : effect.result = outcome.2

/-- Growing storage takes every name that is neither empty nor too long. -/
theorem Backend.acceptName_heap (name : String) :
    Backend.heap.acceptName name =
      if name.isEmpty then .error Fault.emptyName
      else if Limits.heapNameBytes < name.utf8ByteSize then
        .error (Fault.longName Limits.heapNameBytes)
      else .ok name := by
  rw [acceptName]
  split
  · rfl
  · by_cases long : Limits.heapNameBytes < name.utf8ByteSize
    · have refused : Backend.heap.keepName? name = none := by
        change (CompactText.ofName? name).map CompactText.text = none
        rw [CompactText.ofName?, CompactText.maxNameBytes, if_neg (Nat.not_le.mpr long)]
        rfl
      rw [refused, if_pos long]
      rfl
    · have kept : Backend.heap.keepName? name = some name := by
        change (CompactText.ofName? name).map CompactText.text = some name
        rw [CompactText.ofName?, CompactText.maxNameBytes, if_pos (Nat.not_lt.mp long)]
        rfl
      rw [kept, if_neg long]

namespace Registry

variable {registry : Registry} {name : String} {index : Nat}

theorem lookup_of_some (located : registry.find? name = some index) :
    registry.lookup name = .ok index := by
  rw [lookup, located]

theorem lookup_of_none (unknown : registry.find? name = none) :
    registry.lookup name = .error (.notFound name) := by
  rw [lookup, unknown]

/-- The owner of a handle shows a connection of it. -/
theorem owner?_eq_some {handle : Handle} (owned : registry.owner? handle = some index) :
    ∃ entry, registry.entryAt index = some entry ∧
      ∃ connection ∈ entry.connections, (connection.handle == handle) = true := by
  rw [owner?, Option.map_eq_some_iff] at owned
  rcases owned with ⟨⟨place, signal⟩, first, rfl⟩
  have stored := (Arena.mem_toList_iff _ _ _).mp (List.mem_of_find?_eq_some first)
  have accepted := List.find?_some first
  refine ⟨registry.entryOf place signal, (entryAt_eq_some_iff _ _ _).mpr ⟨signal, stored, rfl⟩, ?_⟩
  exact (firstLive?_isSome_iff registry place fun connection => connection.handle == handle).mp
    accepted

/-- A handle without owner is not shown. -/
theorem owner?_eq_none {handle : Handle} (nobody : registry.owner? handle = none)
    {entry : Entry} (shown : registry.entryAt index = some entry) :
    ¬ ∃ connection ∈ entry.connections, (connection.handle == handle) = true := by
  intro has
  rcases (entryAt_eq_some_iff _ _ _).mp shown with ⟨signal, stored, rfl⟩
  rw [owner?, Option.map_eq_none_iff, List.find?_eq_none] at nobody
  exact nobody (index, signal) ((Arena.mem_toList_iff _ _ _).mpr stored)
    ((firstLive?_isSome_iff registry index fun connection => connection.handle == handle).mpr has)

end Registry

namespace Directory.Mirrors

variable {directory : Directory} {registry : Registry} {name : String} {index : Nat}

/-- Removing a first match removes nothing if no connection is accepted, and otherwise keeps
directory and registry in step. -/
theorem removeFirst
    (mirrors : directory.Mirrors registry)
    (sane : registry.Sane)
    (growing : registry.Growing)
    (located : registry.find? name = some index)
    {entry : Entry}
    (shown : registry.entryAt index = some entry)
    (test : Connection → Bool) :
    (entry.connections.any test = false ∧
        registry.removeFirst index (fun slot => test slot.connection) = none) ∨
      (entry.connections.any test = true ∧
        ∃ next released,
          registry.removeFirst index (fun slot => test slot.connection) = some (next, released) ∧
            next.Growing ∧ (directory.revise name (List.eraseP test)).Mirrors next) := by
  have accepts := Registry.firstLive?_isSome_iff registry index test
  rcases (Registry.entryAt_eq_some_iff _ _ _).mp shown with ⟨signal, _, rfl⟩
  have any : ((registry.entryOf index signal).connections.any test) = true ↔
      ∃ connection ∈ registry.connections index, test connection = true :=
    List.any_eq_true
  rw [Registry.removeFirst]
  cases first : registry.firstLive? index fun slot => test slot.connection with
  | none =>
      rw [first] at accepts
      refine Or.inl ⟨?_, rfl⟩
      rw [Bool.eq_false_iff]
      exact fun listed => Bool.false_ne_true (accepts.mpr (any.mp listed))
  | some position =>
      rw [first] at accepts
      refine Or.inr ⟨any.mpr (accepts.mp rfl), _, _, rfl, growing.retire index position, ?_⟩
      exact mirrors.revise sane.formed located (sane.retire_revises first)

end Directory.Mirrors

namespace Bus.Tallies

variable {bus : Bus} {directory : Directory}

/-- A call that fails changes neither. -/
theorem failing (tallies : bus.Tallies directory) (fault : Fault) :
    (bus.failing fault).Matches (directory, .error fault) :=
  ⟨tallies, rfl⟩

theorem register
    (tallies : bus.Tallies directory)
    (sane : bus.Sane)
    (name : String)
    (description : Option String)
    (priority : Priority) :
    (bus.register name description priority).Matches
      (directory.register name description priority) := by
  rcases tallies.registry with ⟨registry, present, growing, mirrors⟩
  have sane := sane.registry present
  have drawn : ({ bus with nextSerial := bus.nextSerial + 1 } : Bus).Tallies directory :=
    ⟨tallies.backend, tallies.nextHandle, tallies.limit, registry, present, growing, mirrors⟩
  have accepts := Backend.acceptName_heap name
  rw [← tallies.backend] at accepts
  rw [Bus.register, withRegistry_of_some present, Directory.register, accepts]
  by_cases empty : name.isEmpty = true
  · rw [if_pos empty, if_pos empty]
    exact drawn.failing _
  rw [if_neg empty, if_neg empty]
  by_cases long : Limits.heapNameBytes < name.utf8ByteSize
  · rw [if_pos long, if_pos long]
    exact drawn.failing _
  rw [if_neg long, if_neg long]
  simp only [bind, Except.bind]
  cases located : registry.find? name with
  | some index =>
      rcases mirrors.find?_of_some sane.formed located with ⟨entry, found, _⟩
      have used : registry.register name description priority bus.nextSerial =
          .error (.alreadyExists name) := by
        rw [Registry.register, located]
        rfl
      rw [used, found]
      exact drawn.failing _
  | none =>
      have unknown := mirrors.find?_of_none sane.formed located
      rcases growing.register_of_unknown located description priority bus.nextSerial with
        ⟨next, registered, grown⟩
      rcases sane.register_entryAt registered with ⟨place, vacant, added⟩
      rw [registered, unknown]
      refine ⟨⟨tallies.backend, tallies.nextHandle, tallies.limit, next, rfl, grown, ?_⟩, rfl⟩
      have both := @mirrors.add _ _ _ ⟨name, description, priority, []⟩ unknown _ vacant added
      exact both

theorem unregister (tallies : bus.Tallies directory) (sane : bus.Sane) (name : String) :
    (bus.unregister name).Matches (directory.unregister name) := by
  rcases tallies.registry with ⟨registry, present, growing, mirrors⟩
  have sane := sane.registry present
  rw [Bus.unregister, withRegistry_of_some present, Directory.unregister, Directory.withEntry]
  cases located : registry.find? name with
  | none =>
      have unknown : registry.unregister name = .error (.notFound name) := by
        rw [Registry.unregister, Registry.lookup_of_none located]
      rw [unknown, mirrors.find?_of_none sane.formed located]
      exact tallies.failing _
  | some index =>
      have ends : ∃ next released, registry.unregister name = .ok (next, released) := by
        rw [Registry.unregister, Registry.lookup_of_some located]
        exact ⟨_, _, rfl⟩
      rcases ends with ⟨next, released, done⟩
      rcases mirrors.find?_of_some sane.formed located with ⟨entry, found, _⟩
      rcases sane.unregister_entryAt done with ⟨place, located', dropped⟩
      rw [done, found]
      refine ⟨⟨tallies.backend, tallies.nextHandle, tallies.limit, next, rfl,
        growing.unregister done, ?_⟩, rfl⟩
      exact mirrors.drop sane.formed located' dropped

theorem connect
    (tallies : bus.Tallies directory)
    (sane : bus.Sane)
    (name : String)
    (callback : RoutineId)
    (context : Option Context)
    (priority : Option Priority) :
    (bus.connect name callback context priority).Matches
      (directory.connect name callback context priority) := by
  rcases tallies.registry with ⟨registry, present, growing, mirrors⟩
  have latest := @sane.handles
  simp only [slotAt_of_some present] at latest
  have sane := sane.registry present
  rw [Bus.connect, present, Directory.connect, Directory.withEntry]
  cases located : registry.find? name with
  | none =>
      simp only [bind, Except.bind, Registry.lookup_of_none located,
        mirrors.find?_of_none sane.formed located]
      exact ⟨tallies, rfl⟩
  | some index =>
      rcases mirrors.find?_of_some sane.formed located with ⟨entry, found, shown, named⟩
      rcases (Registry.entryAt_eq_some_iff _ _ _).mp shown with ⟨signal, stored, same⟩
      have length : entry.connections.length = signal.live := by
        rw [← same]
        exact sane.formed.length_connections stored
      have declared : entry.priority = signal.priority := by
        rw [← same]
        rfl
      simp only [bind, Except.bind, Registry.lookup_of_some located, growing.grant_eq stored, found,
        length, tallies.limit]
      by_cases full : bus.maxSlots ≤ signal.live
      · rw [if_pos full, if_pos full]
        exact ⟨tallies, rfl⟩
      rw [if_neg full, if_neg full]
      simp only [pure, Except.pure]
      rcases growing.attach index
        { handle := ⟨bus.nextHandle⟩, callback := callback, context := context,
          priority := priority.getD signal.priority } with ⟨next, attached, grown⟩
      have revises := sane.attach_revises located rfl (fun _ _ => latest) attached
      have revised := mirrors.revise sane.formed located revises
      rw [attached, declared, tallies.nextHandle]
      exact ⟨⟨tallies.backend, rfl, tallies.limit, next, rfl, grown, revised.names,
        revised.entries⟩, rfl⟩

theorem disconnect
    (tallies : bus.Tallies directory)
    (sane : bus.Sane)
    (name : String)
    (callback : RoutineId) :
    (bus.disconnect name callback).Matches (directory.disconnect name callback) := by
  rcases tallies.registry with ⟨registry, present, growing, mirrors⟩
  have sane := sane.registry present
  rw [Bus.disconnect, withRegistry_of_some present, Directory.disconnect, Directory.withEntry]
  cases located : registry.find? name with
  | none =>
      rw [Registry.lookup_of_none located, mirrors.find?_of_none sane.formed located]
      exact tallies.failing _
  | some index =>
      rcases mirrors.find?_of_some sane.formed located with ⟨entry, found, shown, _⟩
      simp only [Registry.lookup_of_some located, found]
      rcases mirrors.removeFirst sane growing located shown
        (fun connection => connection.callback == callback) with
        ⟨nobody, absent⟩ | ⟨somebody, next, released, removed, grown, revised⟩
      · have absent : (registry.removeFirst index fun slot => slot.callback == callback) = none :=
          absent
        rw [absent, nobody]
        exact tallies.failing _
      · have removed : (registry.removeFirst index fun slot => slot.callback == callback) =
            some (next, released) :=
          removed
        rw [removed, somebody]
        exact ⟨⟨tallies.backend, tallies.nextHandle, tallies.limit, next, rfl, grown, revised⟩, rfl⟩

theorem disconnectHandle
    (tallies : bus.Tallies directory)
    (sane : bus.Sane)
    (handle : Handle) :
    (bus.disconnectHandle handle).Matches (directory.disconnectHandle handle) := by
  rcases tallies.registry with ⟨registry, present, growing, mirrors⟩
  have sane := sane.registry present
  rw [Bus.disconnectHandle, withRegistry_of_some present, Directory.disconnectHandle]
  split
  swap
  · exact tallies.failing _
  have accepts (entry : Entry) :
      (entry.connections.any fun connection => connection.handle == handle) = true ↔
        ∃ connection ∈ entry.connections, (connection.handle == handle) = true :=
    List.any_eq_true
  rw [Registry.removeHandle]
  cases owned : registry.owner? handle with
  | none =>
      have nobody : (directory.entries.find? fun entry =>
          entry.connections.any fun connection => connection.handle == handle) = none := by
        rw [List.find?_eq_none]
        intro entry member has
        rcases (mirrors.entries entry).mp member with ⟨index, shown⟩
        exact Registry.owner?_eq_none owned shown ((accepts entry).mp has)
      rw [nobody]
      exact tallies.failing _
  | some index =>
      rcases Registry.owner?_eq_some owned with ⟨entry, shown, connection, member, same⟩
      -- connections of one handle are under one name, so the directory comes to the same entry
      have found : (directory.entries.find? fun entry =>
          entry.connections.any fun connection => connection.handle == handle) = some entry := by
        cases first : directory.entries.find? fun entry =>
            entry.connections.any fun connection => connection.handle == handle with
        | none =>
            rw [List.find?_eq_none] at first
            exact absurd ((accepts entry).mpr ⟨connection, member, same⟩)
              (first entry ((mirrors.entries entry).mpr ⟨index, shown⟩))
        | some other =>
            have accepted := List.find?_some first
            rcases (accepts other).mp accepted with ⟨second, member', same'⟩
            rcases (mirrors.entries other).mp (List.mem_of_find?_eq_some first) with
              ⟨place, shown'⟩
            have handles : connection.handle = second.handle :=
              (beq_iff_eq.mp same).trans (beq_iff_eq.mp same').symm
            rcases (Registry.entryAt_eq_some_iff _ _ _).mp shown with ⟨_, _, rfl⟩
            rcases (Registry.entryAt_eq_some_iff _ _ _).mp shown' with ⟨_, _, rfl⟩
            have places := sane.formed.connections_apart member member' handles
            subst places
            rw [shown, Option.some.injEq] at shown'
            rw [shown']
      have located := sane.formed.find?_of_entryAt shown
      rw [found, Option.bind_some]
      rcases mirrors.removeFirst sane growing located shown
        (fun connection => connection.handle == handle) with
        ⟨nobody, _⟩ | ⟨_, next, released, removed, grown, revised⟩
      · rw [(accepts entry).mpr ⟨connection, member, same⟩] at nobody
        cases nobody
      · have removed : (registry.removeFirst index fun slot => slot.handle == handle) =
            some (next, released) :=
          removed
        rw [removed]
        exact ⟨⟨tallies.backend, tallies.nextHandle, tallies.limit, next, rfl, grown, revised⟩, rfl⟩

theorem disconnectAll (tallies : bus.Tallies directory) (sane : bus.Sane) (name : String) :
    (bus.disconnectAll name).Matches (directory.disconnectAll name) := by
  rcases tallies.registry with ⟨registry, present, growing, mirrors⟩
  have sane := sane.registry present
  rw [Bus.disconnectAll, withRegistry_of_some present, Directory.disconnectAll, Directory.withEntry]
  cases located : registry.find? name with
  | none =>
      rw [Registry.lookup_of_none located, mirrors.find?_of_none sane.formed located]
      exact tallies.failing _
  | some index =>
      rcases mirrors.find?_of_some sane.formed located with ⟨entry, found, _⟩
      simp only [Registry.lookup_of_some located, found]
      refine ⟨⟨tallies.backend, tallies.nextHandle, tallies.limit, _, rfl,
        growing.retireAll index, ?_⟩, rfl⟩
      exact mirrors.revise sane.formed located (sane.retireAll_revises located)

theorem contains (tallies : bus.Tallies directory) (sane : bus.Sane) (name : String) :
    bus.contains name = (directory.find? name).isSome := by
  rcases tallies.registry with ⟨registry, present, _, mirrors⟩
  have formed := (sane.registry present).formed
  rw [Bus.contains, present]
  change (registry.find? name).isSome = _
  cases located : registry.find? name with
  | none =>
      rw [mirrors.find?_of_none formed located]
      rfl
  | some index =>
      rcases mirrors.find?_of_some formed located with ⟨entry, found, _⟩
      rw [found]
      rfl

theorem count (tallies : bus.Tallies directory) (sane : bus.Sane) :
    bus.count = directory.entries.length := by
  rcases tallies.registry with ⟨registry, present, _, mirrors⟩
  have formed := (sane.registry present).formed
  rw [Bus.count, present, (mirrors.perm formed).length_eq, formed.length_entries]

theorem listing (tallies : bus.Tallies directory) (sane : bus.Sane) :
    bus.listing.Perm directory.listing := by
  rcases tallies.registry with ⟨registry, present, _, mirrors⟩
  have formed := (sane.registry present).formed
  rw [Bus.listing, present, Directory.listing]
  change registry.listing.Perm _
  rw [← formed.map_info_entries]
  exact (mirrors.perm formed).symm.map Entry.info

end Bus.Tallies

end SignalDispatch
