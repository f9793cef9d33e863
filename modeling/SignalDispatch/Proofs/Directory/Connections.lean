import SignalDispatch.Proofs.Directory.Basic
import SignalDispatch.Proofs.Registry.Retention

/-!
# The connections that a registry shows

A registry shows the live slots of a chain as connections, and passes over the tombstones.  Whether
a slot that is removed leaves the chain or becomes a tombstone in it, the connections shown are the
same; and a slot that is linked among tombstones shows up where it would be without them.

`Registry.Revises` says this of every change: the entry of one signal is revised, and no other.
-/

namespace SignalDispatch

/-- A slot as a caller knows it. -/
def Slot.connection (slot : Slot) : Connection where
  handle := slot.handle
  callback := slot.callback
  context := slot.context
  priority := slot.priority

/-- The live slots of a list as connections. -/
def connectionsOf (slots : List Slot) : List Connection :=
  (slots.filter fun slot => !slot.removed).map Slot.connection

theorem connectionsOf_append (first second : List Slot) :
    connectionsOf (first ++ second) = connectionsOf first ++ connectionsOf second := by
  rw [connectionsOf, List.filter_append, List.map_append]
  rfl

theorem connectionsOf_live {slot : Slot} (live : slot.removed = false) (slots : List Slot) :
    connectionsOf (slot :: slots) = slot.connection :: connectionsOf slots := by
  rw [connectionsOf, List.filter_cons_of_pos (by simp [live]), List.map_cons]
  rfl

theorem connectionsOf_removed {slot : Slot} (gone : slot.removed = true) (slots : List Slot) :
    connectionsOf (slot :: slots) = connectionsOf slots := by
  rw [connectionsOf, List.filter_cons_of_neg (by simp [gone])]
  rfl

theorem mem_connectionsOf_iff (slots : List Slot) (connection : Connection) :
    connection ∈ connectionsOf slots ↔
      ∃ slot ∈ slots, slot.removed = false ∧ slot.connection = connection := by
  simp [connectionsOf, and_assoc]

theorem length_connectionsOf (slots : List Slot) :
    (connectionsOf slots).length = slots.countP fun slot => !slot.removed := by
  rw [connectionsOf, List.length_map, List.countP_eq_length_filter]

/-- A test of connections takes the slots whose connections it accepts. -/
theorem filter_connectionsOf (slots : List Slot) (test : Connection → Bool) :
    (connectionsOf slots).filter test =
      connectionsOf (slots.filter fun slot => test slot.connection) := by
  rw [connectionsOf, List.filter_map, List.filter_filter, connectionsOf, List.filter_filter]
  refine congrArg _ (List.filter_congr fun slot _ => ?_)
  exact Bool.and_comm _ _

/-- Among connections of descending priority a new one goes behind those of its own priority. -/
theorem Connection.insertInto_eq
    {connection : Connection}
    {connections : List Connection}
    (ordered :
      connections.Pairwise fun left right => right.priority.rank ≤ left.priority.rank) :
    connection.insertInto connections =
      connections.filter (fun other => connection.priority.rank ≤ other.priority.rank) ++
        connection :: connections.filter fun other =>
          !decide (connection.priority.rank ≤ other.priority.rank) := by
  have test :
      (fun other : Connection => decide ¬ other.priority.rank < connection.priority.rank) =
        fun other => decide (connection.priority.rank ≤ other.priority.rank) := by
    funext other
    exact decide_eq_decide.mpr Int.not_lt
  have prefixed : connections.Pairwise fun left right =>
      decide (connection.priority.rank ≤ right.priority.rank) = true →
        decide (connection.priority.rank ≤ left.priority.rank) = true := by
    refine ordered.imp ?_
    intro left right descends behind
    rw [decide_eq_true_eq] at behind ⊢
    exact Int.le_trans behind descends
  rcases takeWhile_eq_filter prefixed with ⟨taken, dropped⟩
  rw [insertInto, List.orderedInsert_eq_take_drop, test, taken, dropped]

/-- A slot linked among tombstones shows up in its place among the live slots. -/
theorem connectionsOf_insertedInto
    {slot : Slot}
    {slots : List Slot}
    (live : slot.removed = false)
    (ordered : slots.Pairwise Slot.Before) :
    connectionsOf (slot.insertedInto slots) =
      slot.connection.insertInto (connectionsOf slots) := by
  have descends : (connectionsOf slots).Pairwise fun left right =>
      right.priority.rank ≤ left.priority.rank := by
    rw [connectionsOf, List.pairwise_map]
    exact (ordered.filter _).imp fun before => before.rank_le
  rw [Connection.insertInto_eq descends, Slot.insertedInto, connectionsOf_append,
    connectionsOf_live live, filter_connectionsOf, filter_connectionsOf]
  rfl

/-- Without the first live slot that a test accepts, the first connection it accepts is gone. -/
theorem eraseP_connectionsOf
    {passed rest : List Slot}
    {slot : Slot}
    {test : Connection → Bool}
    (live : slot.removed = false)
    (accepted : test slot.connection = true)
    (refused : ∀ other ∈ passed, other.removed = false → test other.connection = false) :
    (connectionsOf (passed ++ slot :: rest)).eraseP test = connectionsOf (passed ++ rest) := by
  have skipped : ∀ connection ∈ connectionsOf passed, ¬ test connection = true := by
    intro connection member
    rcases (mem_connectionsOf_iff _ _).mp member with ⟨other, among, quick, rfl⟩
    rw [refused other among quick]
    exact Bool.false_ne_true
  rw [connectionsOf_append, List.eraseP_append_right _ skipped, connectionsOf_live live,
    List.eraseP_cons_of_pos accepted, connectionsOf_append]

/-- A slot that becomes a tombstone is shown no more. -/
theorem connectionsOf_buried (passed rest : List Slot) (slot : Slot) :
    connectionsOf (passed ++ slot.buried :: rest) = connectionsOf (passed ++ rest) := by
  rw [connectionsOf_append, connectionsOf_removed rfl, connectionsOf_append]

theorem connectionsOf_map_buried (slots : List Slot) :
    connectionsOf (slots.map Slot.buried) = [] := by
  rw [connectionsOf, List.map_eq_nil_iff, List.filter_eq_nil_iff]
  intro slot member
  rcases List.mem_map.mp member with ⟨earlier, _, rfl⟩
  exact Bool.false_ne_true

/-! ## Entries of a registry -/

theorem connectionsOf_map_content (slots : List Slot) :
    connectionsOf (slots.map Slot.content) = connectionsOf slots := by
  rw [connectionsOf, List.filter_map, List.map_map]
  rfl

namespace Registry

/-- The live slots of the signal at an index as connections. -/
def connections (registry : Registry) (index : Nat) : List Connection :=
  connectionsOf (registry.slotsOf index)

theorem connections_eq (registry : Registry) (index : Nat) :
    registry.connections index = connectionsOf (registry.contents index) := by
  rw [connections, ← connectionsOf_map_content, map_content_slotsOf]

/-- A signal as an entry of a directory. -/
def entryOf (registry : Registry) (index : Nat) (signal : Signal) : Entry where
  name := signal.name
  description := signal.description
  priority := signal.priority
  connections := registry.connections index

/-- The signal at an index as an entry of a directory. -/
def entryAt (registry : Registry) (index : Nat) : Option Entry :=
  (registry.signalAt index).map (registry.entryOf index)

/-- The entry of a signal depends on the registry by the connections only. -/
theorem entryOf_congr
    {before after : Registry}
    {index : Nat}
    (same : after.connections index = before.connections index) :
    after.entryOf index = before.entryOf index := by
  funext signal
  rw [entryOf, same, entryOf]

/-- The entry at one index is revised, and no other. -/
def Revises
    (before after : Registry)
    (index : Nat)
    (change : List Connection → List Connection) : Prop :=
  ∀ other,
    after.entryAt other =
      if index = other then (before.entryAt other).map fun entry => entry.revise change
      else before.entryAt other

/-- A change of a signal that a caller does not see. -/
def Hides (change : Signal → Signal) : Prop :=
  ∀ signal,
    (change signal).name = signal.name ∧ (change signal).description = signal.description ∧
      (change signal).priority = signal.priority

/-- A recount of one signal revises its entry as it changes its connections. -/
theorem revises_of_views
    {before after : Registry}
    {index : Nat}
    {recount : Signal → Signal}
    {change : List Connection → List Connection}
    (signals :
      ∀ other,
        after.signalAt other =
          if index = other then (before.signalAt other).map recount else before.signalAt other)
    (hides : Hides recount)
    (here : after.connections index = change (before.connections index))
    (elsewhere : ∀ other, index ≠ other → after.connections other = before.connections other) :
    Revises before after index change := by
  intro other
  rw [entryAt, signals, entryAt]
  split
  next same =>
    subst same
    rw [Option.map_map, Option.map_map]
    refine Option.map_congr fun signal _ => ?_
    rcases hides signal with ⟨name, description, priority⟩
    simp only [Function.comp_apply, entryOf, name, description, priority, here]
    rfl
  next different => rw [entryOf_congr (elsewhere other different)]

/-- A change in place of signals with the same connections shows the same entries. -/
theorem entryAt_of_views
    {before after : Registry}
    {change : Nat → Signal → Signal}
    (signals : ∀ other, after.signalAt other = (before.signalAt other).map (change other))
    (hides : ∀ other, Hides (change other))
    (connections : ∀ other, after.connections other = before.connections other) :
    after.entryAt = before.entryAt := by
  funext other
  rw [entryAt, signals, entryAt, Option.map_map]
  refine Option.map_congr fun signal _ => ?_
  rcases hides other signal with ⟨name, description, priority⟩
  simp only [Function.comp_apply, entryOf, name, description, priority, connections]

variable {registry after : Registry} {index : Nat}

/-- Slots that become tombstones leave the contents as they were, tombstones apart. -/
theorem Buries.contents_eq
    {before after : Registry}
    {index : Nat}
    {change : Signal → Signal}
    {position : Nat}
    {passed rest : List Nat}
    {slot : Slot}
    (buries : Buries before after index change [position])
    (chain : before.chain index = passed ++ position :: rest)
    (distinct : (before.chain index).Nodup)
    (found : contentAt before.slots position = some slot) :
    after.contents index =
      contentsOf before.slots passed ++ slot.buried :: contentsOf before.slots rest := by
  rw [chain, List.nodup_middle, List.nodup_cons, List.mem_append, not_or] at distinct
  have same {positions : List Nat} (outside : position ∉ positions) :
      contentsOf after.slots positions = contentsOf before.slots positions := by
    refine contentsOf_congr ?_
    intro other member
    rw [buries.slots, if_neg]
    rintro marked
    rw [List.mem_singleton] at marked
    exact outside (marked ▸ member)
  have here : contentAt after.slots position = some slot.buried := by
    rw [buries.slots, if_pos (List.mem_singleton_self position), found]
    rfl
  rw [contents, buries.chain, chain, contentsOf_append, contentsOf_cons here,
    same distinct.1.1, same distinct.1.2]

/-- A connection that succeeds inserts a connection into the entry of its signal. -/
theorem Sane.attach_revises
    {name : String}
    {slot : Slot}
    (sane : registry.Sane)
    (located : registry.find? name = some index)
    (live : slot.removed = false)
    (latest :
      ∀ position other, contentAt registry.slots position = some other →
        other.handle.number < slot.handle.number)
    (attached : registry.attach index slot = .ok after) :
    Revises registry after index slot.connection.insertInto := by
  rcases signalAt_of_find? located with ⟨signal, registered, _⟩
  rcases sane.formed.attach registered live latest attached with ⟨_, position, attaches⟩
  refine revises_of_views attaches.signals (fun _ => ⟨rfl, rfl, rfl⟩) ?_ ?_
  · rw [connections_eq, attaches.contents_eq sane.formed, if_pos rfl, connections_eq]
    exact connectionsOf_insertedInto live (sane.formed.ordered index)
  · intro other different
    rw [connections_eq, attaches.contents_eq sane.formed, if_neg different, connections_eq]

/-- A removal revises the connections of its signal if its detaching and its burying do. -/
theorem Retires.revises
    {kept gone : List Nat}
    {left marked : Signal → Signal}
    {change : List Connection → List Connection}
    (retires : Retires registry after index kept gone left marked)
    (formed : registry.WellFormed)
    (leaving : Hides left)
    (marking : Hides marked)
    (detached :
      Detaches registry after index left kept gone →
        after.connections index = change (registry.connections index))
    (buried :
      Buries registry after index marked gone →
        after.connections index = change (registry.connections index)) :
    Revises registry after index change := by
  cases retires with
  | idle _ _ detaches =>
      refine revises_of_views detaches.signals leaving (detached detaches) ?_
      intro other different
      rw [connections_eq, detaches.contents_eq formed, if_neg different, connections_eq]
  | busy _ _ buries =>
      refine revises_of_views buries.signals marking (buried buries) ?_
      intro other different
      rw [connections_eq, buries.contents_of_ne formed different, connections_eq]

/-- Removing the first live slot that a test accepts removes the first such connection. -/
theorem Sane.retire_revises
    {test : Connection → Bool}
    {position : Nat}
    (sane : registry.Sane)
    (first : registry.firstLive? index (fun slot => test slot.connection) = some position) :
    Revises registry (registry.retire index position).1 index (List.eraseP test) := by
  rcases firstLive?_eq_some first with
    ⟨passed, rest, slot, chain, found, ⟨live, accepted⟩, refused⟩
  have distinct := sane.formed.chained.distinct index
  have content := contentAt_of_get? found
  have fewer : (registry.connections index).eraseP test =
      connectionsOf (contentsOf registry.slots passed ++ contentsOf registry.slots rest) := by
    rw [connections_eq, contents, chain, contentsOf_append, contentsOf_cons content]
    refine eraseP_connectionsOf live accepted ?_
    intro other among quick
    rcases (mem_contentsOf_iff _ _ _).mp among with ⟨place, inPassed, stored⟩
    rcases (contentAt_eq_some_iff _ _ _).mp stored with ⟨kept, there, rfl⟩
    cases tested : test kept.content.connection with
    | false => rfl
    | true => exact absurd ⟨quick, tested⟩ (refused place inPassed kept there)
  refine (sane.formed.retires first).revises sane.formed (fun _ => ⟨rfl, rfl, rfl⟩)
    (fun _ => ⟨rfl, rfl, rfl⟩) ?_ ?_
  · intro detaches
    have outside : position ∉ passed := by
      rw [chain, List.nodup_middle, List.nodup_cons, List.mem_append, not_or] at distinct
      exact distinct.1.1
    rw [connections_eq, detaches.contents_eq sane.formed, if_pos rfl, fewer, chain,
      List.erase_append_right _ outside, List.erase_cons_head, contentsOf_append]
  · intro buries
    rw [connections_eq, buries.contents_eq chain distinct content, fewer, connectionsOf_buried]

/-- Removing all slots of a signal removes all its connections. -/
theorem Sane.retireAll_revises
    {name : String}
    (sane : registry.Sane)
    (located : registry.find? name = some index) :
    Revises registry (registry.retireAll index).2.1 index fun _ => [] := by
  refine (sane.formed.retiresAll located).revises sane.formed (fun _ => ⟨rfl, rfl, rfl⟩)
    (fun _ => ⟨rfl, rfl, rfl⟩) ?_ ?_
  · intro detaches
    rw [connections_eq, detaches.contents_eq sane.formed, if_pos rfl]
    rfl
  · intro buries
    rw [connections_eq, buries.contents_of_all rfl, connectionsOf_map_buried]

/-- Emissions that enter a signal are not seen. -/
theorem Sane.beginEmission_entryAt
    {name : String}
    {signalRef : SignalRef}
    {head : Option Nat}
    (sane : registry.Sane)
    (begun : registry.beginEmission name = .ok (after, signalRef, head)) :
    after.entryAt = registry.entryAt := by
  have adjusts := (sane.formed.beginEmission begun).2.2.2.1
  refine entryAt_of_views adjusts.signals ?_ ?_
  · intro other signal
    rw [onlyAt]
    split <;> exact ⟨rfl, rfl, rfl⟩
  · intro other
    rw [connections_eq, adjusts.contents_eq, connections_eq]

/-- Sweeping is not seen. -/
theorem WellFormed.sweep_entryAt
    {signal : Signal}
    (formed : registry.WellFormed)
    (registered : registry.signals.get? index = some signal) :
    (registry.sweep index).1.entryAt = registry.entryAt := by
  by_cases due : signal.emitting = 0 ∧ 0 < signal.tombstones
  · rcases formed.sweep registered due with ⟨detaches, _, kept, _⟩
    have same : Revises registry (registry.sweep index).1 index id := by
      refine revises_of_views detaches.signals (fun _ => ⟨rfl, rfl, rfl⟩) ?_ ?_
      · rw [connections_eq, kept, connections_eq, id, connectionsOf, List.filter_filter]
        simp only [Bool.and_self]
        rfl
      · intro other different
        rw [connections_eq, detaches.contents_eq formed, if_neg different, connections_eq]
    funext other
    rw [same]
    split
    · exact congrFun Option.map_id (registry.entryAt other)
    · rfl
  · rw [sweep_of_not registered due]

/-- Emissions that leave a signal are not seen. -/
theorem Sane.endEmission_entryAt
    (sane : registry.Sane)
    (signalRef : SignalRef)
    (elapsed : Option Nat) :
    (registry.endEmission signalRef elapsed).1.entryAt = registry.entryAt := by
  cases resolved : registry.resolve? signalRef with
  | none => rw [registry.endEmission_of_resolve?_eq_none _ elapsed resolved]
  | some signal =>
      rcases sane.formed.endEmission resolved elapsed with ⟨left, adjusts, formed, present, ended⟩
      have lowered : left.entryAt = registry.entryAt := by
        refine entryAt_of_views adjusts.signals ?_ ?_
        · intro other signal
          rw [onlyAt]
          split <;> exact ⟨rfl, rfl, rfl⟩
        · intro other
          rw [connections_eq, adjusts.contents_eq, connections_eq]
      rw [ended, formed.sweep_entryAt present, lowered]

/-- A registration adds an entry without connections. -/
theorem Sane.register_entryAt
    {name : String}
    {description : Option String}
    {priority : Priority}
    {serial : Nat}
    (sane : registry.Sane)
    (registered : registry.register name description priority serial = .ok after) :
    ∃ place, registry.entryAt place = none ∧
      ∀ other,
        after.entryAt other =
          if place = other then some ⟨name, description, priority, []⟩
          else registry.entryAt other := by
  rcases register_spec sane.formed registered with ⟨_, slots, _, _, place, vacant, signals⟩
  have chain := (register_chained sane.formed registered).chain_eq
  have connections (other : Nat) : after.connections other = registry.connections other := by
    rw [Registry.connections, slotsOf, chain, slots]
    rfl
  refine ⟨place, ?_, ?_⟩
  · rw [entryAt, (signalAt_eq_none_iff _ _).mpr vacant]
    rfl
  · intro other
    rw [entryAt, entryOf_congr (connections other), signalAt, signals]
    split
    next same =>
      subst same
      have nothing : registry.connections place = [] := by
        rw [Registry.connections, slotsOf, sane.formed.chained.unregistered vacant]
        rfl
      rw [Option.map_some, Option.map_some, entryOf, nothing]
      rfl
    next => rfl

/-- The end of a registration takes its entry away. -/
theorem Sane.unregister_entryAt
    {name : String}
    {released : List Slot}
    (sane : registry.Sane)
    (done : registry.unregister name = .ok (after, released)) :
    ∃ place, registry.find? name = some place ∧
      ∀ other, after.entryAt other = if place = other then none else registry.entryAt other := by
  rcases sane.formed.unregister done with ⟨place, signal, registered, named, drops, _⟩
  refine ⟨place, (sane.formed.find?_eq_some_iff name place).mpr ⟨signal, registered, named⟩, ?_⟩
  intro other
  rw [entryAt, drops.signals]
  split
  · rfl
  next different =>
    have same : after.connections other = registry.connections other := by
      rw [connections_eq, contents, drops.chain, Function.update_of_ne (Ne.symm different),
        connections_eq, contents]
      refine congrArg _ (contentsOf_congr ?_)
      intro position member
      rw [drops.slots, if_neg]
      exact fun inside => different (sane.formed.chained.apart inside member)
    rw [entryOf_congr same]
    rfl

end Registry

end SignalDispatch
