import SignalDispatch.Proofs.Bus.Invariant
import SignalDispatch.Proofs.Machine.Moves
import Mathlib.Logic.Relation

/-!
# Reachable states

A machine moves by a step, or by starting an operation when nothing is left to be done.  The program
may be another one at every move, so nothing is assumed about what user code does.

A state is coherent when its bus is sane and its emissions agree with it: the depth of a signal is
the number of emissions that walk its registration, and the cursor of a walk whose registration is
still there is in the chain of that registration.  Every reachable state is coherent.
-/

namespace SignalDispatch

namespace Bus

/-- Whether a registration is still there. -/
def Resolves (bus : Bus) (signalRef : SignalRef) : Prop :=
  ∃ signal, bus.signalAt signalRef.index = some signal ∧ signal.serial = signalRef.serial

theorem resolves_iff {bus : Bus} {registry : Registry} (present : bus.registry = some registry)
    (signalRef : SignalRef) :
    bus.Resolves signalRef ↔ (registry.resolve? signalRef).isSome := by
  rw [Option.isSome_iff_exists, Resolves, signalAt_of_some present]
  constructor
  · rintro ⟨_, found, same⟩
    rcases (Registry.signalAt_eq_some_iff _ _ _).mp found with ⟨signal, stored, rfl⟩
    exact ⟨signal, (Registry.resolve?_eq_some_iff _ _ _).mpr ⟨stored, same⟩⟩
  · rintro ⟨signal, resolved⟩
    rcases (Registry.resolve?_eq_some_iff _ _ _).mp resolved with ⟨stored, same⟩
    exact ⟨signal.content, Registry.signalAt_of_get? stored, same⟩

theorem not_resolves_of_none {bus : Bus} (absent : bus.registry = none) (signalRef : SignalRef) :
    ¬ bus.Resolves signalRef := by
  rintro ⟨signal, found, _⟩
  rw [signalAt_of_none absent] at found
  cases found

/-- A registration made before is resolved afterwards only if it was resolved before. -/
theorem Retains.resolves_before
    {before after : Bus}
    {depth : Nat → Nat → Nat}
    {signalRef : SignalRef}
    (retains : Retains depth before after)
    (known : signalRef.serial < before.nextSerial)
    (resolves : after.Resolves signalRef) :
    ∃ earlier signal,
      before.signalAt signalRef.index = some earlier ∧ earlier.serial = signalRef.serial ∧
        after.signalAt signalRef.index = some signal ∧
        signal.emitting = depth signalRef.index earlier.emitting := by
  rcases resolves with ⟨signal, found, serial⟩
  rcases retains.signals found with ⟨earlier, there, same, _, emitting⟩ | ⟨fresh, _⟩
  · exact ⟨earlier, signal, there, same.symm.trans serial, found, emitting⟩
  · omega

end Bus

/-! ## Agreement with the emissions in progress -/

/-- The emissions in progress agree with the bus. -/
structure Coherent (bus : Bus) (walks : List Walk) : Prop where
  sane : bus.Sane
  known : ∀ walk ∈ walks, walk.signalRef.serial < bus.nextSerial
  depths :
    ∀ {index signal}, bus.signalAt index = some signal →
      signal.emitting = (walks.map Walk.signalRef).count ⟨index, signal.serial⟩
  cursors :
    ∀ walk ∈ walks, bus.Resolves walk.signalRef →
      ∀ position, walk.cursor = some position → position ∈ bus.chain walk.signalRef.index

namespace Coherent

variable {bus after : Bus} {walks later : List Walk} {walk : Walk}

/-- A registration that is walked has a depth. -/
theorem depth_ne_zero
    (coherent : Coherent bus walks)
    (member : walk ∈ walks)
    {signal : Signal}
    (found : bus.signalAt walk.signalRef.index = some signal)
    (serial : signal.serial = walk.signalRef.serial) :
    signal.emitting ≠ 0 := by
  rw [coherent.depths found, serial]
  have counted : walk.signalRef ∈ walks.map Walk.signalRef :=
    List.mem_map.mpr ⟨walk, member, rfl⟩
  exact Nat.ne_of_gt (List.count_pos_iff.mpr counted)

/-- What retains a bus keeps the emissions in agreement, if it counts them and leaves the cursors
of the old ones alone. -/
theorem retain
    {depth : Nat → Nat → Nat}
    (coherent : Coherent bus walks)
    (sane : after.Sane)
    (retains : Bus.Retains depth bus after)
    (known : ∀ walk ∈ later, walk.signalRef.serial < bus.nextSerial)
    (depths :
      ∀ {index signal}, bus.signalAt index = some signal →
        depth index signal.emitting = (later.map Walk.signalRef).count ⟨index, signal.serial⟩)
    (cursors :
      ∀ walk ∈ later, walk ∈ walks ∨
        ∀ position, walk.cursor = some position → position ∈ after.chain walk.signalRef.index) :
    Coherent after later := by
  have counts {index : Nat} {signal : Signal} (found : after.signalAt index = some signal) :
      signal.emitting = (later.map Walk.signalRef).count ⟨index, signal.serial⟩ := by
    rcases retains.signals found with ⟨earlier, there, serial, _, emitting⟩ | ⟨fresh, idle⟩
    · rw [emitting, depths there, serial]
    · rw [idle]
      refine (List.count_eq_zero.mpr ?_).symm
      intro member
      rcases List.mem_map.mp member with ⟨walk, among, same⟩
      have bound := known walk among
      rw [same] at bound
      exact Nat.lt_irrefl _ (Nat.lt_of_lt_of_le bound fresh)
  refine ⟨sane, ?_, counts, ?_⟩
  · intro walk member
    exact Nat.lt_of_lt_of_le (known walk member) retains.counts.nextSerial
  · intro walk member resolves position cursor
    rcases cursors walk member with old | placed
    · rcases retains.resolves_before (known walk member) resolves with
        ⟨earlier, signal, there, serial, found, _⟩
      have deep := coherent.depth_ne_zero old there serial
      have counted : walk.signalRef ∈ later.map Walk.signalRef :=
        List.mem_map.mpr ⟨walk, member, rfl⟩
      have same : signal.serial = walk.signalRef.serial := by
        rcases resolves with ⟨other, again, serial'⟩
        rw [found, Option.some.injEq] at again
        rw [again, serial']
      have deepAfter : signal.emitting ≠ 0 := by
        rw [counts found, same]
        exact Nat.ne_of_gt (List.count_pos_iff.mpr counted)
      exact (retains.chains there found deep deepAfter).subset
        (coherent.cursors walk old ⟨earlier, there, serial⟩ position cursor)
    · exact placed position cursor

/-- A call keeps the emissions in agreement. -/
theorem shift
    {operation : Option Operation}
    (coherent : Coherent bus walks)
    (shifts : Bus.Shifts operation bus after) :
    Coherent after walks := by
  rcases shifts.sane coherent.sane with ⟨sane, retains⟩
  exact coherent.retain sane retains coherent.known (fun found => coherent.depths found)
    fun _ member => Or.inl member

/-- An emission that enters its signal joins the ones in progress. -/
theorem enter
    {registry next : Registry}
    {name : String}
    (coherent : Coherent bus walks)
    (present : bus.registry = some registry)
    (begun : registry.beginEmission name = .ok (next, walk.signalRef, walk.cursor))
    (replaced : after.registry = some next)
    (counts : Bus.CountsOn bus after) :
    Coherent after (walk :: walks) ∧ ∃ depth, Bus.Retains depth bus after := by
  have kept :
      next.Sane ∧
        Registry.Retains (Registry.Sane.deeper walk.signalRef.index) none none registry next :=
    (coherent.sane.registry present).beginEmission begun
  rcases coherent.sane.replace_undrawn present replaced counts kept with ⟨sane, retains⟩
  rcases (coherent.sane.registry present).formed.beginEmission begun with
    ⟨_, head, ⟨signal, stored, serial, _⟩, adjusts, _⟩
  have found := Bus.signalAt_of_get? present stored
  refine ⟨coherent.retain sane retains ?_ ?_ ?_, _, retains⟩
  · intro other member
    rcases List.mem_cons.mp member with rfl | old
    · have bound := coherent.sane.serials found
      rw [Signal.content_serial, serial] at bound
      exact bound
    · exact coherent.known other old
  · intro index earlier there
    rw [List.map_cons, List.count_cons, ← coherent.depths there, Registry.Sane.deeper]
    by_cases same : walk.signalRef.index = index
    · subst same
      rw [found, Option.some.injEq] at there
      subst there
      have self : walk.signalRef = ⟨walk.signalRef.index, signal.content.serial⟩ := by
        rw [Signal.content_serial, serial]
      rw [if_pos rfl, if_pos (beq_iff_eq.mpr self)]
    · have other : walk.signalRef ≠ ⟨index, earlier.serial⟩ :=
        fun equal => same (congrArg SignalRef.index equal)
      rw [if_neg same, if_neg (fun equal => other (beq_iff_eq.mp equal)), Nat.add_zero]
  · intro other member
    rcases List.mem_cons.mp member with rfl | old
    · refine Or.inr ?_
      intro position cursor
      rw [Bus.chain_of_some replaced, adjusts.chain]
      rw [head] at cursor
      exact List.mem_of_mem_head? (Option.mem_def.mpr cursor)
    · exact Or.inl old

/-- An emission that leaves its signal is no longer in progress. -/
theorem leave
    (coherent : Coherent bus (walk :: walks))
    (elapsed : Option Nat) :
    Coherent (bus.leaving walk.signalRef elapsed) walks ∧
      ∃ depth, Bus.Retains depth bus (bus.leaving walk.signalRef elapsed) := by
  have known : ∀ other ∈ walks, other.signalRef.serial < bus.nextSerial :=
    fun other member => coherent.known other (List.mem_cons_of_mem _ member)
  have old : ∀ other ∈ walks, other ∈ walk :: walks ∨
      ∀ position, other.cursor = some position →
        position ∈ (bus.leaving walk.signalRef elapsed).chain other.signalRef.index :=
    fun other member => Or.inl (List.mem_cons_of_mem _ member)
  by_cases resolves : bus.Resolves walk.signalRef
  · rcases resolves with ⟨content, found, serial⟩
    cases present : bus.registry with
    | none =>
        rw [Bus.signalAt_of_none present] at found
        cases found
    | some registry =>
        have view := found
        rw [Bus.signalAt_of_some present] at view
        rcases (Registry.signalAt_eq_some_iff _ _ _).mp view with ⟨signal, stored, rfl⟩
        have resolved : registry.resolve? walk.signalRef = some signal :=
          (Registry.resolve?_eq_some_iff _ _ _).mpr ⟨stored, serial⟩
        have left :
            bus.leaving walk.signalRef elapsed =
              bus.setRegistry (registry.endEmission walk.signalRef elapsed).1 := by
          rw [Bus.leaving, present]
        have kept :
            (registry.endEmission walk.signalRef elapsed).1.Sane ∧
              Registry.Retains (Registry.Sane.shallower walk.signalRef.index) none none registry
                (registry.endEmission walk.signalRef elapsed).1 :=
          (coherent.sane.registry present).endEmission resolved elapsed
        rw [left] at old ⊢
        rcases coherent.sane.setRegistry present kept with ⟨sane, retains⟩
        refine ⟨coherent.retain sane retains known ?_ old, _, retains⟩
        intro index earlier there
        rw [coherent.depths there, List.map_cons, List.count_cons, Registry.Sane.shallower]
        by_cases same : walk.signalRef.index = index
        · subst same
          rw [found, Option.some.injEq] at there
          subst there
          have self : walk.signalRef = ⟨walk.signalRef.index, signal.content.serial⟩ := by
            rw [serial]
          rw [if_pos rfl, if_pos (beq_iff_eq.mpr self), Nat.add_sub_cancel]
        · have other : walk.signalRef ≠ ⟨index, earlier.serial⟩ :=
            fun equal => same (congrArg SignalRef.index equal)
          rw [if_neg same, if_neg (fun equal => other (beq_iff_eq.mp equal)), Nat.add_zero]
  · have same : (bus.leaving walk.signalRef elapsed).registry = bus.registry := by
      rw [Bus.leaving]
      cases present : bus.registry with
      | none => exact present
      | some registry =>
          have gone : registry.resolve? walk.signalRef = none := by
            rw [Bus.resolves_iff present, Option.not_isSome_iff_eq_none] at resolves
            exact resolves
          have unchanged := registry.endEmission_of_resolve?_eq_none _ elapsed gone
          simp only [Bus.setRegistry, unchanged]
    have counts : Bus.CountsOn bus (bus.leaving walk.signalRef elapsed) := by
      rw [Bus.leaving]
      split <;> exact ⟨Nat.le_refl _, Nat.le_refl _⟩
    have shifts : Bus.Shifts none bus (bus.leaving walk.signalRef elapsed) := .keep same counts
    rcases shifts.sane coherent.sane with ⟨sane, retains⟩
    refine ⟨coherent.retain sane retains known ?_ old, _, retains⟩
    intro index earlier there
    have other : walk.signalRef ≠ ⟨index, earlier.serial⟩ := by
      intro equal
      exact resolves ⟨earlier, by rw [equal]; exact there, by rw [equal]⟩
    rw [Registry.sameDepth, coherent.depths there, List.map_cons, List.count_cons,
      if_neg (fun equal => other (beq_iff_eq.mp equal)), Nat.add_zero]

/-- The innermost emission may change apart from its registration, if its cursor stays in the
chain. -/
theorem innermost
    {same : Walk}
    (coherent : Coherent bus (walk :: walks))
    (signalRef : same.signalRef = walk.signalRef)
    (cursor :
      bus.Resolves walk.signalRef → ∀ position, same.cursor = some position →
        position ∈ bus.chain walk.signalRef.index) :
    Coherent bus (same :: walks) := by
  refine ⟨coherent.sane, ?_, ?_, ?_⟩
  · intro other member
    rcases List.mem_cons.mp member with rfl | old
    · rw [signalRef]
      exact coherent.known walk List.mem_cons_self
    · exact coherent.known other (List.mem_cons_of_mem _ old)
  · intro index signal found
    rw [coherent.depths found, List.map_cons, List.map_cons, signalRef]
  · intro other member resolves position placed
    rcases List.mem_cons.mp member with rfl | old
    · rw [signalRef] at resolves ⊢
      exact cursor resolves position placed
    · exact coherent.cursors other (List.mem_cons_of_mem _ old) resolves position placed

end Coherent

end SignalDispatch
