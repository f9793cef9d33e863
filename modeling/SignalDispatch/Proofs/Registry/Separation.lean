import SignalDispatch.Proofs.Registry.Admission
import SignalDispatch.Proofs.Registry.Leaving

/-!
# Signals apart

All slots of a registry share one arena, and all signals another, both with indices that are used
again.  What keeps signals apart is that their chains are disjoint: every change of a registry is
confined to the signal at one index, to the positions of its chain, and to positions that no chain
held.

`Registry.Confined` states this for the three maps of a registry, one lemma for each way of changing
it.  Between well-formed registries it determines the links as well, so that nothing at all is
different for any other signal: `Registry.Untouched`.
-/

namespace SignalDispatch

theorem Signal.eq_of_content
    {left right : Signal}
    (content : left.content = right.content)
    (head : left.head = right.head) :
    left = right := by
  cases left
  cases right
  simp only [Signal.content, Signal.mk.injEq, true_and] at content head ⊢
  simp only [content, head, and_self]

theorem Slot.eq_of_content
    {left right : Slot}
    (content : left.content = right.content)
    (next : left.next = right.next) :
    left = right := by
  cases left
  cases right
  simp only [Slot.content, Slot.mk.injEq, and_true] at content next ⊢
  simp only [content, next, and_self]

namespace Registry

/-- A signal, the positions of its chain and the whole sequence of its slots are what they were,
links included. -/
structure Untouched (before after : Registry) (index : Nat) : Prop where
  signal : after.signals.get? index = before.signals.get? index
  chain : after.chain index = before.chain index
  slotsOf : after.slotsOf index = before.slotsOf index

/-- Nothing has changed but for the signal at one index, links apart. -/
def Confined (before after : Registry) (index : Nat) : Prop :=
  ∀ other, other ≠ index →
    after.signalAt other = before.signalAt other ∧ after.chain other = before.chain other ∧
      ∀ position ∈ before.chain other,
        contentAt after.slots position = contentAt before.slots position

namespace Confined

variable {before middle after : Registry} {index : Nat}

theorem refl (registry : Registry) (index : Nat) : Confined registry registry index :=
  fun _ _ => ⟨rfl, rfl, fun _ _ => rfl⟩

theorem trans (first : Confined before middle index) (second : Confined middle after index) :
    Confined before after index := by
  intro other different
  rcases first other different with ⟨signal, chain, slots⟩
  rcases second other different with ⟨signal', chain', slots'⟩
  refine ⟨signal'.trans signal, chain'.trans chain, ?_⟩
  intro position member
  exact (slots' position (chain ▸ member)).trans (slots position member)

/-- Chains determine links: what is confined to one signal leaves every other untouched. -/
theorem untouched
    (confined : Confined before after index)
    (formed : before.WellFormed)
    (formedAfter : after.WellFormed)
    {other : Nat}
    (different : other ≠ index) :
    Untouched before after other := by
  rcases confined other different with ⟨signal, chain, slots⟩
  refine ⟨?_, chain, ?_⟩
  · cases stored : before.signals.get? other with
    | none =>
        rw [(signalAt_eq_none_iff _ _).mpr stored] at signal
        exact (signalAt_eq_none_iff _ _).mp signal
    | some found =>
        rw [signalAt_of_get? stored] at signal
        rcases (signalAt_eq_some_iff _ _ _).mp signal with ⟨later, present, content⟩
        rw [present, Signal.eq_of_content content]
        rw [formedAfter.head_eq present, formed.head_eq stored, chain]
  · rw [Registry.slotsOf, Registry.slotsOf, chain]
    refine List.filterMap_congr ?_
    intro position member
    rcases List.append_of_mem member with ⟨passed, rest, split⟩
    rcases formed.next_eq split with ⟨slot, stored, next⟩
    rcases formedAfter.next_eq (chain.trans split) with ⟨later, present, nextAfter⟩
    have content := slots position member
    rw [contentAt_of_get? stored, contentAt_of_get? present, Option.some.injEq] at content
    rw [stored, present, Slot.eq_of_content content (nextAfter.trans next.symm)]

end Confined

variable {registry before after : Registry} {index position : Nat}

/-! ## Changes confined to one signal -/

/-- Positions of one chain are not in another. -/
theorem WellFormed.not_mem_of_ne
    (formed : registry.WellFormed)
    {other : Nat}
    (different : other ≠ index)
    (member : position ∈ registry.chain other) :
    position ∉ registry.chain index :=
  fun here => different (formed.chained.apart member here)

theorem Attaches.confined
    {slot : Slot}
    (attaches : Attaches before after index slot position)
    (formed : before.WellFormed) :
    Confined before after index := by
  intro other different
  refine ⟨?_, ?_, ?_⟩
  · rw [attaches.signals, if_neg (Ne.symm different)]
  · rw [attaches.chain, Function.update_of_ne different]
  · intro place member
    rw [attaches.slots, if_neg]
    rintro rfl
    have stored := formed.contentAt_isSome member
    rw [attaches.vacant] at stored
    cases stored

theorem Detaches.confined
    {change : Signal → Signal}
    {kept gone : List Nat}
    (detaches : Detaches before after index change kept gone)
    (formed : before.WellFormed) :
    Confined before after index := by
  intro other different
  refine ⟨?_, ?_, ?_⟩
  · rw [detaches.signals, if_neg (Ne.symm different)]
  · rw [detaches.chain, Function.update_of_ne different]
  · intro place member
    rw [detaches.slots, if_neg]
    exact fun inside =>
      formed.not_mem_of_ne different member ((detaches.parts place).mp inside).1

theorem Buries.confined
    {change : Signal → Signal}
    {marked : List Nat}
    (buries : Buries before after index change marked)
    (formed : before.WellFormed) :
    Confined before after index := by
  intro other different
  refine ⟨?_, by rw [buries.chain], ?_⟩
  · rw [buries.signals, if_neg (Ne.symm different)]
  · intro place member
    rw [buries.slots, if_neg]
    exact fun inside => formed.not_mem_of_ne different member (buries.subset inside)

theorem Drops.confined
    (drops : Drops before after index)
    (formed : before.WellFormed) :
    Confined before after index := by
  intro other different
  refine ⟨?_, ?_, ?_⟩
  · rw [drops.signals, if_neg (Ne.symm different)]
  · rw [drops.chain, Function.update_of_ne different]
  · intro place member
    rw [drops.slots, if_neg (formed.not_mem_of_ne different member)]

theorem Adjusts.confined
    {change : Signal → Signal}
    (adjusts : Adjusts before after (onlyAt index change)) :
    Confined before after index := by
  intro other different
  refine ⟨?_, by rw [adjusts.chain], fun _ _ => by rw [adjusts.slots]⟩
  rw [adjusts.signals]
  cases before.signalAt other with
  | none => rfl
  | some signal => rw [Option.map_some, onlyAt, if_neg (Ne.symm different)]

theorem Retires.confined
    {kept gone : List Nat}
    {left marked : Signal → Signal}
    (retires : Retires before after index kept gone left marked)
    (formed : before.WellFormed) :
    Confined before after index ∧ after.WellFormed := by
  cases retires with
  | idle _ _ detaches formedAfter => exact ⟨detaches.confined formed, formedAfter⟩
  | busy _ _ buries formedAfter => exact ⟨buries.confined formed, formedAfter⟩

/-! ## Operations confined to one signal -/

/-- Every signal that is registered is apart from the index that a new one takes. -/
theorem WellFormed.register_confined
    (formed : registry.WellFormed)
    {name : String}
    {description : Option String}
    {priority : Priority}
    {serial : Nat}
    (registered : registry.register name description priority serial = .ok after) :
    ∃ index, registry.signals.get? index = none ∧ Confined registry after index := by
  have chain := (register_chained formed registered).chain_eq
  rcases register_spec formed registered with ⟨_, slots, _, _, index, vacant, signals⟩
  refine ⟨index, vacant, ?_⟩
  intro other different
  refine ⟨?_, by rw [chain], fun _ _ => by rw [slots]⟩
  rw [signalAt, signals, if_neg (Ne.symm different), signalAt]

theorem WellFormed.sweep_confined
    {signal : Signal}
    (formed : registry.WellFormed)
    (registered : registry.signals.get? index = some signal) :
    Confined registry (registry.sweep index).1 index ∧ (registry.sweep index).1.WellFormed := by
  by_cases due : signal.emitting = 0 ∧ 0 < signal.tombstones
  · rcases formed.sweep registered due with ⟨detaches, formedAfter, _⟩
    exact ⟨detaches.confined formed, formedAfter⟩
  · rw [sweep_of_not registered due]
    exact ⟨.refl _ _, formed⟩

/-- An emission that leaves its signal, with the sweep. -/
theorem WellFormed.endEmission_confined
    (formed : registry.WellFormed)
    (signalRef : SignalRef)
    (elapsed : Option Nat) :
    Confined registry (registry.endEmission signalRef elapsed).1 signalRef.index ∧
      (registry.endEmission signalRef elapsed).1.WellFormed := by
  cases resolved : registry.resolve? signalRef with
  | none =>
      rw [endEmission_of_resolve?_eq_none _ _ _ resolved]
      exact ⟨.refl _ _, formed⟩
  | some signal =>
      rcases formed.endEmission resolved elapsed with ⟨left, adjusts, formedLeft, present, ended⟩
      rcases formedLeft.sweep_confined present with ⟨confined, formedAfter⟩
      rw [ended]
      exact ⟨adjusts.confined.trans confined, formedAfter⟩

end Registry

end SignalDispatch
