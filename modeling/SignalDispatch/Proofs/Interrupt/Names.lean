import SignalDispatch.Proofs.Interrupt.Conservation
import SignalDispatch.Proofs.Text.Truncation

/-!
# Names in an interrupt queue

An entry keeps the longest prefix of whole characters of a name that its buffer has room for, and
behind it whatever longer names have left there.  `NamesSurvive` says of every history that every
accepted push was handed out, or waits where draining comes to it, with its value and this prefix of
its name, and that the bytes of every pending entry can be read back.
-/

namespace SignalDispatch

namespace InterruptEntry

/-- The bytes of the name in an entry are those of a text with at least one character. -/
def Legible (entry : InterruptEntry) : Prop :=
  ∃ text, Utf8.decode? (entry.buffer.take entry.used.toNat) = some text ∧ text ≠ ""

theorem Legible.decode?_eq {entry : InterruptEntry} (legible : entry.Legible) :
    Utf8.decode? (entry.buffer.take entry.used.toNat) = some entry.name ∧ entry.name ≠ "" := by
  rcases legible with ⟨text, decoded, named⟩
  have same : entry.name = text := by rw [InterruptEntry.name, decoded, Option.getD_some]
  rw [same]
  exact ⟨decoded, named⟩

/-- An entry keeps the longest prefix of a name that it has room for, and this can be read back. -/
theorem truncated_spec (name : String) :
    Utf8.decode?
        ((Utf8.bytes name).take
          (Utf8.keptLength (Utf8.bytes name) Limits.interruptNameBytes)) =
      some (truncated name) ∧
        Utf8.LongestFit Limits.interruptNameBytes name (truncated name) := by
  rcases Utf8.kept_spec name Limits.interruptNameBytes with ⟨kept, decoded, fit⟩
  have same : truncated name = kept := by
    simp only [truncated, decoded, Option.getD_some]
  rw [same]
  exact ⟨decoded, fit⟩

/-- What is written can be read back, whatever the entry held before. -/
theorem legible_write
    (entry : InterruptEntry)
    {name : String}
    (value : Int32)
    (named : name ≠ "") :
    (entry.write name value).Legible := by
  rcases truncated_spec name with ⟨decoded, fit⟩
  exact ⟨_, (take_write entry name value).symm ▸ decoded,
    fit.ne_empty Limits.four_le_interruptNameBytes named⟩

end InterruptEntry

namespace InterruptQueue

variable {queue : InterruptQueue} {name : String} {value : Int32} {pushed rest : InterruptQueue}

/-- Every pending entry holds a name that can be read back. -/
def Legible (queue : InterruptQueue) : Prop :=
  ∀ entry ∈ queue.entries, entry.state = .pending → entry.Legible

theorem legible_ofCapacity (capacity : Nat) : (ofCapacity capacity).Legible := by
  intro entry member waits
  rw [(List.mem_replicate.mp member).2] at waits
  cases waits

/-- Only names that are not empty are accepted. -/
theorem ne_empty_of_push (accepted : queue.push name value = .ok pushed) : name ≠ "" := by
  rintro rfl
  rw [push] at accepted
  cases accepted

/-- A queue stays legible if the entry that is changed does. -/
theorem Legible.modify
    {index : Nat}
    {change : InterruptEntry → InterruptEntry}
    (legible : queue.Legible)
    (changed : ∀ entry, (change entry).state = .pending → (change entry).Legible) :
    (queue.modify index change).Legible := by
  intro entry member waits
  rcases List.getElem?_of_mem member with ⟨other, stored⟩
  simp only [InterruptQueue.modify, List.getElem?_modify, Option.map_eq_map,
    Option.map_eq_some_iff] at stored
  rcases stored with ⟨before, stored, same⟩
  split at same
  · exact same ▸ changed before (same ▸ waits)
  · exact same ▸ legible before (List.mem_of_getElem? stored) (same ▸ waits)

theorem Legible.push
    (legible : queue.Legible)
    (accepted : queue.push name value = .ok pushed) :
    pushed.Legible := by
  have named := ne_empty_of_push accepted
  unfold InterruptQueue.push at accepted
  split at accepted
  · cases accepted
  split at accepted
  · cases accepted
  next found =>
    rcases claim?_eq_some found with ⟨_, _, rfl⟩
    cases accepted
    refine Legible.modify (legible.modify fun _ waits => by cases waits) ?_
    exact fun entry _ => entry.legible_write value named

theorem Legible.take?
    {position : Nat}
    {item : InterruptItem}
    (legible : queue.Legible)
    (taken : queue.take? position = some (item, rest)) :
    rest.Legible := by
  unfold InterruptQueue.take? at taken
  split at taken
  · cases taken
  next found =>
    rcases claim?_eq_some found with ⟨_, _, rfl⟩
    rcases Option.map_eq_some_iff.mp taken with ⟨entry, _, same⟩
    cases same
    refine Legible.modify (legible.modify fun _ waits => ?_) fun _ waits => ?_
    · cases waits
    · cases waits

/-- An item is handed out under the name that the bytes of its entry are read as. -/
theorem Legible.decode?_of_take?
    {position : Nat}
    {item : InterruptItem}
    (legible : queue.Legible)
    (taken : queue.take? position = some (item, rest)) :
    ∃ entry,
      queue.entries[item.index]? = some entry ∧
        Utf8.decode? (entry.buffer.take entry.used.toNat) = some item.name := by
  have waits := (yields_of_take? taken).waits
  rcases Option.map_eq_some_iff.mp waits with ⟨entry, found, same⟩
  rcases Option.filter_eq_some_iff.mp found with ⟨stored, pending⟩
  have read := (legible entry (List.mem_of_getElem? stored) (of_decide_eq_true pending)).decode?_eq
  refine ⟨entry, stored, ?_⟩
  rw [read.1, ← same]

end InterruptQueue

/-- Along a history every pending entry holds a name that can be read back. -/
theorem History.legible
    {start reached : Traffic}
    {events : List QueueEvent}
    (history : History start events reached)
    (legible : start.queue.Legible) :
    reached.queue.Legible := by
  induction history with
  | refl => exact legible
  | next _ proceeds ih =>
      cases proceeds with
      | accepts _ accepted => exact ih.push accepted
      | hands taken => exact ih.take? taken
      | refuses | begins | returns | finishes | panics => exact ih

/-- What was pushed under every ticket has a name. -/
theorem History.named
    {capacity : Nat}
    {events : List QueueEvent}
    {reached : Traffic}
    (history : History (.ofCapacity capacity) events reached) :
    ∀ item ∈ (Ledger.ofEvents events).accepted, item.name ≠ "" := by
  rw [history.items_eq.1]
  induction history with
  | refl => exact nofun
  | @next events event _ _ _ proceeds ih =>
      intro item member
      rw [List.filterMap_append, List.mem_append] at member
      rcases member with earlier | last
      · exact ih item earlier
      · cases proceeds with
        | accepts _ accepted =>
            have same : item = _ := List.mem_singleton.mp last
            exact same ▸ InterruptQueue.ne_empty_of_push accepted
        | refuses | begins | hands | returns | finishes | panics => cases last

/-- An item has the value that was pushed and the longest prefix of whole characters of the name
that was pushed; it is not empty, and it is the whole name if there is room for it. -/
structure InterruptItem.Survives (pushed item : InterruptItem) : Prop where
  value : item.value = pushed.value
  fit : Utf8.LongestFit Limits.interruptNameBytes pushed.name item.name
  named : item.name ≠ ""
  whole : pushed.name.utf8ByteSize ≤ Limits.interruptNameBytes → item.name = pushed.name

/-- An item with a name survives as it is kept. -/
theorem InterruptItem.survives_kept {pushed : InterruptItem} (named : pushed.name ≠ "") :
    pushed.Survives pushed.kept := by
  have fit := (InterruptEntry.truncated_spec pushed.name).2
  constructor
  · rfl
  · exact fit
  · exact fit.ne_empty Limits.four_le_interruptNameBytes named
  · exact fit.eq_of_fits

/-- An item waits in its entry, and is not passed over. -/
structure InterruptQueue.Offers (queue : InterruptQueue) (item : InterruptItem) : Prop where
  waits : queue.item? item.index = some item
  /-- It is handed out from every position from which it is the first that waits. -/
  taken :
    ∀ position ≤ item.index,
      (∀ earlier, position ≤ earlier → earlier < item.index → queue.item? earlier = none) →
        ∃ rest, queue.take? position = some (item, rest)
  /-- Draining hands it out from every position at or before its entry. -/
  drained : ∀ position ≤ item.index, item ∈ (queue.takeFrom queue.capacity position).1

/-- What waits is offered. -/
theorem InterruptQueue.offers
    {queue : InterruptQueue}
    {item : InterruptItem}
    (waits : queue.item? item.index = some item) :
    queue.Offers item where
  waits := waits
  taken := fun _ passed first => exists_take? waits passed first
  drained := fun _ passed => mem_takeFrom waits passed (Nat.le_add_left _ _)

/-- A name goes through an interrupt queue intact, up to the length that an entry keeps. -/
structure NamesSurvive (events : List QueueEvent) (reached : Traffic) : Prop where
  /-- Every accepted push was handed out, or waits in the entry that it went to. -/
  accounted :
    ∀ ticket pushed, (Ledger.ofEvents events).accepted[ticket]? = some pushed →
      (∃ delivery ∈ (Ledger.ofEvents events).deliveries,
        delivery.ticket = ticket ∧ pushed.Survives delivery.item) ∨
      ∃ item, (Ledger.ofEvents events).lodged item.index = ticket ∧ pushed.Survives item ∧
        reached.queue.Offers item
  /-- What is handed out was pushed. -/
  delivered :
    ∀ delivery ∈ (Ledger.ofEvents events).deliveries,
      ∃ pushed,
        (Ledger.ofEvents events).accepted[delivery.ticket]? = some pushed ∧
          pushed.Survives delivery.item
  /-- What waits was pushed. -/
  waits :
    ∀ index item, reached.queue.item? index = some item →
      ∃ pushed,
        (Ledger.ofEvents events).accepted[(Ledger.ofEvents events).lodged index]? = some pushed ∧
          pushed.Survives item
  /-- The place where a name is cut is found before the search has come to the start. -/
  stops :
    ∀ pushed ∈ (Ledger.ofEvents events).accepted,
      Utf8.SearchStops (Utf8.bytes pushed.name) Limits.interruptNameBytes
  /-- The bytes of a pending entry can be read back, and are not none. -/
  legible :
    ∀ entry ∈ reached.queue.entries, entry.state = .pending →
      Utf8.decode? (entry.buffer.take entry.used.toNat) = some entry.name ∧ entry.name ≠ ""
  /-- They are read back when the entry is handed out. -/
  decoded :
    ∀ position item rest, reached.queue.take? position = some (item, rest) →
      ∃ entry,
        reached.queue.entries[item.index]? = some entry ∧
          Utf8.decode? (entry.buffer.take entry.used.toNat) = some item.name

namespace Ledger.Tallies

variable {ledger : Ledger} {queue : InterruptQueue} {pushed : InterruptItem}

/-- A ticket was handed out, or its item waits. -/
theorem handed_or_waits
    (tallies : ledger.Tallies queue)
    {ticket : Nat}
    (found : ledger.accepted[ticket]? = some pushed) :
    (∃ delivery ∈ ledger.deliveries, delivery.ticket = ticket ∧ delivery.item = pushed.kept) ∨
      (ledger.lodged pushed.index = ticket ∧
        queue.item? pushed.index = some pushed.kept) := by
  have drawn : ticket ∈ List.range ledger.accepted.length :=
    List.mem_range.mpr (List.getElem?_eq_some_iff.mp found).1
  have known := tallies.tickets.mem_iff.mpr drawn
  simp only [List.mem_append, List.mem_map] at known
  rcases known with ⟨delivery, member, rfl⟩ | ⟨index, member, rfl⟩
  · rcases tallies.delivered delivery member with ⟨other, same, kept⟩
    rw [found, Option.some.injEq] at same
    exact Or.inl ⟨delivery, member, rfl, same ▸ kept⟩
  · rcases Option.isSome_iff_exists.mp (InterruptQueue.mem_waiting.mp member) with ⟨item, waits⟩
    rcases tallies.waits index item waits with ⟨other, same, rfl⟩
    rw [found, Option.some.injEq] at same
    subst same
    -- the entry of an item is the one it waits in
    have here : pushed.kept.index = index := InterruptQueue.index_of_item? waits
    exact Or.inr ⟨congrArg ledger.lodged here, (congrArg queue.item? here).trans waits⟩

end Ledger.Tallies

/-- Names go through an interrupt queue intact up to truncation, along every history. -/
theorem names_survive
    {capacity : Nat}
    {events : List QueueEvent}
    {reached : Traffic}
    (history : History (.ofCapacity capacity) events reached) :
    NamesSurvive events reached := by
  have legible := history.legible (InterruptQueue.legible_ofCapacity capacity)
  have tallies := history.balances.tallies
  have survives {ticket : Nat} {pushed : InterruptItem}
      (found : (Ledger.ofEvents events).accepted[ticket]? = some pushed) :
      pushed.Survives pushed.kept :=
    InterruptItem.survives_kept (history.named pushed (List.mem_of_getElem? found))
  constructor
  · intro ticket pushed found
    rcases tallies.handed_or_waits found with ⟨delivery, member, drawn, kept⟩ | ⟨lodged, waits⟩
    · exact Or.inl ⟨delivery, member, drawn, kept ▸ survives found⟩
    · exact Or.inr ⟨pushed.kept, lodged, survives found, InterruptQueue.offers waits⟩
  · intro delivery member
    rcases tallies.delivered delivery member with ⟨pushed, found, kept⟩
    exact ⟨pushed, found, kept ▸ survives found⟩
  · intro index item waits
    rcases tallies.waits index item waits with ⟨pushed, found, kept⟩
    exact ⟨pushed, found, kept ▸ survives found⟩
  · intro pushed member
    exact Utf8.searchStops (history.named pushed member) Limits.four_le_interruptNameBytes
  · intro entry member waits
    exact (legible entry member waits).decode?_eq
  · intro position item rest taken
    exact legible.decode?_of_take? taken

/-- A name of 33 bytes, in which the last character is cut. -/
def overlongName : String :=
  "abcdefghijklmnopqrstuvwxyzabcdeé"

/-- What an entry keeps of it. -/
def keptName : String :=
  "abcdefghijklmnopqrstuvwxyzabcde"

/-- The entry that holds it. -/
def overlongEntry : InterruptEntry :=
  { ({} : InterruptEntry).write overlongName 1 with state := .pending }

/-- The same entry, after a short name has been written over it. -/
def reusedEntry : InterruptEntry :=
  { overlongEntry.write "é" 2 with state := .pending }

/-- The entry once more, after the long name has been written back over the short one. -/
def rewrittenEntry : InterruptEntry :=
  { reusedEntry.write overlongName 3 with state := .pending }

/-- In a queue of one entry a short name follows a long one; the callback that is handed the short
one pushes the long one again, behind its drain. -/
theorem history_reused :
    History (.ofCapacity 1)
      [.accepted ⟨0, overlongName, 1⟩, .began, .handed ⟨0, keptName, 1⟩, .returned, .finished 1,
        .accepted ⟨0, "é", 2⟩, .began, .handed ⟨0, "é", 2⟩, .accepted ⟨0, overlongName, 3⟩]
      ⟨⟨[rewrittenEntry]⟩, [⟨1, 0, true⟩]⟩ := by
  have pushed : Proceeds (.ofCapacity 1) (.accepted ⟨0, overlongName, 1⟩)
      ⟨⟨[overlongEntry]⟩, []⟩ :=
    .accepts nofun (by decide +kernel) (by decide +kernel) (by decide +kernel)
  have handed : Proceeds ⟨⟨[overlongEntry]⟩, [{}]⟩ (.handed ⟨0, keptName, 1⟩)
      ⟨⟨[{ overlongEntry with state := .free }]⟩, [⟨1, 0, true⟩]⟩ :=
    .hands (by decide +kernel)
  have emptied : Proceeds ⟨⟨[{ overlongEntry with state := .free }]⟩, [⟨1, 1, false⟩]⟩
      (.finished 1) ⟨⟨[{ overlongEntry with state := .free }]⟩, []⟩ :=
    .finishes (by decide +kernel)
  have reused : Proceeds ⟨⟨[{ overlongEntry with state := .free }]⟩, []⟩ (.accepted ⟨0, "é", 2⟩)
      ⟨⟨[reusedEntry]⟩, []⟩ :=
    .accepts nofun (by decide +kernel) (by decide +kernel) (by decide +kernel)
  have handed_again : Proceeds ⟨⟨[reusedEntry]⟩, [{}]⟩ (.handed ⟨0, "é", 2⟩)
      ⟨⟨[{ reusedEntry with state := .free }]⟩, [⟨1, 0, true⟩]⟩ :=
    .hands (by decide +kernel)
  have rewritten : Proceeds ⟨⟨[{ reusedEntry with state := .free }]⟩, [⟨1, 0, true⟩]⟩
      (.accepted ⟨0, overlongName, 3⟩) ⟨⟨[rewrittenEntry]⟩, [⟨1, 0, true⟩]⟩ :=
    .accepts (by simp [OutsideLoops]) (by decide +kernel) (by decide +kernel) (by decide +kernel)
  have first := (((History.of_proceeds pushed).next (.begins nofun)).next handed).next .returns
  have second := (((first.next emptied).next reused).next (.begins nofun)).next handed_again
  exact second.next rewritten

/-- The long name is cut before its last character, nothing of it is left in the short one, and
pushed once more it waits and is taken as it was cut. -/
theorem names_survive_reused :
    NamesSurvive
        [.accepted ⟨0, overlongName, 1⟩, .began, .handed ⟨0, keptName, 1⟩, .returned, .finished 1,
          .accepted ⟨0, "é", 2⟩, .began, .handed ⟨0, "é", 2⟩, .accepted ⟨0, overlongName, 3⟩]
        ⟨⟨[rewrittenEntry]⟩, [⟨1, 0, true⟩]⟩ ∧
      Limits.interruptNameBytes < overlongName.utf8ByteSize ∧
      (⟨[rewrittenEntry]⟩ : InterruptQueue).take? 0 =
        some (⟨0, keptName, 3⟩, ⟨[{ rewrittenEntry with state := .free }]⟩) :=
  ⟨names_survive history_reused, by decide +kernel, by decide +kernel⟩

end SignalDispatch
