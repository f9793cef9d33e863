import SignalDispatch.Text.Utf8
import Mathlib.Data.List.Basic
import Mathlib.Order.Nat

/-!
# Texts cut short

The bytes of a text are those of its characters, one character after another, and in each of them
all bytes but the first continue the one before.  So the places where a text may be cut are the
ends of its prefixes of whole characters (`isBoundary_encode_iff`), and what is kept of a text is
its longest prefix that fits (`kept_spec`).
-/

namespace SignalDispatch.Utf8

/-- The bytes of some characters. -/
def encode (characters : List Char) : List UInt8 :=
  characters.flatMap String.utf8EncodeChar

/-- The longest prefix of whole characters of a text that has at most `limit` bytes. -/
structure LongestFit (limit : Nat) (text kept : String) : Prop where
  leads : kept.toList <+: text.toList
  fits : kept.utf8ByteSize ≤ limit
  longest :
    ∀ other : String, other.toList <+: text.toList → other.utf8ByteSize ≤ limit →
      other.toList <+: kept.toList

/-- The search for a cut stops before it has come to the start, where a sequence may be cut, and it
has passed no such place. -/
structure SearchStops (sequence : List UInt8) (limit : Nat) : Prop where
  positive : 0 < cutAtOrBefore sequence limit
  bounded : cutAtOrBefore sequence limit ≤ limit
  boundary : isBoundary sequence (cutAtOrBefore sequence limit) = true
  passed :
    ∀ place, cutAtOrBefore sequence limit < place → place ≤ limit →
      isBoundary sequence place = false

/-! ## Bytes of characters -/

theorem bytes_eq_encode (text : String) : bytes text = encode text.toList := by
  rw [bytes, String.toUTF8_eq_toByteArray, ← String.utf8Encode_toList, List.utf8Encode,
    List.data_toByteArray]
  rfl

theorem utf8ByteSize_eq (text : String) : text.utf8ByteSize = (encode text.toList).length := by
  rw [← bytes_eq_encode, length_bytes]

theorem encode_cons (first : Char) (rest : List Char) :
    encode (first :: rest) = String.utf8EncodeChar first ++ encode rest :=
  List.flatMap_cons

theorem encode_append (front back : List Char) :
    encode (front ++ back) = encode front ++ encode back :=
  List.flatMap_append

/-- More characters have more bytes. -/
theorem length_encode_mono {front whole : List Char} (leads : front <+: whole) :
    (encode front).length ≤ (encode whole).length := by
  rcases leads with ⟨back, rfl⟩
  rw [encode_append, List.length_append]
  exact Nat.le_add_right _ _

theorem isContinuation_of_first {byte : UInt8} (first : byte.IsUTF8FirstByte) :
    isContinuation byte = false := by
  have each :
      ∀ number < 256, (UInt8.ofNat number).IsUTF8FirstByte →
        isContinuation (UInt8.ofNat number) = false := by
    decide +kernel
  have this_byte := each byte.toNat byte.toNat_lt
  rw [UInt8.ofNat_toNat] at this_byte
  exact this_byte first

/-- A byte of six payload bits continues a character. -/
theorem isContinuation_payload (number : Nat) :
    isContinuation (UInt8.ofNat (number % 64 + 128)) = true := by
  have each : ∀ bits < 64, isContinuation (UInt8.ofNat (bits + 128)) = true := by
    decide +kernel
  exact each (number % 64) (Nat.mod_lt _ (by decide))

/-- The bytes of a character behind its first one continue it. -/
theorem isContinuation_of_mem_tail
    {character : Char}
    {byte : UInt8}
    (member : byte ∈ (String.utf8EncodeChar character).tail) :
    isContinuation byte = true := by
  rw [String.utf8EncodeChar.eq_1] at member
  split_ifs at member
  · cases member
  · simp only [List.tail_cons, List.mem_singleton] at member
    exact member ▸ isContinuation_payload _
  · simp only [List.tail_cons, List.mem_cons, List.not_mem_nil, or_false] at member
    rcases member with rfl | rfl <;> exact isContinuation_payload _
  · simp only [List.tail_cons, List.mem_cons, List.not_mem_nil, or_false] at member
    rcases member with rfl | rfl | rfl <;> exact isContinuation_payload _

/-! ## Where a text may be cut -/

theorem isBoundary_zero (characters : List Char) : isBoundary (encode characters) 0 = true := by
  cases characters with
  | nil => rfl
  | cons first rest =>
      have bound : 0 < (String.utf8EncodeChar first).length :=
        List.length_pos_iff.mpr String.utf8EncodeChar_ne_nil
      have start := isContinuation_of_first (UInt8.isUTF8FirstByte_getElem_zero_utf8EncodeChar
        (c := first))
      rw [encode_cons, isBoundary, List.getElem?_append_left bound,
        List.getElem?_eq_getElem bound]
      simp [start]

/-- No cut falls inside the first character. -/
theorem isBoundary_inside
    {first : Char}
    {rest : List Char}
    {offset : Nat}
    (inside : 0 < offset)
    (bound : offset < (String.utf8EncodeChar first).length) :
    isBoundary (encode (first :: rest)) offset = false := by
  have member : (String.utf8EncodeChar first)[offset] ∈ (String.utf8EncodeChar first).tail := by
    rcases Nat.exists_eq_succ_of_ne_zero (Nat.ne_of_gt inside) with ⟨before, rfl⟩
    exact List.mem_of_getElem? (i := before) (by
      rw [List.getElem?_tail, List.getElem?_eq_getElem bound])
  rw [encode_cons, isBoundary, List.getElem?_append_left bound, List.getElem?_eq_getElem bound]
  simp [isContinuation_of_mem_tail member]

/-- Behind the first character a text is cut as the rest is. -/
theorem isBoundary_behind (first : Char) (rest : List Char) (offset : Nat) :
    isBoundary (encode (first :: rest)) ((String.utf8EncodeChar first).length + offset) =
      isBoundary (encode rest) offset := by
  rw [encode_cons, isBoundary, isBoundary, List.getElem?_append_right (Nat.le_add_right _ _),
    Nat.add_sub_cancel_left, List.length_append]
  split
  · rfl
  · simp

/-- A text may be cut exactly behind its prefixes of whole characters. -/
theorem isBoundary_encode_iff {characters : List Char} {offset : Nat} :
    isBoundary (encode characters) offset = true ↔
      ∃ front, front <+: characters ∧ offset = (encode front).length := by
  induction characters generalizing offset with
  | nil =>
      simp only [List.prefix_nil, exists_eq_left]
      simp [isBoundary, encode]
  | cons first rest ih =>
      rcases Nat.eq_zero_or_pos offset with rfl | inside
      · exact iff_of_true (isBoundary_zero _) ⟨[], List.nil_prefix, rfl⟩
      rcases Nat.lt_or_ge offset (String.utf8EncodeChar first).length with before | behind
      · rw [isBoundary_inside inside before]
        refine iff_of_false Bool.false_ne_true ?_
        rintro ⟨front, leads, rfl⟩
        rcases List.prefix_cons_iff.mp leads with rfl | ⟨front, rfl, _⟩
        · exact Nat.lt_irrefl _ inside
        · rw [encode_cons, List.length_append] at before
          omega
      · rcases Nat.exists_eq_add_of_le behind with ⟨further, rfl⟩
        rw [isBoundary_behind, ih]
        constructor
        · rintro ⟨front, leads, rfl⟩
          exact ⟨first :: front, List.cons_prefix_cons.mpr ⟨rfl, leads⟩, by
            rw [encode_cons, List.length_append]⟩
        · rintro ⟨front, leads, same⟩
          rcases List.prefix_cons_iff.mp leads with rfl | ⟨front, rfl, others⟩
          · exact absurd same (Nat.ne_of_gt inside)
          · rw [encode_cons, List.length_append] at same
            exact ⟨front, others, Nat.add_left_cancel same⟩

/-! ## The cut -/

/-- The search for a cut comes to the last place that is not too far behind, wherever it starts. -/
theorem cutAtOrBefore_spec (characters : List Char) (offset : Nat) :
    isBoundary (encode characters) (cutAtOrBefore (encode characters) offset) = true ∧
      ∀ place ≤ offset, isBoundary (encode characters) place = true →
        place ≤ cutAtOrBefore (encode characters) offset := by
  induction offset with
  | zero => exact ⟨isBoundary_zero characters, fun place bound _ => bound⟩
  | succ offset ih =>
      rw [cutAtOrBefore]
      split
      next here => exact ⟨here, fun place bound _ => bound⟩
      next passed =>
        refine ⟨ih.1, ?_⟩
        intro place bound cut
        rcases Nat.lt_or_eq_of_le bound with before | rfl
        · exact ih.2 place (Nat.le_of_lt_succ before) cut
        · exact absurd cut passed

/-- What is kept of some characters ends at a cut, and no later cut is within the limit. -/
theorem keptLength_spec (characters : List Char) (limit : Nat) :
    ∃ front, front <+: characters ∧
      keptLength (encode characters) limit = (encode front).length ∧
      ∀ other, other <+: characters → (encode other).length ≤ limit →
        (encode other).length ≤ (encode front).length := by
  rw [keptLength]
  split
  next =>
    exact ⟨characters, List.prefix_rfl, rfl, fun other leads _ => length_encode_mono leads⟩
  next =>
    rcases cutAtOrBefore_spec characters limit with ⟨cut, last⟩
    rcases isBoundary_encode_iff.mp cut with ⟨front, leads, same⟩
    refine ⟨front, leads, same, ?_⟩
    intro other leads' bound
    rw [← same]
    exact last _ bound (isBoundary_encode_iff.mpr ⟨other, leads', rfl⟩)

/-- A text begins with a character of at most four bytes, unless it is empty. -/
theorem exists_first {text : String} (named : text ≠ "") :
    ∃ first, [first] <+: text.toList ∧ 0 < (encode [first]).length ∧
      (encode [first]).length ≤ 4 := by
  cases characters : text.toList with
  | nil => exact absurd (String.toList_eq_nil_iff.mp characters) named
  | cons first rest =>
      have size : (encode [first]).length = first.utf8Size := by
        rw [encode_cons, encode, List.flatMap_nil, List.append_nil, String.length_utf8EncodeChar]
      refine ⟨first, ⟨rest, rfl⟩, ?_, ?_⟩
      · exact size ▸ first.utf8Size_pos
      · exact size ▸ first.utf8Size_le_four

/-- The search for a cut does not run past the start of a text. -/
theorem searchStops {text : String} {limit : Nat} (named : text ≠ "") (room : 4 ≤ limit) :
    SearchStops (bytes text) limit := by
  rw [bytes_eq_encode]
  rcases cutAtOrBefore_spec text.toList limit with ⟨boundary, last⟩
  rcases exists_first named with ⟨first, leads, positive, small⟩
  constructor
  · have within := last _ (small.trans room) (isBoundary_encode_iff.mpr ⟨_, leads, rfl⟩)
    exact Nat.lt_of_lt_of_le positive within
  · exact cutAtOrBefore_le _ _
  · exact boundary
  · intro place behind bound
    by_contra cut
    have before := last place bound (Bool.not_eq_false _ ▸ cut)
    exact Nat.not_lt_of_le before behind

/-- Of two prefixes of some characters the one with fewer bytes leads the other. -/
theorem prefix_of_length_encode_le
    {front other characters : List Char}
    (leads : front <+: characters)
    (leads' : other <+: characters)
    (shorter : (encode other).length ≤ (encode front).length) :
    other <+: front := by
  rcases List.prefix_or_prefix_of_prefix leads' leads with earlier | ⟨more, rfl⟩
  · exact earlier
  · cases more with
    | nil => exact (List.append_nil front).symm ▸ List.prefix_rfl
    | cons next rest =>
        have bytes : 0 < (String.utf8EncodeChar next).length :=
          List.length_pos_iff.mpr String.utf8EncodeChar_ne_nil
        rw [encode_append, encode_cons, List.length_append, List.length_append] at shorter
        omega

/-- What is kept of a text can be read back, and is the longest prefix that fits. -/
theorem kept_spec (text : String) (limit : Nat) :
    ∃ kept,
      decode? ((bytes text).take (keptLength (bytes text) limit)) = some kept ∧
        LongestFit limit text kept := by
  have within := keptLength_le (bytes text) limit
  rw [bytes_eq_encode] at within ⊢
  rcases keptLength_spec text.toList limit with ⟨front, leads, same, longest⟩
  have kept : (encode text.toList).take (encode front).length = bytes (String.ofList front) := by
    rcases leads with ⟨back, whole⟩
    rw [bytes_eq_encode, String.toList_ofList, ← whole, encode_append, List.take_left]
  rw [same] at within ⊢
  rw [kept]
  refine ⟨_, decode?_bytes _, ?_⟩
  constructor
  · rwa [String.toList_ofList]
  · rwa [utf8ByteSize_eq, String.toList_ofList]
  · intro other leads' fits
    rw [utf8ByteSize_eq] at fits
    rw [String.toList_ofList]
    exact prefix_of_length_encode_le leads leads' (longest _ leads' fits)

namespace LongestFit

variable {limit : Nat} {text kept : String}

/-- A text that fits is kept whole. -/
theorem eq_of_fits (fit : LongestFit limit text kept) (fits : text.utf8ByteSize ≤ limit) :
    kept = text := by
  have whole := fit.longest text List.prefix_rfl fits
  exact String.toList_inj.mp (fit.leads.eq_of_length_le whole.length_le)

/-- Something is kept of a text, as long as there is room for a character. -/
theorem ne_empty (fit : LongestFit limit text kept) (room : 4 ≤ limit) (named : text ≠ "") :
    kept ≠ "" := by
  rintro rfl
  rcases exists_first named with ⟨first, leads, _, small⟩
  have fits : (String.ofList [first]).utf8ByteSize ≤ limit := by
    rw [utf8ByteSize_eq, String.toList_ofList]
    exact small.trans room
  have nothing := fit.longest (String.ofList [first]) (String.toList_ofList ▸ leads) fits
  simp at nothing

end LongestFit

end SignalDispatch.Utf8
