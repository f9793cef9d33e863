import SignalDispatch.Limits

/-!
# Documents

The plain data that records are exchanged as: null, flags, numbers, texts, lists and records of
named values.  A type that has a written form says how it is read and written; reading refuses
what does not fit.

A record type is written with its names.  It is read from a record, ignoring names it does not
know, or from a list of its values in order.

What a document says may hang on a tag that stands beside it.  Where the tag comes first, the
document is read at once; where it is only found later, the document is put aside until then, and
is read more freely afterwards.
-/

namespace SignalDispatch

/-- Plain data. -/
inductive Document where
  | null
  | flag (value : Bool)
  | integer (value : Int)
  /-- A number that is not written as an integer. -/
  | fraction
  | text (value : String)
  | list (items : List Document)
  | record (entries : List (String × Document))
  deriving Repr, Inhabited

/-- A type with a written form. -/
class Documented (α : Type) where
  read? : Document → Option α
  write : α → Document

namespace Document

/-- Read a document as a value of a type. -/
def read? {α : Type} [Documented α] (document : Document) : Option α :=
  Documented.read? document

/-! ## Plain values -/

/-- A whole number between two bounds, ends included. -/
def integerWithin? (least greatest : Int) : Document → Option Int
  | integer value => if least ≤ value ∧ value ≤ greatest then some value else none
  | _ => none

/-- An unsigned 64-bit number. -/
def natural? (document : Document) : Option Nat :=
  (document.integerWithin? 0 Limits.maxCounter).map Int.toNat

/-- A signed 32-bit number. -/
def signed32? (document : Document) : Option Int32 :=
  (document.integerWithin? Int32.minValue.toInt Int32.maxValue.toInt).map Int32.ofInt

def flag? : Document → Option Bool
  | flag value => some value
  | _ => none

def text? : Document → Option String
  | text value => some value
  | _ => none

/-- Null, or what a reader makes of the document. -/
def optional? {α : Type} (reader : Document → Option α) : Document → Option (Option α)
  | null => some none
  | document => (reader document).map some

/-! ## Words and tags -/

/-- When a document is read. -/
inductive Moment where
  /-- As it is met. -/
  | atOnce
  /-- After it was put aside until its tag was known. -/
  | putAside
  deriving DecidableEq, Repr, Inhabited

/-- Whether a document says nothing: null, or, once put aside, a record without entries. -/
def isBlank : Moment → Document → Bool
  | _, null => true
  | .putAside, record [] => true
  | _, _ => false

/-- A word, alone or as the only name of a record whose value is blank. -/
def word? (moment : Moment) : Document → Option String
  | text value => some value
  | record [(name, value)] => if isBlank moment value then some name else none
  | _ => none

/-- The value that a tag selects: by its word or, once the tag was put aside, by its position. -/
def selected? {α : Type} (moment : Moment) (named : List (String × α)) : Document → Option α
  | text word => named.lookup word
  | integer position =>
      match moment with
      | .atOnce => none
      | .putAside =>
          if 0 ≤ position then named[position.toNat]?.map Prod.snd else none
  | _ => none

/-! ## Record types -/

/-- The values of a record type by its names, in order: from a record, where names may be missing,
or from a list, which must have all values unless `mayEndEarly`. -/
def fields? (names : List String) (mayEndEarly : Bool) : Document → Option (List (Option Document))
  | record entries => some (names.map fun name => entries.lookup name)
  | list items =>
      if items.length = names.length ∨ mayEndEarly ∧ items.length ≤ names.length then
        some (items.map some ++ List.replicate (names.length - items.length) none)
      else none
  | _ => none

/-- A value that must be there. -/
def required? {α : Type} (reader : Document → Option α) : Option Document → Option α
  | none => none
  | some document => reader document

/-- A value that is null if it is not there. -/
def nullable? {α : Type} (reader : Document → Option α) : Option Document → Option (Option α)
  | none => some none
  | some document => document.optional? reader

/-- A value that has a default if it is not there. -/
def defaulted? {α : Type} (reader : Document → Option α) (default : α) :
    Option Document → Option α
  | none => some default
  | some document => reader document

/-- A natural number in written form. -/
def ofNat (value : Nat) : Document :=
  integer value

/-- A text in written form, or null. -/
def ofText? : Option String → Document
  | none => null
  | some value => text value

/-- An unsigned 64-bit number reads back as it was written. -/
theorem natural?_ofNat {value : Nat} (bounded : value ≤ Limits.maxCounter) :
    (ofNat value).natural? = some value := by
  have upper : (value : Int) ≤ (Limits.maxCounter : Int) := by exact_mod_cast bounded
  simp [natural?, ofNat, integerWithin?, upper]

end Document

end SignalDispatch
