/-!
# Kinds of payload

The tag of a payload, with the two words it goes by: the one used in messages and the one used in
documents.
-/

namespace SignalDispatch

/-- The tag of a payload. -/
inductive PayloadKind where
  | void
  | int
  | float
  | double
  | string
  | pointer
  | custom
  deriving DecidableEq, Repr, Inhabited

namespace PayloadKind

/-- Every kind, in declaration order. -/
def all : List PayloadKind :=
  [.void, .int, .float, .double, .string, .pointer, .custom]

/-- The capitalised word used in messages. -/
def title : PayloadKind → String
  | .void => "Void"
  | .int => "Int"
  | .float => "Float"
  | .double => "Double"
  | .string => "String"
  | .pointer => "Pointer"
  | .custom => "Custom"

/-- The lower-case word used in documents. -/
def word : PayloadKind → String
  | .void => "void"
  | .int => "int"
  | .float => "float"
  | .double => "double"
  | .string => "string"
  | .pointer => "pointer"
  | .custom => "custom"

/-- The kind that goes by a word. -/
def ofWord? (text : String) : Option PayloadKind :=
  all.find? fun kind => kind.word = text

theorem mem_all (kind : PayloadKind) : kind ∈ all := by
  cases kind <;> decide

@[simp]
theorem ofWord?_word (kind : PayloadKind) : ofWord? kind.word = some kind := by
  cases kind <;> decide

end PayloadKind

end SignalDispatch
