import SignalDispatch.Document.Basic
import SignalDispatch.Fault
import SignalDispatch.Name.Compact

/-!
# Faults as documents

A fault is a record of its kind and the details of its cause; a resource carries its own tag beside
its bound.  In a record the details are put aside until the kind is known; in a list the kind is a
plain word that comes first, and they are read at once.
-/

namespace SignalDispatch

instance : Documented CompactText where
  read? document := do
    match ← document.fields? ["inner"] false with
    | [inner] => return ⟨← Document.required? Document.text? inner⟩
    | _ => none
  write compact := .record [("inner", .text compact.text)]

/-- The payload kind that a document names. -/
def PayloadKind.ofDocument? (moment : Document.Moment) (document : Document) :
    Option PayloadKind :=
  (document.word? moment).bind PayloadKind.ofWord?

instance : Documented PayloadKind where
  read? := PayloadKind.ofDocument? .atOnce
  write kind := .text kind.word

instance : Documented FaultKind where
  read? document := (document.word? .atOnce).bind FaultKind.ofWord?
  write kind := .text kind.word

namespace Resource

/-- The tag of a resource. -/
def word : Resource → String
  | slotsPerSignal _ => "slots_per_signal"
  | signalPool _ => "signal_pool"
  | slotPool _ => "slot_pool"
  | interruptQueue _ => "isr_queue"
  | deferredQueue _ => "deferred_queue"

/-- What the bound of a resource is called. -/
def boundWord : Resource → String
  | slotsPerSignal _ => "limit"
  | _ => "capacity"

/-- The resources of a bound by their tags, in declaration order. -/
def tagged (bound : Nat) : List (String × Resource) :=
  [slotsPerSignal bound, signalPool bound, slotPool bound, interruptQueue bound,
    deferredQueue bound].map fun resource => (resource.word, resource)

/-- Tag and bound of a resource select it. -/
@[simp]
theorem selected?_tagged (moment : Document.Moment) (resource : Resource) :
    (Document.text resource.word).selected? moment (tagged resource.bound) = some resource := by
  cases resource <;> simp [Document.selected?, tagged, word, bound, List.lookup_cons]

/-- The resource of a tag, its bound read from the other values beside the tag. -/
def ofTag? (moment : Document.Moment) (tag rest : Document) : Option Resource := do
  let shape ← tag.selected? moment (tagged 0)
  match ← rest.fields? [shape.boundWord] false with
  | [bound] => tag.selected? moment (tagged (← Document.required? Document.natural? bound))
  | _ => none

/-- The resource that a document describes. -/
def ofDocument? (moment : Document.Moment) : Document → Option Resource
  | .record entries => do ofTag? moment (← entries.lookup "resource") (.record entries)
  | .list (tag :: rest) => ofTag? moment tag (.list rest)
  | _ => none

end Resource

instance : Documented Resource where
  read? := Resource.ofDocument? .atOnce
  write resource :=
    .record
      [("resource", .text resource.word), (resource.boundWord, .ofNat resource.bound)]

namespace Fault

/-- The details of a cause. -/
def details : Fault → Document
  | invalidArgument detail => Documented.write (⟨detail⟩ : CompactText)
  | notFound what => Documented.write (⟨what⟩ : CompactText)
  | alreadyExists name => Documented.write (⟨name⟩ : CompactText)
  | resourceExhausted resource => Documented.write resource
  | allocationFailure store => Documented.write (⟨store⟩ : CompactText)
  | invalidPayloadType expected found =>
      .record [("expected", Documented.write expected), ("found", Documented.write found)]

/-- The fault of a kind with the details of its cause.  The two payload kinds of a mismatch have no
order, so they are read by name only. -/
def ofDetails? (moment : Document.Moment) (kind : FaultKind) (details : Document) :
    Option Fault :=
  let compact : Option CompactText := details.read?
  match kind with
  | .invalidArgument => compact.map fun detail => invalidArgument detail.text
  | .notFound => compact.map fun what => notFound what.text
  | .alreadyExists => compact.map fun name => alreadyExists name.text
  | .resourceExhausted => (Resource.ofDocument? moment details).map resourceExhausted
  | .allocationFailure => compact.map fun store => allocationFailure store.text
  | .invalidPayloadType =>
      match details with
      | .record entries => do
          let expected ← PayloadKind.ofDocument? moment (← entries.lookup "expected")
          let found ← PayloadKind.ofDocument? moment (← entries.lookup "found")
          return invalidPayloadType expected found
      | _ => none

/-- The fault that a document describes. -/
def ofDocument? : Document → Option Fault
  | .record entries => do
      let kind : FaultKind ← (← entries.lookup "error_type").read?
      ofDetails? .putAside kind (← entries.lookup "details")
  | .list [.text word, details] => do
      ofDetails? .atOnce (← FaultKind.ofWord? word) details
  | _ => none

end Fault

instance : Documented Fault where
  read? := Fault.ofDocument?
  write fault :=
    .record [("error_type", Documented.write fault.kind), ("details", fault.details)]

/-! ## Reading back -/

theorem PayloadKind.read?_write (kind : PayloadKind) :
    Document.read? (Documented.write kind) = some kind := by
  simp [Document.read?, Documented.read?, Documented.write, PayloadKind.ofDocument?,
    Document.word?]

theorem FaultKind.read?_write (kind : FaultKind) :
    Document.read? (Documented.write kind) = some kind := by
  simp [Document.read?, Documented.read?, Documented.write, Document.word?]

theorem CompactText.read?_write (compact : CompactText) :
    Document.read? (Documented.write compact) = some compact := by
  simp [Document.read?, Documented.read?, Documented.write, Document.fields?,
    Document.required?, Document.text?, List.lookup_cons, List.lookup_nil]

end SignalDispatch
