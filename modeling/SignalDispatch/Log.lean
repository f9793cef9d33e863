/-!
# Log records

What a bus writes to the log: a level and a message.  Levels are ordered from the most severe to
the most detailed; a filter shows every record that is at least as severe as its own level.
-/

namespace SignalDispatch

/-- How severe a record is. -/
inductive Level where
  | error
  | warn
  | info
  | debug
  | trace
  deriving DecidableEq, Repr, Inhabited

namespace Level

/-- The word of a level in a log. -/
def title : Level → String
  | .error => "ERROR"
  | .warn => "WARN"
  | .info => "INFO"
  | .debug => "DEBUG"
  | .trace => "TRACE"

/-- How much detail a level admits. -/
def detail : Level → Nat
  | .error => 1
  | .warn => 2
  | .info => 3
  | .debug => 4
  | .trace => 5

/-- Whether a filter set to a level, or to nothing at all, shows a record. -/
def shows (filter : Option Level) (level : Level) : Bool :=
  match filter with
  | none => false
  | some most => level.detail ≤ most.detail

end Level

/-- One line of a log. -/
structure LogRecord where
  level : Level
  message : String
  deriving DecidableEq, Repr, Inhabited

namespace LogRecord

def debug (message : String) : LogRecord := ⟨.debug, message⟩
def info (message : String) : LogRecord := ⟨.info, message⟩
def warn (message : String) : LogRecord := ⟨.warn, message⟩

end LogRecord

end SignalDispatch
