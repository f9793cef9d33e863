import SignalDispatch.Demo

/-!
# The demonstration as a program

Runs the demonstration and writes its log to standard error.  The first argument says how detailed
the log is; without one it shows everything from the level of information upwards.
-/

open SignalDispatch

def main (arguments : List String) : IO UInt32 := do
  let filter :=
    match arguments with
    | [] => some (some Level.info)
    | word :: _ => Demo.filterOfWord? word
  match filter with
  | none =>
      IO.eprintln "expected a level: off, error, warn, info, debug or trace"
      return 2
  | some filter =>
      for record in Demo.transcript filter do
        IO.eprintln (record.level.title ++ " " ++ record.message)
      return 0
