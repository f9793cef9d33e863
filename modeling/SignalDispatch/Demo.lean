import SignalDispatch.Machine.Run

/-!
# The demonstration

A walk through a bus: slots of three priorities, removal by handle, interrupts drained from the
main loop, a batch, and the reports.  What it shows is its log: the records of the bus together
with a line for each reading that a slot displays and a line for each stage.
-/

namespace SignalDispatch.Demo

/-- The signal of the demonstration. -/
def sensor : String := "sensor.temp"

/-- The name under which the handle of the logging slot is kept. -/
def logger : String := "logger"

/-- A reading of the sensor. -/
def reading (value : Int32) : Emission :=
  ⟨sensor, .int value⟩

/-- What the callback with a number writes when it is called. -/
def calledLine (callback : RoutineId) (payload : Payload) (context : Option Context) : String :=
  let value := toString (payload.intOr 0).toInt
  match callback with
  | 0 => "[critical] safety check: " ++ value
  | 1 => "[normal] logged: " ++ value
  | _ =>
      let unit :=
        match context with
        | some (.text unit) => unit
        | _ => "?"
      "[low] display: " ++ value ++ " " ++ unit

/-- The record that an event leaves in the log. -/
def eventRecord? : Event → Option LogRecord
  | .called _ callback payload context => some (.info (calledLine callback payload context))
  | .logged record => some record
  | _ => none

/-- A line of the listing of signals. -/
def signalLine (info : SignalInfo) : String :=
  "Signal '" ++ info.name ++ "': " ++ toString info.slotCount ++ " slots (priority " ++
    info.priority.text ++ ")"

/-- The line of the memory statistics. -/
def memoryLine (stats : MemoryStats) : String :=
  "Memory: " ++ toString stats.signalsUsed ++ " signals, " ++ toString stats.slotsUsed ++
    " slots (peak " ++ toString stats.peakSlotsUsed ++ "), " ++ toString stats.stringBytes ++
    " string bytes"

/-- What the demonstration itself says after an operation. -/
def remarks (operation : Operation) (report : StepReport) : List String :=
  match operation, report.answer with
  | .setThreadSafe _, _ =>
      ["Sigslot demo starting...", "================================================"]
  | .disconnectHandle source, some .done =>
      ["Disconnected slot " ++ (report.world.handleOf source).text]
  | .drain, some (.number drained) =>
      ["Drained " ++ toString drained ++ " interrupt emissions"]
  | .listing, some (.listing signals) => signals.map signalLine
  | .memoryStats, some (.memory stats) => [memoryLine stats]
  | .cleanup, _ => ["Sigslot demo finished"]
  | _, _ => []

/-- The operations of the demonstration. -/
def operations : List Operation :=
  [.init,
    .setThreadSafe true,
    .register sensor (some "temperature in tenths of a degree") (some Priority.normal),
    .connect sensor 0 (some Priority.critical) none .nowhere,
    .connect sensor 1 none none (.under logger),
    .connect sensor 2 (some Priority.low) (some (.text "dC")) .nowhere,
    .emit (reading 215),
    .disconnectHandle (.kept logger),
    .emit (reading 220),
    .interrupt sensor 230,
    .interrupt sensor 235,
    .interrupt sensor 240,
    .drain,
    .batchAdd "readings" (reading 250),
    .batchAdd "readings" (reading 255),
    .batchEmit "readings",
    .listing,
    .memoryStats,
    .cleanup]

/-- The log of the demonstration. -/
def log : List LogRecord :=
  let world : World := { bus := Bus.ofConfig Backend.heap Config.standard }
  let reports := Session.run {} world operations
  (operations.zip reports).flatMap fun entry =>
    entry.2.events.filterMap eventRecord? ++
      (remarks entry.1 entry.2).map LogRecord.info

/-- The records of the log that a filter shows. -/
def transcript (filter : Option Level) : List LogRecord :=
  log.filter fun record => Level.shows filter record.level

/-- The filter that a word asks for; nothing is shown for "off". -/
def filterOfWord? : String → Option (Option Level)
  | "off" => some none
  | "error" => some (some .error)
  | "warn" => some (some .warn)
  | "info" => some (some .info)
  | "debug" => some (some .debug)
  | "trace" => some (some .trace)
  | _ => none

end SignalDispatch.Demo
