import Mathlib.Data.List.Sort
import SignalDispatch.Bus.Basic

/-!
# Directories

A directory is what a caller may take a bus to be: for every signal name a description, a declared
priority and the list of its connections, in the order in which they are called.  It has no chains,
no positions and no tombstones, and it does not know which signals are being emitted; a connection
that is removed is gone at once.
-/

namespace SignalDispatch

/-- A connection as a caller knows it. -/
structure Connection where
  handle : Handle
  callback : RoutineId
  context : Option Context
  priority : Priority
  deriving DecidableEq, Repr

/-- Put a connection before the first one of lower priority. -/
def Connection.insertInto (connection : Connection) (connections : List Connection) :
    List Connection :=
  connections.orderedInsert (fun left right => right.priority.rank < left.priority.rank) connection

/-- What a directory keeps under a signal name. -/
structure Entry where
  name : String
  description : Option String
  priority : Priority
  connections : List Connection
  deriving DecidableEq, Repr

namespace Entry

/-- The line of an entry in a listing. -/
def info (entry : Entry) : SignalInfo where
  name := entry.name
  description := entry.description
  priority := entry.priority
  slotCount := entry.connections.length

/-- The entry with its connections changed. -/
def revise (entry : Entry) (change : List Connection → List Connection) : Entry :=
  { entry with connections := change entry.connections }

end Entry

/-- The signals of a bus as a caller knows them. -/
structure Directory where
  entries : List Entry
  /-- The handle of the next connection. -/
  nextHandle : Nat
  /-- The most connections of one signal. -/
  limit : Nat
  deriving Repr

namespace Directory

/-- A directory without signals. -/
def empty (limit : Nat) : Directory where
  entries := []
  nextHandle := 1
  limit := limit

/-- The entry of a name. -/
def find? (directory : Directory) (name : String) : Option Entry :=
  directory.entries.find? fun entry => entry.name = name

/-- Change the connections under a name. -/
def revise
    (directory : Directory)
    (name : String)
    (change : List Connection → List Connection) :
    Directory :=
  { directory with
    entries :=
      directory.entries.map fun entry =>
        if entry.name = name then entry.revise change else entry }

/-- What a call leaves behind and comes back with. -/
abbrev Outcome :=
  Directory × Except Fault Answer

/-- A call on the entry of a name. -/
def withEntry (directory : Directory) (name : String) (call : Entry → Outcome) : Outcome :=
  match directory.find? name with
  | none => (directory, .error (.notFound name))
  | some entry => call entry

/-- Add an empty entry, if the name is admissible on growing storage and not in use. -/
def register
    (directory : Directory)
    (name : String)
    (description : Option String)
    (priority : Priority) :
    Outcome :=
  if name.isEmpty then (directory, .error Fault.emptyName)
  else if Limits.heapNameBytes < name.utf8ByteSize then
    (directory, .error (Fault.longName Limits.heapNameBytes))
  else if (directory.find? name).isSome then (directory, .error (.alreadyExists name))
  else
    ({ directory with entries := directory.entries ++ [⟨name, description, priority, []⟩] },
      .ok .done)

def unregister (directory : Directory) (name : String) : Outcome :=
  directory.withEntry name fun _ =>
    ({ directory with entries := directory.entries.filter fun entry => entry.name ≠ name },
      .ok .done)

/-- Insert a connection unless the signal has as many as it may have. -/
def connect
    (directory : Directory)
    (name : String)
    (callback : RoutineId)
    (context : Option Context)
    (priority : Option Priority) :
    Outcome :=
  directory.withEntry name fun entry =>
    if directory.limit ≤ entry.connections.length then
      (directory, .error (.resourceExhausted (.slotsPerSignal directory.limit)))
    else
      let connection : Connection :=
        { handle := ⟨directory.nextHandle⟩
          callback := callback
          context := context
          priority := priority.getD entry.priority }
      ({ directory.revise name connection.insertInto with
          nextHandle := directory.nextHandle + 1 },
        .ok (.connected connection.handle))

/-- Remove the first connection of a signal that runs a callback. -/
def disconnect (directory : Directory) (name : String) (callback : RoutineId) : Outcome :=
  directory.withEntry name fun entry =>
    if entry.connections.any fun connection => connection.callback == callback then
      (directory.revise name fun connections =>
          connections.eraseP fun connection => connection.callback == callback,
        .ok .done)
    else (directory, .error (Fault.noMatchingSlot name))

/-- Remove the connection of a handle from the signal that has it. -/
def disconnectHandle (directory : Directory) (handle : Handle) : Outcome :=
  if handle.isValid then
    match
      directory.entries.find? fun entry =>
        entry.connections.any fun connection => connection.handle == handle
    with
    | none => (directory, .error (Fault.noSuchSlot handle.text))
    | some entry =>
        (directory.revise entry.name fun connections =>
            connections.eraseP fun connection => connection.handle == handle,
          .ok .done)
  else (directory, .error Fault.unissuedHandle)

/-- Remove all connections of a signal. -/
def disconnectAll (directory : Directory) (name : String) : Outcome :=
  directory.withEntry name fun _ => (directory.revise name fun _ => [], .ok .done)

/-- One line for every signal. -/
def listing (directory : Directory) : List SignalInfo :=
  directory.entries.map Entry.info

end Directory

/-! ## Requests -/

/-- A call on the signals of a bus, or an emission that begins or ends. -/
inductive Request where
  | register (name : String) (description : Option String) (priority : Priority)
  | unregister (name : String)
  | connect
      (name : String)
      (callback : RoutineId)
      (context : Option Context)
      (priority : Option Priority)
  | disconnect (name : String) (callback : RoutineId)
  | disconnectHandle (handle : Handle)
  | disconnectAll (name : String)
  | contains (name : String)
  | count
  | listing
  /-- An emission begins. -/
  | enter (name : String)
  /-- The emission at a place among those in progress ends; it took some time if it was timed. -/
  | leave (place : Nat) (elapsed : Option Nat)
  deriving DecidableEq, Repr

namespace Directory

/-- What a request does to a directory; emissions do nothing, they only need the name. -/
def perform (directory : Directory) : Request → Outcome
  | .register name description priority => directory.register name description priority
  | .unregister name => directory.unregister name
  | .connect name callback context priority => directory.connect name callback context priority
  | .disconnect name callback => directory.disconnect name callback
  | .disconnectHandle handle => directory.disconnectHandle handle
  | .disconnectAll name => directory.disconnectAll name
  | .contains name => (directory, .ok (.flag (directory.find? name).isSome))
  | .count => (directory, .ok (.number directory.entries.length))
  | .listing => (directory, .ok (.listing directory.listing))
  | .enter name => directory.withEntry name fun _ => (directory, .ok .done)
  | .leave _ _ => (directory, .ok .done)

/-- Requests one after another, with what they come back with. -/
def run (directory : Directory) : List Request → Directory × List (Except Fault Answer)
  | [] => (directory, [])
  | request :: rest =>
      let (next, answer) := directory.perform request
      let (last, answers) := next.run rest
      (last, answer :: answers)

end Directory

end SignalDispatch
