import SignalDispatch.Bus.Answer
import SignalDispatch.Bus.Backend
import SignalDispatch.Config
import SignalDispatch.Deferred
import SignalDispatch.Guard
import SignalDispatch.Interrupt
import SignalDispatch.Log
import SignalDispatch.Registry.Registration
import SignalDispatch.Registry.Walk

/-!
# The bus and its calls

A bus is a registry, present while the bus is initialized, with the two queues, the counters that
number connections and registrations, and the settings.

A call changes the bus in one go.  What it leaves to be done afterwards, in order, is an `Effect`:
records written at once, contexts to let go of, records written after that, and the result.
Letting go of a context may run user code, and so may reporting a failed result; neither happens
before the bus has its new state.
-/

namespace SignalDispatch

/-- The error hook of a bus: a routine, and how often it has been called. -/
structure Hook where
  routine : RoutineId
  calls : Nat := 0
  deriving DecidableEq, Repr, Inhabited

/-- A signal bus. -/
structure Bus where
  backend : Backend
  /-- Signals and slots; absent until the bus is initialized. -/
  registry : Option Registry := none
  guard : Guard
  /-- The handle of the next connection. -/
  nextHandle : Nat := 1
  /-- The serial of the next registration. -/
  nextSerial : Nat := 1
  maxSlots : Nat
  profiling : Bool
  hook : Option Hook := none
  /-- The namespace for emissions that name none. -/
  space : Option String := none
  deferred : DeferredQueue
  interrupts : InterruptQueue
  deriving DecidableEq, Repr, Inhabited

/-- What a call leaves to be done, in the order of the fields. -/
structure Effect where
  bus : Bus
  /-- Records written at once. -/
  before : List LogRecord := []
  /-- Contexts to let go of. -/
  released : List Context := []
  /-- Records written after that, unless the call failed. -/
  after : List LogRecord := []
  result : Except Fault Answer
  deriving Repr

namespace Bus

/-- A bus that is not initialized yet. -/
def ofConfig (backend : Backend) (config : Config) : Bus where
  backend := backend
  guard := { enabled := config.threadSafe }
  maxSlots := config.maxSlots
  profiling := config.profiling
  deferred := DeferredQueue.ofCapacity config.deferredCapacity
  interrupts := InterruptQueue.ofCapacity Limits.interruptDepth

/-- The contexts of a list of slots, in order. -/
def contextsOf (slots : List Slot) : List Context :=
  slots.filterMap Slot.context

/-- A call that answers without changing the bus. -/
def answering (bus : Bus) (answer : Answer) : Effect where
  bus := bus
  result := .ok answer

/-- A call that fails without changing the bus. -/
def failing (bus : Bus) (fault : Fault) : Effect where
  bus := bus
  result := .error fault

/-- A call that needs a registry. -/
def withRegistry (bus : Bus) (call : Registry → Effect) : Effect :=
  match bus.registry with
  | none => bus.failing Fault.notInitialized
  | some registry => call registry

/-- The bus with another registry. -/
def setRegistry (bus : Bus) (registry : Registry) : Bus :=
  { bus with registry := some registry }

/-! ## Life of a bus -/

def isInitialized (bus : Bus) : Bool :=
  bus.registry.isSome

/-- Create the registry, unless there is one. -/
def init (bus : Bus) : Effect :=
  if bus.isInitialized then
    { bus := bus
      before := [.debug "Signal bus already initialized"]
      result := .ok .done }
  else
    { bus := bus.setRegistry bus.backend.registry
      before :=
        [.info ("Signal bus initialized (" ++ bus.backend.kind.title ++ " backend)")]
      result := .ok .done }

/-- The record of a finished cleanup. -/
def cleanupRecord (signals deferred interrupts : Nat) : LogRecord :=
  .info
    ("Signal bus cleaned up (" ++ toString signals ++ " signals, " ++ toString deferred ++
      " deferred and " ++ toString interrupts ++ " interrupt emissions dropped)")

/-- Give up every signal, slot and waiting emission.  Handles and serials count on. -/
def cleanup (bus : Bus) : Effect :=
  match bus.registry with
  | none => bus.answering .done
  | some registry =>
      let (items, interrupts) := bus.interrupts.drain
      { bus :=
          { bus with
            registry := none
            deferred := bus.deferred.clear
            interrupts := interrupts
            space := none }
        released := contextsOf (registry.slots.toList.map Prod.snd)
        after := [cleanupRecord registry.count bus.deferred.length items.length]
        result := .ok .done }

/-! ## Signals -/

/-- Register a signal; the serial is drawn even if the registration fails. -/
def register
    (bus : Bus)
    (name : String)
    (description : Option String)
    (priority : Priority) :
    Effect :=
  bus.withRegistry fun registry =>
    let drawn := { bus with nextSerial := bus.nextSerial + 1 }
    let registered := do
      let kept ← bus.backend.acceptName name
      registry.register kept description priority bus.nextSerial
    match registered with
    | .error fault => drawn.failing fault
    | .ok registry =>
        { bus := drawn.setRegistry registry
          after := [.info ("Registered signal '" ++ name ++ "' (priority " ++ priority.text ++ ")")]
          result := .ok .done }

/-- Remove a signal with all its slots. -/
def unregister (bus : Bus) (name : String) : Effect :=
  bus.withRegistry fun registry =>
    match registry.unregister name with
    | .error fault => bus.failing fault
    | .ok (registry, released) =>
        { bus := bus.setRegistry registry
          released := contextsOf released
          after :=
            [.info
              ("Unregistered signal '" ++ name ++ "' (" ++ toString released.length ++
                " slots released)")]
          result := .ok .done }

def contains (bus : Bus) (name : String) : Bool :=
  match bus.registry with
  | none => false
  | some registry => (registry.find? name).isSome

def count (bus : Bus) : Nat :=
  match bus.registry with
  | none => 0
  | some registry => registry.count

def listing (bus : Bus) : List SignalInfo :=
  match bus.registry with
  | none => []
  | some registry => registry.listing

/-! ## Slots -/

/-- Connect a callback; without a priority it takes the declared one of the signal.  The handle is
drawn once the cap and the storage have room for the slot.  The context of a rejected connection is
let go of before the failure is reported. -/
def connect
    (bus : Bus)
    (name : String)
    (callback : RoutineId)
    (context : Option Context)
    (priority : Option Priority) :
    Effect :=
  let rejecting (bus : Bus) (fault : Fault) : Effect :=
    { bus := bus, released := context.toList, result := .error fault }
  match bus.registry with
  | none => rejecting bus Fault.notInitialized
  | some registry =>
      let admitted := do
        let index ← registry.lookup name
        let declared ← registry.grant index bus.maxSlots
        pure (index, declared)
      match admitted with
      | .error fault => rejecting bus fault
      | .ok (index, declared) =>
          let handle : Handle := ⟨bus.nextHandle⟩
          let drawn := { bus with nextHandle := bus.nextHandle + 1 }
          let slot : Slot :=
            { handle := handle
              callback := callback
              context := context
              priority := priority.getD declared }
          match registry.attach index slot with
          | .error fault => rejecting drawn fault
          | .ok registry =>
              { bus := drawn.setRegistry registry
                after := [.debug ("Connected slot " ++ handle.text ++ " to '" ++ name ++ "'")]
                result := .ok (.connected handle) }

/-- Remove the first live slot of a signal that runs a callback. -/
def disconnect (bus : Bus) (name : String) (callback : RoutineId) : Effect :=
  bus.withRegistry fun registry =>
    match registry.lookup name with
    | .error fault => bus.failing fault
    | .ok index =>
        match registry.removeFirst index fun slot => slot.callback == callback with
        | none => bus.failing (Fault.noMatchingSlot name)
        | some (registry, released) =>
            { bus := bus.setRegistry registry
              released := contextsOf released
              after := [.debug ("Disconnected slot from '" ++ name ++ "'")]
              result := .ok .done }

/-- Remove the live slot of a handle. -/
def disconnectHandle (bus : Bus) (handle : Handle) : Effect :=
  if handle.isValid then
    bus.withRegistry fun registry =>
      match registry.removeHandle handle with
      | none => bus.failing (Fault.noSuchSlot handle.text)
      | some (registry, released) =>
          { bus := bus.setRegistry registry
            released := contextsOf released
            after := [.debug ("Disconnected slot " ++ handle.text)]
            result := .ok .done }
  else bus.failing Fault.unissuedHandle

/-- Remove every live slot of a signal. -/
def disconnectAll (bus : Bus) (name : String) : Effect :=
  bus.withRegistry fun registry =>
    match registry.lookup name with
    | .error fault => bus.failing fault
    | .ok index =>
        let (retired, registry, released) := registry.retireAll index
        { bus := bus.setRegistry registry
          released := contextsOf released
          after :=
            [.debug ("Disconnected " ++ toString retired ++ " slots from '" ++ name ++ "'")]
          result := .ok .done }

/-! ## Waiting emissions -/

/-- Put an emission into the deferred queue. -/
def defer (bus : Bus) (emission : Emission) : Effect :=
  bus.withRegistry fun _ =>
    match bus.deferred.push emission with
    | .error fault => bus.failing fault
    | .ok deferred =>
        { bus := { bus with deferred := deferred }
          after := [.debug ("Deferred emission of '" ++ emission.name ++ "'")]
          result := .ok .done }

/-- A signal name in a namespace, or in the one set on the bus. -/
def qualify (bus : Bus) (space : Option String) (name : String) : String :=
  match space <|> bus.space with
  | none => name
  | some space => (space.push Limits.namespaceSeparator) ++ name

def setSpace (bus : Bus) (space : Option String) : Effect where
  bus := { bus with space := space }
  result := .ok .done

/-! ## Settings -/

/-- Cap the live slots of each signal. -/
def setMaxSlots (bus : Bus) (limit : Nat) : Effect :=
  if limit = 0 then bus.failing Fault.zeroSlotLimit
  else
    { bus := { bus with maxSlots := limit }
      before := [.debug ("Slot limit set to " ++ toString limit)]
      result := .ok .done }

/-- Turn the guard on or off; only a change is recorded. -/
def setThreadSafe (bus : Bus) (enabled : Bool) : Effect where
  bus := { bus with guard := bus.guard.setEnabled enabled }
  before :=
    match bus.guard.enabled, enabled with
    | false, true => [.debug "Concurrency guard enabled"]
    | true, false => [.debug "Concurrency guard disabled"]
    | _, _ => []
  result := .ok .done

def setProfiling (bus : Bus) (enabled : Bool) : Effect where
  bus := { bus with profiling := enabled }
  result := .ok .done

def setHook (bus : Bus) (hook : Option RoutineId) : Effect where
  bus := { bus with hook := hook.map fun routine => { routine := routine } }
  result := .ok .done

/-! ## Reports -/

/-- The timing of a signal. -/
def timing (bus : Bus) (name : String) : Effect :=
  bus.withRegistry fun registry =>
    { bus := bus, result := (registry.timing name).map Answer.timing }

/-- How much storage the bus has and uses, while it is initialized. -/
def memory? (bus : Bus) : Option MemoryStats :=
  bus.registry.map fun registry => registry.memoryStats bus.backend.kind

/-- How much storage the bus has and uses. -/
def memoryStats (bus : Bus) : Effect :=
  bus.withRegistry fun registry =>
    bus.answering (.memory (registry.memoryStats bus.backend.kind))

def resetTiming (bus : Bus) : Effect where
  bus := { bus with registry := bus.registry.map Registry.resetTiming }
  result := .ok .done

def resetPeak (bus : Bus) : Effect where
  bus := { bus with registry := bus.registry.map Registry.resetPeak }
  result := .ok .done

/-- A bus in readable form. -/
def display (bus : Bus) : String :=
  "SignalBus \x7b backend: " ++ bus.backend.kind.title ++
    ", initialized: " ++ toString bus.isInitialized ++
    ", guard: " ++ bus.guard.text ++
    ", max_slots_per_signal: " ++ toString bus.maxSlots ++ ", .. \x7d"

end Bus

end SignalDispatch
