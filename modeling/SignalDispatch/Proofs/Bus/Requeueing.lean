import SignalDispatch.Operation

/-!
# Calls that leave the deferred queue alone

Only putting an emission into the deferred queue, asking for its length, replaying it and cleaning
up look at it.  Every other call does the same on a bus with another queue, and leaves that queue as
it is: there is one equation for each call.
-/

namespace SignalDispatch

/-- Whether an operation works on the deferred queue; a cleanup empties it. -/
def Operation.usesDeferred : Operation → Bool
  | cleanup => true
  | forwardDeferred _ => true
  | defer _ => true
  | flush => true
  | deferredLength => true
  | _ => false

/-- A bus with another deferred queue. -/
def Bus.requeue (bus : Bus) (queue : DeferredQueue) : Bus :=
  { bus with deferred := queue }

/-- An effect on a bus with another deferred queue. -/
def Effect.requeue (effect : Effect) (queue : DeferredQueue) : Effect :=
  { effect with bus := effect.bus.requeue queue }

namespace Bus

variable (bus : Bus) (queue : DeferredQueue)

/-- A call on the registry, if it is the same for either queue. -/
theorem withRegistry_requeue
    {call call' : Registry → Effect}
    (same : ∀ registry, call' registry = (call registry).requeue queue) :
    (bus.requeue queue).withRegistry call' = (bus.withRegistry call).requeue queue := by
  rw [withRegistry, withRegistry]
  dsimp only [requeue]
  split
  · rfl
  · exact same _

/-! ## Calls -/

theorem init_requeue : (bus.requeue queue).init = bus.init.requeue queue := by
  rw [init, init]
  split
  next present => rw [if_pos (show bus.isInitialized = true from present)]; rfl
  next absent => rw [if_neg (show ¬ bus.isInitialized = true from absent)]; rfl

theorem register_requeue (name : String) (description : Option String) (priority : Priority) :
    (bus.requeue queue).register name description priority =
      (bus.register name description priority).requeue queue := by
  refine bus.withRegistry_requeue queue fun registry => ?_
  dsimp only [requeue]
  split <;> rfl

theorem unregister_requeue (name : String) :
    (bus.requeue queue).unregister name = (bus.unregister name).requeue queue := by
  refine bus.withRegistry_requeue queue fun registry => ?_
  split <;> rfl

theorem connect_requeue
    (name : String)
    (callback : RoutineId)
    (context : Option Context)
    (priority : Option Priority) :
    (bus.requeue queue).connect name callback context priority =
      (bus.connect name callback context priority).requeue queue := by
  rw [connect, connect]
  dsimp only [requeue]
  split
  · rfl
  · split
    · rfl
    · split <;> rfl

theorem disconnect_requeue (name : String) (callback : RoutineId) :
    (bus.requeue queue).disconnect name callback =
      (bus.disconnect name callback).requeue queue := by
  refine bus.withRegistry_requeue queue fun registry => ?_
  split
  · rfl
  · split <;> rfl

theorem disconnectHandle_requeue (handle : Handle) :
    (bus.requeue queue).disconnectHandle handle =
      (bus.disconnectHandle handle).requeue queue := by
  rw [disconnectHandle, disconnectHandle]
  split
  · refine bus.withRegistry_requeue queue fun registry => ?_
    split <;> rfl
  · rfl

theorem disconnectAll_requeue (name : String) :
    (bus.requeue queue).disconnectAll name = (bus.disconnectAll name).requeue queue := by
  refine bus.withRegistry_requeue queue fun registry => ?_
  split <;> rfl

theorem setMaxSlots_requeue (limit : Nat) :
    (bus.requeue queue).setMaxSlots limit = (bus.setMaxSlots limit).requeue queue := by
  rw [setMaxSlots, setMaxSlots]
  split <;> rfl

theorem timing_requeue (name : String) :
    (bus.requeue queue).timing name = (bus.timing name).requeue queue :=
  bus.withRegistry_requeue queue fun _ => rfl

theorem memoryStats_requeue :
    (bus.requeue queue).memoryStats = bus.memoryStats.requeue queue :=
  bus.withRegistry_requeue queue fun _ => rfl

end Bus

end SignalDispatch
