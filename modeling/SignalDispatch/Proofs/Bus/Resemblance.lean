import SignalDispatch.Operation
import SignalDispatch.Proofs.Interrupt.Resemblance
import SignalDispatch.Proofs.Registry.Resemblance

/-!
# Buses that answer the same

Two buses resemble each other if their registries look the same, the same waits in their queues and
they have the same settings; numbers drawn before do not count, nor do the guard and the profiling
where no times are seen.  Every call leaves buses that resemble each other, lets go of the same
contexts and comes back with the same, up to the numbers of handles and to what is asked about
times.
-/

namespace SignalDispatch

namespace Operation

/-- Whether an operation asks for the guard, the profiling or the times of a bus. -/
def measures : Operation → Bool
  | isThreadSafe => true
  | isProfiling => true
  | timing _ => true
  | display => true
  | _ => false

/-- Whether an operation names a slot by its handle. -/
def namesHandle : Operation → Bool
  | disconnectHandle _ => true
  | _ => false

end Operation

/-- The same fault; where a handle was asked for, the one that names no slot goes along. -/
inductive Fault.Resembles (view : View) (asked : Option Operation) : Fault → Fault → Prop where
  | same (fault : Fault) :
      asked.any Operation.namesHandle = false ∨ fault.kind = .invalidArgument →
      Resembles view asked fault fault
  | noSuchSlot (handle : Handle) :
      asked.any Operation.namesHandle = true →
      Resembles view asked (Fault.noSuchSlot (handle.seen view).text)
        (Fault.noSuchSlot handle.text)

/-- Where no handle was asked for, the fault is the same. -/
theorem Fault.Resembles.eq
    {view : View}
    {asked : Option Operation}
    {fault other : Fault}
    (same : fault.Resembles view asked other)
    (plain : asked.any Operation.namesHandle = false) :
    fault = other := by
  cases same with
  | same fault known => rfl
  | noSuchSlot handle named =>
      rw [plain] at named
      cases named

namespace Answer

/-- An answer that is neither a handle nor a fault. -/
def plain : Answer → Bool
  | connected _ => false
  | fault _ => false
  | _ => true

theorem plain_text (value : Option String) : (text value).plain = true :=
  rfl

/-- The same answer, a handle that goes along, or what was asked about times that are not seen. -/
inductive Resembles (view : View) (asked : Option Operation) : Answer → Answer → Prop where
  | same (answer : Answer) :
      answer.plain = true →
      Resembles view asked answer answer
  | connected (handle : Handle) :
      Resembles view asked (.connected (handle.seen view)) (.connected handle)
  | fault {cause other : Fault} :
      cause.Resembles view asked other →
      Resembles view asked (.fault cause) (.fault other)
  | measured (answer other : Answer) :
      view.timed = false →
      asked.any Operation.measures = true →
      answer.plain = true →
      other.plain = true →
      Resembles view asked answer other

/-- Where nothing was asked for, the fault is the same. -/
theorem Resembles.fault?_eq
    {view : View}
    {answer other : Answer}
    (same : answer.Resembles view none other) :
    answer.fault? = other.fault? := by
  cases same with
  | same | connected => rfl
  | fault causes => rw [causes.eq rfl]
  | measured _ _ untimed measures => cases measures

/-- A setting is the same, or it is not seen. -/
theorem Resembles.flag
    {view : View}
    {asked : Option Operation}
    {value other : Bool}
    (measures : asked.any Operation.measures = true)
    (same : view.timed = true → value = other) :
    Resembles view asked (.flag value) (.flag other) := by
  cases timed : view.timed with
  | true =>
      rw [same timed]
      exact .same _ rfl
  | false => exact .measured _ _ timed measures rfl rfl

end Answer

/-- Both results are faults that resemble each other, or answers that do. -/
inductive ResultsResemble (view : View) (asked : Option Operation) :
    Except Fault Answer → Except Fault Answer → Prop where
  | fault {cause other : Fault} :
      cause.Resembles view asked other →
      ResultsResemble view asked (.error cause) (.error other)
  | answer {answer other : Answer} :
      answer.Resembles view asked other →
      ResultsResemble view asked (.ok answer) (.ok other)

/-- Buses that differ by the numbers that were drawn before, or by what is not seen. -/
structure Bus.Resembles (view : View) (left right : Bus) : Prop where
  backend : left.backend = right.backend
  registry :
    left.registry.map (Registry.seen view.still) = right.registry.map (Registry.seen view)
  guarded : view.timed = true → left.guard.enabled = right.guard.enabled
  nextHandle : left.nextHandle = right.nextHandle + view.handles
  issued : 0 < right.nextHandle
  nextSerial : left.nextSerial = right.nextSerial + view.serials
  maxSlots : left.maxSlots = right.maxSlots
  profiling : view.timed = true → left.profiling = right.profiling
  hook : left.hook = right.hook
  space : left.space = right.space
  deferred : left.deferred = right.deferred
  interrupts : left.interrupts.Resembles right.interrupts

/-- Two calls do the same to buses that resemble each other. -/
structure Effect.Resembles
    (view : View)
    (asked : Option Operation)
    (left right : Effect) : Prop where
  bus : left.bus.Resembles view right.bus
  released : left.released = right.released
  result : ResultsResemble view asked left.result right.result

namespace Bus.Resembles

variable {view : View} {asked : Option Operation} {left right : Bus}

/-- Both buses are initialized, with registries that resemble each other, or none is. -/
theorem parts (same : left.Resembles view right) :
    left.registry = none ∧ right.registry = none ∨
      ∃ registry registry', left.registry = some registry ∧ right.registry = some registry' ∧
        registry.Resembles view registry' :=
  Option.cases_of_map_eq same.registry

theorem setRegistry
    {registry registry' : Registry}
    (same : left.Resembles view right)
    (registries : registry.Resembles view registry') :
    (left.setRegistry registry).Resembles view (right.setRegistry registry') :=
  { same with registry := congrArg some registries }

theorem isInitialized (same : left.Resembles view right) :
    left.isInitialized = right.isInitialized := by
  rw [Bus.isInitialized, Bus.isInitialized]
  rcases same.parts with ⟨absent, absent'⟩ | ⟨registry, registry', present, present', _⟩
  · rw [absent, absent']
  · rw [present, present']
    rfl

/-! ## Effects -/

theorem done
    {before before' after after' : List LogRecord}
    (same : left.Resembles view right) :
    Effect.Resembles view asked
      { bus := left, before := before, after := after, result := .ok .done }
      { bus := right, before := before', after := after', result := .ok .done } :=
  ⟨same, rfl, .answer (.same .done rfl)⟩

theorem failing
    (same : left.Resembles view right)
    {fault other : Fault}
    (causes : fault.Resembles view asked other) :
    (left.failing fault).Resembles view asked (right.failing other) :=
  ⟨same, rfl, .fault causes⟩

/-- A call that lets go of the slots that it removes. -/
theorem removing
    {removal other : Registry × List Slot}
    {before before' after after' : List LogRecord}
    (same : left.Resembles view right)
    (removals : Registry.RemovalsResemble view removal other) :
    Effect.Resembles view asked
      { bus := left.setRegistry removal.1, before := before,
        released := Bus.contextsOf removal.2, after := after, result := .ok .done }
      { bus := right.setRegistry other.1, before := before',
        released := Bus.contextsOf other.2, after := after', result := .ok .done } :=
  ⟨same.setRegistry removals.registry, removals.contexts, .answer (.same .done rfl)⟩

/-- A call that needs a registry. -/
theorem withRegistry
    {call call' : Registry → Effect}
    (same : left.Resembles view right)
    (calls :
      ∀ registry registry',
        registry.Resembles view registry' →
          (call registry).Resembles view asked (call' registry')) :
    (left.withRegistry call).Resembles view asked (right.withRegistry call') := by
  rw [Bus.withRegistry, Bus.withRegistry]
  rcases same.parts with ⟨absent, absent'⟩ | ⟨registry, registry', present, present', both⟩
  · rw [absent, absent']
    exact same.failing (.same _ (Or.inr rfl))
  · rw [present, present']
    exact calls registry registry' both

/-! ## Life of a bus -/

theorem init (same : left.Resembles view right) :
    left.init.Resembles view asked right.init := by
  rw [Bus.init, Bus.init, same.isInitialized]
  split
  · exact same.done
  · have fresh : left.backend.registry.Resembles view right.backend.registry := by
      rw [same.backend, Registry.Resembles, Backend.registry, Registry.seen_empty,
        Registry.seen_empty]
    exact (same.setRegistry fresh).done

theorem cleanup (same : left.Resembles view right) :
    left.cleanup.Resembles view asked right.cleanup := by
  rw [Bus.cleanup, Bus.cleanup]
  rcases same.parts with ⟨absent, absent'⟩ | ⟨registry, registry', present, present', both⟩
  · rw [absent, absent']
    exact same.done
  · rw [present, present']
    refine ⟨?_, both.contexts, .answer (.same .done rfl)⟩
    exact
      { same with
        registry := rfl
        deferred := congrArg DeferredQueue.clear same.deferred
        interrupts := same.interrupts.drain
        space := rfl }

/-! ## Signals -/

theorem register
    (same : left.Resembles view right)
    (plain : asked.any Operation.namesHandle = false)
    (name : String)
    (description : Option String)
    (priority : Priority) :
    (left.register name description priority).Resembles view asked
      (right.register name description priority) := by
  have accepts : left.backend.acceptName name = right.backend.acceptName name := by
    rw [same.backend]
  rw [Bus.register, Bus.register]
  refine same.withRegistry fun registry registry' both => ?_
  simp only [accepts]
  have drawn : Resembles view { left with nextSerial := left.nextSerial + 1 }
      { right with nextSerial := right.nextSerial + 1 } :=
    { same with nextSerial := by rw [same.nextSerial, Nat.add_right_comm] }
  cases right.backend.acceptName name with
  | error fault => exact drawn.failing (.same _ (Or.inl plain))
  | ok kept =>
      have results := both.register kept description priority right.nextSerial
      rw [← same.nextSerial] at results
      rcases Except.cases_of_map_eq results with
        ⟨fault, refused, refused'⟩ | ⟨stored, stored', done, done', registries⟩
      · simp only [bind, Except.bind, refused, refused']
        exact drawn.failing (.same _ (Or.inl plain))
      · simp only [bind, Except.bind, done, done']
        exact (drawn.setRegistry registries).done

theorem unregister
    (same : left.Resembles view right)
    (plain : asked.any Operation.namesHandle = false)
    (name : String) :
    (left.unregister name).Resembles view asked (right.unregister name) := by
  rw [Bus.unregister, Bus.unregister]
  refine same.withRegistry fun registry registry' both => ?_
  rcases Except.cases_of_map_eq (both.unregister name) with
    ⟨fault, refused, refused'⟩ | ⟨removal, removal', done, done', removals⟩
  · rw [refused, refused']
    exact same.failing (.same _ (Or.inl plain))
  · rw [done, done']
    exact same.removing (.of_eq removals)

theorem contains (same : left.Resembles view right) (name : String) :
    left.contains name = right.contains name := by
  rw [Bus.contains, Bus.contains]
  rcases same.parts with ⟨absent, absent'⟩ | ⟨registry, registry', present, present', both⟩
  · rw [absent, absent']
  · rw [present, present']
    exact congrArg Option.isSome (both.find? name)

theorem count (same : left.Resembles view right) : left.count = right.count := by
  rw [Bus.count, Bus.count]
  rcases same.parts with ⟨absent, absent'⟩ | ⟨registry, registry', present, present', both⟩
  · rw [absent, absent']
  · rw [present, present']
    exact both.count

theorem listing (same : left.Resembles view right) : left.listing = right.listing := by
  rw [Bus.listing, Bus.listing]
  rcases same.parts with ⟨absent, absent'⟩ | ⟨registry, registry', present, present', both⟩
  · rw [absent, absent']
  · rw [present, present']
    exact both.listing

/-! ## Slots -/

/-- The context of a rejected connection is let go of on both buses. -/
theorem rejecting
    (same : left.Resembles view right)
    (context : Option Context)
    {fault other : Fault}
    (causes : fault.Resembles view asked other) :
    Effect.Resembles view asked
      { bus := left, released := context.toList, result := .error fault }
      { bus := right, released := context.toList, result := .error other } :=
  ⟨same, rfl, .fault causes⟩

theorem connect
    (same : left.Resembles view right)
    (plain : asked.any Operation.namesHandle = false)
    (name : String)
    (callback : RoutineId)
    (context : Option Context)
    (priority : Option Priority) :
    (left.connect name callback context priority).Resembles view asked
      (right.connect name callback context priority) := by
  rw [Bus.connect, Bus.connect]
  rcases same.parts with ⟨absent, absent'⟩ | ⟨registry, registry', present, present', both⟩
  · rw [absent, absent']
    exact same.rejecting context (.same _ (Or.inl plain))
  · rw [present, present']
    have grants (index : Nat) :
        registry.grant index left.maxSlots = registry'.grant index right.maxSlots := by
      rw [same.maxSlots, both.grant]
    simp only [both.lookup name, grants]
    cases (do
        let index ← registry'.lookup name
        let declared ← registry'.grant index right.maxSlots
        pure (index, declared) : Except Fault (Nat × Priority)) with
    | error fault => exact same.rejecting context (.same _ (Or.inl plain))
    | ok admitted =>
        rcases admitted with ⟨index, declared⟩
        have handle : (⟨left.nextHandle⟩ : Handle) = (⟨right.nextHandle⟩ : Handle).seen view := by
          rw [Handle.seen_of_pos view same.issued, same.nextHandle]
        have drawn :
            Resembles view
              { left with registry := some registry, nextHandle := left.nextHandle + 1 }
              { right with registry := some registry', nextHandle := right.nextHandle + 1 } :=
          { same with
            registry := congrArg some both
            nextHandle := by rw [same.nextHandle, Nat.add_right_comm]
            issued := Nat.succ_pos _ }
        have results := both.attach index
          { handle := ⟨right.nextHandle⟩
            callback := callback
            context := context
            priority := priority.getD declared }
        rw [Slot.seen, ← handle] at results
        dsimp only at results ⊢
        rcases Except.cases_of_map_eq results with
          ⟨fault, refused, refused'⟩ | ⟨stored, stored', done, done', registries⟩
        · simp only [refused, refused']
          exact drawn.rejecting context (.same _ (Or.inl plain))
        · simp only [done, done']
          refine ⟨drawn.setRegistry registries, rfl, .answer ?_⟩
          rw [handle]
          exact .connected _

theorem disconnect
    (same : left.Resembles view right)
    (plain : asked.any Operation.namesHandle = false)
    (name : String)
    (callback : RoutineId) :
    (left.disconnect name callback).Resembles view asked (right.disconnect name callback) := by
  rw [Bus.disconnect, Bus.disconnect]
  refine same.withRegistry fun registry registry' both => ?_
  rw [both.lookup name]
  cases registry'.lookup name with
  | error fault => exact same.failing (.same _ (Or.inl plain))
  | ok index =>
      rcases Option.cases_of_map_eq (both.removeFirst index callback) with
        ⟨nothing, nothing'⟩ | ⟨removal, removal', done, done', removals⟩
      · simp only [nothing, nothing']
        exact same.failing (.same _ (Or.inl plain))
      · simp only [done, done']
        exact same.removing (.of_eq removals)

/-- Disconnecting by a handle, seen from the other bus. -/
theorem disconnectHandle
    (same : left.Resembles view right)
    (named : asked.any Operation.namesHandle = true)
    (handle : Handle) :
    (left.disconnectHandle (handle.seen view)).Resembles view asked
      (right.disconnectHandle handle) := by
  rw [Bus.disconnectHandle, Bus.disconnectHandle, Handle.isValid_seen]
  split
  · refine same.withRegistry fun registry registry' both => ?_
    rcases Option.cases_of_map_eq (both.removeHandle handle) with
      ⟨nothing, nothing'⟩ | ⟨removal, removal', done, done', removals⟩
    · rw [nothing, nothing']
      exact same.failing (.noSuchSlot handle named)
    · rw [done, done']
      exact same.removing (.of_eq removals)
  · exact same.failing (.same _ (Or.inr rfl))

theorem disconnectAll
    (same : left.Resembles view right)
    (plain : asked.any Operation.namesHandle = false)
    (name : String) :
    (left.disconnectAll name).Resembles view asked (right.disconnectAll name) := by
  rw [Bus.disconnectAll, Bus.disconnectAll]
  refine same.withRegistry fun registry registry' both => ?_
  rw [both.lookup name]
  cases registry'.lookup name with
  | error fault => exact same.failing (.same _ (Or.inl plain))
  | ok index => exact same.removing (both.retireAll index).2

/-! ## Waiting emissions -/

theorem defer
    (same : left.Resembles view right)
    (plain : asked.any Operation.namesHandle = false)
    (emission : Emission) :
    (left.defer emission).Resembles view asked (right.defer emission) := by
  rw [Bus.defer, Bus.defer, same.deferred]
  refine same.withRegistry fun registry registry' both => ?_
  cases right.deferred.push emission with
  | error fault => exact same.failing (.same _ (Or.inl plain))
  | ok deferred =>
      have queued : Resembles view { left with deferred := deferred }
          { right with deferred := deferred } :=
        { same with deferred := rfl }
      exact queued.done

theorem qualify (same : left.Resembles view right) (space : Option String) (name : String) :
    left.qualify space name = right.qualify space name := by
  rw [Bus.qualify, same.space, Bus.qualify]

theorem setSpace (same : left.Resembles view right) (space : Option String) :
    (left.setSpace space).Resembles view asked (right.setSpace space) :=
  done { same with space := rfl }

/-! ## Settings -/

theorem setMaxSlots (same : left.Resembles view right) (limit : Nat) :
    (left.setMaxSlots limit).Resembles view asked (right.setMaxSlots limit) := by
  rw [Bus.setMaxSlots, Bus.setMaxSlots]
  split
  · exact same.failing (.same _ (Or.inr rfl))
  · exact done { same with maxSlots := rfl }

theorem setThreadSafe (same : left.Resembles view right) (enabled : Bool) :
    (left.setThreadSafe enabled).Resembles view asked (right.setThreadSafe enabled) :=
  done { same with guarded := fun _ => rfl }

theorem setProfiling (same : left.Resembles view right) (enabled : Bool) :
    (left.setProfiling enabled).Resembles view asked (right.setProfiling enabled) :=
  done { same with profiling := fun _ => rfl }

theorem setHook (same : left.Resembles view right) (hook : Option RoutineId) :
    (left.setHook hook).Resembles view asked (right.setHook hook) :=
  done { same with hook := rfl }

/-! ## Reports -/

/-- The times of a signal are the same, or they are not seen. -/
theorem timing
    (same : left.Resembles view right)
    (plain : asked.any Operation.namesHandle = false)
    (measures : asked.any Operation.measures = true)
    (name : String) :
    (left.timing name).Resembles view asked (right.timing name) := by
  rw [Bus.timing, Bus.timing]
  refine same.withRegistry fun registry registry' both => ?_
  rcases Except.cases_of_map_eq (both.timing name) with
    ⟨fault, refused, refused'⟩ | ⟨times, times', found, found', seen⟩
  · rw [refused, refused']
    exact ⟨same, rfl, .fault (.same _ (Or.inl plain))⟩
  · rw [found, found']
    refine ⟨same, rfl, .answer ?_⟩
    cases timed : view.timed with
    | true =>
        rw [View.timing, if_pos timed, View.timing, if_pos timed] at seen
        rw [seen]
        exact .same _ rfl
    | false => exact .measured _ _ timed measures rfl rfl

theorem memory?_eq (same : left.Resembles view right) : left.memory? = right.memory? := by
  rw [Bus.memory?, Bus.memory?, same.backend]
  rcases same.parts with ⟨absent, absent'⟩ | ⟨registry, registry', present, present', both⟩
  · rw [absent, absent']
  · rw [present, present']
    exact congrArg some (both.memoryStats _)

theorem memoryStats (same : left.Resembles view right) :
    left.memoryStats.Resembles view asked right.memoryStats := by
  rw [Bus.memoryStats, Bus.memoryStats, same.backend]
  refine same.withRegistry fun registry registry' both => ?_
  rw [both.memoryStats]
  exact ⟨same, rfl, .answer (.same _ rfl)⟩

theorem resetTiming (same : left.Resembles view right) :
    left.resetTiming.Resembles view asked right.resetTiming := by
  refine done { same with registry := ?_ }
  rcases same.parts with ⟨absent, absent'⟩ | ⟨registry, registry', present, present', both⟩
  · rw [absent, absent']
    rfl
  · rw [present, present']
    exact congrArg some both.resetTiming

theorem resetPeak (same : left.Resembles view right) :
    left.resetPeak.Resembles view asked right.resetPeak := by
  refine done { same with registry := ?_ }
  rcases same.parts with ⟨absent, absent'⟩ | ⟨registry, registry', present, present', both⟩
  · rw [absent, absent']
    rfl
  · rw [present, present']
    exact congrArg some both.resetPeak

/-- The readable form shows the guard. -/
theorem display
    (same : left.Resembles view right)
    (measures : asked.any Operation.measures = true) :
    Answer.Resembles view asked (.text (some left.display)) (.text (some right.display)) := by
  cases timed : view.timed with
  | true =>
      have guarded : left.guard.text = right.guard.text := by
        unfold Guard.text
        rw [same.guarded timed]
      have shown : left.display = right.display := by
        unfold Bus.display
        rw [same.backend, same.isInitialized, guarded, same.maxSlots]
      rw [shown]
      exact .same _ (Answer.plain_text _)
  | false => exact .measured _ _ timed measures (Answer.plain_text _) (Answer.plain_text _)

end Bus.Resembles

end SignalDispatch
