import SignalDispatch.Proofs.Bus.Freed
import SignalDispatch.Proofs.Directory.Calls
import SignalDispatch.Proofs.Registry.AlikeCalls

/-!
# Buses that agree

`Bus.Alike` relates a bus on growing storage to one on pools: their registries show the same, and
nothing but the storage tells them apart otherwise.  Each call keeps two buses alike and comes back
with answers that agree, unless a pool has no room for what the call adds; then the bus on growing
storage has outgrown the pools.

`Answer.Agrees` says how much answers may differ: a listing by its order, memory figures altogether,
and the readable form of a bus by the name of its storage.
-/

namespace SignalDispatch

/-- Two answers agree, apart from what depends on the storage. -/
inductive Answer.Agrees (signalRoom slotRoom : Nat) : Answer → Answer → Prop where
  | same (answer : Answer) : Agrees signalRoom slotRoom answer answer
  | listing {first second : List SignalInfo} :
      first.Perm second →
      Agrees signalRoom slotRoom (.listing first) (.listing second)
  | memory (stats other : MemoryStats) :
      Agrees signalRoom slotRoom (.memory stats) (.memory other)
  /-- The readable form of a bus names its storage. -/
  | display (bus : Bus) :
      Agrees signalRoom slotRoom
        (.text (some ({ bus with backend := .heap } : Bus).display))
        (.text (some ({ bus with backend := .pool signalRoom slotRoom } : Bus).display))

/-- Answers that agree fail with the same fault. -/
theorem Answer.Agrees.fault?_eq
    {signalRoom slotRoom : Nat}
    {answer other : Answer}
    (agrees : Agrees signalRoom slotRoom answer other) :
    answer.fault? = other.fault? := by
  cases agrees <;> rfl

/-- Both results fail with the same fault, or they are answers that agree. -/
inductive ResultsAgree (signalRoom slotRoom : Nat) :
    Except Fault Answer → Except Fault Answer → Prop where
  | fault (cause : Fault) : ResultsAgree signalRoom slotRoom (.error cause) (.error cause)
  | answer {answer other : Answer} :
      answer.Agrees signalRoom slotRoom other →
      ResultsAgree signalRoom slotRoom (.ok answer) (.ok other)

/-- The faults of a pool that has no room left. -/
def PoolFault (signalRoom slotRoom : Nat) (fault : Fault) : Prop :=
  fault = .resourceExhausted (.signalPool signalRoom) ∨
    fault = .resourceExhausted (.slotPool slotRoom)

/-! ## Stored slots -/

namespace Registry

/-- The slots that are stored, links apart, are the ones that are shown. -/
theorem WellFormed.mem_stored_iff
    {registry : Registry}
    (formed : registry.WellFormed)
    (slot : Slot) :
    slot ∈ (registry.slots.toList.map Prod.snd).map Slot.content ↔
      ∃ signal slots, registry.Shows signal slots ∧ slot ∈ slots := by
  rw [← filterMap_contentAt_toList, List.mem_filterMap]
  constructor
  · rintro ⟨position, _, found⟩
    rcases formed.covered (Option.isSome_of_eq_some found) with ⟨index, linked⟩
    rcases formed.chained.registered linked with ⟨signal, stored⟩
    exact ⟨signal.content, _, ⟨index, signalAt_of_get? stored, rfl⟩,
      (mem_contentsOf_iff _ _ _).mpr ⟨position, linked, found⟩⟩
  · rintro ⟨_, _, ⟨index, _, rfl⟩, member⟩
    rcases (mem_contentsOf_iff _ _ _).mp member with ⟨position, _, found⟩
    rcases (contentAt_eq_some_iff _ _ _).mp found with ⟨kept, there, _⟩
    exact ⟨position, List.mem_map.mpr ⟨_, (Arena.mem_toList_iff _ _ _).mpr there, rfl⟩, found⟩

theorem WellFormed.nodup_stored {registry : Registry} (formed : registry.WellFormed) :
    ((registry.slots.toList.map Prod.snd).map Slot.content).Nodup := by
  rw [← filterMap_contentAt_toList]
  refine List.Nodup.filterMap ?_ (Arena.nodup_toList_map_fst _)
  intro left right slot found found'
  exact formed.handles_apart (Option.mem_def.mp found) (Option.mem_def.mp found') rfl

namespace Alike

variable
  {allowed : Context → Prop}
  {signalRoom slotRoom : Nat}
  {left right : Registry}

/-- Registries that show the same store slots with the same contexts, in some order. -/
theorem contexts_perm
    (alike : Alike allowed signalRoom slotRoom left right)
    (formed : left.WellFormed)
    (formed' : right.WellFormed) :
    (Bus.contextsOf (left.slots.toList.map Prod.snd)).Perm
      (Bus.contextsOf (right.slots.toList.map Prod.snd)) := by
  rw [← Bus.contextsOf_map_content, ← Bus.contextsOf_map_content (right.slots.toList.map _)]
  refine List.Perm.filterMap _ ?_
  refine (List.perm_ext_iff_of_nodup formed.nodup_stored formed'.nodup_stored).mpr ?_
  intro slot
  rw [formed.mem_stored_iff, formed'.mem_stored_iff]
  exact exists_congr fun signal => exists_congr fun slots =>
    and_congr_left' (alike.shows signal slots)

/-- The contexts of the stored slots pass the test. -/
theorem allowed_contexts
    (alike : Alike allowed signalRoom slotRoom left right)
    (formed : left.WellFormed) :
    ∀ context ∈ Bus.contextsOf (left.slots.toList.map Prod.snd), allowed context := by
  intro context member
  rw [← Bus.contextsOf_map_content, Bus.contextsOf, List.mem_filterMap] at member
  rcases member with ⟨slot, stored, same⟩
  rcases (formed.mem_stored_iff slot).mp stored with ⟨signal, slots, shown, among⟩
  exact alike.carries signal slots shown slot among context same

end Alike

end Registry

namespace Bus

/-- The bus with its registry on pools. -/
def onPools (bus : Bus) (signalRoom slotRoom : Nat) (registry : Option Registry) : Bus :=
  { bus with backend := .pool signalRoom slotRoom, registry := registry }

/-- A bus on growing storage and one on pools that differ by their storage only. -/
structure Alike
    (allowed : Context → Prop)
    (signalRoom slotRoom : Nat)
    (left right : Bus) : Prop where
  heap : left.backend = .heap
  same : right = left.onPools signalRoom slotRoom right.registry
  registry :
    Option.Rel (Registry.Alike allowed signalRoom slotRoom) left.registry right.registry

/-- No more signals and slots are stored than the pools would have room for. -/
def Fits (signalRoom slotRoom : Nat) (bus : Bus) : Prop :=
  ∀ registry ∈ bus.registry,
    registry.signals.size ≤ signalRoom ∧ registry.slots.size ≤ slotRoom

instance (signalRoom slotRoom : Nat) (bus : Bus) : Decidable (bus.Fits signalRoom slotRoom) :=
  inferInstanceAs (Decidable (∀ registry ∈ bus.registry, _ ∧ _))

theorem alike_ofConfig
    (allowed : Context → Prop)
    (signalRoom slotRoom : Nat)
    (config : Config) :
    Alike allowed signalRoom slotRoom (ofConfig .heap config)
      (ofConfig (.pool signalRoom slotRoom) config) :=
  ⟨rfl, rfl, .none⟩

end Bus

/-- Two calls do the same to buses that are alike. -/
structure Effect.Alike
    (allowed : Context → Prop)
    (signalRoom slotRoom : Nat)
    (left right : Effect) : Prop where
  bus : left.bus.Alike allowed signalRoom slotRoom right.bus
  released : left.released.Perm right.released
  allowed : ∀ context ∈ left.released, allowed context
  result : ResultsAgree signalRoom slotRoom left.result right.result

/-- A call that lets go of nothing and is done. -/
theorem Effect.Alike.done
    {allowed : Context → Prop}
    {signalRoom slotRoom : Nat}
    {effect other : Effect}
    (alike : effect.bus.Alike allowed signalRoom slotRoom other.bus)
    (released : effect.released = [])
    (released' : other.released = [])
    (result : effect.result = .ok .done)
    (result' : other.result = .ok .done) :
    effect.Alike allowed signalRoom slotRoom other := by
  refine ⟨alike, ?_, ?_, ?_⟩
  · rw [released, released']
  · rw [released]
    exact fun _ member => absurd member List.not_mem_nil
  · rw [result, result']
    exact .answer (.same .done)

/-- The pools have no room for what the call adds, and growing storage has outgrown them. -/
structure Effect.Outgrows (signalRoom slotRoom : Nat) (left right : Effect) : Prop where
  refused : ∃ fault, right.result = .error fault ∧ PoolFault signalRoom slotRoom fault
  outgrown : ¬ left.bus.Fits signalRoom slotRoom

/-- The readable form of a bus shows its storage, its guard and its limit. -/
theorem Bus.display_congr
    {bus other : Bus}
    (backend : other.backend = bus.backend)
    (initialized : other.isInitialized = bus.isInitialized)
    (guarded : other.guard = bus.guard)
    (limit : other.maxSlots = bus.maxSlots) :
    other.display = bus.display := by
  unfold display
  rw [backend, initialized, guarded, limit]

namespace Bus.Alike

variable
  {allowed : Context → Prop}
  {signalRoom slotRoom : Nat}
  {left right : Bus}

/-- Both buses are initialized, with registries that are alike, or none is. -/
theorem parts (alike : left.Alike allowed signalRoom slotRoom right) :
    (left.registry = none ∧ right = left.onPools signalRoom slotRoom none) ∨
      ∃ registry registry', left.registry = some registry ∧
        right = left.onPools signalRoom slotRoom (some registry') ∧
        Registry.Alike allowed signalRoom slotRoom registry registry' := by
  rcases alike with ⟨_, same, registries⟩
  cases found : left.registry with
  | none =>
      cases found' : right.registry with
      | none =>
          rw [found'] at same
          exact Or.inl ⟨rfl, same⟩
      | some registry' =>
          rw [found, found'] at registries
          cases registries
  | some registry =>
      cases found' : right.registry with
      | none =>
          rw [found, found'] at registries
          cases registries
      | some registry' =>
          rw [found, found'] at registries
          rw [found'] at same
          cases registries with
          | some both => exact Or.inr ⟨registry, registry', rfl, same, both⟩

/-- A change of what has nothing to do with storage. -/
theorem update
    (alike : left.Alike allowed signalRoom slotRoom right)
    (change : Bus → Bus)
    (backend : (change left).backend = left.backend)
    (registry : ∀ bus, (change bus).registry = bus.registry)
    (apart :
      ∀ other,
        change (left.onPools signalRoom slotRoom other) =
          (change left).onPools signalRoom slotRoom other) :
    (change left).Alike allowed signalRoom slotRoom (change right) := by
  refine ⟨backend.trans alike.heap, ?_, ?_⟩
  · rw [registry, alike.same, apart]
    rfl
  · rw [registry, registry]
    exact alike.registry

/-- Registries that are alike are put into buses that are alike. -/
theorem setRegistry
    (alike : left.Alike allowed signalRoom slotRoom right)
    {registry registry' : Registry}
    (both : Registry.Alike allowed signalRoom slotRoom registry registry') :
    (left.setRegistry registry).Alike allowed signalRoom slotRoom
      (right.setRegistry registry') := by
  refine ⟨alike.heap, ?_, .some both⟩
  rw [alike.same]
  rfl

/-! ### Calls that change no registry -/

theorem failing
    (alike : left.Alike allowed signalRoom slotRoom right)
    (fault : Fault) :
    (left.failing fault).Alike allowed signalRoom slotRoom (right.failing fault) :=
  ⟨alike, .nil, fun _ member => absurd member List.not_mem_nil, .fault fault⟩

theorem answering
    (alike : left.Alike allowed signalRoom slotRoom right)
    {answer other : Answer}
    (agrees : answer.Agrees signalRoom slotRoom other) :
    (left.answering answer).Alike allowed signalRoom slotRoom (right.answering other) :=
  ⟨alike, .nil, fun _ member => absurd member List.not_mem_nil, .answer agrees⟩

/-- A call that needs a registry. -/
theorem withRegistry
    (alike : left.Alike allowed signalRoom slotRoom right)
    {call call' : Registry → Effect}
    (calls :
      ∀ registry registry', left.registry = some registry → right.registry = some registry' →
        Registry.Alike allowed signalRoom slotRoom registry registry' →
          (call registry).Alike allowed signalRoom slotRoom (call' registry')) :
    (left.withRegistry call).Alike allowed signalRoom slotRoom (right.withRegistry call') := by
  rcases alike.parts with ⟨absent, same⟩ | ⟨registry, registry', present, same, both⟩
  · rw [withRegistry_of_none absent, withRegistry_of_none (by rw [same]; rfl)]
    exact alike.failing _
  · have present' : right.registry = some registry' := by rw [same]; rfl
    rw [withRegistry_of_some present, withRegistry_of_some present']
    exact calls registry registry' present present' both

theorem isInitialized (alike : left.Alike allowed signalRoom slotRoom right) :
    left.isInitialized = right.isInitialized := by
  rw [Bus.isInitialized, Bus.isInitialized]
  rcases alike.parts with ⟨absent, same⟩ | ⟨registry, registry', present, same, _⟩
  · rw [absent, same]
    rfl
  · rw [present, same]
    rfl

theorem init (alike : left.Alike allowed signalRoom slotRoom right) :
    left.init.Alike allowed signalRoom slotRoom right.init := by
  rw [Bus.init, Bus.init, ← alike.isInitialized]
  split
  · exact .done alike rfl rfl rfl rfl
  · refine .done ?_ rfl rfl rfl rfl
    have empty := Registry.alike_empty allowed signalRoom slotRoom
    have growing : left.backend.registry = .empty .growing .growing := by
      rw [alike.heap]
      rfl
    have pooled : right.backend.registry = .empty (.pool signalRoom) (.pool slotRoom) := by
      rw [alike.same]
      rfl
    rw [growing, pooled]
    exact alike.setRegistry empty

theorem defer (alike : left.Alike allowed signalRoom slotRoom right) (emission : Emission) :
    (left.defer emission).Alike allowed signalRoom slotRoom (right.defer emission) := by
  refine alike.withRegistry fun _ _ _ _ _ => ?_
  have deferred : right.deferred = left.deferred := by
    rw [alike.same]
    rfl
  rw [deferred]
  cases left.deferred.push emission with
  | error fault => exact alike.failing fault
  | ok waiting =>
      exact .done (alike.update (fun bus => { bus with deferred := waiting }) rfl (fun _ => rfl)
        fun _ => rfl) rfl rfl rfl rfl

theorem setMaxSlots (alike : left.Alike allowed signalRoom slotRoom right) (limit : Nat) :
    (left.setMaxSlots limit).Alike allowed signalRoom slotRoom (right.setMaxSlots limit) := by
  rw [Bus.setMaxSlots, Bus.setMaxSlots]
  split
  · exact alike.failing _
  · exact .done (alike.update (fun bus => { bus with maxSlots := limit }) rfl (fun _ => rfl)
      fun _ => rfl) rfl rfl rfl rfl

theorem setThreadSafe (alike : left.Alike allowed signalRoom slotRoom right) (enabled : Bool) :
    (left.setThreadSafe enabled).Alike allowed signalRoom slotRoom
      (right.setThreadSafe enabled) :=
  .done (alike.update (fun bus => { bus with guard := bus.guard.setEnabled enabled }) rfl
    (fun _ => rfl) fun _ => rfl) rfl rfl rfl rfl

theorem setProfiling (alike : left.Alike allowed signalRoom slotRoom right) (enabled : Bool) :
    (left.setProfiling enabled).Alike allowed signalRoom slotRoom (right.setProfiling enabled) :=
  .done (alike.update (fun bus => { bus with profiling := enabled }) rfl (fun _ => rfl)
    fun _ => rfl) rfl rfl rfl rfl

theorem setSpace
    (alike : left.Alike allowed signalRoom slotRoom right)
    (space : Option String) :
    (left.setSpace space).Alike allowed signalRoom slotRoom (right.setSpace space) :=
  .done (alike.update (fun bus => { bus with space := space }) rfl (fun _ => rfl)
    fun _ => rfl) rfl rfl rfl rfl

theorem setHook
    (alike : left.Alike allowed signalRoom slotRoom right)
    (hook : Option RoutineId) :
    (left.setHook hook).Alike allowed signalRoom slotRoom (right.setHook hook) :=
  .done (alike.update
    (fun bus => { bus with hook := hook.map fun routine => { routine := routine } }) rfl
    (fun _ => rfl) fun _ => rfl) rfl rfl rfl rfl

/-! ### Reports -/

theorem memoryStats (alike : left.Alike allowed signalRoom slotRoom right) :
    left.memoryStats.Alike allowed signalRoom slotRoom right.memoryStats :=
  alike.withRegistry fun _ _ _ _ _ => alike.answering (.memory _ _)

theorem display (alike : left.Alike allowed signalRoom slotRoom right) :
    (Answer.text (some left.display)).Agrees signalRoom slotRoom
      (.text (some right.display)) := by
  have here : left = { left with backend := .heap } := by
    rw [← alike.heap]
  have there : right.display =
      ({ left with backend := .pool signalRoom slotRoom } : Bus).display :=
    display_congr (by rw [alike.same]; rfl) alike.isInitialized.symm (by rw [alike.same]; rfl)
      (by rw [alike.same]; rfl)
  rw [there, congrArg Bus.display here]
  exact .display left

/-! ### Calls that change a registry -/

/-- Slots that go out of storage give back their contexts. -/
theorem removed
    (alike : left.Alike allowed signalRoom slotRoom right)
    {result result' : Registry × List Slot}
    (removed : Registry.Removed allowed signalRoom slotRoom result result')
    (records records' : List LogRecord) :
    Effect.Alike allowed signalRoom slotRoom
      { bus := left.setRegistry result.1
        released := contextsOf result.2
        after := records
        result := .ok .done }
      { bus := right.setRegistry result'.1
        released := contextsOf result'.2
        after := records'
        result := .ok .done } := by
  refine ⟨alike.setRegistry removed.alike, ?_, ?_, .answer (.same .done)⟩
  · dsimp only
    rw [← contextsOf_map_content, removed.same, contextsOf_map_content]
  · intro context member
    rcases List.mem_filterMap.mp member with ⟨slot, among, same⟩
    exact removed.carries slot among context same

theorem count (alike : left.Alike allowed signalRoom slotRoom right) :
    left.count = right.count := by
  rw [Bus.count, Bus.count]
  rcases alike.parts with ⟨absent, same⟩ | ⟨registry, registry', present, same, both⟩
  · rw [absent, same]
    rfl
  · rw [present, same]
    exact both.signalSize

theorem resetPeak (alike : left.Alike allowed signalRoom slotRoom right) :
    left.resetPeak.Alike allowed signalRoom slotRoom right.resetPeak := by
  refine .done ?_ rfl rfl rfl rfl
  rw [Bus.resetPeak, Bus.resetPeak]
  rcases alike.parts with ⟨absent, same⟩ | ⟨registry, registry', present, same, both⟩
  · rw [absent, same]
    exact ⟨alike.heap, rfl, .none⟩
  · have present' : right.registry = some registry' := by rw [same]; rfl
    rw [present, present']
    exact alike.setRegistry both.resetPeak

section Sane

variable (sane : left.Sane) (sane' : right.Sane)

include sane'

theorem timing (alike : left.Alike allowed signalRoom slotRoom right) (name : String) :
    (left.timing name).Alike allowed signalRoom slotRoom (right.timing name) := by
  refine alike.withRegistry fun registry registry' present present' both => ?_
  rw [both.timing (sane'.registry present').formed]
  refine ⟨alike, .nil, fun _ member => absurd member List.not_mem_nil, ?_⟩
  cases registry'.timing name with
  | error fault => exact .fault fault
  | ok figures => exact .answer (.same _)

theorem contains (alike : left.Alike allowed signalRoom slotRoom right) (name : String) :
    left.contains name = right.contains name := by
  rw [Bus.contains, Bus.contains]
  rcases alike.parts with ⟨absent, same⟩ | ⟨registry, registry', present, same, both⟩
  · rw [absent, same]
    rfl
  · have present' : right.registry = some registry' := by rw [same]; rfl
    rw [present, present']
    dsimp only
    rcases both.find? (sane'.registry present').formed name with
      ⟨absent, absent'⟩ | ⟨here, there, _, found, found', _⟩
    · rw [absent, absent']
    · rw [found, found']
      rfl

include sane

theorem cleanup (alike : left.Alike allowed signalRoom slotRoom right) :
    left.cleanup.Alike allowed signalRoom slotRoom right.cleanup := by
  rw [Bus.cleanup, Bus.cleanup]
  rcases alike.parts with ⟨absent, same⟩ | ⟨registry, registry', present, same, both⟩
  · have absent' : right.registry = none := by rw [same]; rfl
    rw [absent, absent']
    exact alike.answering (.same .done)
  · have present' : right.registry = some registry' := by rw [same]; rfl
    have formed := (sane.registry present).formed
    have formed' := (sane'.registry present').formed
    rw [present, present']
    refine ⟨⟨alike.heap, ?_, .none⟩, both.contexts_perm formed formed',
      both.allowed_contexts formed, .answer (.same .done)⟩
    rw [same]
    rfl

theorem unregister (alike : left.Alike allowed signalRoom slotRoom right) (name : String) :
    (left.unregister name).Alike allowed signalRoom slotRoom (right.unregister name) := by
  refine alike.withRegistry fun registry registry' present present' both => ?_
  rcases both.unregister (sane.registry present).formed (sane'.registry present').formed name with
    ⟨absent, absent'⟩ | ⟨result, result', done, done', removed⟩
  · rw [absent, absent']
    exact alike.failing _
  · rw [done, done']
    exact alike.removed removed _ _

theorem disconnect
    (alike : left.Alike allowed signalRoom slotRoom right)
    (name : String)
    (callback : RoutineId) :
    (left.disconnect name callback).Alike allowed signalRoom slotRoom
      (right.disconnect name callback) := by
  refine alike.withRegistry fun registry registry' present present' both => ?_
  have formed := (sane.registry present).formed
  have formed' := (sane'.registry present').formed
  rcases both.lookup formed' name with ⟨absent, absent'⟩ | ⟨here, there, _, found, found', _, at'⟩
  · rw [absent, absent']
    exact alike.failing _
  · simp only [found, found']
    rcases both.removeFirst formed formed' at' (·.callback == callback) fun _ => rfl with
      ⟨nobody, nobody'⟩ | ⟨result, result', done, done', removed⟩
    · rw [nobody, nobody']
      exact alike.failing _
    · rw [done, done']
      exact alike.removed removed _ _

theorem disconnectHandle
    (alike : left.Alike allowed signalRoom slotRoom right)
    (handle : Handle) :
    (left.disconnectHandle handle).Alike allowed signalRoom slotRoom
      (right.disconnectHandle handle) := by
  rw [Bus.disconnectHandle, Bus.disconnectHandle]
  split
  · refine alike.withRegistry fun registry registry' present present' both => ?_
    rcases both.removeHandle (sane.registry present).formed (sane'.registry present').formed
      handle with ⟨nobody, nobody'⟩ | ⟨result, result', done, done', removed⟩
    · rw [nobody, nobody']
      exact alike.failing _
    · rw [done, done']
      exact alike.removed removed _ _
  · exact alike.failing _

theorem disconnectAll (alike : left.Alike allowed signalRoom slotRoom right) (name : String) :
    (left.disconnectAll name).Alike allowed signalRoom slotRoom (right.disconnectAll name) := by
  refine alike.withRegistry fun registry registry' present present' both => ?_
  have formed := (sane.registry present).formed
  have formed' := (sane'.registry present').formed
  rcases both.lookup formed' name with ⟨absent, absent'⟩ | ⟨here, there, _, found, found', _, at'⟩
  · rw [absent, absent']
    exact alike.failing _
  · rw [found, found']
    exact alike.removed (both.retireAll formed formed' at').2 _ _

theorem resetTiming (alike : left.Alike allowed signalRoom slotRoom right) :
    left.resetTiming.Alike allowed signalRoom slotRoom right.resetTiming := by
  refine .done ?_ rfl rfl rfl rfl
  rw [Bus.resetTiming, Bus.resetTiming]
  rcases alike.parts with ⟨absent, same⟩ | ⟨registry, registry', present, same, both⟩
  · rw [absent, same]
    exact ⟨alike.heap, rfl, .none⟩
  · have present' : right.registry = some registry' := by rw [same]; rfl
    rw [present, present']
    exact alike.setRegistry
      (both.resetTiming (sane.registry present).formed (sane'.registry present').formed)

theorem listing (alike : left.Alike allowed signalRoom slotRoom right) :
    left.listing.Perm right.listing := by
  rw [Bus.listing, Bus.listing]
  rcases alike.parts with ⟨absent, same⟩ | ⟨registry, registry', present, same, both⟩
  · rw [absent, same]
    exact .nil
  · have present' : right.registry = some registry' := by rw [same]; rfl
    rw [present, present']
    exact both.listing (sane.registry present).formed (sane'.registry present').formed

end Sane

end Bus.Alike

end SignalDispatch
