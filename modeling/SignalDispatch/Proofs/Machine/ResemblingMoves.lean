import SignalDispatch.Proofs.Machine.Resemblance

/-!
# Moves of machines that resemble each other

Two machines that resemble each other do so after one move of both.  There is one lemma for each
thing that a move can be: taking over the effect of a call, entering or leaving a signal, calling a
slot, starting any operation, the next move of each frame, handing it an answer, and a panic that
reaches it.
-/

namespace SignalDispatch

/-- The same routines with another clock. -/
def Program.retimed (program : Program) (clock : Nat → Nat) : Program :=
  { program with clock := clock }

namespace Machine

variable {program : Program} {clock : Nat → Nat} {view : View} {asked : Option Operation}
  {left right : Machine}

namespace Pairs

/-! ## Calls -/

/-- Two machines take over effects that resemble each other. -/
theorem apply
    {effect other : Effect}
    (pairs : Pairs view asked left right)
    (effects : effect.Resembles view (awaited asked left.stack) other) :
    Resembles view asked (left.apply effect) (right.apply other) := by
  have changed := (pairs.setBus effects.bus).log effect.before other.before
  have waits : awaited asked ((left.setBus effect.bus).log effect.before).stack =
      awaited asked left.stack := by
    rw [stack_log]
    rfl
  have lasts : effect.last.Resembles view (awaited asked left.stack) other.last := by
    have results := effects.result
    rw [Effect.last, Effect.last]
    generalize effect.result = result at results ⊢
    generalize other.result = result' at results ⊢
    cases results with
    | fault causes => exact .reject causes
    | answer answers => exact .conclude _ _ answers
  rw [← waits] at lasts
  rw [Machine.apply, Machine.apply, ← effects.released]
  exact ((changed.push lasts).push (.release _ _)).proceeding

/-- Entering a signal, or reporting why it cannot be entered. -/
theorem beginEmission
    (pairs : Pairs view asked left right)
    (plain : (awaited asked left.stack).any Operation.namesHandle = false)
    (emission : Emission) :
    Resembles view asked (left.beginEmission emission) (right.beginEmission emission) := by
  have buses := pairs.world.bus
  rw [Machine.beginEmission, Machine.beginEmission]
  rcases buses.parts with ⟨absent, absent'⟩ | ⟨registry, registry', present, present', both⟩
  · rw [absent, absent']
    exact (pairs.push (.reject (.same _ (Or.inl plain)))).proceeding
  · rw [present, present']
    rcases Except.cases_of_map_eq (both.beginEmission emission.name) with
      ⟨fault, refused, refused'⟩ | ⟨entered, entered', begins, begins', same⟩
    · simp only [refused, refused']
      exact (pairs.push (.reject (.same _ (Or.inl plain)))).proceeding
    · rcases entered with ⟨registry, signalRef, head⟩
      rcases entered' with ⟨registry', signalRef', head'⟩
      simp only [Prod.mk.injEq, SignalRef.seen_still] at same
      rcases same with ⟨registries, signalRefs, rfl⟩
      simp only [begins, begins']
      have world : World.Resembles view
          { left.world with
            bus := left.world.bus.setRegistry registry
            readings :=
              if left.world.bus.profiling then left.world.readings + 1 else left.world.readings }
          { right.world with
            bus := right.world.bus.setRegistry registry'
            readings :=
              if right.world.bus.profiling then right.world.readings + 1
              else right.world.readings } :=
        { pairs.world with
          bus := buses.setRegistry registries
          readings := fun timed => by rw [buses.profiling timed, pairs.world.readings timed] }
      refine ((pairs.setWorld world).push (.walk ?_)).proceeding
      exact
        { name := rfl
          payload := rfl
          signalRef := signalRefs
          cursor := rfl
          invoked := rfl
          startedAt := fun timed => by rw [buses.profiling timed, pairs.world.readings timed]
          running := rfl }

/-- Leaving a signal lets go of the same contexts. -/
theorem leave
    {walk other : Walk}
    (pairs : Pairs view asked left right)
    (clocks : view.timed = true → clock = program.clock)
    (walks : walk.Resembles view other) :
    Pairs view asked (left.leave program walk).1 (right.leave (program.retimed clock) other).1 ∧
      Bus.contextsOf (left.leave program walk).2 =
        Bus.contextsOf (right.leave (program.retimed clock) other).2 := by
  have timed : Pairs view asked (left.timed walk) (right.timed other) :=
    pairs.setWorld
      { pairs.world with
        readings := fun seen => by rw [walks.startedAt seen, pairs.world.readings seen] }
  have times : view.time? (left.elapsed? program walk) =
      view.time? (right.elapsed? (program.retimed clock) other) := by
    rw [View.time?, View.time?]
    split
    next seen =>
      rw [elapsed?, walks.startedAt seen, pairs.world.readings seen, elapsed?, Program.retimed,
        clocks seen]
    next => rfl
  rcases pairs.world.bus.parts with
    ⟨absent, absent'⟩ | ⟨registry, registry', present, present', both⟩
  · rw [leave_of_none program absent, leave_of_none (program.retimed clock) absent']
    exact ⟨timed, rfl⟩
  · have removals := both.endEmission other.signalRef times
    rw [← walks.signalRef] at removals
    rw [leave_of_some program present, leave_of_some (program.retimed clock) present']
    exact ⟨(timed.setBus (pairs.world.bus.setRegistry removals.registry)).log _ _,
      removals.contexts⟩

/-- The same contexts have an owner. -/
theorem owns_eq (pairs : Pairs view asked left right) (ticket : Nat) :
    left.owns ticket = right.owns ticket := by
  have buses : left.world.bus.contexts = right.world.bus.contexts := by
    rw [Bus.contexts, Bus.contexts]
    rcases pairs.world.bus.parts with
      ⟨absent, absent'⟩ | ⟨registry, registry', present, present', both⟩
    · rw [absent, absent']
    · rw [present, present']
      exact both.contexts
  have frames : left.stack.flatMap Frame.contexts = right.stack.flatMap Frame.contexts := by
    have stack := pairs.stack
    generalize left.stack = frames at stack ⊢
    generalize right.stack = others at stack ⊢
    induction stack with
    | nil => rfl
    | cons first _ ih =>
        rw [List.flatMap_cons, List.flatMap_cons, ih, first.contexts_eq]
  rw [owns, owns, contexts, contexts, buses, frames]

/-! ## Starting an operation -/

/-- What is left to be done once a connection was tried: a handle that came back is kept, or the
place for it could not be read. -/
theorem settle
    {effect other : Effect}
    (pairs : Pairs view asked left right)
    (keep : KeepRequest)
    (effects : effect.Resembles view (awaited asked left.stack) other)
    (plain : (awaited asked left.stack).any Operation.measures = false) :
    Resembles view asked (left.settle keep effect) (right.settle keep other) := by
  have unread (complaint : String) :
      Resembles view asked (left.apply { effect with result := .ok (.unreadable complaint) })
        (right.apply { other with result := .ok (.unreadable complaint) }) :=
    pairs.apply { effects with result := .answer (.same _ rfl) }
  have results := effects.result
  rw [settle.eq_def, settle.eq_def]
  generalize known : effect.result = result at results ⊢
  generalize known' : other.result = result' at results ⊢
  cases results with
  | fault causes => cases keep <;> exact pairs.apply effects
  | answer answers =>
      cases answers with
      | connected handle =>
          cases keep with
          | nowhere => exact pairs.apply effects
          | under place => exact (pairs.setWorld (pairs.world.keep place handle)).apply effects
          | unreadable complaint => exact unread complaint
      | fault causes => cases keep <;> first | exact pairs.apply effects | exact unread _
      | measured _ _ untimed measures =>
          rw [plain] at measures
          cases measures
      | same _ simple =>
          rename_i answer
          cases answer <;> cases keep <;>
            first | exact pairs.apply effects | exact unread _ | cases simple

/-- The ticket of a context is issued. -/
theorem issuing (pairs : Pairs view asked left right) (request : Option ContextRequest) :
    Pairs view asked (left.issuing request) (right.issuing request) :=
  pairs.setWorld { pairs.world with tickets := by rw [pairs.world.tickets] }

theorem setBatch
    (pairs : Pairs view asked left right)
    (name : String)
    (batch : Batch) :
    Pairs view asked { left with world := left.world.setBatch name batch }
      { right with world := right.world.setBatch name batch } :=
  pairs.setWorld { pairs.world with batches := by rw [World.setBatch, pairs.world.batches]; rfl }

/-- Starting an operation. -/
theorem execute
    {operation : Operation}
    (pairs : Pairs view asked left right)
    (waits : awaited asked left.stack = some operation)
    (known : right.world.Knows view operation)
    (payload : Payload) :
    Resembles view asked (left.execute program payload operation)
      (right.execute (program.retimed clock) payload operation) := by
  have buses := pairs.world.bus
  cases operation with
  | init => exact pairs.apply buses.init
  | cleanup => exact pairs.apply buses.cleanup
  | register name description priority =>
      exact pairs.apply (buses.register (by rw [waits]; rfl) name description _)
  | unregister name => exact pairs.apply (buses.unregister (by rw [waits]; rfl) name)
  | connect name callback priority request keep =>
      have issued : awaited asked (left.issuing request).stack =
          some (.connect name callback priority request keep) :=
        waits
      rw [Machine.execute, connect_eq_settle, Machine.execute, connect_eq_settle,
        pairs.world.tickets]
      exact (pairs.issuing request).settle keep
        (buses.connect (by rw [issued]; rfl) name callback _ priority) (by rw [issued]; rfl)
  | disconnect name callback =>
      exact pairs.apply (buses.disconnect (by rw [waits]; rfl) name callback)
  | disconnectHandle source =>
      rw [Machine.execute, Machine.execute, pairs.world.handleOf known]
      exact pairs.apply (buses.disconnectHandle (by rw [waits]; rfl) _)
  | disconnectAll name => exact pairs.apply (buses.disconnectAll (by rw [waits]; rfl) name)
  | emit emission => exact pairs.beginEmission (by rw [waits]; rfl) emission
  | forward name => exact pairs.beginEmission (by rw [waits]; rfl) ⟨name, payload⟩
  | emitIn space emission =>
      rw [Machine.execute, Machine.execute, buses.qualify]
      exact pairs.beginEmission (by rw [waits]; rfl) _
  | forwardDeferred name => exact pairs.apply (buses.defer (by rw [waits]; rfl) ⟨name, payload⟩)
  | defer emission => exact pairs.apply (buses.defer (by rw [waits]; rfl) emission)
  | emitDown request =>
      simp only [Machine.execute]
      split
      · cases request with
        | name name => exact pairs.beginEmission (by rw [waits]; rfl) _
        | unreadable complaint => exact pairs.answering (.same _ rfl)
      · exact pairs.answering (.same _ rfl)
  | flush =>
      rw [Machine.execute, Machine.execute, ← buses.isInitialized, buses.deferred]
      split
      · exact (pairs.push (.flush _ _)).proceeding
      · exact (pairs.push (.reject (.same _ (Or.inr rfl)))).proceeding
  | interrupt name value =>
      rw [Machine.execute, Machine.execute]
      rcases buses.interrupts.push name value with
        ⟨fault, refused, refused'⟩ | ⟨pushed, pushed', accepted, accepted', queues⟩
      · rw [refused, refused']
        exact pairs.answering (.fault (.same _ (Or.inl (by rw [waits]; rfl))))
      · rw [accepted, accepted']
        have filled : Bus.Resembles view { left.world.bus with interrupts := pushed }
            { right.world.bus with interrupts := pushed' } :=
          { buses with interrupts := queues }
        exact (pairs.setBus filled).answering (.same _ rfl)
  | drain => exact (pairs.push (.drain 0 0)).proceeding
  | setMaxSlots limit => exact pairs.apply (buses.setMaxSlots limit)
  | setThreadSafe enabled => exact pairs.apply (buses.setThreadSafe enabled)
  | setProfiling enabled => exact pairs.apply (buses.setProfiling enabled)
  | setSpace space => exact pairs.apply (buses.setSpace space)
  | setHook routine => exact pairs.apply (buses.setHook routine)
  | timing name =>
      exact pairs.apply (buses.timing (by rw [waits]; rfl) (by rw [waits]; rfl) name)
  | resetTiming => exact pairs.apply buses.resetTiming
  | resetPeak => exact pairs.apply buses.resetPeak
  | memoryStats => exact pairs.apply buses.memoryStats
  | display => exact pairs.answering (buses.display (by rw [waits]; rfl))
  | listing =>
      rw [Machine.execute, Machine.execute, buses.listing]
      exact pairs.answering (.same _ rfl)
  | isInitialized =>
      rw [Machine.execute, Machine.execute, buses.isInitialized]
      exact pairs.answering (.same _ rfl)
  | contains name =>
      rw [Machine.execute, Machine.execute, buses.contains]
      exact pairs.answering (.same _ rfl)
  | count =>
      rw [Machine.execute, Machine.execute, buses.count]
      exact pairs.answering (.same _ rfl)
  | deferredLength =>
      rw [Machine.execute, Machine.execute, buses.deferred]
      exact pairs.answering (.same _ rfl)
  | space =>
      rw [Machine.execute, Machine.execute, buses.space]
      exact pairs.answering (.same _ rfl)
  | pendingInterrupts =>
      rw [Machine.execute, Machine.execute, buses.interrupts.pending_eq]
      exact pairs.answering (.same _ rfl)
  | maxSlots =>
      rw [Machine.execute, Machine.execute, buses.maxSlots]
      exact pairs.answering (.same _ rfl)
  | isThreadSafe =>
      exact pairs.answering (.flag (by rw [waits]; rfl) buses.guarded)
  | isProfiling =>
      exact pairs.answering (.flag (by rw [waits]; rfl) buses.profiling)
  | batchAdd name emission =>
      rw [Machine.execute, Machine.execute, World.batchOf, pairs.world.batches]
      exact (pairs.setBatch name _).answering (.same _ rfl)
  | batchInfo name =>
      rw [Machine.execute, Machine.execute, World.batchOf, pairs.world.batches]
      exact pairs.answering (.same _ rfl)
  | batchClear name => exact (pairs.setBatch name {}).answering (.same _ rfl)
  | batchEmit name =>
      rw [Machine.execute, Machine.execute, World.batchOf, pairs.world.batches]
      exact (pairs.push (.batch _ _ (by rw [waits]; rfl))).proceeding
  | panic message => exact pairs.unwinding message
  | catching routine => exact ((pairs.push .catching).push (.routine _ _ _)).proceeding
  | unreadable complaint => exact pairs.answering (.same _ rfl)

/-! ## Moves of the innermost frame -/

theorem proceedRoutine
    (pairs : Pairs view asked left right)
    (commands : List Command)
    (payload : Payload)
    (turn : Nat)
    (known :
      ∀ operation ∈ (Frame.routine commands payload turn).issued?,
        right.world.Knows view operation) :
    Resembles view asked (left.proceedRoutine program commands payload turn)
      (right.proceedRoutine (program.retimed clock) commands payload turn) := by
  cases commands with
  | nil => exact pairs.proceeding
  | cons command rest =>
      rw [Machine.proceedRoutine, Machine.proceedRoutine]
      split
      next now =>
        have known : right.world.Knows view command.operation :=
          known _ (by rw [Frame.issued?, if_pos now]; rfl)
        exact (pairs.push (.routine _ _ _)).execute rfl known payload
      next => exact (pairs.push (.routine _ _ _)).proceeding

/-- Calling the same callback. -/
theorem callSlot
    {walk other : Walk}
    (pairs : Pairs view asked left right)
    (walks : walk.Resembles view other)
    (slot : Slot) :
    Resembles view asked (left.callSlot program walk (slot.seen view))
      (right.callSlot (program.retimed clock) other slot) := by
  have turns : left.world.callsOf slot.callback = right.world.callsOf slot.callback := by
    rw [World.callsOf, pairs.world.calls, World.callsOf]
  have counted : (left.world.countCall slot.callback).Resembles view
      (right.world.countCall slot.callback) :=
    { pairs.world with
      calls := by rw [World.countCall, turns, pairs.world.calls, World.countCall] }
  have turn : (left.world.countCall slot.callback).callsOf slot.callback =
      (right.world.countCall slot.callback).callsOf slot.callback := by
    rw [World.callsOf, counted.calls, World.callsOf]
  have running : Walk.Resembles view { walk with running := some (slot.seen view) }
      { other with running := some slot } :=
    { walks with running := rfl }
  have event : Event.Resembles view
      (.called (slot.handle.seen view) slot.callback walk.payload slot.context)
      (.called slot.handle slot.callback other.payload slot.context) := by
    rw [walks.payload]
    exact .called _ _ _ _
  rw [Machine.callSlot, Machine.callSlot, ← turn]
  refine Pairs.proceeding (((pairs.setWorld counted).observe event |>.push (.walk running)).push ?_)
  rw [walks.payload]
  exact .routine _ _ _

/-- Two emissions read the same. -/
theorem reading?_eq
    {walk other : Walk}
    (pairs : Pairs view asked left right)
    (walks : walk.Resembles view other) :
    left.reading? walk = (right.reading? other).map (SlotReading.seen view) := by
  rw [reading?, reading?, walks.cursor, walks.signalRef]
  cases other.cursor with
  | none => rfl
  | some position =>
      rw [Option.bind_some, Option.bind_some]
      rcases pairs.world.bus.parts with
        ⟨absent, absent'⟩ | ⟨registry, registry', present, present', both⟩
      · rw [absent, absent']
        rfl
      · rw [present, present']
        exact both.read? other.signalRef position

theorem proceedWalk
    {walk other : Walk}
    (pairs : Pairs view asked left right)
    (clocks : view.timed = true → clock = program.clock)
    (walks : walk.Resembles view other) :
    Resembles view asked (left.proceedWalk program walk)
      (right.proceedWalk (program.retimed clock) other) := by
  have reads := pairs.reading?_eq walks
  have running := walks.running
  rw [reading?, reading?] at reads
  rw [Machine.proceedWalk, Machine.proceedWalk]
  cases calling : other.running with
  | some slot =>
      rw [calling] at running
      rw [running]
      have returned : Walk.Resembles view
          { walk with invoked := walk.invoked + 1, running := none }
          { other with invoked := other.invoked + 1, running := none } :=
        { walks with invoked := congrArg (· + 1) walks.invoked, running := rfl }
      exact ((pairs.push (.walk returned)).push (.release slot.context.toList none)).proceeding
  | none =>
      rw [calling] at running
      rw [running, reads]
      dsimp only [Option.map_none]
      cases (other.cursor.bind fun position =>
          right.world.bus.registry.bind fun registry =>
            registry.read? other.signalRef position) with
      | none =>
          rcases @Pairs.leave program _ _ _ _ _ _ _ pairs clocks walks with ⟨left', contexts⟩
          simp only [Option.map_none, contexts]
          exact ((left'.push (.conclude _ _ (.same .done rfl))).push (.release _ _)).proceeding
      | some reading =>
          have advanced : Walk.Resembles view
              { walk with cursor := reading.next, running := none }
              { other with cursor := reading.next, running := none } :=
            { walks with cursor := rfl, running := rfl }
          cases target : reading.target with
          | none =>
              simp only [Option.map_some, SlotReading.seen, target, Option.map_none]
              exact (pairs.push (.walk advanced)).proceeding
          | some slot =>
              simp only [Option.map_some, SlotReading.seen, target]
              exact pairs.callSlot advanced slot

theorem proceedRelease
    (pairs : Pairs view asked left right)
    (contexts : List Context)
    (panic : Option String) :
    Resembles view asked (left.proceedRelease program contexts panic)
      (right.proceedRelease (program.retimed clock) contexts panic) := by
  cases contexts with
  | nil =>
      cases panic with
      | none => exact pairs.proceeding
      | some message => exact pairs.unwinding message
  | cons context rest =>
      have remaining := pairs.push (.release rest panic)
      cases context with
      | text value => exact remaining.proceeding
      | tracked ticket label farewell =>
          rw [Machine.proceedRelease, Machine.proceedRelease]
          simp only [remaining.owns_eq ticket]
          split
          · exact remaining.proceeding
          · exact ((remaining.observe (.released label)).push (.routine _ _ _)).proceeding

theorem proceedReject
    {fault other : Fault}
    (pairs : Pairs view asked left right)
    (causes : fault.Resembles view (awaited asked left.stack) other) :
    Resembles view asked (left.proceedReject program fault)
      (right.proceedReject (program.retimed clock) other) := by
  have warned := pairs.log [.warn fault.message] [.warn other.message]
  have waits : awaited asked (left.log [.warn fault.message]).stack = awaited asked left.stack := by
    rw [stack_log]
  have hooks := warned.world.bus.hook
  rw [← waits] at causes
  rw [Machine.proceedReject, Machine.proceedReject]
  dsimp only
  rw [hooks]
  cases installed : (right.log [.warn other.message]).world.bus.hook with
  | none => exact warned.answering (.fault causes)
  | some hook =>
      have counted : Bus.Resembles view
          { (left.log [.warn fault.message]).world.bus with
            hook := some { hook with calls := hook.calls + 1 } }
          { (right.log [.warn other.message]).world.bus with
            hook := some { hook with calls := hook.calls + 1 } } :=
        { warned.world.bus with hook := rfl }
      have told := (warned.setBus counted).observe (.hooked _ causes)
      exact ((told.push (.conclude [] [] (.fault causes))).push (.routine _ _ _)).proceeding

theorem proceedFlush
    (pairs : Pairs view asked left right)
    (remaining delivered : Nat) :
    Resembles view asked (left.proceedFlush remaining delivered)
      (right.proceedFlush remaining delivered) := by
  have finished := pairs.log
    [.debug ("Flushed " ++ toString delivered ++ " deferred emissions")]
    [.debug ("Flushed " ++ toString delivered ++ " deferred emissions")]
  cases remaining with
  | zero => exact finished.answering (.same _ rfl)
  | succ remaining =>
      simp only [Machine.proceedFlush, pairs.world.bus.deferred]
      cases right.world.bus.deferred.pop? with
      | none => exact finished.answering (.same _ rfl)
      | some popped =>
          rcases popped with ⟨emission, deferred⟩
          have taken : Bus.Resembles view { left.world.bus with deferred := deferred }
              { right.world.bus with deferred := deferred } :=
            { pairs.world.bus with deferred := rfl }
          exact ((pairs.setBus taken).push (.flush remaining delivered)).beginEmission rfl emission

theorem proceedDrain
    (pairs : Pairs view asked left right)
    (position delivered : Nat) :
    Resembles view asked (left.proceedDrain position delivered)
      (right.proceedDrain position delivered) := by
  rw [Machine.proceedDrain, Machine.proceedDrain]
  dsimp only
  rcases pairs.world.bus.interrupts.take? position with
    ⟨nothing, nothing'⟩ | ⟨item, rest, rest', taken, taken', queues⟩
  · rw [nothing, nothing']
    exact (pairs.log _ _).answering (.same _ rfl)
  · rw [taken, taken']
    have emptied : Bus.Resembles view { left.world.bus with interrupts := rest }
        { right.world.bus with interrupts := rest' } :=
      { pairs.world.bus with interrupts := queues }
    exact ((pairs.setBus emptied).push (.drain (item.index + 1) delivered)).beginEmission rfl _

theorem proceedBatch
    (pairs : Pairs view asked left right)
    (plain : (awaited asked left.stack).any Operation.namesHandle = false)
    (entries : List Emission)
    (first : Option Fault) :
    Resembles view asked (left.proceedBatch entries first) (right.proceedBatch entries first) := by
  cases entries with
  | nil =>
      cases first with
      | none => exact pairs.answering (.same .done rfl)
      | some fault => exact pairs.answering (.fault (.same fault (Or.inl plain)))
  | cons emission rest =>
      exact (pairs.push (.batch rest first plain)).beginEmission rfl emission

/-- The next move of two frames that resemble each other. -/
theorem proceed
    {frame other : Frame}
    (pairs : Pairs view asked left right)
    (clocks : view.timed = true → clock = program.clock)
    (frames : frame.Resembles view (awaited asked left.stack) other)
    (known : ∀ operation ∈ other.issued?, right.world.Knows view operation) :
    Resembles view asked (left.proceed program frame)
      (right.proceed (program.retimed clock) other) := by
  cases frames with
  | routine commands payload turn => exact pairs.proceedRoutine commands payload turn known
  | walk walks => exact pairs.proceedWalk clocks walks
  | release contexts panic => exact pairs.proceedRelease contexts panic
  | conclude records records' answers =>
      refine (pairs.log records records').answering ?_
      rw [stack_log]
      exact answers
  | reject causes => exact pairs.proceedReject causes
  | flush remaining delivered => exact pairs.proceedFlush remaining delivered
  | drain position delivered => exact pairs.proceedDrain position delivered
  | batch entries first plain => exact pairs.proceedBatch plain entries first
  | catching => exact pairs.answering (.same _ rfl)

/-- Two frames get the answers of the operation that they started. -/
theorem resume
    {frame other : Frame}
    {answer answer' : Answer}
    (pairs : Pairs view asked left right)
    (frames : frame.Resembles view (awaited asked left.stack) other)
    (answers : answer.Resembles view frame.awaits answer') :
    Resembles view asked (left.resume answer frame) (right.resume answer' other) := by
  cases frames with
  | routine commands payload turn =>
      cases commands with
      | nil => exact pairs.proceeding
      | cons command rest =>
          exact ((pairs.observe (.acted command.label _ answers)).push
            (.routine rest payload turn)).proceeding
  | walk walks => exact (pairs.push (.walk walks)).proceeding
  | release contexts panic => exact (pairs.push (.release contexts panic)).proceeding
  | conclude records records' concluded =>
      exact (pairs.push (.conclude records records' concluded)).proceeding
  | reject causes => exact (pairs.push (.reject causes)).proceeding
  | flush remaining delivered =>
      rw [Machine.resume, Machine.resume, answers.fault?_eq]
      exact (pairs.push (.flush _ _)).proceeding
  | drain position delivered =>
      rw [Machine.resume, Machine.resume, answers.fault?_eq]
      exact (pairs.push (.drain _ _)).proceeding
  | batch entries first plain =>
      rw [Machine.resume, Machine.resume, answers.fault?_eq]
      exact (pairs.push (.batch _ _ plain)).proceeding
  | catching => exact (pairs.push .catching).proceeding

/-- A panic reaches two frames. -/
theorem unwindThrough
    {frame other : Frame}
    (pairs : Pairs view asked left right)
    (clocks : view.timed = true → clock = program.clock)
    (frames : frame.Resembles view (awaited asked left.stack) other)
    (message : String) :
    Resembles view asked (left.unwindThrough program message frame)
      (right.unwindThrough (program.retimed clock) message other) := by
  cases frames with
  | walk walks =>
      have running := walks.running
      rename_i walk other
      rw [Machine.unwindThrough, Machine.unwindThrough]
      cases calling : other.running with
      | none =>
          rw [calling] at running
          rcases @Pairs.leave program _ _ _ _ _ _ _ pairs clocks walks with ⟨left', contexts⟩
          simp only [running, Option.map_none, contexts]
          exact (left'.push (.release _ _)).proceeding
      | some slot =>
          rw [calling] at running
          rw [running]
          have stopped : Walk.Resembles view { walk with running := none }
              { other with running := none } :=
            { walks with running := rfl }
          exact ((pairs.push (.walk stopped)).push (.release _ _)).proceeding
  | release contexts panic =>
      cases panic with
      | none => exact (pairs.push (.release contexts (some message))).proceeding
      | some earlier =>
          have again := pairs.push (.release contexts (some earlier))
          exact ⟨⟨again.world, again.stack, again.events⟩, .aborted⟩
  | catching => exact pairs.answering (.same _ rfl)
  | routine | conclude | reject | flush | drain | batch => exact pairs.unwinding message

end Pairs

/-- One step of two machines that resemble each other, by clocks that agree where times are seen. -/
theorem Resembles.step_retimed
    (same : Resembles view asked left right)
    (clocks : view.timed = true → clock = program.clock)
    (known : ∀ operation ∈ right.issued?, right.world.Knows view operation) :
    Resembles view asked (left.step program) (right.step (program.retimed clock)) := by
  have frames := same.stack
  have controls := same.control
  cases stack : left.stack with
  | nil =>
      rw [stack] at frames
      generalize stack' : right.stack = others at frames
      cases frames
      rw [step_of_idle program stack, step_of_idle (program.retimed clock) stack']
      exact same
  | cons frame below =>
      rw [stack] at frames controls
      generalize stack' : right.stack = others at frames
      cases frames with
      | @cons _ other _ below' first rest =>
          have pairs : Pairs view asked { left with stack := below }
              { right with stack := below' } :=
            ⟨same.world, rest, same.events⟩
          generalize control : left.control = going at controls
          generalize control' : right.control = going' at controls
          cases controls with
          | proceed =>
              rw [step_of_proceed program stack control,
                step_of_proceed (program.retimed clock) stack' control']
              refine pairs.proceed clocks first fun operation issued => known operation ?_
              rw [issued?, stack', control']
              exact issued
          | answer answers =>
              rw [step_of_answer program stack control,
                step_of_answer (program.retimed clock) stack' control']
              exact pairs.resume first answers
          | unwind message =>
              rw [step_of_unwind program stack control,
                step_of_unwind (program.retimed clock) stack' control']
              exact pairs.unwindThrough clocks first message
          | aborted =>
              rw [step_of_aborted program control, step_of_aborted (program.retimed clock) control']
              exact same

/-- One step of two machines that resemble each other, by the same clock. -/
theorem Resembles.step
    (same : Resembles view asked left right)
    (known : ∀ operation ∈ right.issued?, right.world.Knows view operation) :
    Resembles view asked (left.step program) (right.step program) :=
  same.step_retimed (fun _ => rfl) known

/-- A session starts the same operation. -/
theorem Resembles.perform
    {operation : Operation}
    (same : Resembles view asked left right)
    (known : right.world.Knows view operation) :
    Resembles view (some operation) (left.perform program operation)
      (right.perform program operation) := by
  have fresh : Pairs view (some operation) ({ world := left.world } : Machine)
      { world := right.world } :=
    ⟨same.world, .nil, .nil⟩
  exact fresh.execute rfl known .void

end Machine

end SignalDispatch
