import SignalDispatch.Proofs.Machine.Tandem

/-!
# Machines in lockstep

Two machines that are alike take one move each, and they meet: `Alike.step_meets` for a step of the
innermost frame, `Alike.perform_meets` for an operation that a session starts.

A walk is where indices matter.  What it reads depends on the places of signals and slots; but two
walks that are alike read the same slot, and go on at slots of the same handle.
-/

namespace SignalDispatch

/-- A bus with the same registry and the same counters is as sane. -/
theorem Bus.Sane.of_same
    {before after : Bus}
    (sane : before.Sane)
    (registry : after.registry = before.registry)
    (handle : after.nextHandle = before.nextHandle)
    (serial : after.nextSerial = before.nextSerial) :
    after.Sane :=
  ((Shifts.of_same none registry handle serial).sane sane).1

/-- Slots with the same content are called alike. -/
theorem Slot.fields_of_content {slot other : Slot} (same : slot.content = other.content) :
    other.handle = slot.handle ∧ other.callback = slot.callback ∧ other.context = slot.context := by
  simp only [content, mk.injEq] at same
  exact ⟨same.1.symm, same.2.1.symm, same.2.2.1.symm⟩

/-- What two walks that are alike read is the same slot, or nothing. -/
inductive ReadingsAgree
    (allowed : Context → Prop)
    (left right : Bus) : Option SlotReading → Option SlotReading → Prop where
  | nothing : ReadingsAgree allowed left right none none
  | slot {reading other : SlotReading} :
      left.handleAt? reading.next = right.handleAt? other.next →
      reading.target.map Slot.content = other.target.map Slot.content →
      (∀ slot, reading.target = some slot → slot.Carries allowed) →
      ReadingsAgree allowed left right (some reading) (some other)

namespace Machine

variable
  {program : Program}
  {allowed : Context → Prop}
  {signalRoom slotRoom : Nat}
  {left right : Machine}
  {walk other : Walk}
  {walks walks' : List Walk}

/-- Nothing is read once the registration is gone. -/
theorem reading?_of_gone
    {machine : Machine}
    (gone : ¬ machine.world.bus.Resolves walk.signalRef) :
    machine.reading? walk = none := by
  cases reads : machine.reading? walk with
  | none => rfl
  | some reading =>
      rcases (reading?_eq_some_iff _ _ _).mp reads with
        ⟨_, registry, _, _, present, resolved, _⟩
      exact absurd ((Bus.resolves_iff present _).mpr resolved) gone

/-- At a cursor that is at a slot there is the handle of that slot. -/
theorem handleAt?_of_cursor
    {bus : Bus}
    {position : Nat}
    (coherent : Coherent bus walks)
    (member : walk ∈ walks)
    (resolves : bus.Resolves walk.signalRef)
    (cursor : walk.cursor = some position) :
    (bus.handleAt? walk.cursor).isSome := by
  have placed := coherent.cursors walk member resolves position cursor
  rcases coherent.sane.slotAt_of_mem placed with ⟨slot, found⟩
  rw [cursor, Bus.handleAt?, Option.bind_some, found]
  rfl

/-- Walks that are alike read the same. -/
theorem readings_agree
    (buses : left.world.bus.Alike allowed signalRoom slotRoom right.world.bus)
    (alike : walk.Alike allowed left.world.bus right.world.bus other)
    (coherent : Coherent left.world.bus walks)
    (coherent' : Coherent right.world.bus walks')
    (member : walk ∈ walks)
    (member' : other ∈ walks') :
    ReadingsAgree allowed left.world.bus right.world.bus (left.reading? walk)
      (right.reading? other) := by
  rcases alike.signalRef.places buses with
    ⟨gone, gone'⟩ |
      ⟨resolves, resolves', registry, registry', signal, present, present', both, coincide, _⟩
  · rw [reading?_of_gone gone, reading?_of_gone gone']
    exact .nothing
  · have handles := alike.cursor resolves
    cases cursor : walk.cursor with
    | none =>
        cases cursor' : other.cursor with
        | none =>
            rw [reading?, cursor, reading?, cursor']
            exact .nothing
        | some position' =>
            have stored := handleAt?_of_cursor coherent' member' resolves' cursor'
            rw [← handles, cursor] at stored
            cases stored
    | some position =>
        cases cursor' : other.cursor with
        | none =>
            have stored := handleAt?_of_cursor coherent member resolves cursor
            rw [handles, cursor'] at stored
            cases stored
        | some position' =>
            have linked := coherent.cursors walk member resolves position cursor
            have linked' := coherent'.cursors other member' resolves' position' cursor'
            rw [Bus.chain_of_some present] at linked
            rw [Bus.chain_of_some present'] at linked'
            rw [cursor, cursor', Bus.handleAt?_of_some present,
              Bus.handleAt?_of_some present'] at handles
            have formed := (coherent.sane.registry present).formed
            have formed' := (coherent'.sane.registry present').formed
            rcases coincide.slot_of_handle formed formed' linked linked' handles with
              ⟨slot, slot', stored, stored', content, next⟩
            have reads := (reading?_eq_some_iff left walk _).mpr
              ⟨position, registry, slot, cursor, present,
                (Bus.resolves_iff present _).mp resolves, stored, rfl⟩
            have reads' := (reading?_eq_some_iff right other _).mpr
              ⟨position', registry', slot', cursor', present',
                (Bus.resolves_iff present' _).mp resolves', stored', rfl⟩
            have removed : slot'.removed = slot.removed := by
              rw [← Slot.content_removed, ← content, Slot.content_removed]
            rw [reads, reads', removed]
            refine .slot ?_ ?_ ?_
            · rw [Bus.handleAt?_of_some present, Bus.handleAt?_of_some present']
              exact next
            · dsimp only
              split
              · rfl
              · rw [Option.map_some, Option.map_some, content]
            · intro target same
              dsimp only at same
              split at same
              · cases same
              · rw [Option.some.injEq] at same
                subst same
                have shown : slot.content ∈ registry.contents walk.signalRef.index :=
                  (Registry.mem_contentsOf_iff _ _ _).mpr
                    ⟨position, linked, Registry.contentAt_of_get? stored⟩
                exact both.carries_contents coincide slot.content shown

/-! ## Leaving a signal -/

/-- The clock is read once more if an emission is timed. -/
def timed (machine : Machine) (walk : Walk) : Machine :=
  { machine with
    world :=
      { machine.world with
        readings :=
          if walk.startedAt.isSome then machine.world.readings + 1
          else machine.world.readings } }

/-- The time that an emission took, if it is timed. -/
def elapsed? (program : Program) (machine : Machine) (walk : Walk) : Option Nat :=
  walk.startedAt.map fun start => program.elapsed start machine.world.readings

theorem leave_of_none
    {machine : Machine}
    (program : Program)
    (absent : machine.world.bus.registry = none)
    (walk : Walk) :
    machine.leave program walk = (machine.timed walk, []) := by
  rw [leave, absent]
  rfl

theorem leave_of_some
    {machine : Machine}
    {registry : Registry}
    (program : Program)
    (present : machine.world.bus.registry = some registry)
    (walk : Walk) :
    machine.leave program walk =
      (((machine.timed walk).setBus
          (machine.world.bus.setRegistry
            (registry.endEmission walk.signalRef (machine.elapsed? program walk)).1)).log
          (sweptRecords (registry.endEmission walk.signalRef (machine.elapsed? program walk)).2),
        (registry.endEmission walk.signalRef (machine.elapsed? program walk)).2) := by
  rw [leave, present]
  rfl

/-- Two walks that leave their signals let go of the same contexts. -/
theorem leave_agree
    (program : Program)
    (agree : left.Agree allowed signalRoom slotRoom right)
    (sane : left.world.bus.Sane)
    (sane' : right.world.bus.Sane)
    (alike : walk.Alike allowed left.world.bus right.world.bus other) :
    (left.leave program walk).1.Agree allowed signalRoom slotRoom (right.leave program other).1 ∧
      Bus.contextsOf (left.leave program walk).2 = Bus.contextsOf (right.leave program other).2 ∧
      ∀ context ∈ Bus.contextsOf (left.leave program walk).2, allowed context := by
  have readings : right.world.readings = left.world.readings := by rw [agree.world.same]
  have started : other.startedAt = walk.startedAt := by rw [alike.same]
  have elapsed : right.elapsed? program other = left.elapsed? program walk := by
    rw [elapsed?, elapsed?, readings, started]
  have worlds : (left.timed walk).world.Alike allowed signalRoom slotRoom
      (right.timed other).world := by
    rw [timed, timed, started]
    exact agree.world.update
      (fun world =>
        { world with
          readings := if walk.startedAt.isSome then world.readings + 1 else world.readings })
      agree.world.bus fun _ => rfl
  have onwards {bus bus' : Bus} (buses : bus.Alike allowed signalRoom slotRoom bus') :
      ((left.timed walk).setBus bus).Agree allowed signalRoom slotRoom
        ((right.timed other).setBus bus') :=
    ⟨worlds.setBus buses, agree.events⟩
  rcases agree.world.bus.parts with ⟨absent, shape⟩ | ⟨registry, registry', present, shape, both⟩
  · have absent' : right.world.bus.registry = none := by rw [shape]; rfl
    rw [leave_of_none program absent, leave_of_none program absent']
    exact ⟨⟨worlds, agree.events⟩, rfl, fun _ member => absurd member List.not_mem_nil⟩
  · have present' : right.world.bus.registry = some registry' := by rw [shape]; rfl
    have formed := (sane.registry present).formed
    have formed' := (sane'.registry present').formed
    rw [leave_of_some program present, leave_of_some program present', elapsed]
    have removed : Registry.Removed allowed signalRoom slotRoom
        (registry.endEmission walk.signalRef (left.elapsed? program walk))
        (registry'.endEmission other.signalRef (left.elapsed? program walk)) := by
      rcases alike.signalRef.places agree.world.bus with
        ⟨gone, gone'⟩ |
          ⟨_, _, found, found', signal, placed, placed', _, coincide, serial⟩
      · rw [Bus.resolves_iff present, Option.not_isSome_iff_eq_none] at gone
        rw [Bus.resolves_iff present', Option.not_isSome_iff_eq_none] at gone'
        rw [registry.endEmission_of_resolve?_eq_none _ _ gone,
          registry'.endEmission_of_resolve?_eq_none _ _ gone']
        exact ⟨both, rfl, fun _ member => absurd member List.not_mem_nil⟩
      · rw [present, Option.some.injEq] at placed
        rw [present', Option.some.injEq] at placed'
        subst placed placed'
        exact both.endEmission formed formed' coincide serial
          (serial.trans alike.signalRef.serial.symm) _
    refine ⟨(onwards (agree.world.bus.setRegistry removed.alike)).log _ _, ?_, ?_⟩
    · rw [← Bus.contextsOf_map_content, removed.same, Bus.contextsOf_map_content]
    · intro context member
      rcases List.mem_filterMap.mp member with ⟨slot, among, same⟩
      exact removed.carries slot among context same

/-! ## Walks -/

/-- Two walks that are alike call the same callback. -/
theorem callSlot_tandem
    {slot slot' : Slot}
    (program : Program)
    (agree : left.Agree allowed signalRoom slotRoom right)
    (alike : walk.Alike allowed left.world.bus right.world.bus other)
    (content : slot.content = slot'.content)
    (carries : slot.Carries allowed) :
    Tandem allowed signalRoom slotRoom left.stack right.stack (left.callSlot program walk slot)
      (right.callSlot program other slot') := by
  rcases Slot.fields_of_content content with ⟨handle, callback, context⟩
  have payload : other.payload = walk.payload := by rw [alike.same]
  have world := agree.world.update (fun world => world.countCall slot.callback) agree.world.bus
    fun _ => rfl
  have turn : (right.world.countCall slot.callback).callsOf slot.callback =
      (left.world.countCall slot.callback).callsOf slot.callback := by
    rw [world.same]
    rfl
  rw [callSlot, callSlot, handle, callback, context, payload, turn]
  refine .plain ⟨world, .cons (.same _) agree.events⟩ rfl rfl
    (.cons (.routine _ _ _) (.cons (.walk ?_) .nil)) .proceed
  refine ⟨?_, alike.signalRef, alike.cursor, congrArg some content, ?_⟩
  · rw [alike.same]
  · intro running same
    exact Option.some.inj same ▸ carries

/-- The next moves of two walks. -/
theorem proceedWalk_tandem
    (program : Program)
    (agree : left.Agree allowed signalRoom slotRoom right)
    (coherent : Coherent left.world.bus walks)
    (coherent' : Coherent right.world.bus walks')
    (member : walk ∈ walks)
    (member' : other ∈ walks')
    (alike : walk.Alike allowed left.world.bus right.world.bus other) :
    Tandem allowed signalRoom slotRoom left.stack right.stack (left.proceedWalk program walk)
      (right.proceedWalk program other) := by
  rw [proceedWalk, proceedWalk]
  rcases Slot.both_of_map_content alike.running with
    ⟨idle, idle'⟩ | ⟨slot, slot', calling, calling', content⟩
  · have reads := readings_agree agree.world.bus alike coherent coherent' member member'
    rw [reading?, reading?] at reads
    rw [idle, idle']
    dsimp only
    generalize (walk.cursor.bind fun position =>
      left.world.bus.registry.bind fun registry =>
        registry.read? walk.signalRef position) = reading at reads ⊢
    generalize (other.cursor.bind fun position =>
      right.world.bus.registry.bind fun registry =>
        registry.read? other.signalRef position) = reading' at reads ⊢
    cases reads with
    | nothing =>
        rcases leave_agree program agree coherent.sane coherent'.sane alike with
          ⟨left', contexts, carries⟩
        have stack := (leave_fields program left walk).1
        have stack' := (leave_fields program right other).1
        dsimp only
        exact Agree.releasing ⟨left'.world, left'.events⟩
          (congrArg (fun rest => _ :: _ :: rest) stack)
          (congrArg (fun rest => _ :: _ :: rest) stack') (.of_eq contexts) carries
          (.conclude _ _ (.same _)) rfl rfl
    | @slot reading reading' next target carries =>
        have advanced : Walk.Alike allowed left.world.bus right.world.bus
            { walk with cursor := reading.next, running := none }
            { other with cursor := reading'.next, running := none } :=
          ⟨congrArg
            (fun walk : Walk => { walk with cursor := reading'.next, running := none })
            alike.same, alike.signalRef, fun _ => next, rfl, Walk.carries_of_idle rfl⟩
        dsimp only
        rcases Slot.both_of_map_content target with
          ⟨passed, passed'⟩ | ⟨slot, slot', live, live', content⟩
        · rw [passed, passed']
          exact agree.pushing (.walk advanced)
        · rw [live, live']
          exact callSlot_tandem program agree advanced content (carries slot live)
  · rw [calling, calling']
    dsimp only
    rw [(Slot.fields_of_content content).2.2]
    refine .letting ⟨agree.world, agree.events⟩ rfl rfl (.refl _) ?_ (.cons (.walk ?_) .nil)
      rfl rfl
    · exact fun given kept => alike.carries slot calling given (Option.mem_toList.mp kept)
    · refine ⟨?_, alike.signalRef, alike.cursor, rfl, Walk.carries_of_idle rfl⟩
      exact congrArg
        (fun walk : Walk => { walk with invoked := walk.invoked + 1, running := none })
        alike.same

/-! ## Frames -/

/-- A fault is reported alike. -/
theorem proceedReject_tandem
    (program : Program)
    (agree : left.Agree allowed signalRoom slotRoom right)
    (fault : Fault) :
    Tandem allowed signalRoom slotRoom left.stack right.stack (left.proceedReject program fault)
      (right.proceedReject program fault) := by
  have hook : right.world.bus.hook = left.world.bus.hook := by rw [agree.world.bus.same]; rfl
  rw [proceedReject, proceedReject]
  dsimp only
  rw [world_log, world_log, hook]
  cases left.world.bus.hook with
  | none => exact agree.concluding _ _ (.same _)
  | some installed =>
      have warned := agree.log [.warn fault.message] [.warn fault.message]
      have buses := agree.world.bus.update
        (fun bus => { bus with hook := some { installed with calls := installed.calls + 1 } }) rfl
        (fun _ => rfl) fun _ => rfl
      exact .plain ⟨warned.world.setBus buses, .cons (.same _) warned.events⟩
        (by exact congrArg (fun rest => _ :: _ :: rest) (stack_log left [.warn fault.message]))
        (by exact congrArg (fun rest => _ :: _ :: rest) (stack_log right [.warn fault.message]))
        (.cons (.routine _ _ _) (.cons (.conclude _ _ (.same _)) .nil)) .proceed

/-- Emissions of a queue are begun one after another. -/
theorem beginEmission_tandem
    {frame : Frame}
    {bus bus' : Bus}
    (agree : left.Agree allowed signalRoom slotRoom right)
    (buses : bus.Alike allowed signalRoom slotRoom bus')
    (sane : bus.Sane)
    (sane' : bus'.Sane)
    (same : ∀ left right, Frame.Alike allowed signalRoom slotRoom left right frame frame)
    (emission : Emission) :
    Tandem allowed signalRoom slotRoom left.stack right.stack
      (((left.setBus bus).push frame).beginEmission emission)
      (((right.setBus bus').push frame).beginEmission emission) := by
  have readied :
      ((left.setBus bus).push frame).Agree allowed signalRoom slotRoom
        ((right.setBus bus').push frame) :=
    ⟨agree.world.setBus buses, agree.events⟩
  exact (readied.beginEmission sane sane' emission).under (same _ _)

/-- The next emission of the deferred queue. -/
theorem proceedFlush_tandem
    (agree : left.Agree allowed signalRoom slotRoom right)
    (sane : left.world.bus.Sane)
    (sane' : right.world.bus.Sane)
    (remaining delivered : Nat) :
    Tandem allowed signalRoom slotRoom left.stack right.stack
      (left.proceedFlush remaining delivered) (right.proceedFlush remaining delivered) := by
  have deferred : right.world.bus.deferred = left.world.bus.deferred := by
    rw [agree.world.bus.same]
    rfl
  rw [proceedFlush.eq_def, proceedFlush.eq_def]
  cases remaining with
  | zero => exact agree.concluding _ _ (.same _)
  | succ remaining =>
      dsimp only
      rw [deferred]
      cases left.world.bus.deferred.pop? with
      | none => exact agree.concluding _ _ (.same _)
      | some popped =>
          have buses := agree.world.bus.update (fun bus => { bus with deferred := popped.2 }) rfl
            (fun _ => rfl) fun _ => rfl
          exact beginEmission_tandem agree buses (sane.of_same rfl rfl rfl)
            (sane'.of_same rfl rfl rfl) (fun _ _ => .flush _ _) popped.1

/-- The next pending interrupt. -/
theorem proceedDrain_tandem
    (agree : left.Agree allowed signalRoom slotRoom right)
    (sane : left.world.bus.Sane)
    (sane' : right.world.bus.Sane)
    (position delivered : Nat) :
    Tandem allowed signalRoom slotRoom left.stack right.stack
      (left.proceedDrain position delivered) (right.proceedDrain position delivered) := by
  have interrupts : right.world.bus.interrupts = left.world.bus.interrupts := by
    rw [agree.world.bus.same]
    rfl
  rw [proceedDrain, proceedDrain, interrupts]
  dsimp only
  cases left.world.bus.interrupts.take? position with
  | none => exact agree.concluding _ _ (.same _)
  | some taken =>
      have buses := agree.world.bus.update (fun bus => { bus with interrupts := taken.2 }) rfl
        (fun _ => rfl) fun _ => rfl
      exact beginEmission_tandem agree buses (sane.of_same rfl rfl rfl)
        (sane'.of_same rfl rfl rfl) (fun _ _ => .drain _ _) _

/-- The next moves of frames that are alike. -/
theorem proceed_tandem
    {frame frame' : Frame}
    (agree : left.Agree (Context.Silent program) signalRoom slotRoom right)
    (coherent : Coherent left.world.bus walks)
    (coherent' : Coherent right.world.bus walks')
    (members : ∀ walk, frame.walk? = some walk → walk ∈ walks)
    (members' : ∀ walk, frame'.walk? = some walk → walk ∈ walks')
    (frames :
      Frame.Alike (Context.Silent program) signalRoom slotRoom left.world.bus right.world.bus
        frame frame')
    (portable : ∀ operation, frame.issued? = some operation → operation.Portable program) :
    Tandem (Context.Silent program) signalRoom slotRoom left.stack right.stack
      (left.proceed program frame) (right.proceed program frame') := by
  cases frames with
  | routine commands payload turn =>
      rw [proceed, proceed]
      cases commands with
      | nil => exact Agree.plainly ⟨agree.world, agree.events⟩ rfl rfl .proceed
      | cons command rest =>
          rw [proceedRoutine, proceedRoutine]
          rw [Frame.issued?] at portable
          split
          next due =>
            have ready :
                (left.push (.routine (command :: rest) payload turn)).Agree (Context.Silent program)
                  signalRoom slotRoom (right.push (.routine (command :: rest) payload turn)) :=
              ⟨agree.world, agree.events⟩
            exact (ready.execute coherent.sane coherent'.sane payload
              (portable command.operation (if_pos due))).under (.routine _ _ _)
          next => exact agree.pushing (.routine _ _ _)
  | walk alike =>
      exact proceedWalk_tandem program agree coherent coherent' (members _ rfl) (members' _ rfl)
        alike
  | conclude records records' agrees => exact agree.concluding _ _ agrees
  | reject fault => exact proceedReject_tandem program agree fault
  | flush remaining delivered =>
      exact proceedFlush_tandem agree coherent.sane coherent'.sane remaining delivered
  | drain position delivered =>
      exact proceedDrain_tandem agree coherent.sane coherent'.sane position delivered
  | batch entries first =>
      rw [proceed, proceed]
      cases entries with
      | nil =>
          cases first with
          | none => exact agree.answering (.same _)
          | some fault => exact agree.answering (.same _)
      | cons emission rest =>
          exact beginEmission_tandem agree agree.world.bus coherent.sane coherent'.sane
            (fun _ _ => .batch _ _) emission
  | catching => exact agree.answering (.same _)

/-- Frames that are alike get answers that agree. -/
theorem resume_tandem
    {frame frame' : Frame}
    {answer answer' : Answer}
    (agree : left.Agree allowed signalRoom slotRoom right)
    (frames :
      Frame.Alike allowed signalRoom slotRoom left.world.bus right.world.bus frame frame')
    (agrees : answer.Agrees signalRoom slotRoom answer') :
    Tandem allowed signalRoom slotRoom left.stack right.stack (left.resume answer frame)
      (right.resume answer' frame') := by
  cases frames with
  | routine commands payload turn =>
      cases commands with
      | nil => exact Agree.plainly ⟨agree.world, agree.events⟩ rfl rfl .proceed
      | cons command rest =>
          exact Agree.pushed ⟨agree.world, .cons (.acted _ agrees) agree.events⟩ rfl rfl
            (.routine _ _ _) .proceed
  | walk alike => exact agree.pushing (.walk alike)
  | conclude records records' settled => exact agree.pushing (.conclude _ _ settled)
  | reject fault => exact agree.pushing (.reject fault)
  | flush remaining delivered =>
      rw [resume, resume, agrees.fault?_eq]
      exact agree.pushing (.flush _ _)
  | drain position delivered =>
      rw [resume, resume, agrees.fault?_eq]
      exact agree.pushing (.drain _ _)
  | batch entries first =>
      rw [resume, resume, agrees.fault?_eq]
      exact agree.pushing (.batch _ _)
  | catching => exact agree.pushing .catching

/-- A panic reaches frames that are alike. -/
theorem unwindThrough_tandem
    {frame frame' : Frame}
    (program : Program)
    (agree : left.Agree allowed signalRoom slotRoom right)
    (sane : left.world.bus.Sane)
    (sane' : right.world.bus.Sane)
    (frames :
      Frame.Alike allowed signalRoom slotRoom left.world.bus right.world.bus frame frame')
    (message : String) :
    Tandem allowed signalRoom slotRoom left.stack right.stack
      (left.unwindThrough program message frame) (right.unwindThrough program message frame') := by
  have onwards :
      Tandem allowed signalRoom slotRoom left.stack right.stack (left.unwinding message)
        (right.unwinding message) :=
    Agree.plainly ⟨agree.world, agree.events⟩ rfl rfl (.unwind message)
  cases frames with
  | @walk walk other alike =>
      rw [unwindThrough, unwindThrough]
      rcases Slot.both_of_map_content alike.running with
        ⟨idle, idle'⟩ | ⟨slot, slot', calling, calling', content⟩
      · rcases leave_agree program agree sane sane' alike with ⟨left', contexts, carries⟩
        have stack := (leave_fields program left walk).1
        have stack' := (leave_fields program right other).1
        rw [idle, idle']
        dsimp only
        exact .letting ⟨left'.world, left'.events⟩
          (by exact congrArg (List.cons _) stack) (by exact congrArg (List.cons _) stack')
          (.of_eq contexts) carries .nil rfl rfl
      · rw [calling, calling']
        dsimp only
        rw [(Slot.fields_of_content content).2.2]
        refine Agree.releasing ⟨agree.world, agree.events⟩ rfl rfl (.refl _) ?_ (.walk ?_) rfl rfl
        · exact fun given kept => alike.carries slot calling given (Option.mem_toList.mp kept)
        · refine ⟨?_, alike.signalRef, alike.cursor, rfl, Walk.carries_of_idle rfl⟩
          exact congrArg (fun walk : Walk => { walk with running := none }) alike.same
  | catching => exact agree.answering (.same _)
  | routine | conclude | reject | flush | drain | batch => exact onwards

/-! ## Moves -/

namespace Alike

variable
  (alike : left.Alike (Context.Silent program) signalRoom slotRoom right)
  (coherent : Coherent left.world.bus left.walks)
  (coherent' : Coherent right.world.bus right.walks)

include alike coherent coherent'

/-- Two machines that are alike take a step in tandem. -/
theorem step_tandem
    (portable : ∀ operation, left.issued? = some operation → operation.Portable program)
    {frame frame' : Frame}
    {below below' : List Frame}
    (stack : left.stack = frame :: below)
    (stack' : right.stack = frame' :: below') :
    Tandem (Context.Silent program) signalRoom slotRoom below below' (left.step program)
      (right.step program) := by
  have frames := alike.stack
  rw [stack, stack', List.forall₂_cons] at frames
  have agree (control control' : Control) :
      ({ left with stack := below, control := control } : Machine).Agree (Context.Silent program)
        signalRoom slotRoom { right with stack := below', control := control' } :=
    ⟨alike.world, alike.events⟩
  have members (walk : Walk) (emission : frame.walk? = some walk) : walk ∈ left.walks := by
    rw [Machine.walks, stack, List.filterMap_cons_some emission]
    exact List.mem_cons_self
  have members' (walk : Walk) (emission : frame'.walk? = some walk) : walk ∈ right.walks := by
    rw [Machine.walks, stack', List.filterMap_cons_some emission]
    exact List.mem_cons_self
  rw [step, step, stack, stack']
  dsimp only
  rw [issued?, stack] at portable
  have going := alike.control
  generalize left.control = control at going portable ⊢
  generalize right.control = control' at going ⊢
  cases going with
  | proceed =>
      exact proceed_tandem (agree _ _) coherent coherent' members members' frames.1 portable
  | answer agrees => exact resume_tandem (agree _ _) frames.1 agrees
  | unwind message =>
      exact unwindThrough_tandem program (agree _ _) coherent.sane coherent'.sane frames.1 message

/-- Two machines that are alike meet after a step. -/
theorem step_meets
    (portable : ∀ operation, left.issued? = some operation → operation.Portable program)
    (room :
      (left.step program).world.bus.Fits signalRoom slotRoom ∨
        ¬ (right.step program).Refused signalRoom slotRoom) :
    Meets program signalRoom slotRoom (left.step program) (right.step program) := by
  rcases (Move.step program left).coherent coherent with ⟨after, _, retains⟩
  rcases (Move.step program right).coherent coherent' with ⟨after', _, retains'⟩
  have frames := alike.stack
  cases stack : left.stack with
  | nil =>
      rw [stack, List.forall₂_nil_left_iff] at frames
      rw [step, stack, step, frames]
      exact .now alike
  | cons frame below =>
      rw [stack] at frames
      rcases List.forall₂_cons_left_iff.mp frames with ⟨frame', below', _, rest, stack'⟩
      have tandem := alike.step_tandem coherent coherent' portable stack stack'
      refine tandem.meets after.sane after'.sane ?_ room
      -- the frames below are where they were, and the move retains both buses
      intro above above' buses onwards onwards'
      refine frames_retain rest buses ?_ ?_
      · intro walk member
        refine coherent.stays after retains ?_ ?_
        · rw [Machine.walks, stack, ← List.singleton_append, List.filterMap_append]
          exact List.mem_append_right _ member
        · rw [Machine.walks, onwards, List.filterMap_append]
          exact List.mem_append_right _ member
      · intro walk member
        refine coherent'.stays after' retains' ?_ ?_
        · rw [Machine.walks, stack', ← List.singleton_append, List.filterMap_append]
          exact List.mem_append_right _ member
        · rw [Machine.walks, onwards', List.filterMap_append]
          exact List.mem_append_right _ member

/-- Two machines that are alike meet after a session has started the same operation. -/
theorem perform_meets
    {operation : Operation}
    (portable : operation.Portable program)
    (idle : left.stack = [])
    (room :
      (left.perform program operation).world.bus.Fits signalRoom slotRoom ∨
        ¬ (right.perform program operation).Refused signalRoom slotRoom) :
    Meets program signalRoom slotRoom (left.perform program operation)
      (right.perform program operation) := by
  have idle' : right.stack = [] := by
    have frames := alike.stack
    rw [idle, List.forall₂_nil_left_iff] at frames
    exact frames
  have going : left.control ≠ .aborted ∧ right.control ≠ .aborted := by
    have same := alike.control
    generalize left.control = control at same ⊢
    generalize right.control = control' at same ⊢
    cases same <;> exact ⟨Control.noConfusion, Control.noConfusion⟩
  have after := ((Move.perform program operation idle going.1).coherent coherent).1
  have after' := ((Move.perform program operation idle' going.2).coherent coherent').1
  have fresh :
      ({ world := left.world } : Machine).Agree (Context.Silent program) signalRoom slotRoom
        { world := right.world } :=
    ⟨alike.world, .nil⟩
  exact (fresh.execute coherent.sane coherent'.sane .void portable).meets after.sane after'.sane
    (fun _ _ _ _ _ => .nil) room

end Alike

end Machine

end SignalDispatch
