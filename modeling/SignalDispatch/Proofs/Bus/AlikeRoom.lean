import SignalDispatch.Proofs.Bus.Alike

/-!
# Calls that need room

Registering a signal and connecting a slot take room in a pool.  On buses that are alike both do the
same unless the pool is full, and then the bus on growing storage has outgrown the pools.
-/

namespace SignalDispatch

/-- A pool takes every name that is not empty and fits its buffer. -/
theorem Backend.acceptName_pool
    {name : String}
    (short : name.utf8ByteSize ≤ Limits.poolNameBytes)
    (signalRoom slotRoom : Nat) :
    (Backend.pool signalRoom slotRoom).acceptName name =
      if name.isEmpty then .error Fault.emptyName else .ok name := by
  rw [acceptName]
  split
  · rfl
  · rcases Option.isSome_iff_exists.mp
      ((BoundedName.ofText?_isSome_iff Limits.poolNameBytes name).mpr short) with ⟨kept, made⟩
    have same : (Backend.pool signalRoom slotRoom).keepName? name = some name := by
      change (BoundedName.ofText? Limits.poolNameBytes name).map BoundedName.text = some name
      rw [made, Option.map_some, BoundedName.text_of_ofText? Limits.poolNameBytes_le made]
    rw [same]

namespace Bus.Alike

variable
  {allowed : Context → Prop}
  {signalRoom slotRoom : Nat}
  {left right : Bus}

/-- A serial is drawn on both buses. -/
theorem drawSerial (alike : left.Alike allowed signalRoom slotRoom right) :
    ({ left with nextSerial := left.nextSerial + 1 } : Bus).Alike allowed signalRoom slotRoom
      { right with nextSerial := right.nextSerial + 1 } :=
  alike.update (fun bus => { bus with nextSerial := bus.nextSerial + 1 }) rfl (fun _ => rfl)
    fun _ => rfl

/-- A handle is drawn on both buses. -/
theorem drawHandle (alike : left.Alike allowed signalRoom slotRoom right) :
    ({ left with nextHandle := left.nextHandle + 1 } : Bus).Alike allowed signalRoom slotRoom
      { right with nextHandle := right.nextHandle + 1 } :=
  alike.update (fun bus => { bus with nextHandle := bus.nextHandle + 1 }) rfl (fun _ => rfl)
    fun _ => rfl

/-- A registration comes to the same, unless the pool of signals is full. -/
theorem register
    (alike : left.Alike allowed signalRoom slotRoom right)
    (sane : left.Sane)
    (sane' : right.Sane)
    {name : String}
    (short : name.utf8ByteSize ≤ Limits.poolNameBytes)
    (description : Option String)
    (priority : Priority) :
    (left.register name description priority).Alike allowed signalRoom slotRoom
        (right.register name description priority) ∨
      (left.register name description priority).Outgrows signalRoom slotRoom
        (right.register name description priority) := by
  have serials : right.nextSerial = left.nextSerial := by rw [alike.same]; rfl
  have backend : right.backend = .pool signalRoom slotRoom := by rw [alike.same]; rfl
  have drawn := alike.drawSerial
  rw [Bus.register, Bus.register]
  rcases alike.parts with ⟨absent, same⟩ | ⟨registry, registry', present, same, both⟩
  · rw [withRegistry_of_none absent, withRegistry_of_none (by rw [same]; rfl)]
    exact Or.inl (alike.failing _)
  · have present' : right.registry = some registry' := by rw [same]; rfl
    have fits : ¬ Limits.heapNameBytes < name.utf8ByteSize :=
      Nat.not_lt.mpr (Nat.le_trans short Limits.poolNameBytes_le_heapNameBytes)
    have accepts := Backend.acceptName_heap name
    have accepts' := Backend.acceptName_pool short signalRoom slotRoom
    rw [← alike.heap, if_neg fits] at accepts
    rw [← backend] at accepts'
    rw [withRegistry_of_some present, withRegistry_of_some present', accepts, accepts', serials]
    rw [serials] at drawn
    by_cases empty : name.isEmpty = true
    · rw [if_pos empty]
      exact Or.inl (drawn.failing _)
    rw [if_neg empty]
    have fresh := @sane.serials
    simp only [signalAt_of_some present] at fresh
    simp only [bind, Except.bind]
    rcases both.register (sane.registry present).formed (sane'.registry present').formed
      (fun _ _ found => fresh found) name description priority with
      ⟨fault, failed, failed'⟩ | ⟨next, next', registered, registered', kept⟩ |
        ⟨next, registered, outgrown, refused⟩
    · rw [failed, failed']
      exact Or.inl (drawn.failing fault)
    · rw [registered, registered']
      exact Or.inl (.done (drawn.setRegistry kept) rfl rfl rfl rfl)
    · rw [registered, refused]
      refine Or.inr ⟨⟨_, rfl, Or.inl rfl⟩, ?_⟩
      intro within
      exact Nat.not_le.mpr outgrown (within next rfl).1

/-- A connection comes to the same, unless the pool of slots is full. -/
theorem connect
    (alike : left.Alike allowed signalRoom slotRoom right)
    (sane : left.Sane)
    (sane' : right.Sane)
    (name : String)
    (callback : RoutineId)
    {context : Option Context}
    (carries : ∀ given, context = some given → allowed given)
    (priority : Option Priority) :
    (left.connect name callback context priority).Alike allowed signalRoom slotRoom
        (right.connect name callback context priority) ∨
      (left.connect name callback context priority).Outgrows signalRoom slotRoom
        (right.connect name callback context priority) := by
  have handles : right.nextHandle = left.nextHandle := by rw [alike.same]; rfl
  have limits : right.maxSlots = left.maxSlots := by rw [alike.same]; rfl
  have drawn := alike.drawHandle
  have rejected {bus bus' : Bus} (alike : bus.Alike allowed signalRoom slotRoom bus')
      (fault : Fault) :
      Effect.Alike allowed signalRoom slotRoom
        { bus := bus, released := context.toList, result := .error fault }
        { bus := bus', released := context.toList, result := .error fault } :=
    ⟨alike, .refl _, fun given member => carries given (Option.mem_toList.mp member), .fault fault⟩
  rw [Bus.connect, Bus.connect]
  rcases alike.parts with ⟨absent, same⟩ | ⟨registry, registry', present, same, both⟩
  · have absent' : right.registry = none := by rw [same]; rfl
    rw [absent, absent']
    exact Or.inl (rejected alike _)
  · have present' : right.registry = some registry' := by rw [same]; rfl
    have latest := @sane.handles
    have latest' := @sane'.handles
    simp only [slotAt_of_some present] at latest
    simp only [slotAt_of_some present', handles] at latest'
    have formed := (sane.registry present).formed
    have formed' := (sane'.registry present').formed
    rw [present, present', limits, handles]
    rw [handles, limits] at drawn
    rcases both.lookup formed' name with
      ⟨absent, absent'⟩ | ⟨here, there, signal, found, found', _, coincide⟩
    · simp only [bind, Except.bind, absent, absent']
      exact Or.inl (rejected alike _)
    · simp only [bind, Except.bind, found, found']
      rcases both.grant coincide left.maxSlots with
        ⟨fault, failed, failed'⟩ | ⟨granted, ⟨room, granted'⟩ | ⟨full, refused⟩⟩
      · simp only [failed, failed']
        exact Or.inl (rejected alike fault)
      · simp only [granted, granted', pure, Except.pure]
        rcases both.attach formed formed' coincide
          { handle := ⟨left.nextHandle⟩, callback := callback, context := context,
            priority := priority.getD signal.priority }
          rfl carries (fun _ _ => latest) (fun _ _ => latest') room with
          ⟨next, next', attached, attached', kept⟩
        simp only [attached, attached']
        exact Or.inl ⟨drawn.setRegistry kept, .refl _,
          fun _ member => absurd member List.not_mem_nil, .answer (.same _)⟩
      · simp only [granted, refused, pure, Except.pure]
        rcases both.growing.attach here
          { handle := ⟨left.nextHandle⟩, callback := callback, context := context,
            priority := priority.getD signal.priority } with ⟨next, attached, _⟩
        simp only [attached]
        refine Or.inr ⟨⟨_, rfl, Or.inr rfl⟩, ?_⟩
        intro within
        have size := (Registry.attach_stocks attached).slotSize
        have most := (within next rfl).2
        rw [size, both.slotSize] at most
        exact Nat.lt_irrefl _ (Nat.lt_of_lt_of_le (Nat.lt_succ_of_le full) most)

end Bus.Alike

end SignalDispatch
