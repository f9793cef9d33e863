import SignalDispatch.Interrupt.Session
import SignalDispatch.Proofs.Interrupt.Traffic

/-!
# Sessions as histories

Requests to an interrupt queue are answered by primitive steps.  `Told` spells out which: a drain
calls its callback with the items that it answers with, and what the callback asks for comes in
between.
-/

namespace SignalDispatch

mutual

/-- The primitive steps by which a request gets its answer. -/
inductive Told : QueueRequest → QueueAnswer → List QueueEvent → Prop where
  | pushed {name : String} {value : Int32} {index : Nat} :
      Told (.push name value) .pushed [.accepted ⟨index, name, value⟩]
  | refused {name : String} {value : Int32} {fault : Fault} :
      Told (.push name value) (.refused fault) [.refused name value fault]
  | pending {number : Nat} : Told .pending (.count number) []
  | capacity {number : Nat} : Told .capacity (.count number) []
  | drained
      {during : List (List QueueRequest)}
      {items : List (InterruptItem × List QueueAnswer)}
      {events : List QueueEvent} :
      ToldDuring during items events →
      Told (.drain during) (.drained items) (.began :: (events ++ [.finished items.length]))
  | unreadable {complaint : String} : Told (.unreadable complaint) (.unreadable complaint) []

/-- The primitive steps by which a drain hands out items, and by which its callback, which may ask
for nothing, gets answers. -/
inductive ToldDuring :
    List (List QueueRequest) → List (InterruptItem × List QueueAnswer) → List QueueEvent →
      Prop where
  | nil {during : List (List QueueRequest)} : ToldDuring during [] []
  | cons
      {during : List (List QueueRequest)}
      {item : InterruptItem}
      {answers : List QueueAnswer}
      {items : List (InterruptItem × List QueueAnswer)}
      {inside events : List QueueEvent} :
      ToldAll (during.headD []) answers inside →
      ToldDuring during.tail items events →
      ToldDuring during ((item, answers) :: items) (.handed item :: (inside ++ .returned :: events))

/-- The primitive steps by which requests get their answers. -/
inductive ToldAll : List QueueRequest → List QueueAnswer → List QueueEvent → Prop where
  | nil : ToldAll [] [] []
  | cons
      {request : QueueRequest}
      {answer : QueueAnswer}
      {requests : List QueueRequest}
      {answers : List QueueAnswer}
      {first events : List QueueEvent} :
      Told request answer first →
      ToldAll requests answers events →
      ToldAll (request :: requests) (answer :: answers) (first ++ events)

end

namespace History

variable {start reached : Traffic} {queue : InterruptQueue} {loops outer : List DrainLoop}
  {events : List QueueEvent}

/-- A push is one primitive step, accepted or refused. -/
theorem of_push
    {name : String}
    {value : Int32}
    {pushed : InterruptQueue}
    (settled : queue.Settled)
    (outside : OutsideLoops loops)
    (accepted : queue.push name value = .ok pushed) :
    ∃ index, History ⟨queue, loops⟩ [.accepted ⟨index, name, value⟩] ⟨pushed, loops⟩ := by
  rcases settled.lodges accepted with ⟨index, lodges⟩
  exact ⟨index, of_proceeds (.accepts outside accepted lodges.vacant (by simp [lodges.filled]))⟩

/-- One more item is handed out, user code does something, and the rest is handed out. -/
theorem of_taken
    {rest after last : InterruptQueue}
    {position further drained count : Nat}
    {item : InterruptItem}
    {inside : List QueueEvent}
    (taken : queue.take? position = some (item, rest))
    (inner :
      History ⟨rest, ⟨item.index + 1, drained, true⟩ :: outer⟩ inside
        ⟨after, ⟨item.index + 1, drained, true⟩ :: outer⟩)
    (others :
      History ⟨after, ⟨item.index + 1, drained + 1, false⟩ :: outer⟩ events
        ⟨last, ⟨further, drained + 1 + count, false⟩ :: outer⟩) :
    History ⟨queue, ⟨position, drained, false⟩ :: outer⟩
      (.handed item :: (inside ++ .returned :: events))
      ⟨last, ⟨further, drained + (count + 1), false⟩ :: outer⟩ := by
  have handed := (of_proceeds (.hands taken)).trans inner
  have returned := handed.trans ((of_proceeds .returns).trans others)
  rw [show drained + (count + 1) = drained + 1 + count by omega]
  simpa using returned

/-- Taking everything is what a drain does whose callback does nothing. -/
theorem of_takeFrom
    (limit : Nat)
    {position drained : Nat}
    (enough : queue.capacity ≤ position + limit) :
    ∃ events further,
      ToldDuring [] ((queue.takeFrom limit position).1.map fun item => (item, [])) events ∧
        History ⟨queue, ⟨position, drained, false⟩ :: outer⟩ events
          ⟨(queue.takeFrom limit position).2,
            ⟨further, drained + (queue.takeFrom limit position).1.length, false⟩ :: outer⟩ ∧
        (queue.takeFrom limit position).2.take? further = none := by
  induction limit generalizing queue position drained with
  | zero =>
      refine ⟨[], position, .nil, .refl, ?_⟩
      cases taken : queue.take? position with
      | none => simp [InterruptQueue.takeFrom, taken]
      | some found =>
          have yields := InterruptQueue.yields_of_take? taken
          have bound := InterruptQueue.lt_capacity_of_item? yields.waits
          have passed := yields.passed
          omega
  | succ limit ih =>
      rw [InterruptQueue.takeFrom]
      cases taken : queue.take? position with
      | none => exact ⟨[], position, .nil, .refl, taken⟩
      | some found =>
          rcases found with ⟨item, rest⟩
          have yields := InterruptQueue.yields_of_take? taken
          have shorter : rest.capacity ≤ item.index + 1 + limit := by
            have size := yields.capacity
            have passed := yields.passed
            omega
          rcases @ih rest (item.index + 1) (drained + 1) shorter with
            ⟨events, further, told, history, done⟩
          exact ⟨_, further, .cons .nil told, of_taken taken .refl history, done⟩

end History

open History

mutual

/-- Answering a request is a history. -/
theorem QueueRequest.answer_history
    (request : QueueRequest)
    {queue : InterruptQueue}
    {loops : List DrainLoop}
    (settled : queue.Settled)
    (outside : OutsideLoops loops) :
    ∃ events,
      Told request (request.answer queue).1 events ∧
        History ⟨queue, loops⟩ events ⟨(request.answer queue).2, loops⟩ := by
  cases request with
  | push name value =>
      simp only [QueueRequest.answer]
      cases result : queue.push name value with
      | error fault => exact ⟨_, .refused, .of_proceeds (.refuses outside result)⟩
      | ok pushed =>
          rcases of_push settled outside result with ⟨index, history⟩
          exact ⟨_, .pushed, history⟩
  | pending => exact ⟨[], .pending, .refl⟩
  | capacity => exact ⟨[], .capacity, .refl⟩
  | unreadable complaint => exact ⟨[], .unreadable, .refl⟩
  | drain during =>
      rcases QueueRequest.answerDuring_history during 0 0 settled with
        ⟨events, further, told, history, done⟩
      have began : History ⟨queue, loops⟩ [.began] ⟨queue, {} :: loops⟩ :=
        .of_proceeds (.begins outside)
      have finished := (began.trans history).trans (.of_proceeds (.finishes done))
      rw [Nat.zero_add] at finished
      exact ⟨_, .drained told, by simpa [QueueRequest.answer] using finished⟩

/-- So is handing out items. -/
theorem QueueRequest.answerDuring_history
    (during : List (List QueueRequest))
    {queue : InterruptQueue}
    {outer : List DrainLoop}
    (position drained : Nat)
    (settled : queue.Settled) :
    ∃ events further,
      ToldDuring during (QueueRequest.answerDuring during queue position).1 events ∧
        History ⟨queue, ⟨position, drained, false⟩ :: outer⟩ events
          ⟨(QueueRequest.answerDuring during queue position).2,
            ⟨further, drained + (QueueRequest.answerDuring during queue position).1.length,
              false⟩ :: outer⟩ ∧
        (QueueRequest.answerDuring during queue position).2.take? further = none := by
  cases during with
  | nil =>
      rcases of_takeFrom queue.capacity (Nat.le_add_left _ position) with
        ⟨events, further, told, history, done⟩
      refine ⟨events, further, told, ?_, done⟩
      simpa [QueueRequest.answerDuring] using history
  | cons requests during =>
      rw [QueueRequest.answerDuring]
      cases taken : queue.take? position with
      | none => exact ⟨[], position, .nil, .refl, taken⟩
      | some found =>
          rcases found with ⟨item, rest⟩
          have yields := InterruptQueue.yields_of_take? taken
          have outside : OutsideLoops (⟨item.index + 1, drained, true⟩ :: outer) := by
            simp [OutsideLoops]
          rcases QueueRequest.answerAll_history requests (yields.settled settled) outside with
            ⟨inside, answered, inner⟩
          rcases QueueRequest.answerDuring_history during (item.index + 1) (drained + 1)
            (inner.settled (yields.settled settled)) with ⟨events, further, told, others, done⟩
          exact ⟨_, further, .cons answered told, of_taken taken inner others, done⟩

/-- And answering requests one after another. -/
theorem QueueRequest.answerAll_history
    (requests : List QueueRequest)
    {queue : InterruptQueue}
    {loops : List DrainLoop}
    (settled : queue.Settled)
    (outside : OutsideLoops loops) :
    ∃ events,
      ToldAll requests (QueueRequest.answerAll requests queue).1 events ∧
        History ⟨queue, loops⟩ events ⟨(QueueRequest.answerAll requests queue).2, loops⟩ := by
  cases requests with
  | nil => exact ⟨[], .nil, .refl⟩
  | cons request requests =>
      rcases QueueRequest.answer_history request settled outside with ⟨first, answered, earlier⟩
      rcases QueueRequest.answerAll_history requests (earlier.settled settled) outside with
        ⟨events, told, later⟩
      exact ⟨_, .cons answered told, earlier.trans later⟩

end

end SignalDispatch
