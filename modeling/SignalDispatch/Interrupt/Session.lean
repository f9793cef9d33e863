import SignalDispatch.Interrupt

/-!
# Histories of an interrupt queue

A history is a list of requests to one queue.  A drain says what its callback asks of the queue
for each item it is handed, in the order of delivery; those requests are answered inside the
drain, before the next item is handed out.  A request that cannot be read is answered by a
complaint and leaves the queue as it is.
-/

namespace SignalDispatch

/-- A request to an interrupt queue. -/
inductive QueueRequest where
  | push (name : String) (value : Int32)
  | pending
  | capacity
  /-- Drain; the k-th list is what the callback asks for at the k-th item. -/
  | drain (during : List (List QueueRequest))
  /-- A request that cannot be read; this is the complaint. -/
  | unreadable (complaint : String)
  deriving Inhabited

/-- The answer to a request. -/
inductive QueueAnswer where
  | pushed
  | refused (fault : Fault)
  | count (number : Nat)
  /-- The items handed out, each with the answers its callback got. -/
  | drained (items : List (InterruptItem × List QueueAnswer))
  | unreadable (complaint : String)

namespace QueueRequest

mutual

/-- Answer one request. -/
def answer : QueueRequest → InterruptQueue → QueueAnswer × InterruptQueue
  | .push name value, queue =>
      match queue.push name value with
      | .error fault => (.refused fault, queue)
      | .ok pushed => (.pushed, pushed)
  | .pending, queue => (.count queue.pending, queue)
  | .capacity, queue => (.count queue.capacity, queue)
  | .drain during, queue =>
      let (items, queue) := answerDuring during queue 0
      (.drained items, queue)
  | .unreadable complaint, queue => (.unreadable complaint, queue)

/-- Drain from a position on, answering the requests of each item as it is handed out. -/
def answerDuring :
    List (List QueueRequest) → InterruptQueue → Nat →
    List (InterruptItem × List QueueAnswer) × InterruptQueue
  | [], queue, position =>
      let (items, queue) := queue.takeFrom queue.capacity position
      (items.map fun item => (item, []), queue)
  | requests :: rest, queue, position =>
      match queue.take? position with
      | none => ([], queue)
      | some (item, queue) =>
          let (answers, queue) := answerAll requests queue
          let (items, queue) := answerDuring rest queue (item.index + 1)
          ((item, answers) :: items, queue)

/-- Answer requests one after another. -/
def answerAll : List QueueRequest → InterruptQueue → List QueueAnswer × InterruptQueue
  | [], queue => ([], queue)
  | request :: rest, queue =>
      let (first, queue) := answer request queue
      let (others, queue) := answerAll rest queue
      (first :: others, queue)

end

end QueueRequest

namespace QueueAnswer

mutual

/-- The complaint that an answer comes to.  A drain goes on after one, so of several inside it the
last counts. -/
def complaint? : QueueAnswer → Option String
  | .unreadable complaint => some complaint
  | .drained items => lastInItems? items
  | .pushed | .refused _ | .count _ => none

/-- The last complaint in the answers to the items of a drain. -/
def lastInItems? : List (InterruptItem × List QueueAnswer) → Option String
  | [] => none
  | (_, answers) :: rest => lastInItems? rest <|> last? answers

/-- The last complaint in a list of answers. -/
def last? : List QueueAnswer → Option String
  | [] => none
  | answer :: rest => last? rest <|> complaint? answer

end

end QueueAnswer

end SignalDispatch
