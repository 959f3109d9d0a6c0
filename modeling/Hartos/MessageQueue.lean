import Hartos.PipelineStages
import Hartos.StableSort
import Mathlib.Data.List.Basic
import Mathlib.Order.Lattice
import Mathlib.Algebra.Order.Ring.Int

/-!
The message queue with everything it keeps: the items, the ids and digests it has seen,
the statistics and the time of the last message. Every call holds the queue's lock from
its first line to its last, so it is one step, with the time it reads. Every call of
`enqueue` brings a message of its own. What leaves the queue is given back by the helper
that takes it out, so that a run can say where each message went. The queue inside the
pipeline is this one without its statistics.
-/
namespace Hartos.ChannelQueue
open Hartos.Queue (QueuePolicy DropPolicy QueueDedupeMode)

structure QueueConfig where
  policy : QueuePolicy := .backlog
  dropPolicy : DropPolicy := .summarize
  dedupeMode : QueueDedupeMode := .messageId
  maxSize : Int := 20
  maxAgeSeconds : Int := 300
  collectBatchSize : Int := 10
  deriving DecidableEq

structure QueuedMessage where
  call : Nat := 0
  messageId : String
  content : String := ""
  priority : Int := 0
  enqueuedAt : Time := 0
  contentHash : String := ""
  deriving DecidableEq

structure QueueStats where
  totalEnqueued : Nat := 0
  totalDequeued : Nat := 0
  totalDropped : Nat := 0
  totalExpired : Nat := 0
  totalDeduplicated : Nat := 0
  currentSize : Nat := 0
  droppedSummaries : List String := []
  deriving DecidableEq

structure MessageQueue where
  items : List QueuedMessage := []
  seenIds : List String := []
  seenHashes : List String := []
  stats : QueueStats := {}
  lastEnqueueTime : Option Time := none
  deriving DecidableEq

/-- What `_apply_drop_policy` and the policies before it answer; popping an empty list or
table raises. -/
inductive Room where
  | made | refused | raised
  deriving DecidableEq

inductive Outcome where
  | accepted | duplicate | refused | raised
  deriving DecidableEq

/-- The outcome of `enqueue`, with the messages that expired and those that made room. -/
structure Enqueued where
  outcome : Outcome
  expired : List QueuedMessage
  dropped : List QueuedMessage
  queue : MessageQueue

def rstrip (text : String) : String :=
  String.ofList (text.toList.reverse.dropWhile isSpace).reverse

def createSummary (message : QueuedMessage) : String :=
  let text := Ap2.strip (String.ofList
    (message.content.toList.map fun letter => if letter = '\n' then ' ' else letter))
  if 140 < text.length then rstrip (String.ofList (text.toList.take 139)) ++ "…" else text

def isFresh (config : QueueConfig) (now : Time) (message : QueuedMessage) : Bool :=
  decide (config.maxAgeSeconds ≤ 0) ||
    decide (message.enqueuedAt > now - seconds config.maxAgeSeconds)

def trimmed {Entry : Type} (limit : Int) (entries : List Entry) : List Entry :=
  entries.drop (entries.length - limit.toNat)

def noted (seen : List String) (value : String) : List String :=
  if value ∈ seen then seen else seen ++ [value]

def sliceBound (limit : Int) (length : Nat) : Nat :=
  (if limit < 0 then length + limit else limit).toNat

def isFull (config : QueueConfig) (items : List QueuedMessage) : Bool :=
  decide (config.maxSize ≤ items.length)

/-- `sort(key=lambda m: -m.priority)`, which is stable. -/
def arrange (config : QueueConfig) (items : List QueuedMessage) : List QueuedMessage :=
  if config.policy = .priority then
    items.insertionSort fun first second => second.priority ≤ first.priority
  else items

namespace MessageQueue

def isDuplicate (config : QueueConfig) (queue : MessageQueue) (message : QueuedMessage) : Bool :=
  (decide (config.dedupeMode ∈ [QueueDedupeMode.messageId, .combined]) &&
      decide (message.messageId ≠ "") && decide (message.messageId ∈ queue.seenIds)) ||
    (decide (config.dedupeMode ∈ [QueueDedupeMode.content, .combined]) &&
      decide (message.contentHash ∈ queue.seenHashes))

/-- `_mark_seen`, and whether it comes to its end: with a negative limit the loop pops the
empty table. -/
def markSeen (config : QueueConfig) (queue : MessageQueue) (message : QueuedMessage) :
    Bool × MessageQueue :=
  let limit := config.maxSize * 2
  if message.messageId = "" then
    (decide (0 ≤ limit),
      { queue with seenHashes := trimmed limit (noted queue.seenHashes message.contentHash) })
  else if limit < 0 then
    (false, { queue with seenIds := trimmed limit (noted queue.seenIds message.messageId) })
  else
    (true,
      { queue with
        seenIds := trimmed limit (noted queue.seenIds message.messageId)
        seenHashes := trimmed limit (noted queue.seenHashes message.contentHash) })

def cleanExpired (config : QueueConfig) (now : Time) (queue : MessageQueue) :
    List QueuedMessage × MessageQueue :=
  let expired := queue.items.filter fun message => !isFresh config now message
  (expired,
    { queue with
      items := queue.items.filter (isFresh config now)
      stats := { queue.stats with totalExpired := queue.stats.totalExpired + expired.length } })

def applyDropPolicy (config : QueueConfig) (queue : MessageQueue) :
    Room × List QueuedMessage × MessageQueue :=
  if isFull config queue.items then
    match config.dropPolicy, queue.items with
    | .new, _ => (.refused, [], queue)
    | _, [] => (.made, [], queue)
    | .old, dropped :: rest =>
        (.made, [dropped],
          { queue with
            items := rest
            stats := { queue.stats with totalDropped := queue.stats.totalDropped + 1 } })
    | .summarize, dropped :: rest =>
        (if config.maxSize < 0 then .raised else .made, [dropped],
          { queue with
            items := rest
            stats :=
              { queue.stats with
                totalDropped := queue.stats.totalDropped + 1
                droppedSummaries := trimmed config.maxSize
                  (queue.stats.droppedSummaries ++ [createSummary dropped]) } })
  else (.made, [], queue)

def makeRoom (config : QueueConfig) (queue : MessageQueue) :
    Room × List QueuedMessage × MessageQueue :=
  match config.policy with
  | .latest =>
      (.made, queue.items,
        { queue with
          items := []
          stats :=
            { queue.stats with totalDropped := queue.stats.totalDropped + queue.items.length } })
  | .drop => (if isFull config queue.items then .refused else .made, [], queue)
  | _ => queue.applyDropPolicy config

def append (config : QueueConfig) (now : Time) (queue : MessageQueue) (message : QueuedMessage) :
    MessageQueue :=
  { queue with
    items := arrange config (queue.items ++ [message])
    lastEnqueueTime := some now
    stats :=
      { queue.stats with
        totalEnqueued := queue.stats.totalEnqueued + 1
        currentSize := queue.items.length + 1 } }

def enqueue (config : QueueConfig) (queue : MessageQueue) (message : QueuedMessage)
    (priority : Option Int) (now : Time) : Enqueued :=
  let cleaned := queue.cleanExpired config now
  if cleaned.2.isDuplicate config message then
    ⟨.duplicate, cleaned.1, [],
      { cleaned.2 with
        stats :=
          { cleaned.2.stats with totalDeduplicated := cleaned.2.stats.totalDeduplicated + 1 } }⟩
  else
    let message := { message with priority := priority.getD message.priority }
    let room := cleaned.2.makeRoom config
    match room.1 with
    | .refused =>
        ⟨.refused, cleaned.1, room.2.1,
          { room.2.2 with
            stats := { room.2.2.stats with totalDropped := room.2.2.stats.totalDropped + 1 } }⟩
    | .raised => ⟨.raised, cleaned.1, room.2.1, room.2.2⟩
    | .made =>
        let marked := room.2.2.markSeen config message
        if marked.1 then ⟨.accepted, cleaned.1, room.2.1, marked.2.append config now message⟩
        else ⟨.raised, cleaned.1, room.2.1, marked.2⟩

def dequeue (config : QueueConfig) (queue : MessageQueue) (now : Time) :
    List QueuedMessage × Option QueuedMessage × MessageQueue :=
  let cleaned := queue.cleanExpired config now
  match cleaned.2.items with
  | [] => (cleaned.1, none, cleaned.2)
  | message :: rest =>
      (cleaned.1, some message,
        { cleaned.2 with
          items := rest
          stats :=
            { cleaned.2.stats with
              totalDequeued := cleaned.2.stats.totalDequeued + 1
              currentSize := rest.length } })

def peek (config : QueueConfig) (queue : MessageQueue) (now : Time) :
    List QueuedMessage × Option QueuedMessage × MessageQueue :=
  let cleaned := queue.cleanExpired config now
  (cleaned.1, cleaned.2.items.head?, cleaned.2)

def collectLimit (config : QueueConfig) (maxItems : Option Int) : Int :=
  match maxItems with
  | none | some 0 => config.collectBatchSize
  | some limit => limit

def collect (config : QueueConfig) (queue : MessageQueue) (maxItems : Option Int) (now : Time) :
    List QueuedMessage × List QueuedMessage × MessageQueue :=
  let cleaned := queue.cleanExpired config now
  let bound := sliceBound (collectLimit config maxItems) cleaned.2.items.length
  let collected := cleaned.2.items.take bound
  (cleaned.1, collected,
    { cleaned.2 with
      items := cleaned.2.items.drop bound
      stats :=
        { cleaned.2.stats with
          totalDequeued := cleaned.2.stats.totalDequeued + collected.length
          currentSize := (cleaned.2.items.drop bound).length } })

def clear (queue : MessageQueue) : List QueuedMessage × MessageQueue :=
  (queue.items,
    { queue with
      items := []
      seenIds := []
      seenHashes := []
      stats := { queue.stats with currentSize := 0, droppedSummaries := [] } })

def getStats (queue : MessageQueue) : QueueStats × MessageQueue :=
  let stats := { queue.stats with currentSize := queue.items.length }
  (stats, { queue with stats := stats })

def getDroppedSummary (queue : MessageQueue) : Option String × MessageQueue :=
  let count := queue.stats.droppedSummaries.length
  if count = 0 then (none, queue)
  else
    let plural := if count = 1 then "" else "s"
    let title := "[Queue overflow] Dropped " ++ toString count ++ " message" ++ plural ++
      " due to cap."
    (some ("\n".intercalate
        (title :: "Summary:" :: queue.stats.droppedSummaries.map fun summary => "- " ++ summary)),
      { queue with stats := { queue.stats with droppedSummaries := [] } })

end MessageQueue

end Hartos.ChannelQueue
