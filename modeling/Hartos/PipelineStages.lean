import Hartos.MessageBatcher
import Hartos.PaymentLedger

/-!
The stages of the message pipeline: the deduplicator, the rate limiter, the slots of the
concurrency controller and the queue, each an object with its calls; where a call is several
locked sections, the runs that interleave them take it apart. The digests come from outside;
the burst bucket counts in units of which sixty million make one token, so its refill per
microsecond is whole.
-/
namespace Hartos.Queue
open KeyedTable

/-- A message as `process()` wraps it, with the number of the call that brought it. -/
structure PipelineMessage where
  call : Nat
  messageId : String
  channel : String
  chatId : String
  userId : String
  content : String := ""
  priority : Int := 0
  deriving DecidableEq

structure Digests where
  -- `_compute_hash` of the deduplicator.
  hash : String → String
  -- The digest a queued message carries of its content.
  contentHash : String → String

inductive DedupeMode where
  | contentHash | messageId | combined | none
  deriving DecidableEq

structure DedupeConfig where
  mode : DedupeMode := .combined
  ttlSeconds : Int := 300
  maxEntries : Nat := 10000
  deriving DecidableEq

structure DedupeEntry where
  hashValue : String
  messageId : String
  contentHash : Option String
  lastSeen : Time
  deriving DecidableEq

structure MessageDeduplicator where
  entries : Table DedupeEntry.hashValue
  idToHash : String → Option String
  contentToHash : String → Option String

def collapseSpace (content : String) : String :=
  " ".intercalate (((content.toList.splitOnP isSpace).filter (· ≠ [])).map String.ofList)

namespace MessageDeduplicator

def empty : MessageDeduplicator := ⟨Table.empty DedupeEntry.hashValue, fun _ => none, fun _ => none⟩

variable (digests : Digests) (config : DedupeConfig) (deduper : MessageDeduplicator)

def isExpired (now : Time) (entry : DedupeEntry) : Bool :=
  decide (0 < config.ttlSeconds) && decide (now - entry.lastSeen > seconds config.ttlSeconds)

def contentHashOf (content : String) : Option String :=
  if content = "" then none else some (digests.hash (collapseSpace content))

def remove (entry : DedupeEntry) : MessageDeduplicator where
  entries := deduper.entries.erase entry.hashValue
  idToHash :=
    if entry.messageId = "" then deduper.idToHash
    else Function.update deduper.idToHash entry.messageId none
  contentToHash :=
    match entry.contentHash with
    | none => deduper.contentToHash
    | some hash => Function.update deduper.contentToHash hash none

def cleanupExpired (now : Time) : MessageDeduplicator :=
  (deduper.entries.rows.filter (isExpired config now)).foldl remove deduper

def entryAt (hash : Option String) : Option DedupeEntry :=
  hash.bind deduper.entries.get?

def knownBy (message : PipelineMessage) : Option DedupeEntry :=
  let byId :=
    if config.mode ∈ [DedupeMode.messageId, .combined] ∧ message.messageId ≠ "" then
      deduper.entryAt (deduper.idToHash message.messageId)
    else none
  let byContent :=
    if config.mode ∈ [DedupeMode.contentHash, .combined] then
      deduper.entryAt ((contentHashOf digests message.content).bind deduper.contentToHash)
    else none
  byId.or byContent

def touch (entry : DedupeEntry) (now : Time) : MessageDeduplicator :=
  { deduper with
    entries := (deduper.entries.erase entry.hashValue).set { entry with lastSeen := now } }

def check (message : PipelineMessage) (now : Time) : Bool × MessageDeduplicator :=
  if config.mode = .none then (false, deduper)
  else
    let cleaned := deduper.cleanupExpired config now
    match cleaned.knownBy digests config message with
    | some entry => (true, cleaned.touch entry now)
    | none => (false, cleaned)

def isDuplicate (message : PipelineMessage) (now : Time) : Bool :=
  (deduper.check digests config message now).1

def enforceMaxEntries : MessageDeduplicator :=
  (deduper.entries.rows.take (deduper.entries.rows.length - config.maxEntries)).foldl remove
    deduper

def hashParts (message : PipelineMessage) : List String :=
  (if message.messageId = "" then [] else [s!"id:{message.messageId}"]) ++
    ((contentHashOf digests message.content).map fun hash => s!"content:{hash}").toList

def combinedHash (message : PipelineMessage) : Option String :=
  if config.mode = .none ∨ hashParts digests message = [] then none
  else some (digests.hash ("|".intercalate (hashParts digests message)))

def record (message : PipelineMessage) (hash : String) (now : Time) : MessageDeduplicator :=
  match deduper.entries.get? hash with
  | some entry => deduper.touch entry now
  | none =>
      let content := contentHashOf digests message.content
      { entries := deduper.entries.set ⟨hash, message.messageId, content, now⟩
        idToHash :=
          if message.messageId = "" then deduper.idToHash
          else Function.update deduper.idToHash message.messageId (some hash)
        contentToHash :=
          match content with
          | none => deduper.contentToHash
          | some content => Function.update deduper.contentToHash content (some hash) }

def markSeen (message : PipelineMessage) (now : Time) : MessageDeduplicator :=
  match combinedHash digests config message with
  | none => deduper
  | some hash => (deduper.record digests message hash now).enforceMaxEntries config

/-- `check_and_mark`: whether the message was known; now it is. -/
def checkAndMark (message : PipelineMessage) (now : Time) : Bool × MessageDeduplicator :=
  let checked := deduper.check digests config message now
  if checked.1 then checked else (false, checked.2.markSeen digests config message now)

end MessageDeduplicator

structure RateLimitConfig where
  requestsPerMinute : Int := 60
  requestsPerHour : Int := 1000
  burstLimit : Int := 10
  perChannelLimits : String → Option Int := fun _ => none

structure RateCounters where
  key : String
  perMinute : Int
  minute : List Time
  hour : List Time
  tokens : Int
  lastRefill : Time
  deriving DecidableEq

abbrev RateLimiter := Table RateCounters.key

def tokenUnit : Int := 60000000

def chatKey (channel chatId : String) : String := s!"{channel}:{chatId}"

namespace RateLimiter
variable (config : RateLimitConfig)

def newCounters (channel chatId : String) (now : Time) : RateCounters where
  key := chatKey channel chatId
  perMinute := (config.perChannelLimits channel).getD config.requestsPerMinute
  minute := []
  hour := []
  tokens := config.burstLimit * tokenUnit
  lastRefill := now

def window (length : Time) (now : Time) (timestamps : List Time) : List Time :=
  timestamps.dropWhile (· < now - length)

def refreshed (counters : RateCounters) (now : Time) : RateCounters :=
  { counters with
    minute := window (seconds 60) now counters.minute
    hour := window (seconds 3600) now counters.hour
    tokens := min (config.burstLimit * tokenUnit)
      (counters.tokens + (now - counters.lastRefill) * counters.perMinute)
    lastRefill := now }

def countersOf (limiter : RateLimiter) (channel chatId : String) (now : Time) : RateCounters :=
  refreshed config
    ((limiter.get? (chatKey channel chatId)).getD (newCounters config channel chatId now)) now

def allows (counters : RateCounters) : Bool :=
  decide (tokenUnit ≤ counters.tokens) &&
    decide ((counters.minute.length : Int) < counters.perMinute) &&
    decide ((counters.hour.length : Int) < config.requestsPerHour)

def checkAndConsume (limiter : RateLimiter) (channel chatId : String) (now : Time) :
    Bool × RateLimiter :=
  let counters := countersOf config limiter channel chatId now
  if allows config counters then
    (true, limiter.set
      { counters with
        tokens := counters.tokens - tokenUnit
        minute := counters.minute ++ [now]
        hour := counters.hour ++ [now] })
  else (false, limiter.set counters)

end RateLimiter

structure ConcurrencyLimits where
  maxPerUser : Int := 4
  maxPerChannel : Int := 20
  maxPerChat : Int := 2
  maxGlobal : Int := 100
  queueWhenLimited : Bool := true
  deriving DecidableEq

structure ConcurrencySlot where
  slotId : Nat
  channel : String
  chatId : String
  userId : String
  deriving DecidableEq

structure ConcurrencyController where
  slots : List ConcurrencySlot
  slotCounter : Nat
  waiters : String → Option TaskNo

namespace ConcurrencyController

def empty : ConcurrencyController := ⟨[], 0, fun _ => none⟩

def isAvailable (limits : ConcurrencyLimits) (controller : ConcurrencyController)
    (message : PipelineMessage) : Bool :=
  decide ((controller.slots.length : Int) < limits.maxGlobal) &&
    decide ((controller.slots.countP (·.channel = message.channel) : Int) < limits.maxPerChannel) &&
    decide ((controller.slots.countP fun slot =>
      decide (chatKey slot.channel slot.chatId = chatKey message.channel message.chatId) : Int) <
        limits.maxPerChat) &&
    decide ((controller.slots.countP (·.userId = message.userId) : Int) < limits.maxPerUser)

def acquireSync (limits : ConcurrencyLimits) (controller : ConcurrencyController)
    (message : PipelineMessage) : Option Nat × ConcurrencyController :=
  if controller.isAvailable limits message then
    let slotId := controller.slotCounter + 1
    (some slotId,
      { controller with
        slots := controller.slots ++ [⟨slotId, message.channel, message.chatId, message.userId⟩]
        slotCounter := slotId })
  else (none, controller)

variable (controller : ConcurrencyController)

def awaitSlot (message : PipelineMessage) (task : TaskNo) : ConcurrencyController :=
  { controller with
    waiters := Function.update controller.waiters (chatKey message.channel message.chatId)
      (some task) }

def stopWaiting (message : PipelineMessage) : ConcurrencyController :=
  { controller with
    waiters := Function.update controller.waiters (chatKey message.channel message.chatId) none }

def release (slotId : Nat) : Option TaskNo × ConcurrencyController :=
  match controller.slots.find? (·.slotId = slotId) with
  | none => (none, controller)
  | some slot =>
      (controller.waiters (chatKey slot.channel slot.chatId),
        { controller with slots := controller.slots.filter (·.slotId ≠ slotId) })

end ConcurrencyController

inductive QueuePolicy where
  | drop | latest | backlog | priority | collect
  deriving DecidableEq

inductive DropPolicy where
  | old | new | summarize
  deriving DecidableEq

inductive QueueDedupeMode where
  | messageId | content | combined | none
  deriving DecidableEq

structure QueueConfig where
  policy : QueuePolicy := .backlog
  dropPolicy : DropPolicy := .summarize
  dedupeMode : QueueDedupeMode := .messageId
  maxSize : Nat := 20
  maxAgeSeconds : Int := 300
  deriving DecidableEq

structure QueuedMessage where
  message : PipelineMessage
  enqueuedAt : Time
  deriving DecidableEq

structure MessageQueue where
  items : List QueuedMessage
  seenIds : List String
  seenHashes : List String
  deriving DecidableEq

namespace MessageQueue

def empty : MessageQueue := ⟨[], [], []⟩

variable (config : QueueConfig) (items : List QueuedMessage)

def messages : List PipelineMessage := items.map QueuedMessage.message

def isFresh (now : Time) (item : QueuedMessage) : Bool :=
  decide (config.maxAgeSeconds ≤ 0) ||
    decide (item.enqueuedAt > now - seconds config.maxAgeSeconds)

def isFull : Bool :=
  decide (items.length ≥ config.maxSize)

def isDuplicate (digests : Digests) (config : QueueConfig) (queue : MessageQueue)
    (message : PipelineMessage) : Bool :=
  (decide (config.dedupeMode ∈ [QueueDedupeMode.messageId, .combined]) &&
      decide (message.messageId ≠ "") && decide (message.messageId ∈ queue.seenIds)) ||
    (decide (config.dedupeMode ∈ [QueueDedupeMode.content, .combined]) &&
      decide (digests.contentHash message.content ∈ queue.seenHashes))

/-- The last of what was seen, at most twice `max_size`. -/
def remember (seen : List String) (value : String) : List String :=
  let all := if value ∈ seen then seen else seen ++ [value]
  all.drop (all.length - config.maxSize * 2)

def makeRoom : Option (List QueuedMessage) :=
  match config.policy with
  | .latest => some []
  | .drop => if isFull config items then none else some items
  | _ =>
      if isFull config items then
        match config.dropPolicy with
        | .new => none
        | .old | .summarize => some items.tail
      else some items

def arrange : List QueuedMessage :=
  if config.policy = .priority then
    items.mergeSort fun first second => decide (second.message.priority ≤ first.message.priority)
  else items

def enqueue (digests : Digests) (config : QueueConfig) (queue : MessageQueue)
    (message : PipelineMessage) (now : Time) : Bool × MessageQueue :=
  let kept := queue.items.filter (isFresh config now)
  if queue.isDuplicate digests config message then (false, { queue with items := kept })
  else
    match makeRoom config kept with
    | none => (false, { queue with items := kept })
    | some items =>
        (true,
          { items := arrange config (items ++ [⟨message, now⟩])
            seenIds :=
              if message.messageId = "" then queue.seenIds
              else remember config queue.seenIds message.messageId
            seenHashes := remember config queue.seenHashes (digests.contentHash message.content) })

def dequeue (queue : MessageQueue) (now : Time) : Option PipelineMessage × MessageQueue :=
  match queue.items.filter (isFresh config now) with
  | [] => (none, { queue with items := [] })
  | item :: rest => (some item.message, { queue with items := rest })

end MessageQueue

end Hartos.Queue
