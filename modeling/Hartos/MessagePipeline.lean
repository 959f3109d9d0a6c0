import Hartos.PipelineStages

/-!
`MessagePipeline` and `SyncMessagePipeline`. A task is what it still has to do, the next
piece first; pieces end where the code waits or where another lock is taken. The asyncio
class has one event loop, so a task that asks for the debouncer's lock while a flush
holds it stops every task. What becomes of each message is logged.
-/
namespace Hartos.Queue
open KeyedTable

structure DebounceConfig where
  windowMs : Int := 1000
  maxMessages : Int := 10
  channelOverrides : String → Option Int := fun _ => none

def DebounceConfig.debounceMs (config : DebounceConfig) (channel : String) : Int :=
  if channel = "" then max 0 config.windowMs
  else max 0 ((config.channelOverrides channel).getD config.windowMs)

structure PipelineConfig where
  enableDebounce : Bool := true
  enableDedupe : Bool := true
  enableRateLimit : Bool := true
  enableConcurrency : Bool := true
  enableQueue : Bool := true
  enableBatch : Bool := false
  debounce : DebounceConfig := {}
  dedupe : DedupeConfig := {}
  rateLimit : RateLimitConfig := {}
  concurrency : ConcurrencyLimits := {}
  queue : QueueConfig := {}
  batch : BatchConfig := {}

abbrev PipelineKind := BatcherKind

structure PipelineSetup where
  kind : PipelineKind
  config : PipelineConfig
  digests : Digests
  hasHandler : Bool

inductive PipelineResult where
  | debounced | duplicate | rateLimited | concurrencyLimited | queued | batched | rejected
  deriving DecidableEq

inductive Piece where
  | entering (message : PipelineMessage)
  -- A debounce timer's task.
  | flushing (key : BatchKey)
  -- `_on_debounce_flush`: first the messages that a flush just before went through already.
  | passing (again messages : List PipelineMessage)
  -- The debouncer's lock is released.
  | unlocking
  | deduping (message : PipelineMessage) (again : Bool)
  | limiting (message : PipelineMessage)
  | acquiring (message : PipelineMessage)
  | waiting (message : PipelineMessage)
  | placing (message : PipelineMessage) (slot : Option Nat)
  | handling (message : PipelineMessage) (slot : Option Nat)
  -- `_process_batch`.
  | handlingAll (messages : List PipelineMessage)
  -- `process_queued`.
  | draining (items : Nat)
  -- `shutdown`, in its parts.
  | listingBuffers
  | discarding (keys : List BatchKey)
  | listingBatches
  | flushingBatches (keys : List BatchKey)
  | drainingAll
  | clearing
  deriving DecidableEq

structure Pipeline where
  buffers : Batches PipelineMessage
  debounceHolder : Option TaskNo
  deduper : MessageDeduplicator
  limiter : RateLimiter
  concurrency : ConcurrencyController
  queue : MessageQueue
  batches : Batches PipelineMessage
  stack : TaskNo → List Piece
  nextTask : TaskNo
  -- Waiting tasks whose event was set.
  woken : List TaskNo
  -- The event loop waits for a lock that one of its own tasks holds.
  hung : Bool
  closing : Bool
  closed : Bool
  received : List PipelineMessage
  -- Accepted for later, with the answer.
  deferred : List (PipelineMessage × PipelineResult)
  handled : List PipelineMessage
  turnedAway : List (PipelineMessage × PipelineResult)
  -- Dropped by the queue, or by a shutdown.
  dropped : List PipelineMessage

namespace Pipeline

def fresh : Pipeline where
  buffers := Table.empty Batch.key
  debounceHolder := none
  deduper := MessageDeduplicator.empty
  limiter := Table.empty RateCounters.key
  concurrency := ConcurrencyController.empty
  queue := MessageQueue.empty
  batches := Table.empty Batch.key
  stack _ := []
  nextTask := 0
  woken := []
  hung := false
  closing := false
  closed := false
  received := []
  deferred := []
  handled := []
  turnedAway := []
  dropped := []

variable (setup : PipelineSetup) (state : Pipeline) (task : TaskNo)

def continueWith (pieces : List Piece) : Pipeline :=
  { state with stack := Function.update state.stack task pieces }

def spawn (pieces : List Piece) : Pipeline :=
  { state.continueWith state.nextTask pieces with nextTask := state.nextTask + 1 }

def turnAway (message : PipelineMessage) (result : PipelineResult) : Pipeline :=
  { state with turnedAway := state.turnedAway ++ [(message, result)] }

def blocked : Pipeline :=
  match setup.kind with
  | .async => { state with hung := true }
  | .sync => state

/-- `debounce`, with the lock free. With no window, the asyncio class gives what it flushes
to the callback and then again, together with the new message. -/
def debounce (setup : PipelineSetup) (state : Pipeline) (task : TaskNo) (rest : List Piece)
    (message : PipelineMessage) : Pipeline :=
  let key := message.chatId
  let answered := { state with deferred := state.deferred ++ [(message, PipelineResult.debounced)] }
  if setup.config.debounce.debounceMs message.channel ≤ 0 then
    let pending := state.buffers.itemsUnder key
    let flushed := { answered with buffers := state.buffers.erase key }
    match setup.kind with
    | .async => flushed.continueWith task (.passing [] pending :: .passing pending [message] :: rest)
    | .sync => flushed.continueWith task (.passing [] (pending ++ [message]) :: rest)
  else
    let buffer := state.buffers.addTo key message
    if (buffer.items.length : Int) ≥ setup.config.debounce.maxMessages then
      -- The callback runs under the lock.
      { answered with
        buffers := state.buffers.erase key
        debounceHolder := some task }.continueWith task
          (.passing [] buffer.items :: .unlocking :: rest)
    else
      { answered with
        buffers := state.buffers.set { buffer with timed := true } }.continueWith task rest

def pass (rest : List Piece) : List PipelineMessage → List PipelineMessage → Pipeline
  | message :: again, messages =>
      state.continueWith task (.deduping message true :: .passing again messages :: rest)
  | [], message :: messages =>
      state.continueWith task (.deduping message false :: .passing [] messages :: rest)
  | [], [] => state.continueWith task rest

def dedupe (setup : PipelineSetup) (state : Pipeline) (task : TaskNo) (rest : List Piece)
    (message : PipelineMessage) (again : Bool) (now : Time) : Pipeline :=
  if setup.config.enableDedupe then
    let answer := state.deduper.checkAndMark setup.digests setup.config.dedupe message now
    let checked := { state with deduper := answer.2 }
    if answer.1 then
      if again then checked.continueWith task rest
      else (checked.turnAway message .duplicate).continueWith task rest
    else checked.continueWith task (.limiting message :: rest)
  else state.continueWith task (.limiting message :: rest)

def limit (rest : List Piece) (message : PipelineMessage) (now : Time) : Pipeline :=
  if setup.config.enableRateLimit then
    let answer :=
      state.limiter.checkAndConsume setup.config.rateLimit message.channel message.chatId now
    let checked := { state with limiter := answer.2 }
    if answer.1 then checked.continueWith task (.acquiring message :: rest)
    else (checked.turnAway message .rateLimited).continueWith task rest
  else state.continueWith task (.acquiring message :: rest)

def queueMessage (rest : List Piece) (message : PipelineMessage) (now : Time) : Pipeline :=
  if setup.config.enableQueue then
    let answer := state.queue.enqueue setup.digests setup.config.queue message now
    -- What was in the queue and is not any more.
    let gone := (MessageQueue.messages state.queue.items).filter fun old =>
      decide (old ∉ MessageQueue.messages answer.2.items)
    let queued := { state with queue := answer.2, dropped := state.dropped ++ gone }
    if answer.1 then
      { queued with deferred := state.deferred ++ [(message, PipelineResult.queued)] }.continueWith task rest
    else (queued.turnAway message .rejected).continueWith task rest
  else (state.turnAway message .concurrencyLimited).continueWith task rest

def acquire (rest : List Piece) (message : PipelineMessage) (now : Time) : Pipeline :=
  if setup.config.enableConcurrency then
    let answer := state.concurrency.acquireSync setup.config.concurrency message
    match answer.1 with
    | some slot =>
        { state with concurrency := answer.2 }.continueWith task (.placing message (some slot) :: rest)
    | none =>
        if setup.kind = .async ∧ setup.config.concurrency.queueWhenLimited = true then
          { state with concurrency := state.concurrency.awaitSlot message task }.continueWith task
            (.waiting message :: rest)
        else state.queueMessage setup task rest message now
  else state.continueWith task (.placing message none :: rest)

def stopWaiting (setup : PipelineSetup) (state : Pipeline) (task : TaskNo) (rest : List Piece)
    (message : PipelineMessage) (signalled : Bool) (now : Time) : Pipeline :=
  let left := { state with
    concurrency := state.concurrency.stopWaiting message
    woken := state.woken.filter (· ≠ task) }
  if signalled then
    let answer := left.concurrency.acquireSync setup.config.concurrency message
    match answer.1 with
    | some slot =>
        { left with concurrency := answer.2 }.continueWith task (.placing message (some slot) :: rest)
    | none => left.queueMessage setup task rest message now
  else left.queueMessage setup task rest message now

def releaseSlot (slot : Option Nat) : Pipeline :=
  match slot with
  | none => state
  | some slotId =>
      let answer := state.concurrency.release slotId
      { state with concurrency := answer.2, woken := answer.1.toList ++ state.woken }

/-- `_execute_handler`, up to where the handler is called. -/
def callHandler (rest : List Piece) (message : PipelineMessage) (slot : Option Nat) : Pipeline :=
  if setup.hasHandler then
    { state with handled := state.handled ++ [message] }.continueWith task
      (.handling message slot :: rest)
  else ((state.turnAway message .rejected).releaseSlot slot).continueWith task rest

def place (rest : List Piece) (message : PipelineMessage) (slot : Option Nat) : Pipeline :=
  if setup.kind = .async ∧ setup.config.enableBatch = true then
    let batch := state.batches.addTo message.chatId message
    if batch.isFull setup.config.batch then
      -- The batcher's size flush waits for the lock that its own `add` holds.
      { state with batches := state.batches.set batch, hung := true }.continueWith task rest
    else
      ({ state with
        batches := state.batches.set
          { batch with timed := batch.timed || setup.config.batch.timers }
        deferred := state.deferred ++ [(message, PipelineResult.batched)] }.releaseSlot slot).continueWith task rest
  else state.callHandler setup task rest message slot

def drain (rest : List Piece) (now : Time) : Nat → Pipeline
  | 0 => state.continueWith task rest
  | items + 1 =>
      let answer := state.queue.dequeue setup.config.queue now
      let gone := (MessageQueue.messages state.queue.items).filter fun old =>
        decide (old ∉ answer.1.toList ++ MessageQueue.messages answer.2.items)
      let taken := { state with queue := answer.2, dropped := state.dropped ++ gone }
      match answer.1 with
      | none => taken.continueWith task rest
      | some message => taken.continueWith task (.deduping message false :: .draining items :: rest)

def clear (rest : List Piece) : Pipeline :=
  let released :=
    { state with concurrency := { state.concurrency with slots := [] }, closed := true }
  match setup.kind with
  | .sync => released.continueWith task rest
  | .async =>
      { released with
        buffers := Table.empty Batch.key
        deduper := MessageDeduplicator.empty
        queue := MessageQueue.empty
        batches := Table.empty Batch.key
        dropped := state.dropped ++ (state.buffers.rows.flatMap Batch.items ++
          MessageQueue.messages state.queue.items ++ state.batches.rows.flatMap Batch.items)
        }.continueWith task rest

def wantsDebouncer : Piece → Bool
  | .entering _ => setup.config.enableDebounce
  | .flushing _ | .listingBuffers | .discarding (_ :: _) => true
  | .clearing => decide (setup.kind = .async)
  | _ => false

/-- The next piece of a task; `handling` and `waiting` end by events of their own. -/
def perform (now : Time) (rest : List Piece) : Piece → Pipeline
  | .entering message =>
      if setup.config.enableDebounce then state.debounce setup task rest message
      else state.continueWith task (.deduping message false :: rest)
  | .flushing key =>
      { state with buffers := state.buffers.erase key }.continueWith task
        (.passing [] (state.buffers.itemsUnder key) :: rest)
  | .passing again messages => state.pass task rest again messages
  | .unlocking => { state with debounceHolder := none }.continueWith task rest
  | .deduping message again => state.dedupe setup task rest message again now
  | .limiting message => state.limit setup task rest message now
  | .acquiring message => state.acquire setup task rest message now
  | .placing message slot => state.place setup task rest message slot
  | .handlingAll [] => state.continueWith task rest
  | .handlingAll (message :: messages) =>
      state.callHandler setup task (.handlingAll messages :: rest) message none
  | .draining items => state.drain setup task rest now items
  | .listingBuffers => state.continueWith task (.discarding state.buffers.keys :: rest)
  | .discarding [] => state.continueWith task rest
  | .discarding (key :: keys) =>
      -- `flush_all` returns what it takes out, and nobody looks at it.
      { state with
        buffers := state.buffers.erase key
        dropped := state.dropped ++ state.buffers.itemsUnder key }.continueWith task
          (.discarding keys :: rest)
  | .listingBatches => state.continueWith task (.flushingBatches state.batches.keys :: rest)
  | .flushingBatches [] => state.continueWith task rest
  | .flushingBatches (key :: keys) =>
      match state.batches.get? key with
      | none => state.continueWith task (.flushingBatches keys :: rest)
      | some batch =>
          -- The callback only creates the task that will handle the batch.
          ({ state with batches := state.batches.erase key }.continueWith task
            (.flushingBatches keys :: rest)).spawn [.handlingAll batch.items]
  | .drainingAll => state.continueWith task (.draining state.queue.items.length :: rest)
  | .clearing => state.clear setup task rest
  | .waiting message => state.continueWith task (.waiting message :: rest)
  | .handling message slot => state.continueWith task (.handling message slot :: rest)

def run (now : Time) : Pipeline :=
  match state.stack task with
  | [] => state
  | piece :: rest =>
      if wantsDebouncer setup piece = true ∧ state.debounceHolder.isSome = true then
        state.blocked setup
      else state.perform setup task now rest piece

/-- `process()`: from outside, or from a handler that a task is running. -/
def process (caller : Option TaskNo) (draft : PipelineMessage) : Pipeline :=
  let message := { draft with call := state.received.length }
  let noted := { state with received := state.received ++ [message] }
  if state.closing then noted.turnAway message .rejected
  else
    match caller with
    | none => noted.spawn [.entering message]
    | some task => noted.continueWith task (.entering message :: state.stack task)

def expire (key : BatchKey) : Pipeline :=
  match state.buffers.get? key with
  | none => state
  | some buffer =>
      if buffer.timed then
        { state with buffers := state.buffers.set { buffer with timed := false } }.spawn
          [.flushing key]
      else state

def expireBatch (key : BatchKey) : Pipeline :=
  match state.batches.get? key with
  | none => state
  | some batch =>
      if batch.timed then
        { state with batches := state.batches.erase key }.spawn [.handlingAll batch.items]
      else state

inductive Event where
  | process (caller : Option TaskNo) (draft : PipelineMessage)
  | expire (key : BatchKey)
  | expireBatch (key : BatchKey)
  | processQueued (maxItems : Nat)
  | shutdown
  | run (task : TaskNo) (now : Time)
  -- The handler returns or raises.
  | finish (task : TaskNo)
  | wake (task : TaskNo) (now : Time)
  | timeOut (task : TaskNo) (now : Time)
  deriving DecidableEq

def mayCall : Option TaskNo → Bool
  | none => true
  | some task =>
      match state.stack task with
      | .handling _ _ :: _ => true
      | _ => false

def shutdownPieces : List Piece :=
  (if setup.config.enableDebounce then [.listingBuffers] else []) ++
    (if setup.kind = .async ∧ setup.config.enableBatch = true then [.listingBatches] else []) ++
    (if setup.config.enableQueue then [.drainingAll] else []) ++ [.clearing]

def step (event : Event) : Pipeline :=
  if state.hung then state
  else
    match event with
    | .process caller draft => if state.mayCall caller then state.process caller draft else state
    | .expire key => state.expire key
    | .expireBatch key => state.expireBatch key
    | .processQueued maxItems =>
        if setup.config.enableQueue then state.spawn [.draining maxItems] else state
    | .shutdown => { state with closing := true }.spawn (shutdownPieces setup)
    | .run task now => state.run setup task now
    | .finish task =>
        match state.stack task with
        | .handling _ slot :: rest => (state.releaseSlot slot).continueWith task rest
        | _ => state
    | .wake task now =>
        match state.stack task with
        | .waiting message :: rest =>
            if task ∈ state.woken then state.stopWaiting setup task rest message true now else state
        | _ => state
    | .timeOut task now =>
        match state.stack task with
        | .waiting message :: rest => state.stopWaiting setup task rest message false now
        | _ => state

end Pipeline

end Hartos.Queue
