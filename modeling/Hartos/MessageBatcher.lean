import Hartos.KeyedTable
import Mathlib.Logic.Function.Basic

/-!
`MessageBatcher` and `SyncMessageBatcher`: items wait under a key until their batch is
full, its timer expires or it is flushed. Both protect the batches with one lock that
is not reentrant; a locked section without a callback is one step here, so the lock is
seen only where it is held across something else.
-/
namespace Hartos.Queue
open KeyedTable

abbrev BatchKey := String

abbrev TaskNo := Nat

structure BatchConfig where
  maxBatchSize : Int := 10
  maxWaitMs : Int := 5000
  autoFlush : Bool := true
  deriving DecidableEq

def BatchConfig.timers (config : BatchConfig) : Bool :=
  config.autoFlush && decide (config.maxWaitMs > 0)

inductive BatcherKind where
  -- `MessageBatcher`, on asyncio.
  | async
  -- `SyncMessageBatcher`, on threads.
  | sync
  deriving DecidableEq

inductive FlushReason where
  | size | time | manual
  deriving DecidableEq

structure Batch (Item : Type) where
  key : BatchKey
  items : List Item
  -- A timer is running that will flush it.
  timed : Bool := false
  deriving DecidableEq

structure BatchResult (Item : Type) where
  key : BatchKey
  items : List Item
  flushReason : FlushReason
  deriving DecidableEq

variable {Item : Type}

abbrev Batches (Item : Type) := Table (@Batch.key Item)

def Batches.addTo (batches : Batches Item) (key : BatchKey) (item : Item) : Batch Item :=
  match batches.get? key with
  | none => ⟨key, [item], false⟩
  | some batch => { batch with items := batch.items ++ [item] }

def Batches.itemsUnder (batches : Batches Item) (key : BatchKey) : List Item :=
  ((batches.get? key).map Batch.items).getD []
variable (batches : Batches Item) (key : BatchKey)

theorem addTo_key (item : Item) : (batches.addTo key item).key = key := by
  unfold Batches.addTo
  cases found : batches.get? key with
  | none => rfl
  | some batch => exact batches.get?_key key batch found

theorem addTo_items (item : Item) :
    (batches.addTo key item).items = batches.itemsUnder key ++ [item] := by
  unfold Batches.addTo Batches.itemsUnder
  cases batches.get? key <;> rfl

theorem itemsUnder_erase (dropped key : BatchKey) :
    Batches.itemsUnder (batches.erase dropped) key =
      if key = dropped then [] else batches.itemsUnder key := by
  unfold Batches.itemsUnder
  rw [Table.get?_erase]
  split <;> rfl

theorem itemsUnder_set (batch : Batch Item) (key : BatchKey) :
    Batches.itemsUnder (batches.set batch) key =
      if key = batch.key then batch.items else batches.itemsUnder key := by
  unfold Batches.itemsUnder
  rw [Table.get?_set]
  by_cases same : batch.key = key
  · rw [if_pos same, if_pos same.symm]
    rfl
  · rw [if_neg same, if_neg (Ne.symm same)]

def Batch.isFull (config : BatchConfig) (batch : Batch Item) : Bool :=
  decide ((batch.items.length : Int) ≥ config.maxBatchSize)

inductive Frame (Item : Type) where
  | adding (key : BatchKey) (item : Item)
  -- Quietly: `flush_sync`, which returns the batch and calls nobody.
  | flushing (key : BatchKey) (reason : FlushReason) (quietly : Bool)
  | listing (quietly : Bool)
  | flushingAll (keys : List BatchKey) (quietly : Bool)
  -- The batch it took out is not handed to `on_flush` yet.
  | handing
  | inCallback (locked : Bool)
  deriving DecidableEq

def Frame.wantsLock : Frame Item → Bool
  | .adding _ _ | .flushing _ _ _ | .listing _ => true
  | _ => false

inductive BatcherCall (Item : Type) where
  | add (key : BatchKey) (item : Item)
  | flush (key : BatchKey)
  | flushSync (key : BatchKey)
  | flushAll
  | flushAllSync
  deriving DecidableEq

def BatcherCall.entry (kind : BatcherKind) : BatcherCall Item → Option (Frame Item)
  | .add key item => some (.adding key item)
  | .flush key => some (.flushing key .manual false)
  | .flushAll => some (.listing false)
  | .flushSync key => if kind = .async then some (.flushing key .manual true) else none
  | .flushAllSync => if kind = .async then some (.listing true) else none

structure BatcherSetup where
  kind : BatcherKind
  config : BatchConfig
  hasCallback : Bool
  deriving DecidableEq

structure Batcher (Item : Type) where
  batches : Batches Item
  -- The task that holds the lock while it does something else.
  holder : Option TaskNo
  stack : TaskNo → List (Frame Item)
  -- Batches taken out and not handed over yet, the oldest first.
  taken : List (TaskNo × BatchResult Item)
  delivered : List (BatchResult Item)
  arrived : List (BatchKey × Item)
  -- The batch of a timer's task, which its own `cancel_timer` has cancelled.
  cancelled : TaskNo → Option (BatchResult Item)
  -- Batches whose callback was cut off.
  lost : List (BatchResult Item)

namespace Batcher

def idle : Batcher Item :=
  ⟨Table.empty Batch.key, none, fun _ => [], [], [], [], fun _ => none, []⟩

variable (state : Batcher Item) (setup : BatcherSetup) (task : TaskNo)

def continueWith (frames : List (Frame Item)) : Batcher Item :=
  { state with stack := Function.update state.stack task frames }

/-- The batch goes to the caller of the flush, or to `on_flush` under the lock. -/
def deliver (result : BatchResult Item) : Batcher Item :=
  { state with delivered := state.delivered ++ [result] }

/-- `_flush_batch` and `_flush_batch_locked`, from the locked section on. -/
def flushBatch (state : Batcher Item) (task : TaskNo) (rest : List (Frame Item)) (key : BatchKey)
    (reason : FlushReason) (quietly : Bool) :
    Batcher Item :=
  match state.batches.get? key with
  | none => state.continueWith task rest
  | some batch =>
      let result : BatchResult Item := ⟨key, batch.items, reason⟩
      let emptied := { state with batches := state.batches.erase key }
      if batch.items = [] then emptied.continueWith task rest
      else if quietly then (emptied.deliver result).continueWith task rest
      else if setup.kind = .async ∨ reason = .time then
        -- The callback is called after the lock is released.
        { emptied with taken := state.taken ++ [(task, result)] }.continueWith task
          (.handing :: rest)
      else if setup.hasCallback then
        { emptied.deliver result with holder := some task }.continueWith task
          (.inCallback true :: rest)
      else (emptied.deliver result).continueWith task rest

def addItem (state : Batcher Item) (task : TaskNo) (rest : List (Frame Item)) (key : BatchKey)
    (item : Item) : Batcher Item :=
  let batch := state.batches.addTo key item
  let grown :=
    { state with
      batches := state.batches.set batch
      arrived := state.arrived ++ [(key, item)] }
  if batch.isFull setup.config then
    match setup.kind with
    | .async =>
        -- `_flush_batch` begins with the lock that `add` still holds.
        { grown with holder := some task }.continueWith task (.flushing key .size false :: rest)
    | .sync => grown.flushBatch setup task rest key .size false
  else
    { grown with
      batches := state.batches.set { batch with timed := batch.timed || setup.config.timers }
      }.continueWith task rest

/-- What follows the locked section of a flush; a timer without `on_flush` drops its batch. -/
def handOver (state : Batcher Item) (task : TaskNo) (rest : List (Frame Item)) : Batcher Item :=
  match state.taken.find? (fun entry => decide (entry.1 = task)) with
  | none => state.continueWith task rest
  | some entry =>
      let left := { state with taken := state.taken.eraseP fun entry => decide (entry.1 = task) }
      if setup.hasCallback then
        -- On asyncio the timer's task took the batch out and cancelled itself with it.
        let cancelled :=
          if setup.kind = .async ∧ entry.2.flushReason = .time then
            Function.update state.cancelled task (some entry.2)
          else state.cancelled
        { left.deliver entry.2 with cancelled := cancelled }.continueWith task
          (.inCallback false :: rest)
      else if entry.2.flushReason = .time then left.continueWith task rest
      else (left.deliver entry.2).continueWith task rest

def release (locked : Bool) : Batcher Item :=
  if locked then { state with holder := none } else state

def advance (state : Batcher Item) (task : TaskNo) : Batcher Item :=
  match state.stack task with
  | [] => state
  | .adding key item :: rest =>
      if state.holder = none then state.addItem setup task rest key item else state
  | .flushing key reason quietly :: rest =>
      if state.holder = none then state.flushBatch setup task rest key reason quietly else state
  | .listing quietly :: rest =>
      if state.holder = none then
        state.continueWith task (.flushingAll state.batches.keys quietly :: rest)
      else state
  | .flushingAll [] _ :: rest => state.continueWith task rest
  | .flushingAll (key :: keys) quietly :: rest =>
      state.continueWith task (.flushing key .manual quietly :: .flushingAll keys quietly :: rest)
  | .handing :: rest => state.handOver setup task rest
  | .inCallback locked :: rest => (state.release locked).continueWith task rest

/-- The callback raises: `_flush_batch` catches it, the threads' class lets it through a
`flush_all` as well. -/
def raise (state : Batcher Item) (task : TaskNo) : Batcher Item :=
  match state.stack task with
  | .inCallback locked :: .flushingAll keys quietly :: rest =>
      if setup.kind = .async then
        (state.release locked).continueWith task (.flushingAll keys quietly :: rest)
      else (state.release locked).continueWith task rest
  | .inCallback locked :: rest => (state.release locked).continueWith task rest
  | _ => state

/-- The callback awaits something that is not there yet: a cancelled task gets its
`CancelledError` here, which ends everything it was doing. -/
def suspend : Batcher Item :=
  match state.cancelled task, state.stack task with
  | some result, .inCallback _ :: _ =>
      { state with lost := state.lost ++ [result] }.continueWith task []
  | _, _ => state

inductive Event (Item : Type) where
  -- A task starts with this call, or its callback makes it.
  | call (task : TaskNo) (operation : BatcherCall Item)
  | expire (task : TaskNo) (key : BatchKey)
  | run (task : TaskNo)
  | raise (task : TaskNo)
  | suspend (task : TaskNo)
  deriving DecidableEq

def mayCall : Bool :=
  match state.stack task with
  | [] | .inCallback _ :: _ => true
  | _ => false

def started : Batcher Item :=
  if (state.stack task).isEmpty then
    { state with cancelled := Function.update state.cancelled task none }
  else state

def expireTimer (key : BatchKey) : Batcher Item :=
  match state.batches.get? key, state.stack task with
  | some batch, [] =>
      if batch.timed then
        { state with batches := state.batches.set { batch with timed := false } }.continueWith task
          [.flushing key .time false]
      else state
  | _, _ => state

def step (state : Batcher Item) : Event Item → Batcher Item
  | .call task operation =>
      match operation.entry setup.kind with
      | none => state
      | some frame =>
          if state.mayCall task then
            (state.started task).continueWith task (frame :: state.stack task)
          else state
  | .expire task key => (state.started task).expireTimer task key
  | .run task => state.advance setup task
  | .raise task => state.raise setup task
  | .suspend task => state.suspend task

def waitsForItself : Bool :=
  decide (state.holder = some task) && (state.stack task).head?.any Frame.wantsLock

end Batcher

end Hartos.Queue
