import Hartos.PipelinePlaces

/-!
Every piece and every event of a pipeline leaves each message in one place, as long as
the deduplicator knows the messages that a flush gives to the callback again. So no
message is handled twice.
-/
namespace Hartos.Queue
open KeyedTable StepSystem Whereabouts

namespace Pipeline

section Pieces
variable {setup : PipelineSetup} {state : Pipeline} {task : TaskNo} {piece : Piece}
  {rest : List Piece} {now : Time}

section

variable (placed : Placed state)
include placed

theorem pass_placed (again messages : List PipelineMessage)
    (here : state.stack task = .passing again messages :: rest) :
    Placed (state.pass task rest again messages) := by
  unfold pass
  split
  · exact placed.onward here _ (by simp [Piece.messages])
  · exact placed.onward here _ (by simp [Piece.messages])
  · exact placed.onward here _ (by simp [Piece.messages])

variable (message : PipelineMessage)

theorem dedupe_placed (again : Bool) (here : state.stack task = .deduping message again :: rest)
    (known : again = true → setup.config.enableDedupe = true ∧
      (state.deduper.checkAndMark setup.digests setup.config.dedupe message now).1 = true) :
    Placed (state.dedupe setup task rest message again now) := by
  have checked : Placed { state with
      deduper := (state.deduper.checkAndMark setup.digests setup.config.dedupe message now).2 } :=
    placed.relabel rfl rfl rfl rfl
  unfold dedupe
  cases again with
  | true =>
    rw [if_pos (known rfl).1]
    rw [if_pos (known rfl).2, if_pos rfl]
    exact checked.onward here _ (by simp [Piece.messages])
  | false =>
    split
    · dsimp only
      split
      · exact checked.away here message (by simp [Piece.messages]) .duplicate rest rfl
      · exact checked.onward here _ (by simp [Piece.messages])
    · exact placed.onward here _ (by simp [Piece.messages])

theorem limit_placed (here : state.stack task = .limiting message :: rest) :
    Placed (state.limit setup task rest message now) := by
  have checked : Placed { state with limiter := (state.limiter.checkAndConsume
      setup.config.rateLimit message.channel message.chatId now).2 } :=
    placed.relabel rfl rfl rfl rfl
  unfold limit
  split
  · dsimp only
    split
    · exact checked.onward here _ (by simp [Piece.messages])
    · exact checked.away here message rfl .rateLimited rest rfl
  · exact placed.onward here _ (by simp [Piece.messages])

theorem Placed.thinned (kept : List QueuedMessage) (inside : kept.Sublist state.queue.items)
    (queue : MessageQueue) (items : queue.items = kept) :
    Placed { state with
      queue := queue
      dropped := state.dropped ++ (MessageQueue.messages state.queue.items).filter fun old =>
        decide (old ∉ MessageQueue.messages kept) } := by
  have distinct : (MessageQueue.messages state.queue.items).Nodup := placed.places.single .queue
  have sublist : (MessageQueue.messages kept).Sublist (MessageQueue.messages state.queue.items) :=
    inside.map _
  refine ⟨?_, placed.idle, placed.numbered⟩
  change Partition (contentsOf state.buffers state.stack queue.items state.batches state.handled
    state.turnedAway (state.dropped ++ _)) state.received
  rw [items, contentsOf_dropped, contentsOf_queued _ _ state.queue.items]
  apply placed.places.exchange (by simp)
  refine (List.perm_append_comm.append_left _).trans ?_
  rw [← List.append_assoc]
  exact (perm_kept_gone _ _ distinct (distinct.sublist sublist) fun _ member =>
    sublist.subset member).append_right _

theorem queueMessage_placed (here : state.stack task = piece :: rest)
    (one : piece.messages = [message]) :
    Placed (state.queueMessage setup task rest message now) := by
  unfold queueMessage
  split
  · dsimp only
    rcases MessageQueue.enqueue_items setup.digests setup.config.queue state.queue message now with
      ⟨refused, sublist⟩ | ⟨accepted, kept, sublist, arranged⟩
    · rw [refused, if_neg Bool.false_ne_true]
      exact (placed.thinned _ sublist _ rfl).away here message one .rejected rest rfl
    · rw [accepted, if_pos rfl]
      generalize (state.queue.enqueue setup.digests setup.config.queue message now).2 = queue
        at arranged ⊢
      have thinner := placed.thinned kept sublist { queue with items := kept } rfl
      have mine : message ∈ state.contents (.task task) := by
        rw [contents_task here, one]
        simp
      -- The new item is not among those that were there.
      have gone : ((MessageQueue.messages state.queue.items).filter fun old =>
            decide (old ∉ MessageQueue.messages queue.items)) =
          (MessageQueue.messages state.queue.items).filter fun old =>
            decide (old ∉ MessageQueue.messages kept) := by
        apply List.filter_congr
        intro old member
        have other : old ≠ message := by
          rintro rfl
          have same := placed.places.apart .queue (.task task) old member mine
          cases same
        have both : old ∈ MessageQueue.messages queue.items ↔ old ∈ MessageQueue.messages kept := by
          rw [MessageQueue.messages, (arranged.map QueuedMessage.message).mem_iff]
          simp [other, MessageQueue.messages]
        exact decide_eq_decide.mpr (not_congr both)
      refine thinner.trade here rest .queue (MessageQueue.messages queue.items) rfl rfl rfl
        (by simp) ?_ ?_
      · rw [gone]
        change contentsOf _ (Function.update state.stack task rest) _ _ _ _ _ = _
        rw [contentsOf_queued _ _ kept, contentsOf_stack]
        rfl
      · rw [one]
        refine ((arranged.map QueuedMessage.message).append_left _).trans ?_
        rw [List.map_append]
        exact perm_handed message _ _
  · exact placed.away here message one .concurrencyLimited rest rfl

theorem acquire_placed (here : state.stack task = .acquiring message :: rest) :
    Placed (state.acquire setup task rest message now) := by
  have controlled (controller : ConcurrencyController) :
      Placed { state with concurrency := controller } := placed.relabel rfl rfl rfl rfl
  unfold acquire
  split
  · dsimp only
    split
    · rename_i slot _
      exact (controlled (state.concurrency.acquireSync setup.config.concurrency message).2).onward here
        (.placing message (some slot) :: rest) (by simp [Piece.messages])
    · split
      · exact (controlled (state.concurrency.awaitSlot message task)).onward here
          (.waiting message :: rest) (by simp [Piece.messages])
      · exact queueMessage_placed placed message here rfl
  · exact placed.onward here _ (by simp [Piece.messages])

theorem stopWaiting_placed (signalled : Bool) (here : state.stack task = .waiting message :: rest) :
    Placed (state.stopWaiting setup task rest message signalled now) := by
  have left : Placed { state with
      concurrency := state.concurrency.stopWaiting message
      woken := state.woken.filter (· ≠ task) } := placed.relabel rfl rfl rfl rfl
  unfold stopWaiting
  dsimp only
  split
  · split
    · rename_i slot _
      have controlled : Placed { state with
          concurrency := ((state.concurrency.stopWaiting message).acquireSync
            setup.config.concurrency message).2
          woken := state.woken.filter (· ≠ task) } := left.relabel rfl rfl rfl rfl
      exact controlled.onward here (.placing message (some slot) :: rest) (by simp [Piece.messages])
    · exact queueMessage_placed left message here rfl
  · exact queueMessage_placed left message here rfl

end

theorem releaseSlot_same (state : Pipeline) (slot : Option Nat) :
    (state.releaseSlot slot).contents = state.contents ∧
      (state.releaseSlot slot).received = state.received ∧
      (state.releaseSlot slot).nextTask = state.nextTask ∧
      (state.releaseSlot slot).stack = state.stack := by
  cases slot <;> exact ⟨rfl, rfl, rfl, rfl⟩

section

variable (placed : Placed state)
include placed

variable (key : BatchKey) (message : PipelineMessage) (slot : Option Nat)

theorem Placed.released : Placed (state.releaseSlot slot) :=
  have same := releaseSlot_same state slot
  placed.relabel same.1 same.2.1 same.2.2.1 same.2.2.2

theorem callHandler_placed (here : state.stack task = piece :: rest) (pieces : List Piece)
    (messages : piece.messages ++ rest.flatMap Piece.messages =
      message :: pieces.flatMap Piece.messages) :
    Placed (state.callHandler setup task pieces message slot) := by
  unfold callHandler
  split
  · refine placed.trade here _ .handled (state.handled ++ [message]) rfl rfl rfl (by simp) ?_ ?_
    · rw [contents_continueWith, Function.update_comm (by simp)]
      exact congrArg (Function.update · _ _) (contentsOf_handled _ _ _ _ _ _ _ message)
    · rw [messages]
      exact perm_handed message _ _
  · have released : (state.turnAway message .rejected).releaseSlot slot =
        (state.releaseSlot slot).turnAway message .rejected := by
      cases slot <;> rfl
    rw [released]
    have placed' := placed.released slot
    have here' : (state.releaseSlot slot).stack task = piece :: rest := by
      rw [(releaseSlot_same state slot).2.2.2, here]
    refine placed'.trade here' _ .away ((state.releaseSlot slot).contents .away ++ [message]) rfl rfl
      rfl (by simp) ?_ ?_
    · rw [contents_continueWith, Function.update_comm (by simp)]
      exact congrArg (Function.update · _ _) (contentsOf_away _ _ _ _ _ _ _ message .rejected)
    · rw [messages]
      exact perm_handed message _ _

theorem place_placed (here : state.stack task = .placing message slot :: rest) :
    Placed (state.place setup task rest message slot) := by
  have named := addTo_key state.batches message.chatId message
  have joined := addTo_items state.batches message.chatId message
  unfold place
  split
  · -- A batch of the chat with the message at its end, and the task without it.
    have batched (batch : Batch PipelineMessage) (key : batch.key = message.chatId)
        (items : batch.items = state.batches.itemsUnder message.chatId ++ [message])
        (after : Pipeline) (received : after.received = state.received)
        (next : after.nextTask = state.nextTask)
        (stack : after.stack = Function.update state.stack task rest)
        (contents : after.contents = contentsOf state.buffers (Function.update state.stack task rest)
          state.queue.items (state.batches.set batch) state.handled state.turnedAway state.dropped) :
        Placed after := by
      refine placed.trade here rest (.batch batch.key) batch.items received next stack (by simp)
        ?_ ?_
      · rw [contents, contentsOf_batches_set, contentsOf_stack]
        rfl
      · rw [key, items]
        exact perm_handed message _ _
    dsimp only
    split
    · exact batched _ named joined _ rfl rfl rfl rfl
    · apply batched { state.batches.addTo message.chatId message with
        timed := (state.batches.addTo message.chatId message).timed || setup.config.batch.timers }
        named joined
      · cases slot <;> rfl
      · cases slot <;> rfl
      · cases slot <;> rfl
      · cases slot <;> rfl
  · exact callHandler_placed placed message slot here rest rfl

theorem drain_placed (items : Nat) (here : state.stack task = .draining items :: rest) :
    Placed (state.drain setup task rest now items) := by
  unfold drain
  cases items with
  | zero => exact placed.onward here rest (by simp [Piece.messages])
  | succ items =>
    obtain ⟨kept, sublist, split⟩ :=
      MessageQueue.dequeue_items setup.config.queue state.queue now
    dsimp only
    rw [split]
    have thinner := placed.thinned kept sublist
      { (state.queue.dequeue setup.config.queue now).2 with items := kept } rfl
    generalize state.queue.dequeue setup.config.queue now = answer at split thinner ⊢
    obtain ⟨taken, queue⟩ := answer
    cases taken with
    | none =>
      have same : MessageQueue.messages queue.items = MessageQueue.messages kept := split
      have emptied : Placed { state with
          queue := queue
          dropped := state.dropped ++ (MessageQueue.messages state.queue.items).filter fun old =>
            decide (old ∉ MessageQueue.messages kept) } := by
        refine thinner.relabel ?_ rfl rfl rfl
        funext place
        cases place with
        | queue => exact same
        | _ => rfl
      exact emptied.onward here rest (by simp [Piece.messages])
    | some message =>
      refine thinner.trade here (.deduping message false :: .draining items :: rest) .queue
        (MessageQueue.messages queue.items) rfl rfl rfl (by simp) ?_ ?_
      · change contentsOf _ (Function.update state.stack task _) _ _ _ _ _ = _
        rw [contentsOf_queued _ _ kept, contentsOf_stack]
        rfl
      · change ((message :: rest.flatMap Piece.messages) ++ MessageQueue.messages queue.items).Perm
          (rest.flatMap Piece.messages ++ MessageQueue.messages kept)
        rw [← split]
        exact List.perm_middle.symm

theorem debounce_placed (here : state.stack task = .entering message :: rest) :
    Placed (state.debounce setup task rest message) := by
  have named := addTo_key state.buffers message.chatId message
  have joined := addTo_items state.buffers message.chatId message
  have taken (pieces : List Piece) (after : Pipeline) (received : after.received = state.received)
      (next : after.nextTask = state.nextTask)
      (stack : after.stack = Function.update state.stack task pieces)
      (contents : after.contents = contentsOf (state.buffers.erase message.chatId)
        (Function.update state.stack task pieces) state.queue.items state.batches state.handled
        state.turnedAway state.dropped)
      (all : pieces.flatMap Piece.messages = state.buffers.itemsUnder message.chatId ++
        ([message] ++ rest.flatMap Piece.messages)) : Placed after := by
    refine placed.trade here pieces (.buffer message.chatId) [] received next stack (by simp) ?_ ?_
    · rw [contents, contentsOf_buffers_erase, contentsOf_stack]
      rfl
    · rw [all, List.append_nil]
      exact List.perm_append_comm
  unfold debounce
  dsimp only
  split
  · split
    · exact taken _ _ rfl rfl rfl rfl (by simp [Piece.messages])
    · exact taken _ _ rfl rfl rfl rfl (by simp [Piece.messages])
  · split
    · exact taken _ _ rfl rfl rfl rfl (by simp [Piece.messages, joined])
    · refine placed.trade here rest (.buffer (state.buffers.addTo message.chatId message).key)
        (state.buffers.addTo message.chatId message).items rfl rfl rfl (by simp) ?_ ?_
      · change contentsOf (state.buffers.set { state.buffers.addTo message.chatId message with
          timed := true }) (Function.update state.stack task rest) _ _ _ _ _ = _
        rw [contentsOf_buffers_set, contentsOf_stack]
        rfl
      · rw [named, joined]
        exact perm_handed message _ _

/-- What waited in a buffer goes on with the task, or is dropped. -/
theorem flushing_placed (here : state.stack task = .flushing key :: rest) :
    Placed ({ state with buffers := state.buffers.erase key }.continueWith task
      (.passing [] (state.buffers.itemsUnder key) :: rest)) := by
  refine placed.trade here _ (.buffer key) [] rfl rfl rfl (by simp) ?_ ?_
  · change contentsOf (state.buffers.erase key) (Function.update state.stack task _) _ _ _ _ _ = _
    rw [contentsOf_buffers_erase, contentsOf_stack]
    rfl
  · rw [List.append_nil]
    exact List.perm_append_comm

theorem discarding_placed (keys : List BatchKey)
    (here : state.stack task = .discarding (key :: keys) :: rest) :
    Placed ({ state with
      buffers := state.buffers.erase key
      dropped := state.dropped ++ state.buffers.itemsUnder key }.continueWith task
        (.discarding keys :: rest)) := by
  have moved := placed.onward here (.discarding keys :: rest) (by simp [Piece.messages])
  refine ⟨?_, moved.idle, moved.numbered⟩
  change Partition (contentsOf (state.buffers.erase key) (Function.update state.stack task _) _ _ _ _
    (state.dropped ++ _)) state.received
  rw [contentsOf_dropped, contentsOf_buffers_erase]
  apply moved.places.exchange (by simp)
  rw [List.nil_append]
  exact List.perm_append_comm

end

theorem itemsUnder_found {batches : Batches PipelineMessage} {key : BatchKey}
    {batch : Batch PipelineMessage} (found : batches.get? key = some batch) :
    batches.itemsUnder key = batch.items := by
  rw [Batches.itemsUnder, found]
  rfl

section

variable (placed : Placed state)
include placed

theorem Placed.nothing : state.contents (.task state.nextTask) = [] := by
  change (state.stack state.nextTask).flatMap Piece.messages = []
  rw [placed.idle state.nextTask (Nat.le_refl state.nextTask)]
  rfl

variable (key : BatchKey) (pieces : List Piece)

theorem Placed.later {other : TaskNo} (later : state.nextTask + 1 ≤ other) :
    Function.update state.stack state.nextTask pieces other = [] := by
  rw [Function.update_of_ne (Nat.ne_of_gt later)]
  exact placed.idle other (Nat.le_of_lt later)

theorem Placed.spawnBatch (batch : Batch PipelineMessage)
    (found : state.batches.get? key = some batch) :
    Placed ({ state with batches := state.batches.erase key }.spawn [.handlingAll batch.items]) := by
  refine ⟨?_, fun other later => ?_, placed.numbered⟩
  · change Partition (contentsOf _ (Function.update state.stack state.nextTask _) _
      (state.batches.erase key) _ _ _) state.received
    rw [contentsOf_stack, contentsOf_batches_erase, Function.update_comm (by simp)]
    apply placed.places.exchange (by simp)
    rw [placed.nothing]
    change (batch.items ++ [] ++ []).Perm ([] ++ state.batches.itemsUnder key)
    rw [itemsUnder_found found]
    simp
  · exact placed.later [.handlingAll batch.items] later

theorem Placed.spawnIdle (nothing : pieces.flatMap Piece.messages = []) :
    Placed (state.spawn pieces) := by
  refine ⟨?_, fun other later => ?_, placed.numbered⟩
  · change Partition (contentsOf _ (Function.update state.stack state.nextTask pieces) _ _ _ _ _)
      state.received
    rw [contentsOf_stack, nothing]
    apply placed.places.shuffle
    rw [placed.nothing]
  · exact placed.later pieces later

theorem flushingBatches_placed (keys : List BatchKey)
    (here : state.stack task = .flushingBatches (key :: keys) :: rest) :
    Placed (state.perform setup task now rest (.flushingBatches (key :: keys))) := by
  have moved := placed.onward here (.flushingBatches keys :: rest) (by simp [Piece.messages])
  unfold perform
  dsimp only
  cases found : state.batches.get? key with
  | none => exact moved
  | some batch => exact moved.spawnBatch key batch found

end

theorem keys_flatMap (batches : Batches PipelineMessage) :
    batches.keys.flatMap batches.itemsUnder = batches.rows.flatMap Batch.items := by
  rw [Table.keys, List.flatMap_map]
  apply List.flatMap_congr
  intro batch member
  exact itemsUnder_found (batches.mem_get? batch member)

theorem Placed.emptied (placed : Placed state) (deduper : MessageDeduplicator)
    (concurrency : ConcurrencyController) :
    Placed { state with
      concurrency := concurrency
      closed := true
      buffers := Table.empty Batch.key
      deduper := deduper
      queue := MessageQueue.empty
      batches := Table.empty Batch.key
      dropped := state.dropped ++ (state.buffers.rows.flatMap Batch.items ++
        MessageQueue.messages state.queue.items ++ state.batches.rows.flatMap Batch.items) } := by
  refine ⟨?_, placed.idle, placed.numbered⟩
  apply placed.places.rearrange
    (.dropped :: .queue :: (state.buffers.keys.map Place.buffer ++ state.batches.keys.map Place.batch))
  · have buffers : (state.buffers.keys.map Place.buffer).Nodup :=
      state.buffers.unique.map fun _ _ same => Place.buffer.inj same
    have batches : (state.batches.keys.map Place.batch).Nodup :=
      state.batches.unique.map fun _ _ same => Place.batch.inj same
    simp [List.nodup_append, buffers, batches]
  · simp only [List.flatMap_cons, List.flatMap_append, List.flatMap_map]
    have buffers := keys_flatMap state.buffers
    have batches := keys_flatMap state.batches
    simp only [contents, contentsOf] at *
    rw [buffers, batches]
    have none' (keys : List BatchKey) :
        keys.flatMap (Batches.itemsUnder (Table.empty (@Batch.key PipelineMessage))) = [] := by
      rw [List.flatMap_eq_nil_iff]
      intro key _
      rfl
    rw [none', none']
    simp only [MessageQueue.empty, MessageQueue.messages, List.map_nil, List.append_nil,
      List.append_assoc]
    apply List.Perm.append_left
    rw [← List.append_assoc, ← List.append_assoc]
    exact List.perm_append_comm.append_right _
  · intro place outside
    cases place with
    | buffer key =>
      have absent : key ∉ state.buffers.keys := by
        intro present
        simp [present] at outside
      change [] = state.buffers.itemsUnder key
      rw [Batches.itemsUnder, (Table.get?_none state.buffers key).mpr absent]
      rfl
    | batch key =>
      have absent : key ∉ state.batches.keys := by
        intro present
        simp [present] at outside
      change [] = state.batches.itemsUnder key
      rw [Batches.itemsUnder, (Table.get?_none state.batches key).mpr absent]
      rfl
    | queue => simp at outside
    | dropped => simp at outside
    | _ => rfl

theorem clear_placed (placed : Placed state) (here : state.stack task = .clearing :: rest) :
    Placed (state.clear setup task rest) := by
  have moved := placed.onward here rest (by simp [Piece.messages])
  unfold clear
  split
  · exact moved.relabel rfl rfl rfl rfl
  · exact moved.emptied MessageDeduplicator.empty { state.concurrency with slots := [] }

theorem Placed.join (placed : Placed state) (draft : PipelineMessage) (place : Place)
    (things : List PipelineMessage) {after : Pipeline}
    (received : after.received = state.received ++ [{ draft with call := state.received.length }])
    (idle : ∀ task, after.nextTask ≤ task → after.stack task = [])
    (contents : after.contents = Function.update state.contents place things)
    (joined : things.Perm
      ({ draft with call := state.received.length } :: state.contents place)) : Placed after := by
  have fresh : { draft with call := state.received.length } ∉ state.received := fun member =>
    Nat.lt_irrefl _ (placed.numbered _ member)
  refine ⟨?_, idle, fun message member => ?_⟩
  · rw [contents, received]
    apply placed.places.arrive place _ fresh
    · rw [Function.update_self]
      exact joined
    · intro other different
      exact Function.update_of_ne different _ _
  · rw [received] at member ⊢
    rw [List.length_append, List.length_singleton]
    rcases List.mem_append.mp member with old | new
    · exact Nat.lt_succ_of_lt (placed.numbered message old)
    · rw [List.mem_singleton.mp new]
      exact Nat.lt_succ_self _

theorem process_placed (placed : Placed state) (caller : Option TaskNo) (draft : PipelineMessage)
    (may : state.mayCall caller = true) : Placed (state.process caller draft) := by
  unfold process
  split
  · refine placed.join draft .away _ rfl placed.idle
      (contentsOf_away _ _ _ _ _ _ _ _ .rejected) ?_
    exact List.perm_append_singleton _ _
  · cases caller with
    | none =>
      refine placed.join draft (.task state.nextTask) _ rfl
        (fun other later => placed.later [.entering _] later) (contentsOf_stack _ _ _ _ _ _ _ _ _) ?_
      rw [placed.nothing]
      exact List.Perm.refl _
    | some caller =>
      refine placed.join draft (.task caller) _ rfl (fun other later => ?_)
        (contentsOf_stack _ _ _ _ _ _ _ _ _) (List.Perm.refl _)
      refine (Function.update_of_ne ?_ _ _).trans (placed.idle other later)
      rintro rfl
      rw [mayCall, placed.idle other later] at may
      cases may

theorem expire_placed (placed : Placed state) (key : BatchKey) : Placed (state.expire key) := by
  unfold expire
  cases found : state.buffers.get? key with
  | none => exact placed
  | some buffer =>
    dsimp only
    split
    · have named : buffer.key = key := state.buffers.get?_key key buffer found
      have stopped : Placed { state with
          buffers := state.buffers.set { buffer with timed := false } } := by
        refine placed.relabel ?_ rfl rfl rfl
        change contentsOf (state.buffers.set { buffer with timed := false }) _ _ _ _ _ _ = _
        rw [contentsOf_buffers_set]
        apply Function.update_eq_self_iff.mpr
        change buffer.items = state.buffers.itemsUnder buffer.key
        rw [named, itemsUnder_found found]
      exact stopped.spawnIdle [.flushing key] rfl
    · exact placed

theorem expireBatch_placed (placed : Placed state) (key : BatchKey) :
    Placed (state.expireBatch key) := by
  unfold expireBatch
  cases found : state.batches.get? key with
  | none => exact placed
  | some batch =>
    dsimp only
    split
    · exact placed.spawnBatch key batch found
    · exact placed

theorem shutdownPieces_messages (setup : PipelineSetup) :
    (shutdownPieces setup).flatMap Piece.messages = [] := by
  unfold shutdownPieces
  split <;> split <;> split <;> rfl

def recognised (setup : PipelineSetup) (state : Pipeline) : Event → Bool
  | .run task now =>
      match state.stack task with
      | .deduping message true :: _ =>
          setup.config.enableDedupe &&
            state.deduper.isDuplicate setup.digests setup.config.dedupe message now
      | _ => true
  | _ => true

theorem checkAndMark_answer (digests : Digests) (config : DedupeConfig)
    (deduper : MessageDeduplicator) (message : PipelineMessage) (now : Time) :
    (deduper.checkAndMark digests config message now).1 =
      deduper.isDuplicate digests config message now := by
  rw [MessageDeduplicator.checkAndMark, MessageDeduplicator.isDuplicate]
  split
  · rfl
  · rename_i unknown
    exact (Bool.not_eq_true _ ▸ unknown).symm

theorem perform_placed (placed : Placed state) (here : state.stack task = piece :: rest)
    (known : recognised setup state (.run task now) = true) :
    Placed (state.perform setup task now rest piece) := by
  cases piece with
  | entering message =>
    unfold perform
    dsimp only
    split
    · exact debounce_placed placed message here
    · exact placed.onward here _ (by simp [Piece.messages])
  | flushing key => exact flushing_placed placed key here
  | passing again messages => exact pass_placed placed again messages here
  | unlocking =>
    have unlocked : Placed { state with debounceHolder := none } :=
      placed.relabel rfl rfl rfl rfl
    exact unlocked.onward here rest rfl
  | deduping message again =>
    apply dedupe_placed placed message again here
    rintro rfl
    rw [recognised, here] at known
    rw [checkAndMark_answer]
    exact Bool.and_eq_true_iff.mp known
  | limiting message => exact limit_placed placed message here
  | acquiring message => exact acquire_placed placed message here
  | waiting message => exact placed.onward here _ rfl
  | placing message slot => exact place_placed placed message slot here
  | handling message slot => exact placed.onward here _ rfl
  | handlingAll messages =>
    cases messages with
    | nil => exact placed.onward here rest rfl
    | cons message messages => exact callHandler_placed placed message none here _ rfl
  | draining items => exact drain_placed placed items here
  | listingBuffers => exact placed.onward here _ rfl
  | discarding keys =>
    cases keys with
    | nil => exact placed.onward here rest rfl
    | cons key keys => exact discarding_placed placed key keys here
  | listingBatches => exact placed.onward here _ rfl
  | flushingBatches keys =>
    cases keys with
    | nil => exact placed.onward here rest rfl
    | cons key keys => exact flushingBatches_placed placed key keys here
  | drainingAll => exact placed.onward here _ rfl
  | clearing => exact clear_placed placed here

theorem run_placed (placed : Placed state)
    (known : recognised setup state (.run task now) = true) :
    Placed (state.run setup task now) := by
  unfold run
  split
  · exact placed
  · rename_i piece rest here
    split
    · unfold blocked
      split
      · exact placed.relabel rfl rfl rfl rfl
      · exact placed
    · exact perform_placed placed here known

theorem step_placed (placed : Placed state) (event : Event)
    (known : recognised setup state event = true) : Placed (state.step setup event) := by
  unfold step
  split
  · exact placed
  · cases event with
    | process caller draft =>
      dsimp only
      split
      · rename_i may
        exact process_placed placed caller draft may
      · exact placed
    | expire key => exact expire_placed placed key
    | expireBatch key => exact expireBatch_placed placed key
    | processQueued maxItems =>
      dsimp only
      split
      · exact placed.spawnIdle [.draining maxItems] rfl
      · exact placed
    | shutdown =>
      have shut : Placed { state with closing := true } := placed.relabel rfl rfl rfl rfl
      exact shut.spawnIdle (shutdownPieces setup) (shutdownPieces_messages setup)
    | run task now => exact run_placed placed known
    | finish task =>
      dsimp only
      split
      · rename_i message slot rest here
        have here' : (state.releaseSlot slot).stack task = .handling message slot :: rest := by
          rw [(releaseSlot_same state slot).2.2.2, here]
        exact (placed.released slot).onward here' rest rfl
      · exact placed
    | wake task now =>
      dsimp only
      split
      · rename_i message rest here
        split
        · exact stopWaiting_placed placed message true here
        · exact placed
      · exact placed
    | timeOut task now =>
      dsimp only
      split
      · rename_i message rest here
        exact stopWaiting_placed placed message false here
      · exact placed

end Pieces

theorem fresh_placed : Placed fresh := by
  have nothing (place : Place) : fresh.contents place = [] := by
    cases place <;> rfl
  refine ⟨⟨fun place => ?_, fun one other message here => ?_, fun message => ?_⟩, fun _ _ => rfl,
    fun message member => by cases member⟩
  · rw [nothing place]
    exact List.nodup_nil
  · rw [nothing one] at here
    cases here
  · constructor
    · intro member
      cases member
    · rintro ⟨place, here⟩
      rw [nothing place] at here
      cases here

/-- Nothing is handled twice, by whatever way it comes to the handler. -/
theorem handled_once_when_recognised (setup : PipelineSetup) (run : List Event)
    (known : Along (step setup) (fun state event => recognised setup state event = true) fresh run) :
    Always (step setup) (fun state => state.handled.Nodup) fresh run :=
  always_of_invariant (step setup) Placed (fun state => state.handled.Nodup)
    (fun state event => recognised setup state event = true)
    (fun _ event placed known => step_placed placed event known)
    (fun _ placed => placed.places.single .handled) run fresh fresh_placed known

def twoWindows (enableDedupe : Bool) : PipelineSetup where
  kind := .async
  config :=
    { enableDedupe := enableDedupe
      enableRateLimit := false
      enableConcurrency := false
      enableQueue := false
      debounce := { channelOverrides := fun channel => if channel = "sms" then some 0 else none } }
  digests := ⟨id, id⟩
  hasHandler := true

def pendingThenImmediate : List Event :=
  [Event.process none ⟨0, "1", "chat", "family", "ann", "lunch", 0⟩, Event.run 0 0,
    Event.process none ⟨0, "2", "sms", "family", "ann", "dinner", 0⟩] ++
  List.replicate 7 (Event.run 1 0) ++ [Event.finish 1] ++ List.replicate 7 (Event.run 1 0) ++
  [Event.finish 1] ++ List.replicate 6 (Event.run 1 0)

theorem immediate_message_comes_through :
    Always (step (twoWindows true)) (fun state => state.handled.Nodup) fresh pendingThenImmediate :=
  handled_once_when_recognised (twoWindows true) pendingThenImmediate (by decide +kernel)

theorem pending_message_handled_twice :
    ((final (step (twoWindows false)) fresh pendingThenImmediate).received.map
        PipelineMessage.messageId) = ["1", "2"] ∧
      ((final (step (twoWindows false)) fresh pendingThenImmediate).received.map
        PipelineMessage.content) = ["lunch", "dinner"] ∧
      ((final (step (twoWindows false)) fresh pendingThenImmediate).handled.map
        PipelineMessage.messageId) = ["1", "1", "2"] := by
  decide +kernel

end Pipeline

end Hartos.Queue
