import Hartos.PipelineMoves

/-!
A queued message goes through the stages after the debouncer a second time. It gets to
the handler, once, when every stage lets it pass again and the queue loses nothing.
-/
namespace Hartos.Queue
open KeyedTable StepSystem Whereabouts

namespace Pipeline
variable (setup : PipelineSetup) (state : Pipeline) (message : PipelineMessage)

def wasQueued : Bool :=
  decide ((message, PipelineResult.queued) ∈ state.deferred)

def underWay : Bool :=
  decide (message ∈ MessageQueue.messages state.queue.items) ||
    (List.range state.nextTask).any fun task =>
      decide (message ∈ (state.stack task).flatMap Piece.messages)

def keepsQueued : Prop :=
  ∀ answer ∈ state.deferred, answer.2 = .queued →
    state.handled.count answer.1 = (if state.underWay answer.1 then 0 else 1) ∧
      answer.1 ∉ state.turnedAway.map Prod.fst

instance (state : Pipeline) : Decidable state.keepsQueued :=
  inferInstanceAs (Decidable (∀ answer ∈ state.deferred, _ → _ ∧ _))

def queueHolds (now : Time) : Bool :=
  state.queue.items.all (MessageQueue.isFresh setup.config.queue now) &&
    (MessageQueue.makeRoom setup.config.queue state.queue.items).all fun items =>
      decide (items = state.queue.items)

def slotAvailable : Bool :=
  !setup.config.enableConcurrency ||
    state.concurrency.isAvailable setup.config.concurrency message

def admitsAgain (now : Time) : Piece → Bool
  | .deduping message false =>
      !(setup.config.enableDedupe &&
        state.deduper.isDuplicate setup.digests setup.config.dedupe message now)
  | .limiting message =>
      !setup.config.enableRateLimit ||
        RateLimiter.allows setup.config.rateLimit (RateLimiter.countersOf setup.config.rateLimit
          state.limiter message.channel message.chatId now)
  | .acquiring message => state.slotAvailable setup message
  | .placing _ _ =>
      setup.hasHandler && !(decide (setup.kind = .async) && setup.config.enableBatch)
  | .handlingAll _ => setup.hasHandler
  | _ => true

def queueSafe (now : Time) : Piece → Bool
  | .acquiring message =>
      state.slotAvailable setup message ||
        (decide (setup.kind = .async) && setup.config.concurrency.queueWhenLimited) ||
        state.queueHolds setup now
  | .draining _ => state.queue.items.all (MessageQueue.isFresh setup.config.queue now)
  | .clearing => decide (setup.kind = .sync) || decide (state.queue.items = [])
  | _ => true

def passesAgain : Event → Bool
  | .run task now =>
      match state.stack task with
      | [] => true
      | piece :: _ =>
          state.queueSafe setup now piece &&
            (!piece.messages.any state.wasQueued || state.admitsAgain setup now piece)
  | .wake task now =>
      match state.stack task with
      | .waiting message :: _ =>
          !state.wasQueued message &&
            (state.concurrency.isAvailable setup.config.concurrency message ||
              state.queueHolds setup now)
      | _ => true
  | .timeOut task now =>
      match state.stack task with
      | .waiting message :: _ => !state.wasQueued message && state.queueHolds setup now
      | _ => true
  | _ => true

def Stray : Prop :=
  message ∈ state.turnedAway.map Prod.fst ∨ message ∈ state.dropped ∨
    (∃ key, message ∈ state.buffers.itemsUnder key) ∨
    ∃ key, message ∈ state.batches.itemsUnder key

structure Lawful (before after : Pipeline) : Prop where
  entering : ∀ task message,
    .entering message ∈ after.stack task → .entering message ∈ before.stack task
  remembered : ∀ message, before.wasQueued message = true → after.wasQueued message = true
  answered : ∀ message, after.wasQueued message = true →
    before.wasQueued message = true ∨ message ∈ MessageQueue.messages after.queue.items
  waiting : ∀ message ∈ MessageQueue.messages after.queue.items,
    message ∈ MessageQueue.messages before.queue.items ∨ after.wasQueued message = true
  strays : ∀ message, Stray after message → Stray before message ∨ before.wasQueued message = false

structure Requeued (state : Pipeline) : Prop where
  placed : Placed state
  entering : ∀ task message, .entering message ∈ state.stack task → state.wasQueued message = false
  known : ∀ message, state.wasQueued message = true → message ∈ state.received
  waiting : ∀ message ∈ MessageQueue.messages state.queue.items, state.wasQueued message = true
  kept : ∀ message, state.wasQueued message = true → ¬Stray state message

theorem Placed.queue_apart {state : Pipeline} (placed : Placed state) {message : PipelineMessage}
    (queued : message ∈ MessageQueue.messages state.queue.items) : ¬Stray state message := by
  have elsewhere (place : Place) (different : .queue ≠ place) : message ∉ state.contents place :=
    fun there => different (placed.places.apart .queue place message queued there)
  rintro (away | dropped | ⟨key, buffered⟩ | ⟨key, batched⟩)
  · exact elsewhere .away (by simp) away
  · exact elsewhere .dropped (by simp) dropped
  · exact elsewhere (.buffer key) (by simp) buffered
  · exact elsewhere (.batch key) (by simp) batched

theorem mem_messages_of_entering {pieces : List Piece} {message : PipelineMessage}
    (entering : .entering message ∈ pieces) : message ∈ pieces.flatMap Piece.messages :=
  List.mem_flatMap.mpr ⟨.entering message, entering, List.mem_singleton.mpr rfl⟩

theorem Requeued.after {before after : Pipeline} (requeued : Requeued before)
    (placed : Placed after) (received : after.received = before.received)
    (lawful : Lawful before after) : Requeued after := by
  have fresh (message : PipelineMessage) (queued : after.wasQueued message = true)
      (unknown : before.wasQueued message ≠ true) :
      message ∈ MessageQueue.messages after.queue.items :=
    (lawful.answered message queued).resolve_left unknown
  refine ⟨placed, fun task message entering => ?_, fun message queued => ?_,
    fun message here => ?_, fun message queued stray => ?_⟩
  · have known := requeued.entering task message (lawful.entering task message entering)
    by_contra queued
    have here := fresh message (by simpa using queued) (by simp [known])
    have same := placed.places.apart .queue (.task task) message here
      (mem_messages_of_entering entering)
    cases same
  · rcases lawful.answered message queued with old | here
    · rw [received]
      exact requeued.known message old
    · exact (placed.places.covers message).mpr ⟨.queue, here⟩
  · rcases lawful.waiting message here with old | queued
    · exact lawful.remembered message (requeued.waiting message old)
    · exact queued
  · rcases lawful.answered message queued with old | here
    · rcases lawful.strays message stray with was | not
      · exact requeued.kept message old was
      · rw [old] at not
        cases not
    · exact placed.queue_apart here stray

theorem Requeued.keeps {state : Pipeline} (requeued : Requeued state) : state.keepsQueued := by
  rintro ⟨message, result⟩ answered rfl
  have queued : state.wasQueued message = true := decide_eq_true answered
  have astray := requeued.kept message queued
  have single : state.handled.Nodup := requeued.placed.places.single .handled
  refine ⟨?_, fun away => astray (Or.inl away)⟩
  split
  · rename_i under
    apply List.count_eq_zero_of_not_mem
    intro handled
    rw [underWay, Bool.or_eq_true, decide_eq_true_eq, List.any_eq_true] at under
    rcases under with waits | ⟨task, _, held⟩
    · have same := requeued.placed.places.apart .queue .handled message waits handled
      cases same
    · have same := requeued.placed.places.apart (.task task) .handled message
        (of_decide_eq_true held) handled
      cases same
  · rename_i ended
    apply List.count_eq_one_of_mem single
    obtain ⟨place, here⟩ :=
      (requeued.placed.places.covers message).mp (requeued.known message queued)
    rw [underWay, Bool.or_eq_true, decide_eq_true_eq, List.any_eq_true, not_or] at ended
    cases place with
    | handled => exact here
    | queue => exact absurd here ended.1
    | task task =>
      refine absurd ⟨task, List.mem_range.mpr ?_, decide_eq_true here⟩ ended.2
      by_contra later
      rw [contents, contentsOf, requeued.placed.idle task (Nat.le_of_not_lt later)] at here
      cases here
    | away => exact absurd (Or.inl here) astray
    | dropped => exact absurd (Or.inr (Or.inl here)) astray
    | buffer key => exact absurd (Or.inr (Or.inr (Or.inl ⟨key, here⟩))) astray
    | batch key => exact absurd (Or.inr (Or.inr (Or.inr ⟨key, here⟩))) astray

section Laws
variable {setup : PipelineSetup} {before mid after state : Pipeline} {task : TaskNo}
  {piece : Piece} {rest : List Piece} {now : Time}

theorem Lawful.unchanged (stack : after.stack = before.stack)
    (deferred : after.deferred = before.deferred) (queue : after.queue = before.queue)
    (strays : ∀ message, Stray after message →
      Stray before message ∨ before.wasQueued message = false) : Lawful before after := by
  have asked (message : PipelineMessage) : after.wasQueued message = before.wasQueued message := by
    rw [wasQueued, wasQueued, deferred]
  refine ⟨fun task message => ?_, fun message old => ?_, fun message new => ?_,
    fun message here => ?_, strays⟩
  · rw [stack]
    exact id
  · rw [asked]
    exact old
  · rw [asked] at new
    exact Or.inl new
  · rw [queue] at here
    exact Or.inl here

theorem Lawful.refl (state : Pipeline) : Lawful state state :=
  .unchanged rfl rfl rfl fun _ stray => Or.inl stray

section

variable (lawful : Lawful before mid)
include lawful

variable (pieces : List Piece)

theorem Lawful.continued (stack : mid.stack = before.stack)
    (enter : ∀ message, .entering message ∈ pieces → .entering message ∈ before.stack task) :
    Lawful before (mid.continueWith task pieces) := by
  refine ⟨fun other message entering => ?_, lawful.remembered, lawful.answered, lawful.waiting,
    lawful.strays⟩
  change .entering message ∈ Function.update mid.stack task pieces other at entering
  by_cases same : other = task
  · rw [same, Function.update_self] at entering
    rw [same]
    exact enter message entering
  · rw [Function.update_of_ne same, stack] at entering
    exact entering

theorem Lawful.spawned (enter : ∀ message, .entering message ∉ pieces) :
    Lawful before (mid.spawn pieces) := by
  refine ⟨fun other message entering => ?_, lawful.remembered, lawful.answered, lawful.waiting,
    lawful.strays⟩
  change .entering message ∈ Function.update mid.stack mid.nextTask pieces other at entering
  by_cases same : other = mid.nextTask
  · rw [same, Function.update_self] at entering
    exact absurd entering (enter message)
  · rw [Function.update_of_ne same] at entering
    exact lawful.entering other message entering

theorem Lawful.turned (message : PipelineMessage) (result : PipelineResult)
    (new : before.wasQueued message = false) : Lawful before (mid.turnAway message result) := by
  refine ⟨lawful.entering, lawful.remembered, lawful.answered, lawful.waiting,
    fun other stray => ?_⟩
  rcases stray with away | others
  · rw [turnAway, List.map_append] at away
    rcases List.mem_append.mp away with old | this
    · exact lawful.strays other (Or.inl old)
    · rw [List.mem_singleton.mp this]
      exact Or.inr new
  · exact lawful.strays other (Or.inr others)

theorem Lawful.released (slot : Option Nat) : Lawful before (mid.releaseSlot slot) := by
  cases slot
  · exact lawful
  · exact ⟨lawful.entering, lawful.remembered, lawful.answered, lawful.waiting, lawful.strays⟩

end

/-- The next piece of the task is done, and others that bring no message in follow. -/
theorem enters_rest (here : before.stack task = piece :: rest) (pieces : List Piece)
    (none : ∀ message, .entering message ∉ pieces) (message : PipelineMessage)
    (entering : .entering message ∈ pieces ++ rest) : .entering message ∈ before.stack task := by
  rw [here]
  rcases List.mem_append.mp entering with new | old
  · exact absurd new (none message)
  · exact List.mem_cons_of_mem _ old

theorem Lawful.onward (lawful : Lawful before mid) (stack : mid.stack = before.stack)
    (here : before.stack task = piece :: rest) (pieces : List Piece)
    (none : ∀ message, .entering message ∉ pieces) :
    Lawful before (mid.continueWith task (pieces ++ rest)) :=
  lawful.continued (pieces ++ rest) stack (enters_rest here pieces none)

variable (message : PipelineMessage)

theorem dedupe_lawful (again : Bool) (here : state.stack task = piece :: rest)
    (admits : again = false → state.wasQueued message = true →
      state.admitsAgain setup now (.deduping message false) = true) :
    Lawful state (state.dedupe setup task rest message again now) := by
  have checked : Lawful state { state with
      deduper := (state.deduper.checkAndMark setup.digests setup.config.dedupe message now).2 } :=
    .unchanged rfl rfl rfl fun _ stray => Or.inl stray
  unfold dedupe
  split
  · rename_i on
    dsimp only
    split
    · rename_i duplicate
      split
      · exact checked.onward rfl here [] (by simp)
      · rename_i first
        refine Lawful.onward (.turned checked message .duplicate ?_) rfl here [] (by simp)
        by_contra queued
        have admitted := admits (by simpa using first) (by simpa using queued)
        rw [checkAndMark_answer] at duplicate
        simp [admitsAgain, on, duplicate] at admitted
    · exact checked.onward rfl here [.limiting message] (by simp)
  · exact (Lawful.refl state).onward rfl here [.limiting message] (by simp)

theorem checkAndConsume_answer (config : RateLimitConfig) (limiter : RateLimiter)
    (channel chatId : String) (now : Time) :
    (limiter.checkAndConsume config channel chatId now).1 =
      RateLimiter.allows config (RateLimiter.countersOf config limiter channel chatId now) := by
  unfold RateLimiter.checkAndConsume
  dsimp only
  split
  · rename_i allowed
    exact allowed.symm
  · rename_i refused
    simpa using refused

theorem limit_lawful (here : state.stack task = piece :: rest)
    (admits : state.wasQueued message = true →
      state.admitsAgain setup now (.limiting message) = true) :
    Lawful state (state.limit setup task rest message now) := by
  have checked : Lawful state { state with limiter := (state.limiter.checkAndConsume
      setup.config.rateLimit message.channel message.chatId now).2 } :=
    .unchanged rfl rfl rfl fun _ stray => Or.inl stray
  unfold limit
  split
  · rename_i on
    dsimp only
    split
    · exact checked.onward rfl here [.acquiring message] (by simp)
    · rename_i refused
      refine Lawful.onward (.turned checked message .rateLimited ?_) rfl here [] (by simp)
      by_contra queued
      have admitted := admits (by simpa using queued)
      rw [checkAndConsume_answer] at refused
      simp [admitsAgain, on, refused] at admitted
  · exact (Lawful.refl state).onward rfl here [.acquiring message] (by simp)

end Laws

end Pipeline

namespace MessageQueue

theorem filter_fresh {config : QueueConfig} {items : List QueuedMessage} {now : Time}
    (fresh : items.all (isFresh config now) = true) : items.filter (isFresh config now) = items :=
  List.filter_eq_self.mpr (List.all_eq_true.mp fresh)

theorem enqueue_keeps (digests : Digests) (config : QueueConfig) (queue : MessageQueue)
    (message : PipelineMessage) (now : Time) (fresh : queue.items.all (isFresh config now) = true)
    (room : (makeRoom config queue.items).all (fun items => decide (items = queue.items)) = true) :
    ((queue.enqueue digests config message now).1 = false ∧
        (queue.enqueue digests config message now).2.items = queue.items) ∨
      ((queue.enqueue digests config message now).1 = true ∧
        (queue.enqueue digests config message now).2.items.Perm
          (queue.items ++ [⟨message, now⟩])) := by
  have all := filter_fresh fresh
  unfold enqueue
  dsimp only
  rw [all]
  split
  · exact Or.inl ⟨rfl, rfl⟩
  · cases made : makeRoom config queue.items with
    | none => exact Or.inl ⟨rfl, rfl⟩
    | some items =>
      rw [made] at room
      have same : items = queue.items := of_decide_eq_true room
      rw [same]
      exact Or.inr ⟨rfl, arrange_perm config _⟩

end MessageQueue

namespace Pipeline

section Laws
variable {setup : PipelineSetup} {state : Pipeline} {task : TaskNo} {piece : Piece}
  {rest : List Piece} {now : Time}

theorem none_gone (kept old : List PipelineMessage) (all : ∀ message ∈ old, message ∈ kept) :
    (old.filter fun message => decide (message ∉ kept)) = [] := by
  rw [List.filter_eq_nil_iff]
  intro message member
  simpa using all message member

variable (key : BatchKey) (message : PipelineMessage) (slot : Option Nat)

theorem queueMessage_lawful (here : state.stack task = piece :: rest)
    (new : state.wasQueued message = false) (holds : state.queueHolds setup now = true) :
    Lawful state (state.queueMessage setup task rest message now) := by
  obtain ⟨fresh, room⟩ := Bool.and_eq_true_iff.mp holds
  unfold queueMessage
  split
  · dsimp only
    rcases MessageQueue.enqueue_keeps setup.digests setup.config.queue state.queue message now fresh
      room with ⟨refused, same⟩ | ⟨accepted, arranged⟩
    · rw [refused, if_neg Bool.false_ne_true, none_gone, List.append_nil]
      · have law : Lawful state { state with queue :=
            (state.queue.enqueue setup.digests setup.config.queue message now).2 } := by
          refine ⟨fun _ _ => id, fun _ => id, fun _ => Or.inl, fun other queued => ?_,
            fun _ => Or.inl⟩
          rw [same] at queued
          exact Or.inl queued
        exact (law.turned message .rejected new).onward rfl here [] (by simp)
      · rw [same]
        exact fun _ => id
    · have members (other : PipelineMessage) :
          other ∈ MessageQueue.messages (state.queue.enqueue setup.digests setup.config.queue message
            now).2.items ↔ other ∈ MessageQueue.messages state.queue.items ∨ other = message := by
        rw [MessageQueue.messages, (arranged.map QueuedMessage.message).mem_iff]
        simp [MessageQueue.messages]
      rw [accepted, if_pos rfl, none_gone, List.append_nil]
      · have law : Lawful state { state with
            queue := (state.queue.enqueue setup.digests setup.config.queue message now).2
            deferred := state.deferred ++ [(message, PipelineResult.queued)] } := by
          refine ⟨fun _ _ => id, fun other old => ?_, fun other queued => ?_,
            fun other queued => ?_, fun _ => Or.inl⟩
          · exact decide_eq_true (List.mem_append_left _ (of_decide_eq_true old))
          · rcases List.mem_append.mp (of_decide_eq_true queued) with old | this
            · exact Or.inl (decide_eq_true old)
            · cases List.mem_singleton.mp this
              exact Or.inr ((members message).mpr (Or.inr rfl))
          · rcases (members other).mp queued with old | rfl
            · exact Or.inl old
            · exact Or.inr (decide_eq_true (List.mem_append_right _ (List.mem_singleton.mpr rfl)))
        exact law.onward rfl here [] (by simp)
      · exact fun other member => (members other).mpr (Or.inl member)
  · exact (Lawful.turned (.refl state) message .concurrencyLimited new).onward rfl here [] (by simp)

theorem acquireSync_answer (limits : ConcurrencyLimits) (controller : ConcurrencyController)
    (message : PipelineMessage) :
    (controller.acquireSync limits message).1.isSome = controller.isAvailable limits message := by
  unfold ConcurrencyController.acquireSync
  split
  · rename_i available
    exact available.symm
  · rename_i taken
    simpa using taken

theorem acquire_lawful (here : state.stack task = piece :: rest)
    (safe : state.queueSafe setup now (.acquiring message) = true)
    (admits : state.wasQueued message = true →
      state.admitsAgain setup now (.acquiring message) = true) :
    Lawful state (state.acquire setup task rest message now) := by
  unfold acquire
  split
  · rename_i on
    have answer := acquireSync_answer setup.config.concurrency state.concurrency message
    dsimp only
    split
    · rename_i slot _
      have controlled : Lawful state { state with concurrency :=
          (state.concurrency.acquireSync setup.config.concurrency message).2 } :=
        .unchanged rfl rfl rfl fun _ stray => Or.inl stray
      exact controlled.onward rfl here [.placing message (some slot)] (by simp)
    · rename_i refused
      rw [refused] at answer
      split
      · have waits : Lawful state { state with
            concurrency := state.concurrency.awaitSlot message task } :=
          .unchanged rfl rfl rfl fun _ stray => Or.inl stray
        exact waits.onward rfl here [.waiting message] (by simp)
      · rename_i goesOn
        apply queueMessage_lawful message here
        · by_contra queued
          have admitted := admits (by simpa using queued)
          simp [admitsAgain, slotAvailable, on, ← answer] at admitted
        · rw [queueSafe, slotAvailable, on, ← answer] at safe
          simp only [not_and, Bool.not_eq_true] at goesOn
          by_cases loop : setup.kind = .async
          · simpa [goesOn loop] using safe
          · simpa [loop] using safe
  · exact (Lawful.refl state).onward rfl here [.placing message none] (by simp)

theorem stopWaiting_lawful (signalled : Bool) (here : state.stack task = piece :: rest)
    (new : state.wasQueued message = false)
    (safe : (signalled && state.concurrency.isAvailable setup.config.concurrency message ||
      state.queueHolds setup now) = true) :
    Lawful state (state.stopWaiting setup task rest message signalled now) := by
  have back (controller : ConcurrencyController) (woken : List TaskNo) (pieces : List Piece)
      (none : ∀ message, .entering message ∉ pieces) :
      Lawful state ({ state with concurrency := controller, woken := woken }.continueWith task
        (pieces ++ rest)) :=
    have law : Lawful state { state with concurrency := controller, woken := woken } :=
      .unchanged rfl rfl rfl fun _ stray => Or.inl stray
    law.onward rfl here pieces none
  have queues (holds : state.queueHolds setup now = true) :
      Lawful state ({ state with
        concurrency := state.concurrency.stopWaiting message
        woken := state.woken.filter (· ≠ task) }.queueMessage setup task rest message now) :=
    have law : Lawful
        { state with
          concurrency := state.concurrency.stopWaiting message
          woken := state.woken.filter (· ≠ task) }
        ({ state with
          concurrency := state.concurrency.stopWaiting message
          woken := state.woken.filter (· ≠ task) }.queueMessage setup task rest message now) :=
      queueMessage_lawful message here new holds
    ⟨law.entering, law.remembered, law.answered, law.waiting, law.strays⟩
  unfold stopWaiting
  dsimp only
  split
  · split
    · rename_i slot _
      exact back _ _ [.placing message (some slot)] (by simp)
    · rename_i refused
      have answer := acquireSync_answer setup.config.concurrency
        (state.concurrency.stopWaiting message) message
      rw [refused] at answer
      apply queues
      have taken : state.concurrency.isAvailable setup.config.concurrency message = false :=
        answer.symm
      simpa [taken] using safe
  · rename_i slept
    apply queues
    simpa [slept] using safe

theorem callHandler_lawful (here : state.stack task = piece :: rest) (pieces : List Piece)
    (none : ∀ message, .entering message ∉ pieces)
    (handler : state.wasQueued message = true → setup.hasHandler = true) :
    Lawful state (state.callHandler setup task (pieces ++ rest) message slot) := by
  unfold callHandler
  split
  · have called : Lawful state { state with handled := state.handled ++ [message] } :=
      .unchanged rfl rfl rfl fun _ stray => Or.inl stray
    exact called.onward rfl here (.handling message slot :: pieces) (by simpa using none)
  · rename_i off
    refine Lawful.onward (.released (.turned (.refl state) message .rejected ?_) slot) ?_ here pieces
      none
    · by_contra queued
      exact off (handler (by simpa using queued))
    · cases slot <;> rfl

theorem place_lawful (here : state.stack task = piece :: rest)
    (admits : state.wasQueued message = true →
      state.admitsAgain setup now (.placing message slot) = true) :
    Lawful state (state.place setup task rest message slot) := by
  have named := addTo_key state.batches message.chatId message
  have joined := addTo_items state.batches message.chatId message
  unfold place
  split
  · rename_i batching
    have new : state.wasQueued message = false := by
      by_contra queued
      have admitted := admits (by simpa using queued)
      simp [admitsAgain, batching.1, batching.2] at admitted
    -- The batch has the message at its end, and holds nothing else that is new.
    have batched (batch : Batch PipelineMessage) (key : batch.key = message.chatId)
        (items : batch.items = state.batches.itemsUnder message.chatId ++ [message])
        (hung : Bool) (deferred : List (PipelineMessage × PipelineResult))
        (same : ∀ other, (other, PipelineResult.queued) ∈ deferred ↔
          (other, PipelineResult.queued) ∈ state.deferred) :
        Lawful state { state with
          batches := state.batches.set batch
          hung := hung
          deferred := deferred } := by
      refine ⟨fun _ _ => id, fun other old => ?_, fun other queued => ?_, fun _ => Or.inl,
        fun other stray => ?_⟩
      · exact decide_eq_true ((same other).mpr (of_decide_eq_true old))
      · exact Or.inl (decide_eq_true ((same other).mp (of_decide_eq_true queued)))
      · rcases stray with away | dropped | buffered | ⟨other', inside⟩
        · exact Or.inl (Or.inl away)
        · exact Or.inl (Or.inr (Or.inl dropped))
        · exact Or.inl (Or.inr (Or.inr (Or.inl buffered)))
        · rw [itemsUnder_set] at inside
          split at inside
          · rw [items] at inside
            rcases List.mem_append.mp inside with old | this
            · exact Or.inl (Or.inr (Or.inr (Or.inr ⟨message.chatId, old⟩)))
            · rw [List.mem_singleton.mp this]
              exact Or.inr new
          · exact Or.inl (Or.inr (Or.inr (Or.inr ⟨other', inside⟩)))
    dsimp only
    split
    · have law := batched (state.batches.addTo message.chatId message) named joined true
        state.deferred (fun _ => Iff.rfl)
      exact law.onward rfl here [] (by simp)
    · have law := batched { state.batches.addTo message.chatId message with
        timed := (state.batches.addTo message.chatId message).timed || setup.config.batch.timers }
        named joined state.hung (state.deferred ++ [(message, PipelineResult.batched)]) (by simp)
      refine (law.released slot).onward ?_ here [] (by simp)
      cases slot <;> rfl
  · apply callHandler_lawful message slot here [] (by simp)
    intro queued
    exact (Bool.and_eq_true_iff.mp (admits queued)).1

theorem drain_lawful (items : Nat) (here : state.stack task = piece :: rest)
    (fresh : state.queue.items.all (MessageQueue.isFresh setup.config.queue now) = true) :
    Lawful state (state.drain setup task rest now items) := by
  have all := MessageQueue.filter_fresh fresh
  unfold drain
  cases items with
  | zero => exact (Lawful.refl state).onward rfl here [] (by simp)
  | succ items =>
    unfold MessageQueue.dequeue
    rw [all]
    -- The item that comes out of the queue is with the task now.
    have taken (queue : MessageQueue) (pieces : List Piece)
        (none : ∀ message, .entering message ∉ pieces)
        (inside : ∀ item ∈ queue.items, item ∈ state.queue.items) :
        Lawful state ({ state with queue := queue }.continueWith task (pieces ++ rest)) := by
      have law : Lawful state { state with queue := queue } := by
        refine ⟨fun _ _ => id, fun _ => id, fun _ => Or.inl, fun message queued => ?_,
          fun _ => Or.inl⟩
        obtain ⟨item, member, same⟩ := List.mem_map.mp queued
        exact Or.inl (List.mem_map.mpr ⟨item, inside item member, same⟩)
      exact law.onward rfl here pieces none
    cases items' : state.queue.items with
    | nil =>
      dsimp only
      rw [none_gone _ _ (by simp [MessageQueue.messages]), List.append_nil]
      exact taken { state.queue with items := [] } [] (by simp) (by simp)
    | cons item left =>
      dsimp only
      rw [none_gone _ _ (by simp [MessageQueue.messages]), List.append_nil]
      exact taken { state.queue with items := left }
        [.deduping item.message false, .draining items] (by simp)
        (by simp +contextual [items'])

/-- Only the buffers change: what comes in was not queued, what goes out may be dropped. -/
theorem Lawful.buffered {after : Pipeline} (stack : after.stack = state.stack)
    (queue : after.queue = state.queue) (batches : after.batches = state.batches)
    (turnedAway : after.turnedAway = state.turnedAway)
    (deferred : ∀ message, (message, PipelineResult.queued) ∈ after.deferred ↔
      (message, PipelineResult.queued) ∈ state.deferred)
    (dropped : ∀ message ∈ after.dropped,
      message ∈ state.dropped ∨ ∃ key, message ∈ state.buffers.itemsUnder key)
    (buffers : ∀ key, ∀ message ∈ after.buffers.itemsUnder key,
      message ∈ state.buffers.itemsUnder key ∨ state.wasQueued message = false) :
    Lawful state after := by
  refine ⟨fun task message => ?_, fun message old => ?_, fun message queued => ?_,
    fun message here => ?_, fun message stray => ?_⟩
  · rw [stack]
    exact id
  · exact decide_eq_true ((deferred message).mpr (of_decide_eq_true old))
  · exact Or.inl (decide_eq_true ((deferred message).mp (of_decide_eq_true queued)))
  · rw [queue] at here
    exact Or.inl here
  · rcases stray with away | drop | ⟨key, inside⟩ | ⟨key, inside⟩
    · rw [turnedAway] at away
      exact Or.inl (Or.inl away)
    · rcases dropped message drop with old | ⟨key, inside⟩
      · exact Or.inl (Or.inr (Or.inl old))
      · exact Or.inl (Or.inr (Or.inr (Or.inl ⟨key, inside⟩)))
    · rcases buffers key message inside with old | new
      · exact Or.inl (Or.inr (Or.inr (Or.inl ⟨key, old⟩)))
      · exact Or.inr new
    · rw [batches] at inside
      exact Or.inl (Or.inr (Or.inr (Or.inr ⟨key, inside⟩)))

theorem mem_itemsUnder_erase {batches : Batches PipelineMessage} {dropped key : BatchKey}
    {message : PipelineMessage} (here : message ∈ Batches.itemsUnder (batches.erase dropped) key) :
    message ∈ batches.itemsUnder key := by
  rw [itemsUnder_erase] at here
  split at here
  · cases here
  · exact here

theorem debounce_lawful (here : state.stack task = piece :: rest)
    (new : state.wasQueued message = false) :
    Lawful state (state.debounce setup task rest message) := by
  have joined := addTo_items state.buffers message.chatId message
  have named := addTo_key state.buffers message.chatId message
  have erased (holder : Option TaskNo) : Lawful state { state with
      deferred := state.deferred ++ [(message, PipelineResult.debounced)]
      buffers := state.buffers.erase message.chatId
      debounceHolder := holder } := by
    refine Lawful.buffered rfl rfl rfl rfl (by simp) ?_ ?_
    · exact fun _ => Or.inl
    · exact fun _ _ inside => Or.inl (mem_itemsUnder_erase inside)
  unfold debounce
  dsimp only
  split
  · split
    · exact (erased state.debounceHolder).onward rfl here
        [.passing [] _, .passing _ [message]] (by simp)
    · exact (erased state.debounceHolder).onward rfl here [.passing [] _] (by simp)
  · split
    · exact (erased (some task)).onward rfl here [.passing [] _, .unlocking] (by simp)
    · have grown : Lawful state { state with
          deferred := state.deferred ++ [(message, PipelineResult.debounced)]
          buffers := state.buffers.set { state.buffers.addTo message.chatId message with
            timed := true } } := by
        refine Lawful.buffered rfl rfl rfl rfl (by simp) ?_ ?_
        · exact fun _ => Or.inl
        · intro key other inside
          rw [itemsUnder_set] at inside
          split at inside
          · rename_i same
            rw [joined] at inside
            rcases List.mem_append.mp inside with old | this
            · refine Or.inl ?_
              rw [same]
              rw [named]
              exact old
            · rw [List.mem_singleton.mp this]
              exact Or.inr new
          · exact Or.inl inside
      exact grown.onward rfl here [] (by simp)

theorem expire_lawful : Lawful state (state.expire key) := by
  unfold expire
  cases found : state.buffers.get? key with
  | none => exact .refl state
  | some buffer =>
    dsimp only
    split
    · have untimed : Lawful state
          { state with buffers := state.buffers.set { buffer with timed := false } } := by
        refine Lawful.buffered rfl rfl rfl rfl (fun _ => Iff.rfl) ?_ ?_
        · exact fun _ => Or.inl
        · intro other message inside
          rw [itemsUnder_set] at inside
          split at inside
          · rename_i same
            have named : other = key := same.trans (state.buffers.get?_key key buffer found)
            rw [named, itemsUnder_found found]
            exact Or.inl inside
          · exact Or.inl inside
      exact untimed.spawned [.flushing key] (by simp)
    · exact .refl state

theorem Lawful.takeBatch {mid : Pipeline} (lawful : Lawful state mid) (key : BatchKey)
    (messages : List PipelineMessage) :
    Lawful state ({ mid with batches := mid.batches.erase key }.spawn [.handlingAll messages]) := by
  have taken : Lawful state { mid with batches := mid.batches.erase key } := by
    refine ⟨lawful.entering, lawful.remembered, lawful.answered, lawful.waiting,
      fun message stray => ?_⟩
    rcases stray with away | dropped | buffered | ⟨other, inside⟩
    · exact lawful.strays message (Or.inl away)
    · exact lawful.strays message (Or.inr (Or.inl dropped))
    · exact lawful.strays message (Or.inr (Or.inr (Or.inl buffered)))
    · exact lawful.strays message (Or.inr (Or.inr (Or.inr ⟨other, mem_itemsUnder_erase inside⟩)))
  exact taken.spawned _ (by simp)

theorem expireBatch_lawful : Lawful state (state.expireBatch key) := by
  unfold expireBatch
  split
  · exact .refl state
  · split
    · exact (Lawful.refl state).takeBatch key _
    · exact .refl state

theorem clear_lawful (here : state.stack task = piece :: rest)
    (safe : state.queueSafe setup now .clearing = true) :
    Lawful state (state.clear setup task rest) := by
  unfold clear
  split
  · have closed : Lawful state { state with
        concurrency := { state.concurrency with slots := [] }
        closed := true } := .unchanged rfl rfl rfl fun _ => Or.inl
    exact closed.onward rfl here [] (by simp)
  · rename_i loop
    have empty : state.queue.items = [] := by
      rw [queueSafe, loop] at safe
      simpa using safe
    have cleared : Lawful state { state with
        concurrency := { state.concurrency with slots := [] }
        closed := true
        buffers := Table.empty Batch.key
        deduper := MessageDeduplicator.empty
        queue := MessageQueue.empty
        batches := Table.empty Batch.key
        dropped := state.dropped ++ (state.buffers.rows.flatMap Batch.items ++
          MessageQueue.messages state.queue.items ++ state.batches.rows.flatMap Batch.items) } := by
      refine ⟨fun _ _ => id, fun _ => id, fun _ => Or.inl,
        fun _ member => (List.not_mem_nil member).elim, fun message stray => ?_⟩
      rcases stray with away | dropped | ⟨key, inside⟩ | ⟨key, inside⟩
      · exact Or.inl (Or.inl away)
      · rw [empty, ← keys_flatMap, ← keys_flatMap] at dropped
        simp only [MessageQueue.messages, List.map_nil, List.append_nil, List.mem_append,
          List.mem_flatMap] at dropped
        rcases dropped with old | ⟨key, _, inside⟩ | ⟨key, _, inside⟩
        · exact Or.inl (Or.inr (Or.inl old))
        · exact Or.inl (Or.inr (Or.inr (Or.inl ⟨key, inside⟩)))
        · exact Or.inl (Or.inr (Or.inr (Or.inr ⟨key, inside⟩)))
      · cases inside
      · cases inside
    exact cleared.onward rfl here [] (by simp)

theorem perform_lawful (requeued : Requeued state) (here : state.stack task = piece :: rest)
    (safe : state.queueSafe setup now piece = true)
    (admits : ∀ message ∈ piece.messages, state.wasQueued message = true →
      state.admitsAgain setup now piece = true) :
    Lawful state (state.perform setup task now rest piece) := by
  have same : Lawful state state := .refl state
  cases piece with
  | entering message =>
    have new : state.wasQueued message = false :=
      requeued.entering task message (here ▸ List.mem_cons_self)
    unfold perform
    dsimp only
    split
    · exact debounce_lawful message here new
    · exact same.onward rfl here [.deduping message false] (by simp)
  | flushing key =>
    have flushed : Lawful state { state with buffers := state.buffers.erase key } := by
      refine Lawful.buffered rfl rfl rfl rfl (fun _ => Iff.rfl) ?_ ?_
      · exact fun _ => Or.inl
      · exact fun _ _ inside => Or.inl (mem_itemsUnder_erase inside)
    exact flushed.onward rfl here [.passing [] _] (by simp)
  | passing again messages =>
    unfold perform pass
    dsimp only
    split
    · exact same.onward rfl here [.deduping _ true, .passing _ _] (by simp)
    · exact same.onward rfl here [.deduping _ false, .passing [] _] (by simp)
    · exact same.onward rfl here [] (by simp)
  | unlocking =>
    have unlocked : Lawful state { state with debounceHolder := none } :=
      .unchanged rfl rfl rfl fun _ => Or.inl
    exact unlocked.onward rfl here [] (by simp)
  | deduping message again =>
    apply dedupe_lawful message again here
    rintro rfl queued
    exact admits message (by simp [Piece.messages]) queued
  | limiting message => exact limit_lawful message here (admits message (by simp [Piece.messages]))
  | acquiring message =>
    exact acquire_lawful message here safe (admits message (by simp [Piece.messages]))
  | waiting message => exact same.onward rfl here [.waiting message] (by simp)
  | placing message slot =>
    exact place_lawful message slot here (admits message (by simp [Piece.messages]))
  | handling message slot => exact same.onward rfl here [.handling message slot] (by simp)
  | handlingAll messages =>
    cases messages with
    | nil => exact same.onward rfl here [] (by simp)
    | cons message messages =>
      exact callHandler_lawful message none here [.handlingAll messages] (by simp)
        (admits message (by simp [Piece.messages]))
  | draining items => exact drain_lawful items here safe
  | listingBuffers => exact same.onward rfl here [.discarding _] (by simp)
  | discarding keys =>
    cases keys with
    | nil => exact same.onward rfl here [] (by simp)
    | cons key keys =>
      have flushed : Lawful state { state with
          buffers := state.buffers.erase key
          dropped := state.dropped ++ state.buffers.itemsUnder key } := by
        refine Lawful.buffered rfl rfl rfl rfl (fun _ => Iff.rfl) ?_ ?_
        · intro message dropped
          rcases List.mem_append.mp dropped with old | inside
          · exact Or.inl old
          · exact Or.inr ⟨key, inside⟩
        · exact fun _ _ inside => Or.inl (mem_itemsUnder_erase inside)
      exact flushed.onward rfl here [.discarding keys] (by simp)
  | listingBatches => exact same.onward rfl here [.flushingBatches _] (by simp)
  | flushingBatches keys =>
    cases keys with
    | nil => exact same.onward rfl here [] (by simp)
    | cons key keys =>
      have goesOn := same.onward rfl here [.flushingBatches keys] (by simp)
      unfold perform
      dsimp only
      split
      · exact goesOn
      · exact goesOn.takeBatch key _
  | drainingAll => exact same.onward rfl here [.draining _] (by simp)
  | clearing => exact clear_lawful here safe

end Laws

end Pipeline

end Hartos.Queue
