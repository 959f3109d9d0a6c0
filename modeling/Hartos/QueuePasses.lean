import Hartos.QueuedMessages

/-!
Runs of a pipeline in which every queued message is let through again, and the work of
`process_queued` in them.
-/
namespace Hartos.Queue
open KeyedTable StepSystem Whereabouts

namespace Pipeline

section Received
variable {setup : PipelineSetup} {state : Pipeline} {task : TaskNo} {rest : List Piece} {now : Time}
variable (key : BatchKey) (message : PipelineMessage)

theorem queueMessage_received :
    (state.queueMessage setup task rest message now).received = state.received := by
  unfold queueMessage
  dsimp only
  split
  · split <;> rfl
  · rfl

theorem callHandler_received (slot : Option Nat) :
    (state.callHandler setup task rest message slot).received = state.received := by
  unfold callHandler
  split
  · rfl
  · cases slot <;> rfl

theorem stopWaiting_received (signalled : Bool) :
    (state.stopWaiting setup task rest message signalled now).received = state.received := by
  unfold stopWaiting
  dsimp only
  split
  · split
    · rfl
    · exact queueMessage_received message
  · exact queueMessage_received message

theorem expire_received : (state.expire key).received = state.received := by
  unfold expire
  split
  · rfl
  · split <;> rfl

theorem expireBatch_received : (state.expireBatch key).received = state.received := by
  unfold expireBatch
  split
  · rfl
  · split <;> rfl

theorem perform_received (piece : Piece) :
    (state.perform setup task now rest piece).received = state.received := by
  cases piece with
  | entering message =>
    unfold perform debounce
    dsimp only
    split
    · split
      · split <;> rfl
      · split <;> rfl
    · rfl
  | passing again messages =>
    unfold perform pass
    dsimp only
    split <;> rfl
  | deduping message again =>
    unfold perform dedupe
    dsimp only
    split
    · split
      · split <;> rfl
      · rfl
    · rfl
  | limiting message =>
    unfold perform limit
    dsimp only
    split
    · split <;> rfl
    · rfl
  | acquiring message =>
    unfold perform acquire
    dsimp only
    split
    · split
      · rfl
      · split
        · rfl
        · exact queueMessage_received message
    · rfl
  | placing message slot =>
    unfold perform place
    dsimp only
    split
    · split
      · rfl
      · cases slot <;> rfl
    · exact callHandler_received message slot
  | handlingAll messages =>
    cases messages with
    | nil => rfl
    | cons message messages => exact callHandler_received message none
  | draining items =>
    unfold perform drain
    dsimp only
    split
    · rfl
    · split <;> rfl
  | discarding keys => cases keys <;> rfl
  | flushingBatches keys =>
    cases keys with
    | nil => rfl
    | cons key keys =>
      unfold perform
      dsimp only
      split <;> rfl
  | clearing =>
    unfold perform clear
    dsimp only
    split <;> rfl
  | _ => rfl

end Received

section Steps
variable {setup : PipelineSetup} {state : Pipeline} {task : TaskNo} {rest : List Piece} {now : Time}

theorem process_requeued (requeued : Requeued state) (caller : Option TaskNo)
    (draft : PipelineMessage) (may : state.mayCall caller = true) :
    Requeued (state.process caller draft) := by
  have placed := process_placed requeued.placed caller draft may
  have new : state.wasQueued { draft with call := state.received.length } = false := by
    by_contra queued
    exact Nat.lt_irrefl _
      (requeued.placed.numbered _ (requeued.known _ (by simpa using queued)))
  revert placed
  unfold process
  intro placed
  -- Apart from what is turned away, only the new message enters anywhere.
  have came (after : Pipeline) (placed : Placed after) (deferred : after.deferred = state.deferred)
      (received : after.received = state.received ++ [{ draft with call := state.received.length }])
      (queue : after.queue = state.queue)
      (strays : ∀ message, Stray after message →
        Stray state message ∨ message = { draft with call := state.received.length })
      (entering : ∀ other message, .entering message ∈ after.stack other →
        .entering message ∈ state.stack other ∨
          message = { draft with call := state.received.length }) : Requeued after := by
    have asked (message : PipelineMessage) : after.wasQueued message = state.wasQueued message := by
      rw [wasQueued, wasQueued, deferred]
    refine ⟨placed, fun other message enters => ?_, fun message queued => ?_,
      fun message here => ?_, fun message queued stray => ?_⟩
    · rw [asked]
      rcases entering other message enters with old | rfl
      · exact requeued.entering other message old
      · exact new
    · rw [asked] at queued
      rw [received]
      exact List.mem_append_left _ (requeued.known message queued)
    · rw [queue] at here
      rw [asked]
      exact requeued.waiting message here
    · rw [asked] at queued
      rcases strays message stray with old | rfl
      · exact requeued.kept message queued old
      · rw [new] at queued
        cases queued
  split at placed
  · rename_i closing
    rw [if_pos closing]
    refine came _ placed rfl rfl rfl (fun message stray => ?_) (fun _ _ => Or.inl)
    rcases stray with away | others
    · rw [turnAway, List.map_append] at away
      rcases List.mem_append.mp away with old | this
      · exact Or.inl (Or.inl old)
      · exact Or.inr (List.mem_singleton.mp this)
    · exact Or.inl (Or.inr others)
  · rename_i open'
    rw [if_neg open']
    have pushed (other : TaskNo) (pieces : List Piece) (message : PipelineMessage)
        (enters : .entering message ∈
          .entering { draft with call := state.received.length } :: pieces)
        (old : .entering message ∈ pieces → .entering message ∈ state.stack other) :
        .entering message ∈ state.stack other ∨
          message = { draft with call := state.received.length } := by
      rcases List.mem_cons.mp enters with this | before
      · exact Or.inr (Piece.entering.inj this)
      · exact Or.inl (old before)
    cases caller with
    | none =>
      refine came _ placed rfl rfl rfl (fun _ => Or.inl) (fun other message enters => ?_)
      change .entering message ∈ Function.update state.stack state.nextTask _ other at enters
      by_cases same : other = state.nextTask
      · rw [same, Function.update_self] at enters
        exact pushed other [] message enters (fun none => (List.not_mem_nil none).elim)
      · rw [Function.update_of_ne same] at enters
        exact Or.inl enters
    | some task =>
      refine came _ placed rfl rfl rfl (fun _ => Or.inl) (fun other message enters => ?_)
      change .entering message ∈ Function.update state.stack task _ other at enters
      by_cases same : other = task
      · rw [same, Function.update_self] at enters
        rw [same]
        exact pushed task (state.stack task) message enters id
      · rw [Function.update_of_ne same] at enters
        exact Or.inl enters

theorem run_requeued (requeued : Requeued state)
    (known : recognised setup state (.run task now) = true)
    (passes : passesAgain setup state (.run task now) = true) :
    Requeued (state.run setup task now) := by
  have placed : Placed (state.run setup task now) := run_placed requeued.placed known
  unfold run at placed ⊢
  split
  · exact requeued
  · rename_i piece rest here
    simp only [here] at placed
    split at placed
    · rename_i taken
      rw [if_pos taken]
      refine requeued.after placed ?_ ?_
      · unfold blocked
        split <;> rfl
      · unfold blocked
        split
        · exact .unchanged rfl rfl rfl fun _ => Or.inl
        · exact .refl state
    · rename_i free
      rw [if_neg free]
      rw [passesAgain, here] at passes
      obtain ⟨safe, admits⟩ := Bool.and_eq_true_iff.mp passes
      apply requeued.after placed (perform_received piece)
      apply perform_lawful requeued here safe
      intro message member queued
      rcases Bool.or_eq_true_iff.mp admits with none | admitted
      · have any : piece.messages.any state.wasQueued = true :=
          List.any_eq_true.mpr ⟨message, member, queued⟩
        rw [any] at none
        cases none
      · exact admitted

theorem step_requeued (requeued : Requeued state) (event : Event)
    (known : recognised setup state event = true) (passes : passesAgain setup state event = true) :
    Requeued (state.step setup event) := by
  have placed := step_placed requeued.placed event known
  unfold step at placed ⊢
  split
  · exact requeued
  · rename_i running
    rw [if_neg running] at placed
    cases event with
    | process caller draft =>
      dsimp only
      split
      · rename_i may
        exact process_requeued requeued caller draft may
      · exact requeued
    | expire key =>
      exact requeued.after placed (expire_received key) (expire_lawful key)
    | expireBatch key =>
      exact requeued.after placed (expireBatch_received key) (expireBatch_lawful key)
    | processQueued maxItems =>
      dsimp only at placed ⊢
      split
      · rename_i on
        rw [if_pos on] at placed
        exact requeued.after placed rfl ((Lawful.refl state).spawned [.draining maxItems] (by simp))
      · exact requeued
    | shutdown =>
      have closing : Lawful state { state with closing := true } :=
        .unchanged rfl rfl rfl fun _ => Or.inl
      refine requeued.after placed rfl (closing.spawned (shutdownPieces setup) ?_)
      unfold shutdownPieces
      split <;> split <;> split <;> simp
    | run task now => exact run_requeued requeued known passes
    | finish task =>
      dsimp only at placed ⊢
      split
      · rename_i message slot rest here
        rw [here] at placed
        refine requeued.after placed ?_
          (((Lawful.refl state).released slot).onward ?_ here [] (by simp))
        · cases slot <;> rfl
        · cases slot <;> rfl
      · exact requeued
    | wake task now =>
      dsimp only at placed ⊢
      split
      · rename_i message rest here
        rw [here] at placed
        split
        · rename_i woke
          simp only [woke, if_true] at placed
          simp only [passesAgain, here, Bool.and_eq_true] at passes
          exact requeued.after placed (stopWaiting_received message true)
            (stopWaiting_lawful message true here (by simpa using passes.1) passes.2)
        · exact requeued
      · exact requeued
    | timeOut task now =>
      dsimp only at placed ⊢
      split
      · rename_i message rest here
        rw [here] at placed
        simp only [passesAgain, here, Bool.and_eq_true] at passes
        exact requeued.after placed (stopWaiting_received message false)
          (stopWaiting_lawful message false here (by simpa using passes.1) (by simpa using passes.2))
      · exact requeued

end Steps

/-- A task before its next piece, with what waits in the queue and what was handled. Since
`start` nothing else has changed. -/
structure Serving (start state : Pipeline) (task : TaskNo) (pieces : List Piece)
    (items : List QueuedMessage) (handled : List PipelineMessage) : Prop where
  running : state.hung = false
  stack : state.stack = Function.update start.stack task pieces
  items : state.queue.items = items
  handled : state.handled = handled
  buffers : state.buffers = start.buffers
  batches : state.batches = start.batches
  deferred : state.deferred = start.deferred
  closing : state.closing = start.closing
  closed : state.closed = start.closed

structure PassTimes where
  taken : Time
  deduped : Time
  limited : Time
  acquired : Time
  called : Time
  deriving DecidableEq

def passEvents (task : TaskNo) (times : PassTimes) : List Event :=
  [.run task times.taken, .run task times.deduped, .run task times.limited,
    .run task times.acquired, .run task times.called, .finish task]

section Serving
variable {setup : PipelineSetup} {start state : Pipeline} {task : TaskNo} {piece : Piece}
  {rest : List Piece} {items : List QueuedMessage} {handled : List PipelineMessage}
  {message : PipelineMessage} {now : Time}
variable {pieces : List Piece}

theorem Serving.top (serving : Serving start state task pieces items handled) :
    state.stack task = pieces := by
  rw [serving.stack]
  exact Function.update_self task pieces start.stack

theorem Serving.restack (serving : Serving start state task pieces items handled)
    (next : List Piece) :
    Function.update state.stack task next = Function.update start.stack task next := by
  rw [serving.stack]
  apply Function.update_idem

theorem Serving.run (serving : Serving start state task (piece :: rest) items handled)
    (free : wantsDebouncer setup piece = false) :
    state.step setup (.run task now) = state.perform setup task now rest piece := by
  unfold step
  rw [serving.running, if_neg Bool.false_ne_true]
  change state.run setup task now = _
  rw [Pipeline.run, serving.top]
  dsimp only
  rw [free, if_neg]
  rintro ⟨wanted, _⟩
  cases wanted

theorem Serving.takes {item : QueuedMessage} {count : Nat}
    (serving : Serving start state task (.draining (count + 1) :: rest) (item :: items) handled)
    (fresh : state.queue.items.all (MessageQueue.isFresh setup.config.queue now) = true) :
    Serving start (state.step setup (.run task now)) task
      (.deduping item.message false :: .draining count :: rest) items handled := by
  rw [serving.run rfl]
  unfold perform drain MessageQueue.dequeue
  rw [MessageQueue.filter_fresh fresh, serving.items]
  exact { serving with stack := serving.restack _, items := rfl }

theorem Serving.dedupes
    (serving : Serving start state task (.deduping message false :: rest) items handled)
    (admits : state.admitsAgain setup now (.deduping message false) = true) :
    Serving start (state.step setup (.run task now)) task (.limiting message :: rest) items
      handled := by
  rw [serving.run rfl]
  unfold perform dedupe
  dsimp only
  split
  · rename_i on
    rw [checkAndMark_answer]
    have unknown : state.deduper.isDuplicate setup.digests setup.config.dedupe message now =
        false := by
      simpa [admitsAgain, on] using admits
    rw [unknown, if_neg Bool.false_ne_true]
    exact { serving with stack := serving.restack _ }
  · exact { serving with stack := serving.restack _ }

theorem Serving.limits
    (serving : Serving start state task (.limiting message :: rest) items handled)
    (admits : state.admitsAgain setup now (.limiting message) = true) :
    Serving start (state.step setup (.run task now)) task (.acquiring message :: rest) items
      handled := by
  rw [serving.run rfl]
  unfold perform limit
  dsimp only
  split
  · rename_i on
    rw [checkAndConsume_answer]
    have allowed : RateLimiter.allows setup.config.rateLimit (RateLimiter.countersOf
        setup.config.rateLimit state.limiter message.channel message.chatId now) = true := by
      simpa [admitsAgain, on] using admits
    rw [if_pos allowed]
    exact { serving with stack := serving.restack _ }
  · exact { serving with stack := serving.restack _ }

theorem Serving.acquires
    (serving : Serving start state task (.acquiring message :: rest) items handled)
    (admits : state.admitsAgain setup now (.acquiring message) = true) :
    ∃ slot, Serving start (state.step setup (.run task now)) task (.placing message slot :: rest)
      items handled := by
  rw [serving.run rfl]
  unfold perform acquire
  dsimp only
  split
  · rename_i on
    have available : state.concurrency.isAvailable setup.config.concurrency message = true := by
      simpa [admitsAgain, slotAvailable, on] using admits
    have answer := acquireSync_answer setup.config.concurrency state.concurrency message
    rw [available] at answer
    obtain ⟨slot, got⟩ := Option.isSome_iff_exists.mp answer
    rw [got]
    exact ⟨some slot, { serving with stack := serving.restack _ }⟩
  · exact ⟨none, { serving with stack := serving.restack _ }⟩

theorem Serving.calls {slot : Option Nat}
    (serving : Serving start state task (.placing message slot :: rest) items handled)
    (admits : state.admitsAgain setup now (.placing message slot) = true) :
    Serving start (state.step setup (.run task now)) task (.handling message slot :: rest) items
      (handled ++ [message]) := by
  obtain ⟨handler, direct⟩ := Bool.and_eq_true_iff.mp admits
  rw [serving.run rfl]
  unfold perform place
  dsimp only
  split
  · rename_i batching
    simp [batching.1, batching.2] at direct
  · unfold callHandler
    rw [if_pos handler]
    refine { serving with stack := serving.restack _, handled := ?_ }
    change state.handled ++ [message] = _
    rw [serving.handled]

variable (setup) in
theorem Serving.returns {slot : Option Nat}
    (serving : Serving start state task (.handling message slot :: rest) items handled) :
    Serving start (state.step setup (.finish task)) task rest items handled := by
  unfold step
  rw [serving.running, if_neg Bool.false_ne_true]
  dsimp only
  rw [serving.top]
  cases slot <;> exact { serving with stack := serving.restack _ }

theorem Serving.admitted (serving : Serving start state task (piece :: rest) items handled)
    (queued : (message, PipelineResult.queued) ∈ start.deferred) (has : message ∈ piece.messages)
    (passes : passesAgain setup state (.run task now) = true) :
    state.admitsAgain setup now piece = true := by
  rw [passesAgain, serving.top] at passes
  rcases Bool.or_eq_true_iff.mp (Bool.and_eq_true_iff.mp passes).2 with none | admits
  · have any : piece.messages.any state.wasQueued = true := by
      refine List.any_eq_true.mpr ⟨message, has, decide_eq_true ?_⟩
      rw [serving.deferred]
      exact queued
    rw [any] at none
    cases none
  · exact admits

theorem Serving.serves {item : QueuedMessage} {count : Nat}
    (serving : Serving start state task (.draining (count + 1) :: rest) (item :: items) handled)
    (queued : (item.message, PipelineResult.queued) ∈ start.deferred) (times : PassTimes)
    (passes : Along (step setup) (fun state event => passesAgain setup state event = true) state
      (passEvents task times)) :
    Serving start (final (step setup) state (passEvents task times)) task (.draining count :: rest)
      items (handled ++ [item.message]) := by
  obtain ⟨first, second, third, fourth, fifth, _⟩ := passes
  have fresh := first
  rw [passesAgain, serving.top] at fresh
  have taken := serving.takes (Bool.and_eq_true_iff.mp fresh).1
  have deduped := taken.dedupes (taken.admitted queued (by simp [Piece.messages]) second)
  have limited := deduped.limits (deduped.admitted queued (by simp [Piece.messages]) third)
  obtain ⟨slot, placing⟩ :=
    limited.acquires (limited.admitted queued (by simp [Piece.messages]) fourth)
  have called := placing.calls (placing.admitted queued (by simp [Piece.messages]) fifth)
  exact called.returns setup

/-- The oldest messages of the queue are handled, in their order. -/
theorem Serving.serves_all (passes : List PassTimes) (taken items : List QueuedMessage)
    (enough : taken.length = passes.length)
    (serving : Serving start state task (.draining passes.length :: rest) (taken ++ items) handled)
    (queued : ∀ item ∈ taken, (item.message, PipelineResult.queued) ∈ start.deferred)
    (admitted : Along (step setup) (fun state event => passesAgain setup state event = true) state
      (passes.flatMap (passEvents task))) :
    (final (step setup) state (passes.flatMap (passEvents task))).handled =
      handled ++ MessageQueue.messages taken := by
  induction passes generalizing state taken handled with
  | nil =>
    have none : taken = [] := List.length_eq_zero_iff.mp enough
    rw [none, MessageQueue.messages, List.map_nil, List.append_nil]
    exact serving.handled
  | cons times passes ih =>
    cases taken with
    | nil => cases enough
    | cons item taken =>
      rw [List.flatMap_cons] at admitted ⊢
      rw [along_append] at admitted
      rw [final_append]
      have next := serving.serves (queued item List.mem_cons_self) times admitted.1
      rw [ih taken (by simpa using enough) next
        (fun other member => queued other (List.mem_cons_of_mem item member)) admitted.2]
      simp [MessageQueue.messages]

end Serving

theorem fresh_requeued : Requeued fresh := by
  refine ⟨fresh_placed, fun task message enters => ?_, fun message queued => ?_,
    fun message here => ?_, fun message queued => ?_⟩
  · cases enters
  · cases queued
  · cases here
  · cases queued

def serve (state : Pipeline) (times : List PassTimes) : List Event :=
  .processQueued times.length :: times.flatMap (passEvents state.nextTask)

theorem serve_handles {setup : PipelineSetup} {state : Pipeline} (requeued : Requeued state)
    (running : state.hung = false) (on : setup.config.enableQueue = true) (times : List PassTimes)
    (enough : times.length ≤ state.queue.items.length)
    (admitted : Along (step setup) (fun state event => passesAgain setup state event = true) state
      (state.serve times)) :
    (final (step setup) state (state.serve times)).handled =
      state.handled ++ MessageQueue.messages (state.queue.items.take times.length) := by
  have spawned : state.step setup (.processQueued times.length) =
      state.spawn [.draining times.length] := by
    unfold step
    rw [running, if_neg Bool.false_ne_true]
    exact if_pos on
  have serving : Serving state (state.step setup (.processQueued times.length)) state.nextTask
      [.draining times.length]
      (state.queue.items.take times.length ++ state.queue.items.drop times.length)
      state.handled := by
    rw [spawned, List.take_append_drop]
    exact ⟨running, rfl, rfl, rfl, rfl, rfl, rfl, rfl, rfl⟩
  apply serving.serves_all times _ _ (List.length_take_of_le enough) _ admitted.2
  intro item member
  exact of_decide_eq_true (requeued.waiting item.message
    (List.mem_map.mpr ⟨item, List.mem_of_mem_take member, rfl⟩))

/-- A queued message is handled once, and `process_queued` is how it gets there. -/
theorem queued_handled_once_when_admitted (setup : PipelineSetup) (run : List Event)
    (known : Along (step setup) (fun state event => recognised setup state event = true) fresh run)
    (passes : Along (step setup) (fun state event => passesAgain setup state event = true) fresh
      run) :
    Always (step setup) keepsQueued fresh run ∧
      ∀ times : List PassTimes, setup.config.enableQueue = true →
        (final (step setup) fresh run).hung = false →
        times.length ≤ (final (step setup) fresh run).queue.items.length →
        Along (step setup) (fun state event => passesAgain setup state event = true)
          (final (step setup) fresh run) (serve (final (step setup) fresh run) times) →
        (final (step setup) (final (step setup) fresh run)
            (serve (final (step setup) fresh run) times)).handled =
          (final (step setup) fresh run).handled ++
            MessageQueue.messages ((final (step setup) fresh run).queue.items.take times.length) := by
  have both := along_and (step setup) _ _ run fresh known passes
  constructor
  · exact always_of_invariant (step setup) Requeued keepsQueued _
      (fun _ event requeued allowed => step_requeued requeued event allowed.1 allowed.2)
      (fun _ requeued => requeued.keeps) run fresh fresh_requeued both
  · intro times on running enough admitted
    have requeued := final_of_invariant (step setup) Requeued _
      (fun _ event requeued allowed => step_requeued requeued event allowed.1 allowed.2)
      run fresh fresh_requeued both
    exact serve_handles requeued running on times enough admitted

def oneAtATime (kind : PipelineKind) (mode : DedupeMode) (burst : Int) : PipelineSetup where
  kind := kind
  config :=
    { enableDebounce := false
      dedupe := { mode := mode }
      rateLimit := { burstLimit := burst }
      concurrency := { maxPerChat := 1, queueWhenLimited := false } }
  digests := ⟨id, id⟩
  hasHandler := true

def queuedBehindAnother : List Event :=
  [Event.process none ⟨0, "1", "chat", "family", "ann", "lunch", 0⟩] ++
  List.replicate 5 (Event.run 0 0) ++
  [Event.process none ⟨0, "2", "chat", "family", "ann", "dinner", 0⟩] ++
  List.replicate 4 (Event.run 1 0) ++ [Event.finish 0]

theorem queued_message_served :
    Always (step (oneAtATime .async .none 10)) keepsQueued fresh queuedBehindAnother ∧
      (final (step (oneAtATime .async .none 10))
        (final (step (oneAtATime .async .none 10)) fresh queuedBehindAnother)
        (serve (final (step (oneAtATime .async .none 10)) fresh queuedBehindAnother)
          [⟨0, 0, 0, 0, 0⟩])).handled =
        (final (step (oneAtATime .async .none 10)) fresh queuedBehindAnother).handled ++
          MessageQueue.messages ((final (step (oneAtATime .async .none 10)) fresh
            queuedBehindAnother).queue.items.take 1) :=
  have law := queued_handled_once_when_admitted (oneAtATime .async .none 10) queuedBehindAnother
    (by decide +kernel) (by decide +kernel)
  ⟨law.1, law.2 [⟨0, 0, 0, 0, 0⟩] (by decide) (by decide +kernel) (by decide +kernel)
    (by decide +kernel)⟩

def refusedAgain (kind : PipelineKind) (mode : DedupeMode) (burst : Int) :
    List (String × PipelineResult) × List (String × PipelineResult) :=
  let run := queuedBehindAnother ++
    [Event.processQueued 1, Event.run 2 0, Event.run 2 0, Event.run 2 0]
  let state := final (step (oneAtATime kind mode burst)) fresh run
  (state.deferred.map fun answer => (answer.1.messageId, answer.2),
    state.turnedAway.map fun answer => (answer.1.messageId, answer.2))

/-- In both classes the second pass meets what the first one left. -/
theorem second_pass_refused :
    refusedAgain .async .combined 10 = ([("2", .queued)], [("2", .duplicate)]) ∧
      refusedAgain .sync .combined 10 = ([("2", .queued)], [("2", .duplicate)]) ∧
      refusedAgain .async .none 2 = ([("2", .queued)], [("2", .rateLimited)]) ∧
      refusedAgain .sync .none 2 = ([("2", .queued)], [("2", .rateLimited)]) := by
  decide +kernel

end Pipeline

end Hartos.Queue
