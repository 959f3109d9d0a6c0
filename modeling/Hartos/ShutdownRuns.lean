import Hartos.PipelineShutdown

/-!
A shutdown from its first step to the closed pipeline: it finds nothing to flush, drains
the queue, and what is called later finds nothing.
-/
namespace Hartos.Queue
open KeyedTable StepSystem

namespace Pipeline

def isIdle : Piece → Bool
  | .listingBuffers | .discarding [] | .listingBatches | .flushingBatches [] => true
  | _ => false

/-- A piece that a later call of `process_queued` or `shutdown` brings. -/
def isLate : Piece → Bool
  | .draining _ | .drainingAll | .clearing => true
  | piece => isIdle piece

inductive OnItsWay (message : PipelineMessage) : Piece → Prop where
  | deduping : OnItsWay message (.deduping message false)
  | limiting : OnItsWay message (.limiting message)
  | acquiring : OnItsWay message (.acquiring message)
  | placing (slot : Option Nat) : OnItsWay message (.placing message slot)
  | handling (slot : Option Nat) : OnItsWay message (.handling message slot)

inductive Stage (setup : PipelineSetup) (items : List QueuedMessage) : List Piece → Prop where
  | flushing (front : List Piece) (idle : front.all isIdle = true)
      (drains : setup.config.enableQueue = false → items = []) :
      Stage setup items (front ++ ((if setup.config.enableQueue then [Piece.drainingAll] else []) ++
        [Piece.clearing]))
  | draining (count : Nat) (enough : items.length ≤ count) :
      Stage setup items [.draining count, .clearing]
  | passing (message : PipelineMessage) (piece : Piece) (way : OnItsWay message piece) (count : Nat)
      (enough : items.length ≤ count) : Stage setup items [piece, .draining count, .clearing]
  | clearing (empty : items = []) : Stage setup items [Piece.clearing]

structure Closing (setup : PipelineSetup) (state : Pipeline) (task : TaskNo) : Prop where
  closing : state.closing = true
  closed : state.closed = false
  alone : ∀ other, other ≠ task → state.stack other = []
  buffers : state.buffers.rows = []
  batches : state.batches.rows = []
  accounted : ∀ answer ∈ state.deferred, answer.1 ∈ state.handled ∨
    answer.1 ∈ MessageQueue.messages state.queue.items ∨
    answer.1 ∈ (state.stack task).flatMap Piece.messages
  stage : Stage setup state.queue.items (state.stack task)

structure Closed (state : Pipeline) : Prop where
  closing : state.closing = true
  closed : state.closed = true
  buffers : state.buffers.rows = []
  batches : state.batches.rows = []
  empty : state.queue.items = []
  handled : ∀ answer ∈ state.deferred, answer.1 ∈ state.handled
  pieces : ∀ task, ∀ piece ∈ state.stack task, isLate piece = true

section Closing
variable {setup : PipelineSetup} {state after : Pipeline} {task : TaskNo} {piece : Piece}
  {rest : List Piece} {now : Time}
variable {batches : Batches PipelineMessage}

theorem keys_of_rows (empty : batches.rows = []) : batches.keys = [] := by
  rw [Table.keys, empty]
  rfl

theorem get?_of_rows (empty : batches.rows = []) (key : BatchKey) : batches.get? key = none := by
  apply (Table.get?_none batches key).mpr
  rw [keys_of_rows empty]
  exact List.not_mem_nil

theorem perform_idle (buffers : state.buffers.rows = []) (batches : state.batches.rows = [])
    (idle : isIdle piece = true) :
    ∃ next, next.all isIdle = true ∧
      state.perform setup task now rest piece = state.continueWith task (next ++ rest) := by
  cases piece with
  | listingBuffers =>
    refine ⟨[.discarding []], rfl, ?_⟩
    rw [perform, keys_of_rows buffers]
    rfl
  | discarding keys =>
    cases keys with
    | nil => exact ⟨[], rfl, rfl⟩
    | cons key keys => cases idle
  | listingBatches =>
    refine ⟨[.flushingBatches []], rfl, ?_⟩
    rw [perform, keys_of_rows batches]
    rfl
  | flushingBatches keys =>
    cases keys with
    | nil => exact ⟨[], rfl, rfl⟩
    | cons key keys => cases idle
  | _ => cases idle

theorem idle_messages {front : List Piece} (idle : front.all isIdle = true) :
    front.flatMap Piece.messages = [] := by
  rw [List.flatMap_eq_nil_iff]
  intro piece member
  have quiet := List.all_eq_true.mp idle piece member
  cases piece with
  | listingBuffers => rfl
  | discarding keys => rfl
  | listingBatches => rfl
  | flushingBatches keys => rfl
  | _ => cases quiet

theorem Closing.advance (shutting : Closing setup state task) {pieces : List Piece}
    {items : List QueuedMessage} {handled : List PipelineMessage}
    (serving : Serving state after task pieces items handled)
    (kept : ∀ answer ∈ state.deferred, answer.1 ∈ handled ∨
      answer.1 ∈ MessageQueue.messages items ∨ answer.1 ∈ pieces.flatMap Piece.messages)
    (stage : Stage setup items pieces) : Closing setup after task := by
  refine ⟨serving.closing.trans shutting.closing, serving.closed.trans shutting.closed,
    fun other different => ?_, ?_, ?_, ?_, ?_⟩
  · rw [serving.stack, Function.update_of_ne different]
    exact shutting.alone other different
  · rw [serving.buffers]
    exact shutting.buffers
  · rw [serving.batches]
    exact shutting.batches
  · rw [serving.deferred, serving.handled, serving.items, serving.top]
    exact kept
  · rw [serving.items, serving.top]
    exact stage

theorem Serving.here (running : state.hung = false) (here : state.stack task = piece :: rest) :
    Serving state state task (piece :: rest) state.queue.items state.handled :=
  ⟨running, by rw [← here, Function.update_eq_self], rfl, rfl, rfl, rfl, rfl, rfl, rfl⟩

section

variable (shutting : Closing setup state task)
include shutting

theorem Closing.ends (stack : state.stack task = [.clearing]) (empty : state.queue.items = []) :
    Closed (state.clear setup task []) := by
  have handled : ∀ answer ∈ state.deferred, answer.1 ∈ state.handled := by
    intro answer member
    have all := shutting.accounted answer member
    rw [stack, empty] at all
    rcases all with done | queued | held
    · exact done
    · cases queued
    · cases held
  have nobody (other : TaskNo) : Function.update state.stack task [] other = [] := by
    by_cases same : other = task
    · rw [same, Function.update_self]
    · rw [Function.update_of_ne same]
      exact shutting.alone other same
  have pieces (other : TaskNo) (piece : Piece)
      (member : piece ∈ Function.update state.stack task [] other) :
      isLate piece = true := by
    rw [nobody other] at member
    cases member
  unfold clear
  split
  · exact ⟨shutting.closing, rfl, shutting.buffers, shutting.batches, empty, handled, pieces⟩
  · exact ⟨shutting.closing, rfl, rfl, rfl, rfl, handled, pieces⟩

theorem Closing.passes (running : state.hung = false) {message : PipelineMessage} {count : Nat}
    (way : OnItsWay message piece) (here : state.stack task = [piece, .draining count, .clearing])
    (enough : state.queue.items.length ≤ count)
    (admits : state.admitsAgain setup now piece = true) :
    Closing setup (state.step setup (.run task now)) task := by
  have serving := Serving.here running here
  have accounted := shutting.accounted
  rw [here] at accounted
  cases way with
  | deduping =>
    exact shutting.advance (serving.dedupes admits) accounted
      (.passing message _ .limiting count enough)
  | limiting =>
    exact shutting.advance (serving.limits admits) accounted
      (.passing message _ .acquiring count enough)
  | acquiring =>
    obtain ⟨slot, acquired⟩ := serving.acquires admits
    exact shutting.advance acquired accounted (.passing message _ (.placing slot) count enough)
  | placing slot =>
    refine shutting.advance (serving.calls admits) ?_
      (.passing message _ (.handling slot) count enough)
    intro answer member
    rcases accounted answer member with done | queued | held
    · exact Or.inl (List.mem_append_left _ done)
    · exact Or.inr (Or.inl queued)
    · have this : answer.1 = message := List.mem_singleton.mp held
      exact Or.inl (List.mem_append_right _ (List.mem_singleton.mpr this))
  | handling slot =>
    rw [serving.run rfl]
    exact shutting.advance { serving with stack := serving.restack _ } accounted
      (.passing message _ (.handling slot) count enough)

/-- The drain takes the next item, or finds the queue empty. -/
theorem Closing.drains (running : state.hung = false) (count : Nat)
    (here : state.stack task = [.draining count, .clearing])
    (enough : state.queue.items.length ≤ count)
    (fresh : state.queue.items.all (MessageQueue.isFresh setup.config.queue now) = true) :
    Closing setup (state.step setup (.run task now)) task := by
  have serving := Serving.here running here
  have accounted := shutting.accounted
  rw [here] at accounted
  cases items : state.queue.items with
  | nil =>
    -- Whatever the count is, the drain is over.
    have ended : Serving state (state.step setup (.run task now)) task [.clearing] []
        state.handled := by
      rw [serving.run rfl]
      unfold perform drain
      cases count with
      | zero => exact { serving with stack := serving.restack _, items := items }
      | succ count =>
        unfold MessageQueue.dequeue
        rw [items]
        exact { serving with stack := serving.restack _, items := rfl }
    rw [items] at accounted
    exact shutting.advance ended accounted (.clearing rfl)
  | cons item left =>
    rw [items] at enough serving
    cases count with
    | zero => cases enough
    | succ count =>
      refine shutting.advance (serving.takes fresh) ?_
        (.passing item.message _ .deduping count (Nat.le_of_succ_le_succ enough))
      intro answer member
      rcases accounted answer member with done | queued | held
      · exact Or.inl done
      · rw [items] at queued
        rcases List.mem_cons.mp queued with this | others
        · exact Or.inr (Or.inr (List.mem_cons.mpr (Or.inl this)))
        · exact Or.inr (Or.inl others)
      · cases held

theorem Closing.idles (running : state.hung = false) {front : List Piece}
    (quiet : isIdle piece = true) (others : front.all isIdle = true)
    (drains : setup.config.enableQueue = false → state.queue.items = [])
    (here : state.stack task = piece :: (front ++
      ((if setup.config.enableQueue then [Piece.drainingAll] else []) ++ [Piece.clearing]))) :
    Closing setup (state.perform setup task now (front ++
      ((if setup.config.enableQueue then [Piece.drainingAll] else []) ++ [Piece.clearing]))
      piece) task := by
  obtain ⟨next, idle, performed⟩ := perform_idle shutting.buffers shutting.batches quiet
  rw [performed, ← List.append_assoc]
  have serving := Serving.here running here
  have both : (next ++ front).all isIdle = true := by
    rw [List.all_append, idle, others]
    rfl
  have nothing : (piece :: (front ++
      ((if setup.config.enableQueue then [Piece.drainingAll] else []) ++
        [Piece.clearing]))).flatMap Piece.messages = [] := by
    have front' : (piece :: front).all isIdle = true := by
      rw [List.all_cons, quiet, others]
      rfl
    rw [← List.cons_append, List.flatMap_append, idle_messages front']
    split <;> rfl
  have moved : Serving state (state.continueWith task ((next ++ front) ++
      ((if setup.config.enableQueue then [Piece.drainingAll] else []) ++ [Piece.clearing]))) task
      ((next ++ front) ++
        ((if setup.config.enableQueue then [Piece.drainingAll] else []) ++ [Piece.clearing]))
      state.queue.items state.handled := { serving with stack := serving.restack _ }
  apply shutting.advance moved
  · intro answer member
    have all := shutting.accounted answer member
    rw [here, nothing] at all
    rcases all with done | queued | held
    · exact Or.inl done
    · exact Or.inr (Or.inl queued)
    · cases held
  · exact .flushing (next ++ front) both drains

theorem Closing.runs (running : state.hung = false)
    (free : ∀ piece rest, state.stack task = piece :: rest →
      ¬(wantsDebouncer setup piece = true ∧ state.debounceHolder.isSome = true))
    (well : ∀ piece rest, state.stack task = piece :: rest →
      state.drainsOn setup now piece = true) :
    Closing setup (state.step setup (.run task now)) task ∨
      Closed (state.step setup (.run task now)) := by
  have performs (piece : Piece) (rest : List Piece) (here : state.stack task = piece :: rest) :
      state.step setup (.run task now) = state.perform setup task now rest piece := by
    unfold step
    rw [running, if_neg Bool.false_ne_true]
    change state.run setup task now = _
    rw [run, here]
    exact if_neg (free piece rest here)
  have ends (here : state.stack task = [.clearing]) (empty : state.queue.items = []) :
      Closed (state.step setup (.run task now)) := by
    rw [performs _ _ here]
    exact shutting.ends here empty
  have stage := shutting.stage
  generalize here : state.stack task = pieces at stage
  cases stage with
  | flushing front idle drains =>
    cases front with
    | nil =>
      by_cases on : setup.config.enableQueue = true
      · rw [if_pos on] at here
        have serving := Serving.here running here
        have accounted := shutting.accounted
        rw [here] at accounted
        rw [performs _ _ here]
        have drained : Serving state (state.continueWith task
            [.draining state.queue.items.length, .clearing]) task
            [.draining state.queue.items.length, .clearing] state.queue.items state.handled :=
          { serving with stack := serving.restack _ }
        exact Or.inl (shutting.advance drained accounted (.draining _ (Nat.le_refl _)))
      · rw [if_neg on] at here
        exact Or.inr (ends here (drains (by simpa using on)))
    | cons piece front =>
      obtain ⟨quiet, others⟩ := Bool.and_eq_true_iff.mp idle
      rw [performs _ _ here]
      exact Or.inl (shutting.idles running quiet others drains here)
  | draining count enough =>
    have fresh := (Bool.and_eq_true_iff.mp (well _ _ here)).1
    exact Or.inl (shutting.drains running count here enough fresh)
  | passing message piece way count enough =>
    have admits := (Bool.and_eq_true_iff.mp (well _ _ here)).2
    exact Or.inl (shutting.passes running way here enough admits)
  | clearing empty => exact Or.inr (ends here empty)

theorem Closing.unchanged (closing : after.closing = state.closing)
    (closed : after.closed = state.closed) (stack : after.stack = state.stack)
    (buffers : after.buffers = state.buffers) (batches : after.batches = state.batches)
    (queue : after.queue = state.queue) (deferred : after.deferred = state.deferred)
    (handled : after.handled = state.handled) : Closing setup after task := by
  refine ⟨closing.trans shutting.closing, closed.trans shutting.closed, ?_, ?_, ?_, ?_, ?_⟩
  · rw [stack]
    exact shutting.alone
  · rw [buffers]
    exact shutting.buffers
  · rw [batches]
    exact shutting.batches
  · rw [deferred, handled, queue, stack]
    exact shutting.accounted
  · rw [queue, stack]
    exact shutting.stage

theorem Closing.not_waiting (other : TaskNo) (message : PipelineMessage) (rest : List Piece) :
    state.stack other ≠ .waiting message :: rest := by
  intro here
  by_cases same : other = task
  · rw [same] at here
    have stage := shutting.stage
    rw [here] at stage
    generalize pieces : Piece.waiting message :: rest = all at stage
    cases stage with
    | flushing front idle drains =>
      cases front with
      | nil =>
        split at pieces <;> cases pieces
      | cons piece front =>
        cases pieces
        cases idle
    | draining count enough => cases pieces
    | passing message piece way count enough =>
      cases pieces
      cases way
    | clearing empty => cases pieces
  · rw [shutting.alone other same] at here
    cases here

theorem Closing.finishes (running : state.hung = false) (message : PipelineMessage)
    (slot : Option Nat) (rest : List Piece)
    (here : state.stack task = .handling message slot :: rest) :
    Closing setup (state.step setup (.finish task)) task := by
  have serving := Serving.here running here
  have accounted := shutting.accounted
  have stage := shutting.stage
  rw [here] at accounted stage
  refine shutting.advance (serving.returns setup) accounted ?_
  generalize pieces : Piece.handling message slot :: rest = all at stage
  cases stage with
  | flushing front idle drains =>
    cases front with
    | nil =>
      split at pieces <;> cases pieces
    | cons piece front =>
      cases pieces
      cases idle
  | draining count enough => cases pieces
  | passing message piece way count enough =>
    cases pieces
    exact .draining count enough
  | clearing empty => cases pieces

theorem run_closing (running : state.hung = false) (other : TaskNo) (now : Time)
    (well : closesWell setup state (.run other now) = true) :
    Closing setup (state.step setup (.run other now)) task ∨
      Closed (state.step setup (.run other now)) := by
  by_cases same : other = task
  · rw [same]
    rw [same, closesWell, shutting.closing, shutting.closed] at well
    by_cases taken : ∃ piece rest, state.stack task = piece :: rest ∧
        wantsDebouncer setup piece = true ∧ state.debounceHolder.isSome = true
    · obtain ⟨piece, rest, here, blocking⟩ := taken
      refine Or.inl ?_
      unfold step
      rw [running, if_neg Bool.false_ne_true]
      dsimp only
      unfold run
      rw [here]
      dsimp only
      rw [if_pos blocking]
      unfold blocked
      split
      · exact shutting.unchanged rfl rfl rfl rfl rfl rfl rfl rfl
      · exact shutting
    · apply shutting.runs running
      · exact fun piece rest here blocking => taken ⟨piece, rest, here, blocking⟩
      · intro piece rest here
        rw [here] at well
        exact well
  · refine Or.inl ?_
    unfold step
    rw [running, if_neg Bool.false_ne_true]
    dsimp only
    unfold run
    rw [shutting.alone other same]
    exact shutting

theorem finish_closing (running : state.hung = false) (other : TaskNo) :
    Closing setup (state.step setup (.finish other)) task := by
  by_cases handling : ∃ message slot rest, state.stack other = .handling message slot :: rest
  · obtain ⟨message, slot, rest, here⟩ := handling
    have same : other = task := by
      by_contra different
      rw [shutting.alone other different] at here
      cases here
    rw [same] at here ⊢
    exact shutting.finishes running message slot rest here
  · unfold step
    rw [running, if_neg Bool.false_ne_true]
    dsimp only
    split
    · rename_i message slot rest here
      exact absurd ⟨message, slot, rest, here⟩ handling
    · exact shutting

theorem step_closing (event : Event) (well : closesWell setup state event = true) :
    Closing setup (state.step setup event) task ∨ Closed (state.step setup event) := by
  by_cases running : state.hung = false
  · cases event with
    | process caller draft =>
      refine Or.inl ?_
      unfold step
      rw [running, if_neg Bool.false_ne_true]
      dsimp only
      split
      · unfold process
        rw [if_pos shutting.closing]
        exact shutting.unchanged rfl rfl rfl rfl rfl rfl rfl rfl
      · exact shutting
    | expire key =>
      refine Or.inl ?_
      unfold step expire
      rw [running, if_neg Bool.false_ne_true]
      dsimp only
      rw [get?_of_rows shutting.buffers]
      exact shutting
    | expireBatch key =>
      refine Or.inl ?_
      unfold step expireBatch
      rw [running, if_neg Bool.false_ne_true]
      dsimp only
      rw [get?_of_rows shutting.batches]
      exact shutting
    | processQueued maxItems =>
      rw [closesWell, shutting.closing, shutting.closed] at well
      cases well
    | shutdown =>
      rw [closesWell, shutting.closing, shutting.closed] at well
      cases well
    | run other now => exact run_closing shutting running other now well
    | finish other => exact Or.inl (finish_closing shutting running other)
    | wake other now =>
      refine Or.inl ?_
      unfold step
      rw [running, if_neg Bool.false_ne_true]
      dsimp only
      split
      · rename_i message rest here
        exact absurd here (shutting.not_waiting other message rest)
      · exact shutting
    | timeOut other now =>
      refine Or.inl ?_
      unfold step
      rw [running, if_neg Bool.false_ne_true]
      dsimp only
      split
      · rename_i message rest here
        exact absurd here (shutting.not_waiting other message rest)
      · exact shutting
  · refine Or.inl ?_
    unfold step
    rw [if_pos (by simpa using running)]
    exact shutting

end

theorem shutdownPieces_split (setup : PipelineSetup) :
    ∃ front, front.all isIdle = true ∧
      shutdownPieces setup = front ++
        ((if setup.config.enableQueue then [Piece.drainingAll] else []) ++ [Piece.clearing]) := by
  refine ⟨_, ?_, List.append_assoc _ _ _⟩
  split <;> split <;> rfl

theorem Open.shuts (opened : Open state) (running : state.hung = false)
    (ready : state.readyToClose setup = true) :
    Closing setup (state.step setup .shutdown) state.nextTask := by
  simp only [readyToClose, Bool.and_eq_true, decide_eq_true_eq] at ready
  obtain ⟨⟨⟨⟨idle, buffers⟩, batches⟩, drains⟩, accounted⟩ := ready
  obtain ⟨front, quiet, split⟩ := shutdownPieces_split setup
  unfold step
  rw [running, if_neg Bool.false_ne_true]
  refine ⟨rfl, opened.closed, fun other different => ?_, buffers, batches,
    fun answer member => ?_, ?_⟩
  · refine (Function.update_of_ne different _ _).trans ?_
    by_cases earlier : other < state.nextTask
    · exact of_decide_eq_true (List.all_eq_true.mp idle other (List.mem_range.mpr earlier))
    · exact opened.idle other (Nat.le_of_not_lt earlier)
  · have answered := List.all_eq_true.mp accounted answer member
    rcases Bool.or_eq_true_iff.mp answered with done | queued
    · exact Or.inl (of_decide_eq_true done)
    · exact Or.inr (Or.inl (of_decide_eq_true queued))
  · change Stage setup state.queue.items (Function.update state.stack state.nextTask _ state.nextTask)
    rw [Function.update_self, split]
    apply Stage.flushing front quiet
    intro off
    simpa [off] using drains

theorem Closed.goesOn (shut : Closed state) (pieces : List Piece)
    (closing : after.closing = state.closing) (closed : after.closed = state.closed)
    (stack : after.stack = Function.update state.stack task pieces)
    (buffers : after.buffers.rows = []) (batches : after.batches.rows = [])
    (empty : after.queue.items = []) (deferred : after.deferred = state.deferred)
    (handled : after.handled = state.handled) (late : ∀ piece ∈ pieces, isLate piece = true) :
    Closed after := by
  refine ⟨closing.trans shut.closing, closed.trans shut.closed, buffers, batches, empty, ?_,
    fun other piece member => ?_⟩
  · rw [deferred, handled]
    exact shut.handled
  · rw [stack] at member
    by_cases same : other = task
    · rw [same, Function.update_self] at member
      exact late piece member
    · rw [Function.update_of_ne same] at member
      exact shut.pieces other piece member

theorem late_of_idle {pieces : List Piece} (idle : pieces.all isIdle = true) :
    ∀ piece ∈ pieces, isLate piece = true := by
  intro piece member
  have quiet := List.all_eq_true.mp idle piece member
  cases piece <;> first | rfl | exact quiet

theorem Closed.performs (shut : Closed state) (here : state.stack task = piece :: rest) :
    Closed (state.perform setup task now rest piece) := by
  have all : ∀ other ∈ piece :: rest, isLate other = true := by
    rw [← here]
    exact shut.pieces task
  have left (other : Piece) (member : other ∈ rest) : isLate other = true :=
    all other (List.mem_cons_of_mem piece member)
  have late : isLate piece = true := all piece List.mem_cons_self
  have quiet (idle : isIdle piece = true) : Closed (state.perform setup task now rest piece) := by
    obtain ⟨next, idles, performed⟩ : ∃ next, next.all isIdle = true ∧
        state.perform setup task now rest piece = state.continueWith task (next ++ rest) :=
      perform_idle shut.buffers shut.batches idle
    rw [performed]
    refine shut.goesOn (next ++ rest) rfl rfl rfl shut.buffers shut.batches shut.empty rfl rfl ?_
    intro other member
    rcases List.mem_append.mp member with new | old
    · exact late_of_idle idles other new
    · exact left other old
  cases piece with
  | draining count =>
    unfold perform drain
    cases count with
    | zero => exact shut.goesOn rest rfl rfl rfl shut.buffers shut.batches shut.empty rfl rfl left
    | succ count =>
      unfold MessageQueue.dequeue
      rw [shut.empty]
      exact shut.goesOn rest rfl rfl rfl shut.buffers shut.batches rfl rfl rfl left
  | drainingAll =>
    refine shut.goesOn (.draining state.queue.items.length :: rest) rfl rfl rfl shut.buffers
      shut.batches shut.empty rfl rfl ?_
    intro other member
    rcases List.mem_cons.mp member with rfl | old
    · rfl
    · exact left other old
  | clearing =>
    unfold perform clear
    dsimp only
    split
    · exact shut.goesOn rest rfl shut.closed.symm rfl shut.buffers shut.batches shut.empty rfl rfl
        left
    · exact shut.goesOn rest rfl shut.closed.symm rfl rfl rfl rfl rfl rfl left
  | _ => exact quiet late

theorem Closed.spawned (shut : Closed state) (pieces : List Piece)
    (late : ∀ piece ∈ pieces, isLate piece = true) : Closed (state.spawn pieces) :=
  shut.goesOn pieces rfl rfl rfl shut.buffers shut.batches shut.empty rfl rfl late

theorem step_closed (shut : Closed state) (event : Event) : Closed (state.step setup event) := by
  have unaware (other : TaskNo) (piece : Piece) (rest : List Piece)
      (here : state.stack other = piece :: rest) : isLate piece = true := by
    apply shut.pieces other piece
    rw [here]
    exact List.mem_cons_self
  unfold step
  split
  · exact shut
  · cases event with
    | process caller draft =>
      dsimp only
      split
      · unfold process
        rw [if_pos shut.closing]
        exact ⟨shut.closing, shut.closed, shut.buffers, shut.batches, shut.empty, shut.handled,
          shut.pieces⟩
      · exact shut
    | expire key =>
      dsimp only
      unfold expire
      rw [get?_of_rows shut.buffers]
      exact shut
    | expireBatch key =>
      dsimp only
      unfold expireBatch
      rw [get?_of_rows shut.batches]
      exact shut
    | processQueued maxItems =>
      dsimp only
      split
      · apply shut.spawned [.draining maxItems]
        intro piece member
        rw [List.mem_singleton.mp member]
        rfl
      · exact shut
    | shutdown =>
      have again : Closed { state with closing := true } :=
        ⟨rfl, shut.closed, shut.buffers, shut.batches, shut.empty, shut.handled, shut.pieces⟩
      apply again.spawned (shutdownPieces setup)
      obtain ⟨front, quiet, split⟩ := shutdownPieces_split setup
      rw [split]
      intro piece member
      rcases List.mem_append.mp member with idle | others
      · exact late_of_idle quiet piece idle
      · split at others
        · simp only [List.mem_append, List.mem_singleton] at others
          rcases others with rfl | rfl <;> rfl
        · simp only [List.nil_append, List.mem_singleton] at others
          rw [others]
          rfl
    | run task now =>
      dsimp only
      unfold run
      split
      · exact shut
      · rename_i piece rest here
        split
        · unfold blocked
          split
          · exact ⟨shut.closing, shut.closed, shut.buffers, shut.batches, shut.empty, shut.handled,
              shut.pieces⟩
          · exact shut
        · exact shut.performs here
    | finish task =>
      dsimp only
      split
      · rename_i message slot rest here
        cases unaware task _ rest here
      · exact shut
    | wake task now =>
      dsimp only
      split
      · rename_i message rest here
        cases unaware task _ rest here
      · exact shut
    | timeOut task now =>
      dsimp only
      split
      · rename_i message rest here
        cases unaware task _ rest here
      · exact shut

inductive Progress (setup : PipelineSetup) (state : Pipeline) : Prop where
  | opened (opened : Open state)
  | closing (task : TaskNo) (shutting : Closing setup state task)
  | closed (shut : Closed state)

theorem step_progress (progress : Progress setup state) (event : Event)
    (well : closesWell setup state event = true) : Progress setup (state.step setup event) := by
  cases progress with
  | opened opened =>
    by_cases shuts : event = .shutdown
    · by_cases running : state.hung = false
      · rw [shuts]
        rw [shuts, closesWell, opened.closing] at well
        exact .closing state.nextTask (opened.shuts running well)
      · refine .opened ?_
        unfold step
        rw [if_pos (by simpa using running)]
        exact opened
    · exact .opened (step_open opened event shuts)
  | closing task shutting =>
    rcases step_closing shutting event well with goesOn | shut
    · exact .closing task goesOn
    · exact .closed shut
  | closed shut => exact .closed (step_closed shut event)

theorem Progress.leavesNone (progress : Progress setup state) : state.leavesNone := by
  intro ended
  cases progress with
  | opened opened =>
    rw [opened.closed] at ended
    cases ended
  | closing task shutting =>
    rw [shutting.closed] at ended
    cases ended
  | closed shut => exact shut.handled

end Closing

theorem fresh_open : Open fresh :=
  ⟨rfl, rfl, fun _ _ => rfl, fun _ inside => by cases inside⟩

/-- When the pipeline has closed, nothing that it accepted is left. -/
theorem shutdown_leaves_none_when_drained (setup : PipelineSetup) (run : List Event)
    (well : Along (step setup) (fun state event => closesWell setup state event = true) fresh run) :
    Always (step setup) leavesNone fresh run :=
  always_of_invariant (step setup) (Progress setup) leavesNone
    (fun state event => closesWell setup state event = true)
    (fun _ event progress well => step_progress progress event well)
    (fun _ progress => progress.leavesNone) run fresh (.opened fresh_open) well

def queuedThenShutdown : List Event :=
  queuedBehindAnother ++ [Event.shutdown] ++ List.replicate 8 (Event.run 2 0) ++ [Event.finish 2] ++
    List.replicate 2 (Event.run 2 0)

theorem queued_message_outlives_shutdown :
    Always (step (oneAtATime .async .none 10)) leavesNone fresh queuedThenShutdown :=
  shutdown_leaves_none_when_drained (oneAtATime .async .none 10) queuedThenShutdown
    (by decide +kernel)

def debouncedThenShutdown : List Event :=
  [Event.process none ⟨0, "1", "chat", "family", "ann", "lunch", 0⟩, Event.run 0 0,
    Event.shutdown] ++ List.replicate 6 (Event.run 1 0)

def debouncing (kind : PipelineKind) : PipelineSetup := ⟨kind, {}, ⟨id, id⟩, true⟩

theorem debounced_message_dropped_by_shutdown :
    ¬leavesNone (final (step (debouncing .async)) fresh debouncedThenShutdown) ∧
      ¬leavesNone (final (step (debouncing .sync)) fresh debouncedThenShutdown) ∧
      (final (step (debouncing .async)) fresh debouncedThenShutdown).closed = true ∧
      (final (step (debouncing .sync)) fresh debouncedThenShutdown).closed = true := by
  decide +kernel

end Pipeline

end Hartos.Queue
