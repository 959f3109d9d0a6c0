import Hartos.QueuePasses

/-!
What a shutdown leaves undone. Nothing that was accepted is lost when it finds no call
under way and nothing in a buffer or a batch, and when the queue's messages all get
through to the handler.
-/
namespace Hartos.Queue
open KeyedTable StepSystem

namespace Pipeline

def leavesNone (state : Pipeline) : Prop :=
  state.closed = true → ∀ answer ∈ state.deferred, answer.1 ∈ state.handled

instance (state : Pipeline) : Decidable state.leavesNone :=
  inferInstanceAs (Decidable (_ → ∀ answer ∈ state.deferred, _))

def readyToClose (setup : PipelineSetup) (state : Pipeline) : Bool :=
  (List.range state.nextTask).all (fun task => decide (state.stack task = [])) &&
    decide (state.buffers.rows = []) && decide (state.batches.rows = []) &&
    (setup.config.enableQueue || decide (state.queue.items = [])) &&
    state.deferred.all fun answer => decide (answer.1 ∈ state.handled) ||
      decide (answer.1 ∈ MessageQueue.messages state.queue.items)

def drainsOn (setup : PipelineSetup) (state : Pipeline) (now : Time) (piece : Piece) : Bool :=
  (match piece with
    | .draining _ => state.queue.items.all (MessageQueue.isFresh setup.config.queue now)
    | _ => true) && state.admitsAgain setup now piece

def closesWell (setup : PipelineSetup) (state : Pipeline) : Event → Bool
  | .shutdown => if state.closing then state.closed else state.readyToClose setup
  | .processQueued _ => !state.closing || state.closed
  | .run task now =>
      !state.closing || state.closed ||
        match state.stack task with
        | [] => true
        | piece :: _ => state.drainsOn setup now piece
  | _ => true

structure Open (state : Pipeline) : Prop where
  closing : state.closing = false
  closed : state.closed = false
  idle : ∀ task, state.nextTask ≤ task → state.stack task = []
  pieces : ∀ task, .clearing ∉ state.stack task

section Open
variable {setup : PipelineSetup} {state after : Pipeline} {task : TaskNo} {piece : Piece}
  {rest : List Piece} {now : Time}

section

variable (opened : Open state)
include opened

theorem Open.relabel (closing : after.closing = state.closing)
    (closed : after.closed = state.closed) (next : after.nextTask = state.nextTask)
    (stack : after.stack = state.stack) : Open after := by
  refine ⟨closing.trans opened.closing, closed.trans opened.closed, ?_, ?_⟩
  · rw [next, stack]
    exact opened.idle
  · rw [stack]
    exact opened.pieces

theorem Open.restacked (known : task < state.nextTask) (pieces : List Piece)
    (closing : after.closing = state.closing) (closed : after.closed = state.closed)
    (next : after.nextTask = state.nextTask)
    (stack : after.stack = Function.update state.stack task pieces) (none : .clearing ∉ pieces) :
    Open after := by
  refine ⟨closing.trans opened.closing, closed.trans opened.closed, fun other later => ?_,
    fun other => ?_⟩
  · rw [next] at later
    rw [stack, Function.update_of_ne (Nat.ne_of_gt (Nat.lt_of_lt_of_le known later))]
    exact opened.idle other later
  · rw [stack]
    by_cases same : other = task
    · rw [same, Function.update_self]
      exact none
    · rw [Function.update_of_ne same]
      exact opened.pieces other

theorem Open.known (here : state.stack task = piece :: rest) : task < state.nextTask := by
  by_contra later
  rw [opened.idle task (Nat.le_of_not_lt later)] at here
  cases here

theorem Open.goesOn (here : state.stack task = piece :: rest) (pieces : List Piece)
    (closing : after.closing = state.closing) (closed : after.closed = state.closed)
    (next : after.nextTask = state.nextTask)
    (stack : after.stack = Function.update state.stack task (pieces ++ rest))
    (none : .clearing ∉ pieces) : Open after := by
  apply opened.restacked (opened.known here) (pieces ++ rest) closing closed next stack
  have left := opened.pieces task
  rw [here] at left
  simp only [List.mem_append, not_or]
  exact ⟨none, fun inside => left (List.mem_cons_of_mem piece inside)⟩

theorem Open.spawned (pieces : List Piece) (closing : after.closing = state.closing)
    (closed : after.closed = state.closed) (next : after.nextTask = state.nextTask + 1)
    (stack : after.stack = Function.update state.stack state.nextTask pieces)
    (none : .clearing ∉ pieces) : Open after := by
  refine ⟨closing.trans opened.closing, closed.trans opened.closed, fun other later => ?_,
    fun other => ?_⟩
  · rw [next] at later
    rw [stack, Function.update_of_ne (Nat.ne_of_gt later)]
    exact opened.idle other (Nat.le_of_lt later)
  · rw [stack]
    by_cases same : other = state.nextTask
    · rw [same, Function.update_self]
      exact none
    · rw [Function.update_of_ne same]
      exact opened.pieces other

variable (message : PipelineMessage)

theorem queueMessage_open (here : state.stack task = piece :: rest) :
    Open (state.queueMessage setup task rest message now) := by
  unfold queueMessage
  dsimp only
  split
  · split
    · exact opened.goesOn here [] rfl rfl rfl rfl (by simp)
    · exact opened.goesOn here [] rfl rfl rfl rfl (by simp)
  · exact opened.goesOn here [] rfl rfl rfl rfl (by simp)

theorem callHandler_open (slot : Option Nat) (here : state.stack task = piece :: rest)
    (pieces : List Piece) (none : .clearing ∉ pieces) :
    Open (state.callHandler setup task (pieces ++ rest) message slot) := by
  unfold callHandler
  split
  · exact opened.goesOn here (.handling message slot :: pieces) rfl rfl rfl rfl (by simpa using none)
  · cases slot <;> exact opened.goesOn here pieces rfl rfl rfl rfl none

theorem stopWaiting_open (signalled : Bool) (here : state.stack task = piece :: rest) :
    Open (state.stopWaiting setup task rest message signalled now) := by
  have left : Open { state with
      concurrency := state.concurrency.stopWaiting message
      woken := state.woken.filter (· ≠ task) } := opened.relabel rfl rfl rfl rfl
  unfold stopWaiting
  dsimp only
  split
  · split
    · exact opened.goesOn here [.placing message _] rfl rfl rfl rfl (by simp)
    · exact queueMessage_open left message here
  · exact queueMessage_open left message here

theorem perform_open (here : state.stack task = piece :: rest) :
    Open (state.perform setup task now rest piece) := by
  cases piece with
  | entering message =>
    unfold perform debounce
    dsimp only
    split
    · split
      · split
        · exact opened.goesOn here [.passing [] _, .passing _ [message]] rfl rfl rfl rfl (by simp)
        · exact opened.goesOn here [.passing [] _] rfl rfl rfl rfl (by simp)
      · split
        · exact opened.goesOn here [.passing [] _, .unlocking] rfl rfl rfl rfl (by simp)
        · exact opened.goesOn here [] rfl rfl rfl rfl (by simp)
    · exact opened.goesOn here [.deduping message false] rfl rfl rfl rfl (by simp)
  | flushing key => exact opened.goesOn here [.passing [] _] rfl rfl rfl rfl (by simp)
  | passing again messages =>
    unfold perform pass
    dsimp only
    split
    · exact opened.goesOn here [.deduping _ true, .passing _ _] rfl rfl rfl rfl (by simp)
    · exact opened.goesOn here [.deduping _ false, .passing [] _] rfl rfl rfl rfl (by simp)
    · exact opened.goesOn here [] rfl rfl rfl rfl (by simp)
  | unlocking => exact opened.goesOn here [] rfl rfl rfl rfl (by simp)
  | deduping message again =>
    unfold perform dedupe
    dsimp only
    split
    · split
      · split
        · exact opened.goesOn here [] rfl rfl rfl rfl (by simp)
        · exact opened.goesOn here [] rfl rfl rfl rfl (by simp)
      · exact opened.goesOn here [.limiting message] rfl rfl rfl rfl (by simp)
    · exact opened.goesOn here [.limiting message] rfl rfl rfl rfl (by simp)
  | limiting message =>
    unfold perform limit
    dsimp only
    split
    · split
      · exact opened.goesOn here [.acquiring message] rfl rfl rfl rfl (by simp)
      · exact opened.goesOn here [] rfl rfl rfl rfl (by simp)
    · exact opened.goesOn here [.acquiring message] rfl rfl rfl rfl (by simp)
  | acquiring message =>
    unfold perform acquire
    dsimp only
    split
    · split
      · exact opened.goesOn here [.placing message _] rfl rfl rfl rfl (by simp)
      · split
        · exact opened.goesOn here [.waiting message] rfl rfl rfl rfl (by simp)
        · exact queueMessage_open opened message here
    · exact opened.goesOn here [.placing message none] rfl rfl rfl rfl (by simp)
  | waiting message => exact opened.goesOn here [.waiting message] rfl rfl rfl rfl (by simp)
  | placing message slot =>
    unfold perform place
    dsimp only
    split
    · split
      · exact opened.goesOn here [] rfl rfl rfl rfl (by simp)
      · cases slot <;> exact opened.goesOn here [] rfl rfl rfl rfl (by simp)
    · exact callHandler_open opened message slot here [] (by simp)
  | handling message slot => exact opened.goesOn here [.handling message slot] rfl rfl rfl rfl (by simp)
  | handlingAll messages =>
    cases messages with
    | nil => exact opened.goesOn here [] rfl rfl rfl rfl (by simp)
    | cons message messages =>
      exact callHandler_open opened message none here [.handlingAll messages] (by simp)
  | draining items =>
    unfold perform drain
    dsimp only
    split
    · exact opened.goesOn here [] rfl rfl rfl rfl (by simp)
    · split
      · exact opened.goesOn here [] rfl rfl rfl rfl (by simp)
      · exact opened.goesOn here [.deduping _ false, .draining _] rfl rfl rfl rfl (by simp)
  | listingBuffers => exact opened.goesOn here [.discarding _] rfl rfl rfl rfl (by simp)
  | discarding keys =>
    cases keys with
    | nil => exact opened.goesOn here [] rfl rfl rfl rfl (by simp)
    | cons key keys => exact opened.goesOn here [.discarding keys] rfl rfl rfl rfl (by simp)
  | listingBatches => exact opened.goesOn here [.flushingBatches _] rfl rfl rfl rfl (by simp)
  | flushingBatches keys =>
    cases keys with
    | nil => exact opened.goesOn here [] rfl rfl rfl rfl (by simp)
    | cons key keys =>
      unfold perform
      dsimp only
      split
      · exact opened.goesOn here [.flushingBatches keys] rfl rfl rfl rfl (by simp)
      · have emptied : Open ({ state with batches := state.batches.erase key }.continueWith task
            (.flushingBatches keys :: rest)) :=
          opened.goesOn here [.flushingBatches keys] rfl rfl rfl rfl (by simp)
        exact emptied.spawned [.handlingAll _] rfl rfl rfl rfl (by simp)
  | drainingAll => exact opened.goesOn here [.draining _] rfl rfl rfl rfl (by simp)
  | clearing =>
    have none := opened.pieces task
    rw [here] at none
    exact absurd List.mem_cons_self none

/-- Every event but a shutdown leaves the pipeline open. -/
theorem step_open (event : Event) (stays : event ≠ .shutdown) : Open (state.step setup event) := by
  unfold step
  split
  · exact opened
  · cases event with
    | process caller draft =>
      dsimp only
      split
      · rename_i may
        unfold process
        split
        · exact opened.relabel rfl rfl rfl rfl
        · cases caller with
          | none => exact opened.spawned [.entering _] rfl rfl rfl rfl (by simp)
          | some caller =>
            cases here : state.stack caller with
            | nil =>
              rw [mayCall, here] at may
              cases may
            | cons piece rest =>
              refine opened.restacked (opened.known here) _ rfl rfl rfl rfl ?_
              simpa using opened.pieces caller
      · exact opened
    | expire key =>
      dsimp only
      unfold expire
      split
      · exact opened
      · split
        · exact opened.spawned [.flushing key] rfl rfl rfl rfl (by simp)
        · exact opened
    | expireBatch key =>
      dsimp only
      unfold expireBatch
      split
      · exact opened
      · split
        · exact opened.spawned [.handlingAll _] rfl rfl rfl rfl (by simp)
        · exact opened
    | processQueued maxItems =>
      dsimp only
      split
      · exact opened.spawned [.draining maxItems] rfl rfl rfl rfl (by simp)
      · exact opened
    | shutdown => exact absurd rfl stays
    | run task now =>
      dsimp only
      unfold run
      split
      · exact opened
      · rename_i here
        split
        · unfold blocked
          split
          · exact opened.relabel rfl rfl rfl rfl
          · exact opened
        · exact perform_open opened here
    | finish task =>
      dsimp only
      split
      · rename_i slot rest here
        cases slot <;> exact opened.goesOn here [] rfl rfl rfl rfl (by simp)
      · exact opened
    | wake task now =>
      dsimp only
      split
      · rename_i message rest here
        split
        · exact stopWaiting_open opened message true here
        · exact opened
      · exact opened
    | timeOut task now =>
      dsimp only
      split
      · rename_i message rest here
        exact stopWaiting_open opened message false here
      · exact opened

end

end Open

end Pipeline

end Hartos.Queue
