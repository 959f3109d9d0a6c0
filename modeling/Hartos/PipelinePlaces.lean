import Hartos.MessagePipeline
import Hartos.StepSystem
import Hartos.Whereabouts

/-!
Where the messages of a pipeline are. Every message that came in waits in one buffer, one
task, the queue or one batch, or was handed to the handler, turned away or dropped, and
is there once: unless a debounce flush gives it to the callback twice and the
deduplicator does not know it the second time.
-/
namespace Hartos.Queue
open KeyedTable StepSystem Whereabouts

def Piece.messages : Piece → List PipelineMessage
  | .entering message | .limiting message | .acquiring message | .waiting message => [message]
  | .deduping message again => if again then [] else [message]
  | .placing message _ => [message]
  | .passing _ messages | .handlingAll messages => messages
  | _ => []

namespace Pipeline

inductive Place where
  | buffer (key : BatchKey)
  | task (task : TaskNo)
  | queue
  | batch (key : BatchKey)
  | handled
  | away
  | dropped
  deriving DecidableEq

def contentsOf (buffers : Batches PipelineMessage) (stack : TaskNo → List Piece)
    (queued : List QueuedMessage) (batches : Batches PipelineMessage)
    (handled : List PipelineMessage) (turnedAway : List (PipelineMessage × PipelineResult))
    (dropped : List PipelineMessage) : Place → List PipelineMessage
  | .buffer key => buffers.itemsUnder key
  | .task task => (stack task).flatMap Piece.messages
  | .queue => MessageQueue.messages queued
  | .batch key => batches.itemsUnder key
  | .handled => handled
  | .away => turnedAway.map Prod.fst
  | .dropped => dropped

def contents (state : Pipeline) : Place → List PipelineMessage :=
  contentsOf state.buffers state.stack state.queue.items state.batches state.handled
    state.turnedAway state.dropped

section Contents
variable (buffers : Batches PipelineMessage) (stack : TaskNo → List Piece)
  (queued : List QueuedMessage) (batches : Batches PipelineMessage) (handled : List PipelineMessage)
  (turnedAway : List (PipelineMessage × PipelineResult)) (dropped : List PipelineMessage)
variable (key : BatchKey) (message : PipelineMessage)

theorem contentsOf_buffers_erase :
    contentsOf (buffers.erase key) stack queued batches handled turnedAway dropped =
      Function.update (contentsOf buffers stack queued batches handled turnedAway dropped)
        (.buffer key) [] := by
  funext place
  cases place with
  | buffer other =>
    by_cases same : other = key <;>
      simp [contentsOf, itemsUnder_erase, same]
  | _ => rfl

theorem contentsOf_buffers_set (buffer : Batch PipelineMessage) :
    contentsOf (buffers.set buffer) stack queued batches handled turnedAway dropped =
      Function.update (contentsOf buffers stack queued batches handled turnedAway dropped)
        (.buffer buffer.key) buffer.items := by
  funext place
  cases place with
  | buffer other =>
    by_cases same : other = buffer.key <;>
      simp [contentsOf, itemsUnder_set, same]
  | _ => rfl

theorem contentsOf_stack (task : TaskNo) (pieces : List Piece) :
    contentsOf buffers (Function.update stack task pieces) queued batches handled turnedAway
        dropped =
      Function.update (contentsOf buffers stack queued batches handled turnedAway dropped)
        (.task task) (pieces.flatMap Piece.messages) := by
  funext place
  cases place with
  | task other =>
    by_cases same : other = task <;> simp [contentsOf, same]
  | _ => rfl

theorem contentsOf_queued (items : List QueuedMessage) :
    contentsOf buffers stack items batches handled turnedAway dropped =
      Function.update (contentsOf buffers stack queued batches handled turnedAway dropped)
        .queue (MessageQueue.messages items) := by
  funext place
  cases place <;> rfl

theorem contentsOf_batches_erase :
    contentsOf buffers stack queued (batches.erase key) handled turnedAway dropped =
      Function.update (contentsOf buffers stack queued batches handled turnedAway dropped)
        (.batch key) [] := by
  funext place
  cases place with
  | batch other =>
    by_cases same : other = key <;>
      simp [contentsOf, itemsUnder_erase, same]
  | _ => rfl

theorem contentsOf_batches_set (batch : Batch PipelineMessage) :
    contentsOf buffers stack queued (batches.set batch) handled turnedAway dropped =
      Function.update (contentsOf buffers stack queued batches handled turnedAway dropped)
        (.batch batch.key) batch.items := by
  funext place
  cases place with
  | batch other =>
    by_cases same : other = batch.key <;>
      simp [contentsOf, itemsUnder_set, same]
  | _ => rfl

theorem contentsOf_handled :
    contentsOf buffers stack queued batches (handled ++ [message]) turnedAway dropped =
      Function.update (contentsOf buffers stack queued batches handled turnedAway dropped)
        .handled (handled ++ [message]) := by
  funext place
  cases place <;> rfl

theorem contentsOf_away (result : PipelineResult) :
    contentsOf buffers stack queued batches handled (turnedAway ++ [(message, result)]) dropped =
      Function.update (contentsOf buffers stack queued batches handled turnedAway dropped)
        .away (turnedAway.map Prod.fst ++ [message]) := by
  funext place
  cases place <;> simp [contentsOf]

theorem contentsOf_dropped (more : List PipelineMessage) :
    contentsOf buffers stack queued batches handled turnedAway (dropped ++ more) =
      Function.update (contentsOf buffers stack queued batches handled turnedAway dropped)
        .dropped (dropped ++ more) := by
  funext place
  cases place <;> rfl

end Contents

end Pipeline

namespace MessageQueue
variable (config : QueueConfig)

theorem makeRoom_sublist (items left : List QueuedMessage)
    (room : makeRoom config items = some left) : left.Sublist items := by
  unfold makeRoom at room
  split at room
  · cases room
    exact List.nil_sublist items
  · split at room
    · cases room
    · cases room
      exact List.Sublist.refl items
  · split at room
    · split at room
      · cases room
      · cases room
        exact List.tail_sublist items
      · cases room
        exact List.tail_sublist items
    · cases room
      exact List.Sublist.refl items

theorem arrange_perm (items : List QueuedMessage) : (arrange config items).Perm items := by
  unfold arrange
  split
  · exact List.mergeSort_perm items _
  · exact List.Perm.refl items

theorem enqueue_items (digests : Digests) (config : QueueConfig) (queue : MessageQueue)
    (message : PipelineMessage) (now : Time) :
    ((queue.enqueue digests config message now).1 = false ∧
        (queue.enqueue digests config message now).2.items.Sublist queue.items) ∨
      ((queue.enqueue digests config message now).1 = true ∧
        ∃ kept, kept.Sublist queue.items ∧
          (queue.enqueue digests config message now).2.items.Perm (kept ++ [⟨message, now⟩])) := by
  have fresh : (queue.items.filter (isFresh config now)).Sublist queue.items := List.filter_sublist
  unfold enqueue
  dsimp only
  split
  · exact Or.inl ⟨rfl, fresh⟩
  · split
    · exact Or.inl ⟨rfl, fresh⟩
    · rename_i items room
      exact Or.inr ⟨rfl, items, (makeRoom_sublist config _ items room).trans fresh,
        arrange_perm config _⟩

theorem dequeue_items (queue : MessageQueue) (now : Time) :
    ∃ kept, kept.Sublist queue.items ∧
      (queue.dequeue config now).1.toList ++ messages (queue.dequeue config now).2.items =
        messages kept := by
  refine ⟨queue.items.filter (isFresh config now), List.filter_sublist, ?_⟩
  unfold dequeue
  cases queue.items.filter (isFresh config now) <;> rfl

end MessageQueue

/-- What is kept and what is gone make up what there was. -/
theorem perm_kept_gone {Thing : Type} [DecidableEq Thing] (old new : List Thing)
    (distinct : old.Nodup) (kept : new.Nodup) (inside : ∀ thing ∈ new, thing ∈ old) :
    (new ++ old.filter fun thing => decide (thing ∉ new)).Perm old := by
  rw [List.perm_ext_iff_of_nodup _ distinct]
  · intro thing
    simp only [List.mem_append, List.mem_filter, decide_eq_true_eq]
    constructor
    · rintro (here | ⟨there, _⟩)
      · exact inside thing here
      · exact there
    · intro there
      by_cases here : thing ∈ new
      · exact Or.inl here
      · exact Or.inr ⟨there, here⟩
  · rw [List.nodup_append]
    refine ⟨kept, distinct.filter _, ?_⟩
    rintro one here other there rfl
    exact of_decide_eq_true (List.mem_filter.mp there).2 here

namespace Pipeline

structure Placed (state : Pipeline) : Prop where
  places : Partition state.contents state.received
  idle : ∀ task, state.nextTask ≤ task → state.stack task = []
  numbered : ∀ message ∈ state.received, message.call < state.received.length

section Pieces
variable {setup : PipelineSetup} {state : Pipeline} {task : TaskNo} {piece : Piece}
  {rest : List Piece} {now : Time}

/-- The messages of the task before its next piece is done. -/
theorem contents_task (here : state.stack task = piece :: rest) :
    state.contents (.task task) = piece.messages ++ rest.flatMap Piece.messages := by
  rw [contents, contentsOf, here, List.flatMap_cons]

theorem Placed.relabel (placed : Placed state) {other : Pipeline}
    (contents : other.contents = state.contents) (received : other.received = state.received)
    (next : other.nextTask = state.nextTask) (stack : other.stack = state.stack) : Placed other :=
  ⟨by rw [contents, received]; exact placed.places, by rw [next, stack]; exact placed.idle,
    by rw [received]; exact placed.numbered⟩

/-- A task goes on, and the messages are where `places` says. -/
theorem Placed.resume (placed : Placed state) (here : state.stack task = piece :: rest)
    {after : Pipeline} (pieces : List Piece) (received : after.received = state.received)
    (next : after.nextTask = state.nextTask)
    (stack : after.stack = Function.update state.stack task pieces)
    (places : Partition after.contents state.received) : Placed after := by
  refine ⟨received ▸ places, fun other later => ?_, received ▸ placed.numbered⟩
  rw [next] at later
  rw [stack, Function.update_of_ne]
  · exact placed.idle other later
  · rintro rfl
    rw [placed.idle other later] at here
    cases here

theorem contents_continueWith (state : Pipeline) (task : TaskNo) (pieces : List Piece) :
    (state.continueWith task pieces).contents =
      Function.update state.contents (.task task) (pieces.flatMap Piece.messages) :=
  contentsOf_stack _ _ _ _ _ _ _ task pieces

theorem Placed.onward (placed : Placed state) (here : state.stack task = piece :: rest)
    (pieces : List Piece)
    (same : pieces.flatMap Piece.messages = piece.messages ++ rest.flatMap Piece.messages) :
    Placed (state.continueWith task pieces) := by
  refine placed.resume here pieces rfl rfl rfl ?_
  rw [contents_continueWith]
  apply placed.places.shuffle
  rw [contents_task here, same]

/-- The task gives up the messages of its piece to another place, and takes what is there. -/
theorem Placed.trade (placed : Placed state) (here : state.stack task = piece :: rest)
    {after : Pipeline} (pieces : List Piece) (place : Place) (things : List PipelineMessage)
    (received : after.received = state.received) (next : after.nextTask = state.nextTask)
    (stack : after.stack = Function.update state.stack task pieces) (apart : .task task ≠ place)
    (contents : after.contents = Function.update (Function.update state.contents (.task task)
      (pieces.flatMap Piece.messages)) place things)
    (moved : (pieces.flatMap Piece.messages ++ things).Perm
      (piece.messages ++ rest.flatMap Piece.messages ++ state.contents place)) : Placed after := by
  refine placed.resume here pieces received next stack ?_
  rw [contents]
  apply placed.places.exchange apart
  rw [contents_task here]
  exact moved

theorem perm_handed (message : PipelineMessage) (rest held : List PipelineMessage) :
    (rest ++ (held ++ [message])).Perm ([message] ++ rest ++ held) := by
  rw [← List.append_assoc]
  exact List.perm_append_comm

theorem Placed.away (placed : Placed state) (here : state.stack task = piece :: rest)
    (message : PipelineMessage) (one : piece.messages = [message]) (result : PipelineResult)
    (pieces : List Piece)
    (left : pieces.flatMap Piece.messages = rest.flatMap Piece.messages) :
    Placed ((state.turnAway message result).continueWith task pieces) := by
  refine placed.trade here pieces .away (state.contents .away ++ [message]) rfl rfl rfl (by simp)
    ?_ ?_
  · rw [contents_continueWith, Function.update_comm (by simp)]
    exact congrArg (Function.update · _ _) (contentsOf_away _ _ _ _ _ _ _ message result)
  · rw [one, left]
    exact perm_handed message _ _

end Pieces

end Pipeline

end Hartos.Queue
