import Hartos.MessageBatcher
import Hartos.StepSystem

/-!
Every interleaving of `add`, timers and flushes. Items are accounted for by key: what was
delivered, what was taken out and is on its way to the callback, and what still waits.
Four things go wrong: an asyncio `add` that fills its batch waits for the lock it holds,
so does a callback that runs under the lock and calls the batcher, a timer's batch, handed
over without the lock, can be overtaken, and an asyncio timer that flushes cancels itself.
-/
namespace Hartos.Queue
open KeyedTable StepSystem
variable {Item : Type}

namespace Batcher

def itemsOf (key : BatchKey) (results : List (BatchResult Item)) : List Item :=
  (results.filter fun result => decide (result.key = key)).flatMap BatchResult.items

def arrivedItems (arrived : List (BatchKey × Item)) (key : BatchKey) : List Item :=
  (arrived.filter fun arrival => decide (arrival.1 = key)).map Prod.snd

def Accounted (delivered : List (BatchResult Item)) (taken : List (TaskNo × BatchResult Item))
    (batches : Batches Item) (arrived : List (BatchKey × Item)) (key : BatchKey) : Prop :=
  itemsOf key delivered ++ itemsOf key (taken.map Prod.snd) ++ batches.itemsUnder key =
    arrivedItems arrived key

instance [DecidableEq Item] (delivered : List (BatchResult Item))
    (taken : List (TaskNo × BatchResult Item)) (batches : Batches Item)
    (arrived : List (BatchKey × Item)) (key : BatchKey) :
    Decidable (Accounted delivered taken batches arrived key) :=
  inferInstanceAs (Decidable (_ = _))

def Attended (stack : TaskNo → List (Frame Item)) (batch : Batch Item) : Prop :=
  batch.timed = true ∨ ∃ task rest, stack task = .flushing batch.key .time false :: rest

structure Sound (setup : BatcherSetup) (state : Batcher Item) : Prop where
  noSelfWait : ∀ task, state.waitsForItself task = false
  accounted : ∀ key, Accounted state.delivered state.taken state.batches state.arrived key
  bounded : ∀ result ∈ state.delivered, result.items ≠ [] ∧
    (result.items.length : Int) ≤ setup.config.maxBatchSize
  attended : setup.config.timers = true → ∀ batch ∈ state.batches.rows, Attended state.stack batch
  noneLost : state.lost = []

def onItsWay (taken : List (TaskNo × BatchResult Item)) (key : BatchKey) : Bool :=
  taken.any fun entry => decide (entry.2.key = key)

def isNext (taken : List (TaskNo × BatchResult Item)) (task : TaskNo) : Bool :=
  match taken.find? fun entry => decide (entry.1 = task) with
  | none => true
  | some entry =>
      !(taken.takeWhile fun other => !decide (other.1 = task)).any fun other =>
        decide (other.2.key = entry.2.key)

/-- What the next step of a task may not do: fill a batch of the asyncio class, or any batch
when the maximum is not positive; flush on a timer with no callback; deliver a batch past
an older one of its key. -/
def PermittedStep (setup : BatcherSetup) (state : Batcher Item) (task : TaskNo) :
    List (Frame Item) → Prop
  | .adding key item :: _ =>
      state.holder = none → 0 < setup.config.maxBatchSize ∧
        ((state.batches.addTo key item).isFull setup.config = true →
          setup.kind = .sync ∧ onItsWay state.taken key = false)
  | .flushing key reason quietly :: _ =>
      state.holder = none → key ∈ state.batches.keys →
        (reason = .time → setup.hasCallback = true) ∧
        (quietly = true ∨ (setup.kind = .sync ∧ reason ≠ .time) → onItsWay state.taken key = false)
  | .handing :: _ => isNext state.taken task = true
  | _ => True

def Permitted (setup : BatcherSetup) (state : Batcher Item) : Event Item → Prop
  | .call task operation => (operation.entry setup.kind).isSome = true → state.holder ≠ some task
  | .run task => PermittedStep setup state task (state.stack task)
  | .suspend task => (state.stack task).isEmpty = false → (state.cancelled task).isNone = true
  | _ => True

instance (setup : BatcherSetup) (state : Batcher Item) (task : TaskNo) :
    (frames : List (Frame Item)) → Decidable (PermittedStep setup state task frames)
  | [] => inferInstanceAs (Decidable True)
  | .adding _ _ :: _ => inferInstanceAs (Decidable (_ → _ ∧ (_ → _)))
  | .flushing _ _ _ :: _ => inferInstanceAs (Decidable (_ → _ → (_ → _) ∧ (_ → _)))
  | .listing _ :: _ => inferInstanceAs (Decidable True)
  | .flushingAll _ _ :: _ => inferInstanceAs (Decidable True)
  | .handing :: _ => inferInstanceAs (Decidable (_ = true))
  | .inCallback _ :: _ => inferInstanceAs (Decidable True)

instance (setup : BatcherSetup) (state : Batcher Item) :
    (event : Event Item) → Decidable (Permitted setup state event)
  | .call _ _ => inferInstanceAs (Decidable (_ → _))
  | .expire _ _ => inferInstanceAs (Decidable True)
  | .run task => inferInstanceAs (Decidable (PermittedStep setup state task (state.stack task)))
  | .raise _ => inferInstanceAs (Decidable True)
  | .suspend _ => inferInstanceAs (Decidable (_ → _))

variable (setup : BatcherSetup) (key : BatchKey) {stack : TaskNo → List (Frame Item)}
  {task : TaskNo}

theorem itemsOf_append (first second : List (BatchResult Item)) :
    itemsOf key (first ++ second) = itemsOf key first ++ itemsOf key second := by
  simp [itemsOf]

theorem itemsOf_single (result : BatchResult Item) :
    itemsOf key [result] = if result.key = key then result.items else [] := by
  by_cases same : result.key = key <;> simp [itemsOf, same]

theorem itemsOf_none (results : List (BatchResult Item))
    (others : ∀ result ∈ results, result.key ≠ key) : itemsOf key results = [] := by
  rw [itemsOf, List.filter_eq_nil_iff.mpr]
  · rfl
  · intro result member
    simpa using others result member

theorem itemsOf_onItsWay (taken : List (TaskNo × BatchResult Item)) (key : BatchKey)
    (free : onItsWay taken key = false) : itemsOf key (taken.map Prod.snd) = [] := by
  apply itemsOf_none
  intro result member
  obtain ⟨entry, there, rfl⟩ := List.mem_map.mp member
  simpa using List.any_eq_false.mp free entry there

section Accounts
variable {delivered : List (BatchResult Item)} {taken : List (TaskNo × BatchResult Item)}
  {batches : Batches Item} {arrived : List (BatchKey × Item)} {key : BatchKey}

theorem accounted_took {batch : Batch Item} (found : batches.get? key = some batch) (task : TaskNo)
    (reason : FlushReason) (wanted : BatchKey)
    (accounted : Accounted delivered taken batches arrived wanted) :
    Accounted delivered (taken ++ [(task, ⟨key, batch.items, reason⟩)]) (batches.erase key) arrived
      wanted := by
  unfold Accounted at accounted ⊢
  rw [itemsUnder_erase, List.map_append, itemsOf_append, List.map_singleton, itemsOf_single,
    ← accounted]
  by_cases same : key = wanted
  · subst same
    simp [Batches.itemsUnder, found]
  · simp [same, Ne.symm same]

-- A batch is delivered at once, with no older one of its key on its way.
theorem accounted_flushed {batch : Batch Item} (found : batches.get? key = some batch)
    (reason : FlushReason) (free : onItsWay taken key = false) (wanted : BatchKey)
    (accounted : Accounted delivered taken batches arrived wanted) :
    Accounted (delivered ++ [⟨key, batch.items, reason⟩]) taken (batches.erase key) arrived
      wanted := by
  unfold Accounted at accounted ⊢
  rw [itemsUnder_erase, itemsOf_append, itemsOf_single, ← accounted]
  by_cases same : key = wanted
  · subst same
    rw [itemsOf_onItsWay taken key free]
    simp [Batches.itemsUnder, found]
  · simp [same, Ne.symm same]

-- The oldest batch of its key on its way is handed over.
theorem accounted_handed {task : TaskNo} {entry : TaskNo × BatchResult Item}
    (found : taken.find? (fun entry => decide (entry.1 = task)) = some entry)
    (next : isNext taken task = true) (wanted : BatchKey)
    (accounted : Accounted delivered taken batches arrived wanted) :
    Accounted (delivered ++ [entry.2]) (taken.eraseP fun entry => decide (entry.1 = task)) batches
      arrived wanted := by
  obtain ⟨here, before, after, split, others⟩ := List.find?_eq_some_iff_append.mp found
  have older : ∀ other ∈ before, other.2.key ≠ entry.2.key := by
    have firsts : taken.takeWhile (fun other => !decide (other.1 = task)) = before := by
      rw [split, List.takeWhile_append_of_pos others, List.takeWhile_cons_of_neg,
        List.append_nil]
      simpa using here
    rw [isNext, found] at next
    rw [firsts, Bool.not_eq_true'] at next
    intro other member
    simpa using List.any_eq_false.mp next other member
  have left : taken.eraseP (fun entry => decide (entry.1 = task)) = before ++ after := by
    rw [split, List.eraseP_append_right, List.eraseP_cons_of_pos]
    · exact here
    · intro other member
      simpa using others other member
  have whole : itemsOf wanted (taken.map Prod.snd) =
      itemsOf wanted (before.map Prod.snd) ++ itemsOf wanted [entry.2] ++
        itemsOf wanted (after.map Prod.snd) := by
    rw [split, ← itemsOf_append, ← itemsOf_append]
    simp
  unfold Accounted at accounted ⊢
  rw [left, itemsOf_append, List.map_append, itemsOf_append, ← accounted, whole]
  by_cases same : entry.2.key = wanted
  · have overtaken : itemsOf wanted (before.map Prod.snd) = [] := by
      apply itemsOf_none
      intro result member
      obtain ⟨other, there, rfl⟩ := List.mem_map.mp member
      exact same ▸ older other there
    simp [overtaken]
  · simp [itemsOf_single, same]

theorem accounted_added {item : Item} (batch : Batch Item) (named : batch.key = key)
    (grown : batch.items = batches.itemsUnder key ++ [item]) (wanted : BatchKey)
    (accounted : Accounted delivered taken batches arrived wanted) :
    Accounted delivered taken (batches.set batch) (arrived ++ [(key, item)]) wanted := by
  unfold Accounted at accounted ⊢
  have joined : arrivedItems (arrived ++ [(key, item)]) wanted =
      arrivedItems arrived wanted ++ if key = wanted then [item] else [] := by
    by_cases same : key = wanted <;> simp [arrivedItems, same]
  have waiting : Batches.itemsUnder (batches.set batch) wanted =
      batches.itemsUnder wanted ++ if key = wanted then [item] else [] := by
    rw [Batches.itemsUnder, Table.get?_set, named]
    by_cases same : key = wanted
    · rw [if_pos same, if_pos same, ← same]
      exact grown
    · rw [if_neg same, if_neg same, List.append_nil, Batches.itemsUnder]
  rw [joined, waiting, ← accounted, List.append_assoc, List.append_assoc, List.append_assoc]

end Accounts

structure Kept (setup : BatcherSetup) (state : Batcher Item) : Prop where
  accounted : ∀ key, Accounted state.delivered state.taken state.batches state.arrived key
  held : ∀ task, state.holder = some task → ∃ rest, state.stack task = .inCallback true :: rest
  small : ∀ batch ∈ state.batches.rows, batch.items ≠ [] ∧
    (batch.items.length : Int) < setup.config.maxBatchSize
  short : ∀ result ∈ state.delivered ++ state.taken.map Prod.snd, result.items ≠ [] ∧
    (result.items.length : Int) ≤ setup.config.maxBatchSize
  heard : ∀ entry ∈ state.taken, entry.2.flushReason = .time → setup.hasCallback = true
  attended : setup.config.timers = true → ∀ batch ∈ state.batches.rows, Attended state.stack batch
  noneLost : state.lost = []

theorem Kept.sound {setup : BatcherSetup} {state : Batcher Item} (kept : Kept setup state) :
    Sound setup state := by
  refine ⟨fun task => ?_, kept.accounted, ?_, kept.attended, kept.noneLost⟩
  · unfold waitsForItself
    by_cases holds : state.holder = some task
    · obtain ⟨rest, top⟩ := kept.held task holds
      rw [top]
      simp [Frame.wantsLock]
    · simp [holds]
  · exact fun result member => kept.short result (List.mem_append_left _ member)

def Elsewhere (stack : TaskNo → List (Frame Item)) (task : TaskNo) (key : BatchKey) : Prop :=
  ∀ tail, stack task ≠ .flushing key .time false :: tail

theorem elsewhere_of_top {top : Frame Item} {rest : List (Frame Item)}
    (here : stack task = top :: rest) {key : BatchKey} (other : top ≠ .flushing key .time false) :
    Elsewhere stack task key := by
  intro tail flushes
  rw [here] at flushes
  exact other (List.cons.inj flushes).1

theorem attended_update {batch : Batch Item} (other : Elsewhere stack task batch.key)
    (frames : List (Frame Item)) (attended : Attended stack batch) :
    Attended (Function.update stack task frames) batch := by
  rcases attended with timed | ⟨busy, tail, flushes⟩
  · exact Or.inl timed
  · refine Or.inr ⟨busy, tail, ?_⟩
    rw [Function.update_of_ne, flushes]
    rintro rfl
    exact other tail flushes

section Moves
variable {setup : BatcherSetup} {state : Batcher Item} {task : TaskNo} {top : Frame Item}
  {rest : List (Frame Item)}

-- A step that only changes what a task still has to do.
theorem Kept.continueWith (kept : Kept setup state) (free : state.holder ≠ some task)
    (frames : List (Frame Item))
    (attends : ∀ batch ∈ state.batches.rows, Elsewhere state.stack task batch.key) :
    Kept setup (state.continueWith task frames) where
  accounted := kept.accounted
  held other holds := by
    obtain ⟨tail, callback⟩ := kept.held other holds
    refine ⟨tail, ?_⟩
    have apart : other ≠ task := by
      rintro rfl
      exact free holds
    exact (Function.update_of_ne apart _ _).trans callback
  small := kept.small
  short := kept.short
  heard := kept.heard
  attended timers batch member :=
    attended_update (attends batch member) frames (kept.attended timers batch member)
  noneLost := kept.noneLost

-- The callback returns or raises; under the lock, it is released.
theorem Kept.returned (kept : Kept setup state) {locked : Bool}
    (here : state.stack task = .inCallback locked :: rest) (frames : List (Frame Item))
    (apart : state.holder = some task → locked = true) :
    Kept setup ((state.release locked).continueWith task frames) := by
  have attended (timers : setup.config.timers = true) (batch : Batch Item)
      (member : batch ∈ state.batches.rows) :
      Attended (Function.update state.stack task frames) batch :=
    attended_update (elsewhere_of_top here (by simp)) frames (kept.attended timers batch member)
  cases locked with
  | true =>
    exact ⟨kept.accounted, (fun _ holds => by cases holds), kept.small, kept.short, kept.heard,
      attended, kept.noneLost⟩
  | false =>
    refine ⟨kept.accounted, fun other holds => ?_, kept.small, kept.short, kept.heard, attended,
      kept.noneLost⟩
    obtain ⟨tail, callback⟩ := kept.held other holds
    refine ⟨tail, ?_⟩
    have different : other ≠ task := by
      rintro rfl
      cases apart holds
    exact (Function.update_of_ne different _ _).trans callback

theorem delivered_kept {key : BatchKey} {batch : Batch Item} {reason : FlushReason}
    (found : state.batches.get? key = some batch)
    (result : batch.items ≠ [] ∧ (batch.items.length : Int) ≤ setup.config.maxBatchSize)
    (now : onItsWay state.taken key = false) (holder : Option TaskNo) (frames : List (Frame Item))
    (locked : ∀ holding, holder = some holding →
      holding = task ∧ ∃ tail, frames = .inCallback true :: tail)
    (accounted : ∀ wanted,
      Accounted state.delivered state.taken state.batches state.arrived wanted)
    (others : ∀ other ∈ (state.batches.erase key).rows,
      other.items ≠ [] ∧ (other.items.length : Int) < setup.config.maxBatchSize)
    (short : ∀ given ∈ state.delivered ++ state.taken.map Prod.snd, given.items ≠ [] ∧
      (given.items.length : Int) ≤ setup.config.maxBatchSize)
    (heard : ∀ entry ∈ state.taken, entry.2.flushReason = .time → setup.hasCallback = true)
    (attended : setup.config.timers = true → ∀ other ∈ (state.batches.erase key).rows,
      Attended (Function.update state.stack task frames) other)
    (noneLost : state.lost = []) :
    Kept setup ((Batcher.mk (state.batches.erase key) holder state.stack state.taken
      (state.delivered ++ [⟨key, batch.items, reason⟩]) state.arrived state.cancelled
      state.lost).continueWith task frames) := by
  refine ⟨fun wanted => accounted_flushed found reason now wanted (accounted wanted),
    fun holding holds => ?_, others, fun given member => ?_, heard, attended, noneLost⟩
  · obtain ⟨rfl, tail, framed⟩ := locked holding holds
    exact ⟨tail, (Function.update_self _ _ _).trans framed⟩
  · simp only [Batcher.continueWith, List.mem_append, List.mem_singleton] at member
    rcases member with (old | rfl) | way
    · exact short given (List.mem_append_left _ old)
    · exact result
    · exact short given (List.mem_append_right _ way)

-- A flush, with the lock free: the flushed batch may have just reached the maximum.
theorem flushBatch_kept (state : Batcher Item) (key : BatchKey) (reason : FlushReason)
    (quietly : Bool)
    (here : state.stack task = top :: rest)
    (other : ∀ wanted, wanted ≠ key → top ≠ .flushing wanted .time false)
    (free : state.holder = none)
    (accounted : ∀ wanted,
      Accounted state.delivered state.taken state.batches state.arrived wanted)
    (small : ∀ batch ∈ state.batches.rows, batch.items ≠ [] ∧
      (batch.items.length : Int) ≤ setup.config.maxBatchSize ∧
      (batch.key ≠ key → (batch.items.length : Int) < setup.config.maxBatchSize))
    (short : ∀ result ∈ state.delivered ++ state.taken.map Prod.snd, result.items ≠ [] ∧
      (result.items.length : Int) ≤ setup.config.maxBatchSize)
    (heard : ∀ entry ∈ state.taken, entry.2.flushReason = .time → setup.hasCallback = true)
    (attended : setup.config.timers = true → ∀ batch ∈ state.batches.rows, batch.key ≠ key →
      Attended state.stack batch)
    (permitted : key ∈ state.batches.keys → (reason = .time → setup.hasCallback = true) ∧
      (quietly = true ∨ (setup.kind = .sync ∧ reason ≠ .time) → onItsWay state.taken key = false))
    (noneLost : state.lost = []) :
    Kept setup (state.flushBatch setup task rest key reason quietly) := by
  have stays (frames : List (Frame Item)) (timers : setup.config.timers = true)
      (batch : Batch Item) (member : batch ∈ state.batches.rows) (apart : batch.key ≠ key) :
      Attended (Function.update state.stack task frames) batch :=
    attended_update (elsewhere_of_top here (other batch.key apart)) frames (attended timers batch member apart)
  have others (batch : Batch Item) (member : batch ∈ (state.batches.erase key).rows) :
      batch.items ≠ [] ∧ (batch.items.length : Int) < setup.config.maxBatchSize := by
    obtain ⟨there, apart⟩ := (state.batches.mem_erase key batch).mp member
    exact ⟨(small batch there).1, (small batch there).2.2 apart⟩
  have kept (frames : List (Frame Item)) (timers : setup.config.timers = true)
      (batch : Batch Item) (member : batch ∈ (state.batches.erase key).rows) :
      Attended (Function.update state.stack task frames) batch := by
    obtain ⟨there, apart⟩ := (state.batches.mem_erase key batch).mp member
    exact stays frames timers batch there apart
  unfold flushBatch
  cases found : state.batches.get? key with
  | none =>
    have absent : ∀ batch ∈ state.batches.rows, batch.key ≠ key := by
      rintro batch member rfl
      rw [state.batches.mem_get? batch member] at found
      cases found
    refine ⟨accounted, fun _ holds => ?_, fun batch member => ?_, short, heard,
      fun timers batch member => stays rest timers batch member (absent batch member), noneLost⟩
    · rw [Batcher.continueWith, free] at holds
      cases holds
    · exact ⟨(small batch member).1, (small batch member).2.2 (absent batch member)⟩
  | some batch =>
    have member := state.batches.get?_mem key batch found
    have allowed := permitted ((state.batches.mem_keys key).mpr ⟨batch, found⟩)
    have filled := small batch member
    have result : batch.items ≠ [] ∧ (batch.items.length : Int) ≤ setup.config.maxBatchSize :=
      ⟨filled.1, filled.2.1⟩
    dsimp only
    rw [if_neg filled.1]
    split
    · rename_i quiet
      exact delivered_kept found result (allowed.2 (Or.inl quiet)) state.holder rest
        (fun holding holds => by rw [free] at holds; cases holds) accounted others short heard
        (kept rest) noneLost
    · split
      · refine ⟨fun wanted => accounted_took found task reason wanted (accounted wanted),
          fun holding holds => ?_, others, fun result' member' => ?_, fun entry member' => ?_,
          kept _, noneLost⟩
        · rw [Batcher.continueWith, free] at holds
          cases holds
        · simp only [Batcher.continueWith, List.map_append, List.map_singleton, List.mem_append,
            List.mem_singleton] at member'
          rcases member' with old | way | rfl
          · exact short result' (List.mem_append_left _ old)
          · exact short result' (List.mem_append_right _ way)
          · exact result
        · simp only [Batcher.continueWith, List.mem_append, List.mem_singleton] at member'
          rcases member' with old | rfl
          · exact heard entry old
          · exact allowed.1
      · rename_i loud locked
        have immediate : setup.kind = .sync ∧ reason ≠ .time := by
          rw [not_or] at locked
          refine ⟨?_, locked.2⟩
          cases kind : setup.kind with
          | async => exact absurd kind locked.1
          | sync => rfl
        split
        · exact delivered_kept found result (allowed.2 (Or.inr immediate)) (some task)
            (.inCallback true :: rest)
            (fun holding holds => ⟨(Option.some.inj holds).symm, rest, rfl⟩) accounted others short
            heard (kept _) noneLost
        · exact delivered_kept found result (allowed.2 (Or.inr immediate)) state.holder rest
            (fun holding holds => by rw [free] at holds; cases holds) accounted others short heard
            (kept rest) noneLost

section

variable (kept : Kept setup state)
include kept

theorem addItem_kept (key : BatchKey) (item : Item)
    (here : state.stack task = .adding key item :: rest) (free : state.holder = none)
    (positive : 0 < setup.config.maxBatchSize)
    (permitted : (state.batches.addTo key item).isFull setup.config = true →
      setup.kind = .sync ∧ onItsWay state.taken key = false) :
    Kept setup (state.addItem setup task rest key item) := by
  have named := addTo_key state.batches key item
  have grown := addTo_items state.batches key item
  -- What waited was below the maximum, so the batch reaches it at most.
  have reaches : ((state.batches.addTo key item).items.length : Int) ≤
      setup.config.maxBatchSize := by
    rw [grown, List.length_append, List.length_singleton]
    cases found : state.batches.get? key with
    | none =>
      simp only [Batches.itemsUnder, found, Option.map_none, Option.getD_none, List.length_nil]
      omega
    | some batch =>
      have below := (kept.small batch (state.batches.get?_mem key batch found)).2
      simp only [Batches.itemsUnder, found, Option.map_some, Option.getD_some]
      omega
  have present : (state.batches.addTo key item).items ≠ [] := by
    rw [grown]
    simp
  unfold addItem
  dsimp only
  cases full : (state.batches.addTo key item).isFull setup.config with
  | true =>
    obtain ⟨sync, clear⟩ := permitted full
    rw [if_pos rfl, sync]
    refine flushBatch_kept ⟨state.batches.set (state.batches.addTo key item), state.holder,
      state.stack, state.taken, state.delivered, state.arrived ++ [(key, item)], state.cancelled,
      state.lost⟩ key .size false here ?_ ?_ ?_ ?_ ?_ ?_ ?_ ?_ kept.noneLost
    · simp
    · exact free
    · exact fun wanted => accounted_added _ named grown wanted (kept.accounted wanted)
    · intro batch member
      rcases (state.batches.mem_set _ batch).mp member with rfl | ⟨old, apart⟩
      · exact ⟨present, reaches, fun apart => absurd named apart⟩
      · exact ⟨(kept.small batch old).1, Int.le_of_lt (kept.small batch old).2,
          fun _ => (kept.small batch old).2⟩
    · exact kept.short
    · exact kept.heard
    · intro timers batch member apart
      rcases (state.batches.mem_set _ batch).mp member with rfl | ⟨old, _⟩
      · exact absurd named apart
      · exact kept.attended timers batch old
    · exact fun _ => ⟨(fun time => by cases time), fun _ => clear⟩
  | false =>
    have below : ((state.batches.addTo key item).items.length : Int) <
        setup.config.maxBatchSize := by
      have short := of_decide_eq_false full
      omega
    refine ⟨fun wanted => ?_, fun other holds => ?_, fun batch member => ?_, kept.short, kept.heard,
      fun timers batch member => ?_, kept.noneLost⟩
    · exact accounted_added { state.batches.addTo key item with
        timed := (state.batches.addTo key item).timed || setup.config.timers } named grown wanted
        (kept.accounted wanted)
    · rw [Batcher.continueWith, free] at holds
      cases holds
    · rcases (state.batches.mem_set _ batch).mp member with rfl | ⟨old, _⟩
      · exact ⟨present, below⟩
      · exact kept.small batch old
    · rcases (state.batches.mem_set _ batch).mp member with rfl | ⟨old, _⟩
      · left
        simp [timers]
      · exact attended_update (elsewhere_of_top here (by simp)) rest
          (kept.attended timers batch old)

/-- The batch a task took out goes to the callback, or to the caller. -/
theorem handOver_kept (here : state.stack task = .handing :: rest)
    (next : isNext state.taken task = true) : Kept setup (state.handOver setup task rest) := by
  have free : state.holder ≠ some task := by
    intro holds
    obtain ⟨tail, callback⟩ := kept.held task holds
    rw [here] at callback
    cases callback
  unfold handOver
  cases found : state.taken.find? fun entry => decide (entry.1 = task) with
  | none => exact kept.continueWith free rest fun _ _ => elsewhere_of_top here (by simp)
  | some entry =>
    have member := List.mem_of_find?_eq_some found
    have left (cancelled : TaskNo → Option (BatchResult Item)) :
        Kept setup (Batcher.mk state.batches state.holder state.stack
          (state.taken.eraseP fun entry => decide (entry.1 = task)) (state.delivered ++ [entry.2])
          state.arrived cancelled state.lost) := by
      refine ⟨fun wanted => accounted_handed found next wanted (kept.accounted wanted), kept.held,
        kept.small, fun result there => ?_, fun other there => ?_, kept.attended, kept.noneLost⟩
      · simp only [List.mem_append, List.mem_singleton] at there
        rcases there with (old | rfl) | way
        · exact kept.short result (List.mem_append_left _ old)
        · exact kept.short entry.2 (List.mem_append_right _ (List.mem_map_of_mem member))
        · apply kept.short result
          apply List.mem_append_right
          exact (List.eraseP_sublist.map Prod.snd).subset way
      · exact kept.heard other (List.mem_of_mem_eraseP there)
    have handed (cancelled : TaskNo → Option (BatchResult Item)) (frames : List (Frame Item)) :=
      (left cancelled).continueWith free frames fun _ _ => elsewhere_of_top here (by simp)
    dsimp only
    split
    · exact handed _ _
    · rename_i deaf
      split
      · rename_i time
        exact absurd (kept.heard entry member time) deaf
      · exact handed _ _

theorem Kept.started (task : TaskNo) : Kept setup (state.started task) := by
  unfold Batcher.started
  split
  · exact ⟨kept.accounted, kept.held, kept.small, kept.short, kept.heard, kept.attended,
      kept.noneLost⟩
  · exact kept

-- Whoever may call holds the lock only inside the callback.
theorem Kept.call (frame : Frame Item) (free : state.holder ≠ some task)
    (may : state.mayCall task = true) :
    Kept setup (state.continueWith task (frame :: state.stack task)) := by
  apply kept.continueWith free
  intro batch _ tail flushes
  rw [mayCall, flushes] at may
  cases may

theorem expireTimer_kept (key : BatchKey) : Kept setup (state.expireTimer task key) := by
  unfold expireTimer
  split
  · rename_i batch found idle
    split
    · have named := state.batches.get?_key key batch found
      have member := state.batches.get?_mem key batch found
      have free : state.holder ≠ some task := by
        intro holds
        obtain ⟨tail, callback⟩ := kept.held task holds
        rw [idle] at callback
        cases callback
      refine ⟨fun wanted => ?_, fun other holds => ?_, fun other there => ?_, kept.short, kept.heard,
        fun timers other there => ?_, kept.noneLost⟩
      · have same : Batches.itemsUnder (state.batches.set { batch with timed := false }) wanted =
            state.batches.itemsUnder wanted := by
          rw [Batches.itemsUnder, Batches.itemsUnder, Table.get?_set]
          split
          · rename_i here
            rw [← here, named, found]
            rfl
          · rfl
        have accounted := kept.accounted wanted
        rw [Accounted, ← same] at accounted
        exact accounted
      · obtain ⟨tail, callback⟩ := kept.held other holds
        refine ⟨tail, (Function.update_of_ne ?_ _ _).trans callback⟩
        rintro rfl
        exact free holds
      · rcases (state.batches.mem_set _ other).mp there with rfl | ⟨old, _⟩
        · exact kept.small batch member
        · exact kept.small other old
      · rcases (state.batches.mem_set _ other).mp there with rfl | ⟨old, _⟩
        · refine Or.inr ⟨task, [], ?_⟩
          exact (Function.update_self _ _ _).trans (by rw [← named])
        · apply attended_update _ _ (kept.attended timers other old)
          intro tail flushes
          rw [idle] at flushes
          cases flushes
    · exact kept
  · exact kept

theorem advance_kept (permitted : Permitted setup state (.run task)) :
    Kept setup (state.advance setup task) := by
  -- Only a callback's frame is on top while its task holds the lock.
  have apart {top : Frame Item} {rest : List (Frame Item)} (here : state.stack task = top :: rest)
      (other : top ≠ .inCallback true) : state.holder ≠ some task := by
    intro holds
    obtain ⟨tail, callback⟩ := kept.held task holds
    rw [here] at callback
    exact other (List.cons.inj callback).1
  unfold advance
  cases here : state.stack task with
  | nil => exact kept
  | cons top rest =>
    rw [Permitted, here] at permitted
    cases top with
    | adding key item =>
      dsimp only
      split
      · rename_i free
        obtain ⟨positive, filled⟩ := permitted free
        exact addItem_kept kept key item here free positive filled
      · exact kept
    | flushing key reason quietly =>
      dsimp only
      split
      · rename_i free
        apply flushBatch_kept state key reason quietly here
        · intro wanted other same
          injection same with same
          exact other same.symm
        · exact free
        · exact kept.accounted
        · intro batch member
          have small := kept.small batch member
          exact ⟨small.1, Int.le_of_lt small.2, fun _ => small.2⟩
        · exact kept.short
        · exact kept.heard
        · exact fun timers batch member _ => kept.attended timers batch member
        · exact permitted free
        · exact kept.noneLost
      · exact kept
    | listing quietly =>
      dsimp only
      split
      · exact kept.continueWith (apart here (by simp)) _ fun _ _ => elsewhere_of_top here (by simp)
      · exact kept
    | flushingAll keys quietly =>
      cases keys with
      | nil =>
        exact kept.continueWith (apart here (by simp)) _ fun _ _ =>
          elsewhere_of_top here (by simp)
      | cons key keys =>
        exact kept.continueWith (apart here (by simp)) _ fun _ _ =>
          elsewhere_of_top here (by simp)
    | handing => exact handOver_kept kept here permitted
    | inCallback locked =>
      apply kept.returned here
      intro holds
      obtain ⟨tail, callback⟩ := kept.held task holds
      rw [here] at callback
      injection callback with same
      injection same

theorem raise_kept : Kept setup (state.raise setup task) := by
  have locks {locked : Bool} {rest : List (Frame Item)}
      (here : state.stack task = .inCallback locked :: rest) :
      state.holder = some task → locked = true := by
    intro holds
    obtain ⟨tail, callback⟩ := kept.held task holds
    rw [here] at callback
    injection callback with same
    injection same
  unfold raise
  split
  · rename_i locked keys quietly rest here
    split
    · exact kept.returned here _ (locks here)
    · exact kept.returned here _ (locks here)
  · rename_i locked rest _ here
    exact kept.returned here _ (locks here)
  · exact kept

-- A callback of a task that is not cancelled goes on where it suspended.
theorem suspend_kept (permitted : Permitted setup state (.suspend task)) :
    Kept setup (state.suspend task) := by
  unfold suspend
  split
  · rename_i result locked rest cancelled here
    rw [Permitted, here, cancelled] at permitted
    cases permitted rfl
  · exact kept

end

end Moves

theorem step_kept (state : Batcher Item) (event : Event Item) (kept : Kept setup state)
    (permitted : Permitted setup state event) : Kept setup (state.step setup event) := by
  cases event with
  | call task operation =>
    rw [step]
    cases entered : operation.entry setup.kind with
    | none => exact kept
    | some frame =>
      dsimp only
      split
      · rename_i may
        have begun := kept.started task
        have same : (state.started task).stack = state.stack := by
          unfold started
          split
          · rfl
          · rfl
        have holder : (state.started task).holder = state.holder := by
          unfold started
          split
          · rfl
          · rfl
        rw [← same]
        apply begun.call frame
        · rw [holder]
          exact permitted (by rw [entered]; rfl)
        · rw [mayCall, same]
          exact may
      · exact kept
  | expire task key => exact expireTimer_kept (kept.started task) key
  | run task => exact advance_kept kept permitted
  | raise task => exact raise_kept kept
  | suspend task => exact suspend_kept kept permitted

theorem idle_kept : Kept setup (idle : Batcher Item) where
  accounted _ := rfl
  held _ holds := by cases holds
  small _ member := by cases member
  short _ member := by cases member
  heard _ member := by cases member
  attended _ _ member := by cases member
  noneLost := rfl

/-- Over every interleaving whose events are permitted: no task waits for a lock it holds,
what arrived under each key is delivered once and in its order, on its way or waiting, no
batch is too long, none waits without a timer while timers are on, and no callback is cut off. -/
theorem batches_delivered_in_order (setup : BatcherSetup) (run : List (Event Item))
    (permitted : Along (step setup) (Permitted setup) idle run) :
    Always (step setup) (Sound setup) idle run :=
  always_of_invariant (step setup) (Kept setup) (Sound setup) (Permitted setup)
    (fun state event => step_kept setup state event) (fun _ kept => kept.sound) run idle
    (idle_kept setup) permitted

/-- Two threads, one of them the timer of the key: a batch flushed by its timer, and one
that is full. -/
theorem timed_and_full_batches :
    Always (step ⟨.sync, { maxBatchSize := 2 }, true⟩)
      (@Sound Nat ⟨.sync, { maxBatchSize := 2 }, true⟩) idle
      [.call 0 (.add "k" 1), .run 0, .expire 1 "k", .run 1, .run 1, .run 1,
        .call 0 (.add "k" 2), .run 0, .call 0 (.add "k" 3), .run 0, .run 0] :=
  batches_delivered_in_order ⟨.sync, { maxBatchSize := 2 }, true⟩ _ (by decide)

/-- The second item fills the asyncio batch: `add` waits for its own lock. A threads' batch
whose callback flushes another key does so too, and one that is full while the timer still
holds the batch before it is delivered first. A coroutine that a timer's flush calls is cut off
where it first waits. -/
theorem full_batch_waits_for_itself :
    ¬@Sound Nat ⟨.async, { maxBatchSize := 2 }, true⟩
        (final (step ⟨.async, { maxBatchSize := 2 }, true⟩) idle
          [.call 0 (.add "k" 1), .run 0, .call 0 (.add "k" 2), .run 0]) ∧
      ¬@Sound Nat ⟨.sync, { maxBatchSize := 1 }, true⟩
        (final (step ⟨.sync, { maxBatchSize := 1 }, true⟩) idle
          [.call 0 (.add "k" 1), .run 0, .call 0 (.flush "other")]) ∧
      ¬@Sound Nat ⟨.sync, { maxBatchSize := 2 }, true⟩
        (final (step ⟨.sync, { maxBatchSize := 2 }, true⟩) idle
          [.call 0 (.add "k" 1), .run 0, .expire 1 "k", .run 1, .call 0 (.add "k" 2), .run 0,
            .call 0 (.add "k" 3), .run 0]) ∧
      ¬@Sound Nat ⟨.async, { maxBatchSize := 2 }, true⟩
        (final (step ⟨.async, { maxBatchSize := 2 }, true⟩) idle
          [.call 0 (.add "k" 1), .run 0, .expire 1 "k", .run 1, .run 1, .suspend 1]) := by
  refine ⟨fun sound => ?_, fun sound => ?_, fun sound => ?_, fun sound => ?_⟩
  · exact absurd (sound.noSelfWait 0) (by decide)
  · exact absurd (sound.noSelfWait 0) (by decide)
  · exact absurd (sound.accounted "k") (by decide)
  · exact absurd sound.noneLost (by decide)

end Batcher

end Hartos.Queue
