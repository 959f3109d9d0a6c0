import Hartos.InstructionQueue
import Hartos.StepSystem

/-!
Every instruction of the queue, over runs with drains that stop half-way and restarts. A status is
written without a look at the old one, and a batch is stored while the drain that owns it is not.
-/
namespace Hartos.InstructionQueue
open KeyedTable StepSystem

structure System where
  queue : Queue
  running : List String
  failures : String → Nat

def System.init : System := ⟨.init, [], fun _ => 0⟩

/-- `finish` is the end of a drain, by its return or by an exception. -/
inductive Event
  | enqueue (id text : String) (priority : Int) (createdAt : String) (contextChars : Nat)
      (ledgerTaskId registered : Option String)
  | markStatus (id : String) (status : Status)
  | pullBatch (ledger : Ledger) (batchId : String) (parallel next : List String) (maxTokens : Int)
      (maxInstructions : Nat)
  | pullPlan (ledger : Ledger) (batchId : String) (maxTokens : Int) (maxInstructions : Nat)
  | complete (id : String)
  | fail (id : String) (transient : Bool)
  | completeBatch (batchId : String)
  | failBatch (batchId : String)
  | clearDone
  | finish (batchId : String)
  | restart

def handed (s : System) : Event → List Instruction
  | .pullBatch ledger batchId parallel next maxTokens maxInstructions =>
      (s.queue.pullBatch ledger batchId parallel next maxTokens maxInstructions).1
  | .pullPlan _ _ maxTokens maxInstructions =>
      Queue.select s.queue.getPending maxTokens maxInstructions
  | _ => []

section Steps
variable (maxAttempts : Int)

def step (s : System) : Event → System
  | .enqueue id text priority createdAt contextChars ledgerTaskId registered =>
      { s with
        queue := s.queue.enqueue id text priority createdAt contextChars ledgerTaskId registered
        failures := if s.queue.duplicate text then s.failures
          else Function.update s.failures id 0 }
  | .markStatus id status => { s with queue := s.queue.markStatus id status }
  | .pullBatch ledger batchId parallel next maxTokens maxInstructions =>
      { s with
        queue := (s.queue.pullBatch ledger batchId parallel next maxTokens maxInstructions).2
        running := batchId :: s.running }
  | .pullPlan ledger batchId maxTokens maxInstructions =>
      { s with
        queue := (s.queue.pullExecutionPlan ledger batchId maxTokens maxInstructions).2
        running := batchId :: s.running }
  | .complete id => { s with queue := s.queue.completeInstruction id }
  | .fail id transient =>
      { s with
        queue := s.queue.failInstruction maxAttempts id transient
        failures := if transient then s.failures
          else Function.update s.failures id (s.failures id + 1) }
  | .completeBatch batchId => { s with queue := s.queue.completeBatch batchId }
  | .failBatch batchId =>
      { s with
        queue := s.queue.failBatch batchId
        failures := fun id =>
          if s.queue.instructions.rows.any fun inst =>
            inst.id = id ∧ inst.batchId = some batchId ∧ inst.status = .batched
          then s.failures id + 1 else s.failures id }
  | .clearDone => { s with queue := s.queue.clearDone }
  | .finish batchId => { s with running := s.running.filter (· ≠ batchId) }
  | .restart => { s with queue := s.queue.load, running := [] }

end Steps

def pulls (maxTokens : Int) (maxInstructions : Nat) : Nat → Queue → Queue
  | 0, q => q
  | n + 1, q =>
      pulls maxTokens maxInstructions n (q.pullExecutionPlan none "" maxTokens maxInstructions).2

def PulledLater (q : Queue) (inst : Instruction) : Prop :=
  ∀ (maxTokens : Int) (maxInstructions : Nat), 0 < maxInstructions →
    ∃ n, inst.id ∈ (Queue.select (pulls maxTokens maxInstructions n q).getPending maxTokens
      maxInstructions).map Instruction.id

def WorkedOn (s : System) (inst : Instruction) : Prop :=
  ∃ batchId ∈ inst.batchId, batchId ∈ s.running

def Accounted (s : System) : Prop :=
  ∀ inst ∈ s.queue.instructions.rows, inst.status.terminal = true ∨ WorkedOn s inst ∨
    PulledLater s.queue inst

structure Final (maxAttempts : Int) (s : System) (event : Event) (s' : System) : Prop where
  kept : ∀ inst ∈ s.queue.instructions.rows, inst.status.terminal = true →
    ∀ inst' ∈ s'.queue.instructions.rows, inst'.id = inst.id → inst'.status = inst.status
  present : ∀ inst ∈ s.queue.instructions.rows, inst.status.terminal = false →
    ∃ inst' ∈ s'.queue.instructions.rows, inst'.id = inst.id
  waiting : ∀ inst ∈ handed s event,
    inst ∈ s.queue.instructions.rows ∧ inst.status.terminal = false
  capped : ∀ inst ∈ handed s event, s.failures inst.id = 0 ∨ s.failures inst.id < maxAttempts

section Condition
variable (maxAttempts : Int)

/-- Nobody writes over a finished instruction, a drain or a process that ends leaves none of its
own unfinished, and the failure that reaches the cap is one that the cap is checked at. -/
def Careful (s : System) : Event → Prop
  | .enqueue id text _ _ _ _ _ =>
      s.queue.duplicate text = true ∨ s.queue.instructions.get? id = none
  | .markStatus id status => ∀ inst ∈ s.queue.instructions.get? id,
      (inst.status.terminal = true → status = inst.status) ∧
        (status.taken = true → WorkedOn s inst)
  | .complete id => ∀ inst ∈ s.queue.instructions.get? id,
      inst.status.terminal = true → inst.status = .done
  | .fail id transient => ∀ inst ∈ s.queue.instructions.get? id, inst.status.terminal = false ∧
      (transient = false → maxAttempts ≤ s.failures id + 1 → maxAttempts ≤ inst.attempts + 1)
  | .completeBatch batchId => ∀ inst ∈ s.queue.instructions.rows, inst.batchId = some batchId →
      inst.status.terminal = true → inst.status = .done
  | .failBatch batchId => ∀ inst ∈ s.queue.instructions.rows, inst.batchId = some batchId →
      inst.status = .batched → s.failures inst.id + 1 < maxAttempts
  | .finish batchId => ∀ inst ∈ s.queue.instructions.rows, inst.batchId = some batchId →
      inst.status.taken = false
  | .restart => ∀ inst ∈ s.queue.instructions.rows, inst.status.taken = false
  | .pullBatch .. | .pullPlan .. | .clearDone => True

instance (s : System) (inst : Instruction) : Decidable (WorkedOn s inst) :=
  inferInstanceAs (Decidable (∃ batchId ∈ inst.batchId, batchId ∈ s.running))

instance decidableCareful (s : System) : (event : Event) → Decidable (Careful maxAttempts s event)
  | .enqueue .. => inferInstanceAs (Decidable (_ ∨ _))
  | .markStatus id _ => inferInstanceAs (Decidable (∀ inst ∈ s.queue.instructions.get? id, _ ∧ _))
  | .complete id => inferInstanceAs (Decidable (∀ inst ∈ s.queue.instructions.get? id, _ → _))
  | .fail id _ => inferInstanceAs (Decidable (∀ inst ∈ s.queue.instructions.get? id, _ ∧ _))
  | .completeBatch _ => inferInstanceAs (Decidable (∀ inst ∈ s.queue.instructions.rows, _ → _ → _))
  | .failBatch _ => inferInstanceAs (Decidable (∀ inst ∈ s.queue.instructions.rows, _ → _ → _))
  | .finish _ => inferInstanceAs (Decidable (∀ inst ∈ s.queue.instructions.rows, _ → _))
  | .restart => inferInstanceAs (Decidable (∀ inst ∈ s.queue.instructions.rows, _))
  | .pullBatch .. | .pullPlan .. | .clearDone => inferInstanceAs (Decidable True)

structure Ok (s : System) (inst : Instruction) : Prop where
  placed : inst.status.taken = true → WorkedOn s inst
  capped : inst.status.terminal = false → s.failures inst.id = 0 ∨ s.failures inst.id < maxAttempts

structure Inv (s : System) : Prop where
  saved : s.queue.file = s.queue.instructions
  ok : ∀ inst ∈ s.queue.instructions.rows, Ok maxAttempts s inst

end Condition

section Pulls
variable {q : Queue} {inst : Instruction}

theorem mem_revise {table : Instructions} {change : Instruction → Instruction}
    {same : ∀ inst, (change inst).id = inst.id} :
    inst ∈ (revise table change same).rows ↔ ∃ old ∈ table.rows, change old = inst :=
  List.mem_map

/-! What waits and is not pulled goes on waiting, behind fewer others. -/

def waiting (q : Queue) : List Instruction :=
  q.instructions.rows.filter fun inst => inst.status = .queued

theorem waiting_markBatched (batchId : String) (selected : List Instruction) :
    waiting (q.markBatched batchId selected) =
      (waiting q).filter fun inst => inst.id ∉ selected.map Instruction.id := by
  simp only [waiting, Queue.markBatched, Queue.save, revise, List.filter_filter]
  generalize selected.map Instruction.id = ids
  induction q.instructions.rows with
  | nil => rfl
  | cons first rest ih =>
    by_cases taken : first.id ∈ ids
    · simpa [List.filter_cons, taken] using ih
    · by_cases queued : first.status = .queued
      · simpa [List.filter_cons, taken, queued] using ih
      · simpa [List.filter_cons, taken, queued] using ih

theorem pulledLater (inst : Instruction) (count : Nat) (q : Queue)
    (few : (waiting q).length ≤ count) (waits : inst ∈ waiting q) : PulledLater q inst := by
  intro maxTokens maxInstructions positive
  induction count generalizing q with
  | zero =>
    have none := List.eq_nil_of_length_eq_zero (Nat.le_zero.mp few)
    rw [none] at waits
    exact absurd waits List.not_mem_nil
  | succ count ih =>
    have pending : inst ∈ q.getPending := by
      rw [mem_getPending]
      simpa [waiting] using waits
    obtain ⟨first, chosen⟩ := List.exists_mem_of_ne_nil _
      (select_ne_nil (List.ne_nil_of_mem pending) maxTokens positive)
    by_cases taken : inst.id ∈
        (Queue.select q.getPending maxTokens maxInstructions).map Instruction.id
    · exact ⟨0, taken⟩
    · have next : (q.pullExecutionPlan none "" maxTokens maxInstructions).2 =
          q.markBatched "" (Queue.select q.getPending maxTokens maxInstructions) := by
        rw [Queue.pullExecutionPlan, if_neg (List.ne_nil_of_mem chosen)]
      have fewer : (waiting (q.markBatched ""
          (Queue.select q.getPending maxTokens maxInstructions))).length < (waiting q).length := by
        rw [waiting_markBatched]
        refine List.length_filter_lt_length_iff_exists.mpr ⟨first, ?_, ?_⟩
        · have queued := mem_getPending.mp (select_subset _ _ _ chosen)
          simpa [waiting] using queued
        · simpa using ⟨first, chosen, rfl⟩
      have left : inst ∈ waiting (q.markBatched ""
          (Queue.select q.getPending maxTokens maxInstructions)) := by
        rw [waiting_markBatched]
        exact List.mem_filter.mpr ⟨waits, by simpa using taken⟩
      obtain ⟨n, found⟩ := ih _ (by omega) left
      exact ⟨n + 1, by rwa [pulls, next]⟩

theorem pulledLater_of_queued (member : inst ∈ q.instructions.rows)
    (queued : inst.status = .queued) : PulledLater q inst :=
  pulledLater inst _ q le_rfl (List.mem_filter.mpr ⟨member, by simpa using queued⟩)

theorem mem_put {row other : String × Instruction} {rows : List (String × Instruction)}
    (member : other ∈ put Prod.fst row rows) : other = row ∨ other ∈ rows := by
  induction rows with
  | nil => exact .inl (List.mem_singleton.mp member)
  | cons first rest ih =>
    simp only [put] at member
    split_ifs at member
    · exact (List.mem_cons.mp member).imp_right (List.mem_cons_of_mem first)
    · rcases List.mem_cons.mp member with rfl | later
      · exact .inr List.mem_cons_self
      · exact (ih later).imp_right (List.mem_cons_of_mem first)

theorem instByTask_subset (ledger : Ledger) (instructions : List Instruction) :
    ∀ row ∈ q.instByTask ledger instructions, row.2 ∈ instructions := by
  induction instructions using List.reverseRecOn with
  | nil => exact fun row member => absurd member List.not_mem_nil
  | append_singleton earlier last ih =>
    intro row member
    rw [Queue.instByTask, List.foldl_append] at member
    simp only [List.foldl_cons, List.foldl_nil] at member
    cases mapped : q.task ledger last with
    | none =>
      rw [mapped] at member
      exact List.mem_append_left _ (ih row member)
    | some id =>
      rw [mapped] at member
      rcases mem_put member with rfl | old
      · exact List.mem_append_right _ List.mem_cons_self
      · exact List.mem_append_left _ (ih row old)

theorem ledgerOrderedPending_subset (ledger : Ledger) (parallel next : List String) :
    q.ledgerOrderedPending ledger parallel next ⊆ q.getPending := by
  intro inst member
  simp only [Queue.ledgerOrderedPending] at member
  split_ifs at member
  · exact member
  · rcases List.mem_append.mp member with tasks | plain
    · rcases List.mem_append.mp tasks with ready | rest
      · obtain ⟨id, _, found⟩ := List.mem_filterMap.mp ready
        obtain ⟨row, looked, rfl⟩ := Option.map_eq_some_iff.mp found
        exact instByTask_subset ledger _ row (lookup_key _ _ _ _ looked).2
      · obtain ⟨row, kept, rfl⟩ := List.mem_map.mp rest
        exact instByTask_subset ledger _ row (List.mem_of_mem_filter kept)
    · exact List.mem_of_mem_filter plain

theorem handed_queued (s : System) (event : Event) :
    ∀ inst ∈ handed s event, inst ∈ s.queue.instructions.rows ∧ inst.status = .queued := by
  intro inst member
  cases event with
  | pullBatch ledger batchId parallel next maxTokens maxInstructions =>
    simp only [handed, Queue.pullBatch] at member
    split_ifs at member with none
    · exact absurd member List.not_mem_nil
    · exact mem_getPending.mp (ledgerOrderedPending_subset _ _ _ (select_subset _ _ _ member))
  | pullPlan _ _ maxTokens maxInstructions =>
    exact mem_getPending.mp (select_subset _ _ _ member)
  | _ => exact absurd member List.not_mem_nil

theorem table_ext {left right : Instructions} (rows : left.rows = right.rows) : left = right := by
  cases left
  cases rows
  rfl

end Pulls

section Kept
variable {maxAttempts : Int} {s s' : System} (inv : Inv maxAttempts s)
include inv

variable {event : Event} (id : String) (update : Instruction → Instruction)
  (same : ∀ inst, (update inst).id = inst.id) {batchId : String}

theorem final_of_kept
    (kept : ∀ inst ∈ s.queue.instructions.rows, inst.status.terminal = true →
      ∀ inst' ∈ s'.queue.instructions.rows, inst'.id = inst.id → inst'.status = inst.status)
    (present : ∀ inst ∈ s.queue.instructions.rows, inst.status.terminal = false →
      ∃ inst' ∈ s'.queue.instructions.rows, inst'.id = inst.id) : Final maxAttempts s event s' := by
  have open' : ∀ inst ∈ handed s event,
      inst ∈ s.queue.instructions.rows ∧ inst.status.terminal = false := by
    intro inst member
    obtain ⟨inside, queued⟩ := handed_queued s event inst member
    exact ⟨inside, by rw [queued]; rfl⟩
  refine ⟨kept, present, open', fun inst member => ?_⟩
  obtain ⟨inside, waits⟩ := open' inst member
  exact (inv.ok inst inside).capped waits

theorem revised (change : Instruction → Instruction) (same : ∀ inst, (change inst).id = inst.id)
    (queue : s'.queue.instructions = revise s.queue.instructions change same)
    (saved : s'.queue.file = s'.queue.instructions)
    (each : ∀ inst ∈ s.queue.instructions.rows, Ok maxAttempts s inst →
      Ok maxAttempts s' (change inst))
    (terminal : ∀ inst ∈ s.queue.instructions.rows, inst.status.terminal = true →
      (change inst).status = inst.status) : Inv maxAttempts s' ∧ Final maxAttempts s event s' := by
  refine ⟨⟨saved, fun inst member => ?_⟩, final_of_kept inv ?_ ?_⟩
  · rw [queue] at member
    obtain ⟨old, inside, rfl⟩ := mem_revise.mp member
    exact each old inside (inv.ok old inside)
  · intro inst inside finished inst' member named
    rw [queue] at member
    obtain ⟨old, inside', rfl⟩ := mem_revise.mp member
    obtain rfl := eq_of_id inside inside' ((same old).symm.trans named)
    exact terminal old inside finished
  · intro inst inside _
    refine ⟨change inst, ?_, same inst⟩
    rw [queue]
    exact mem_revise.mpr ⟨inst, inside, rfl⟩

theorem unchanged (queue : s'.queue.instructions = s.queue.instructions)
    (saved : s'.queue.file = s'.queue.instructions)
    (each : ∀ inst ∈ s.queue.instructions.rows, Ok maxAttempts s inst → Ok maxAttempts s' inst) :
    Inv maxAttempts s' ∧ Final maxAttempts s event s' := by
  refine ⟨⟨saved, fun inst member => ?_⟩, final_of_kept inv ?_ ?_⟩
  · rw [queue] at member
    exact each inst member (inv.ok inst member)
  · intro inst inside _ inst' member named
    rw [queue] at member
    rw [eq_of_id inside member named]
  · exact fun inst inside _ => ⟨inst, queue ▸ inside, rfl⟩

/-- A change of one instruction, whether or not it is there. -/
theorem change_instructions :
    (s.queue.change id update same).instructions = revise s.queue.instructions
        (fun inst => if inst.id = id then update inst else inst)
        (fun inst => by split <;> simp [same]) ∧
      (s.queue.change id update same).file = (s.queue.change id update same).instructions := by
  unfold Queue.change
  split_ifs with there
  · exact ⟨rfl, rfl⟩
  · refine ⟨?_, inv.saved⟩
    have absent : id ∉ s.queue.instructions.keys :=
      (s.queue.instructions.get?_none id).mp (by simpa using there)
    refine table_ext (((List.map_congr_left fun inst member => ?_).trans (List.map_id _)).symm)
    refine if_neg fun named => absent ?_
    rw [← named]
    exact List.mem_map_of_mem member

/-- An instruction that has not changed is as good in a state with the same failures and drains. -/
theorem changed (queue : s'.queue = s.queue.change id update same)
    (running : s'.running = s.running)
    (failures : ∀ other, other ≠ id → s'.failures other = s.failures other)
    (each : ∀ inst ∈ s.queue.instructions.get? id, Ok maxAttempts s inst →
      Ok maxAttempts s' (update inst))
    (terminal : ∀ inst ∈ s.queue.instructions.get? id, inst.status.terminal = true →
      (update inst).status = inst.status) : Inv maxAttempts s' ∧ Final maxAttempts s event s' := by
  obtain ⟨instructions, saved⟩ := change_instructions inv id update same
  have found : ∀ inst ∈ s.queue.instructions.rows, inst.id = id →
      inst ∈ s.queue.instructions.get? id := by
    rintro inst inside rfl
    exact s.queue.instructions.mem_get? inst inside
  refine revised inv _ _ (queue ▸ instructions) (queue ▸ saved) (fun inst inside ok => ?_)
    fun inst inside finished => ?_
  · by_cases named : inst.id = id
    · rw [if_pos named]
      exact each inst (found inst inside named) ok
    · rw [if_neg named]
      refine ⟨fun taken => ?_, fun waits => ?_⟩
      · obtain ⟨batchId, own, runs⟩ := ok.placed taken
        exact ⟨batchId, own, running ▸ runs⟩
      · rw [failures inst.id named]
        exact ok.capped waits
  · by_cases named : inst.id = id
    · rw [if_pos named]
      exact terminal inst (found inst inside named) finished
    · rw [if_neg named]

theorem pulled (selected : List Instruction)
    (queue : s'.queue = s.queue.markBatched batchId selected)
    (running : s'.running = batchId :: s.running) (failures : s'.failures = s.failures)
    (queued : ∀ inst ∈ selected, inst ∈ s.queue.instructions.rows ∧ inst.status = .queued) :
    Inv maxAttempts s' ∧ Final maxAttempts s event s' := by
  have waits : ∀ inst ∈ s.queue.instructions.rows, inst.id ∈ selected.map Instruction.id →
      inst.status = .queued := by
    intro inst inside chosen
    obtain ⟨other, member, named⟩ := List.mem_map.mp chosen
    obtain ⟨inside', status⟩ := queued other member
    rwa [← eq_of_id inside inside' named]
  refine revised inv (fun inst => if inst.id ∈ selected.map Instruction.id then
      { inst with status := .batched, batchId := some batchId } else inst)
    (fun inst => by split <;> rfl) (by rw [queue]; rfl) (by rw [queue]; rfl)
    (fun inst inside ok => ?_) fun inst inside finished => ?_
  · split_ifs with chosen
    · refine ⟨fun _ => ⟨batchId, rfl, by rw [running]; exact List.mem_cons_self⟩, fun _ => ?_⟩
      rw [failures]
      exact ok.capped (by rw [waits inst inside chosen]; rfl)
    · refine ⟨fun taken => ?_, fun open' => failures ▸ ok.capped open'⟩
      obtain ⟨own, same, runs⟩ := ok.placed taken
      exact ⟨own, same, by rw [running]; exact List.mem_cons_of_mem batchId runs⟩
  · split_ifs with chosen
    · rw [waits inst inside chosen] at finished
      cases finished
    · rfl

theorem unpulled (queue : s'.queue = s.queue) (running : s'.running = batchId :: s.running)
    (failures : s'.failures = s.failures) : Inv maxAttempts s' ∧ Final maxAttempts s event s' := by
  refine unchanged inv (by rw [queue]) (by rw [queue]; exact inv.saved) fun inst inside ok =>
    ⟨fun taken => ?_, fun open' => failures ▸ ok.capped open'⟩
  obtain ⟨own, same, runs⟩ := ok.placed taken
  exact ⟨own, same, by rw [running]; exact List.mem_cons_of_mem batchId runs⟩

theorem enqueued (inst : Instruction) (fresh : s.queue.instructions.get? inst.id = none)
    (queue : s'.queue.instructions = s.queue.instructions.set inst)
    (saved : s'.queue.file = s'.queue.instructions) (waits : inst.status = .queued)
    (running : s'.running = s.running)
    (failures : s'.failures = Function.update s.failures inst.id 0) :
    Inv maxAttempts s' ∧ Final maxAttempts s event s' := by
  have other : ∀ old ∈ s.queue.instructions.rows, old.id ≠ inst.id := by
    intro old inside named
    rw [← named, s.queue.instructions.mem_get? old inside] at fresh
    cases fresh
  refine ⟨⟨saved, fun new member => ?_⟩, final_of_kept inv ?_ ?_⟩
  · rw [queue, Table.mem_set] at member
    rcases member with rfl | ⟨inside, named⟩
    · refine ⟨fun taken => ?_, fun _ => .inl (by rw [failures, Function.update_self])⟩
      rw [waits] at taken
      cases taken
    · refine ⟨fun taken => ?_, fun open' => ?_⟩
      · obtain ⟨own, same, runs⟩ := (inv.ok new inside).placed taken
        exact ⟨own, same, running ▸ runs⟩
      · rw [failures, Function.update_of_ne named]
        exact (inv.ok new inside).capped open'
  · intro old inside _ new member named
    rw [queue, Table.mem_set] at member
    rcases member with rfl | ⟨inside', _⟩
    · exact absurd named.symm (other old inside)
    · rw [eq_of_id inside inside' named]
  · intro old inside _
    refine ⟨old, ?_, rfl⟩
    rw [queue, Table.mem_set]
    exact .inr ⟨inside, other old inside⟩

end Kept

variable {maxAttempts : Int} {s : System}

theorem fail_kept {id : String} {transient : Bool} (inv : Inv maxAttempts s)
    (careful : Careful maxAttempts s (.fail id transient)) :
    Inv maxAttempts (step maxAttempts s (.fail id transient)) ∧
      Final maxAttempts s (.fail id transient) (step maxAttempts s (.fail id transient)) := by
  refine changed inv id (Queue.failed maxAttempts transient) (fun _ => rfl) rfl rfl
    (fun other unlike => ?_) (fun inst found ok => ?_) fun inst found finished => ?_
  · cases transient with
    | true => rfl
    | false => exact Function.update_of_ne unlike _ _
  · obtain ⟨waits, cap⟩ := careful inst found
    obtain rfl := s.queue.instructions.get?_key id inst found
    cases transient with
    | true => exact ⟨nofun, fun _ => ok.capped waits⟩
    | false =>
      have cap := cap rfl
      by_cases last : maxAttempts ≤ inst.attempts + 1
      · have dead : (Queue.failed maxAttempts false inst).status = .failed := by
          simp [Queue.failed, last]
        refine ⟨fun taken => ?_, fun open' => ?_⟩
        · rw [dead] at taken
          cases taken
        · rw [dead] at open'
          cases open'
      · have back : (Queue.failed maxAttempts false inst).status = .queued := by
          simp [Queue.failed, last]
        refine ⟨fun taken => ?_, fun _ => .inr ?_⟩
        · rw [back] at taken
          cases taken
        simp only [step, Queue.failed, Function.update_self, Bool.false_eq_true, if_false]
        omega
  · exact absurd (finished.symm.trans (careful inst found).1) (by decide)

theorem failBatch_kept {batchId : String} (inv : Inv maxAttempts s)
    (careful : Careful maxAttempts s (.failBatch batchId)) :
    Inv maxAttempts (step maxAttempts s (.failBatch batchId)) ∧
      Final maxAttempts s (.failBatch batchId) (step maxAttempts s (.failBatch batchId)) := by
  have count : ∀ inst ∈ s.queue.instructions.rows,
      (s.queue.instructions.rows.any fun other =>
        other.id = inst.id ∧ other.batchId = some batchId ∧ other.status = .batched) = true ↔
          inst.batchId = some batchId ∧ inst.status = .batched := by
    intro inst inside
    simp only [List.any_eq_true, decide_eq_true_eq]
    constructor
    · rintro ⟨other, inside', named, own⟩
      rwa [eq_of_id inside inside' named] at own
    · exact fun own => ⟨inst, inside, rfl, own⟩
  refine revised inv (fun inst =>
      if inst.batchId = some batchId ∧ inst.status = .batched then
        { inst with status := .queued, batchId := none } else inst)
    (fun inst => by split <;> rfl) rfl rfl (fun inst inside ok => ?_)
    fun inst inside finished => ?_
  · split_ifs with own
    · refine ⟨nofun, fun _ => .inr ?_⟩
      have below := careful inst inside own.1 own.2
      simp only [step, if_pos ((count inst inside).mpr own)]
      omega
    · refine ⟨ok.placed, fun open' => ?_⟩
      simp only [step, if_neg (mt (count inst inside).mp own)]
      exact ok.capped open'
  · split_ifs with own
    · rw [own.2] at finished
      cases finished
    · rfl

theorem clearDone_kept (inv : Inv maxAttempts s) :
    Inv maxAttempts (step maxAttempts s .clearDone) ∧
      Final maxAttempts s .clearDone (step maxAttempts s .clearDone) := by
  simp only [step, Queue.clearDone]
  split_ifs
  · exact unchanged inv rfl inv.saved fun _ _ ok => ok
  · refine ⟨⟨rfl, fun inst member => ?_⟩, final_of_kept inv ?_ ?_⟩
    · have ok := inv.ok inst (List.mem_of_mem_filter member)
      exact ⟨ok.placed, ok.capped⟩
    · intro inst inside _ inst' member named
      rw [eq_of_id inside (List.mem_of_mem_filter member) named]
    · intro inst inside waits
      refine ⟨inst, List.mem_filter.mpr ⟨inside, ?_⟩, rfl⟩
      cases status : inst.status <;> rw [status] at waits <;> first | rfl | cases waits

theorem step_kept (inv : Inv maxAttempts s) (event : Event)
    (careful : Careful maxAttempts s event) :
    Inv maxAttempts (step maxAttempts s event) ∧
      Final maxAttempts s event (step maxAttempts s event) := by
  cases event with
  | enqueue id text priority createdAt contextChars ledgerTaskId registered =>
    by_cases waits : s.queue.duplicate text = true
    · refine unchanged inv ?_ ?_ fun inst inside ok => ?_
      · simp only [step, Queue.enqueue, if_pos waits]
      · simp only [step, Queue.enqueue, if_pos waits, inv.saved]
      · simpa only [step, if_pos waits] using ⟨ok.placed, ok.capped⟩
    · have fresh := careful.resolve_left waits
      refine enqueued inv ⟨id, text, .queued, createdAt, priority, contextChars,
        registered <|> ledgerTaskId, none, 0⟩ fresh ?_ ?_ rfl rfl ?_
      · simp only [step, Queue.enqueue, if_neg waits]
        rfl
      · simp only [step, Queue.enqueue, if_neg waits]
        rfl
      · simp only [step, if_neg waits]
  | markStatus id status =>
    refine changed inv id (fun inst => { inst with status := status }) (fun _ => rfl) rfl rfl
      (fun _ _ => rfl) (fun inst found ok => ?_) fun inst found finished => ?_
    · refine ⟨fun taken => (careful inst found).2 taken, fun waits => ?_⟩
      cases finished : inst.status.terminal with
      | false => exact ok.capped finished
      | true =>
        have same : status = inst.status := (careful inst found).1 finished
        exact absurd (finished.symm.trans (same ▸ waits)) (by decide)
    · exact (careful inst found).1 finished
  | complete id =>
    exact changed inv id (fun inst => { inst with status := .done }) (fun _ => rfl) rfl rfl
      (fun _ _ => rfl) (fun _ _ _ => ⟨nofun, nofun⟩)
      fun inst found finished => (careful inst found finished).symm
  | fail id transient => exact fail_kept inv careful
  | completeBatch batchId =>
    refine revised inv (fun inst =>
        if inst.batchId = some batchId then { inst with status := .done } else inst)
      (fun inst => by split <;> rfl) rfl rfl (fun inst inside ok => ?_)
      fun inst inside finished => ?_
    · split_ifs with own
      · exact ⟨nofun, nofun⟩
      · exact ⟨ok.placed, ok.capped⟩
    · split_ifs with own
      · exact (careful inst inside own finished).symm
      · rfl
  | failBatch batchId => exact failBatch_kept inv careful
  | clearDone => exact clearDone_kept inv
  | finish batchId =>
    refine unchanged inv rfl inv.saved fun inst inside ok => ⟨fun taken => ?_, ok.capped⟩
    obtain ⟨own, same, runs⟩ := ok.placed taken
    refine ⟨own, same, List.mem_filter.mpr ⟨runs, ?_⟩⟩
    simp only [decide_eq_true_eq]
    rintro rfl
    exact absurd (taken.symm.trans (careful inst inside same)) (by decide)
  | restart =>
    refine unchanged inv inv.saved rfl fun inst inside ok => ⟨fun taken => ?_, ok.capped⟩
    exact absurd (taken.symm.trans (careful inst inside)) (by decide)
  | pullBatch ledger batchId parallel next maxTokens maxInstructions =>
    by_cases none : Queue.select (s.queue.ledgerOrderedPending ledger parallel next) maxTokens
        maxInstructions = []
    · exact unpulled inv (by simp only [step, Queue.pullBatch, if_pos none]) rfl rfl
    · refine pulled inv _ (by simp only [step, Queue.pullBatch, if_neg none]; rfl) rfl rfl
        fun inst member => ?_
      exact mem_getPending.mp (ledgerOrderedPending_subset _ _ _ (select_subset _ _ _ member))
  | pullPlan ledger batchId maxTokens maxInstructions =>
    by_cases none : Queue.select s.queue.getPending maxTokens maxInstructions = []
    · exact unpulled inv (by simp only [step, Queue.pullExecutionPlan, if_pos none]) rfl rfl
    · exact pulled inv _ (by simp only [step, Queue.pullExecutionPlan, if_neg none]; rfl) rfl rfl
        fun inst member => mem_getPending.mp (select_subset _ _ _ member)

theorem accounted_of_inv (inv : Inv maxAttempts s) : Accounted s := by
  intro inst inside
  have ok := inv.ok inst inside
  cases status : inst.status with
  | queued => exact .inr (.inr (pulledLater_of_queued inside status))
  | batched => exact .inr (.inl (ok.placed (by rw [status]; rfl)))
  | inProgress => exact .inr (.inl (ok.placed (by rw [status]; rfl)))
  | done | failed | cancelled => exact .inl rfl

theorem init_inv (maxAttempts : Int) : Inv maxAttempts System.init :=
  ⟨rfl, fun _ inside => absurd inside List.not_mem_nil⟩

/-- In every run of careful steps each instruction is accounted for, and what is finished stays
so. -/
theorem instructions_accounted (maxAttempts : Int) (run : List Event)
    (careful : Along (step maxAttempts) (Careful maxAttempts) .init run) :
    Always (step maxAttempts) Accounted .init run ∧
      Along (step maxAttempts) (fun s event => Final maxAttempts s event (step maxAttempts s event))
        .init run := by
  constructor
  · exact always_of_invariant (step maxAttempts) (Inv maxAttempts) Accounted (Careful maxAttempts)
      (fun _ event inv held => (step_kept inv event held).1) (fun _ inv => accounted_of_inv inv)
      run _ (init_inv maxAttempts) careful
  · exact along_of_invariant (step maxAttempts) (Inv maxAttempts) (Careful maxAttempts) _
      (fun _ event inv held => (step_kept inv event held).1)
      (fun _ event inv held => (step_kept inv event held).2) run _ (init_inv maxAttempts) careful

def retried : List Event :=
  [.enqueue "a" "call" 1 "t1" 2 none none, .enqueue "b" "mail" 5 "t2" 2 none none,
    .pullPlan none "p1" 8000 1, .fail "a" false, .finish "p1", .markStatus "b" .cancelled,
    .pullPlan none "p2" 8000 20, .complete "a", .finish "p2", .restart, .clearDone]

theorem retried_accounted : Always (step 5) Accounted .init retried ∧
    Along (step 5) (fun s event => Final 5 s event (step 5 s event)) .init retried :=
  instructions_accounted 5 retried (by decide +kernel)

theorem not_pulledLater {q : Queue} (none : q.getPending = []) (inst : Instruction) :
    ¬ PulledLater q inst := by
  intro later
  have nothing : Queue.select q.getPending 8000 20 = [] := by rw [none]; rfl
  have still : ∀ n, pulls 8000 20 n q = q := by
    intro n
    induction n with
    | zero => rfl
    | succ n ih => rw [pulls, Queue.pullExecutionPlan, if_pos nothing, ih]
  obtain ⟨n, found⟩ := later 8000 20 (by decide)
  rw [still n, nothing] at found
  exact absurd found List.not_mem_nil

def interrupted : List Event :=
  [.enqueue "a" "call" 1 "t1" 2 none none, .pullPlan none "p1" 8000 20, .restart]

theorem instruction_stuck : ¬ ∀ (maxAttempts : Int) (run : List Event),
    Always (step maxAttempts) Accounted .init run ∧
      Along (step maxAttempts) (fun s event => Final maxAttempts s event (step maxAttempts s event))
        .init run := by
  intro claimed
  have accounted := always_final (claimed 5 interrupted).1
  have batched : (⟨"a", "call", .batched, "t1", 1, 2, none, some "p1", 0⟩ : Instruction) ∈
      (final (step 5) .init interrupted).queue.instructions.rows := by decide +kernel
  rcases accounted _ batched with finished | ⟨_, _, runs⟩ | later
  · cases finished
  · exact absurd runs List.not_mem_nil
  · exact not_pulledLater (by decide +kernel) _ later

end Hartos.InstructionQueue
