import Hartos.InstructionQueue

/-!
The order in which a drain dispatches the instructions of its plan. The waves follow the
dependencies among the selected instructions and go on whatever an earlier wave returned.
-/
namespace Hartos.InstructionQueue
open KeyedTable

inductive Outcome
  | success
  | failure
  | deferral
  deriving DecidableEq

inductive Entry
  | dispatched (id : String)
  | completed (id : String)
  | failed (id : String) (transient : Bool)
  deriving DecidableEq

def Entry.dispatch : Entry → Option String
  | .dispatched id => some id
  | _ => none

def Outcome.entry (id : String) : Outcome → Entry
  | .success => .completed id
  | .failure => .failed id false
  | .deferral => .failed id true

structure WaveLog (outcome : String → Outcome) (wave : List Instruction) (log : List Entry) :
    Prop where
  dispatches : (log.filterMap Entry.dispatch).Perm (wave.map Instruction.id)
  results : (log.filter fun entry => entry.dispatch = none).Perm
    (wave.map fun inst => (outcome inst.id).entry inst.id)
  later : ∀ before after id, log = before ++ (outcome id).entry id :: after →
    .dispatched id ∈ before

def DrainLog (outcome : String → Outcome) (waves : List (List Instruction)) (log : List Entry) :
    Prop :=
  ∃ logs, List.Forall₂ (WaveLog outcome) waves logs ∧ log = logs.flatten

namespace Queue
variable (q : Queue) (ledger : Ledger)

/-- The waves that `drain_instruction_queue` goes through; `locked` tells whether it got the
drain lock. -/
def drainWaves (locked : Bool) (maxTokens : Int) : List (List Instruction) :=
  if locked then (q.pullExecutionPlan ledger "" maxTokens 20).1.getD [] else []

def DependsOn (inst earlier : Instruction) : Prop :=
  ∃ id ∈ q.task ledger inst, ∃ id' ∈ q.task ledger earlier, id' ∈ dependencies ledger id

def Planned (maxTokens : Int) (inst : Instruction) : Prop :=
  inst ∈ select q.getPending maxTokens 20 ∧ (q.task ledger inst ≠ none →
    ((select q.getPending maxTokens 20).filter fun other =>
      q.task ledger other = q.task ledger inst).getLast? = some inst)

def Ordered (log : List Entry) : Prop :=
  ∀ before after inst, inst ∈ q.instructions.rows →
    log = before ++ .dispatched inst.id :: after →
      ∀ earlier ∈ q.instructions.rows, q.DependsOn ledger inst earlier →
        earlier.status = .done ∨ .completed earlier.id ∈ before

end Queue

section Tasks
variable {q : Queue} {ledger : Ledger} {instructions : List Instruction}

theorem instByTask_snoc (last : Instruction) :
    q.instByTask ledger (instructions ++ [last]) =
      match q.task ledger last with
      | some id => put Prod.fst (id, last) (q.instByTask ledger instructions)
      | none => q.instByTask ledger instructions := by
  rw [Queue.instByTask, List.foldl_append]
  rfl

theorem instByTask_unique : ((q.instByTask ledger instructions).map Prod.fst).Nodup := by
  induction instructions using List.reverseRecOn with
  | nil => exact List.nodup_nil
  | append_singleton earlier last ih =>
    rw [instByTask_snoc]
    cases q.task ledger last with
    | none => exact ih
    | some id => exact put_unique Prod.fst (id, last) _ ih

variable {inst : Instruction} (id : String)

-- The last instruction of a task has its place in the table.
theorem lookup_instByTask :
    lookup Prod.fst id (q.instByTask ledger instructions) =
      ((instructions.filter fun inst => q.task ledger inst = some id).getLast?).map (id, ·) := by
  induction instructions using List.reverseRecOn with
  | nil => rfl
  | append_singleton earlier last ih =>
    rw [instByTask_snoc, List.filter_append]
    cases mapped : q.task ledger last with
    | none => simpa [mapped] using ih
    | some own =>
      simp only [lookup_put]
      by_cases same : own = id
      · simp [mapped, same]
      · simpa [mapped, same] using ih

theorem mem_tasks : id ∈ (q.instByTask ledger instructions).map Prod.fst ↔
    ∃ inst ∈ instructions, q.task ledger inst = some id := by
  rw [← not_iff_not, ← lookup_none, lookup_instByTask]
  simp

def placed (q : Queue) (ledger : Ledger) (instructions : List Instruction) (id : String) :
    Option Instruction :=
  (lookup Prod.fst id (q.instByTask ledger instructions)).map Prod.snd

theorem placed_eq : placed q ledger instructions id =
    (instructions.filter fun inst => q.task ledger inst = some id).getLast? := by
  rw [placed, lookup_instByTask, Option.map_map]
  exact Option.map_id'

theorem placed_task {id : String} {inst : Instruction}
    (found : placed q ledger instructions id = some inst) :
    inst ∈ instructions ∧ q.task ledger inst = some id := by
  rw [placed_eq] at found
  have member := List.mem_filter.mp (List.mem_of_getLast? found)
  exact ⟨member.1, by simpa using member.2⟩

def Shown (q : Queue) (ledger : Ledger) (instructions : List Instruction) (inst : Instruction) :
    Prop :=
  inst ∈ instructions ∧ (q.task ledger inst ≠ none →
    (instructions.filter fun other => q.task ledger other = q.task ledger inst).getLast? =
      some inst)

theorem shown_of_unmapped :
    inst ∈ q.unmapped ledger instructions ↔ inst ∈ instructions ∧ q.task ledger inst = none := by
  simp [Queue.unmapped]

theorem shown_iff : Shown q ledger instructions inst ↔
    inst ∈ q.unmapped ledger instructions ∨
      ∃ id ∈ (q.instByTask ledger instructions).map Prod.fst,
        placed q ledger instructions id = some inst := by
  rw [shown_of_unmapped]
  constructor
  · rintro ⟨member, last⟩
    cases mapped : q.task ledger inst with
    | none => exact .inl ⟨member, rfl⟩
    | some id =>
      refine .inr ⟨id, (mem_tasks id).mpr ⟨inst, member, mapped⟩, ?_⟩
      rw [placed_eq, ← mapped]
      exact last (by simp [mapped])
  · rintro (⟨member, free⟩ | ⟨id, _, found⟩)
    · exact ⟨member, fun mapped => absurd free mapped⟩
    · obtain ⟨member, mapped⟩ := placed_task found
      refine ⟨member, fun _ => ?_⟩
      rw [mapped, ← placed_eq]
      exact found

end Tasks

section Waves
variable (q : Queue) (ledger : Ledger) (instructions : List Instruction)

def ours : List String := (q.instByTask ledger instructions).map Prod.fst

def inner (id : String) : List String :=
  (Queue.dependencies ledger id).filter (· ∈ ours q ledger instructions)

def taskLevels : List (List String) :=
  KahnLevels.levels (inner q ledger instructions) ((ours q ledger instructions).length + 1) []
    (ours q ledger instructions)

variable {q ledger instructions}

theorem buildWaves_eq : q.buildWaves ledger instructions =
    if q.instByTask ledger instructions = [] then [instructions]
    else
      match q.unmapped ledger instructions,
        (taskLevels q ledger instructions).map (·.filterMap (placed q ledger instructions)) with
      | [], waves => waves
      | unmapped, [] => [unmapped]
      | unmapped, first :: rest => (unmapped ++ first) :: rest := rfl

theorem taskLevels_perm :
    (taskLevels q ledger instructions).flatten.Perm (ours q ledger instructions) :=
  KahnLevels.levels_perm _ _ _ (Nat.le_succ _) instByTask_unique

/-- The levels are waves, with what no task knows put before the first. -/
theorem buildWaves_cases (some : q.instByTask ledger instructions ≠ []) :
    ∃ first rest, taskLevels q ledger instructions = first :: rest ∧
      q.buildWaves ledger instructions =
        (q.unmapped ledger instructions ++ first.filterMap (placed q ledger instructions)) ::
          rest.map (·.filterMap (placed q ledger instructions)) := by
  have ours_ne : ours q ledger instructions ≠ [] := by simpa [ours] using some
  have unfolded : ∃ first rest, taskLevels q ledger instructions = first :: rest := by
    unfold taskLevels
    simp only [KahnLevels.levels, if_neg ours_ne]
    exact ⟨_, _, rfl⟩
  obtain ⟨first, rest, levels⟩ := unfolded
  refine ⟨first, rest, levels, ?_⟩
  rw [buildWaves_eq, if_neg some, levels]
  cases q.unmapped ledger instructions <;> rfl

theorem mem_buildWaves {inst : Instruction} :
    inst ∈ (q.buildWaves ledger instructions).flatten ↔ Shown q ledger instructions inst := by
  by_cases none : q.instByTask ledger instructions = []
  · have free : ∀ other ∈ instructions, q.task ledger other = Option.none := by
      intro other member
      cases mapped : q.task ledger other with
      | none => rfl
      | some id =>
        have listed := (@mem_tasks q ledger instructions id).mpr ⟨other, member, mapped⟩
        rw [none] at listed
        exact absurd listed List.not_mem_nil
    rw [buildWaves_eq, if_pos none, List.flatten_singleton]
    exact ⟨fun member => ⟨member, fun mapped => absurd (free inst member) mapped⟩, fun shown => shown.1⟩
  · obtain ⟨first, rest, levels, waves⟩ := buildWaves_cases none
    rw [shown_iff, waves, List.flatten_cons, List.append_assoc, List.mem_append]
    refine or_congr_right ?_
    have whole : first.filterMap (placed q ledger instructions) ++
        (rest.map (·.filterMap (placed q ledger instructions))).flatten =
        (taskLevels q ledger instructions).flatten.filterMap (placed q ledger instructions) := by
      rw [levels, List.flatten_cons, List.filterMap_append, List.filterMap_flatten]
    rw [whole, List.mem_filterMap]
    exact exists_congr fun id => and_congr_left fun _ => taskLevels_perm.mem_iff

theorem buildWaves_nodup (unique : instructions.Nodup) :
    (q.buildWaves ledger instructions).flatten.Nodup := by
  by_cases none : q.instByTask ledger instructions = []
  · rwa [buildWaves_eq, if_pos none, List.flatten_singleton]
  · obtain ⟨first, rest, levels, waves⟩ := buildWaves_cases none
    have whole : (q.buildWaves ledger instructions).flatten = q.unmapped ledger instructions ++
        (taskLevels q ledger instructions).flatten.filterMap (placed q ledger instructions) := by
      rw [waves, levels, List.flatten_cons, List.flatten_cons, List.filterMap_append,
        List.filterMap_flatten, List.append_assoc]
    rw [whole, List.nodup_append]
    refine ⟨unique.filter _, ?_, ?_⟩
    · refine List.Nodup.filterMap (fun id id' inst found found' => ?_)
        (taskLevels_perm.nodup_iff.mpr instByTask_unique)
      have mapped := (placed_task found).2
      exact Option.some.inj (mapped.symm.trans (placed_task found').2)
    · rintro inst free other shown rfl
      obtain ⟨id, _, found⟩ := List.mem_filterMap.mp shown
      have mapped := (placed_task found).2
      rw [(shown_of_unmapped.mp free).2] at mapped
      cases mapped

/-- What an instruction of a wave depends on is in an earlier one, when it is in any. -/
theorem earlier_wave (acyclic : KahnLevels.Acyclic (Queue.dependencies ledger))
    {before after : List (List Instruction)} {wave : List Instruction}
    (split : q.buildWaves ledger instructions = before ++ wave :: after) {inst earlier : Instruction}
    (member : inst ∈ wave) (depends : q.DependsOn ledger inst earlier)
    (shown : Shown q ledger instructions earlier) : earlier ∈ before.flatten := by
  obtain ⟨id, mapped, id', mapped', needed⟩ := depends
  have listed' : id' ∈ ours q ledger instructions := (mem_tasks id').mpr ⟨earlier, shown.1, mapped'⟩
  have stands : placed q ledger instructions id' = some earlier := by
    have last := shown.2 (by rw [mapped']; simp)
    rwa [mapped', ← placed_eq] at last
  have some : q.instByTask ledger instructions ≠ [] := by
    intro none
    rw [ours, none] at listed'
    exact absurd listed' List.not_mem_nil
  have weaker : KahnLevels.Needs (inner q ledger instructions) ≤
      KahnLevels.Needs (Queue.dependencies ledger) := fun _ _ edge => List.mem_of_mem_filter edge
  have within : KahnLevels.Acyclic (inner q ledger instructions) := fun node cycle =>
    acyclic node (Relation.TransGen.mono weaker node node cycle)
  have needed' : id' ∈ inner q ledger instructions id := List.mem_filter.mpr ⟨needed, by simpa using listed'⟩
  have ordered : ∀ {front back : List (List String)} {level : List String},
      taskLevels q ledger instructions = front ++ level :: back → id ∈ level →
        id' ∈ front.flatten := by
    intro front back level parts inside
    have known : ∀ node ∈ ours q ledger instructions, ∀ edge ∈ inner q ledger instructions node,
        edge ∈ ([] : List String) ∨ edge ∈ ours q ledger instructions := fun node _ edge needed =>
      .inr (by simpa using (List.mem_filter.mp needed).2)
    exact (KahnLevels.levels_ordered _ within _ known parts id inside id' needed').resolve_left
      List.not_mem_nil
  have of_level : ∀ level : List String,
      inst ∈ level.filterMap (placed q ledger instructions) → id ∈ level := by
    intro level found
    obtain ⟨own, inside, same⟩ := List.mem_filterMap.mp found
    have mapped'' := (placed_task same).2
    rwa [Option.some.inj ((Option.mem_def.mp mapped).symm.trans mapped'')]
  obtain ⟨first, rest, levels, waves⟩ := buildWaves_cases some
  rw [waves] at split
  cases before with
  | nil =>
    obtain ⟨same, _⟩ := List.cons.inj split
    rw [← same] at member
    rcases List.mem_append.mp member with free | found
    · have unknown := (shown_of_unmapped.mp free).2
      rw [Option.mem_def.mp mapped] at unknown
      cases unknown
    · have none := @ordered [] rest first levels (of_level first found)
      exact absurd none List.not_mem_nil
  | cons head before =>
    obtain ⟨same, later⟩ := List.cons.inj split
    obtain ⟨front, back, rfl, rfl, tail⟩ := List.map_eq_append_iff.mp later
    obtain ⟨level, back', rfl, rfl, _⟩ := List.map_eq_cons_iff.mp tail
    have inside := @ordered (first :: front) _ level (by rw [levels]; rfl) (of_level level member)
    rw [← same, List.flatten_cons, List.mem_append]
    rw [List.flatten_cons, List.mem_append] at inside
    rcases inside with here | there
    · exact .inl (List.mem_append_right _ (List.mem_filterMap.mpr ⟨id', here, stands⟩))
    · refine .inr ?_
      rw [← List.filterMap_flatten]
      exact List.mem_filterMap.mpr ⟨id', there, stands⟩

end Waves

section Logs
variable {outcome : String → Outcome}

@[simp] theorem dispatched_dispatch (id : String) : (Entry.dispatched id).dispatch = some id := rfl

@[simp] theorem entry_dispatch (id : String) (outcome : Outcome) :
    (outcome.entry id).dispatch = none := by
  cases outcome <;> rfl

variable {wave : List Instruction} {waves : List (List Instruction)} {log : List Entry}
  {id : String}

theorem WaveLog.completed (waveLog : WaveLog outcome wave log) : .completed id ∈ log ↔
      (∃ inst ∈ wave, inst.id = id) ∧ outcome id = .success := by
  have result : .completed id ∈ log ↔ .completed id ∈ log.filter (·.dispatch = none) := by
    simp [List.mem_filter, Entry.dispatch]
  rw [result, waveLog.results.mem_iff, List.mem_map]
  constructor
  · rintro ⟨inst, member, same⟩
    cases ended : outcome inst.id with
    | success =>
      rw [ended] at same
      cases same
      exact ⟨⟨inst, member, rfl⟩, ended⟩
    | failure => rw [ended] at same; cases same
    | deferral => rw [ended] at same; cases same
  · rintro ⟨⟨inst, member, rfl⟩, ended⟩
    exact ⟨inst, member, by rw [ended]; rfl⟩

theorem WaveLog.dispatched (waveLog : WaveLog outcome wave log) :
    .dispatched id ∈ log ↔ ∃ inst ∈ wave, inst.id = id := by
  have dispatch : .dispatched id ∈ log ↔ id ∈ log.filterMap Entry.dispatch := by
    rw [List.mem_filterMap]
    constructor
    · exact fun member => ⟨_, member, rfl⟩
    · rintro ⟨entry, member, same⟩
      cases entry <;> cases same
      exact member
  rw [dispatch, waveLog.dispatches.mem_iff, List.mem_map]

theorem DrainLog.cons (drained : DrainLog outcome (wave :: waves) log) :
    ∃ first rest, WaveLog outcome wave first ∧ DrainLog outcome waves rest ∧ log = first ++ rest := by
  obtain ⟨logs, each, rfl⟩ := drained
  obtain ⟨first, rest, head, tail, rfl⟩ := List.forall₂_cons_left_iff.mp each
  exact ⟨first, rest.flatten, head, ⟨rest, tail, rfl⟩, rfl⟩

theorem drained_nil (drained : DrainLog outcome [] log) : log = [] := by
  obtain ⟨logs, each, rfl⟩ := drained
  rw [List.forall₂_nil_left_iff.mp each]
  rfl

theorem DrainLog.dispatches (drained : DrainLog outcome waves log) :
    (log.filterMap Entry.dispatch).Perm (waves.flatten.map Instruction.id) := by
  induction waves generalizing log with
  | nil => rw [drained_nil drained]; exact List.Perm.nil
  | cons wave waves ih =>
    obtain ⟨first, rest, head, tail, rfl⟩ := drained.cons
    rw [List.filterMap_append, List.flatten_cons, List.map_append]
    exact head.dispatches.append (ih tail)

theorem DrainLog.completed (drained : DrainLog outcome waves log) : .completed id ∈ log ↔
      (∃ inst ∈ waves.flatten, inst.id = id) ∧ outcome id = .success := by
  induction waves generalizing log with
  | nil => simp [drained_nil drained]
  | cons wave waves ih =>
    obtain ⟨first, rest, head, tail, rfl⟩ := drained.cons
    rw [List.mem_append, head.completed, ih tail, List.flatten_cons]
    simp only [List.mem_append, or_and_right, exists_or]

/-- A dispatch lies in the log of one wave, after the logs of the earlier ones. -/
theorem DrainLog.split {log before after : List Entry} {id : String}
    (drained : DrainLog outcome waves log) (at' : log = before ++ .dispatched id :: after) :
    ∃ earlier wave later front rest, waves = earlier ++ wave :: later ∧
      DrainLog outcome earlier front ∧ before = front ++ rest ∧ ∃ inst ∈ wave, inst.id = id := by
  induction waves generalizing log before with
  | nil =>
    rw [drained_nil drained] at at'
    simp at at'
  | cons wave waves ih =>
    obtain ⟨first, rest, head, tail, rfl⟩ := drained.cons
    rcases List.append_eq_append_iff.mp at' with ⟨middle, rfl, same⟩ | ⟨middle, rfl, same⟩
    · obtain ⟨earlier, own, later, front, more, rfl, frontLog, rfl, found⟩ := ih tail same
      refine ⟨wave :: earlier, own, later, first ++ front, more, rfl, ?_, ?_, found⟩
      · obtain ⟨logs, each, rfl⟩ := frontLog
        exact ⟨first :: logs, List.Forall₂.cons head each, rfl⟩
      · rw [List.append_assoc]
    · cases middle with
      | nil =>
        obtain ⟨earlier, own, later, front, more, rfl, frontLog, nothing, found⟩ :=
          @ih rest [] tail (by simpa using same.symm)
        obtain ⟨rfl, rfl⟩ := List.append_eq_nil_iff.mp nothing.symm
        refine ⟨wave :: earlier, own, later, before, [], rfl, ?_, by simp, found⟩
        obtain ⟨logs, each, none⟩ := frontLog
        refine ⟨before :: logs, List.Forall₂.cons (by simpa using head) each, ?_⟩
        rw [List.flatten_cons, ← none, List.append_nil]
      | cons entry middle =>
        obtain ⟨rfl, _⟩ := List.cons.inj same
        refine ⟨[], wave, waves, [], before, rfl, ⟨[], List.Forall₂.nil, rfl⟩, rfl, ?_⟩
        exact head.dispatched.mp (by simp)

end Logs

section Drain
variable {q : Queue} {ledger : Ledger} {locked : Bool} {maxTokens : Int}

theorem drainWaves_eq (got : locked = true) :
    q.drainWaves ledger locked maxTokens =
      if Queue.select q.getPending maxTokens 20 = [] then []
      else q.buildWaves ledger (Queue.select q.getPending maxTokens 20) := by
  rw [Queue.drainWaves, if_pos got, Queue.pullExecutionPlan]
  split_ifs <;> rfl

theorem mem_drainWaves (got : locked = true) {inst : Instruction} :
    inst ∈ (q.drainWaves ledger locked maxTokens).flatten ↔ q.Planned ledger maxTokens inst := by
  rw [drainWaves_eq got]
  split_ifs with none
  · simp [Queue.Planned, none]
  · exact mem_buildWaves

theorem planned_mem {inst : Instruction} (planned : q.Planned ledger maxTokens inst) :
    inst ∈ q.instructions.rows :=
  (mem_getPending.mp (select_subset _ _ _ planned.1)).1

theorem drain_dispatches_once {outcome : String → Outcome} {log : List Entry}
    (drained : DrainLog outcome (q.drainWaves ledger locked maxTokens) log) :
    (log.filterMap Entry.dispatch).Nodup := by
  rw [drained.dispatches.nodup_iff]
  cases locked with
  | false => exact List.nodup_nil
  | true =>
    have ids := pending_unique.sublist
      ((select_sublist q.getPending maxTokens 20).map Instruction.id)
    refine List.Nodup.map_on (fun inst member other member' same => ?_) ?_
    · exact eq_of_id (planned_mem ((mem_drainWaves rfl).mp member'))
        (planned_mem ((mem_drainWaves rfl).mp member)) same
    · rw [drainWaves_eq rfl]
      split_ifs
      · exact List.nodup_nil
      · exact buildWaves_nodup (ids.of_map _)

end Drain

/-- A drain keeps the order of an acyclic graph exactly when every dependency of an instruction
of its plan was done before, or is in the plan as well and succeeds. -/
theorem drain_ordered_iff (q : Queue) (ledger : Ledger) (locked : Bool) (maxTokens : Int)
    (outcome : String → Outcome) (log : List Entry)
    (acyclic : KahnLevels.Acyclic (Queue.dependencies ledger))
    (drained : DrainLog outcome (q.drainWaves ledger locked maxTokens) log) :
    (q.Ordered ledger log ∧ (log.filterMap Entry.dispatch).Nodup) ↔
      (locked = true → ∀ inst, q.Planned ledger maxTokens inst →
        ∀ earlier ∈ q.instructions.rows, q.DependsOn ledger inst earlier →
          earlier.status = .done ∨
            (q.Planned ledger maxTokens earlier ∧ outcome earlier.id = .success)) := by
  rw [and_iff_left (drain_dispatches_once drained)]
  constructor
  · intro ordered got inst planned earlier member depends
    have inWaves := (mem_drainWaves got).mpr planned
    have dispatched : inst.id ∈ log.filterMap Entry.dispatch := by
      rw [drained.dispatches.mem_iff]
      exact List.mem_map_of_mem inWaves
    obtain ⟨entry, inLog, same⟩ := List.mem_filterMap.mp dispatched
    obtain ⟨before, after, parts⟩ := List.append_of_mem inLog
    cases entry with
    | dispatched id =>
      obtain rfl := Option.some.inj same
      refine (ordered before after inst (planned_mem planned) parts earlier member depends).imp_right
        fun completed => ?_
      have inLog' : Entry.completed earlier.id ∈ log := parts ▸ List.mem_append_left _ completed
      obtain ⟨⟨other, inWaves', named⟩, success⟩ := drained.completed.mp inLog'
      have planned' := (mem_drainWaves got).mp inWaves'
      rw [eq_of_id member (planned_mem planned') named] at planned'
      exact ⟨planned', success⟩
    | completed id => cases same
    | failed id transient => cases same
  · intro condition before after inst member parts earlier member' depends
    cases locked with
    | false =>
      rw [drained_nil drained] at parts
      simp at parts
    | true =>
      obtain ⟨front, wave, later, frontLog, rest, waves, frontDrained, rfl, other, inWave, named⟩ :=
        drained.split parts
      have planned : q.Planned ledger maxTokens other := by
        rw [← mem_drainWaves (q := q) rfl, waves]
        simp only [List.flatten_append, List.flatten_cons, List.mem_append]
        exact .inr (.inl inWave)
      obtain rfl := eq_of_id member (planned_mem planned) named
      refine (condition rfl other planned earlier member' depends).imp_right fun ⟨shown, success⟩ => ?_
      refine List.mem_append_left _ (frontDrained.completed.mpr ⟨⟨earlier, ?_, rfl⟩, success⟩)
      rw [drainWaves_eq rfl] at waves
      split_ifs at waves with none
      · simp at waves
      · exact earlier_wave acyclic waves inWave depends shown

section Samples

def pairLedger : Ledger :=
  some fun id =>
    if id = "t1" then some ⟨[], [], none⟩ else if id = "t2" then some ⟨["t1"], [], none⟩ else none

def pairQueue : Queue :=
  (Queue.init.enqueue "a" "call" 1 "t1" 2 none (some "t1")).enqueue "b" "mail" 5 "t2" 2 none
    (some "t2")

theorem pair_acyclic : KahnLevels.Acyclic (Queue.dependencies pairLedger) := by
  refine KahnLevels.acyclic_of_rank _ (fun id => if id = "t2" then 1 else 0) fun id earlier needed => ?_
  simp only [Queue.dependencies, pairLedger, Option.bind_some] at needed
  split_ifs at needed with first second
  · simp at needed
  · obtain rfl : earlier = "t1" := by simpa using needed
    simp [second]
  · simp at needed

theorem waveLog_single (outcome : String → Outcome) (inst : Instruction) :
    WaveLog outcome [inst] [.dispatched inst.id, (outcome inst.id).entry inst.id] where
  dispatches := by simp
  results := by simp
  later before after id parts := by
    have dispatch := entry_dispatch id (outcome id)
    rcases before with _ | ⟨first, _ | ⟨second, before⟩⟩
    · obtain ⟨same, _⟩ := List.cons.inj parts
      rw [← same] at dispatch
      cases dispatch
    · obtain ⟨same, rest⟩ := List.cons.inj parts
      obtain ⟨ends, _⟩ := List.cons.inj rest
      have named : inst.id = id := by
        cases first : outcome inst.id <;> cases second : outcome id <;>
          rw [first, second] at ends <;> cases ends <;> rfl
      rw [← same, named]
      exact List.mem_cons_self
    · have lengths := congrArg List.length parts
      simp at lengths

def pairLog (first : Outcome) : List Entry :=
  [.dispatched "a", first.entry "a", .dispatched "b", .completed "b"]

def pairOutcome (first : Outcome) (id : String) : Outcome := if id = "a" then first else .success

theorem pair_drained (first : Outcome) :
    DrainLog (pairOutcome first) (pairQueue.drainWaves pairLedger true 8000) (pairLog first) := by
  exact ⟨_, List.Forall₂.cons (waveLog_single _ _)
    (List.Forall₂.cons (waveLog_single _ _) List.Forall₂.nil), rfl⟩

theorem pair_ordered : (pairQueue.Ordered pairLedger (pairLog .success) ∧
      ((pairLog .success).filterMap Entry.dispatch).Nodup) ↔
    (true = true → ∀ inst, pairQueue.Planned pairLedger 8000 inst →
      ∀ earlier ∈ pairQueue.instructions.rows, pairQueue.DependsOn pairLedger inst earlier →
        earlier.status = .done ∨
          (pairQueue.Planned pairLedger 8000 earlier ∧
            pairOutcome .success earlier.id = .success)) :=
  drain_ordered_iff pairQueue pairLedger true 8000 (pairOutcome .success) (pairLog .success)
    pair_acyclic (pair_drained .success)

/-- The first fails, and the second is dispatched all the same. -/
theorem dispatched_after_failure : ¬ ∀ (q : Queue) (ledger : Ledger) (locked : Bool)
    (maxTokens : Int) (outcome : String → Outcome) (log : List Entry),
    KahnLevels.Acyclic (Queue.dependencies ledger) →
      DrainLog outcome (q.drainWaves ledger locked maxTokens) log →
        q.Ordered ledger log ∧ (log.filterMap Entry.dispatch).Nodup := by
  intro claimed
  have ordered := (claimed pairQueue pairLedger true 8000 _ _ pair_acyclic
    (pair_drained .failure)).1
  have early := ordered [.dispatched "a", .failed "a" false] [.completed "b"]
    ⟨"b", "mail", .queued, "t2", 5, 2, some "t2", none, 0⟩ (by decide +kernel) rfl
    ⟨"a", "call", .queued, "t1", 1, 2, some "t1", none, 0⟩ (by decide +kernel)
    ⟨"t2", by decide +kernel, "t1", by decide +kernel, by decide +kernel⟩
  rcases early with done | completed
  · cases done
  · exact absurd completed (by decide)

end Samples

end Hartos.InstructionQueue
