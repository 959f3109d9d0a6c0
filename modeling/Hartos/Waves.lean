import Mathlib.Data.List.Perm.Subperm
import Mathlib.Logic.Relation

/-!
Working a finite list of jobs off in waves. A rule names, from what is finished,
the next wave; nothing else is known of it. How far the waves get is a question
of how wide they are, and of whether the rule always has a job to name.
-/
namespace Waves

universe u
variable {Job : Type u}

def after (pick : List Job → List Job) : Nat → List Job
  | 0 => []
  | waves + 1 => after pick waves ++ pick (after pick waves)

structure Proper (jobs : List Job) (pick : List Job → List Job) : Prop where
  unique : ∀ finished, (pick finished).Nodup
  fresh : ∀ finished, ∀ job ∈ pick finished, job ∈ jobs ∧ job ∉ finished

section Counting
variable {jobs : List Job} {pick : List Job → List Job}

theorem after_nodup (proper : Proper jobs pick) (waves : Nat) : (after pick waves).Nodup := by
  induction waves with
  | zero => exact List.nodup_nil
  | succ waves ih =>
    rw [after, List.nodup_append]
    refine ⟨ih, proper.unique _, ?_⟩
    rintro job finished _ picked rfl
    exact (proper.fresh _ job picked).2 finished

theorem after_subset (proper : Proper jobs pick) (waves : Nat) : after pick waves ⊆ jobs := by
  induction waves with
  | zero => exact List.nil_subset jobs
  | succ waves ih =>
    intro job member
    rcases List.mem_append.mp member with before | picked
    · exact ih before
    · exact (proper.fresh _ job picked).1

theorem after_stuck (stuck : pick [] = []) (waves : Nat) : after pick waves = [] := by
  induction waves with
  | zero => rfl
  | succ waves ih => rw [after, ih, stuck, List.append_nil]

theorem length_after_le (width : Nat) (narrow : ∀ finished, (pick finished).length ≤ width)
    (waves : Nat) : (after pick waves).length ≤ waves * width := by
  induction waves with
  | zero => exact Nat.zero_le _
  | succ waves ih =>
    have wave := narrow (after pick waves)
    rw [after, List.length_append, Nat.succ_mul]
    omega

theorem not_covered (unique : jobs.Nodup) (width : Nat)
    (narrow : ∀ finished, (pick finished).length ≤ width) (waves : Nat)
    (many : waves * width < jobs.length) : ¬ ∀ job ∈ jobs, job ∈ after pick waves := by
  intro covered
  have fits : jobs.length ≤ (after pick waves).length := (List.subperm_of_subset unique covered).length_le
  have bound := length_after_le width narrow waves
  omega

-- A rule that names a job as long as one is left finishes one a wave at least.
theorem covered_or_long
    (progress : ∀ finished, (∃ job ∈ jobs, job ∉ finished) → pick finished ≠ []) (waves : Nat) :
    (∀ job ∈ jobs, job ∈ after pick waves) ∨ waves ≤ (after pick waves).length := by
  induction waves with
  | zero => exact Or.inr (Nat.zero_le _)
  | succ waves ih =>
    rw [after]
    by_cases covered : ∀ job ∈ jobs, job ∈ after pick waves
    · left
      intro job member
      exact List.mem_append_left _ (covered job member)
    · have long := ih.resolve_left covered
      have left : ∃ job ∈ jobs, job ∉ after pick waves := by
        simpa only [not_forall, exists_prop] using covered
      have some := List.length_pos_iff.mpr (progress _ left)
      rw [List.length_append]
      omega

theorem covered_of_progress (proper : Proper jobs pick)
    (progress : ∀ finished, (∃ job ∈ jobs, job ∉ finished) → pick finished ≠ []) (waves : Nat)
    (enough : jobs.length ≤ waves) : ∀ job ∈ jobs, job ∈ after pick waves := by
  rcases covered_or_long progress waves with covered | long
  · exact covered
  · have inside := List.subperm_of_subset (after_nodup proper waves) (after_subset proper waves)
    have whole := inside.perm_of_length_le (Nat.le_trans enough long)
    intro job member
    exact whole.mem_iff.mpr member

end Counting

variable (waits : Job → Job → Prop)

theorem acyclic_of_rank (rank : Job → Nat)
    (falls : ∀ job other, waits job other → rank other < rank job) (job : Job) :
    ¬ Relation.TransGen waits job job := by
  have below (other : Job) (path : Relation.TransGen waits job other) : rank other < rank job := by
    induction path with
    | single step => exact falls _ _ step
    | tail _ step ih => exact Nat.lt_trans (falls _ _ step) ih
  intro circle
  exact Nat.lt_irrefl _ (below job circle)

/-- Of finitely many jobs one waits for none of them, unless they wait in a circle. -/
theorem exists_unwaiting (acyclic : ∀ job, ¬ Relation.TransGen waits job job) (jobs : List Job)
    (some : jobs ≠ []) : ∃ job ∈ jobs, ∀ other ∈ jobs, ¬ Relation.TransGen waits job other := by
  induction jobs with
  | nil => exact absurd rfl some
  | cons first rest ih =>
    by_cases alone : rest = []
    · subst alone
      refine ⟨first, List.mem_cons_self, ?_⟩
      intro other member
      rw [List.mem_singleton.mp member]
      exact acyclic first
    · obtain ⟨least, member, none⟩ := ih alone
      by_cases behind : Relation.TransGen waits least first
      -- The least of the rest waits for the first, which then waits for nobody.
      · refine ⟨first, List.mem_cons_self, ?_⟩
        intro other inside waiting
        rcases List.mem_cons.mp inside with same | later
        · exact acyclic first (same ▸ waiting)
        · exact none other later (behind.trans waiting)
      · refine ⟨least, List.mem_cons_of_mem first member, ?_⟩
        intro other inside
        rcases List.mem_cons.mp inside with same | later
        · exact same ▸ behind
        · exact none other later

/-- Where nothing waits in a circle, a rule that names a job whenever some job has
all it waits for is never at a loss. -/
theorem progress_of_acyclic {jobs : List Job} {pick : List Job → List Job}
    (waits : Job → Job → Prop) (acyclic : ∀ job, ¬ Relation.TransGen waits job job)
    (offers : ∀ finished, ∀ job ∈ jobs, job ∉ finished →
      (∀ other ∈ jobs, waits job other → other ∈ finished) → pick finished ≠ [])
    (finished : List Job) (left : ∃ job ∈ jobs, job ∉ finished) : pick finished ≠ [] := by
  classical
  have remains : jobs.filter (· ∉ finished) ≠ [] := by
    obtain ⟨job, member, open'⟩ := left
    apply List.ne_nil_of_mem
    exact List.mem_filter.mpr ⟨member, decide_eq_true open'⟩
  obtain ⟨job, member, none⟩ := exists_unwaiting waits acyclic _ remains
  have here := List.mem_filter.mp member
  apply offers finished job here.1 (of_decide_eq_true here.2)
  intro other inside waiting
  by_contra unfinished
  apply none other (List.mem_filter.mpr ⟨inside, decide_eq_true unfinished⟩)
  exact Relation.TransGen.single waiting

end Waves
