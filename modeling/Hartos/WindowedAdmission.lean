import Mathlib.Data.List.Basic
import Mathlib.Order.Lattice

/-!
Admissions bounded in every window of time. An admission is charged later, by a
stamp that is not older than it; stamps that are older than the window that ends
now are forgotten. As long as every admission is either still to be charged or
has left its stamp, room among the stamps and the charges to come is room in
every window.
-/
namespace WindowedAdmission
variable {Instant : Type*} [LinearOrder Instant]

def since (start : Instant) (times : List Instant) : Nat :=
  times.countP fun time => decide (start ≤ time)

def inWindow (opens : Instant → Instant) (finish : Instant) (times : List Instant) : Nat :=
  times.countP fun time => decide (opens finish ≤ time) && decide (time ≤ finish)

/-- No window holds more than `limit` of the times. -/
def Windowed (opens : Instant → Instant) (limit : Nat) (times : List Instant) : Prop :=
  ∀ finish, inWindow opens finish times ≤ limit

def Covered (opens : Instant → Instant) (clock : Instant)
    (admitted pending stamps : List Instant) : Prop :=
  ∀ start, opens clock ≤ start →
    since start admitted ≤ since start pending + since start stamps

variable (opens : Instant → Instant) (finish : Instant) (start : Instant) (times : List Instant)
  {first second : List Instant}

@[simp] theorem since_nil : since start [] = 0 := rfl

@[simp] theorem since_cons (start time : Instant) (times : List Instant) :
    since start (time :: times) = since start times + if start ≤ time then 1 else 0 := by
  simp [since, List.countP_cons]

@[simp] theorem since_append (first second : List Instant) :
    since start (first ++ second) = since start first + since start second :=
  List.countP_append

theorem since_le_length : since start times ≤ times.length :=
  List.countP_le_length

theorem since_perm (same : first.Perm second) : since start first = since start second :=
  same.countP_eq _

theorem inWindow_perm (same : first.Perm second) :
    inWindow opens finish first = inWindow opens finish second :=
  same.countP_eq _

theorem inWindow_le_since : inWindow opens finish times ≤ since (opens finish) times := by
  apply List.countP_mono_left
  intro time _ inside
  exact (Bool.and_eq_true_iff.mp inside).1

variable {opens : Instant → Instant} {clock : Instant} {admitted pending stamps : List Instant}

/-- Forgetting stamps older than a window that has opened. -/
theorem since_dropWhile (cutoff start : Instant) (late : cutoff ≤ start) (times : List Instant) :
    since start (times.dropWhile fun time => decide (time < cutoff)) = since start times := by
  induction times with
  | nil => rfl
  | cons time rest ih =>
    by_cases old : time < cutoff
    · have before : ¬ start ≤ time := not_le.mpr (lt_of_lt_of_le old late)
      rw [List.dropWhile_cons_of_pos (by simpa using old), ih, since_cons, if_neg before]
      rfl
    · rw [List.dropWhile_cons_of_neg (by simpa using old)]

theorem Covered.perm {admitted' pending' : List Instant}
    (covered : Covered opens clock admitted pending stamps) (sameAdmitted : admitted'.Perm admitted)
    (samePending : pending'.Perm pending) : Covered opens clock admitted' pending' stamps := by
  intro start late
  rw [since_perm start sameAdmitted, since_perm start samePending]
  exact covered start late

theorem Covered.later (grows : Monotone opens) {clock' : Instant} (after : clock ≤ clock')
    (covered : Covered opens clock admitted pending stamps) :
    Covered opens clock' admitted pending stamps := by
  intro start late
  exact covered start (le_trans (grows after) late)

theorem Covered.letIn (covered : Covered opens clock admitted pending stamps) (time : Instant) :
    Covered opens clock (time :: admitted) (time :: pending) stamps := by
  intro start late
  have before := covered start late
  rw [since_cons, since_cons]
  omega

theorem Covered.charge {time stamp : Instant}
    (covered : Covered opens clock admitted (time :: pending) stamps) (after : time ≤ stamp) :
    Covered opens clock admitted pending (stamps ++ [stamp]) := by
  intro start late
  have before := covered start late
  rw [since_append, since_cons, since_nil]
  rw [since_cons] at before
  by_cases counted : start ≤ time
  · rw [if_pos counted] at before
    rw [if_pos (le_trans counted after)]
    omega
  · rw [if_neg counted] at before
    omega

theorem Covered.forget (grows : Monotone opens) {reading : Instant} (past : reading ≤ clock)
    (covered : Covered opens clock admitted pending stamps) :
    Covered opens clock admitted pending
      (stamps.dropWhile fun time => decide (time < opens reading)) := by
  intro start late
  rw [since_dropWhile _ _ (le_trans (grows past) late)]
  exact covered start late

/-- One more admission keeps every window within the limit if the charges to come
and the stamps leave room for it. -/
theorem Windowed.letIn {limit : Nat} (grows : Monotone opens)
    (windowed : Windowed opens limit admitted)
    (covered : Covered opens clock admitted pending stamps)
    (room : pending.length + stamps.length < limit) :
    Windowed opens limit (clock :: admitted) := by
  intro finish
  rw [inWindow, List.countP_cons]
  split
  next inside =>
    simp only [Bool.and_eq_true, decide_eq_true_eq] at inside
    -- The window is still open, so all it holds is among the charges and the stamps.
    have opened : opens clock ≤ opens finish := grows inside.2
    calc inWindow opens finish admitted + 1
        ≤ since (opens finish) admitted + 1 :=
          Nat.add_le_add_right (inWindow_le_since opens finish admitted) 1
      _ ≤ since (opens finish) pending + since (opens finish) stamps + 1 :=
          Nat.add_le_add_right (covered (opens finish) opened) 1
      _ ≤ pending.length + stamps.length + 1 :=
          Nat.add_le_add_right
            (Nat.add_le_add (since_le_length _ pending) (since_le_length _ stamps)) 1
      _ ≤ limit := room
  next => exact windowed finish

end WindowedAdmission
