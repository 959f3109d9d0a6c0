import Mathlib.Algebra.Ring.Int.Defs
import Mathlib.Logic.Function.Basic

/-!
One row of a database and the sessions that write it. A session sees its own write or
what was last committed; a write keeps the row to its session until that session commits
or rolls back. A value read before another session's commit may still be written after it.
-/
namespace SharedRow

universe u v
variable {Session : Type u} {Value : Type v} [DecidableEq Session]

structure Row (Session : Type u) (Value : Type v) where
  committed : Value
  writing : Option (Session × Value)
  deriving DecidableEq

namespace Row
variable (row : Row Session Value) (session : Session)

def seen : Value :=
  match row.writing with
  | none => row.committed
  | some (writer, value) => if writer = session then value else row.committed

def free : Bool :=
  match row.writing with
  | none => true
  | some (writer, _) => decide (writer = session)

def write (value : Value) : Row Session Value :=
  { row with writing := some (session, value) }

def commit : Row Session Value :=
  ⟨row.seen session, if row.free session then none else row.writing⟩

def rollback : Row Session Value :=
  if row.free session then { row with writing := none } else row

def latest : Value :=
  match row.writing with
  | none => row.committed
  | some (_, value) => value

variable (row : Row Session Value)

@[simp] theorem seen_write (session other : Session) (value : Value) :
    (row.write session value).seen other = if session = other then value else row.committed := rfl

variable (session : Session) (value : Value)

omit [DecidableEq Session] in
@[simp] theorem latest_write : (row.write session value).latest = value := rfl

omit [DecidableEq Session] in
@[simp] theorem committed_write : (row.write session value).committed = row.committed := rfl

theorem seen_free (free : row.free session = true) : row.seen session = row.latest := by
  unfold seen latest
  unfold Row.free at free
  split
  · rfl
  next writer value writing =>
    rw [writing] at free
    rw [if_pos (of_decide_eq_true free)]

theorem seen_other (session other : Session) (free : row.free session = true)
    (different : other ≠ session) : row.seen other = row.committed := by
  unfold seen
  unfold Row.free at free
  split
  · rfl
  next writer value writing =>
    rw [writing] at free
    have held : writer = session := of_decide_eq_true free
    rw [if_neg fun same => different (same.symm.trans held)]

theorem seen_taken (taken : row.free session = false) : row.seen session = row.committed := by
  unfold seen
  unfold Row.free at taken
  split
  · rfl
  next writer value writing =>
    rw [writing] at taken
    rw [if_neg (of_decide_eq_false taken)]

theorem commit_free (free : row.free session = true) : row.commit session = ⟨row.latest, none⟩ := by
  simp [commit, free, row.seen_free session free]

theorem commit_taken (taken : row.free session = false) : row.commit session = row := by
  simp [commit, taken, row.seen_taken session taken]

@[simp] theorem committed_commit : (row.commit session).committed = row.seen session := rfl

/-- A read after a commit returns what some read returned before it. -/
theorem seen_commit (session other : Session) :
    ∃ reader, (row.commit session).seen other = row.seen reader := by
  cases free : row.free session with
  | true => exact ⟨session, by rw [row.commit_free session free, row.seen_free session free]; rfl⟩
  | false => exact ⟨other, by rw [row.commit_taken session free]⟩

@[simp] theorem committed_rollback : (row.rollback session).committed = row.committed := by
  unfold rollback
  split <;> rfl

theorem writing_commit (session writer : Session) (value : Value) :
    (row.commit session).writing = some (writer, value) ↔
      row.writing = some (writer, value) ∧ writer ≠ session := by
  rw [commit, free]
  cases row.writing with
  | none => simp
  | some written =>
    by_cases own : written.1 = session
    · simp only [own, decide_true, if_true]
      constructor
      · exact nofun
      · rintro ⟨⟨rfl⟩, another⟩
        exact absurd own another
    · simp only [own, decide_false, Bool.false_eq_true, if_false]
      refine (and_iff_left_of_imp ?_).symm
      rintro ⟨rfl⟩
      exact own

theorem writing_rollback (session writer : Session) (value : Value) :
    (row.rollback session).writing = some (writer, value) ↔
      row.writing = some (writer, value) ∧ writer ≠ session := by
  rw [← writing_commit, rollback, commit]
  split <;> rfl

theorem seen_rollback (session other : Session) :
    (row.rollback session).seen other = row.committed ∨
      (row.rollback session).seen other = row.seen other := by
  unfold rollback
  split
  · exact .inl rfl
  · exact .inr rfl

end Row

section Moves
variable (measure : Value → Int)

structure Follows (row : Row Session Value) (settled : Int) (moved : Session → Int) : Prop where
  committed : measure row.committed = settled
  seen : ∀ session, measure (row.seen session) = settled + moved session

variable {measure} {row : Row Session Value} {settled : Int} {moved : Session → Int}

section

variable (follows : Follows measure row settled moved)
include follows

theorem Follows.taken (session : Session) (taken : row.free session = false) :
    moved session = 0 := by
  have seen := follows.seen session
  rw [row.seen_taken session taken, follows.committed] at seen
  omega

theorem Follows.other (session other : Session) (free : row.free session = true)
    (different : other ≠ session) : moved other = 0 := by
  have seen := follows.seen other
  rw [row.seen_other session other free different, follows.committed] at seen
  omega

/-- The write a session may make: the column as it stands, moved. -/
theorem Follows.write (session : Session) (free : row.free session = true) (value : Value)
    (delta : Int) (moves : measure value = measure (row.seen session) + delta) :
    Follows measure (row.write session value) settled
      (Function.update moved session (moved session + delta)) where
  committed := follows.committed
  seen := by
    intro other
    by_cases same : session = other
    · subst same
      have before := follows.seen session
      simp only [Row.seen_write, ↓reduceIte, Function.update_self]
      omega
    · have none := follows.other session other free (Ne.symm same)
      simp only [Row.seen_write, if_neg same, Function.update_of_ne (Ne.symm same), none,
        follows.committed]
      omega

end

theorem unmoved (moved : Session → Int) (session : Session) (nothing : moved session = 0) :
    Function.update moved session 0 = moved := by
  rw [Function.update_eq_iff]
  exact ⟨nothing.symm, fun _ _ => rfl⟩

theorem Follows.commit (follows : Follows measure row settled moved) (session : Session) :
    Follows measure (row.commit session) (settled + moved session)
      (Function.update moved session 0) := by
  cases free : row.free session with
  | true =>
    have own := follows.seen session
    rw [row.seen_free session free] at own
    rw [row.commit_free session free]
    refine ⟨own, fun other => ?_⟩
    by_cases same : other = session
    · subst same
      simpa [Row.seen] using own
    · have none := follows.other session other free same
      simpa [Row.seen, Function.update_of_ne same, none] using own
  | false =>
    have nothing := follows.taken session free
    rw [row.commit_taken session free, nothing, add_zero]
    rw [unmoved moved session nothing]
    exact follows

theorem Follows.rollback (follows : Follows measure row settled moved) (session : Session) :
    Follows measure (row.rollback session) settled (Function.update moved session 0) := by
  unfold Row.rollback
  split
  next free =>
    refine ⟨follows.committed, fun other => ?_⟩
    by_cases same : other = session
    · subst same
      simpa [Row.seen] using follows.committed
    · have none := follows.other session other free same
      simpa [Row.seen, Function.update_of_ne same, none] using follows.committed
  next taken =>
    have nothing := follows.taken session (by simpa using taken)
    rw [unmoved moved session nothing]
    exact follows

end Moves

end SharedRow
