import Mathlib.Algebra.Order.Field.Rat
import Mathlib.Tactic.Linarith
import Mathlib.Tactic.NormNum
import Hartos.StepSystem

/-!
The token buckets that limit what a user may do. A check holds the lock; buckets that have not been
used for an hour are dropped now and then, before any check.
-/
namespace Hartos.SocialLimits
open StepSystem

structure Limit where
  maxTokens : ℚ
  refillRate : ℚ
  one : 1 ≤ maxTokens
  hourly : maxTokens ≤ 3600 * refillRate

inductive Action where
  | global
  | auth
  | register
  | post
  | comment
  | vote
  | search
  deriving DecidableEq

def Action.limit : Action → Limit
  | .global => ⟨100, 100 / 60, by norm_num, by norm_num⟩
  | .auth => ⟨5, 5 / 300, by norm_num, by norm_num⟩
  | .register => ⟨3, 3 / 3600, by norm_num, by norm_num⟩
  | .post => ⟨1, 1 / 1800, by norm_num, by norm_num⟩
  | .comment => ⟨50, 50 / 3600, by norm_num, by norm_num⟩
  | .vote => ⟨60, 60 / 60, by norm_num, by norm_num⟩
  | .search => ⟨30, 30 / 60, by norm_num, by norm_num⟩

abbrev Key := String × Action

abbrev Buckets := Key → Option (ℚ × ℚ)

def put (buckets : Buckets) (key : Key) (bucket : ℚ × ℚ) : Buckets :=
  fun other => if other = key then some bucket else buckets other

def check (buckets : Buckets) (key : Key) (now : ℚ) : Bool × Buckets :=
  match buckets key with
  | none => (true, put buckets key (key.2.limit.maxTokens - 1, now))
  | some (tokens, lastRefill) =>
      let elapsed := now - lastRefill
      let tokens := min key.2.limit.maxTokens (tokens + elapsed * key.2.limit.refillRate)
      if tokens ≥ 1 then (true, put buckets key (tokens - 1, now))
      else (false, put buckets key (tokens, now))

def cleanup (buckets : Buckets) (now : ℚ) : Buckets :=
  fun key => (buckets key).filter fun bucket => !decide (now - bucket.2 > 3600)

inductive Event where
  | check (key : Key) (now : ℚ)
  | cleanup (now : ℚ)

def Event.now : Event → ℚ
  | .check _ now | .cleanup now => now

def step (buckets : Buckets) : Event → Buckets
  | .check key now => (check buckets key now).2
  | .cleanup now => cleanup buckets now

def answers : Buckets → List Event → List (Key × ℚ × Bool)
  | _, [] => []
  | buckets, .check key now :: rest =>
      (key, now, (check buckets key now).1) :: answers (check buckets key now).2 rest
  | buckets, .cleanup now :: rest => answers (cleanup buckets now) rest

def Ordered : ℚ → List Event → Prop
  | _, [] => True
  | clock, event :: rest => clock ≤ event.now ∧ Ordered event.now rest

def level (buckets : Buckets) (key : Key) (now : ℚ) : ℚ :=
  match buckets key with
  | none => key.2.limit.maxTokens
  | some (tokens, lastRefill) =>
      min key.2.limit.maxTokens (tokens + (now - lastRefill) * key.2.limit.refillRate)

def Sound (clock : ℚ) (buckets : Buckets) : Prop :=
  ∀ key bucket, buckets key = some bucket → 0 ≤ bucket.1 ∧ bucket.2 ≤ clock

theorem Limit.refillRate_nonneg (limit : Limit) : 0 ≤ limit.refillRate := by
  have one := limit.one
  have hourly := limit.hourly
  linarith

variable (buckets : Buckets) (key : Key)

theorem check_eq (now : ℚ) :
    check buckets key now =
      (decide (1 ≤ level buckets key now),
        put buckets key
          (if 1 ≤ level buckets key now then level buckets key now - 1 else level buckets key now,
            now)) := by
  rw [check, level]
  cases buckets key with
  | none => simp [key.2.limit.one]
  | some bucket =>
    dsimp only
    split
    next enough => simp [enough]
    next few => simp [few]

theorem level_le_max (now : ℚ) : level buckets key now ≤ key.2.limit.maxTokens := by
  rw [level]
  split
  · exact le_refl _
  · exact min_le_left _ _

theorem level_le_later {now later : ℚ} (order : now ≤ later) :
    level buckets key later ≤ level buckets key now + (later - now) * key.2.limit.refillRate := by
  have gained : 0 ≤ (later - now) * key.2.limit.refillRate :=
    mul_nonneg (sub_nonneg.mpr order) key.2.limit.refillRate_nonneg
  rw [level, level]
  cases buckets key with
  | none => exact le_add_of_nonneg_right gained
  | some bucket =>
    dsimp only
    rw [← min_add_add_right]
    apply min_le_min
    · exact le_add_of_nonneg_right gained
    · linarith

theorem level_put (key other : Key) (tokens now later : ℚ) :
    level (put buckets key (tokens, now)) other later =
      if other = key then
        min key.2.limit.maxTokens (tokens + (later - now) * key.2.limit.refillRate)
      else level buckets other later := by
  rw [level, put]
  by_cases own : other = key
  · subst own
    simp
  · simp [own, level]

theorem level_cleanup {buckets : Buckets} {clock now later : ℚ} (sound : Sound clock buckets)
    (order : now ≤ later) (key : Key) :
    level (cleanup buckets now) key later = level buckets key later := by
  rw [level, level, cleanup]
  cases found : buckets key with
  | none => rfl
  | some bucket =>
    rw [Option.filter_some]
    by_cases stale : now - bucket.2 > 3600
    · rw [decide_eq_true stale]
      change key.2.limit.maxTokens = _
      symm
      apply min_eq_left
      have refilled : 3600 * key.2.limit.refillRate ≤
          (later - bucket.2) * key.2.limit.refillRate :=
        mul_le_mul_of_nonneg_right (by linarith) key.2.limit.refillRate_nonneg
      have nonneg := (sound key bucket found).1
      have hourly := key.2.limit.hourly
      linarith
    · rw [decide_eq_false stale]
      rfl

theorem level_nonneg {clock now : ℚ} {buckets : Buckets} (sound : Sound clock buckets)
    (order : clock ≤ now) (key : Key) : 0 ≤ level buckets key now := by
  have most : 0 ≤ key.2.limit.maxTokens := zero_le_one.trans key.2.limit.one
  rw [level]
  cases found : buckets key with
  | none => exact most
  | some bucket =>
    have past := sound key bucket found
    apply le_min most
    exact add_nonneg past.1
      (mul_nonneg (sub_nonneg.mpr (past.2.trans order)) key.2.limit.refillRate_nonneg)

theorem sound_step {clock : ℚ} {buckets : Buckets} (sound : Sound clock buckets) (event : Event)
    (order : clock ≤ event.now) : Sound event.now (step buckets event) := by
  intro key bucket found
  cases event with
  | check other now =>
    rw [step, check_eq] at found
    change (if key = other then some _ else buckets key) = some bucket at found
    split at found
    · cases found
      refine ⟨?_, le_refl _⟩
      dsimp only
      split
      next enough => exact sub_nonneg.mpr enough
      next => exact level_nonneg sound order other
    · exact ⟨(sound key bucket found).1, (sound key bucket found).2.trans order⟩
  | cleanup now =>
    have kept : buckets key = some bucket := (Option.filter_eq_some_iff.mp found).1
    exact ⟨(sound key bucket kept).1, (sound key bucket kept).2.trans order⟩

def admitted (key : Key) (log : List (Key × ℚ × Bool)) : Nat :=
  log.countP fun answer => decide (answer.1 = key) && answer.2.2

theorem admitted_cons (key other : Key) (now : ℚ) (answer : Bool) (log : List (Key × ℚ × Bool)) :
    admitted key ((other, now, answer) :: log) =
      admitted key log + if key = other ∧ answer = true then 1 else 0 := by
  rw [admitted, List.countP_cons]
  by_cases own : key = other
  · simp [own, admitted]
  · simp [own, Ne.symm own, admitted]

-- Requests are paid for with what the bucket holds and with what is refilled.
theorem admitted_le_level (last : ℚ) (run : List Event) (clock : ℚ) (buckets : Buckets)
    (sound : Sound clock buckets) (ordered : Ordered clock run) (before : clock ≤ last)
    (within : ∀ event ∈ run, event.now ≤ last) :
    (admitted key (answers buckets run) : ℚ) ≤
      level buckets key clock + (last - clock) * key.2.limit.refillRate := by
  induction run generalizing clock buckets with
  | nil =>
    have refilled := mul_nonneg (sub_nonneg.mpr before) key.2.limit.refillRate_nonneg
    exact add_nonneg (level_nonneg sound (le_refl _) key) refilled
  | cons event rest ih =>
    have rise := level_le_later buckets key ordered.1
    have rest_le := ih event.now _ (sound_step sound event ordered.1) ordered.2
      (within event List.mem_cons_self) fun later member =>
        within later (List.mem_cons_of_mem event member)
    cases event with
    | check other now =>
      rw [step, check_eq, level_put] at rest_le
      rw [answers, check_eq, admitted_cons]
      dsimp only [Event.now] at rest_le rise
      by_cases own : key = other
      · subst own
        rw [if_pos rfl] at rest_le
        have left := rest_le.trans (add_le_add_left (min_le_right _ _) _)
        by_cases enough : 1 ≤ level buckets key now
        · rw [if_pos enough] at left
          simp only [enough, if_true, decide_true, and_self, Nat.cast_add, Nat.cast_one]
          linarith
        · rw [if_neg enough] at left
          simp only [enough, if_false, decide_false, Bool.false_eq_true, and_false, Nat.add_zero]
          linarith
      · rw [if_neg own] at rest_le
        simp only [own, false_and, if_false, Nat.add_zero]
        linarith
    | cleanup now =>
      have same : level (cleanup buckets now) key now = level buckets key now :=
        level_cleanup sound (le_refl now) key
      rw [step] at rest_le
      dsimp only [Event.now] at rest_le rise
      rw [same] at rest_le
      rw [answers]
      linarith

theorem ordered_append (before stretch : List Event) (start : ℚ) (buckets : Buckets)
    (sound : Sound start buckets) (ordered : Ordered start (before ++ stretch)) :
    ∃ clock, Sound clock (final step buckets before) ∧ Ordered clock stretch := by
  induction before generalizing start buckets with
  | nil => exact ⟨start, sound, ordered⟩
  | cons event rest ih => exact ih event.now _ (sound_step sound event ordered.1) ordered.2

/-- In any stretch of a run a user is let through to an action at most as often as the bucket is
large, and once for each token that is refilled in that time. -/
theorem admitted_le (key : Key) (before stretch : List Event) (start first last : ℚ)
    (ordered : Ordered start (before ++ stretch)) (order : first ≤ last)
    (within : ∀ event ∈ stretch, first ≤ event.now ∧ event.now ≤ last) :
    (admitted key (answers (final step (fun _ => none) before) stretch) : ℚ) ≤
      key.2.limit.maxTokens + (last - first) * key.2.limit.refillRate := by
  have rate := key.2.limit.refillRate_nonneg
  obtain ⟨clock, sound, later⟩ := ordered_append before stretch start (fun _ => none)
    (fun _ _ found => (nomatch found)) ordered
  cases stretch with
  | nil =>
    have refilled := mul_nonneg (sub_nonneg.mpr order) rate
    exact add_nonneg (zero_le_one.trans key.2.limit.one) refilled
  | cons event rest =>
    have bounds := within event List.mem_cons_self
    have fresh : Sound event.now (final step (fun _ => none) before) := fun other bucket found =>
      ⟨(sound other bucket found).1, (sound other bucket found).2.trans later.1⟩
    have paid := admitted_le_level key last (event :: rest) event.now _ fresh
      ⟨le_refl _, later.2⟩ bounds.2 fun other member => (within other member).2
    have shorter := mul_le_mul_of_nonneg_right (sub_le_sub_left bounds.1 last) rate
    exact paid.trans (add_le_add (level_le_max _ key _) shorter)

theorem admitted_half_hour :
    (admitted ("u", .post) (answers (final step (fun _ => none) [.check ("v", .vote) 0])
        [.check ("u", .post) 0, .check ("u", .post) 900, .check ("u", .post) 1800]) : ℚ) ≤
      1 + (1800 - 0) * (1 / 1800) :=
  admitted_le ("u", .post) [.check ("v", .vote) 0]
    [.check ("u", .post) 0, .check ("u", .post) 900, .check ("u", .post) 1800] 0 0 1800
    (by simp [Ordered, Event.now]; norm_num) (by norm_num) (by simp [Event.now]; norm_num)

def Event.isCheck : Event → Bool
  | .check _ _ => true
  | .cleanup _ => false

/-- Buckets of the same levels answer alike, whatever is dropped of one of them. -/
theorem answers_alike (run : List Event) (clock : ℚ) (buckets others : Buckets)
    (sound : Sound clock buckets) (ordered : Ordered clock run)
    (alike : ∀ key now, clock ≤ now → level buckets key now = level others key now) :
    answers buckets run = answers others (run.filter Event.isCheck) := by
  induction run generalizing clock buckets others with
  | nil => rfl
  | cons event rest ih =>
    have kept := sound_step sound event ordered.1
    cases event with
    | check key now =>
      rw [step, check_eq] at kept
      rw [List.filter_cons_of_pos rfl, answers, answers, check_eq, check_eq others,
        ← alike key now ordered.1]
      apply congrArg
      apply ih now _ _ kept ordered.2
      intro other later order
      rw [level_put, level_put, alike other later (ordered.1.trans order)]
    | cleanup now =>
      rw [List.filter_cons_of_neg Bool.false_ne_true, answers]
      apply ih now _ _ kept ordered.2
      intro key later order
      rw [step, level_cleanup sound order]
      exact alike key later (ordered.1.trans order)

/-- Dropping buckets is never noticed: the answers are those of a run without it. -/
theorem cleanup_unseen (run : List Event) (start : ℚ) (ordered : Ordered start run) :
    answers (fun _ => none) run = answers (fun _ => none) (run.filter Event.isCheck) :=
  answers_alike run start _ _ (fun _ _ found => (nomatch found)) ordered fun _ _ _ => rfl

theorem cleanup_unseen_twice :
    answers (fun _ => none)
        [.check ("u", .post) 0, .cleanup 4000, .check ("u", .post) 4000, .check ("u", .post) 4001] =
      answers (fun _ => none)
        [.check ("u", .post) 0, .check ("u", .post) 4000, .check ("u", .post) 4001] :=
  cleanup_unseen _ 0 (by simp [Ordered, Event.now]; norm_num)

end Hartos.SocialLimits
