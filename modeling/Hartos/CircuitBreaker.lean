import Hartos.StepSystem
import Hartos.Task

/-!
Calls to something outside that may fail: the circuit breaker that holds them back for a while, and
one for each key. Every method holds its lock from the first line to the last, so it is one step,
with the reading of the clock it makes.
-/
namespace Hartos
open StepSystem

inductive CircuitState where
  | closed
  | opened
  | halfOpen
  deriving DecidableEq

structure CircuitBreaker where
  threshold : Int
  cooldown : Time
  failures : Nat
  openedAt : Time
  halfOpenInFlight : Bool
  deriving DecidableEq

namespace CircuitBreaker
variable (breaker : CircuitBreaker) (threshold : Int) (cooldown : Time)

def new : CircuitBreaker := ⟨threshold, cooldown, 0, 0, false⟩

def getState (now : Time) : CircuitState :=
  if breaker.failures < breaker.threshold then .closed
  else if now - breaker.openedAt > breaker.cooldown then .halfOpen
  else .opened

def isOpen (now : Time) : Bool × CircuitBreaker :=
  match breaker.getState now with
  | .closed => (false, breaker)
  | .halfOpen =>
      if breaker.halfOpenInFlight then (true, breaker)
      else (false, { breaker with halfOpenInFlight := true })
  | .opened => (true, breaker)

def recordSuccess : CircuitBreaker :=
  { breaker with failures := 0, halfOpenInFlight := false }

def recordFailure (now : Time) : CircuitBreaker :=
  { breaker with
    failures := breaker.failures + 1
    halfOpenInFlight := false
    openedAt := if breaker.failures + 1 ≥ breaker.threshold then now else breaker.openedAt }

def reset : CircuitBreaker :=
  { breaker with failures := 0, openedAt := 0, halfOpenInFlight := false }

inductive Event where
  | isOpen (now : Time)
  | state (now : Time)
  | recordSuccess
  | recordFailure (now : Time)
  | reset

def step : Event → CircuitBreaker
  | .isOpen now => (breaker.isOpen now).2
  | .state _ => breaker
  | .recordSuccess => breaker.recordSuccess
  | .recordFailure now => breaker.recordFailure now
  | .reset => breaker.reset

/-! ### What the past says

The past of a breaker is the list of its events, the latest first. -/

def streak : List Event → Nat
  | .isOpen _ :: past | .state _ :: past => streak past
  | .recordFailure _ :: past => streak past + 1
  | _ => 0

def sinceFailure : List Event → Option (List Time × Time)
  | .isOpen now :: past => (sinceFailure past).map fun since => (now :: since.1, since.2)
  | .state _ :: past => sinceFailure past
  | .recordFailure failed :: _ => some ([], failed)
  | _ => none

def Probes (past : List Event) (now : Time) : Prop :=
  ∃ asked failed, sinceFailure past = some (asked, failed) ∧ failed + cooldown < now ∧
    ∀ earlier ∈ asked, earlier ≤ failed + cooldown

structure Keeps (past : List Event) (breaker : CircuitBreaker) : Prop where
  failures : breaker.failures = streak past
  opened : breaker.threshold ≤ streak past →
    ∃ asked, sinceFailure past = some (asked, breaker.openedAt) ∧
      (breaker.halfOpenInFlight = true ↔
        ∃ earlier ∈ asked, breaker.openedAt + breaker.cooldown < earlier)

theorem isOpen_eq (now : Time) : breaker.isOpen now =
      if breaker.failures < breaker.threshold then (false, breaker)
      else if breaker.openedAt + breaker.cooldown < now then
        (breaker.halfOpenInFlight, { breaker with halfOpenInFlight := true })
      else (true, breaker) := by
  rw [isOpen, getState]
  by_cases closed : breaker.failures < breaker.threshold
  · rw [if_pos closed, if_pos closed]
  · rw [if_neg closed, if_neg closed]
    have passed : now - breaker.openedAt > breaker.cooldown ↔
        breaker.openedAt + breaker.cooldown < now :=
      ⟨Int.add_lt_of_lt_sub_left, Int.lt_sub_left_of_add_lt⟩
    by_cases cooled : breaker.openedAt + breaker.cooldown < now
    · rw [if_pos cooled, if_pos (passed.mpr cooled)]
      cases flight : breaker.halfOpenInFlight with
      | false => rfl
      | true => simp [← flight]
    · rw [if_neg cooled, if_neg (mt passed.mp cooled)]

theorem step_settings (event : Event) : (step breaker event).threshold = breaker.threshold ∧
      (step breaker event).cooldown = breaker.cooldown := by
  cases event with
  | isOpen now =>
    rw [step, isOpen_eq]
    split
    · exact ⟨rfl, rfl⟩
    · split <;> exact ⟨rfl, rfl⟩
  | state now => exact ⟨rfl, rfl⟩
  | recordSuccess => exact ⟨rfl, rfl⟩
  | recordFailure now => exact ⟨rfl, rfl⟩
  | reset => exact ⟨rfl, rfl⟩

theorem Keeps.step {past : List Event} {breaker : CircuitBreaker} (kept : Keeps past breaker)
    (positive : 0 < breaker.threshold) (event : Event) :
    Keeps (event :: past) (breaker.step event) := by
  cases event with
  | isOpen now =>
    rw [CircuitBreaker.step, isOpen_eq]
    by_cases closed : breaker.failures < breaker.threshold
    · rw [if_pos closed]
      refine ⟨kept.failures, ?_⟩
      intro reached
      rw [kept.failures] at closed
      exact absurd reached (by simpa [streak] using closed)
    · rw [if_neg closed]
      rw [kept.failures, Int.not_lt] at closed
      obtain ⟨asked, since, flight⟩ := kept.opened closed
      have later : sinceFailure (.isOpen now :: past) = some (now :: asked, breaker.openedAt) := by
        rw [sinceFailure, since]
        rfl
      split
      next cooled =>
        refine ⟨kept.failures, fun _ => ⟨now :: asked, later, ?_⟩⟩
        exact iff_of_true rfl ⟨now, List.mem_cons_self, cooled⟩
      next early =>
        refine ⟨kept.failures, fun _ => ⟨now :: asked, later, ?_⟩⟩
        rw [List.exists_mem_cons_iff, or_iff_right early]
        exact flight
  | state now => exact ⟨kept.failures, kept.opened⟩
  | recordSuccess => exact ⟨rfl, fun reached => absurd positive (Int.not_lt.mpr reached)⟩
  | recordFailure now =>
    refine ⟨congrArg (· + 1) kept.failures, ?_⟩
    intro reached
    refine ⟨[], ?_, by simp [CircuitBreaker.step, recordFailure]⟩
    change some ([], now) = some ([], if _ then now else breaker.openedAt)
    rw [if_pos]
    change breaker.threshold ≤ ((streak past + 1 : Nat) : Int) at reached
    rw [kept.failures]
    exact_mod_cast reached
  | reset => exact ⟨rfl, fun reached => absurd positive (Int.not_lt.mpr reached)⟩

theorem run_keeps {threshold : Int} (positive : 0 < threshold) (cooldown : Time)
    (past : List Event) :
    let breaker := final step (new threshold cooldown) past.reverse
    (breaker.threshold = threshold ∧ breaker.cooldown = cooldown) ∧ Keeps past breaker := by
  induction past with
  | nil =>
    refine ⟨⟨rfl, rfl⟩, rfl, ?_⟩
    intro reached
    exact absurd positive (Int.not_lt.mpr reached)
  | cons event past ih =>
    obtain ⟨⟨same, alike⟩, kept⟩ := ih
    rw [List.reverse_cons, final_append]
    have settings := step_settings (final step (new threshold cooldown) past.reverse) event
    refine ⟨⟨settings.1.trans same, settings.2.trans alike⟩, ?_⟩
    exact kept.step (by rw [same]; exact positive) event

/-- A request is let through exactly while there are fewer failures than the threshold, and as the
first one after the last failure has cooled down. -/
theorem let_through_iff (positive : 0 < threshold) (cooldown : Time) (past : List Event)
    (now : Time) :
    ((final step (new threshold cooldown) past.reverse).isOpen now).1 = false ↔
      streak past < threshold ∨ Probes cooldown past now := by
  obtain ⟨⟨same, alike⟩, kept⟩ := run_keeps positive cooldown past
  rw [isOpen_eq, kept.failures, same, alike]
  by_cases closed : (streak past : Int) < threshold
  · rw [if_pos closed]
    exact iff_of_true rfl (Or.inl closed)
  · obtain ⟨asked, since, flight⟩ := kept.opened (by rw [same]; exact Int.not_lt.mp closed)
    rw [if_neg closed, or_iff_right closed, Probes, since]
    split
    next cooled =>
      rw [alike] at flight
      rw [← Bool.not_eq_true, flight]
      constructor
      · intro none
        refine ⟨asked, _, rfl, cooled, ?_⟩
        intro earlier member
        exact Int.not_lt.mp fun late => none ⟨earlier, member, late⟩
      · rintro ⟨_, _, ⟨⟩, -, early⟩ ⟨earlier, member, late⟩
        exact absurd late (Int.not_lt.mpr (early earlier member))
    next early =>
      apply iff_of_false Bool.noConfusion
      rintro ⟨_, _, ⟨⟩, cooled, -⟩
      exact early cooled

structure Guarded where
  breaker : CircuitBreaker
  running : List Nat

/-- What a thread does in a function that `with_circuit_breaker` wraps. A call is interrupted when
it ends by an exception that is no `Exception`. -/
inductive Turn where
  | calls (thread : Nat) (now : Time)
  | returns (thread : Nat)
  | raises (thread : Nat) (now : Time)
  | interrupted (thread : Nat)

def withCircuitBreaker (guarded : Guarded) : Turn → Guarded
  | .calls thread now =>
      let (blocked, breaker) := guarded.breaker.isOpen now
      if thread ∈ guarded.running then guarded
      else if blocked then { guarded with breaker }
      else ⟨breaker, thread :: guarded.running⟩
  | .returns thread =>
      if thread ∈ guarded.running then
        ⟨guarded.breaker.recordSuccess, guarded.running.erase thread⟩
      else guarded
  | .raises thread now =>
      if thread ∈ guarded.running then
        ⟨guarded.breaker.recordFailure now, guarded.running.erase thread⟩
      else guarded
  -- `except Exception` does not see a KeyboardInterrupt or a SystemExit: nothing is recorded.
  | .interrupted thread => { guarded with running := guarded.running.erase thread }

/-- The wrapped function after these turns, the latest first. -/
def guardedAfter (threshold : Int) (cooldown : Time) : List Turn → Guarded
  | [] => ⟨new threshold cooldown, []⟩
  | turn :: past => withCircuitBreaker (guardedAfter threshold cooldown past) turn

/-- A call was interrupted while a probe was marked, and no call has reported since. -/
def Abandoned (threshold : Int) (cooldown : Time) : List Turn → Prop
  | [] => False
  | turn :: past =>
      let guarded := guardedAfter threshold cooldown past
      match turn with
      | .calls _ _ => Abandoned threshold cooldown past
      | .returns thread | .raises thread _ =>
          thread ∉ guarded.running ∧ Abandoned threshold cooldown past
      | .interrupted thread =>
          (thread ∈ guarded.running ∧ guarded.breaker.halfOpenInFlight = true) ∨
            Abandoned threshold cooldown past

theorem isOpen_marked {breaker : CircuitBreaker} {now : Time}
    (marked : breaker.halfOpenInFlight = true) : (breaker.isOpen now).2.halfOpenInFlight = true := by
  rw [isOpen_eq]
  split
  · exact marked
  · split
    · rfl
    · exact marked

theorem abandoned_marked (past : List Turn) (abandoned : Abandoned threshold cooldown past) :
    (guardedAfter threshold cooldown past).breaker.halfOpenInFlight = true := by
  induction past with
  | nil => cases abandoned
  | cons turn past ih =>
    rw [guardedAfter]
    cases turn with
    | calls thread now =>
      have marked := ih abandoned
      rw [withCircuitBreaker]
      dsimp only
      split
      · exact marked
      · split <;> exact isOpen_marked marked
    | returns thread =>
      rw [withCircuitBreaker, if_neg abandoned.1]
      exact ih abandoned.2
    | raises thread now =>
      rw [withCircuitBreaker, if_neg abandoned.1]
      exact ih abandoned.2
    | interrupted thread => exact abandoned.elim And.right ih

-- A probe is marked only while a call is running, or after one was interrupted.
theorem marked_attended (past : List Turn)
    (marked : (guardedAfter threshold cooldown past).breaker.halfOpenInFlight = true) :
    (guardedAfter threshold cooldown past).running ≠ [] ∨ Abandoned threshold cooldown past := by
  induction past with
  | nil => cases marked
  | cons turn past ih =>
    rw [guardedAfter] at marked ⊢
    cases turn with
    | calls thread now =>
      rw [withCircuitBreaker] at marked ⊢
      dsimp only at marked ⊢
      split at marked
      next running =>
        rw [if_pos running]
        exact ih marked
      next idle =>
        rw [if_neg idle]
        split at marked
        -- A refused call marks no probe: the mark is an older one.
        next blocked =>
          rw [if_pos blocked]
          apply ih
          rw [isOpen_eq] at blocked marked
          split at marked
          · exact marked
          · split at marked
            next closed cooled =>
              rw [if_neg closed, if_pos cooled] at blocked
              exact blocked
            · exact marked
        next free =>
          rw [if_neg free]
          exact Or.inl (List.cons_ne_nil _ _)
    | returns thread =>
      rw [withCircuitBreaker] at marked ⊢
      split at marked
      · cases marked
      next idle =>
        rw [if_neg idle]
        exact (ih marked).imp_right fun abandoned => ⟨idle, abandoned⟩
    | raises thread now =>
      rw [withCircuitBreaker] at marked ⊢
      split at marked
      · cases marked
      next idle =>
        rw [if_neg idle]
        exact (ih marked).imp_right fun abandoned => ⟨idle, abandoned⟩
    | interrupted thread =>
      by_cases running : thread ∈ (guardedAfter threshold cooldown past).running
      · exact Or.inr (Or.inl ⟨running, marked⟩)
      · rw [withCircuitBreaker, List.erase_of_not_mem running]
        exact (ih marked).imp_right Or.inr

/-- However the threads take turns, once no call is running a call is held back only while the last
failure at the threshold cools down, or where an interrupted call has left its probe marked. -/
theorem idle_blocks_iff (threshold : Int) (cooldown : Time) (past : List Turn) (now : Time)
    (idle : (guardedAfter threshold cooldown past).running = []) :
    let breaker := (guardedAfter threshold cooldown past).breaker
    (breaker.isOpen now).1 = true ↔ breaker.getState now = .opened ∨
      (breaker.getState now = .halfOpen ∧ Abandoned threshold cooldown past) := by
  intro breaker
  have marked : breaker.halfOpenInFlight = true ↔ Abandoned threshold cooldown past := by
    constructor
    · intro marked
      exact (marked_attended threshold cooldown past marked).resolve_left fun some => some idle
    · exact abandoned_marked threshold cooldown past
  rw [isOpen, ← marked]
  cases breaker.getState now with
  | closed => simp
  | opened => simp
  | halfOpen => cases breaker.halfOpenInFlight <;> simp

theorem idle_after_probe :
    let past : List Turn := [.interrupted 1, .calls 1 62, .raises 0 1, .calls 0 0]
    let breaker := (guardedAfter 1 60 past).breaker
    (breaker.isOpen 63).1 = true ↔ breaker.getState 63 = .opened ∨
      (breaker.getState 63 = .halfOpen ∧ Abandoned 1 60 past) :=
  idle_blocks_iff 1 60 [.interrupted 1, .calls 1 62, .raises 0 1, .calls 0 0] 63 (by decide)

end CircuitBreaker

structure KeyedCircuitBreaker where
  threshold : Int
  cooldown : Time
  breakers : String → Option CircuitBreaker

namespace KeyedCircuitBreaker
open CircuitBreaker (streak Probes)

def new (threshold : Int) (cooldown : Time) : KeyedCircuitBreaker :=
  ⟨threshold, cooldown, fun _ => none⟩

def get (keyed : KeyedCircuitBreaker) (key : String) : CircuitBreaker :=
  (keyed.breakers key).getD (.new keyed.threshold keyed.cooldown)

def step (keyed : KeyedCircuitBreaker) (call : String × CircuitBreaker.Event) :
    KeyedCircuitBreaker :=
  { keyed with
    breakers := fun key =>
      if key = call.1 then some ((keyed.get key).step call.2) else keyed.breakers key }

def ofKey (key : String) (past : List (String × CircuitBreaker.Event)) :
    List CircuitBreaker.Event :=
  (past.filter fun call => decide (key = call.1)).map Prod.snd

theorem get_step (keyed : KeyedCircuitBreaker) (call : String × CircuitBreaker.Event)
    (key : String) :
    (keyed.step call).get key =
      if key = call.1 then (keyed.get key).step call.2 else keyed.get key := by
  rw [get, step]
  by_cases own : key = call.1
  · simp [own]
  · simp [own, get]

theorem run_get (threshold : Int) (cooldown : Time) (key : String)
    (past : List (String × CircuitBreaker.Event)) :
    let keyed := final step (new threshold cooldown) past.reverse
    (keyed.threshold = threshold ∧ keyed.cooldown = cooldown) ∧
      keyed.get key =
        final CircuitBreaker.step (.new threshold cooldown) (ofKey key past).reverse := by
  induction past with
  | nil => exact ⟨⟨rfl, rfl⟩, rfl⟩
  | cons call past ih =>
    obtain ⟨settings, same⟩ := ih
    rw [List.reverse_cons, final_append]
    refine ⟨settings, ?_⟩
    change (step _ call).get key = _
    rw [get_step, same, ofKey, ofKey, List.filter_cons]
    by_cases own : key = call.1
    · rw [if_pos own, if_pos (decide_eq_true own), List.map_cons, List.reverse_cons, final_append]
      rfl
    · rw [if_neg own, if_neg (by simpa using own)]

/-- Whether a request under a key is let through depends on what was done under that key alone: on
the failures since its last success or reset, and otherwise on whether the last of them has cooled
down and no request was made since. -/
theorem keyed_let_through_iff (threshold : Int) (positive : 0 < threshold) (cooldown : Time)
    (past : List (String × CircuitBreaker.Event)) (key : String) (now : Time) :
    (((final step (new threshold cooldown) past.reverse).get key).isOpen now).1 = false ↔
      streak (ofKey key past) < threshold ∨ Probes cooldown (ofKey key past) now := by
  rw [(run_get threshold cooldown key past).2]
  exact CircuitBreaker.let_through_iff threshold positive cooldown _ now

theorem keyed_let_through_after_cooldown :
    (((final step (new 1 60) [("a", .recordFailure 0), ("b", .isOpen 5)]).get "a").isOpen 61).1 =
      false :=
  (keyed_let_through_iff 1 (by decide) 60 [("b", .isOpen 5), ("a", .recordFailure 0)] "a" 61).mpr
    (Or.inr ⟨[], 0, by decide, by decide, by decide⟩)

end KeyedCircuitBreaker

end Hartos
