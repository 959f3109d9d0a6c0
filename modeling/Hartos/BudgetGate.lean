import Hartos.KeyedTotals
import Hartos.StepSystem
import Hartos.Task

/-!
The Spark a goal may spend. A reservation raises the goal's `spark_spent` before the
work runs and is held, in process, under the name of whoever made it until that holder
gives it back. Each call is cut where another thread can run: at its transactions on
the goal's row and at the sections under the lock of the held reservations.
-/
namespace Hartos.BudgetGate
open KeyedTable StepSystem

structure AgentGoal where
  id : String
  promptId : Option String
  active : Bool
  sparkBudget : Int
  sparkSpent : Int
  deriving DecidableEq

inductive HoldKey where
  | holder (name : String) | releasing | unreleased
  deriving DecidableEq

structure Hold where
  who : HoldKey
  amount : Nat
  deriving DecidableEq

abbrev Mine := Table Hold.who

namespace Mine

def amount (mine : Mine) (who : HoldKey) : Nat :=
  match mine.get? who with
  | none => 0
  | some hold => hold.amount

def add (mine : Mine) (who : HoldKey) (amount : Nat) : Mine :=
  mine.set ⟨who, mine.amount who + amount⟩

def pop (mine : Mine) (who : HoldKey) : Nat × Mine := (mine.amount who, mine.erase who)

def settle (mine : Mine) (amount : Nat) : Mine :=
  if mine.amount .releasing - amount > 0 then
    mine.set ⟨.releasing, mine.amount .releasing - amount⟩
  else mine.erase .releasing

def held (mine : Mine) : Int := mine.total fun hold => hold.amount

end Mine

structure GoalHolds where
  goalId : String
  mine : Mine

structure Verdict where
  allowed : Bool
  remaining : Int
  reason : String
  deriving DecidableEq

structure CacheEntry where
  goalId : String
  cachedTs : Time
  verdict : Verdict
  deriving DecidableEq

def budgetCacheTtl : Time := seconds 10

structure Retry where
  goals : List String
  returned : Nat
  deriving DecidableEq

def releaseKey : Option String → HoldKey
  | some name => .holder name
  | none => .unreleased

structure Giving where
  goalId : String
  who : Option String
  own : Nat
  parked : Nat
  retry : Option Retry
  deriving DecidableEq

def Giving.amount (giving : Giving) : Nat := giving.own + giving.parked

def Giving.drawn (giving : Giving) (who : HoldKey) : Nat :=
  (if releaseKey giving.who = who then giving.own else 0) + (if who = .unreleased then giving.parked else 0)

inductive Written where
  | unwritten | goalGone | given
  deriving DecidableEq

inductive Stage where
  | looking (goalId : String) (estimatedCost : Nat) (holder : String)
  | reserving (goalId : String) (estimatedCost : Nat) (holder : String) (now : Time)
  | holding (goalId : String) (estimatedCost : Nat) (holder : String) (now : Time)
      (verdict : Verdict)
  | remembering (goalId : String) (now : Time) (verdict : Verdict)
  | charging (promptId : String) (amount : Nat)
  | forgetting (goalId : String)
  | taking (goalId : String) (who : Option String) (retry : Option Retry)
  | giving (giving : Giving)
  | settling (giving : Giving) (written : Written)
  | refreshing (goalId : String) (returned : Nat) (retry : Option Retry)
  | listing
  | checked (verdict : Verdict)
  | charged (charged : Bool)
  | released (returned : Nat)
  deriving DecidableEq

def Stage.answered : Stage → Bool
  | .checked _ | .charged _ | .released _ => true
  | _ => false

structure Call where
  thread : Nat
  stage : Stage
  deriving DecidableEq

inductive Entry where
  | charged (goalId : String) (amount : Nat)
  | reserved (goalId : String) (holder : String) (amount : Nat)
  | returned (giving : Giving)
  | parked (giving : Giving)
  deriving DecidableEq

structure State where
  goals : Table AgentGoal.id
  heldReservations : Table GoalHolds.goalId
  budgetCache : Table CacheEntry.goalId
  calls : Table Call.thread
  history : List Entry

namespace State

def mine (state : State) (goalId : String) : Mine :=
  match state.heldReservations.get? goalId with
  | none => Table.empty Hold.who
  | some holds => holds.mine

variable (state : State) (goalId : String) (thread : Nat)

def keep (mine : Mine) : State :=
  { state with heldReservations := state.heldReservations.set ⟨goalId, mine⟩ }

def keepNonempty (mine : Mine) : State :=
  if mine.rows = [] then
    { state with heldReservations := state.heldReservations.erase goalId }
  else state.keep goalId mine

def note (entry : Entry) : State :=
  { state with history := state.history ++ [entry] }

def spend (goal : AgentGoal) (sparkSpent : Int) : State :=
  { state with goals := state.goals.set { goal with sparkSpent } }

def move (stage : Stage) : State :=
  { state with calls := state.calls.set ⟨thread, stage⟩ }

def remember (now : Time) (verdict : Verdict) : State :=
  { state with budgetCache := state.budgetCache.set ⟨goalId, now, verdict⟩ }

def invalidateGoalBudgetCache : State :=
  { state with budgetCache := state.budgetCache.erase goalId }

def heldReservation : Int := (state.mine goalId).held

def cached (estimatedCost : Nat) (now : Time) : Option Verdict :=
  match state.budgetCache.get? goalId with
  | none => none
  | some entry =>
      if now - entry.cachedTs < budgetCacheTtl then
        if !entry.verdict.allowed then some entry.verdict
        else if entry.verdict.remaining = -1 ∨ entry.verdict.remaining ≥ estimatedCost then
          some entry.verdict
        else none
      else none

def hold (amount : Nat) (holder : String) : State :=
  if amount = 0 then state
  else state.keep goalId ((state.mine goalId).add (.holder holder) amount)

def budgetSystemUnavailable : Verdict := ⟨true, -1, "budget_system_unavailable"⟩

def goalNotFound : Verdict := ⟨true, -1, "goal_not_found"⟩

def insufficientBudget (remaining : Int) (estimatedCost : Nat) : Verdict :=
  ⟨false, remaining, s!"insufficient_budget ({remaining} < {estimatedCost})"⟩

def reserve (goalId : String) (estimatedCost : Nat) (holder : String) (now : Time)
    (commits : Bool) : State :=
  if !commits then state.move thread (.checked budgetSystemUnavailable)
  else match state.goals.get? goalId with
    | none => state.move thread (.remembering goalId now goalNotFound)
    | some goal =>
        let remaining := goal.sparkBudget - goal.sparkSpent
        if remaining < estimatedCost then
          state.move thread (.remembering goalId now (insufficientBudget remaining estimatedCost))
        else
          ((state.spend goal (goal.sparkSpent + estimatedCost)).note
            (.reserved goalId holder estimatedCost)).move thread
              (.holding goalId estimatedCost holder now
                ⟨true, remaining - estimatedCost, "budget_reserved"⟩)

def chargeWork (promptId : String) (amount : Nat) (commits : Bool) : State :=
  if !commits then state.move thread (.charged false)
  else match state.goals.rows.find? fun goal =>
      decide (goal.promptId = some promptId) && goal.active with
    | none => state.move thread (.charged false)
    | some goal =>
        let charge := min (amount : Int) (max 0 (goal.sparkBudget - goal.sparkSpent))
        if charge ≤ 0 then state.move thread (.charged false)
        else
          ((state.spend goal (goal.sparkSpent + charge)).note
            (.charged goal.id charge.toNat)).move thread (.forgetting goal.id)

def answer (returned : Nat) : Option Retry → Stage
  | none => .released returned
  | some ⟨[], before⟩ => .released (before + returned)
  | some ⟨goalId :: rest, before⟩ => .taking goalId none (some ⟨rest, before + returned⟩)

/-- The first section of `release_goal_reservations`: the hold moves to the releasing
key, and with it what earlier releases could not write. -/
def take (goalId : String) (who : Option String) (retry : Option Retry) : State :=
  let mine := state.mine goalId
  if mine.rows = [] then state.move thread (answer 0 retry)
  else
    let (own, mine) := mine.pop (releaseKey who)
    let (parked, mine) := mine.pop .unreleased
    if own + parked = 0 then (state.keep goalId mine).move thread (answer 0 retry)
    else
      (state.keep goalId (mine.add .releasing (own + parked))).move thread
        (.giving ⟨goalId, who, own, parked, retry⟩)

def give (giving : Giving) (commits : Bool) : State :=
  if !commits then state.move thread (.settling giving .unwritten)
  else match state.goals.get? giving.goalId with
    | none => state.move thread (.settling giving .goalGone)
    | some goal =>
        ((state.spend goal (max 0 (goal.sparkSpent - giving.amount))).note
          (.returned giving)).move thread (.settling giving .given)

def settle (state : State) (thread : Nat) (giving : Giving) (written : Written) : State :=
  let mine := (state.mine giving.goalId).settle giving.amount
  match written with
  | .unwritten =>
      ((state.keepNonempty giving.goalId (mine.add .unreleased giving.amount)).note
        (.parked giving)).move thread (answer 0 giving.retry)
  | .goalGone =>
      (state.keepNonempty giving.goalId mine).move thread (.refreshing giving.goalId 0 giving.retry)
  | .given =>
      (state.keepNonempty giving.goalId mine).move thread
        (.refreshing giving.goalId giving.amount giving.retry)

def parkedGoals : List String :=
  (state.heldReservations.rows.filter fun holds => holds.mine.amount .unreleased > 0).map
    GoalHolds.goalId

def list : State :=
  state.move thread (answer 0 (some ⟨state.parkedGoals, 0⟩))

/-- A call's next section, at a time of day; `commits` says whether its transaction
stands. -/
def advance (now : Time) (commits : Bool) : Stage → State
  | .looking goalId estimatedCost holder =>
      match state.cached goalId estimatedCost now with
      | some verdict => state.move thread (.checked verdict)
      | none => state.move thread (.reserving goalId estimatedCost holder now)
  | .reserving goalId estimatedCost holder began =>
      state.reserve thread goalId estimatedCost holder began commits
  | .holding goalId estimatedCost holder began verdict =>
      (state.hold goalId estimatedCost holder).move thread (.remembering goalId began verdict)
  | .remembering goalId began verdict =>
      (state.remember goalId began verdict).move thread (.checked verdict)
  | .charging promptId amount => state.chargeWork thread promptId amount commits
  | .forgetting goalId => (state.invalidateGoalBudgetCache goalId).move thread (.charged true)
  | .taking goalId who retry => state.take thread goalId who retry
  | .giving giving => state.give thread giving commits
  | .settling giving written => state.settle thread giving written
  | .refreshing goalId returned retry =>
      (state.invalidateGoalBudgetCache goalId).move thread (answer returned retry)
  | .listing => state.list thread
  | .checked _ | .charged _ | .released _ => state

end State

inductive Request where
  | check (goalId : Option String) (estimatedCost : Nat) (holder : Option String)
  | charge (promptId : Option String) (actionsCompleted : Int)
  | release (goalId : String) (holder : Option String)
  | retry
  deriving DecidableEq

def Request.begin : Request → Stage
  | .check goalId estimatedCost holder =>
      if goalId.getD "" = "" then .checked ⟨true, -1, "no_goal_constraint"⟩
      else .looking (goalId.getD "") estimatedCost (holder.getD "")
  | .charge none _ => .charged false
  | .charge (some promptId) actionsCompleted => .charging promptId (max 1 actionsCompleted).toNat
  | .release goalId holder => .taking goalId (some (holder.getD "")) none
  | .retry => .listing

inductive Event where
  | call (thread : Nat) (request : Request)
  | advance (thread : Nat) (now : Time) (commits : Bool)
  deriving DecidableEq

def step (state : State) : Event → State
  | .call thread request =>
      match state.calls.get? thread with
      | none => state.move thread request.begin
      | some call => if call.stage.answered then state.move thread request.begin else state
  | .advance thread now commits =>
      match state.calls.get? thread with
      | none => state
      | some call => state.advance thread now commits call.stage

end Hartos.BudgetGate
