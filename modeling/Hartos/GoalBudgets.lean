import Hartos.BudgetGate
import Mathlib.Tactic.Set

/-!
What is measured of a goal's Spark: along what the transactions did, in the hands of the
calls in progress and among the held reservations.
-/
namespace Hartos.BudgetGate
open KeyedTable StepSystem

namespace Entry
variable (goalId : String)

def chargedFor : Entry → Int
  | .charged goal amount => if goal = goalId then amount else 0
  | _ => 0

def reservedFor : Entry → Int
  | .reserved goal _ amount => if goal = goalId then amount else 0
  | _ => 0

def returnedFor : Entry → Int
  | .returned giving => if giving.goalId = goalId then giving.amount else 0
  | _ => 0

def putUnder (who : HoldKey) : Entry → Int
  | .reserved goal holder amount => if goal = goalId ∧ .holder holder = who then amount else 0
  | .parked giving => if giving.goalId = goalId ∧ .unreleased = who then giving.amount else 0
  | _ => 0

def drawnFrom (who : HoldKey) : Entry → Int
  | .returned giving => if giving.goalId = goalId then giving.drawn who else 0
  | _ => 0

def returnedBy (goalId holder : String) : Entry → Int
  | .returned giving =>
      if giving.goalId = goalId ∧ giving.who = some holder then giving.amount else 0
  | _ => 0

end Entry

namespace Stage
variable (goalId : String)

def unheld : Stage → Int
  | .holding goal amount _ _ _ => if goal = goalId then amount else 0
  | _ => 0

def ungiven : Stage → Int
  | .giving release => if release.goalId = goalId then release.amount else 0
  | .settling _ .given => 0
  | .settling release _ => if release.goalId = goalId then release.amount else 0
  | _ => 0

def unsettled : Stage → Int
  | .settling release .given => if release.goalId = goalId then release.amount else 0
  | _ => 0

def inHand (who : HoldKey) : Stage → Int
  | .holding goal amount holder _ _ => if goal = goalId ∧ .holder holder = who then amount else 0
  | .giving release => if release.goalId = goalId then release.drawn who else 0
  | .settling _ .given => 0
  | .settling release _ => if release.goalId = goalId then release.drawn who else 0
  | _ => 0

def missed : Stage → Option String
  | .settling release .goalGone => some release.goalId
  | _ => none

end Stage

namespace State
variable (state : State)

def tally (measure : Entry → Int) : Int := (state.history.map measure).sum

def pending (weight : Stage → Int) : Int :=
  state.calls.total fun call => weight call.stage

def Quiet : Prop := ∀ call ∈ state.calls.rows, call.stage.answered = true

instance : DecidablePred Quiet := fun state =>
  inferInstanceAs (Decidable (∀ call ∈ state.calls.rows, call.stage.answered = true))

structure Begins (state : State) : Prop where
  calls : state.calls.rows = []
  holds : state.heldReservations.rows = []
  charges : ∀ entry ∈ state.history, ∃ goalId amount, entry = .charged goalId amount
  goals : ∀ goal ∈ state.goals.rows, 0 ≤ goal.sparkSpent ∧ goal.sparkSpent ≤ goal.sparkBudget ∧
    goal.sparkSpent = state.tally (Entry.chargedFor goal.id)

structure Accounts (state : State) (goalId : String) : Prop where
  spent : ∃ goal, state.goals.get? goalId = some goal ∧
    goal.sparkSpent = state.tally (Entry.chargedFor goalId) +
      state.tally (Entry.reservedFor goalId) - state.tally (Entry.returnedFor goalId) ∧
    0 ≤ goal.sparkSpent ∧ goal.sparkSpent ≤ goal.sparkBudget
  held : state.heldReservation goalId + state.pending (Stage.unheld goalId) +
      state.tally (Entry.returnedFor goalId) =
    state.tally (Entry.reservedFor goalId) + state.pending (Stage.unsettled goalId)
  releasing : ((state.mine goalId).amount .releasing : Int) =
    state.pending (Stage.ungiven goalId) + state.pending (Stage.unsettled goalId)
  present : ∀ call ∈ state.calls.rows, call.stage.missed ≠ some goalId

def Backed (goalId : String) (who : HoldKey) : Prop :=
  ((state.mine goalId).amount who : Int) + state.pending (Stage.inHand goalId who) +
    state.tally (Entry.drawnFrom goalId who) ≤ state.tally (Entry.putUnder goalId who)

end State

namespace Mine
variable (mine : Mine) (key : HoldKey) (more : Nat) (less : Nat) (hold : Hold) (who : HoldKey)

theorem amount_weightAt :
    (mine.amount who : Int) = mine.weightAt (fun hold => hold.amount) who := by
  unfold amount Table.weightAt
  cases mine.get? who <;> rfl

theorem amount_set :
    amount (mine.set hold) who = if hold.who = who then hold.amount else mine.amount who := by
  unfold amount
  rw [Table.get?_set]
  by_cases same : hold.who = who <;> simp [same]

theorem amount_add :
    (mine.add key more).amount who = mine.amount who + if key = who then more else 0 := by
  rw [add, amount_set]
  by_cases same : key = who <;> simp [same]

theorem amount_erase (dropped who : HoldKey) :
    amount (mine.erase dropped) who = if who = dropped then 0 else mine.amount who := by
  unfold amount
  rw [Table.get?_erase]
  by_cases same : who = dropped <;> simp [same]

/-- What two pops take out of a key, and what they leave. -/
theorem amount_taken (key who : HoldKey) :
    amount (Table.erase (Table.erase mine key) .unreleased) who +
      (if key = who then mine.amount key else 0) +
      (if who = .unreleased then amount (Table.erase mine key) .unreleased else 0) =
        mine.amount who := by
  simp only [amount_erase]
  by_cases parked : who = .unreleased
  · subst parked
    by_cases own : key = .unreleased
    · simp [own]
    · simp [own, Ne.symm own]
  · by_cases own : key = who
    · simp [parked, own]
    · simp [parked, own, Ne.symm own]

theorem amount_settle :
    (mine.settle less).amount who =
      if who = .releasing then mine.amount who - less else mine.amount who := by
  unfold settle
  split
  · rw [amount_set]
    by_cases same : who = .releasing
    · simp [same]
    · simp [same, Ne.symm same]
  next nothing =>
    rw [amount_erase]
    by_cases same : who = .releasing
    · simp only [same, ↓reduceIte]
      omega
    · simp [same]

theorem held_set : held (mine.set hold) = mine.held + hold.amount - mine.amount hold.who := by
  rw [held, Table.total_set, amount_weightAt]
  rfl

theorem held_add : (mine.add key more).held = mine.held + more := by
  rw [add, held_set]
  push_cast
  omega

theorem held_erase (dropped : HoldKey) :
    held (mine.erase dropped) = mine.held - mine.amount dropped := by
  rw [held, Table.total_erase, amount_weightAt]
  rfl

/-- A release that is over takes its amount away, which the releasing key has. -/
theorem held_settle (enough : less ≤ mine.amount .releasing) :
    (mine.settle less).held = mine.held - less := by
  unfold settle
  split
  · rw [held_set]
    dsimp only
    omega
  · rw [held_erase]
    omega

theorem amount_le_held : (mine.amount who : Int) ≤ mine.held := by
  rw [amount_weightAt]
  exact Table.weightAt_le_total mine _ (fun hold => Int.natCast_nonneg hold.amount) who

end Mine

namespace State
variable (state : State)
variable (goal : AgentGoal) (spent : Int) (entry : Entry) (goalId : String) (mine : Mine)
  (measure : Entry → Int) (thread : Nat) (weight : Stage → Int)
variable (kept : String) (stage : Stage)

@[simp] theorem tally_move (measure : Entry → Int) :
    (state.move thread stage).tally measure = state.tally measure := rfl

@[simp] theorem tally_spend : (state.spend goal spent).tally measure = state.tally measure := rfl

@[simp] theorem tally_keep : (state.keep goalId mine).tally measure = state.tally measure := rfl

@[simp] theorem tally_keepNonempty :
    (state.keepNonempty goalId mine).tally measure = state.tally measure := by
  unfold keepNonempty
  split <;> rfl

@[simp] theorem tally_note :
    (state.note entry).tally measure = state.tally measure + measure entry := by
  simp [tally, note]

def carried (thread : Nat) (weight : Stage → Int) : Int :=
  state.calls.weightAt (fun call => weight call.stage) thread

theorem carried_call (call : Call) (found : state.calls.get? thread = some call)
    (weight : Stage → Int) : state.carried thread weight = weight call.stage :=
  Table.weightAt_some state.calls _ thread call found

theorem pending_nonneg (all : ∀ stage, 0 ≤ weight stage) : 0 ≤ state.pending weight :=
  Table.total_nonneg state.calls _ fun call => all call.stage

theorem carried_le_pending (all : ∀ stage, 0 ≤ weight stage) :
    state.carried thread weight ≤ state.pending weight :=
  Table.weightAt_le_total state.calls _ (fun call => all call.stage) thread

@[simp] theorem pending_move (weight : Stage → Int) :
    (state.move thread stage).pending weight =
      state.pending weight + weight stage - state.carried thread weight :=
  Table.total_set state.calls _ ⟨thread, stage⟩

@[simp] theorem pending_note : (state.note entry).pending weight = state.pending weight := rfl

@[simp] theorem pending_spend :
    (state.spend goal spent).pending weight = state.pending weight := rfl

@[simp] theorem pending_keep : (state.keep goalId mine).pending weight = state.pending weight := rfl

@[simp] theorem carried_note :
    (state.note entry).carried thread weight = state.carried thread weight := rfl

@[simp] theorem carried_spend :
    (state.spend goal spent).carried thread weight = state.carried thread weight := rfl

@[simp] theorem carried_keep :
    (state.keep goalId mine).carried thread weight = state.carried thread weight := rfl

@[simp] theorem calls_keepNonempty : (state.keepNonempty goalId mine).calls = state.calls := by
  unfold keepNonempty
  split <;> rfl

@[simp] theorem pending_keepNonempty :
    (state.keepNonempty goalId mine).pending weight = state.pending weight := by
  rw [pending, calls_keepNonempty, pending]

@[simp] theorem carried_keepNonempty :
    (state.keepNonempty goalId mine).carried thread weight = state.carried thread weight := by
  rw [carried, calls_keepNonempty, carried]

@[simp] theorem mine_move (goalId : String) :
    (state.move thread stage).mine goalId = state.mine goalId := rfl

@[simp] theorem mine_note : (state.note entry).mine goalId = state.mine goalId := rfl

@[simp] theorem mine_spend : (state.spend goal spent).mine goalId = state.mine goalId := rfl

@[simp] theorem mine_keep (mine : Mine) (goalId : String) :
    (state.keep kept mine).mine goalId = if kept = goalId then mine else state.mine goalId := by
  simp only [State.mine, keep, Table.get?_set]
  by_cases same : kept = goalId <;> simp [same]

@[simp] theorem mine_keepNonempty (mine : Mine) (goalId : String) :
    (state.keepNonempty kept mine).mine goalId =
      if kept = goalId then mine else state.mine goalId := by
  unfold keepNonempty
  split
  next nothing =>
    -- No dict reads as an empty one.
    have empty : mine = Table.empty Hold.who := by
      cases mine
      simpa [Table.empty] using nothing
    simp only [State.mine, Table.get?_erase]
    by_cases same : goalId = kept
    · simp [same, empty]
    · simp [same, Ne.symm same]
  · exact mine_keep state kept mine goalId

@[simp] theorem goals_move : (state.move thread stage).goals = state.goals := rfl

@[simp] theorem goals_note : (state.note entry).goals = state.goals := rfl

@[simp] theorem goals_keep : (state.keep goalId mine).goals = state.goals := rfl

@[simp] theorem goals_keepNonempty : (state.keepNonempty goalId mine).goals = state.goals := by
  unfold keepNonempty
  split <;> rfl

theorem get?_spend :
    (state.spend goal spent).goals.get? goalId =
      if goal.id = goalId then some { goal with sparkSpent := spent }
      else state.goals.get? goalId :=
  Table.get?_set state.goals _ goalId

end State

structure Stage.Still (stage : Stage) : Prop where
  unheld : ∀ goalId, stage.unheld goalId = 0
  ungiven : ∀ goalId, stage.ungiven goalId = 0
  unsettled : ∀ goalId, stage.unsettled goalId = 0
  inHand : ∀ goalId who, stage.inHand goalId who = 0
  missed : stage.missed = none

namespace Stage
variable (goalId : String) (stage : Stage)

theorem unheld_nonneg : 0 ≤ stage.unheld goalId := by
  unfold unheld
  split
  · split <;> omega
  · exact le_rfl

theorem ungiven_nonneg : 0 ≤ stage.ungiven goalId := by
  unfold ungiven
  split
  · split <;> omega
  · exact le_rfl
  · split <;> omega
  · exact le_rfl

theorem unsettled_nonneg : 0 ≤ stage.unsettled goalId := by
  unfold unsettled
  split
  · split <;> omega
  · exact le_rfl

theorem inHand_nonneg (who : HoldKey) (stage : Stage) : 0 ≤ stage.inHand goalId who := by
  unfold inHand
  split
  · split <;> omega
  · split <;> omega
  · exact le_rfl
  · split <;> omega
  · exact le_rfl

end Stage

namespace Entry

theorem chargedFor_nonneg (goalId : String) (entry : Entry) : 0 ≤ entry.chargedFor goalId := by
  unfold chargedFor
  split
  · split <;> omega
  · exact le_rfl

theorem tally_nonneg (history : List Entry) (measure : Entry → Int)
    (all : ∀ entry, 0 ≤ measure entry) : 0 ≤ (history.map measure).sum := by
  apply List.sum_nonneg
  intro amount member
  obtain ⟨entry, -, rfl⟩ := List.mem_map.mp member
  exact all entry

end Entry

def Stage.moving : Stage → Bool
  | .holding .. | .giving _ | .settling .. => true
  | _ => false

theorem Stage.still_of_moving (stage : Stage) (calm : stage.moving = false) : stage.Still := by
  cases stage with
  | holding => cases calm
  | giving => cases calm
  | settling => cases calm
  | _ => exact ⟨fun _ => rfl, fun _ => rfl, fun _ => rfl, fun _ _ => rfl, rfl⟩

namespace State

theorem answer_still (returned : Nat) (retry : Option Retry) : (answer returned retry).Still := by
  apply Stage.still_of_moving
  rcases retry with _ | ⟨_ | ⟨next, rest⟩, before⟩ <;> rfl

end State

end Hartos.BudgetGate
