import Hartos.GoalBudgets

/-!
The Spark of a goal through any interleaving of reservations, charges, releases and
retries: what the row says is spent is what completed work was charged and what is
still held.
-/
namespace Hartos.BudgetGate
open KeyedTable StepSystem

namespace State

section Sections
variable {state : State} {goalId : String} {thread : Nat} {call : Call}

theorem missed_move (present : ∀ call ∈ state.calls.rows, call.stage.missed ≠ some goalId)
    (stage : Stage) (found : stage.missed ≠ some goalId) :
    ∀ call ∈ (state.move thread stage).calls.rows, call.stage.missed ≠ some goalId := by
  intro other member
  rcases (Table.mem_set _ _ _).mp member with rfl | ⟨old, -⟩
  · exact found
  · exact present other old

def Resting (state : State) (thread : Nat) : Prop :=
  ∀ call, state.calls.get? thread = some call → call.stage.Still

theorem resting (found : state.calls.get? thread = some call) (still : call.stage.Still) :
    state.Resting thread := by
  intro other here
  rw [found] at here
  exact Option.some.inj here ▸ still

theorem Resting.carried (resting : state.Resting thread) (weight : Stage → Int)
    (zero : ∀ stage : Stage, stage.Still → weight stage = 0) :
    state.carried thread weight = 0 := by
  cases found : state.calls.get? thread with
  | none => exact Table.weightAt_none state.calls _ thread found
  | some call => rw [carried_call state thread call found, zero _ (resting call found)]

theorem Accounts.move (accounts : state.Accounts goalId) (resting : state.Resting thread)
    (stage : Stage) (after : stage.Still) : (state.move thread stage).Accounts goalId where
  spent := accounts.spent
  held := by
    have held := accounts.held
    rw [pending_move, pending_move, resting.carried _ fun _ still => still.unheld goalId,
      resting.carried _ fun _ still => still.unsettled goalId, after.unheld, after.unsettled]
    simp only [heldReservation, mine_move, tally_move] at held ⊢
    omega
  releasing := by
    have releasing := accounts.releasing
    rw [pending_move, pending_move, resting.carried _ fun _ still => still.ungiven goalId,
      resting.carried _ fun _ still => still.unsettled goalId, after.ungiven, after.unsettled]
    simp only [mine_move]
    omega
  present := missed_move accounts.present stage (by simp [after.missed])

theorem Accounts.keep (accounts : state.Accounts goalId) (goal : String) (mine : Mine)
    (held : mine.held = state.heldReservation goal)
    (releasing : mine.amount .releasing = (state.mine goal).amount .releasing) :
    (state.keep goal mine).Accounts goalId where
  spent := accounts.spent
  held := by
    have before := accounts.held
    by_cases same : goal = goalId
    · subst same
      simpa [heldReservation, held] using before
    · simpa [heldReservation, same] using before
  releasing := by
    by_cases same : goal = goalId
    · subst same
      simpa [releasing] using accounts.releasing
    · simpa [same] using accounts.releasing
  present := accounts.present

/-- What a key is owed, through a section that moves no Spark. -/
theorem Backed.move {who : HoldKey} (backed : state.Backed goalId who)
    (resting : state.Resting thread) (stage : Stage) (after : stage.Still) :
    (state.move thread stage).Backed goalId who := by
  unfold Backed at backed ⊢
  rw [pending_move, resting.carried _ fun _ still => still.inHand goalId who, after.inHand]
  simp only [mine_move, tally_move]
  omega

structure Balanced (state : State) (goalId : String) : Prop where
  accounts : goalId ∈ state.goals.keys → state.Accounts goalId
  backed : ∀ who, who ≠ .releasing → state.Backed goalId who

theorem Balanced.move (balanced : state.Balanced goalId) (resting : state.Resting thread)
    (stage : Stage) (after : stage.Still) : (state.move thread stage).Balanced goalId where
  accounts member := (balanced.accounts member).move resting stage after
  backed who other := (balanced.backed who other).move resting stage after

theorem Balanced.cache (balanced : state.Balanced goalId) (budgetCache : Table CacheEntry.goalId) :
    ({ state with budgetCache } : State).Balanced goalId where
  accounts member :=
    have accounts := balanced.accounts member
    ⟨accounts.spent, accounts.held, accounts.releasing, accounts.present⟩
  backed := balanced.backed

theorem spend_keys (row : AgentGoal) (spent : Int) (here : state.goals.get? row.id = some row) :
    (state.spend row spent).goals.keys = state.goals.keys :=
  state.goals.keys_set_present { row with sparkSpent := spent }
    ((Table.mem_keys state.goals row.id).mpr ⟨row, here⟩)

/-- A row that is written is the goal's own, or another one's. -/
theorem spent_row {row own : AgentGoal} (here : state.goals.get? row.id = some row)
    (has : state.goals.get? goalId = some own) (same : row.id = goalId) : row = own := by
  rw [same, has] at here
  exact (Option.some.inj here).symm

section

variable (balanced : state.Balanced goalId)
include balanced

variable (goal : String) (estimatedCost : Nat) (holder : String)

theorem reserve_balanced (now : Time) (commits : Bool) (found : state.calls.get? thread = some call)
    (stage : call.stage = .reserving goal estimatedCost holder now) :
    (state.reserve thread goal estimatedCost holder now commits).Balanced goalId := by
  have before : call.stage.Still := stage ▸ Stage.still_of_moving _ rfl
  unfold reserve
  split
  · exact balanced.move (resting found before) _ (Stage.still_of_moving _ rfl)
  split
  · exact balanced.move (resting found before) _ (Stage.still_of_moving _ rfl)
  next row here =>
    have named : row.id = goal := state.goals.get?_key goal row here
    subst named
    dsimp only
    split
    · exact balanced.move (resting found before) _ (Stage.still_of_moving _ rfl)
    next enough =>
      constructor
      · intro member
        rw [goals_move, goals_note, spend_keys row _ here] at member
        have accounts := balanced.accounts member
        obtain ⟨own, has, spent, nonneg, within⟩ := accounts.spent
        have held := accounts.held
        have releasing := accounts.releasing
        constructor
        · rw [goals_move, goals_note, get?_spend]
          by_cases same : row.id = goalId
          · obtain rfl := spent_row here has same
            simp [Entry.chargedFor, Entry.reservedFor, Entry.returnedFor, same]
            omega
          · refine ⟨own, by rw [if_neg same, has], ?_⟩
            simp [Entry.chargedFor, Entry.reservedFor, Entry.returnedFor, same]
            omega
        · simp only [pending_move, carried_note, carried_spend,
            carried_call state thread call found, heldReservation, mine_move, mine_note, mine_spend,
            tally_move, tally_note, tally_spend, pending_note, pending_spend, stage,
            Entry.reservedFor, Entry.returnedFor, Stage.unheld, Stage.unsettled] at held ⊢
          omega
        · simp only [pending_move, carried_note, carried_spend,
            carried_call state thread call found, mine_move, mine_note, mine_spend, pending_note,
            pending_spend, stage, Stage.ungiven, Stage.unsettled]
          omega
        · exact missed_move accounts.present _ (by simp [Stage.missed])
      · intro who other
        have backed := balanced.backed who other
        unfold Backed at backed ⊢
        simp only [pending_move, pending_note, pending_spend, carried_note, carried_spend,
          carried_call state thread call found, stage, mine_move, mine_note, mine_spend, tally_move,
          tally_note, tally_spend, Stage.inHand, Entry.drawnFrom, Entry.putUnder]
        omega

theorem hold_balanced (now : Time) (verdict : Verdict) (found : state.calls.get? thread = some call)
    (stage : call.stage = .holding goal estimatedCost holder now verdict) :
    ((state.hold goal estimatedCost holder).move thread
      (.remembering goal now verdict)).Balanced goalId := by
  unfold hold
  split
  next nothing =>
    subst nothing
    -- Nothing is in hand, so the section moves nothing.
    have still : call.stage.Still := by
      rw [stage]
      constructor <;>
        simp [Stage.unheld, Stage.ungiven, Stage.unsettled, Stage.inHand, Stage.missed]
    exact balanced.move (resting found still) _ (Stage.still_of_moving _ rfl)
  · constructor
    · intro member
      have accounts := balanced.accounts member
      have held := accounts.held
      have releasing := accounts.releasing
      constructor
      · exact accounts.spent
      · by_cases same : goal = goalId
        · simp [carried_call state thread call found, stage, heldReservation, same, Mine.held_add,
            Stage.unheld, Stage.unsettled] at held ⊢
          omega
        · simp [carried_call state thread call found, stage, heldReservation, same, Stage.unheld,
            Stage.unsettled] at held ⊢
          omega
      · by_cases same : goal = goalId
        · simp [carried_call state thread call found, stage, same, Mine.amount_add, Stage.ungiven,
            Stage.unsettled]
          omega
        · simp [carried_call state thread call found, stage, same, Stage.ungiven, Stage.unsettled]
          omega
      · exact missed_move accounts.present _ (by simp [Stage.missed])
    · intro who other
      have backed := balanced.backed who other
      unfold Backed at backed ⊢
      by_cases same : goal = goalId
      · by_cases his : HoldKey.holder holder = who
        · simp [carried_call state thread call found, stage, Stage.inHand, same, his,
            Mine.amount_add]
          omega
        · simp [carried_call state thread call found, stage, Stage.inHand, same, his,
            Mine.amount_add]
          omega
      · simp [carried_call state thread call found, stage, Stage.inHand, same]
        omega

theorem chargeWork_balanced (promptId : String) (amount : Nat) (commits : Bool)
    (found : state.calls.get? thread = some call) (stage : call.stage = .charging promptId amount) :
    (state.chargeWork thread promptId amount commits).Balanced goalId := by
  have before : call.stage.Still := stage ▸ Stage.still_of_moving _ rfl
  unfold chargeWork
  split
  · exact balanced.move (resting found before) _ (Stage.still_of_moving _ rfl)
  split
  · exact balanced.move (resting found before) _ (Stage.still_of_moving _ rfl)
  next row here =>
    have present : state.goals.get? row.id = some row :=
      state.goals.mem_get? row (List.mem_of_find?_eq_some here)
    dsimp only
    split
    · exact balanced.move (resting found before) _ (Stage.still_of_moving _ rfl)
    next positive =>
      constructor
      · intro member
        rw [goals_move, goals_note, spend_keys row _ present] at member
        have accounts := balanced.accounts member
        obtain ⟨own, has, spent, nonneg, within⟩ := accounts.spent
        have held := accounts.held
        have releasing := accounts.releasing
        constructor
        · rw [goals_move, goals_note, get?_spend]
          by_cases same : row.id = goalId
          · obtain rfl := spent_row present has same
            simp [Entry.chargedFor, Entry.reservedFor, Entry.returnedFor, same]
            omega
          · refine ⟨own, by rw [if_neg same, has], ?_⟩
            simp [Entry.chargedFor, Entry.reservedFor, Entry.returnedFor, same]
            omega
        · simp [carried_call state thread call found, stage, heldReservation, Entry.reservedFor,
            Entry.returnedFor, Stage.unheld, Stage.unsettled] at held ⊢
          omega
        · simp [carried_call state thread call found, stage, Stage.ungiven, Stage.unsettled]
          omega
        · exact missed_move accounts.present _ (by simp [Stage.missed])
      · intro who other
        have backed := balanced.backed who other
        unfold Backed at backed ⊢
        simp [carried_call state thread call found, stage, Stage.inHand, Entry.drawnFrom,
          Entry.putUnder]
        omega

/-- What a release takes leaves its keys and is in the call's hand. -/
theorem take_balanced (holder : Option String) (retry : Option Retry)
    (found : state.calls.get? thread = some call) (stage : call.stage = .taking goal holder retry) :
    (state.take thread goal holder retry).Balanced goalId := by
  have before : call.stage.Still := stage ▸ Stage.still_of_moving _ rfl
  have after := answer_still 0 retry
  have apart : HoldKey.releasing ≠ releaseKey holder := by cases holder <;> simp [releaseKey]
  unfold take
  dsimp only [Mine.pop]
  split
  · exact balanced.move (resting found before) _ after
  split
  next nothing =>
    constructor
    · intro member
      refine Accounts.move ((balanced.accounts member).keep goal _ ?_ ?_) (resting found before)
        _ after
      · rw [Mine.held_erase, Mine.held_erase, heldReservation]
        omega
      · rw [Mine.amount_erase, Mine.amount_erase, if_neg (by simp), if_neg apart]
    · intro who other
      have backed := balanced.backed who other
      have taken := Mine.amount_taken (state.mine goal) (releaseKey holder) who
      unfold Backed at backed ⊢
      rw [pending_move, carried_keep, carried_call state thread call found, before.inHand,
        after.inHand]
      simp only [mine_move, mine_keep, tally_move, tally_keep, pending_keep]
      by_cases same : goal = goalId
      · subst same
        rw [if_pos rfl]
        split at taken <;> split at taken <;> omega
      · rw [if_neg same]
        omega
  · constructor
    · intro member
      have accounts := balanced.accounts member
      have held := accounts.held
      have releasing := accounts.releasing
      constructor
      · exact accounts.spent
      · by_cases same : goal = goalId
        · simp [carried_call state thread call found, stage, heldReservation, same, Mine.held_erase,
            Mine.held_add, Stage.unheld, Stage.unsettled] at held ⊢
          omega
        · simp [carried_call state thread call found, stage, heldReservation, same, Stage.unheld,
            Stage.unsettled] at held ⊢
          omega
      · by_cases same : goal = goalId
        · simp [carried_call state thread call found, stage, same, Mine.amount_erase,
            Mine.amount_add, apart, Giving.amount, Stage.ungiven, Stage.unsettled]
          omega
        · simp [carried_call state thread call found, stage, same, Stage.ungiven, Stage.unsettled]
          omega
      · exact missed_move accounts.present _ (by simp [Stage.missed])
    · intro who other
      have backed := balanced.backed who other
      have taken := Mine.amount_taken (state.mine goal) (releaseKey holder) who
      unfold Backed at backed ⊢
      rw [pending_move, carried_keep, carried_call state thread call found, before.inHand]
      simp only [mine_move, mine_keep, tally_move, tally_keep, pending_keep, Stage.inHand,
        Giving.drawn]
      by_cases same : goal = goalId
      · subst same
        rw [if_pos rfl, Mine.amount_add, if_neg (Ne.symm other), if_pos rfl]
        omega
      · rw [if_neg same, if_neg same]
        omega

end

theorem Accounts.enough (accounts : state.Accounts goalId) (giving : Giving)
    (here : giving.goalId = goalId) (found : state.calls.get? thread = some call)
    (stage : call.stage = .giving giving) :
    state.tally (Entry.chargedFor goalId) + giving.amount ≤
      state.tally (Entry.chargedFor goalId) + state.tally (Entry.reservedFor goalId) -
        state.tally (Entry.returnedFor goalId) := by
  have carried : state.carried thread (Stage.ungiven goalId) = giving.amount := by
    simp [carried_call state thread call found, stage, Stage.ungiven, here]
  have below := state.carried_le_pending thread _ (Stage.ungiven_nonneg goalId)
  have unheld := state.pending_nonneg _ (Stage.unheld_nonneg goalId)
  have inside := Mine.amount_le_held (state.mine goalId) .releasing
  have releasing := accounts.releasing
  have held := accounts.held
  rw [heldReservation] at held
  omega

theorem Balanced.unwritten (balanced : state.Balanced goalId) (giving : Giving) (written : Written)
    (found : state.calls.get? thread = some call) (stage : call.stage = .giving giving)
    (waits : written ≠ .given)
    (there : goalId ∈ state.goals.keys → (Stage.settling giving written).missed ≠ some goalId) :
    (state.move thread (.settling giving written)).Balanced goalId := by
  constructor
  · intro member
    have accounts := balanced.accounts member
    have held := accounts.held
    have releasing := accounts.releasing
    constructor
    · exact accounts.spent
    · simp [carried_call state thread call found, stage, heldReservation, Stage.unheld,
        Stage.unsettled] at held ⊢
      cases written <;> simp_all
    · simp [carried_call state thread call found, stage, Stage.ungiven, Stage.unsettled]
      cases written <;> simp_all
    · exact missed_move accounts.present _ (there member)
  · intro who other
    have backed := balanced.backed who other
    unfold Backed at backed ⊢
    simp [carried_call state thread call found, stage, Stage.inHand]
    cases written <;> simp_all

theorem give_balanced (balanced : state.Balanced goalId) (giving : Giving) (commits : Bool)
    (found : state.calls.get? thread = some call) (stage : call.stage = .giving giving) :
    (state.give thread giving commits).Balanced goalId := by
  unfold give
  split
  · exact balanced.unwritten giving .unwritten found stage (by simp) (by simp [Stage.missed])
  split
  next gone =>
    apply balanced.unwritten giving .goalGone found stage (by simp)
    rintro member same
    obtain ⟨own, has⟩ := (Table.mem_keys state.goals goalId).mp member
    rw [Stage.missed, Option.some.injEq] at same
    rw [same, has] at gone
    cases gone
  next row here =>
    have named : row.id = giving.goalId := state.goals.get?_key giving.goalId row here
    rw [← named] at here
    constructor
    · intro member
      rw [goals_move, goals_note, spend_keys row _ here] at member
      have accounts := balanced.accounts member
      have held := accounts.held
      have releasing := accounts.releasing
      obtain ⟨own, has, spent, nonneg, within⟩ := accounts.spent
      constructor
      · rw [goals_move, goals_note, get?_spend]
        by_cases same : row.id = goalId
        · have enough := accounts.enough giving (named.symm.trans same) found stage
          have charged : 0 ≤ state.tally (Entry.chargedFor goalId) :=
            Entry.tally_nonneg state.history _ (Entry.chargedFor_nonneg goalId)
          obtain rfl := spent_row here has same
          simp [Entry.chargedFor, Entry.reservedFor, Entry.returnedFor, ← named, same]
          omega
        · refine ⟨own, by rw [if_neg same, has], ?_⟩
          simp [Entry.chargedFor, Entry.reservedFor, Entry.returnedFor, ← named, same]
          omega
      · simp [carried_call state thread call found, stage, heldReservation, Entry.reservedFor,
          Entry.returnedFor, Stage.unheld, Stage.unsettled] at held ⊢
        omega
      · simp [carried_call state thread call found, stage, Stage.ungiven, Stage.unsettled]
        omega
      · exact missed_move accounts.present _ (by simp [Stage.missed])
    · intro who other
      have backed := balanced.backed who other
      unfold Backed at backed ⊢
      simp [carried_call state thread call found, stage, Stage.inHand, Entry.drawnFrom,
        Entry.putUnder]
      omega

section

variable (accounts : state.Accounts goalId) (giving : Giving)
include accounts

/-- The releasing key has what a release at its last section takes away. -/
theorem Accounts.underway (written : Written) (here : giving.goalId = goalId)
    (found : state.calls.get? thread = some call) (stage : call.stage = .settling giving written) :
    giving.amount ≤ (state.mine goalId).amount .releasing := by
  have releasing := accounts.releasing
  have carried : state.carried thread (Stage.ungiven goalId) +
      state.carried thread (Stage.unsettled goalId) = giving.amount := by
    rw [carried_call state thread call found, carried_call state thread call found, stage]
    cases written <;> simp [Stage.ungiven, Stage.unsettled, here]
  have ungiven := state.carried_le_pending thread _ (Stage.ungiven_nonneg goalId)
  have unsettled := state.carried_le_pending thread _ (Stage.unsettled_nonneg goalId)
  omega

theorem Accounts.settled (written : Written) (found : state.calls.get? thread = some call)
    (stage : call.stage = .settling giving written) (mine : Mine)
    (held : giving.goalId = goalId →
      mine.held + call.stage.unsettled goalId = state.heldReservation goalId)
    (releasing : giving.goalId = goalId →
      (mine.amount .releasing : Int) + giving.amount = (state.mine goalId).amount .releasing)
    (next : Stage) (still : next.Still) :
    ((state.keepNonempty giving.goalId mine).move thread next).Accounts goalId where
  spent := by simpa using accounts.spent
  held := by
    have before := accounts.held
    have unheld : call.stage.unheld goalId = 0 := by rw [stage]; rfl
    simp only [heldReservation, mine_move, mine_keepNonempty, pending_move, pending_keepNonempty,
      carried_keepNonempty, carried_call state thread call found, tally_move, tally_keepNonempty,
      still.unheld, still.unsettled, unheld] at before held ⊢
    by_cases same : giving.goalId = goalId
    · have kept := held same
      rw [if_pos same]
      omega
    · have none : call.stage.unsettled goalId = 0 := by
        rw [stage]
        cases written <;> simp [Stage.unsettled, same]
      rw [if_neg same]
      omega
  releasing := by
    have before := accounts.releasing
    have carried : call.stage.ungiven goalId + call.stage.unsettled goalId =
        if giving.goalId = goalId then (giving.amount : Int) else 0 := by
      rw [stage]
      cases written <;> simp [Stage.ungiven, Stage.unsettled]
    simp only [mine_move, mine_keepNonempty, pending_move, pending_keepNonempty,
      carried_keepNonempty, carried_call state thread call found, still.ungiven, still.unsettled]
    by_cases same : giving.goalId = goalId
    · have kept := releasing same
      rw [if_pos same] at carried ⊢
      omega
    · rw [if_neg same] at carried ⊢
      omega
  present := by
    refine missed_move ?_ next (by simp [still.missed])
    rw [calls_keepNonempty]
    exact accounts.present

theorem Accounts.park :
    (state.note (.parked giving)).Accounts goalId where
  spent := by
    simpa [Entry.chargedFor, Entry.reservedFor, Entry.returnedFor] using accounts.spent
  held := by
    simpa [Entry.reservedFor, Entry.returnedFor, heldReservation] using accounts.held
  releasing := accounts.releasing
  present := accounts.present

end

theorem Backed.settled {who : HoldKey} (backed : state.Backed goalId who) (other : who ≠ .releasing)
    (giving : Giving) (found : state.calls.get? thread = some call) (next : Stage)
    (still : next.Still) :
    ((state.keepNonempty giving.goalId ((state.mine giving.goalId).settle giving.amount)).move
      thread next).Backed goalId who := by
  have hand := Stage.inHand_nonneg goalId who call.stage
  unfold Backed at backed ⊢
  rw [pending_move, carried_keepNonempty, carried_call state thread call found, still.inHand]
  simp only [mine_move, mine_keepNonempty, tally_move, tally_keepNonempty, pending_keepNonempty]
  by_cases same : giving.goalId = goalId
  · rw [if_pos same, Mine.amount_settle, if_neg other, same]
    omega
  · rw [if_neg same]
    omega

theorem settle_balanced (balanced : state.Balanced goalId) (giving : Giving) (written : Written)
    (found : state.calls.get? thread = some call)
    (stage : call.stage = .settling giving written) :
    (state.settle thread giving written).Balanced goalId := by
  unfold settle
  cases written with
  | unwritten =>
    have after := answer_still 0 giving.retry
    constructor
    · intro member
      rw [goals_move, goals_note, goals_keepNonempty] at member
      have accounts := balanced.accounts member
      have enough := fun here => accounts.underway giving .unwritten here found stage
      refine (accounts.settled giving .unwritten found stage
        (((state.mine giving.goalId).settle giving.amount).add .unreleased giving.amount)
        ?_ ?_ (answer 0 giving.retry) after).park giving
      · intro same
        rw [Mine.held_add, same, Mine.held_settle _ _ (enough same), stage, heldReservation]
        simp [Stage.unsettled]
      · intro same
        have inside := enough same
        rw [Mine.amount_add, Mine.amount_settle, if_pos rfl, if_neg (by simp), same]
        omega
    · intro who other
      have backed := balanced.backed who other
      unfold Backed at backed ⊢
      rw [pending_move, carried_note, carried_keepNonempty, carried_call state thread call found,
        after.inHand, stage]
      simp only [mine_move, mine_note, mine_keepNonempty, tally_move, tally_note,
        tally_keepNonempty, pending_note, pending_keepNonempty, Stage.inHand, Entry.drawnFrom,
        Entry.putUnder]
      by_cases same : giving.goalId = goalId
      · rw [if_pos same, if_pos same, Mine.amount_add, Mine.amount_settle, if_neg other, same]
        by_cases parked : HoldKey.unreleased = who
        · simp [parked]
          omega
        · simp [parked]
          omega
      · simp [same]
        omega
  | goalGone =>
    constructor
    · intro member
      rw [goals_move, goals_keepNonempty] at member
      have accounts := balanced.accounts member
      have other : giving.goalId ≠ goalId := by
        have missed := accounts.present call (state.calls.get?_mem thread call found)
        rw [stage] at missed
        simpa [Stage.missed] using missed
      exact accounts.settled giving .goalGone found stage
        ((state.mine giving.goalId).settle giving.amount) (fun same => absurd same other)
        (fun same => absurd same other) (.refreshing giving.goalId 0 giving.retry)
        (Stage.still_of_moving _ rfl)
    · exact fun who other => (balanced.backed who other).settled other giving found
        (.refreshing giving.goalId 0 giving.retry) (Stage.still_of_moving _ rfl)
  | given =>
    constructor
    · intro member
      rw [goals_move, goals_keepNonempty] at member
      have accounts := balanced.accounts member
      have enough := fun here => accounts.underway giving .given here found stage
      refine accounts.settled giving .given found stage
        ((state.mine giving.goalId).settle giving.amount) ?_ ?_
        (.refreshing giving.goalId giving.amount giving.retry) (Stage.still_of_moving _ rfl)
      · intro same
        rw [same, Mine.held_settle _ _ (enough same), stage, heldReservation]
        simp [Stage.unsettled, same]
      · intro same
        have inside := enough same
        rw [Mine.amount_settle, if_pos rfl, same]
        omega
    · exact fun who other => (balanced.backed who other).settled other giving found
        (.refreshing giving.goalId giving.amount giving.retry) (Stage.still_of_moving _ rfl)

theorem advance_balanced (balanced : state.Balanced goalId) (now : Time) (commits : Bool)
    (found : state.calls.get? thread = some call) :
    (state.advance thread now commits call.stage).Balanced goalId := by
  have calm : ∀ {reached : Stage}, call.stage = reached → reached.moving = false →
      state.Resting thread :=
    fun same quiet => resting found (same ▸ Stage.still_of_moving _ quiet)
  cases stage : call.stage with
  | looking goal cost holder =>
    unfold advance
    dsimp only
    split <;> exact balanced.move (calm stage rfl) _ (Stage.still_of_moving _ rfl)
  | reserving goal cost holder began =>
    exact reserve_balanced balanced goal cost holder began commits found stage
  | holding goal cost holder began verdict =>
    exact hold_balanced balanced goal cost holder began verdict found stage
  | remembering goal began verdict =>
    exact Balanced.move (balanced.cache (state.budgetCache.set ⟨goal, began, verdict⟩))
      (calm stage rfl) (.checked verdict) (Stage.still_of_moving _ rfl)
  | charging promptId amount =>
    exact chargeWork_balanced balanced promptId amount commits found stage
  | forgetting goal =>
    exact Balanced.move (balanced.cache (state.budgetCache.erase goal)) (calm stage rfl)
      (.charged true) (Stage.still_of_moving _ rfl)
  | taking goal who retry => exact take_balanced balanced goal who retry found stage
  | giving giving => exact give_balanced balanced giving commits found stage
  | settling giving written => exact settle_balanced balanced giving written found stage
  | refreshing goal returned retry =>
    exact Balanced.move (balanced.cache (state.budgetCache.erase goal)) (calm stage rfl) _
      (answer_still returned retry)
  | listing => exact balanced.move (calm stage rfl) _ (answer_still 0 _)
  | checked verdict => exact balanced
  | charged verdict => exact balanced
  | released returned => exact balanced

end Sections

structure Sound (state : State) : Prop where
  accounts : ∀ goalId ∈ state.goals.keys, state.Accounts goalId
  backed : ∀ goalId who, who ≠ .releasing → state.Backed goalId who

end State

open State

theorem begin_still (request : Request) : request.begin.Still := by
  apply Stage.still_of_moving
  cases request with
  | check goalId =>
    simp only [Request.begin]
    split <;> rfl
  | charge promptId => cases promptId <;> rfl
  | release => rfl
  | retry => rfl

variable (state : State)

theorem sound_iff : state.Sound ↔ ∀ goalId, state.Balanced goalId where
  mp sound goalId := ⟨sound.accounts goalId, sound.backed goalId⟩
  mpr balanced :=
    ⟨fun goalId => (balanced goalId).accounts, fun goalId => (balanced goalId).backed⟩

theorem step_sound (event : Event) (sound : state.Sound) : (step state event).Sound := by
  rw [sound_iff] at sound ⊢
  intro goalId
  have balanced := sound goalId
  cases event with
  | call thread request =>
    simp only [step]
    split
    next absent =>
      have resting : state.Resting thread := fun call here => by rw [absent] at here; cases here
      exact balanced.move resting _ (begin_still request)
    next call found =>
      split
      next answered =>
        -- A call that begins has nothing in hand, like the one it replaces.
        refine balanced.move (resting found (Stage.still_of_moving _ ?_)) _ (begin_still request)
        cases stage : call.stage <;> simp [stage, Stage.answered, Stage.moving] at answered ⊢
      · exact balanced
  | advance thread now commits =>
    simp only [step]
    split
    · exact balanced
    next call found => exact advance_balanced balanced now commits found

theorem charges_only (history : List Entry) (measure : Entry → Int)
    (charges : ∀ entry ∈ history, ∃ goalId amount, entry = .charged goalId amount)
    (zero : ∀ goalId amount, measure (.charged goalId amount) = 0) :
    (history.map measure).sum = 0 := by
  apply List.sum_eq_zero
  intro amount member
  obtain ⟨entry, here, rfl⟩ := List.mem_map.mp member
  obtain ⟨goalId, amount, rfl⟩ := charges entry here
  exact zero goalId amount

theorem Begins.sound (begins : state.Begins) : state.Sound := by
  have pending (weight : Stage → Int) : state.pending weight = 0 := by
    simp [State.pending, Table.total, begins.calls]
  have mine (goalId : String) : state.mine goalId = Table.empty Hold.who := by
    have absent : state.heldReservations.get? goalId = none := by
      rw [Table.get?_none, Table.keys, begins.holds]
      simp
    simp [State.mine, absent]
  have other (measure : Entry → Int)
      (zero : ∀ goalId amount, measure (.charged goalId amount) = 0) : state.tally measure = 0 :=
    charges_only state.history measure begins.charges zero
  constructor
  · intro goalId member
    obtain ⟨goal, found⟩ := (Table.mem_keys state.goals goalId).mp member
    have named := state.goals.get?_key goalId goal found
    obtain ⟨nonneg, within, charged⟩ := begins.goals goal (state.goals.get?_mem goalId goal found)
    constructor
    · refine ⟨goal, found, ?_, nonneg, within⟩
      rw [other (Entry.reservedFor goalId) fun _ _ => rfl,
        other (Entry.returnedFor goalId) fun _ _ => rfl, charged, named]
      omega
    · rw [pending, pending, heldReservation, mine, other (Entry.reservedFor goalId) fun _ _ => rfl,
        other (Entry.returnedFor goalId) fun _ _ => rfl]
      rfl
    · rw [pending, pending, mine]
      rfl
    · rw [begins.calls]
      simp
  · intro goalId who _
    unfold Backed
    rw [pending, mine, other (Entry.drawnFrom goalId who) fun _ _ => rfl,
      other (Entry.putUnder goalId who) fun _ _ => rfl]
    exact le_rfl

theorem run_sound (start : State) (begins : start.Begins) (run : List Event) :
    (final step start run).Sound :=
  final_of_invariant step State.Sound (fun _ _ => True)
    (fun state event sound _ => step_sound state event sound) run start
    (Begins.sound start begins) (along_of_forall step (fun _ => True) run (fun _ _ => trivial) start)

/-- What a goal's Spark obeys: with no call in progress the row is what work was charged
and what is held; a release gives back what its holder reserved and what earlier releases
of the goal had to park, and all of them together no more than was reserved. -/
structure Conserved (state : State) : Prop where
  spent : state.Quiet → ∀ goal ∈ state.goals.rows,
    goal.sparkSpent = state.tally (Entry.chargedFor goal.id) + state.heldReservation goal.id ∧
      0 ≤ goal.sparkSpent ∧ goal.sparkSpent ≤ goal.sparkBudget
  own : ∀ goalId holder, state.tally (Entry.drawnFrom goalId (.holder holder)) ≤
    state.tally (Entry.putUnder goalId (.holder holder))
  parked : ∀ goalId, state.tally (Entry.drawnFrom goalId .unreleased) ≤
    state.tally (Entry.putUnder goalId .unreleased)
  whole : ∀ goal ∈ state.goals.rows, state.tally (Entry.returnedFor goal.id) ≤
    state.tally (Entry.reservedFor goal.id)

theorem Quiet.pending (quiet : state.Quiet) (weight : Stage → Int)
    (zero : ∀ stage : Stage, stage.Still → weight stage = 0) : state.pending weight = 0 := by
  apply Table.total_eq_zero
  intro call member
  apply zero
  apply Stage.still_of_moving
  have answered := quiet call member
  cases stage : call.stage <;> simp [stage, Stage.answered, Stage.moving] at answered ⊢

theorem Backed.drawn (goalId : String) (who : HoldKey) (backed : state.Backed goalId who) :
    state.tally (Entry.drawnFrom goalId who) ≤ state.tally (Entry.putUnder goalId who) := by
  have hand := state.pending_nonneg _ (Stage.inHand_nonneg goalId who)
  unfold Backed at backed
  omega

theorem Sound.conserved (sound : state.Sound) : Conserved state where
  spent := by
    intro quiet goal member
    have present : goal.id ∈ state.goals.keys := List.mem_map_of_mem member
    obtain ⟨⟨row, found, spent, nonneg, within⟩, held, -, -⟩ := sound.accounts goal.id present
    have alike : row = goal := by
      rw [state.goals.mem_get? goal member] at found
      exact (Option.some.inj found).symm
    subst alike
    rw [Quiet.pending state quiet _ fun _ still => still.unheld row.id,
      Quiet.pending state quiet _ fun _ still => still.unsettled row.id] at held
    omega
  own := fun goalId holder =>
    Backed.drawn state goalId (.holder holder) (sound.backed goalId (.holder holder) (by simp))
  parked := fun goalId =>
    Backed.drawn state goalId .unreleased (sound.backed goalId .unreleased (by simp))
  whole := by
    intro goal member
    have accounts := sound.accounts goal.id (List.mem_map_of_mem member)
    have unheld := state.pending_nonneg _ (Stage.unheld_nonneg goal.id)
    have ungiven := state.pending_nonneg _ (Stage.ungiven_nonneg goal.id)
    have inside := Mine.amount_le_held (state.mine goal.id) .releasing
    have releasing := accounts.releasing
    have held := accounts.held
    rw [heldReservation] at held
    omega

theorem goal_spark_conserved (start : State) (begins : start.Begins) (run : List Event) :
    Conserved (final step start run) :=
  Sound.conserved _ (run_sound start begins run)

def freshGoal : State :=
  { goals := (Table.empty AgentGoal.id).set ⟨"goal", some "7", true, 100, 0⟩
    heldReservations := Table.empty GoalHolds.goalId
    budgetCache := Table.empty CacheEntry.goalId
    calls := Table.empty Call.thread
    history := [] }

def nextTurn : Time := seconds 20

def parkedRelease : List Event :=
  [.call 1 (.check (some "goal") 4 (some "turn 1")), .advance 1 0 true, .advance 1 0 true,
    .advance 1 0 true, .advance 1 0 true, .call 1 (.release "goal" (some "turn 1")),
    .advance 1 0 true, .advance 1 0 false, .advance 1 0 true,
    .call 2 (.check (some "goal") 2 (some "turn 2")), .advance 2 nextTurn true,
    .advance 2 nextTurn true, .advance 2 nextTurn true, .advance 2 nextTurn true,
    .call 2 (.release "goal" (some "turn 2")), .advance 2 nextTurn true,
    .advance 2 nextTurn true, .advance 2 nextTurn true, .advance 2 nextTurn true]

theorem freshGoal_begins : freshGoal.Begins where
  calls := rfl
  holds := rfl
  charges := by simp [freshGoal]
  goals := by decide +kernel

theorem goal_spark_conserved_parked : Conserved (final step freshGoal parkedRelease) :=
  goal_spark_conserved freshGoal freshGoal_begins parkedRelease

theorem release_gives_back_more_than_reserved :
    freshGoal.Begins ∧ (final step freshGoal parkedRelease).Quiet ∧
      (final step freshGoal parkedRelease).tally (Entry.putUnder "goal" (.holder "turn 2")) = 2 ∧
      (final step freshGoal parkedRelease).tally (Entry.returnedBy "goal" "turn 2") = 6 :=
  ⟨freshGoal_begins, by decide +kernel, by decide +kernel, by decide +kernel⟩

end Hartos.BudgetGate
