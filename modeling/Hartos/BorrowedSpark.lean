import Hartos.ComputeBorrowing
import Mathlib.Algebra.BigOperators.Group.List.Basic
import Mathlib.Algebra.Order.BigOperators.Group.List
import Mathlib.Algebra.Order.Group.Int

/-!
Whether a settlement transfers Spark. Nothing is ever taken from the debtor's side, so
the books balance exactly as long as no settlement credits anything that stays.
-/
namespace Hartos.Borrowing
open KeyedTable Metering StepSystem

def SparkRow.between (debtor creditor : String) (row : SparkRow) : Bool :=
  decide (row.debtorNodeId = debtor) && decide (row.creditorNodeId = creditor)

namespace Books

def moved (books : Books) (debtor creditor : String) : Int :=
  ((books.rows.filter (SparkRow.between debtor creditor)).map SparkRow.amount).sum

def credited (books : Books) (debtor creditor : String) : Int :=
  ((books.rows.filter (SparkRow.between debtor creditor)).map fun row => max 0 row.amount).sum

def opened (books : Books) (debtor creditor : String) : Int :=
  ((books.escrows.filter fun escrow =>
    decide (escrow.debtorNodeId = debtor) && decide (escrow.creditorNodeId = creditor)).map
      ComputeEscrow.opened).sum

end Books

/-- Settlement transfers Spark: the provider gains what the debtor's side loses, no more
than was put in escrow, each escrow is settled at most once, and nothing is credited
without one. -/
structure Transfers (books : Books) : Prop where
  balanced : ∀ debtor creditor, books.moved debtor creditor = 0
  bounded : ∀ debtor creditor, books.credited debtor creditor ≤ books.opened debtor creditor
  once : ∀ escrow ∈ books.escrows, escrow.settlements ≤ 1
  covered : ∀ row ∈ books.rows, row.escrowed = false → row.amount = 0

def AllTransfers (state : State) : Prop := Transfers state.committed ∧ Transfers state.session

/-- The award of a settlement does not stay: it raises, or a later part raises and rolls
the session back before anything of it was committed. -/
def State.undone (state : State) (debtor creditor : String) : Option Failure → Bool
  | none => false
  | some .award | some .update => true
  | some .pendingSum => !state.session.pendingBetween debtor creditor

def CreditsNothing (operators : String → Option String) (state : State) : Event → Prop
  | .settle debtor creditor sparkAmount _ failure =>
      operators creditor = none ∨ truncate sparkAmount = 0 ∨
        state.undone debtor creditor failure = true
  | _ => True

structure Sound (books : Books) : Prop where
  settled : ∀ escrow ∈ books.escrows,
    escrow.settlements = if escrow.status = .settled then 1 else 0
  opened : ∀ escrow ∈ books.escrows, 0 ≤ escrow.opened

def AllSound (state : State) : Prop := Sound state.committed ∧ Sound state.session

variable (debtor creditor : String) (amount : Int) (now : Time) (escrows : List ComputeEscrow)

theorem settleFirst_sound
    (settled : ∀ escrow ∈ escrows,
      escrow.settlements = if escrow.status = .settled then 1 else 0)
    (opened : ∀ escrow ∈ escrows, 0 ≤ escrow.opened) :
    ∀ escrow ∈ Books.settleFirst debtor creditor amount now escrows,
      (escrow.settlements = if escrow.status = .settled then 1 else 0) ∧ 0 ≤ escrow.opened := by
  induction escrows with
  | nil => simp [Books.settleFirst]
  | cons first rest ih =>
    have later := ih (fun escrow member => settled escrow (List.mem_cons_of_mem first member))
      (fun escrow member => opened escrow (List.mem_cons_of_mem first member))
    have count := settled first List.mem_cons_self
    have amounts := opened first List.mem_cons_self
    intro escrow member
    unfold Books.settleFirst at member
    split at member
    next hit =>
      have pending : first.status = .pending := by
        simp only [ComputeEscrow.between, Bool.and_eq_true, decide_eq_true_eq] at hit
        exact hit.2
      rcases List.mem_cons.mp member with rfl | tail
      · simp only [pending, reduceCtorEq, ↓reduceIte] at count
        simp [count, amounts]
      · have inside := List.mem_cons_of_mem first tail
        exact ⟨settled escrow inside, opened escrow inside⟩
    · rcases List.mem_cons.mp member with rfl | tail
      · exact ⟨count, amounts⟩
      · exact later escrow tail

/-- What was opened is not what was paid: a settlement leaves it. -/
theorem settleFirst_opened (one other : String) :
    (((Books.settleFirst debtor creditor amount now escrows).filter fun escrow =>
      decide (escrow.debtorNodeId = one) && decide (escrow.creditorNodeId = other)).map
        ComputeEscrow.opened).sum =
    ((escrows.filter fun escrow =>
      decide (escrow.debtorNodeId = one) && decide (escrow.creditorNodeId = other)).map
        ComputeEscrow.opened).sum := by
  induction escrows with
  | nil => rfl
  | cons first rest ih =>
    unfold Books.settleFirst
    split
    · simp only [List.filter_cons]
      split <;> simp
    · simp only [List.filter_cons]
      split
      · simp only [List.map_cons, List.sum_cons, ih]
      · exact ih

section Rows
variable (books : Books)
variable (row : SparkRow) (debtor creditor : String)

theorem moved_award :
    (books.award row).moved debtor creditor =
      books.moved debtor creditor + if row.between debtor creditor then row.amount else 0 := by
  simp only [Books.moved, Books.award, List.filter_append, List.filter_cons, List.filter_nil]
  split <;> simp

theorem credited_award :
    (books.award row).credited debtor creditor =
      books.credited debtor creditor + if row.between debtor creditor then max 0 row.amount else 0 := by
  simp only [Books.credited, Books.award, List.filter_append, List.filter_cons, List.filter_nil]
  split <;> simp

/-- An award of nothing keeps a transfer a transfer, and no other award does. -/
theorem transfers_award (before : Transfers books) :
    Transfers (books.award row) ↔ row.amount = 0 := by
  constructor
  · intro after
    have balanced := after.balanced row.debtorNodeId row.creditorNodeId
    rw [moved_award, before.balanced, if_pos (by simp [SparkRow.between])] at balanced
    omega
  · intro nothing
    constructor
    · intro debtor creditor
      rw [moved_award, before.balanced, nothing]
      simp
    · intro debtor creditor
      rw [credited_award, nothing]
      have bounded := before.bounded debtor creditor
      simp only [max_self, ite_self, add_zero]
      exact bounded
    · exact before.once
    · intro other member uncovered
      rcases List.mem_append.mp member with old | new
      · exact before.covered other old uncovered
      · rw [List.mem_singleton.mp new]
        exact nothing

theorem transfers_settleFirst (debtor creditor : String) (amount : Int) (now : Time)
    (sound : Sound books) :
    Transfers { books with
      escrows := Books.settleFirst debtor creditor amount now books.escrows } ↔
      Transfers books := by
  have settled := settleFirst_sound debtor creditor amount now books.escrows sound.settled
    sound.opened
  constructor
  · intro after
    refine ⟨after.balanced, ?_, ?_, after.covered⟩
    · intro one other
      have bounded := after.bounded one other
      rw [Books.opened, settleFirst_opened] at bounded
      exact bounded
    · intro escrow member
      rw [sound.settled escrow member]
      split <;> omega
  · intro before
    refine ⟨before.balanced, ?_, ?_, before.covered⟩
    · intro one other
      rw [Books.opened, settleFirst_opened]
      exact before.bounded one other
    · intro escrow member
      rw [(settled escrow member).1]
      split <;> omega

theorem Transfers.request (before : Transfers books) (escrow : ComputeEscrow)
    (unsettled : escrow.settlements = 0) (opened : 0 ≤ escrow.opened) :
    Transfers { books with escrows := books.escrows ++ [escrow] } := by
  refine ⟨before.balanced, ?_, ?_, before.covered⟩
  · intro debtor creditor
    have bounded := before.bounded debtor creditor
    simp only [Books.credited, Books.opened, List.filter_append, List.map_append,
      List.sum_append, List.filter_cons, List.filter_nil] at bounded ⊢
    split
    · simp only [List.map_cons, List.map_nil, List.sum_cons, List.sum_nil]
      omega
    · simpa using bounded
  · intro other member
    rcases List.mem_append.mp member with old | new
    · exact before.once other old
    · rw [List.mem_singleton.mp new, unsettled]
      omega

theorem Sound.request (sound : Sound books) (escrow : ComputeEscrow)
    (pending : escrow.status = .pending) (unsettled : escrow.settlements = 0)
    (opened : 0 ≤ escrow.opened) :
    Sound { books with escrows := books.escrows ++ [escrow] } := by
  constructor
  · intro other member
    rcases List.mem_append.mp member with old | new
    · exact sound.settled other old
    · rw [List.mem_singleton.mp new, unsettled, pending]
      rfl
  · intro other member
    rcases List.mem_append.mp member with old | new
    · exact sound.opened other old
    · rw [List.mem_singleton.mp new]
      exact opened

end Rows

theorem estimatedSpark_nonneg (resources : Resources) : 0 ≤ State.estimatedSpark resources := by
  unfold State.estimatedSpark
  omega

section Steps
variable {state : State}

theorem settleEscrow_sound (sound : AllSound state) (debtor creditor : String) (amount : Int)
    (now : Time) : AllSound (state.settleEscrow debtor creditor amount now) := by
  unfold State.settleEscrow
  split
  · have settled := settleFirst_sound debtor creditor amount now state.session.escrows
      sound.2.settled sound.2.opened
    have closed : Sound { state.session with
        escrows := Books.settleFirst debtor creditor amount now state.session.escrows } :=
      ⟨fun escrow member => (settled escrow member).1, fun escrow member => (settled escrow member).2⟩
    exact ⟨closed, closed⟩
  · exact sound

variable (operators : String → Option String)

theorem step_sound (state : State) (event : Event) (sound : AllSound state) :
    AllSound (step operators state event) := by
  cases event with
  | offer nodeId resources => exact sound
  | request nodeId taskType least now writes =>
    simp only [step, State.requestCompute]
    split
    · exact sound
    next offer _ =>
      split
      · have opened := Sound.request state.session sound.2
          { debtorNodeId := nodeId
            creditorNodeId := offer.nodeId
            requestId := s!"{nodeId}_{offer.nodeId}_{taskType}"
            taskType
            sparkAmount := State.estimatedSpark offer.resources
            status := .pending
            createdAt := now
            expiresAt := now + escrowPeriod
            settledAt := none
            opened := State.estimatedSpark offer.resources
            settlements := 0 } rfl rfl (estimatedSpark_nonneg offer.resources)
        exact ⟨opened, opened⟩
      · exact ⟨sound.1, sound.1⟩
  | settle debtor creditor sparkAmount now failure =>
    simp only [step, State.settleComputeDebt]
    split
    · exact sound
    next operator _ =>
      have awarded (row : SparkRow) :
          AllSound { state with session := state.session.award row } :=
        ⟨sound.1, ⟨sound.2.settled, sound.2.opened⟩⟩
      have settled := settleEscrow_sound (awarded ⟨operator, truncate sparkAmount, debtor,
        creditor, state.session.pendingBetween debtor creditor⟩) debtor creditor
        (truncate sparkAmount) now
      split
      · exact sound
      split
      · exact ⟨sound.1, sound.1⟩
      split
      · exact ⟨settled.1, settled.1⟩
      · exact settled
  | commit => exact ⟨sound.2, sound.2⟩
  | rollback => exact ⟨sound.1, sound.1⟩

/-- What a settlement leaves, when it does not raise before its escrow is looked up. -/
theorem settleEscrow_transfers (sound : AllSound state) (before : AllTransfers state)
    (row : SparkRow) (debtor creditor : String) (amount : Int) (now : Time) :
    AllTransfers (State.settleEscrow { state with session := state.session.award row } debtor
      creditor amount now) ↔ row.amount = 0 := by
  have award := transfers_award state.session row before.2
  have awarded : Sound (state.session.award row) := ⟨sound.2.settled, sound.2.opened⟩
  have close := transfers_settleFirst (state.session.award row) debtor creditor amount now awarded
  unfold State.settleEscrow
  split
  · exact and_self_iff.trans (close.trans award)
  · exact (and_iff_right before.1).trans award

theorem rollback_transfers (sound : AllSound state) (before : AllTransfers state) (row : SparkRow)
    (debtor creditor : String) (amount : Int) (now : Time) :
    AllTransfers (State.settleEscrow { state with session := state.session.award row } debtor
      creditor amount now).rollback ↔
        row.amount = 0 ∨ state.session.pendingBetween debtor creditor = false := by
  have award := transfers_award state.session row before.2
  have awarded : Sound (state.session.award row) := ⟨sound.2.settled, sound.2.opened⟩
  have close := transfers_settleFirst (state.session.award row) debtor creditor amount now awarded
  have pending : (state.session.award row).pendingBetween debtor creditor =
      state.session.pendingBetween debtor creditor := rfl
  unfold State.settleEscrow
  rw [pending]
  split
  next found =>
    simp only [found, Bool.true_eq_false, or_false]
    exact and_self_iff.trans (close.trans award)
  next missing =>
    have none : state.session.pendingBetween debtor creditor = false := by simpa using missing
    exact iff_of_true ⟨before.1, before.1⟩ (.inr none)

theorem settle_transfers (sound : AllSound state) (before : AllTransfers state)
    (debtor creditor : String) (sparkAmount : ℚ) (now : Time) (failure : Option Failure) :
    AllTransfers (step operators state (.settle debtor creditor sparkAmount now failure)) ↔
      CreditsNothing operators state (.settle debtor creditor sparkAmount now failure) := by
  have back : AllTransfers ⟨state.offers, state.requests, state.committed, state.committed⟩ :=
    ⟨before.1, before.1⟩
  simp only [step, State.settleComputeDebt, CreditsNothing]
  split
  next unknown => simpa [unknown] using before
  next operator known =>
    have settled := settleEscrow_transfers sound before
      ⟨operator, truncate sparkAmount, debtor, creditor,
        state.session.pendingBetween debtor creditor⟩ debtor creditor (truncate sparkAmount) now
    simp only [known, reduceCtorEq, false_or]
    cases failure with
    | none => simpa [State.undone] using settled
    | some failure =>
      cases failure with
      | award => simpa [State.undone] using before
      | update => simpa [State.undone, State.rollback] using back
      | pendingSum =>
        have rolled := rollback_transfers sound before
          ⟨operator, truncate sparkAmount, debtor, creditor,
            state.session.pendingBetween debtor creditor⟩ debtor creditor
          (truncate sparkAmount) now
        simpa [State.undone, or_comm] using rolled

end Steps

theorem step_transfers (operators : String → Option String) (state : State) (event : Event)
    (sound : AllSound state) (before : AllTransfers state) :
    AllTransfers (step operators state event) ↔ CreditsNothing operators state event := by
  cases event with
  | offer nodeId resources => exact iff_of_true before trivial
  | request nodeId taskType least now writes =>
    refine iff_of_true ?_ trivial
    simp only [step, State.requestCompute]
    split
    · exact before
    next offer _ =>
      split
      · have opened := Transfers.request state.session before.2
          { debtorNodeId := nodeId
            creditorNodeId := offer.nodeId
            requestId := s!"{nodeId}_{offer.nodeId}_{taskType}"
            taskType
            sparkAmount := State.estimatedSpark offer.resources
            status := .pending
            createdAt := now
            expiresAt := now + escrowPeriod
            settledAt := none
            opened := State.estimatedSpark offer.resources
            settlements := 0 } rfl (estimatedSpark_nonneg offer.resources)
        exact ⟨opened, opened⟩
      · exact ⟨before.1, before.1⟩
  | settle debtor creditor sparkAmount now failure =>
    exact settle_transfers operators sound before debtor creditor sparkAmount now failure
  | commit => exact iff_of_true ⟨before.2, before.2⟩ trivial
  | rollback => exact iff_of_true ⟨before.1, before.1⟩ trivial

theorem transfers_exactly_when_nothing_credited (operators : String → Option String)
    (spark : String → Int) (run : List Event) :
    Always (step operators) AllTransfers (State.fresh spark) run ↔
      Along (step operators) (CreditsNothing operators) (State.fresh spark) run := by
  have empty : Transfers ⟨spark, [], []⟩ :=
    ⟨fun _ _ => rfl, fun _ _ => le_rfl, by simp, by simp⟩
  have sound : Sound ⟨spark, [], []⟩ := ⟨by simp, by simp⟩
  exact always_iff_along (step operators) AllSound AllTransfers (CreditsNothing operators)
    (step_sound operators) (step_transfers operators) run (State.fresh spark) ⟨sound, sound⟩
    ⟨empty, empty⟩

def provider (nodeId : String) : Option String := if nodeId = "lender" then some "operator" else none

def settledOutOfNothing : List Event := [.settle "borrower" "lender" 5 0 none]

theorem settlement_creates_spark :
    ¬ AllTransfers (final (step provider) (State.fresh fun _ => 0) settledOutOfNothing) := by
  intro transfers
  have covered := transfers.2.covered ⟨"operator", 5, "borrower", "lender", false⟩ (by decide +kernel)
  exact absurd (covered rfl) (by decide)

end Hartos.Borrowing
