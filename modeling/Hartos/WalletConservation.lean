import Hartos.Resonance

/-!
A wallet's spark through any interleaving of sessions. Spends and awards meet on one
row; the two agree as long as each award writes over the value it had read.
-/
namespace Hartos.Resonance
open SharedRow StepSystem

def sparkMoved (transactions : List ResonanceTransaction) : Int :=
  (transactions.map fun row => if row.currency = .spark then row.amount else 0).sum

structure Balanced (initial : Int) (state : State) : Prop where
  spark : state.row.committed.spark = initial + state.awarded - state.spent
  solvent : 0 ≤ state.row.committed.spark
  ledger : state.row.committed.spark = initial + sparkMoved state.ledger

def Session.readStands (session : Session) (stored : ResonanceWallet) : Bool :=
  match session.stage, session.wallet with
  | .flushing _, some wallet =>
      decide (wallet.current.spark = wallet.original.spark) ||
        decide (stored.spark = wallet.original.spark)
  | _, _ => true

def ReadStands (state : State) : Event → Prop
  | .advance session => state.row.free session = true →
      (state.sessions session).readStands (state.row.seen session) = true
  | _ => True

instance (state : State) : (event : Event) → Decidable (ReadStands state event)
  | .advance session => inferInstanceAs (Decidable (state.row.free session = true →
      (state.sessions session).readStands (state.row.seen session) = true))
  | .begin _ _ _ => .isTrue trivial
  | .lock _ => .isTrue trivial
  | .commit _ => .isTrue trivial
  | .close _ => .isTrue trivial

namespace Session

def unwritten (session : Session) : Int :=
  match session.wallet with
  | none => 0
  | some wallet => wallet.current.spark - wallet.original.spark

def moved (session : Session) : Int := session.awarded - session.spent - session.unwritten

def unlogged (session : Session) : Int :=
  match session.stage with
  | .refreshing amount _ true => amount
  | _ => 0

structure Sound (session : Session) : Prop where
  logged : sparkMoved session.transactions = session.awarded - session.spent + session.unlogged
  written : (∀ levels, session.stage ≠ .flushing levels) → session.unwritten = 0
  solvent : ∀ wallet, session.wallet = some wallet → 0 ≤ wallet.current.spark

end Session

structure Kept (initial : Int) (state : State) : Prop where
  row : Follows ResonanceWallet.spark state.row (initial + state.awarded - state.spent)
    (fun session => (state.sessions session).moved)
  sessions : ∀ session, (state.sessions session).Sound
  solvent : ∀ session, 0 ≤ (state.row.seen session).spark
  committed : 0 ≤ state.row.committed.spark
  ledger : sparkMoved state.ledger = state.awarded - state.spent

theorem sparkMoved_append (first second : List ResonanceTransaction) :
    sparkMoved (first ++ second) = sparkMoved first + sparkMoved second := by
  simp [sparkMoved]

theorem sparkMoved_single (row : ResonanceTransaction) :
    sparkMoved [row] = if row.currency = .spark then row.amount else 0 := by
  simp [sparkMoved]

variable (xpForLevel : Int → Int) (initial : Int) (state : State)

theorem checkLevelUp_spark (fuel : Nat) (wallet : ResonanceWallet) :
    (checkLevelUp xpForLevel fuel wallet).spark = wallet.spark := by
  induction fuel generalizing wallet with
  | zero => rfl
  | succ fuel ih =>
    unfold checkLevelUp
    split
    · rw [ih]
    · rfl

section Steps
variable {initial : Int} {state : State} {session : Nat}

section

variable (kept : Kept initial state)
include kept

theorem Kept.keep (next : Session) (sound : next.Sound)
    (moved : next.moved = (state.sessions session).moved) :
    Kept initial (state.keep session next) where
  row := by
    have same : (fun other => (Function.update state.sessions session next other).moved) =
        fun other => (state.sessions other).moved := by
      funext other
      by_cases here : other = session
      · subst here
        rw [Function.update_self, moved]
      · rw [Function.update_of_ne here]
    exact same ▸ kept.row
  sessions := by
    intro other
    by_cases here : other = session
    · subst here
      simpa [State.keep] using sound
    · simpa [State.keep, Function.update_of_ne here] using kept.sessions other
  solvent := kept.solvent
  committed := kept.committed
  ledger := kept.ledger

theorem Kept.write (free : state.row.free session = true) (value : ResonanceWallet)
    (solvent : 0 ≤ value.spark) (next : Session) (sound : next.Sound)
    (moved : next.moved =
      (state.sessions session).moved + (value.spark - (state.row.seen session).spark)) :
    Kept initial ({ state with row := state.row.write session value }.keep session next) where
  row := by
    have wrote := kept.row.write session free value
      (value.spark - (state.row.seen session).spark) (by omega)
    have same : Function.update (fun other => (state.sessions other).moved) session
        ((state.sessions session).moved + (value.spark - (state.row.seen session).spark)) =
        fun other => (Function.update state.sessions session next other).moved := by
      funext other
      by_cases here : other = session
      · subst here
        rw [Function.update_self, Function.update_self, moved]
      · rw [Function.update_of_ne here, Function.update_of_ne here]
    exact same ▸ wrote
  sessions := by
    intro other
    by_cases here : other = session
    · subst here
      simpa [State.keep] using sound
    · simpa [State.keep, Function.update_of_ne here] using kept.sessions other
  solvent := by
    intro other
    by_cases here : session = other
    · simpa [State.keep, here] using solvent
    · simpa [State.keep, here] using kept.committed
  committed := kept.committed
  ledger := kept.ledger

theorem Kept.load (ready : (state.sessions session).stage = .ready) (fromMap : Bool) :
    (state.load session fromMap).current.spark = (state.load session fromMap).original.spark ∧
      0 ≤ (state.load session fromMap).current.spark := by
  have sound := kept.sessions session
  have solvent := kept.solvent session
  unfold State.load
  split
  · exact ⟨rfl, solvent⟩
  next wallet here =>
    have written := sound.written (by simp [ready])
    simp only [Session.unwritten, here] at written
    split
    · exact ⟨by omega, sound.solvent wallet here⟩
    · exact ⟨rfl, solvent⟩

theorem begin_kept (ready : (state.sessions session).stage = .ready) (fromMap : Bool)
    (operation : Operation) : Kept initial (state.begin session fromMap operation) := by
  have sound := kept.sessions session
  have logged := sound.logged
  have written := sound.written (by simp [ready])
  obtain ⟨same, solvent⟩ := kept.load ready fromMap
  simp only [Session.unlogged, ready] at logged
  cases operation with
  | awardPulse amount source =>
    refine kept.keep _ ⟨?_, by simp, ?_⟩ ?_
    · simp [sparkMoved_append, sparkMoved_single, logged, Session.unlogged]
    · rintro wallet ⟨rfl⟩
      exact solvent
    · simp only [Session.moved, Session.unwritten] at written ⊢
      omega
  | awardSpark amount source =>
    refine kept.keep _ ⟨?_, by simp, ?_⟩ ?_
    · simp only [sparkMoved_append, sparkMoved_single, logged, Session.unlogged, ↓reduceIte]
      omega
    · rintro wallet ⟨rfl⟩
      dsimp only
      omega
    · simp only [Session.moved, Session.unwritten] at written ⊢
      omega
  | awardXp amount source =>
    refine kept.keep _ ⟨?_, by simp, ?_⟩ ?_
    · simp [sparkMoved_append, sparkMoved_single, logged, Session.unlogged]
    · rintro wallet ⟨rfl⟩
      exact solvent
    · simp only [Session.moved, Session.unwritten] at written ⊢
      omega
  | spendSpark amount source =>
    refine kept.keep _ ⟨?_, ?_, ?_⟩ ?_
    · simpa [Session.unlogged] using logged
    · simp only [Session.unwritten]
      omega
    · rintro wallet ⟨rfl⟩
      exact solvent
    · simp only [Session.moved, Session.unwritten] at written ⊢
      omega

end

theorem flushed_spark (xpForLevel : Int → Int) (wallet : ResonanceWallet) (levels : Bool) :
    (State.flushed xpForLevel wallet levels).1.current.spark = wallet.spark ∧
      (State.flushed xpForLevel wallet levels).1.original.spark = wallet.spark := by
  unfold State.flushed
  split
  · exact ⟨checkLevelUp_spark _ _ _, rfl⟩
  · exact ⟨rfl, rfl⟩

theorem flushed_unlogged (xpForLevel : Int → Int) (wallet : ResonanceWallet) (levels : Bool)
    (session : Session) (next : Loaded) :
    Session.unlogged { session with
      wallet := some next, stage := (State.flushed xpForLevel wallet levels).2 } = 0 := by
  unfold State.flushed
  split <;> rfl

/-- What a flush leaves in memory: the wallet as it was, and nothing unwritten. -/
theorem flushed_sound (sound : (state.sessions session).Sound) (xpForLevel : Int → Int)
    (levels : Bool) (flushing : (state.sessions session).stage = .flushing levels)
    (wallet : Loaded) (here : (state.sessions session).wallet = some wallet) :
    Session.Sound { state.sessions session with
      wallet := some (State.flushed xpForLevel wallet.current levels).1
      stage := (State.flushed xpForLevel wallet.current levels).2 } := by
  have spark := flushed_spark xpForLevel wallet.current levels
  constructor
  · rw [flushed_unlogged]
    have logged := sound.logged
    simp only [Session.unlogged, flushing] at logged
    exact logged
  · simp only [Session.unwritten]
    omega
  · rintro next ⟨rfl⟩
    have solvent := sound.solvent wallet here
    omega

section

variable (kept : Kept initial state)
include kept

theorem flush_kept (xpForLevel : Int → Int) (levels : Bool)
    (flushing : (state.sessions session).stage = .flushing levels)
    (stands : ReadStands state (.advance session)) :
    Kept initial (State.flush xpForLevel state session levels) := by
  have sound := kept.sessions session
  have seen := kept.solvent session
  unfold State.flush
  dsimp only
  split
  · exact kept
  next wallet here =>
    have solvent := sound.solvent wallet here
    have spark := flushed_spark xpForLevel wallet.current levels
    have next := flushed_sound sound xpForLevel levels flushing wallet here
    simp only [ReadStands, Session.readStands, flushing, here, Bool.or_eq_true,
      decide_eq_true_eq] at stands
    split
    next unchanged =>
      refine kept.keep _ next ?_
      simp only [Session.moved, Session.unwritten, here, unchanged] at spark ⊢
      omega
    split
    next free =>
      have merged : (wallet.merge (state.row.seen session)).spark =
          (state.row.seen session).spark + (wallet.current.spark - wallet.original.spark) := by
        have found := stands free
        simp only [Loaded.merge, column]
        split <;> omega
      refine kept.write free _ ?_ _ next ?_
      · rcases stands free with same | same <;> omega
      · simp only [Session.moved, Session.unwritten, here] at spark ⊢
        omega
    · exact kept

variable (amount : Nat) (source : Source)

theorem debit_kept (debiting : (state.sessions session).stage = .debiting amount source) :
    Kept initial (state.debit session amount source) := by
  have sound := kept.sessions session
  have logged := sound.logged
  have written := sound.written (by simp [debiting])
  simp only [Session.unlogged, debiting] at logged
  unfold State.debit
  dsimp only
  split
  next free =>
    split
    next enough =>
      refine kept.write free _ (by dsimp only; omega) _ ⟨?_, fun _ => written, sound.solvent⟩ ?_
      · simp only [logged, Session.unlogged]
        omega
      · simp only [Session.moved, Session.unwritten] at written ⊢
        omega
    · exact kept.keep _ ⟨by simpa [Session.unlogged] using logged, fun _ => written, sound.solvent⟩
        rfl
  · exact kept

theorem refresh_kept (debited : Bool)
    (refreshing : (state.sessions session).stage = .refreshing amount source debited) :
    Kept initial (state.refresh session amount source debited) := by
  have sound := kept.sessions session
  have logged := sound.logged
  have written := sound.written (by simp [refreshing])
  have seen := kept.solvent session
  unfold State.refresh
  split
  next done =>
    subst done
    simp only [Session.unlogged, refreshing] at logged
    refine kept.keep _ ⟨?_, by simp, ?_⟩ ?_
    · simp only [sparkMoved_append, sparkMoved_single, logged, Session.unlogged, ↓reduceIte]
      omega
    · rintro wallet ⟨rfl⟩
      exact seen
    · simp only [Session.moved, Session.unwritten] at written ⊢
      omega
  next refused =>
    have none : debited = false := by simpa using refused
    subst none
    simp only [Session.unlogged, refreshing] at logged
    refine kept.keep _ ⟨by simpa [Session.unlogged] using logged, ?_, ?_⟩ ?_
    · simp [Session.unwritten]
    · rintro wallet ⟨rfl⟩
      exact seen
    · simp only [Session.moved, Session.unwritten] at written ⊢
      omega

theorem lock_kept : Kept initial (state.lock session) := by
  unfold State.lock
  split
  next free =>
    have wrote := kept.write free (state.row.seen session) (kept.solvent session)
      (state.sessions session) (kept.sessions session) (by omega)
    simpa [State.keep] using wrote
  · exact kept

theorem commit_kept (ready : (state.sessions session).stage = .ready) :
    Kept initial (state.commit session) := by
  have sound := kept.sessions session
  have written := sound.written (by simp [ready])
  have logged := sound.logged
  have ledger := kept.ledger
  simp only [Session.unlogged, ready] at logged
  have settled : (state.sessions session).moved =
      (state.sessions session).awarded - (state.sessions session).spent := by
    rw [Session.moved, written]
    omega
  constructor
  · have row := kept.row.commit session
    rw [settled] at row
    have same : Function.update (fun other => (state.sessions other).moved) session 0 =
        fun other => ((state.commit session).sessions other).moved := by
      funext other
      by_cases here : other = session
      · subst here
        simp only [State.commit, Function.update_self, Session.moved, Session.unwritten] at written ⊢
        omega
      · simp only [State.commit, Function.update_of_ne here]
    rw [same] at row
    have total : initial + ↑(state.commit session).awarded - ↑(state.commit session).spent =
        initial + state.awarded - state.spent +
          ((state.sessions session).awarded - (state.sessions session).spent : Int) := by
      simp only [State.commit]
      omega
    exact total ▸ row
  · intro other
    by_cases here : other = session
    · subst here
      simp only [State.commit, Function.update_self]
      exact ⟨by simp [sparkMoved, Session.unlogged, ready], fun _ => written, sound.solvent⟩
    · simpa [State.commit, Function.update_of_ne here] using kept.sessions other
  · intro other
    obtain ⟨reader, same⟩ := state.row.seen_commit session other
    exact same ▸ kept.solvent reader
  · exact kept.solvent session
  · simp only [State.commit, sparkMoved_append, ledger, logged]
    omega

theorem close_kept : Kept initial (state.close session) where
  row := by
    have row := kept.row.rollback session
    have same : Function.update (fun other => (state.sessions other).moved) session 0 =
        fun other => ((state.close session).sessions other).moved := by
      funext other
      by_cases here : other = session
      · subst here
        simp [State.close, State.keep, Session.moved, Session.unwritten, Session.fresh]
      · simp only [State.close, State.keep, Function.update_of_ne here]
    exact same ▸ row
  sessions := by
    intro other
    by_cases here : other = session
    · subst here
      simp only [State.close, State.keep, Function.update_self]
      exact ⟨rfl, fun _ => rfl, by simp [Session.fresh]⟩
    · simpa [State.close, State.keep, Function.update_of_ne here] using kept.sessions other
  solvent := by
    intro other
    have seen := state.row.seen_rollback session other
    rcases seen with same | same
    · exact le_of_le_of_eq kept.committed (congrArg ResonanceWallet.spark same.symm)
    · exact le_of_le_of_eq (kept.solvent other) (congrArg ResonanceWallet.spark same.symm)
  committed := by
    have same := state.row.committed_rollback session
    exact le_of_le_of_eq kept.committed (congrArg ResonanceWallet.spark same.symm)
  ledger := kept.ledger

end

end Steps

theorem step_kept (event : Event) (kept : Kept initial state) (stands : ReadStands state event) :
    Kept initial (step xpForLevel state event) := by
  cases event with
  | begin session fromMap operation =>
    simp only [step]
    split
    next ready => exact begin_kept kept ready fromMap operation
    · exact kept
  | advance session =>
    simp only [step, State.advance]
    split
    · exact kept
    next levels flushing => exact flush_kept kept xpForLevel levels flushing stands
    next amount source debiting => exact debit_kept kept amount source debiting
    next amount source debited refreshing =>
      exact refresh_kept kept amount source debited refreshing
  | lock session =>
    simp only [step]
    split
    · exact lock_kept kept
    · exact kept
  | commit session =>
    simp only [step]
    split
    next ready => exact commit_kept kept ready
    · exact kept
  | close session => exact close_kept kept

theorem opened_kept (wallet : ResonanceWallet) (solvent : 0 ≤ wallet.spark) :
    Kept wallet.spark (State.opened wallet) where
  row := ⟨by simp [State.opened], fun session => by
    simp [State.opened, Row.seen, Session.fresh, Session.moved, Session.unwritten]⟩
  sessions := fun session => ⟨rfl, fun _ => rfl, by simp [State.opened, Session.fresh]⟩
  solvent := fun session => solvent
  committed := solvent
  ledger := rfl

theorem Kept.balanced (kept : Kept initial state) :
    Balanced initial state where
  spark := kept.row.committed
  solvent := kept.committed
  ledger := by
    have row := kept.row.committed
    have ledger := kept.ledger
    omega

end Hartos.Resonance
