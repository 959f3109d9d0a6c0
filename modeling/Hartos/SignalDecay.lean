import Hartos.KeyedTotals
import Hartos.Resonance
import Hartos.Task
import Mathlib.Algebra.Order.Ring.Rat
import Mathlib.Data.List.Pairwise

/-!
The decay of signal. A batch job takes a part of the signal of everyone who has been
inactive for more than a week, and writes the time of the run over the time of the last
activity. What a wallet has lost is told in days, as its ledger rows tell it; signal is
an exact number here.
-/
namespace Hartos.Resonance
open KeyedTable StepSystem

inductive SignalEntry where
  | awarded (amount balanceAfter : Rat) (source : Source)
  | decayed (days : Int) (amount balanceAfter : Rat)
  deriving DecidableEq

def SignalEntry.source : SignalEntry → Source
  | .awarded _ _ source => source
  | .decayed days _ _ => ⟨"decay", none, s!"{days}d inactivity decay"⟩

def SignalEntry.days : SignalEntry → Int
  | .awarded _ _ _ => 0
  | .decayed days _ _ => days

structure SignalWallet where
  userId : String
  signal : Rat
  signalLastDecay : Option Time
  createdAt : Time
  entries : List SignalEntry
  deriving DecidableEq

abbrev SignalWallets := Table SignalWallet.userId

def aDay : Time := seconds 86400

def wholeDays (span : Time) : Int := span / aDay

namespace SignalWallet
variable (now : Time) (wallet : SignalWallet)

def isDue : Bool :=
  decide (0 < wallet.signal) &&
    wallet.signalLastDecay.any fun last => decide (last < now - 7 * aDay)

def daysToDecay : Int :=
  max 0 (wholeDays (now - wallet.signalLastDecay.getD wallet.createdAt) - 7)

def decayAmount (days : Int) : Rat :=
  let decayRate : Rat := 1 / 500 * days
  wallet.signal * if decayRate ≤ 1 / 2 then decayRate else 1 / 2

def lose (days : Int) (now : Time) (wallet : SignalWallet) : SignalWallet :=
  let amount := wallet.decayAmount days
  let signal := if wallet.signal - amount < 0 then 0 else wallet.signal - amount
  { wallet with
    signal
    signalLastDecay := some now
    entries := wallet.entries ++ [.decayed days (-amount) signal] }

def decay : SignalWallet :=
  let days := wallet.daysToDecay now
  if wallet.isDue now && decide (days > 0) then wallet.lose days now else wallet

def award (amount : Rat) (source : Source) (now : Time) (wallet : SignalWallet) : SignalWallet :=
  { wallet with
    signal := wallet.signal + amount
    signalLastDecay := some now
    entries := wallet.entries ++ [.awarded amount (wallet.signal + amount) source] }

def decayedDays : Int :=
  (wallet.entries.map SignalEntry.days).sum

@[simp] theorem decay_userId : (wallet.decay now).userId = wallet.userId := by
  rw [decay]
  split <;> rfl

end SignalWallet

namespace SignalWallets
variable (wallets : SignalWallets)

def getOrCreate (userId : String) (now : Time) : SignalWallet :=
  (wallets.get? userId).getD ⟨userId, 0, none, now, []⟩

def awardSignal (userId : String) (amount : Rat) (source : Source) (now : Time) : SignalWallets :=
  wallets.set ((wallets.getOrCreate userId now).award amount source now)

def applySignalDecay (now : Time) : Nat × SignalWallets :=
  (wallets.rows.countP fun wallet => wallet.isDue now && decide (wallet.daysToDecay now > 0),
    wallets.mapRows (SignalWallet.decay now) (SignalWallet.decay_userId now))

end SignalWallets

inductive SignalEvent where
  | award (userId : String) (amount : Rat) (source : Source) (now : Time)
  | decayRun (now : Time)
  deriving DecidableEq

def SignalEvent.awards (userId : String) : SignalEvent → Bool
  | .award awarded _ _ _ => decide (awarded = userId)
  | .decayRun _ => false

def decayRuns (events : List SignalEvent) : List Time :=
  events.filterMap fun event =>
    match event with
    | .award _ _ _ _ => none
    | .decayRun now => some now

def signalStep (wallets : SignalWallets) : SignalEvent → SignalWallets
  | .award userId amount source now => wallets.awardSignal userId amount source now
  | .decayRun now => (wallets.applySignalDecay now).2

namespace SignalWallets

def decayedDays (wallets : SignalWallets) (userId : String) : Int :=
  ((wallets.get? userId).map SignalWallet.decayedDays).getD 0

def signalOf (wallets : SignalWallets) (userId : String) : Rat :=
  ((wallets.get? userId).map SignalWallet.signal).getD 0

end SignalWallets

def inactiveDays (awardedAt : Time) (runs : List Time) : Int :=
  wholeDays (runs.getLastD awardedAt - awardedAt)

def DecaysInFull (wallets : SignalWallets) (userId : String) (awardedAt : Time)
    (events : List SignalEvent) : Prop :=
  (final signalStep wallets events).decayedDays userId - wallets.decayedDays userId =
    max 0 (inactiveDays awardedAt (decayRuns events) - 7)

def OnOneDay (awardedAt : Time) (runs : List Time) : Prop :=
  ∀ run ∈ runs, 8 ≤ wholeDays (run - awardedAt) →
    wholeDays (run - awardedAt) = inactiveDays awardedAt runs

instance (wallets : SignalWallets) (userId : String) (awardedAt : Time)
    (events : List SignalEvent) : Decidable (DecaysInFull wallets userId awardedAt events) :=
  inferInstanceAs (Decidable (_ = _))

instance (awardedAt : Time) (runs : List Time) : Decidable (OnOneDay awardedAt runs) :=
  inferInstanceAs (Decidable (∀ run ∈ runs, _ → _))

theorem aDay_pos : 0 < aDay := by decide

theorem wholeDays_mono {first second : Time} (le : first ≤ second) :
    wholeDays first ≤ wholeDays second :=
  Int.ediv_le_ediv aDay_pos le

theorem wholeDays_nonneg {span : Time} (nonneg : 0 ≤ span) : 0 ≤ wholeDays span :=
  Int.ediv_nonneg nonneg aDay_pos.le

-- The days of two spans are among the days of both together.
theorem wholeDays_add_le (start middle last : Time) :
    wholeDays (middle - start) + wholeDays (last - middle) ≤ wholeDays (last - start) := by
  apply (Int.le_ediv_iff_mul_le aDay_pos).mpr
  rw [Int.add_mul]
  have first := Int.ediv_mul_le (middle - start) aDay_pos.ne'
  have second := Int.ediv_mul_le (last - middle) aDay_pos.ne'
  have both := Int.add_le_add first second
  rwa [sub_add_sub_cancel'] at both

def takenDays (last : Time) : List Time → Int
  | [] => 0
  | run :: later =>
      if 8 ≤ wholeDays (run - last) then wholeDays (run - last) - 7 + takenDays run later
      else takenDays last later

theorem takenDays_nonneg (last : Time) (runs : List Time) : 0 ≤ takenDays last runs := by
  induction runs generalizing last with
  | nil => exact Int.le_refl 0
  | cons run later ih =>
    rw [takenDays]
    split
    next whole => exact Int.add_nonneg (by omega) (ih run)
    next => exact ih last

theorem le_last {start : Time} {runs : List Time} (ordered : (start :: runs).Pairwise (· ≤ ·)) :
    ∀ run ∈ start :: runs, run ≤ runs.getLastD start := by
  induction runs generalizing start with
  | nil =>
    intro run member
    exact (List.mem_singleton.mp member).le
  | cons next later ih =>
    obtain ⟨before, rest⟩ := List.pairwise_cons.mp ordered
    rw [List.getLastD_cons]
    intro run member
    rcases List.mem_cons.mp member with rfl | member
    · exact (before next List.mem_cons_self).trans (ih rest next List.mem_cons_self)
    · exact ih rest run member

variable {last run : Time} {later : List Time} (wallets : SignalWallets) (userId : String)

-- A run within the first week leaves the schedule after it as it is.
theorem inactiveDays_skip (early : ¬ 8 ≤ wholeDays (run - last)) :
    max 0 (inactiveDays last (run :: later) - 7) = max 0 (inactiveDays last later - 7) := by
  cases later with
  | nil =>
    have none : inactiveDays last [] = 0 := by
      rw [inactiveDays, List.getLastD_nil, Int.sub_self]
      rfl
    have one : inactiveDays last [run] = wholeDays (run - last) := rfl
    omega
  | cons next others => rfl

theorem pairwise_skip (ordered : (last :: run :: later).Pairwise (· ≤ ·)) :
    (last :: later).Pairwise (· ≤ ·) :=
  ordered.sublist ((List.sublist_cons_self run later).cons_cons last)

theorem takenDays_le {last : Time} {runs : List Time}
    (ordered : (last :: runs).Pairwise (· ≤ ·)) :
    takenDays last runs ≤ max 0 (inactiveDays last runs - 7) := by
  induction runs generalizing last with
  | nil => exact le_max_left 0 _
  | cons run later ih =>
    rw [takenDays]
    split
    next whole =>
      have rest := (List.pairwise_cons.mp ordered).2
      have further := ih rest
      have parts := wholeDays_add_le last run (later.getLastD run)
      have after := wholeDays_nonneg
        (Int.sub_nonneg_of_le (le_last rest run List.mem_cons_self))
      rw [inactiveDays, List.getLastD_cons]
      rw [inactiveDays] at further
      omega
    next early =>
      rw [inactiveDays_skip early]
      exact ih (pairwise_skip ordered)

theorem onOneDay_skip (early : ¬ 8 ≤ wholeDays (run - last)) :
    OnOneDay last (run :: later) ↔ OnOneDay last later := by
  cases later with
  | nil => simp [OnOneDay, early]
  | cons next others =>
    have same : inactiveDays last (run :: next :: others) = inactiveDays last (next :: others) :=
      rfl
    rw [OnOneDay, List.forall_mem_cons, same]
    exact and_iff_right fun whole => absurd whole early

/-- A schedule takes all the days there are exactly when its runs past the first week are
all on the day of the last one. -/
theorem takenDays_iff {last : Time} {runs : List Time}
    (ordered : (last :: runs).Pairwise (· ≤ ·)) :
    takenDays last runs = max 0 (inactiveDays last runs - 7) ↔ OnOneDay last runs := by
  induction runs generalizing last with
  | nil =>
    have none : inactiveDays last [] = 0 := by
      rw [inactiveDays, List.getLastD_nil, Int.sub_self]
      rfl
    rw [none]
    exact iff_of_true rfl fun run member => absurd member List.not_mem_nil
  | cons run later ih =>
    by_cases whole : 8 ≤ wholeDays (run - last)
    · have rest := (List.pairwise_cons.mp ordered).2
      have latest := le_last rest
      have parts := wholeDays_add_le last run (later.getLastD run)
      have further := takenDays_le rest
      have some := takenDays_nonneg run later
      rw [inactiveDays] at further
      rw [takenDays, if_pos whole]
      constructor
      · intro all other member _
        rw [inactiveDays, List.getLastD_cons] at all ⊢
        -- the days since the first decay are a week short, so there are none
        have above := wholeDays_mono (Int.sub_le_sub_right (latest other member) last)
        have below : wholeDays (run - last) ≤ wholeDays (other - last) := by
          apply wholeDays_mono (Int.sub_le_sub_right _ last)
          rcases List.mem_cons.mp member with rfl | member
          · exact Int.le_refl _
          · exact (List.pairwise_cons.mp rest).1 other member
        omega
      · intro one
        have same := one run List.mem_cons_self whole
        rw [inactiveDays, List.getLastD_cons] at same ⊢
        omega
    · rw [takenDays, if_neg whole, inactiveDays_skip whole, onOneDay_skip whole]
      exact ih (pairwise_skip ordered)

theorem onOneDay_of_early {last : Time} {runs : List Time}
    (ordered : (last :: runs).Pairwise (· ≤ ·)) (early : inactiveDays last runs ≤ 7) :
    OnOneDay last runs := by
  intro run member whole
  have latest := le_last ordered run (List.mem_cons_of_mem _ member)
  have mono := wholeDays_mono (Int.sub_le_sub_right latest last)
  rw [inactiveDays] at early
  omega

namespace SignalWallet

structure Idle (wallet : SignalWallet) (last : Time) : Prop where
  signal : 0 < wallet.signal
  since : wallet.signalLastDecay = some last

variable {wallet : SignalWallet} {last now : Time}

theorem daysToDecay_of_since (since : wallet.signalLastDecay = some last) :
    wallet.daysToDecay now = max 0 (wholeDays (now - last) - 7) := by
  rw [daysToDecay, since]
  rfl

theorem decay_empty (empty : wallet.signal ≤ 0) : wallet.decay now = wallet := by
  rw [decay, isDue, decide_eq_false (not_lt.mpr empty)]
  rfl

theorem Idle.decay_early (idle : wallet.Idle last) (early : ¬ 8 ≤ wholeDays (now - last)) :
    wallet.decay now = wallet := by
  have none : ¬ wallet.daysToDecay now > 0 := by
    rw [daysToDecay_of_since idle.since]
    omega
  rw [decay, decide_eq_false none, Bool.and_false]
  rfl

theorem decayAmount_le_half (signal : 0 < wallet.signal) (days : Int) :
    wallet.decayAmount days ≤ wallet.signal * (1 / 2) := by
  apply mul_le_mul_of_nonneg_left _ signal.le
  split
  next small => exact small
  next => exact le_rfl

theorem Idle.due (idle : wallet.Idle last) (whole : 8 ≤ wholeDays (now - last)) :
    wallet.isDue now = true := by
  have span := (Int.le_ediv_iff_mul_le aDay_pos).mp whole
  have week : last + 7 * aDay < last + 8 * aDay :=
    Int.add_lt_add_left (Int.mul_lt_mul_of_pos_right (by decide) aDay_pos) last
  have before : last < now - 7 * aDay :=
    Int.lt_sub_right_of_add_lt (week.trans_le (Int.add_le_of_le_sub_left span))
  rw [isDue, idle.since, decide_eq_true idle.signal]
  exact decide_eq_true before

/-- A run past the first week takes the days, and inactivity begins anew. -/
theorem Idle.decay_whole (idle : wallet.Idle last) (whole : 8 ≤ wholeDays (now - last)) :
    (wallet.decay now).Idle now ∧
      (wallet.decay now).decayedDays = wallet.decayedDays + (wholeDays (now - last) - 7) := by
  have days : wallet.daysToDecay now = wholeDays (now - last) - 7 := by
    rw [daysToDecay_of_since idle.since]
    omega
  have half := decayAmount_le_half idle.signal (wholeDays (now - last) - 7)
  have left : 0 < wallet.signal - wallet.decayAmount (wholeDays (now - last) - 7) := by
    apply sub_pos.mpr
    apply lt_of_le_of_lt half
    exact mul_lt_of_lt_one_right idle.signal (by decide +kernel)
  have some : wholeDays (now - last) - 7 > 0 := by omega
  have loses : wallet.decay now = wallet.lose (wholeDays (now - last) - 7) now := by
    rw [decay, idle.due whole, days, decide_eq_true some]
    rfl
  rw [loses]
  constructor
  · constructor
    · rw [lose, if_neg (not_lt.mpr left.le)]
      exact left
    · rfl
  · rw [decayedDays, lose, List.map_append, List.sum_append, List.map_singleton, List.sum_singleton]
    rfl

def decays (wallet : SignalWallet) (runs : List Time) : SignalWallet :=
  runs.foldl (fun wallet run => wallet.decay run) wallet

theorem decays_empty (empty : wallet.signal ≤ 0) (runs : List Time) :
    wallet.decays runs = wallet := by
  induction runs with
  | nil => rfl
  | cons run later ih => rw [decays, List.foldl_cons, decay_empty empty]; exact ih

theorem Idle.decays (idle : wallet.Idle last) (runs : List Time) :
    (wallet.decays runs).decayedDays = wallet.decayedDays + takenDays last runs := by
  induction runs generalizing wallet last with
  | nil => exact (Int.add_zero _).symm
  | cons run later ih =>
    rw [SignalWallet.decays, List.foldl_cons, takenDays]
    split
    next whole =>
      obtain ⟨again, taken⟩ := idle.decay_whole whole
      rw [← Int.add_assoc, ← taken]
      exact ih again
    next early =>
      rw [idle.decay_early early]
      exact ih idle

end SignalWallet

theorem getOrCreate_userId (now : Time) : (wallets.getOrCreate userId now).userId = userId := by
  rw [SignalWallets.getOrCreate]
  cases found : wallets.get? userId with
  | none => rfl
  | some wallet => exact wallets.get?_key userId wallet found

theorem get?_award_other (userId other : String) (amount : Rat) (source : Source) (now : Time)
    (different : other ≠ userId) :
    (wallets.awardSignal other amount source now).get? userId = wallets.get? userId := by
  have named : ((wallets.getOrCreate other now).award amount source now).userId = other :=
    getOrCreate_userId wallets other now
  rw [SignalWallets.awardSignal, Table.get?_set, named, if_neg different]

theorem get?_award_self (amount : Rat) (source : Source) (now : Time) :
    ∃ wallet, (wallets.awardSignal userId amount source now).get? userId = some wallet ∧
      wallet.signalLastDecay = some now := by
  refine ⟨(wallets.getOrCreate userId now).award amount source now, ?_, rfl⟩
  rw [SignalWallets.awardSignal, Table.get?_set, if_pos]
  exact getOrCreate_userId wallets userId now

-- Without a signal of its own a wallet sees the runs of the job alone.
theorem get?_final (events : List SignalEvent)
    (silent : ∀ event ∈ events, event.awards userId = false) (wallets : SignalWallets) :
    (final signalStep wallets events).get? userId =
      (wallets.get? userId).map fun wallet => wallet.decays (decayRuns events) := by
  induction events generalizing wallets with
  | nil => exact Option.map_id'.symm
  | cons event rest ih =>
    obtain ⟨quiet, silent⟩ := List.forall_mem_cons.mp silent
    rw [final, ih silent]
    cases event with
    | award other amount source now =>
      rw [signalStep, get?_award_other _ _ _ _ _ _ (of_decide_eq_false quiet)]
      rfl
    | decayRun now =>
      rw [signalStep, SignalWallets.applySignalDecay, Table.get?_mapRows, Option.map_map]
      rfl

/-- A wallet that gets no signal loses all its days but the first week exactly when it
has signal and the runs past that week are all on the day of the last run, or none is. -/
theorem decays_in_full_iff (wallets : SignalWallets) (userId : String) (amount : Rat)
    (source : Source) (awardedAt : Time) (events : List SignalEvent)
    (silent : ∀ event ∈ events, event.awards userId = false)
    (ordered : (awardedAt :: decayRuns events).Pairwise (· ≤ ·)) :
    DecaysInFull (wallets.awardSignal userId amount source awardedAt) userId awardedAt events ↔
      inactiveDays awardedAt (decayRuns events) ≤ 7 ∨
        0 < (wallets.awardSignal userId amount source awardedAt).signalOf userId ∧
          OnOneDay awardedAt (decayRuns events) := by
  obtain ⟨wallet, here, since⟩ := get?_award_self wallets userId amount source awardedAt
  have after := get?_final userId events silent (wallets.awardSignal userId amount source awardedAt)
  rw [DecaysInFull, SignalWallets.decayedDays, SignalWallets.decayedDays, SignalWallets.signalOf,
    after, here]
  change (wallet.decays (decayRuns events)).decayedDays - wallet.decayedDays = _ ↔
    _ ∨ 0 < wallet.signal ∧ _
  by_cases signal : 0 < wallet.signal
  · rw [SignalWallet.Idle.decays ⟨signal, since⟩, add_sub_cancel_left, takenDays_iff ordered]
    constructor
    · exact fun one => Or.inr ⟨signal, one⟩
    · rintro (early | one)
      · exact onOneDay_of_early ordered early
      · exact one.2
  · rw [SignalWallet.decays_empty (not_lt.mp signal), Int.sub_self]
    constructor
    · intro none
      exact Or.inl (by omega)
    · rintro (early | one)
      · omega
      · exact absurd one.1 signal

def oneRun : List SignalEvent := [.decayRun (16 * aDay)]

def dailyRuns : List SignalEvent := (List.range 16).map fun day => .decayRun ((day + 1) * aDay)

def noWallets : SignalWallets := Table.empty SignalWallet.userId

def firstPost : Source := ⟨"create_post", none, "Earned for create_post"⟩

theorem one_run_decays_in_full :
    DecaysInFull (noWallets.awardSignal "ann" (1 / 100) firstPost 0) "ann" 0 oneRun :=
  (decays_in_full_iff noWallets "ann" (1 / 100) firstPost 0 oneRun (by decide) (by decide)).mpr
    (Or.inr (by decide +kernel))

/-- The daily job takes two days where one run takes nine. -/
theorem daily_runs_decay_less :
    ¬ ∀ (wallets : SignalWallets) (userId : String) (amount : Rat) (source : Source)
      (awardedAt : Time) (events : List SignalEvent),
      (∀ event ∈ events, event.awards userId = false) →
      (awardedAt :: decayRuns events).Pairwise (· ≤ ·) →
      DecaysInFull (wallets.awardSignal userId amount source awardedAt) userId awardedAt
        events := by
  intro always
  have daily := always noWallets "ann" (1 / 100) firstPost 0 dailyRuns (by decide) (by decide)
  revert daily
  decide +kernel

end Hartos.Resonance
