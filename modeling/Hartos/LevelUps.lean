import Hartos.Resonance
import Hartos.Staircase
import Mathlib.Algebra.Order.Ring.Int

/-!
Levels from experience points. An award adds points and then climbs, one level a round,
as long as the points of the next level are there; where a wallet ends depends on the
points alone and not on how they were handed out.
-/
namespace Hartos.Resonance
open Staircase

structure UserLevel where
  level : Int
  levelTitle : String
  deriving DecidableEq

structure Account where
  wallet : ResonanceWallet
  user : Option UserLevel
  transactions : List ResonanceTransaction
  deriving DecidableEq

structure Awarded where
  xp : Int
  level : Int
  levelTitle : String
  leveledUp : Bool
  deriving DecidableEq

structure Award where
  amount : Nat
  source : Source
  deriving DecidableEq

def ResonanceWallet.raise (wallet : ResonanceWallet) (amount : Nat) : ResonanceWallet :=
  { wallet with xp := wallet.xp + amount }

section Award
variable (xpForLevel : Int → Int)

/-- `_check_level_up`, with what it answers. The user's row follows a level gained. -/
def levelUp (account : Account) : Bool × Account :=
  let wallet := checkLevelUp xpForLevel (account.wallet.xp.toNat + 1) account.wallet
  let leveled := decide (account.wallet.xp ≥ account.wallet.xpNextLevel)
  (leveled,
    { account with
      wallet
      user := if leveled then account.user.map fun _ => ⟨wallet.level, wallet.levelTitle⟩
        else account.user })

def awardXp (account : Account) (award : Award) : Awarded × Account :=
  let wallet := account.wallet.raise award.amount
  let (leveledUp, after) := levelUp xpForLevel
    { account with
      wallet
      transactions := account.transactions ++ [⟨.xp, award.amount, wallet.xp, award.source⟩] }
  (⟨after.wallet.xp, after.wallet.level, after.wallet.levelTitle, leveledUp⟩, after)

def awardEach (account : Account) (awards : List Award) : Account :=
  awards.foldl (fun account award => (awardXp xpForLevel account award).2) account

def threshold (wallet : ResonanceWallet) (index : Nat) : Int :=
  if index = 0 then wallet.xpNextLevel else xpForLevel (wallet.level + index + 1)

def climbed (wallet : ResonanceWallet) (levels : Nat) (xp : Int) : ResonanceWallet :=
  { wallet with
    xp
    level := wallet.level + levels
    levelTitle := if levels = 0 then wallet.levelTitle else titleForLevel (wallet.level + levels)
    xpNextLevel := threshold xpForLevel wallet levels }

end Award

structure Settled (wallet : ResonanceWallet) : Prop where
  nonneg : 0 ≤ wallet.xp
  short : wallet.xp < wallet.xpNextLevel

def loopEnds (xpForLevel : Int → Int) (wallet : ResonanceWallet) : Prop :=
  ∀ more, checkLevelUp xpForLevel (wallet.xp.toNat + 1 + more) wallet =
    checkLevelUp xpForLevel (wallet.xp.toNat + 1) wallet

def keepsPoints (xpForLevel : Int → Int) (wallet after : ResonanceWallet) (awarded : Int) : Prop :=
  ∃ levels : Nat, after.level = wallet.level + levels ∧
    wallet.xp + awarded = height (threshold xpForLevel wallet) levels + after.xp

section Climb
variable {xpForLevel : Int → Int} {wallet : ResonanceWallet} {levels : Nat} {xp : Int}

theorem threshold_pos (positive : ∀ level, 0 < xpForLevel level) (settled : Settled wallet)
    (index : Nat) : 0 < threshold xpForLevel wallet index := by
  rw [threshold]
  split
  · exact lt_of_le_of_lt settled.nonneg settled.short
  · exact positive _

theorem climbed_zero (xp : Int) : climbed xpForLevel wallet 0 xp = { wallet with xp } := by
  rw [climbed, Nat.cast_zero, Int.add_zero]
  rfl

theorem checkLevelUp_climbed (fuel : Nat) (enough : threshold xpForLevel wallet levels ≤ xp) :
    checkLevelUp xpForLevel (fuel + 1) (climbed xpForLevel wallet levels xp) =
      checkLevelUp xpForLevel fuel (climbed xpForLevel wallet (levels + 1)
        (xp - threshold xpForLevel wallet levels)) := by
  have next : wallet.level + levels + 1 = wallet.level + (levels + 1 : Nat) := by
    rw [Nat.cast_succ, Int.add_assoc]
  have climbs : (climbed xpForLevel wallet levels xp).xp ≥
      (climbed xpForLevel wallet levels xp).xpNextLevel := enough
  rw [checkLevelUp, if_pos climbs]
  simp only [climbed, next, threshold, Nat.succ_ne_zero, if_false]

theorem checkLevelUp_short (fuel : Nat) (short : wallet.xp < wallet.xpNextLevel) :
    checkLevelUp xpForLevel fuel wallet = wallet := by
  cases fuel with
  | zero => rfl
  | succ fuel => rw [checkLevelUp, if_neg (not_le.mpr short)]

/-- The loop ends on the step that all the points reach. -/
theorem checkLevelUp_reaches (positive : ∀ level, 0 < xpForLevel level) (settled : Settled wallet)
    (fuel : Nat) (levels : Nat) (xp : Int) (nonneg : 0 ≤ xp) (enough : xp < fuel) :
    ∃ final, Reaches (threshold xpForLevel wallet)
        (height (threshold xpForLevel wallet) levels + xp) final ∧
      checkLevelUp xpForLevel fuel (climbed xpForLevel wallet levels xp) =
        climbed xpForLevel wallet final (height (threshold xpForLevel wallet) levels + xp -
          height (threshold xpForLevel wallet) final) := by
  induction fuel generalizing levels xp with
  | zero => exact absurd enough (not_lt.mpr nonneg)
  | succ fuel ih =>
    have taken := threshold_pos positive settled levels
    by_cases climbs : threshold xpForLevel wallet levels ≤ xp
    · obtain ⟨final, reaches, run⟩ := ih (levels + 1) (xp - threshold xpForLevel wallet levels)
        (Int.sub_nonneg_of_le climbs) (by omega)
      rw [height_succ, Int.add_assoc, add_sub_cancel] at reaches run
      exact ⟨final, reaches, (checkLevelUp_climbed fuel climbs).trans run⟩
    · have short : xp < threshold xpForLevel wallet levels := Int.lt_of_not_ge climbs
      refine ⟨levels, ⟨Int.le_add_of_nonneg_right nonneg, ?_⟩, ?_⟩
      · rw [height_succ]
        exact Int.add_lt_add_left short _
      · rw [add_sub_cancel_left]
        exact checkLevelUp_short _ short

end Climb

section Awards
variable {xpForLevel : Int → Int} {wallet : ResonanceWallet} {account : Account}

def Stands (xpForLevel : Int → Int) (wallet after : ResonanceWallet) (points : Int) : Prop :=
  ∃ levels, Reaches (threshold xpForLevel wallet) points levels ∧
    after = climbed xpForLevel wallet levels (points - height (threshold xpForLevel wallet) levels)

theorem Stands.start (settled : Settled wallet) : Stands xpForLevel wallet wallet wallet.xp := by
  refine ⟨0, ⟨settled.nonneg, ?_⟩, ?_⟩
  · rw [height_succ, height_zero, Int.zero_add]
    exact settled.short
  · rw [height_zero, Int.sub_zero, climbed_zero]

section

variable (positive : ∀ level, 0 < xpForLevel level) (settled : Settled wallet)
include positive settled

/-- With enough rounds the loop takes a raised wallet to where its points stand. -/
theorem Stands.climbs {after : ResonanceWallet} {points : Int}
    (stands : Stands xpForLevel wallet after points) (amount fuel : Nat)
    (enough : after.xp + amount < fuel) :
    ∃ final, Reaches (threshold xpForLevel wallet) (points + amount) final ∧
      checkLevelUp xpForLevel fuel (after.raise amount) = climbed xpForLevel wallet final
        (points + amount - height (threshold xpForLevel wallet) final) := by
  obtain ⟨levels, reaches, rfl⟩ := stands
  have left : 0 ≤ points - height (threshold xpForLevel wallet) levels + amount :=
    Int.add_nonneg reaches.rest.1 (Int.natCast_nonneg _)
  have climb := checkLevelUp_reaches positive settled fuel levels _ left enough
  rw [← Int.add_assoc, add_sub_cancel] at climb
  exact climb

theorem Stands.award {points : Int} (stands : Stands xpForLevel wallet account.wallet points)
    (award : Award) :
    Stands xpForLevel wallet (awardXp xpForLevel account award).2.wallet
      (points + award.amount) :=
  stands.climbs positive settled award.amount _
    (Int.lt_add_one_of_le (Int.self_le_toNat _))

theorem Stands.awards (awards : List Award) {points : Int}
    (stands : Stands xpForLevel wallet account.wallet points) :
    Stands xpForLevel wallet (awardEach xpForLevel account awards).wallet
      (points + (awards.map Award.amount).sum) := by
  induction awards generalizing account points with
  | nil =>
    rw [List.map_nil, List.sum_nil, Nat.cast_zero, Int.add_zero]
    exact stands
  | cons award rest ih =>
    rw [List.map_cons, List.sum_cons, Nat.cast_add, ← Int.add_assoc]
    exact ih (stands.award positive settled award)

end

variable {after : ResonanceWallet}

theorem Stands.settled {points : Int} (stands : Stands xpForLevel wallet after points) :
    Settled after := by
  obtain ⟨levels, reaches, rfl⟩ := stands
  exact ⟨reaches.rest.1, reaches.rest.2⟩

theorem Stands.keeps {awarded : Int}
    (stands : Stands xpForLevel wallet after (wallet.xp + awarded)) :
    keepsPoints xpForLevel wallet after awarded := by
  obtain ⟨levels, reaches, rfl⟩ := stands
  exact ⟨levels, rfl, (add_sub_cancel _ _).symm⟩

theorem Stands.loopEnds (positive : ∀ level, 0 < xpForLevel level) (settled : Settled wallet)
    {after : ResonanceWallet} {points : Int} (stands : Stands xpForLevel wallet after points)
    (amount : Nat) : loopEnds xpForLevel (after.raise amount) := by
  intro more
  have enough : after.xp + amount < (((after.raise amount).xp.toNat + 1 : Nat) : Int) :=
    Int.lt_add_one_of_le (Int.self_le_toNat _)
  have sooner := stands.climbs positive settled amount _ enough
  have later := stands.climbs positive settled amount ((after.raise amount).xp.toNat + 1 + more)
    (lt_of_lt_of_le enough (Int.ofNat_le.mpr (Nat.le_add_right _ _)))
  obtain ⟨final, reached, run⟩ := sooner
  obtain ⟨other, reached', run'⟩ := later
  rw [reached'.unique (threshold_pos positive settled) reached] at run'
  exact run'.trans run.symm

theorem Stands.unique (positive : ∀ level, 0 < xpForLevel level) (settled : Settled wallet)
    {first second : ResonanceWallet} {points : Int} (one : Stands xpForLevel wallet first points)
    (other : Stands xpForLevel wallet second points) : first = second := by
  obtain ⟨levels, reaches, rfl⟩ := one
  obtain ⟨others, reached, rfl⟩ := other
  rw [reaches.unique (threshold_pos positive settled) reached]

end Awards

/-- Awards with one total leave one wallet, however they are split. After every award the
wallet is short of its next level, no point is lost, and the loop has ended. -/
theorem awards_split_alike (xpForLevel : Int → Int) (positive : ∀ level, 0 < xpForLevel level)
    (account : Account) (settled : Settled account.wallet) :
    (∀ first second : List Award,
      (first.map Award.amount).sum = (second.map Award.amount).sum →
        (awardEach xpForLevel account first).wallet =
          (awardEach xpForLevel account second).wallet) ∧
    ∀ awards : List Award,
      Settled (awardEach xpForLevel account awards).wallet ∧
      keepsPoints xpForLevel account.wallet (awardEach xpForLevel account awards).wallet
        (awards.map Award.amount).sum ∧
      ∀ amount, loopEnds xpForLevel
        ((awardEach xpForLevel account awards).wallet.raise amount) := by
  have stands (awards : List Award) := (Stands.start settled).awards positive settled awards
  constructor
  · intro first second same
    have one := stands first
    rw [same] at one
    exact one.unique positive settled (stands second)
  · intro awards
    exact ⟨(stands awards).settled, (stands awards).keeps,
      (stands awards).loopEnds positive settled⟩

def exactXpForLevel (level : Int) : Int :=
  100 * 115 ^ (level - 1).toNat / 100 ^ (level - 1).toNat

theorem exactXpForLevel_pos (level : Int) : 0 < exactXpForLevel level := by
  have larger : (100 : Int) ^ (level - 1).toNat ≤ 115 ^ (level - 1).toNat :=
    pow_le_pow_left₀ (by decide) (by decide) _
  have below : (0 : Int) < 100 ^ (level - 1).toNat := pow_pos (by decide) _
  apply lt_of_lt_of_le Int.zero_lt_one
  apply (Int.le_ediv_iff_mul_le below).mpr
  rw [Int.one_mul]
  apply larger.trans
  exact le_mul_of_one_le_left (below.le.trans larger) (by decide)

def newcomer : Account :=
  ⟨⟨0, 0, 0, 1, "Newcomer", 0, 100, 0, 0⟩, some ⟨1, "Newcomer"⟩, []⟩

def oneAward : List Award := [⟨250, ⟨"onboarding", none, ""⟩⟩]

def threeAwards : List Award :=
  [⟨60, ⟨"create_post", none, ""⟩⟩, ⟨90, ⟨"create_post", none, ""⟩⟩,
    ⟨100, ⟨"referral_activated", none, ""⟩⟩]

theorem newcomer_awards_alike :
    (awardEach exactXpForLevel newcomer oneAward).wallet =
        (awardEach exactXpForLevel newcomer threeAwards).wallet ∧
      (awardEach exactXpForLevel newcomer threeAwards).wallet.levelTitle = "Contributor" ∧
      (awardEach exactXpForLevel newcomer threeAwards).wallet.xp = 18 :=
  have settled : Settled newcomer.wallet := ⟨by decide, by decide⟩
  ⟨(awards_split_alike exactXpForLevel exactXpForLevel_pos newcomer settled).1 oneAward threeAwards
    rfl, by decide +kernel, by decide +kernel⟩

end Hartos.Resonance
