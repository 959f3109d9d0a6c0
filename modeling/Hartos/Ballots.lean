import Mathlib.Data.List.Dedup

/-!
Counting ballots and counting voters. A list of ballots may hold several of one
voter; only where it does not are the two counts the same.
-/
namespace Ballots

universe u
variable {Voter : Type u} [DecidableEq Voter]

structure Ballot (Voter : Type u) where
  voter : Voter
  approves : Bool

def approvals (ballots : List (Ballot Voter)) : Nat := (ballots.filter Ballot.approves).length

def voters (ballots : List (Ballot Voter)) : List Voter := (ballots.map Ballot.voter).dedup

def supporters (ballots : List (Ballot Voter)) : List Voter :=
  (voters ballots).filter fun voter =>
    ballots.all fun ballot => decide (ballot.voter ≠ voter) || ballot.approves

structure Carried (quorum : Nat) (ballots : List (Ballot Voter)) : Prop where
  enough : quorum ≤ (voters ballots).length
  majority : (voters ballots).length < 2 * (supporters ballots).length

instance (quorum : Nat) (ballots : List (Ballot Voter)) : Decidable (Carried quorum ballots) :=
  decidable_of_iff (quorum ≤ (voters ballots).length ∧
      (voters ballots).length < 2 * (supporters ballots).length)
    ⟨fun both => ⟨both.1, both.2⟩, fun carried => ⟨carried.enough, carried.majority⟩⟩

section OneEach
variable {ballots : List (Ballot Voter)} (oneEach : (ballots.map Ballot.voter).Nodup)
include oneEach

theorem voters_oneEach : voters ballots = ballots.map Ballot.voter := List.dedup_eq_self.mpr oneEach

theorem all_approve_iff (ballot : Ballot Voter) (member : ballot ∈ ballots) :
    (ballots.all fun other => decide (other.voter ≠ ballot.voter) || other.approves) =
      ballot.approves := by
  rw [Bool.eq_iff_iff, List.all_eq_true]
  constructor
  · intro all
    simpa using all ballot member
  · intro approves other inside
    by_cases same : other.voter = ballot.voter
    · rw [List.inj_on_of_nodup_map oneEach inside member same]
      simp [approves]
    · simp [same]

theorem supporters_oneEach : (supporters ballots).length = approvals ballots := by
  rw [supporters, voters_oneEach oneEach, List.filter_map, List.length_map, approvals]
  congr 1
  apply List.filter_congr
  intro ballot member
  exact all_approve_iff oneEach ballot member

/-- With one ballot each, a majority of ballots is a majority of voters. -/
theorem carried_of_counts (quorum : Nat) (enough : quorum ≤ ballots.length)
    (majority : ballots.length < 2 * approvals ballots) : Carried quorum ballots := by
  constructor
  · rw [voters_oneEach oneEach, List.length_map]
    exact enough
  · rw [voters_oneEach oneEach, List.length_map, supporters_oneEach oneEach]
    exact majority

end OneEach

end Ballots
