import Mathlib.Data.List.Sort
import Hartos.KeyedTable

/-!
The contest's leaderboard: the season's list is cut to a length and then ranked by a track's own
events.
-/
namespace Hartos.Contest
open KeyedTable

abbrev UserId := String

inductive ContestTrack where
  | digital
  | embodied
  | humanWellness
  deriving DecidableEq

def scoreWeights : ContestTrack → List String
  | .digital =>
      ["recipes_published", "agents_adopted", "benchmarks_proven", "season_spark",
       "ideas_submitted"]
  | .embodied =>
      ["robot_episodes_success", "robot_skills_registered", "gpu_hours_served", "season_spark",
       "ideas_submitted"]
  | .humanWellness =>
      ["wellness_outcomes_attested", "human_corrections_accepted", "benchmarks_proven",
       "season_spark", "ideas_submitted"]

def sourceTypes : List (String × String) :=
  [("recipes_published", "contest:recipe_published"),
   ("agents_adopted", "contest:agent_adopted"),
   ("benchmarks_proven", "contest:benchmark_proven"),
   ("robot_episodes_success", "contest:robot_episode_success"),
   ("robot_skills_registered", "contest:robot_skill_registered"),
   ("gpu_hours_served", "contest:gpu_hour_served"),
   ("wellness_outcomes_attested", "contest:wellness_outcome_attested"),
   ("human_corrections_accepted", "contest:human_correction_accepted"),
   ("ideas_submitted", "contest:idea_submitted")]

/-- `_track_event_source_types`: season Spark has none. -/
def trackEventSourceTypes (track : ContestTrack) : List String :=
  (scoreWeights track).filterMap fun key => sourceTypes.lookup key

structure ResonanceTransaction where
  userId : UserId
  currency : String
  sourceType : String
  amount : Option Int

structure Participant where
  userId : UserId
  username : String
  displayName : String
  seasonPulse : Int
  seasonSpark : Int
  deriving DecidableEq

def Participant.season (row : Participant) : Int := row.seasonPulse + row.seasonSpark

structure Season where
  rows : Table Participant.userId
  descending : rows.rows.Pairwise fun first second => second.season ≤ first.season

def Season.leaderboard (season : Season) (limit : Nat) : List Participant :=
  season.rows.rows.take limit

structure Entry where
  rank : Nat
  row : Participant
  score : Int
  track : ContestTrack
  deriving DecidableEq

def trackScore (transactions : List ResonanceTransaction) (track : ContestTrack)
    (userId : UserId) : Int :=
  max 0 ((transactions.filter fun transaction =>
    decide (transaction.userId = userId ∧ transaction.currency = "spark" ∧
      transaction.sourceType ∈ trackEventSourceTypes track)).foldl
    (fun total transaction => total + transaction.amount.getD 0) 0)

def getLeaderboard (season : Option Season) (transactions : List ResonanceTransaction)
    (track : ContestTrack) (limit : Nat) : List Entry :=
  match season with
  | none => []
  | some season =>
      let scored := (season.leaderboard limit).map fun row =>
        (row, trackScore transactions track row.userId)
      let enriched := scored.insertionSort fun first second => second.2 ≤ first.2
      (enriched.zipIdx 1).map fun place => ⟨place.2, place.1.1, place.1.2, track⟩

structure Best (season : Season) (score : UserId → Int) (limit : Nat) (board : List Entry) :
    Prop where
  length : board.length = min limit season.rows.rows.length
  members : ∀ entry ∈ board, entry.row ∈ season.rows.rows ∧ entry.score = score entry.row.userId
  ranks : board.map Entry.rank = List.range' 1 board.length
  ranked : board.Pairwise fun first second => second.score ≤ first.score
  top : ∀ row ∈ season.rows.rows, (∀ entry ∈ board, entry.row.userId ≠ row.userId) →
    ∀ entry ∈ board, score row.userId ≤ entry.score

def CutAgrees (season : Season) (score : UserId → Int) (limit : Nat) : Prop :=
  ∀ inside ∈ season.rows.rows.take limit, ∀ outside ∈ season.rows.rows.drop limit,
    score outside.userId ≤ score inside.userId

section Leaderboard

variable (season : Season) (transactions : List ResonanceTransaction) (track : ContestTrack)
  (limit : Nat)

theorem leaderboard_spec :
    ∃ ranking : List (Participant × Int),
      ranking.Perm ((season.leaderboard limit).map fun row =>
        (row, trackScore transactions track row.userId)) ∧
      ranking.Pairwise (fun first second => second.2 ≤ first.2) ∧
      getLeaderboard (some season) transactions track limit =
        (ranking.zipIdx 1).map fun place => ⟨place.2, place.1.1, place.1.2, track⟩ := by
  have total : Std.Total fun first second : Participant × Int => second.2 ≤ first.2 :=
    ⟨fun first second => Int.le_total second.2 first.2⟩
  have trans : IsTrans (Participant × Int) fun first second => second.2 ≤ first.2 :=
    ⟨fun _ _ _ left right => Int.le_trans right left⟩
  exact ⟨_, List.perm_insertionSort _ _, List.pairwise_insertionSort _ _, rfl⟩

-- On the list is who was in the cut, with the score of the track.
theorem mem_leaderboard (row : Participant) (score : Int) :
    (∃ entry ∈ getLeaderboard (some season) transactions track limit,
      entry.row = row ∧ entry.score = score) ↔
      row ∈ season.rows.rows.take limit ∧ score = trackScore transactions track row.userId := by
  obtain ⟨ranking, perm, -, is⟩ := leaderboard_spec season transactions track limit
  rw [is]
  constructor
  · rintro ⟨entry, member, rfl, rfl⟩
    obtain ⟨place, there, rfl⟩ := List.mem_map.mp member
    have inside := perm.mem_iff.mp (List.fst_mem_of_mem_zipIdx there)
    obtain ⟨other, among, same⟩ := List.mem_map.mp inside
    rw [← same]
    exact ⟨among, rfl⟩
  · rintro ⟨inside, rfl⟩
    have ranked := perm.mem_iff.mpr (List.mem_map_of_mem inside)
    rw [← List.zipIdx_map_fst 1 ranking] at ranked
    obtain ⟨place, there, same⟩ := List.mem_map.mp ranked
    exact ⟨_, List.mem_map_of_mem there, congrArg Prod.fst same, congrArg Prod.snd same⟩

/-- The list has the best of the track exactly when the season's cut keeps them. -/
theorem leaderboard_best_iff :
    Best season (trackScore transactions track) limit
        (getLeaderboard (some season) transactions track limit) ↔
      CutAgrees season (trackScore transactions track) limit := by
  have listed := mem_leaderboard season transactions track limit
  have unique := season.rows.unique
  rw [← List.take_append_drop limit season.rows.rows, List.map_append, List.nodup_append] at unique
  constructor
  · intro best inside among outside left
    obtain ⟨entry, member, row, score⟩ := (listed inside _).mpr ⟨among, rfl⟩
    rw [← score]
    apply best.top outside (List.mem_of_mem_drop left) _ entry member
    intro other there same
    have cut := ((listed other.row other.score).mp ⟨other, there, rfl, rfl⟩).1
    exact unique.2.2 _ (List.mem_map_of_mem cut) _ (List.mem_map_of_mem left) same
  · intro agrees
    obtain ⟨ranking, perm, order, is⟩ := leaderboard_spec season transactions track limit
    constructor
    · rw [is, List.length_map, List.length_zipIdx, perm.length_eq, List.length_map,
        Season.leaderboard, List.length_take]
    · intro entry member
      obtain ⟨cut, score⟩ := (listed entry.row entry.score).mp ⟨entry, member, rfl, rfl⟩
      exact ⟨List.mem_of_mem_take cut, score⟩
    · rw [is, List.map_map, List.length_map, List.length_zipIdx]
      exact List.zipIdx_map_snd 1 ranking
    · rw [is, List.pairwise_map]
      rw [← List.zipIdx_map_fst 1 ranking, List.pairwise_map] at order
      exact order
    · intro row member absent entry there
      obtain ⟨cut, score⟩ := (listed entry.row entry.score).mp ⟨entry, there, rfl, rfl⟩
      rw [score]
      rw [← List.take_append_drop limit season.rows.rows, List.mem_append] at member
      rcases member with inside | outside
      · obtain ⟨own, here, same, -⟩ := (listed row _).mpr ⟨inside, rfl⟩
        exact absurd (congrArg Participant.userId same) (absent own here)
      · exact agrees entry.row cut row outside

end Leaderboard

def twoUsers : Season where
  rows := ⟨[⟨"u1", "ann", "Ann", 100, 0⟩, ⟨"u2", "ben", "Ben", 0, 50⟩], by decide⟩
  descending := by decide

def oneRecipe : List ResonanceTransaction :=
  [⟨"u2", "spark", "contest:recipe_published", some 50⟩]

theorem recipe_left_out :
    ¬Best twoUsers (trackScore oneRecipe .digital) 1
      (getLeaderboard (some twoUsers) oneRecipe .digital 1) := by
  intro best
  have member : (⟨1, ⟨"u1", "ann", "Ann", 100, 0⟩, 0, .digital⟩ : Entry) ∈
      getLeaderboard (some twoUsers) oneRecipe .digital 1 := by decide +kernel
  have more := best.top ⟨"u2", "ben", "Ben", 0, 50⟩ (by decide) (by decide +kernel) _ member
  revert more
  decide +kernel

end Hartos.Contest
