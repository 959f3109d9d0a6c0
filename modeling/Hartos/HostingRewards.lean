import Mathlib.Algebra.Order.Floor.Ring
import Mathlib.Data.Rat.Floor
import Hartos.StepSystem
import Hartos.Task

/-!
What a node is credited for. For the impressions it served and the metered usage it bore, a job takes
the rows of a window that slides with the clock, and marks none. For each day on which it is found
active, and for each number of agents that it comes to host, a job first looks for the reward row of
an earlier award.
-/
namespace Hartos.Hosting
open KeyedTable StepSystem

inductive Database where
  | sqlite
  | other
  deriving DecidableEq

/-- Whether a query finds a stored time at or after a bound. SQLite compares the texts, and its
CURRENT_TIMESTAMP writes no fraction where a bound has one: the bound's own second reads as before it. -/
def atOrAfter (database : Database) (bound createdAt : Time) : Bool :=
  match database with
  | .sqlite => decide (bound / 1000000 < createdAt / 1000000)
  | .other => decide (bound ≤ createdAt)

structure AdImpression where
  id : Nat
  nodeId : String
  createdAt : Time
  deriving DecidableEq

structure MeteredAPIUsage where
  id : Nat
  nodeId : String
  taskSource : String
  createdAt : Time
  tokensIn : Option Nat
  tokensOut : Option Nat
  actualUsdCost : Option ℚ
  deriving DecidableEq

structure PeerNode where
  nodeId : String
  nodeOperatorId : Option String
  totalInferences : Nat
  gpuHoursServed : ℚ
  meteredApiCostsAbsorbed : ℚ
  deriving DecidableEq

structure HostingReward where
  operatorId : String
  adImpressionsCount : Nat
  deriving DecidableEq

def operator? (nodeOperatorId : Option String) : Option String := nodeOperatorId.filter (· ≠ "")

structure State where
  database : Database
  peer : PeerNode
  impressions : Table AdImpression.id
  usages : Table MeteredAPIUsage.id
  rewards : List HostingReward
  paid : List AdImpression
  counted : List MeteredAPIUsage

def hours (n : Int) : Time := seconds (n * 3600)

/-- `round(number, 4)`: halves go to the even one. -/
def round4 (number : ℚ) : ℚ :=
  let below := ⌊number * 10000⌋
  let rest := number * 10000 - below
  let parts := if rest < 1 / 2 then below else if 1 / 2 < rest then below + 1
    else if below % 2 = 0 then below else below + 1
  parts / 10000

def total {Row : Type} (measure : Row → ℚ) (rows : List Row) : ℚ := (rows.map measure).sum

theorem total_append {Row : Type} (measure : Row → ℚ) (first second : List Row) :
    total measure (first ++ second) = total measure first + total measure second := by
  rw [total, List.map_append, List.sum_append]
  rfl

def gpuSecondsPer1kTokens : ℚ := 1

def MeteredAPIUsage.tokens (usage : MeteredAPIUsage) : ℚ :=
  ((usage.tokensIn.getD 0 + usage.tokensOut.getD 0 : Nat) : ℚ)

def MeteredAPIUsage.usd (usage : MeteredAPIUsage) : ℚ := usage.actualUsdCost.getD 0

def gpuHours (usages : List MeteredAPIUsage) : ℚ :=
  total MeteredAPIUsage.tokens usages / 1000 * gpuSecondsPer1kTokens / 3600

namespace State
variable (state : State)

def served (cutoff : Time) : List AdImpression :=
  state.impressions.rows.filter fun row =>
    decide (row.nodeId = state.peer.nodeId) && atOrAfter state.database cutoff row.createdAt

def metered (cutoff : Time) : List MeteredAPIUsage :=
  state.usages.rows.filter fun row =>
    decide (row.nodeId = state.peer.nodeId ∧ row.taskSource ≠ "own") &&
      atOrAfter state.database cutoff row.createdAt

def distributeAdRevenue (now : Time) : State :=
  match operator? state.peer.nodeOperatorId with
  | none => state
  | some operator =>
      let impressions := state.served (now - hours 24)
      if impressions = [] then state
      else
        { state with
          rewards := state.rewards ++ [⟨operator, impressions.length⟩]
          paid := state.paid ++ impressions }

def aggregateComputeStats (now : Time) (periodHours : Int) : State :=
  let usages := state.metered (now - hours periodHours)
  { state with
    peer :=
      { state.peer with
        totalInferences := state.peer.totalInferences + usages.length
        gpuHoursServed := round4 (state.peer.gpuHoursServed + gpuHours usages)
        meteredApiCostsAbsorbed :=
          round4 (state.peer.meteredApiCostsAbsorbed + total MeteredAPIUsage.usd usages) }
    counted := state.counted ++ usages }

end State

inductive Event where
  | impression (row : AdImpression)
  | usage (row : MeteredAPIUsage)
  | distributeAdRevenue (now : Time)
  | aggregateComputeStats (now : Time) (periodHours : Int)

def step (state : State) : Event → State
  | .impression row =>
      if (state.impressions.get? row.id).isSome then state
      else { state with impressions := state.impressions.set row }
  | .usage row =>
      if (state.usages.get? row.id).isSome then state
      else { state with usages := state.usages.set row }
  | .distributeAdRevenue now => state.distributeAdRevenue now
  | .aggregateComputeStats now periodHours => state.aggregateComputeStats now periodHours

def State.start (database : Database) (nodeId : String) (operator : Option String) : State :=
  ⟨database, ⟨nodeId, operator, 0, 0, 0⟩, Table.empty _, Table.empty _, [], [], []⟩

structure CountedOnce (state : State) : Prop where
  paid : state.paid.Nodup
  counted : state.counted.Nodup

def Apart (state : State) : Event → Prop
  | .distributeAdRevenue now =>
      ∀ row ∈ state.paid, atOrAfter state.database (now - hours 24) row.createdAt = false
  | .aggregateComputeStats now periodHours =>
      ∀ row ∈ state.counted,
        atOrAfter state.database (now - hours periodHours) row.createdAt = false
  | _ => True

def Unrounded (state : State) : Event → Prop
  | .aggregateComputeStats now periodHours =>
      let usages := state.metered (now - hours periodHours)
      round4 (state.peer.gpuHoursServed + gpuHours usages) =
          state.peer.gpuHoursServed + gpuHours usages ∧
        round4 (state.peer.meteredApiCostsAbsorbed + total MeteredAPIUsage.usd usages) =
          state.peer.meteredApiCostsAbsorbed + total MeteredAPIUsage.usd usages
  | _ => True

instance decidableApart (state : State) : (event : Event) → Decidable (Apart state event)
  | .impression _ | .usage _ => inferInstanceAs (Decidable True)
  | .distributeAdRevenue now => inferInstanceAs (Decidable
      (∀ row ∈ state.paid, atOrAfter state.database (now - hours 24) row.createdAt = false))
  | .aggregateComputeStats now periodHours => inferInstanceAs (Decidable
      (∀ row ∈ state.counted, atOrAfter state.database (now - hours periodHours) row.createdAt = false))

instance decidableUnrounded (state : State) : (event : Event) → Decidable (Unrounded state event)
  | .impression _ | .usage _ | .distributeAdRevenue _ => inferInstanceAs (Decidable True)
  | .aggregateComputeStats _ _ => inferInstanceAs (Decidable (_ ∧ _))

structure Sound (state : State) : Prop where
  paid : ∀ row ∈ state.paid, row ∈ state.impressions.rows ∧ row.nodeId = state.peer.nodeId
  operated : operator? state.peer.nodeOperatorId = none → state.paid = []
  counted : ∀ row ∈ state.counted, row ∈ state.usages.rows ∧
    row.nodeId = state.peer.nodeId ∧ row.taskSource ≠ "own"

theorem table_nodup {Row Key : Type*} [DecidableEq Key] {key : Row → Key} (table : Table key) :
    table.rows.Nodup :=
  table.unique.of_map

-- The rows of a window are new exactly if it begins after those that were used.
theorem nodup_window {Row : Type*} [DecidableEq Row] (own within : Row → Bool)
    {used rows : List Row} (nodup : rows.Nodup) (once : used.Nodup)
    (known : ∀ row ∈ used, row ∈ rows ∧ own row = true) :
    (used ++ rows.filter fun row => own row && within row).Nodup ↔
      ∀ row ∈ used, within row = false := by
  rw [List.nodup_append]
  constructor
  · rintro ⟨-, -, apart⟩ row member
    by_contra late
    obtain ⟨there, owned⟩ := known row member
    have again : row ∈ rows.filter fun row => own row && within row := by
      rw [List.mem_filter, owned, Bool.eq_true_of_not_eq_false late]
      exact ⟨there, rfl⟩
    exact apart row member row again rfl
  · intro early
    refine ⟨once, nodup.filter _, ?_⟩
    rintro row member _ again rfl
    have late := (Bool.and_eq_true_iff.mp (List.mem_filter.mp again).2).2
    exact Bool.noConfusion ((early row member).symm.trans late)

theorem mem_table_set {Row Key : Type*} [DecidableEq Key] {key : Row → Key} {table : Table key}
    {row other : Row} (fresh : ¬(table.get? (key other)).isSome = true) (member : row ∈ table.rows) :
    row ∈ (table.set other).rows := by
  rw [Table.mem_set]
  refine Or.inr ⟨member, ?_⟩
  intro same
  rw [← same, table.mem_get? row member] at fresh
  exact fresh rfl

section Steps

variable (state : State) (event : Event)

theorem sound_step (sound : Sound state) : Sound (step state event) := by
  cases event with
  | impression row =>
    rw [step]
    split
    · exact sound
    next fresh =>
      refine ⟨?_, sound.operated, sound.counted⟩
      intro other member
      obtain ⟨there, own⟩ := sound.paid other member
      exact ⟨mem_table_set fresh there, own⟩
  | usage row =>
    rw [step]
    split
    · exact sound
    next fresh =>
      refine ⟨sound.paid, sound.operated, ?_⟩
      intro other member
      obtain ⟨there, own⟩ := sound.counted other member
      exact ⟨mem_table_set fresh there, own⟩
  | distributeAdRevenue now =>
    rw [step, State.distributeAdRevenue]
    split
    · exact sound
    next operated =>
      dsimp only
      split
      · exact sound
      · refine ⟨?_, ?_, sound.counted⟩
        · intro row member
          rcases List.mem_append.mp member with before | new
          · exact sound.paid row before
          · obtain ⟨there, within⟩ := List.mem_filter.mp new
            exact ⟨there, of_decide_eq_true (Bool.and_eq_true_iff.mp within).1⟩
        · intro none
          change operator? state.peer.nodeOperatorId = Option.none at none
          rw [operated] at none
          cases none
  | aggregateComputeStats now periodHours =>
    refine ⟨sound.paid, sound.operated, ?_⟩
    intro row member
    rcases List.mem_append.mp member with before | new
    · exact sound.counted row before
    · obtain ⟨there, within⟩ := List.mem_filter.mp new
      exact ⟨there, of_decide_eq_true (Bool.and_eq_true_iff.mp within).1⟩

-- A job uses no row again exactly if its window begins after those it used.
theorem step_once_iff (sound : Sound state) (once : CountedOnce state) :
    CountedOnce (step state event) ↔ Apart state event := by
  have same (other : State) (paid : other.paid = state.paid)
      (counted : other.counted = state.counted) : CountedOnce other :=
    ⟨paid ▸ once.paid, counted ▸ once.counted⟩
  cases event with
  | impression row =>
    apply iff_of_true _ trivial
    rw [step]
    split
    · exact once
    · exact same _ rfl rfl
  | usage row =>
    apply iff_of_true _ trivial
    rw [step]
    split
    · exact once
    · exact same _ rfl rfl
  | distributeAdRevenue now =>
    have window := nodup_window (fun row => decide (row.nodeId = state.peer.nodeId))
      (fun row => atOrAfter state.database (now - hours 24) row.createdAt)
      (table_nodup state.impressions) once.paid
      fun row member => ⟨(sound.paid row member).1, decide_eq_true (sound.paid row member).2⟩
    change (state.paid ++ state.served (now - hours 24)).Nodup ↔ _ at window
    rw [Apart, ← window, step, State.distributeAdRevenue]
    split
    next absent =>
      rw [sound.operated absent, List.nil_append]
      exact iff_of_true once ((table_nodup state.impressions).filter _)
    next =>
      dsimp only
      split
      next nothing =>
        rw [nothing, List.append_nil]
        exact iff_of_true once once.paid
      next => exact ⟨fun after => after.paid, fun paid => ⟨paid, once.counted⟩⟩
  | aggregateComputeStats now periodHours =>
    have window := nodup_window
      (fun row => decide (row.nodeId = state.peer.nodeId ∧ row.taskSource ≠ "own"))
      (fun row => atOrAfter state.database (now - hours periodHours) row.createdAt)
      (table_nodup state.usages) once.counted
      fun row member => ⟨(sound.counted row member).1, decide_eq_true (sound.counted row member).2⟩
    change (state.counted ++ state.metered (now - hours periodHours)).Nodup ↔ _ at window
    rw [Apart, ← window]
    exact ⟨fun after => after.counted, fun counted => ⟨once.paid, counted⟩⟩

structure Totalled (state : State) : Prop where
  inferences : state.peer.totalInferences = state.counted.length
  hours : state.peer.gpuHoursServed = gpuHours state.counted
  costs : state.peer.meteredApiCostsAbsorbed = total MeteredAPIUsage.usd state.counted

theorem gpuHours_append (first second : List MeteredAPIUsage) :
    gpuHours (first ++ second) = gpuHours first + gpuHours second := by
  rw [gpuHours, total_append, add_div, add_mul, add_div]
  rfl

theorem step_totalled (totals : Totalled state) (unrounded : Unrounded state event) :
    Totalled (step state event) := by
  cases event with
  | impression row =>
    rw [step]
    split
    · exact totals
    · exact ⟨totals.inferences, totals.hours, totals.costs⟩
  | usage row =>
    rw [step]
    split
    · exact totals
    · exact ⟨totals.inferences, totals.hours, totals.costs⟩
  | distributeAdRevenue now =>
    rw [step, State.distributeAdRevenue]
    split
    · exact totals
    · dsimp only
      split
      · exact totals
      · exact ⟨totals.inferences, totals.hours, totals.costs⟩
  | aggregateComputeStats now periodHours =>
    constructor
    · change state.peer.totalInferences + _ = (state.counted ++ _).length
      rw [totals.inferences, List.length_append]
    · change round4 _ = gpuHours (state.counted ++ _)
      rw [unrounded.1, gpuHours_append, totals.hours]
    · change round4 _ = total MeteredAPIUsage.usd (state.counted ++ _)
      rw [unrounded.2, total_append, totals.costs]

end Steps

def PeerNode.totals (peer : PeerNode) : Nat × ℚ × ℚ :=
  (peer.totalInferences, peer.gpuHoursServed, peer.meteredApiCostsAbsorbed)

def TotalsAgree (start : State) (left right : List Event) : Prop :=
  Along step Apart start left → Along step Unrounded start left →
  Along step Apart start right → Along step Unrounded start right →
  (∀ row, row ∈ (final step start left).counted ↔ row ∈ (final step start right).counted) →
  (final step start left).peer.totals = (final step start right).peer.totals

section Schedules

variable (database : Database) (nodeId : String) (operator : Option String)

theorem counted_once_iff (run : List Event) :
    Always step CountedOnce (State.start database nodeId operator) run ↔
      Along step Apart (State.start database nodeId operator) run :=
  always_iff_along step Sound CountedOnce Apart sound_step step_once_iff run _
    ⟨fun _ member => (nomatch member), fun _ => rfl, fun _ member => (nomatch member)⟩
    ⟨List.nodup_nil, List.nodup_nil⟩

theorem run_totalled (run : List Event)
    (unrounded : Along step Unrounded (State.start database nodeId operator) run) :
    Totalled (final step (State.start database nodeId operator) run) := by
  apply final_of_invariant step Totalled Unrounded step_totalled run _ _ unrounded
  refine ⟨rfl, ?_, rfl⟩
  change (0 : ℚ) = 0 / 1000 * gpuSecondsPer1kTokens / 3600
  rw [zero_div, zero_mul, zero_div]

/-- No impression is paid for twice and no usage counted twice exactly in the schedules in which
every window begins after the rows that were used; and then, unless something is rounded, the
totals are those of the rows. -/
theorem rows_used_once_iff (left right : List Event) :
    (Always step CountedOnce (State.start database nodeId operator) left ↔
        Along step Apart (State.start database nodeId operator) left) ∧
      TotalsAgree (State.start database nodeId operator) left right := by
  refine ⟨counted_once_iff database nodeId operator left, ?_⟩
  intro leftApart leftUnrounded rightApart rightUnrounded same
  have leftOnce := always_final ((counted_once_iff database nodeId operator left).mpr leftApart)
  have rightOnce := always_final ((counted_once_iff database nodeId operator right).mpr rightApart)
  have perm := (List.perm_ext_iff_of_nodup leftOnce.counted rightOnce.counted).mpr same
  have leftTotals := run_totalled database nodeId operator left leftUnrounded
  have rightTotals := run_totalled database nodeId operator right rightUnrounded
  rw [PeerNode.totals, PeerNode.totals, leftTotals.inferences, leftTotals.hours, leftTotals.costs,
    rightTotals.inferences, rightTotals.hours, rightTotals.costs, perm.length_eq, gpuHours, total,
    total, (perm.map _).sum_eq, (perm.map _).sum_eq]
  rfl

end Schedules

/-- One impression, and two distributions an hour apart. -/
theorem impression_paid_twice :
    ¬Always step CountedOnce (State.start .sqlite "n1" (some "u1"))
      [.impression ⟨1, "n1", 0⟩, .distributeAdRevenue (hours 1), .distributeAdRevenue (hours 2)] := by
  rintro ⟨-, -, -, once⟩
  have paid := once.paid
  revert paid
  decide

/-- Two usages counted by one job, and by two jobs whose windows do not meet. -/
def countedTogether : List Event :=
  [.usage ⟨1, "n1", "goal", seconds 1, some 300, some 60, some (1 / 2)⟩,
    .usage ⟨2, "n1", "goal", hours 3, some 720, none, none⟩,
    .aggregateComputeStats (hours 4) 24]

def countedApart : List Event :=
  [.usage ⟨1, "n1", "goal", seconds 1, some 300, some 60, some (1 / 2)⟩,
    .aggregateComputeStats (hours 1) 1,
    .usage ⟨2, "n1", "goal", hours 3, some 720, none, none⟩,
    .aggregateComputeStats (hours 4) 2]

theorem totals_agree_apart :
    (final step (State.start .sqlite "n1" none) countedTogether).peer.totals =
      (final step (State.start .sqlite "n1" none) countedApart).peer.totals := by
  apply (rows_used_once_iff .sqlite "n1" none countedTogether countedApart).2
  · decide +kernel
  · decide +kernel
  · decide +kernel
  · decide +kernel
  · have same : (final step (State.start .sqlite "n1" none) countedTogether).counted =
        (final step (State.start .sqlite "n1" none) countedApart).counted := by decide +kernel
    intro row
    rw [same]

section Bonuses

inductive PeerStatus where
  | active
  | stale
  | dead
  deriving DecidableEq

structure PeerRow where
  status : PeerStatus
  nodeOperatorId : Option String
  lastSeen : Option Time
  agentCount : Nat

inductive Reason where
  | uptimeBonus
  | milestone (threshold : Nat)
  deriving DecidableEq

structure RewardRow where
  nodeId : String
  operatorId : String
  reason : Reason
  createdAt : Time
  deriving DecidableEq

def day (time : Time) : Int := time / 86400000000

def todayStart (now : Time) : Int := day now * 86400000000

def hostingMilestones : List Nat := [10, 50, 100, 500]

variable (database : Database) (rewards : List RewardRow)

def awarded (nodeId : String) (reason : Reason) (since : Time → Bool) : Bool :=
  rewards.any fun row =>
    decide (row.nodeId = nodeId) && decide (row.reason = reason) && since row.createdAt

/-- A job for one node: the row it reads, and the time that the database gives the reward. -/
structure Job where
  nodeId : String
  peer : Option PeerRow
  now : Time
  createdAt : Time

def distributeUptimeBonus (job : Job) : List RewardRow :=
  match job.peer with
  | none => rewards
  | some peer =>
    match operator? peer.nodeOperatorId with
    | none => rewards
    | some operator =>
      if peer.status ≠ .active then rewards
      else if peer.lastSeen.any fun seen => decide (job.now - seen > seconds 300) then rewards
      else if awarded rewards job.nodeId .uptimeBonus (atOrAfter database (todayStart job.now)) then
        rewards
      else rewards ++ [⟨job.nodeId, operator, .uptimeBonus, job.createdAt⟩]

def checkMilestone (job : Job) (operator : String) (agentCount : Nat) (rewards : List RewardRow)
    (threshold : Nat) : List RewardRow :=
  if agentCount ≥ threshold then
    if awarded rewards job.nodeId (.milestone threshold) fun _ => true then rewards
    else rewards ++ [⟨job.nodeId, operator, .milestone threshold, job.createdAt⟩]
  else rewards

def checkMilestones (job : Job) : List RewardRow :=
  match job.peer with
  | none => rewards
  | some peer =>
    match operator? peer.nodeOperatorId with
    | none => rewards
    | some operator => hostingMilestones.foldl (checkMilestone job operator peer.agentCount) rewards

inductive BonusEvent where
  | distributeUptimeBonus (job : Job)
  | checkMilestones (job : Job)

def bonusStep : BonusEvent → List RewardRow
  | .distributeUptimeBonus job => distributeUptimeBonus database rewards job
  | .checkMilestones job => checkMilestones rewards job

def RewardRow.mark (row : RewardRow) : String × Reason × Int :=
  (row.nodeId, row.reason, if row.reason = .uptimeBonus then day row.createdAt else 0)

/-- The later jobs of the day do not find this bonus. -/
def RewardRow.missed (row : RewardRow) : Bool :=
  decide (row.reason = .uptimeBonus) && !atOrAfter database (todayStart row.createdAt) row.createdAt

def AwardedOnce : Prop :=
  ((rewards.filter fun row => !row.missed database).map RewardRow.mark).Nodup

/-- The database's clock is not behind the day of the job. -/
def BonusEvent.Later : BonusEvent → Prop
  | .distributeUptimeBonus job => todayStart job.now ≤ job.createdAt
  | .checkMilestones _ => True

theorem awarded_false {rewards : List RewardRow} {nodeId : String} {reason : Reason}
    {since : Time → Bool} (none : awarded rewards nodeId reason since = false) :
    ∀ row ∈ rewards, row.nodeId = nodeId → row.reason = reason → since row.createdAt = false := by
  intro row member own same
  have unlike := List.any_eq_false.mp none row member
  simpa [own, same] using unlike

variable (database : Database) (job : Job) (operator : String) (agentCount : Nat)
  (rewards : List RewardRow) (threshold : Nat) (event : BonusEvent) (nodeId : String)

theorem AwardedOnce.add {rewards : List RewardRow} (once : AwardedOnce database rewards)
    (row : RewardRow)
    (new : ∀ other ∈ rewards, other.missed database = false → other.mark ≠ row.mark) :
    AwardedOnce database (rewards ++ [row]) := by
  rw [AwardedOnce, List.filter_append, List.map_append, List.nodup_append]
  refine ⟨once, (List.nodup_singleton row).filter _ |>.map_on (by simp), ?_⟩
  intro mark member _ last
  obtain ⟨other, there, rfl⟩ := List.mem_map.mp member
  obtain ⟨same, alone, rfl⟩ := List.mem_map.mp last
  rw [List.mem_singleton.mp (List.mem_filter.mp alone).1]
  have seen := (List.mem_filter.mp there).2
  exact new other (List.mem_filter.mp there).1 ((Bool.not_eq_true' _).mp seen)

-- A bonus of the job's day that is not found is one of the day's first second.
theorem missed_of_unseen {row : RewardRow} (bonus : row.reason = .uptimeBonus)
    (days : day row.createdAt = day job.createdAt) (later : todayStart job.now ≤ job.createdAt)
    (unseen : atOrAfter database (todayStart job.now) row.createdAt = false) :
    row.missed database = true := by
  have start : todayStart job.now ≤ todayStart row.createdAt := by
    rw [todayStart, day] at later ⊢
    rw [todayStart, days, day]
    omega
  rw [RewardRow.missed, decide_eq_true bonus, Bool.true_and, Bool.not_eq_true']
  cases database with
  | sqlite =>
    -- the whole second of the stored time is not after that of the midnight
    have before := of_decide_eq_false unseen
    have second := Int.ediv_le_ediv (by decide : (0 : Int) < 1000000) start
    exact decide_eq_false fun seen => before (Int.lt_of_le_of_lt second seen)
  | other =>
    have before := of_decide_eq_false unseen
    exact decide_eq_false fun seen => before (Int.le_trans start seen)

theorem uptime_once (once : AwardedOnce database rewards)
    (later : todayStart job.now ≤ job.createdAt) :
    AwardedOnce database (distributeUptimeBonus database rewards job) := by
  rw [distributeUptimeBonus]
  split
  · exact once
  · split
    · exact once
    · split_ifs with inactive gone given
      · exact once
      · exact once
      · exact once
      · apply once.add
        intro other member found same
        have node := congrArg Prod.fst same
        have reason : other.reason = .uptimeBonus := congrArg (fun mark => mark.2.1) same
        have days : (if other.reason = .uptimeBonus then day other.createdAt else 0) =
            day job.createdAt := congrArg (fun mark => mark.2.2) same
        rw [if_pos reason] at days
        have unseen := awarded_false ((Bool.not_eq_true _).mp given) other member node reason
        have missed := missed_of_unseen database job reason days later unseen
        exact Bool.noConfusion (found.symm.trans missed)

theorem milestone_once (once : AwardedOnce database rewards) :
    AwardedOnce database (checkMilestone job operator agentCount rewards threshold) := by
  rw [checkMilestone]
  split_ifs with reached given
  · exact once
  · apply once.add
    intro other member _ same
    have node := congrArg Prod.fst same
    have reason : other.reason = .milestone threshold := congrArg (fun mark => mark.2.1) same
    exact absurd (awarded_false ((Bool.not_eq_true _).mp given) other member node reason)
      Bool.noConfusion
  · exact once

theorem bonus_once (once : AwardedOnce database rewards) (later : event.Later) :
    AwardedOnce database (bonusStep database rewards event) := by
  cases event with
  | distributeUptimeBonus job => exact uptime_once database job rewards once later
  | checkMilestones job =>
    rw [bonusStep, checkMilestones]
    split
    · exact once
    · split
      · exact once
      · exact List.foldlRecOn _ _ once fun rewards once threshold _ =>
          milestone_once database job _ _ rewards threshold once

/-- However often the jobs run, a node has one bonus for a milestone at most, and one uptime bonus
for a day, those apart that SQLite dates in the first second of the day. -/
theorem bonuses_awarded_once (database : Database) (run : List BonusEvent)
    (later : ∀ event ∈ run, event.Later) :
    AwardedOnce database (final (bonusStep database) [] run) :=
  final_of_invariant (bonusStep database) (AwardedOnce database) (fun _ => BonusEvent.Later)
    (fun rewards event once later => bonus_once database rewards event once later) run []
    List.nodup_nil (along_of_forall _ BonusEvent.Later run later [])

def hostingPeer : PeerRow := ⟨.active, some "op", none, 12⟩

-- A bonus, and a second job of the same day.
theorem bonus_awarded_once_a_day :
    AwardedOnce .sqlite (final (bonusStep .sqlite) []
      [.distributeUptimeBonus ⟨"n", some hostingPeer, seconds 5, seconds 6⟩,
        .distributeUptimeBonus ⟨"n", some hostingPeer, seconds 70, seconds 71⟩]) :=
  bonuses_awarded_once .sqlite _ (by simp [BonusEvent.Later, todayStart, day, seconds])

def HasMilestone (rewards : List RewardRow) (nodeId : String) (threshold : Nat) : Prop :=
  ∃ row ∈ rewards, row.nodeId = nodeId ∧ row.reason = .milestone threshold

def BonusEvent.Reaches (nodeId : String) (threshold : Nat) : BonusEvent → Prop
  | .distributeUptimeBonus _ => False
  | .checkMilestones job => job.nodeId = nodeId ∧ ∃ peer ∈ job.peer,
      (operator? peer.nodeOperatorId).isSome ∧ threshold ≤ peer.agentCount

theorem hasMilestone_append (row : RewardRow) :
    HasMilestone (rewards ++ [row]) nodeId threshold ↔ HasMilestone rewards nodeId threshold ∨
      (row.nodeId = nodeId ∧ row.reason = .milestone threshold) := by
  simp [HasMilestone, or_and_right, exists_or]

theorem checkMilestone_has (wanted : Nat) :
    HasMilestone (checkMilestone job operator agentCount rewards threshold) nodeId wanted ↔
      HasMilestone rewards nodeId wanted ∨
        (wanted = threshold ∧ job.nodeId = nodeId ∧ wanted ≤ agentCount) := by
  rw [checkMilestone]
  split_ifs with reached given
  · obtain ⟨row, member, found⟩ := List.any_eq_true.mp given
    simp only [Bool.and_true, Bool.and_eq_true, decide_eq_true_eq] at found
    constructor
    · exact Or.inl
    · rintro (before | ⟨rfl, rfl, -⟩)
      · exact before
      · exact ⟨row, member, found⟩
  · rw [hasMilestone_append]
    apply or_congr_right
    constructor
    · rintro ⟨own, same⟩
      cases same
      exact ⟨rfl, own, reached⟩
    · rintro ⟨rfl, own, -⟩
      exact ⟨own, rfl⟩
  · rw [or_iff_left]
    rintro ⟨rfl, -, enough⟩
    exact reached enough

theorem checkAll_has (thresholds : List Nat) (wanted : Nat) :
    HasMilestone (thresholds.foldl (checkMilestone job operator agentCount) rewards) nodeId wanted ↔
      HasMilestone rewards nodeId wanted ∨
        (wanted ∈ thresholds ∧ job.nodeId = nodeId ∧ wanted ≤ agentCount) := by
  induction thresholds generalizing rewards with
  | nil => simp
  | cons threshold rest ih =>
    rw [List.foldl_cons, ih, checkMilestone_has, or_assoc, ← or_and_right, List.mem_cons]

theorem bonus_has :
    HasMilestone (bonusStep database rewards event) nodeId threshold ↔
      HasMilestone rewards nodeId threshold ∨
        (threshold ∈ hostingMilestones ∧ event.Reaches nodeId threshold) := by
  cases event with
  | distributeUptimeBonus job =>
    have added (operator : String) :
        HasMilestone (rewards ++ [⟨job.nodeId, operator, .uptimeBonus, job.createdAt⟩]) nodeId
          threshold ↔ HasMilestone rewards nodeId threshold := by
      rw [hasMilestone_append, or_iff_left]
      exact fun same => nomatch same.2
    rw [bonusStep, BonusEvent.Reaches, and_false, or_false, distributeUptimeBonus]
    split
    · rfl
    · split
      · rfl
      · split_ifs
        · rfl
        · rfl
        · rfl
        · exact added _
  | checkMilestones job =>
    rw [bonusStep, BonusEvent.Reaches, checkMilestones]
    cases job.peer with
    | none => simp
    | some peer =>
      dsimp only
      cases operated : operator? peer.nodeOperatorId with
      | none => simp [operated]
      | some operator =>
        rw [checkAll_has]
        simp [operated]

/-- A node has been given exactly the milestones that it had reached when a job looked. -/
theorem milestones_awarded_iff (database : Database) (run : List BonusEvent) (nodeId : String)
    (threshold : Nat) :
    HasMilestone (final (bonusStep database) [] run) nodeId threshold ↔
      threshold ∈ hostingMilestones ∧ ∃ event ∈ run, event.Reaches nodeId threshold := by
  suffices from_ : ∀ rewards, HasMilestone (final (bonusStep database) rewards run) nodeId threshold ↔
      HasMilestone rewards nodeId threshold ∨
        (threshold ∈ hostingMilestones ∧ ∃ event ∈ run, event.Reaches nodeId threshold) by
    rw [from_, or_iff_right]
    exact fun ⟨_, member, _⟩ => nomatch member
  intro rewards
  induction run generalizing rewards with
  | nil => simp [final]
  | cons event rest ih =>
    rw [final, ih, bonus_has, or_assoc, ← and_or_left, List.exists_mem_cons_iff]

theorem milestone_of_twelve :
    HasMilestone (final (bonusStep .sqlite) []
      [.checkMilestones ⟨"n", some hostingPeer, 0, 0⟩]) "n" 10 :=
  (milestones_awarded_iff .sqlite _ "n" 10).mpr
    ⟨by decide, _, List.mem_cons_self, rfl, hostingPeer, rfl, by decide, by decide⟩

end Bonuses

end Hartos.Hosting
