import Mathlib.Data.Nat.Basic
import Mathlib.Order.Lattice
import Hartos.StepSystem

/-!
Versions of one resonance wallet that are landed from another node: the last writer is to win by
`updated_at`, which the database sets anew whenever a row changes.
-/
namespace Hartos.SyncedWallet
open StepSystem
variable {Stamp Value : Type} [LinearOrder Stamp] [DecidableEq Value]

/-- A version as it travels: the ISO text of its `updated_at` and the columns that have a value. -/
structure Version (Stamp Value : Type) where
  updatedAt : Stamp
  data : String → Option Value

structure WalletRow (Stamp Value : Type) where
  updatedAt : Stamp
  column : String → Option Value

def walletFields : List String :=
  ["pulse", "spark", "spark_lifetime", "signal", "level", "level_title", "xp", "xp_next_level",
   "streak_days", "streak_best", "last_active_date", "season_pulse", "season_spark"]

def landed (column data : String → Option Value) (field : String) : Option Value :=
  if field ∈ walletFields then data field <|> column field else column field

/-- `_apply_synced_row` for wallets: an incoming row that is older than the local one is skipped.
`updated_at` is no field of it: the database writes its own time into a row that is new or has
changed. -/
def applySyncedRow (blank : String → Option Value) (stored : Option (WalletRow Stamp Value))
    (version : Version Stamp Value) (now : Stamp) : WalletRow Stamp Value :=
  match stored with
  | none => ⟨now, landed blank version.data⟩
  | some row =>
      if version.updatedAt < row.updatedAt then row
      else if ∀ field ∈ walletFields,
          landed row.column version.data field = row.column field then
        row
      else ⟨now, landed row.column version.data⟩

structure History (Stamp Value : Type) where
  versions : List (Version Stamp Value)
  distinct : ∀ first ∈ versions, ∀ second ∈ versions,
    first.updatedAt = second.updatedAt → first = second

structure Delivery (history : History Stamp Value) where
  version : Version Stamp Value
  now : Stamp
  known : version ∈ history.versions

structure State (history : History Stamp Value) where
  row : Option (WalletRow Stamp Value)
  seen : List (Version Stamp Value)
  known : ∀ version ∈ seen, version ∈ history.versions

section Runs

variable {history : History Stamp Value} (blank : String → Option Value)

def State.start (history : History Stamp Value) : State history :=
  ⟨none, [], fun _ member => nomatch member⟩

def step (state : State history) (delivery : Delivery history) : State history where
  row := some (applySyncedRow blank state.row delivery.version delivery.now)
  seen := delivery.version :: state.seen
  known := by
    intro version member
    rcases List.mem_cons.mp member with rfl | earlier
    · exact delivery.known
    · exact state.known version earlier

def HoldsNewest (state : State history) : Prop :=
  ∀ newest ∈ state.seen, (∀ other ∈ state.seen, other.updatedAt ≤ newest.updatedAt) →
    ∃ row, state.row = some row ∧ ∀ field ∈ walletFields, ∀ value,
      newest.data field = some value → row.column field = some value

/-- The time that the row was last written is between the versions: not after one that is newer
than all that arrived, and after one that is older than some. -/
structure InTime (state : State history) (delivery : Delivery history) : Prop where
  newer : (∀ other ∈ state.seen, other.updatedAt < delivery.version.updatedAt) →
    ∀ row, state.row = some row → row.updatedAt ≤ delivery.version.updatedAt
  older : ∀ other ∈ state.seen, delivery.version.updatedAt < other.updatedAt →
    ∀ row, state.row = some row → delivery.version.updatedAt < row.updatedAt

omit [DecidableEq Value] in
theorem landed_data {column data : String → Option Value} {field : String} {value : Value}
    (owned : field ∈ walletFields) (has : data field = some value) :
    landed column data field = some value := by
  rw [landed, if_pos owned, has]
  rfl

-- A version that is not older than the row is what the row says.
theorem applied_columns (stored : Option (WalletRow Stamp Value)) (version : Version Stamp Value)
    (now : Stamp) (current : ∀ row, stored = some row → row.updatedAt ≤ version.updatedAt)
    {field : String} (owned : field ∈ walletFields) {value : Value}
    (has : version.data field = some value) :
    (applySyncedRow blank stored version now).column field = some value := by
  cases stored with
  | none => exact landed_data owned has
  | some row =>
    rw [applySyncedRow, if_neg (not_lt_of_ge (current row rfl))]
    split
    next same =>
      rw [← same field owned]
      exact landed_data owned has
    next => exact landed_data owned has

theorem skipped_older {row : WalletRow Stamp Value} {version : Version Stamp Value} (now : Stamp)
    (stale : version.updatedAt < row.updatedAt) :
    applySyncedRow blank (some row) version now = row :=
  if_pos stale

theorem step_holdsNewest (state : State history) (delivery : Delivery history)
    (holds : HoldsNewest state) (inTime : InTime state delivery) :
    HoldsNewest (step blank state delivery) := by
  intro newest member most
  refine ⟨_, rfl, ?_⟩
  intro field owned value has
  have arrived := most delivery.version List.mem_cons_self
  have among (other : Version Stamp Value) (there : other ∈ state.seen) :
      other.updatedAt ≤ newest.updatedAt := most other (List.mem_cons_of_mem _ there)
  by_cases new : newest = delivery.version
  · subst new
    by_cases current : ∀ row, state.row = some row → row.updatedAt ≤ delivery.version.updatedAt
    · exact applied_columns blank state.row delivery.version delivery.now current owned has
    · -- It was skipped, so it is not newer than all that arrived: it is one of them.
      obtain ⟨row, stored, later⟩ := not_forall₂.mp current
      have again : delivery.version ∈ state.seen := by
        by_contra first
        apply later
        apply inTime.newer _ row stored
        intro other there
        apply lt_of_le_of_ne (among other there)
        intro same
        have is := history.distinct other (state.known other there) _ delivery.known same
        exact first (is ▸ there)
      obtain ⟨kept, here, columns⟩ := holds delivery.version again among
      cases Option.some.inj (stored.symm.trans here)
      rw [stored, skipped_older blank delivery.now (not_le.mp later)]
      exact columns field owned value has
  · have there : newest ∈ state.seen := (List.mem_cons.mp member).resolve_left new
    obtain ⟨row, stored, columns⟩ := holds newest there among
    have older : delivery.version.updatedAt < newest.updatedAt := by
      apply lt_of_le_of_ne arrived
      intro same
      exact new (history.distinct _ (state.known newest there) _ delivery.known same.symm)
    rw [stored, skipped_older blank delivery.now (inTime.older newest there older row stored)]
    exact columns field owned value has

/-- The newest version is stored throughout a run in which the row is always written between the
versions. -/
theorem newest_stored (run : List (Delivery history))
    (inTime : Along (step blank) InTime (State.start history) run) :
    Always (step blank) HoldsNewest (State.start history) run :=
  always_of_invariant (step blank) HoldsNewest HoldsNewest InTime
    (fun state delivery => step_holdsNewest blank state delivery) (fun _ holds => holds) run
    (State.start history) (fun _ member => nomatch member) inTime

end Runs

def spark (amount : Nat) (field : String) : Option Nat :=
  if field = "spark" then some amount else none

def twoVersions : History Nat Nat where
  versions := [⟨1, spark 10⟩, ⟨2, spark 20⟩]
  distinct := by
    intro first member second other same
    simp only [List.mem_cons, List.not_mem_nil, or_false] at member other
    rcases member with rfl | rfl <;> rcases other with rfl | rfl <;> first | rfl | cases same

def first (now : Nat) : Delivery twoVersions := ⟨⟨1, spark 10⟩, now, List.mem_cons_self⟩

def second (now : Nat) : Delivery twoVersions :=
  ⟨⟨2, spark 20⟩, now, List.mem_cons_of_mem _ List.mem_cons_self⟩

/-- Each version arrives before the next is made. -/
theorem prompt_versions_stored :
    Always (step fun _ => none) HoldsNewest (State.start twoVersions) [first 1, second 3] := by
  apply newest_stored
  refine ⟨⟨?_, ?_⟩, ⟨?_, ?_⟩, trivial⟩
  · intro _ row none
    cases none
  · intro _ member
    cases member
  · intro _ row stored
    cases stored
    decide
  · intro other member older
    cases List.mem_singleton.mp member
    exact absurd older (by decide)

/-- The newer version arrives after the older one was stored, but was made before. -/
theorem newer_version_skipped :
    ¬Always (step fun _ => none) HoldsNewest (State.start twoVersions) [first 10, second 11] := by
  rintro ⟨-, -, newest⟩
  obtain ⟨row, stored, columns⟩ := newest ⟨2, spark 20⟩ List.mem_cons_self (by
    intro other member
    rcases List.mem_cons.mp member with rfl | earlier
    · exact le_refl _
    · cases List.mem_singleton.mp earlier
      decide)
  have spark := columns "spark" (by decide) 20 rfl
  cases stored
  revert spark
  decide

end Hartos.SyncedWallet
