import Mathlib.Data.Finset.Card
import Hartos.StepSystem

/-!
The ledger of genuine installs: a call takes its snapshot under the lock and replaces the file
after it has let the lock go, if the write goes through.
-/
namespace Hartos.Installs
open StepSystem

abbrev NodeId := String

structure Ledger where
  genuineInstalls : Finset NodeId
  pending : Nat → Option (Finset NodeId)
  file : Finset NodeId

def loadInstallsLedger (file : Finset NodeId) (readable : Bool) : Finset NodeId :=
  if readable then file else ∅

def boot (file : Finset NodeId) (readable : Bool) : Ledger :=
  ⟨loadInstallsLedger file readable, fun _ => none, file⟩

inductive Event where
  | record (thread : Nat) (nodeId : NodeId)
  | replace (thread : Nat)
  | fail (thread : Nat)
  | restart (readable : Bool)

def Ledger.setPending (ledger : Ledger) (thread : Nat) (snapshot : Option (Finset NodeId)) :
    Ledger :=
  { ledger with
    pending := fun other => if other = thread then snapshot else ledger.pending other }

def step (ledger : Ledger) : Event → Ledger
  | .record thread nodeId =>
      -- A thread makes one call at a time, and only a new id is written.
      if (ledger.pending thread).isSome ∨ nodeId = "" ∨ nodeId ∈ ledger.genuineInstalls then ledger
      else
        { ledger with genuineInstalls := insert nodeId ledger.genuineInstalls }.setPending thread
          (some (insert nodeId ledger.genuineInstalls))
  | .replace thread =>
      match ledger.pending thread with
      | none => ledger
      | some snapshot => { ledger with file := snapshot }.setPending thread none
  | .fail thread => ledger.setPending thread none
  | .restart readable => boot ledger.file readable

def CatchesUp (ledger : Ledger) : Prop :=
  (∀ thread, ledger.pending thread = none) → ∀ thread nodeId, nodeId ≠ "" →
    nodeId ∉ ledger.genuineInstalls →
    (final step ledger [.record thread nodeId, .replace thread]).file =
      insert nodeId ledger.genuineInstalls

def Grows (ledger : Ledger) : Event → Prop
  | .restart readable => ledger.file ⊆ loadInstallsLedger ledger.file readable
  | event => ledger.file ⊆ (step ledger event).file

def InOrder (ledger : Ledger) : Event → Prop
  | .replace thread =>
      ∀ snapshot, ledger.pending thread = some snapshot → ledger.file.card ≤ snapshot.card
  | .restart readable => readable = true ∨ ledger.file = ∅
  | _ => True

def Ledger.Holds (ledger : Ledger) (ids : Finset NodeId) : Prop :=
  ids = ledger.file ∨ ∃ thread, ledger.pending thread = some ids

structure Chain (ledger : Ledger) : Prop where
  known : ∀ ids, ledger.Holds ids → ids ⊆ ledger.genuineInstalls
  ordered : ∀ left right, ledger.Holds left → ledger.Holds right → left ⊆ right ∨ right ⊆ left

variable {ledger : Ledger} {thread : Nat}

theorem holds_setPending {snapshot : Option (Finset NodeId)} {ids : Finset NodeId}
    (holds : (ledger.setPending thread snapshot).Holds ids) :
    ledger.Holds ids ∨ snapshot = some ids := by
  rcases holds with here | ⟨other, found⟩
  · exact Or.inl (Or.inl here)
  · change (if other = thread then snapshot else ledger.pending other) = some ids at found
    split at found
    · exact Or.inr found
    · exact Or.inl (Or.inr ⟨other, found⟩)

theorem chain_of_holds {before after : Ledger} (chain : Chain before)
    (same : after.genuineInstalls = before.genuineInstalls)
    (held : ∀ ids, after.Holds ids → before.Holds ids) : Chain after where
  known ids holds := by
    rw [same]
    exact chain.known ids (held ids holds)
  ordered left right first second := chain.ordered left right (held left first) (held right second)

theorem chain_boot (file : Finset NodeId) (readable : Bool)
    (read : readable = true ∨ file = ∅) : Chain (boot file readable) := by
  have only (ids : Finset NodeId) (holds : (boot file readable).Holds ids) : ids = file := by
    rcases holds with here | ⟨_, found⟩
    · exact here
    · cases found
  constructor
  · intro ids holds
    rw [only ids holds]
    rcases read with rfl | rfl
    · exact Finset.Subset.refl file
    · exact Finset.empty_subset _
  · intro left right first second
    rw [only left first, only right second]
    exact Or.inl (Finset.Subset.refl file)

theorem chain_record (chain : Chain ledger) (thread : Nat) (nodeId : NodeId) :
    Chain (step ledger (.record thread nodeId)) := by
  rw [step]
  split
  · exact chain
  · have grown := Finset.subset_insert nodeId ledger.genuineInstalls
    -- The new snapshot has all that is known, and so every earlier one.
    have below (ids : Finset NodeId) (holds : ledger.Holds ids) :
        ids ⊆ insert nodeId ledger.genuineInstalls := (chain.known ids holds).trans grown
    constructor
    · intro ids holds
      rcases holds_setPending holds with old | new
      · exact below ids old
      · cases new
        exact Finset.Subset.refl _
    · intro left right first second
      rcases holds_setPending first with oldLeft | newLeft
      · rcases holds_setPending second with oldRight | newRight
        · exact chain.ordered left right oldLeft oldRight
        · cases newRight
          exact Or.inl (below left oldLeft)
      · cases newLeft
        rcases holds_setPending second with oldRight | newRight
        · exact Or.inr (below right oldRight)
        · cases newRight
          exact Or.inl (Finset.Subset.refl _)

theorem chain_step (chain : Chain ledger) (event : Event) (allowed : InOrder ledger event) :
    Chain (step ledger event) := by
  cases event with
  | record thread nodeId => exact chain_record chain thread nodeId
  | replace thread =>
    rw [step]
    split
    · exact chain
    next snapshot found =>
      apply chain_of_holds chain
      · rfl
      intro ids holds
      rcases holds_setPending holds with (here | other) | new
      · exact Or.inr ⟨thread, found.trans (congrArg some here.symm)⟩
      · exact Or.inr other
      · cases new
  | fail thread =>
    apply chain_of_holds chain
    · rfl
    intro ids holds
    rcases holds_setPending holds with old | new
    · exact old
    · cases new
  | restart readable => exact chain_boot ledger.file readable allowed

theorem grows_iff (chain : Chain ledger) (event : Event) :
    Grows ledger event ↔ InOrder ledger event := by
  cases event with
  | record thread nodeId =>
    apply iff_of_true _ trivial
    change ledger.file ⊆ (step ledger (.record thread nodeId)).file
    rw [step]
    split
    · exact Finset.Subset.refl _
    · exact Finset.Subset.refl _
  | replace thread =>
    change ledger.file ⊆ (step ledger (.replace thread)).file ↔ _
    rw [step, InOrder]
    split
    next absent =>
      apply iff_of_true (Finset.Subset.refl _)
      intro snapshot found
      rw [absent] at found
      cases found
    next snapshot found =>
      constructor
      · intro less other same
        rw [found] at same
        cases same
        exact Finset.card_le_card less
      · intro counts
        rcases chain.ordered _ snapshot (Or.inl rfl) (Or.inr ⟨thread, found⟩) with more | less
        · exact more
        · rw [Finset.eq_of_subset_of_card_le less (counts snapshot found)]
          exact Finset.Subset.refl _
  | fail thread => exact iff_of_true (Finset.Subset.refl _) trivial
  | restart readable =>
    rw [Grows, InOrder, loadInstallsLedger]
    cases readable with
    | true => exact iff_of_true (Finset.Subset.refl _) (Or.inl rfl)
    | false =>
      rw [if_neg Bool.false_ne_true, Finset.subset_empty]
      exact (or_iff_right Bool.false_ne_true).symm

theorem replace_file {snapshot : Finset NodeId} (found : ledger.pending thread = some snapshot) :
    (step ledger (.replace thread)).file = snapshot := by
  rw [step, found]
  rfl

theorem catchesUp (ledger : Ledger) : CatchesUp ledger := by
  intro idle thread nodeId named new
  have entered : step ledger (.record thread nodeId) =
      { ledger with genuineInstalls := insert nodeId ledger.genuineInstalls }.setPending thread
        (some (insert nodeId ledger.genuineInstalls)) := by
    apply if_neg
    rintro (busy | empty | known)
    · rw [idle thread] at busy
      cases busy
    · exact named empty
    · exact new known
  rw [final, entered]
  exact replace_file (if_pos rfl)

theorem along_grows_iff (run : List Event) {ledger : Ledger} (chain : Chain ledger) :
    Along step Grows ledger run ↔ Along step InOrder ledger run := by
  induction run generalizing ledger with
  | nil => exact Iff.rfl
  | cons event rest ih =>
    rw [Along, Along, grows_iff chain event]
    apply and_congr_right
    intro allowed
    exact ih (chain_step chain event allowed)

/-- A call for a new id that writes after all others have returned repairs the file, but the file
shrinks exactly when a call replaces it that had the lock before the one that wrote it. -/
theorem installs_kept_iff (file : Finset NodeId) (run : List Event) :
    CatchesUp (final step (boot file true) run) ∧
      (Along step Grows (boot file true) run ↔ Along step InOrder (boot file true) run) :=
  ⟨catchesUp _, along_grows_iff run (chain_boot file true (Or.inl rfl))⟩

/-- Two nodes join at once, and the write for the first comes last. -/
theorem overtaken_snapshot_shrinks :
    ¬Along step Grows (boot ∅ true)
      [.record 1 "a", .record 2 "b", .replace 2, .replace 1] := by
  rintro ⟨-, -, -, shrinks, -⟩
  revert shrinks
  change ¬({"b", "a"} : Finset NodeId) ⊆ {"a"}
  decide

end Hartos.Installs
