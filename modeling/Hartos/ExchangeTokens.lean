import Hartos.Numerals
import Mathlib.Algebra.Order.Ring.Int

/-!
The tokens one compute exchange is measured at: counted from its texts, and lowered or
not by what the serving side claims.
-/
namespace Hartos.BudgetGate

abbrev Encoder := String → Option Nat

def countTokensForText (encode : Encoder) (text : String) : Nat :=
  if text = "" then 0 else (encode text).getD (2 * text.length / 7)

def textOf : Datum → String
  | .text value => value
  | _ => ""

section Exchange
variable (encode : Encoder) (decimal : Char → Option Nat)

def capOut (maxTokens : Datum) : Except Raised (Option Int) :=
  match maxTokens with
  | .null => .ok none
  | _ =>
      match maxTokens.int decimal with
      | .ok cap => .ok (if cap ≥ 0 then some cap else none)
      | .error .typeError | .error .valueError => .ok none
      | .error raised => .error raised

def claim (usage : Datum) (name : String) : Except Raised Int :=
  if (usage.field name).truthy then (usage.field name).int decimal else .ok 0

def claims (usage : Datum) : Except Raised (Int × Int) :=
  let both := do
    let claimIn ← claim decimal usage "prompt_tokens"
    let claimOut ← claim decimal usage "completion_tokens"
    pure (claimIn, claimOut)
  match both with
  | .ok claimed => .ok claimed
  | .error .typeError | .error .valueError => .ok (0, 0)
  | .error raised => .error raised

def measured (countedIn countedOut : Int) (claimed : Int × Int) (cap : Option Int) : Int × Int :=
  let (tokensIn, tokensOut) :=
    if claimed.1 > 0 ∨ claimed.2 > 0 then (min (max 0 claimed.1) countedIn, max 0 claimed.2)
    else (countedIn, countedOut)
  (tokensIn,
    match cap with
    | none => tokensOut
    | some cap => min tokensOut cap)

def exchangeTokens (prompt response usage maxTokens : Datum) : Except Raised (Int × Int) := do
  let countedIn := countTokensForText encode (textOf prompt)
  let countedOut := countTokensForText encode (textOf response)
  let cap ← capOut decimal maxTokens
  let claimed ← claims decimal usage
  pure (measured countedIn countedOut claimed cap)

def number (value : Datum) : Option Int :=
  if value.truthy then (value.int decimal).toOption else some 0

/-- With the usage block the exchange costs no more than without it, and neither measure
is below zero or has a completion beyond the tokens asked for. -/
def OnlyLowers (prompt response usage maxTokens : Datum) : Prop :=
  match exchangeTokens encode decimal prompt response usage maxTokens,
    exchangeTokens encode decimal prompt response .null maxTokens with
  | .ok claimed, .ok counted =>
      (0 ≤ claimed.1 ∧ claimed.1 ≤ counted.1) ∧ (0 ≤ claimed.2 ∧ claimed.2 ≤ counted.2) ∧
        ∀ asked, maxTokens.int decimal = .ok asked → 0 ≤ asked →
          claimed.2 ≤ asked ∧ counted.2 ≤ asked
  | _, _ => False

/-- The numbers that are read are finite, and the completion claimed is no longer than the
response, or than the tokens asked for when the response is longer still. -/
structure Modest (response usage maxTokens : Datum) : Prop where
  asked : maxTokens.isInfinite = false
  claimIn : (usage.field "prompt_tokens").isInfinite = false
  claimOut : (number decimal (usage.field "prompt_tokens")).isSome = true →
    (usage.field "completion_tokens").isInfinite = false
  completion : (number decimal (usage.field "prompt_tokens")).isSome = true →
    ∀ claimed, number decimal (usage.field "completion_tokens") = some claimed →
      claimed ≤ countTokensForText encode (textOf response) ∨
        ∃ asked, maxTokens.int decimal = .ok asked ∧ 0 ≤ asked ∧
          asked ≤ countTokensForText encode (textOf response)

variable {encode decimal}
variable (countedIn countedOut : Int) {value : Datum} (prompt response usage maxTokens : Datum)
  {cap : Option Int} {claimed : Int × Int}

theorem int_error {raised : Raised} (failed : value.int decimal = .error raised) :
    raised = .typeError ∨ raised = .valueError ∨
      raised = .overflowError ∧ value.isInfinite = true := by
  cases value with
  | null => cases failed; exact Or.inl rfl
  | list items => cases failed; exact Or.inl rfl
  | dict fields => cases failed; exact Or.inl rfl
  | infinite negative => cases failed; exact Or.inr (Or.inr ⟨rfl, rfl⟩)
  | notANumber => cases failed; exact Or.inr (Or.inl rfl)
  | flag value => cases failed
  | whole value => cases failed
  | real value => cases failed
  | text value =>
    rw [Datum.int] at failed
    split at failed
    · cases failed
    · cases failed
      exact Or.inr (Or.inl rfl)

theorem truthy_infinite (infinite : value.isInfinite = true) : value.truthy = true := by
  cases value with
  | infinite negative => rfl
  | _ => cases infinite

theorem int_infinite (infinite : value.isInfinite = true) :
    value.int decimal = .error .overflowError := by
  cases value with
  | infinite negative => rfl
  | _ => cases infinite

-- None is a type error like any other, and caps nothing.
theorem capOut_eq (maxTokens : Datum) :
    capOut decimal maxTokens =
      match maxTokens.int decimal with
      | .ok cap => .ok (if cap ≥ 0 then some cap else none)
      | .error .typeError | .error .valueError => .ok none
      | .error raised => .error raised := by
  cases maxTokens with
  | null => rfl
  | _ => rfl

theorem capOut_infinite {maxTokens : Datum} (infinite : maxTokens.isInfinite = true) :
    capOut decimal maxTokens = .error .overflowError := by
  rw [capOut_eq, int_infinite infinite]

theorem capOut_finite {maxTokens : Datum} (finite : maxTokens.isInfinite = false) :
    ∃ cap, capOut decimal maxTokens = .ok cap ∧
      ∀ asked, cap = some asked ↔ maxTokens.int decimal = .ok asked ∧ 0 ≤ asked := by
  rw [capOut_eq]
  cases read : maxTokens.int decimal with
  | ok value =>
    refine ⟨_, rfl, fun asked => ?_⟩
    by_cases nonneg : value ≥ 0
    · rw [if_pos nonneg, Option.some.injEq, Except.ok.injEq]
      exact ⟨fun same => ⟨same, same ▸ nonneg⟩, And.left⟩
    · rw [if_neg nonneg, Except.ok.injEq]
      exact ⟨fun same => (by cases same), fun both => absurd (both.1 ▸ both.2) nonneg⟩
  | error raised =>
    refine ⟨none, ?_, fun asked => ⟨fun same => (by cases same), fun both => (by cases both.1)⟩⟩
    rcases int_error read with rfl | rfl | ⟨rfl, infinite⟩
    · rfl
    · rfl
    · rw [finite] at infinite
      cases infinite

section

variable {usage : Datum}

theorem claim_finite {name : String} (finite : (usage.field name).isInfinite = false) :
    (∃ value, claim decimal usage name = .ok value ∧
        number decimal (usage.field name) = some value) ∨
      ((claim decimal usage name = .error .typeError ∨
          claim decimal usage name = .error .valueError) ∧
        number decimal (usage.field name) = none) := by
  rw [claim, number]
  split
  next =>
    cases read : (usage.field name).int decimal with
    | ok value => exact Or.inl ⟨value, rfl, rfl⟩
    | error raised =>
      rcases int_error read with rfl | rfl | ⟨rfl, infinite⟩
      · exact Or.inr ⟨Or.inl rfl, rfl⟩
      · exact Or.inr ⟨Or.inr rfl, rfl⟩
      · rw [finite] at infinite
        cases infinite
  next => exact Or.inl ⟨0, rfl, rfl⟩

theorem claim_infinite {name : String} (infinite : (usage.field name).isInfinite = true) :
    claim decimal usage name = .error .overflowError := by
  rw [claim, if_pos (truthy_infinite infinite), int_infinite infinite]

theorem claims_finite (claimIn : (usage.field "prompt_tokens").isInfinite = false)
    (claimOut : (number decimal (usage.field "prompt_tokens")).isSome = true →
      (usage.field "completion_tokens").isInfinite = false) :
    (∃ first second, claims decimal usage = .ok (first, second) ∧
        number decimal (usage.field "prompt_tokens") = some first ∧
        number decimal (usage.field "completion_tokens") = some second) ∨
      (claims decimal usage = .ok (0, 0) ∧
        ((number decimal (usage.field "prompt_tokens")).isSome = true →
          number decimal (usage.field "completion_tokens") = none)) := by
  rcases @claim_finite decimal usage _ claimIn with ⟨first, read, is⟩ | ⟨failed | failed, is⟩
  · have finite := claimOut (by rw [is]; rfl)
    rcases @claim_finite decimal usage _ finite with ⟨second, read', is'⟩ | ⟨failed, is'⟩
    · refine Or.inl ⟨first, second, ?_, is, is'⟩
      rw [claims, read, read']
      rfl
    · refine Or.inr ⟨?_, fun _ => is'⟩
      rcases failed with failed | failed
      all_goals
        rw [claims, read, failed]
        rfl
  all_goals
    refine Or.inr ⟨?_, fun some => by rw [is] at some; cases some⟩
    rw [claims, failed]
    rfl

theorem claims_infinite_in (infinite : (usage.field "prompt_tokens").isInfinite = true) :
    claims decimal usage = .error .overflowError := by
  rw [claims, claim_infinite infinite]
  rfl

theorem claims_infinite_out (finite : (usage.field "prompt_tokens").isInfinite = false)
    (some : (number decimal (usage.field "prompt_tokens")).isSome = true)
    (infinite : (usage.field "completion_tokens").isInfinite = true) :
    claims decimal usage = .error .overflowError := by
  rcases @claim_finite decimal usage _ finite with ⟨first, read, _⟩ | ⟨_, is⟩
  · rw [claims, read, claim_infinite infinite]
    rfl
  · rw [is] at some
    cases some

end

theorem measured_used (cap : Option Int) (used : claimed.1 > 0 ∨ claimed.2 > 0) :
    measured countedIn countedOut claimed cap =
      (min (max 0 claimed.1) countedIn, cap.elim (max 0 claimed.2) (min (max 0 claimed.2))) := by
  rw [measured, if_pos used]
  cases cap <;> rfl

theorem measured_unused (cap : Option Int) (unused : ¬(claimed.1 > 0 ∨ claimed.2 > 0)) :
    measured countedIn countedOut claimed cap =
      (countedIn, cap.elim countedOut (min countedOut)) := by
  rw [measured, if_neg unused]
  cases cap <;> rfl

theorem capped_bounds {value : Int} (above : 0 ≤ value) {cap : Option Int}
    (nonneg : ∀ asked, cap = some asked → 0 ≤ asked) :
    0 ≤ cap.elim value (min value) ∧
      ∀ asked, cap = some asked → cap.elim value (min value) ≤ asked := by
  cases cap with
  | none => exact ⟨above, fun asked same => (by cases same)⟩
  | some most =>
    refine ⟨le_min above (nonneg most rfl), fun asked same => ?_⟩
    obtain rfl := Option.some.inj same
    exact min_le_right value most

/-- The prompt's part and the cap hold whatever is claimed. -/
theorem measured_bounds (countedIn countedOut : Nat) (claimed : Int × Int) {cap : Option Int}
    (nonneg : ∀ asked, cap = some asked → 0 ≤ asked) :
    0 ≤ (measured countedIn countedOut claimed cap).1 ∧
      (measured countedIn countedOut claimed cap).1 ≤ countedIn ∧
      0 ≤ (measured countedIn countedOut claimed cap).2 ∧
      ∀ asked, cap = some asked → (measured countedIn countedOut claimed cap).2 ≤ asked := by
  by_cases used : claimed.1 > 0 ∨ claimed.2 > 0
  · rw [measured_used _ _ _ used]
    exact ⟨le_min (le_max_left 0 _) (Int.natCast_nonneg _), min_le_right _ _,
      capped_bounds (le_max_left 0 _) nonneg⟩
  · rw [measured_unused _ _ _ used]
    exact ⟨Int.natCast_nonneg _, Int.le_refl _, capped_bounds (Int.natCast_nonneg _) nonneg⟩

/-- Only the completion can cost more than it was counted at. -/
theorem measured_le_iff (countedIn countedOut : Nat) (first second : Int) (cap : Option Int) :
    (measured countedIn countedOut (first, second) cap).2 ≤
        (measured countedIn countedOut (0, 0) cap).2 ↔
      second ≤ countedOut ∨ ∃ asked, cap = some asked ∧ asked ≤ countedOut := by
  have nothing : ¬((0, 0) : Int × Int).1 > 0 ∧ ¬((0, 0) : Int × Int).2 > 0 := by decide
  rw [measured_unused _ _ cap (not_or.mpr nothing)]
  by_cases used : first > 0 ∨ second > 0
  · rw [measured_used _ _ cap used]
    cases cap with
    | none =>
      change max 0 second ≤ (countedOut : Int) ↔ _
      rw [max_le_iff, and_iff_right (Int.natCast_nonneg countedOut)]
      exact (or_iff_left fun ⟨asked, same, _⟩ => by cases same).symm
    | some most =>
      change min (max 0 second) most ≤ min (countedOut : Int) most ↔ _
      rw [le_min_iff, and_iff_left (min_le_right _ _), min_le_iff, max_le_iff,
        and_iff_right (Int.natCast_nonneg countedOut)]
      apply or_congr_right
      constructor
      · exact fun below => ⟨most, rfl, below⟩
      · rintro ⟨asked, same, below⟩
        exact (Option.some.inj same) ▸ below
  · rw [measured_unused _ _ cap used]
    have small : second ≤ 0 := not_lt.mp (not_or.mp used).2
    exact iff_of_true (Int.le_refl _) (Or.inl (small.trans (Int.natCast_nonneg countedOut)))

theorem exchangeTokens_counted (prompt response maxTokens : Datum) {cap : Option Int}
    (capped : capOut decimal maxTokens = .ok cap) :
    exchangeTokens encode decimal prompt response .null maxTokens =
      .ok (measured (countTokensForText encode (textOf prompt))
        (countTokensForText encode (textOf response)) (0, 0) cap) := by
  rw [exchangeTokens, capped]
  rfl

theorem exchangeTokens_claimed (capped : capOut decimal maxTokens = .ok cap)
    (claims : claims decimal usage = .ok claimed) :
    exchangeTokens encode decimal prompt response usage maxTokens =
      .ok (measured (countTokensForText encode (textOf prompt))
        (countTokensForText encode (textOf response)) claimed cap) := by
  rw [exchangeTokens, capped, claims]
  rfl

/-- Where both measures are there, the completion claimed decides. -/
theorem onlyLowers_of_read {first second : Int} (capped : capOut decimal maxTokens = .ok cap)
    (is : ∀ asked, cap = some asked ↔ maxTokens.int decimal = .ok asked ∧ 0 ≤ asked)
    (claims : claims decimal usage = .ok (first, second)) :
    OnlyLowers encode decimal prompt response usage maxTokens ↔
      second ≤ countTokensForText encode (textOf response) ∨
        ∃ asked, cap = some asked ∧ asked ≤ countTokensForText encode (textOf response) := by
  have nonneg (asked : Int) (some : cap = some asked) : 0 ≤ asked := ((is asked).mp some).2
  have counted := measured_bounds (countTokensForText encode (textOf prompt))
    (countTokensForText encode (textOf response)) (0, 0) nonneg
  have claimed := measured_bounds (countTokensForText encode (textOf prompt))
    (countTokensForText encode (textOf response)) (first, second) nonneg
  rw [OnlyLowers, exchangeTokens_claimed prompt response usage maxTokens capped claims,
    exchangeTokens_counted prompt response maxTokens capped, ← measured_le_iff
      (countTokensForText encode (textOf prompt)) _ first]
  constructor
  · exact fun lowers => lowers.2.1.2
  · intro completion
    refine ⟨⟨claimed.1, claimed.2.1⟩, ⟨claimed.2.2.1, completion⟩, fun asked number above => ?_⟩
    have some := (is asked).mpr ⟨number, above⟩
    exact ⟨claimed.2.2.2 asked some, counted.2.2.2 asked some⟩

theorem onlyLowers_of_finite (asked : maxTokens.isInfinite = false)
    (claimIn : (usage.field "prompt_tokens").isInfinite = false)
    (claimOut : (number decimal (usage.field "prompt_tokens")).isSome = true →
      (usage.field "completion_tokens").isInfinite = false) :
    OnlyLowers encode decimal prompt response usage maxTokens ↔
      Modest encode decimal response usage maxTokens := by
  obtain ⟨cap, capped, is⟩ := @capOut_finite decimal maxTokens asked
  have shape (completion) : Modest encode decimal response usage maxTokens :=
    ⟨asked, claimIn, claimOut, completion⟩
  rcases claims_finite claimIn claimOut with ⟨first, second, claims, here, there⟩ | ⟨claims, none⟩
  · rw [onlyLowers_of_read prompt response usage maxTokens capped is claims]
    constructor
    · intro within
      apply shape
      intro _ claimed same
      obtain rfl := Option.some.inj (there.symm.trans same)
      rcases within with short | ⟨most, capped, below⟩
      · exact Or.inl short
      · exact Or.inr ⟨most, ((is most).mp capped).1, ((is most).mp capped).2, below⟩
    · intro modest
      rcases modest.completion (by rw [here]; rfl) second there with
        short | ⟨most, number, above, below⟩
      · exact Or.inl short
      · exact Or.inr ⟨most, (is most).mpr ⟨number, above⟩, below⟩
  · rw [onlyLowers_of_read prompt response usage maxTokens capped is claims]
    apply iff_of_true (Or.inl (Int.natCast_nonneg _))
    apply shape
    intro some claimed same
    rw [none some] at same
    cases same

theorem not_onlyLowers_of_raised {prompt response usage maxTokens : Datum} {raised : Raised}
    (failed : exchangeTokens encode decimal prompt response usage maxTokens = .error raised) :
    ¬OnlyLowers encode decimal prompt response usage maxTokens := by
  rw [OnlyLowers, failed]
  exact id

theorem exchangeTokens_raises {usage maxTokens : Datum} (prompt response : Datum)
    (asked : maxTokens.isInfinite = false)
    (failed : claims decimal usage = .error .overflowError) :
    exchangeTokens encode decimal prompt response usage maxTokens = .error .overflowError := by
  obtain ⟨cap, capped, _⟩ := @capOut_finite decimal maxTokens asked
  rw [exchangeTokens, capped, failed]
  rfl

/-- A usage block only lowers the measure exactly when the numbers that are read are
finite and the completion claimed is within the response, or the cap is. -/
theorem usage_only_lowers_iff (encode : Encoder) (decimal : Char → Option Nat)
    (prompt response usage maxTokens : Datum) :
    OnlyLowers encode decimal prompt response usage maxTokens ↔
      Modest encode decimal response usage maxTokens := by
  cases asked : maxTokens.isInfinite with
  | true =>
    have raised : exchangeTokens encode decimal prompt response usage maxTokens =
        .error .overflowError := by
      rw [exchangeTokens, capOut_infinite asked]
      rfl
    apply iff_of_false (not_onlyLowers_of_raised raised)
    exact fun modest => absurd (asked.symm.trans modest.asked) (by decide)
  | false =>
    have raises (failed : claims decimal usage = .error .overflowError) :=
      not_onlyLowers_of_raised
        (@exchangeTokens_raises encode decimal usage maxTokens prompt response asked failed)
    cases claimIn : (usage.field "prompt_tokens").isInfinite with
    | true =>
      apply iff_of_false (raises (claims_infinite_in claimIn))
      exact fun modest => absurd (claimIn.symm.trans modest.claimIn) (by decide)
    | false =>
      by_cases claimOut : (number decimal (usage.field "prompt_tokens")).isSome = true →
          (usage.field "completion_tokens").isInfinite = false
      · exact onlyLowers_of_finite prompt response usage maxTokens asked claimIn claimOut
      · obtain ⟨some, infinite⟩ := Classical.not_imp.mp claimOut
        have failed := claims_infinite_out claimIn some (by simpa using infinite)
        exact iff_of_false (raises failed) fun modest => claimOut modest.claimOut

end Exchange

def longClaim : Datum := .dict [("prompt_tokens", .whole 1), ("completion_tokens", .whole 1000)]

theorem long_claim_raises_measure :
    ¬ ∀ (encode : Encoder) (decimal : Char → Option Nat)
      (prompt response usage maxTokens : Datum),
      OnlyLowers encode decimal prompt response usage maxTokens := by
  intro always
  have raised := always (fun _ => none) asciiDigit (.text "question") (.text "answer") longClaim
    .null
  exact absurd raised.2.1.2 (by decide +kernel)

end Hartos.BudgetGate
