import Hartos.AdService

/-!
What an ad costs its advertiser: over any sequence of calls what was accepted and what
was refunded fit what was debited, as long as the whole spent counter loses nothing of
a cost and nothing is charged or refunded after a refund.
-/
namespace Hartos.Ads
open StepSystem Metering State

def Conserves (state : State) : Prop :=
  state.accepted + state.refunded ≤ state.debited ∧ (state.credited : ℚ) ≤ state.shares

instance : DecidablePred Conserves := fun state => inferInstanceAs (Decidable
  (state.accepted + state.refunded ≤ state.debited ∧ (state.credited : ℚ) ≤ state.shares))

def State.charges (state : State) (kind : ImpressionType) (viewing : Viewing) : Option AdUnit :=
  (state.ad.filter fun ad => ad.status = "active").filter fun ad =>
    state.withinRate viewing kind && !decide (ad.spentSpark + kind.cost ad > ad.budgetSpark)

def State.exact (state : State) (kind : ImpressionType) (ad : AdUnit) : Bool :=
  decide (state.refunded = 0) && decide (0 ≤ kind.cost ad) &&
    decide ((truncate (ad.spentSpark + kind.cost ad) : ℚ) = ad.spentSpark + kind.cost ad)

def Exact (state : State) : Event → Prop
  | .impression viewing => (state.charges .view viewing).all (state.exact .view) = true
  | .click viewing => (state.charges .click viewing).all (state.exact .click) = true
  | .delete advertiserId => (state.owned advertiserId).all (fun _ => state.refunded = 0) = true
  | _ => True

instance (state : State) : (event : Event) → Decidable (Exact state event)
  | .impression viewing =>
      inferInstanceAs (Decidable ((state.charges .view viewing).all (state.exact .view) = true))
  | .click viewing =>
      inferInstanceAs (Decidable ((state.charges .click viewing).all (state.exact .click) = true))
  | .delete advertiserId => inferInstanceAs
      (Decidable ((state.owned advertiserId).all (fun _ => state.refunded = 0) = true))
  | .create _ => .isTrue trivial
  | .update _ _ => .isTrue trivial
  | .pause _ => .isTrue trivial

structure Paid (state : State) (ad : AdUnit) : Prop where
  debited : state.debited = ad.budgetSpark
  accepted : state.accepted = ad.spentSpark
  within : ad.spentSpark ≤ ad.budgetSpark
  refunded : state.refunded = 0 ∨ state.refunded = ad.budgetSpark - ad.spentSpark

structure Kept (state : State) : Prop where
  credited : (state.credited : ℚ) ≤ state.shares
  absent : state.ad = none → state.debited = 0 ∧ state.accepted = 0 ∧ state.refunded = 0
  paid : ∀ ad, state.ad = some ad → Paid state ad

theorem Kept.conserves (state : State) (kept : Kept state) : Conserves state := by
  refine ⟨?_, kept.credited⟩
  cases present : state.ad with
  | none =>
    obtain ⟨debited, accepted, refunded⟩ := kept.absent present
    rw [debited, accepted, refunded]
    norm_num
  | some ad =>
    obtain ⟨debited, accepted, within, refunded⟩ := kept.paid ad present
    rw [debited, accepted]
    have below : ad.spentSpark + state.refunded ≤ ad.budgetSpark := by omega
    exact_mod_cast below

variable (kind : ImpressionType) (ad : AdUnit)

theorem count_budget : (kind.count ad).budgetSpark = ad.budgetSpark := by cases kind <;> rfl

theorem count_spent : (kind.count ad).spentSpark = ad.spentSpark := by cases kind <;> rfl

section Frames
variable (operators : String → Option String) (state : State)

def State.books (state : State) : Option AdUnit × Int × ℚ × Int :=
  (state.ad, state.debited, state.accepted, state.refunded)
variable (nodeId : String) (amount : ℚ) (viewing : Viewing) (kind : ImpressionType)

theorem creditNodeHoster_books :
    (creditNodeHoster operators state nodeId amount).books = state.books := by
  unfold creditNodeHoster
  split
  · rfl
  · split <;> rfl

theorem creditShare_books (cost : ℚ) :
    (creditShare operators state viewing cost).books = state.books := by
  unfold creditShare
  split
  · rfl
  split
  · rfl
  · exact creditNodeHoster_books operators state _ _

theorem awardViewer_books : (state.awardViewer viewing kind).books = state.books := by
  unfold awardViewer
  split
  · split <;> rfl
  · rfl

theorem awardViewer_credits :
    (state.awardViewer viewing kind).credited = state.credited ∧
      (state.awardViewer viewing kind).shares = state.shares := by
  unfold awardViewer
  split
  · split <;> exact ⟨rfl, rfl⟩
  · exact ⟨rfl, rfl⟩

theorem creditNodeHoster_credits (nonneg : 0 ≤ amount) :
    ((creditNodeHoster operators state nodeId amount).credited : ℚ) ≤ state.credited + amount := by
  have below := truncate_le amount nonneg
  unfold creditNodeHoster
  split
  · linarith
  split
  · push_cast
    linarith
  · linarith

/-- What is credited of a cost never passes the share of it. -/
theorem creditShare_credits (cost : ℚ) (nonneg : 0 ≤ cost)
    (before : (state.credited : ℚ) ≤ state.shares) :
    ((creditShare operators state viewing cost).credited : ℚ) ≤
      (creditShare operators state viewing cost).shares := by
  unfold creditShare
  split
  · exact before
  next nodeId _ =>
    split
    · exact before
    have share : 0 ≤ cost * (if viewing.witness then hosterRevenueShare
        else hosterUnwitnessedShare) := by
      apply mul_nonneg nonneg
      split
      · norm_num [hosterRevenueShare]
      · norm_num [hosterUnwitnessedShare]
    have credits := creditNodeHoster_credits operators state nodeId _ share
    linarith

end Frames

section Steps
variable {state : State}

theorem Kept.credit (kept : Kept state) (next : State) (books : next.books = state.books)
    (credited : (next.credited : ℚ) ≤ next.shares) : Kept next := by
  simp only [State.books, Prod.mk.injEq] at books
  obtain ⟨ad, debited, accepted, refunded⟩ := books
  refine ⟨credited, ?_, ?_⟩
  · rw [ad, debited, accepted, refunded]
    exact kept.absent
  · intro unit here
    obtain ⟨debit, accept, within, refund⟩ := kept.paid unit (ad ▸ here)
    exact ⟨debited ▸ debit, accepted ▸ accept, within, refunded ▸ refund⟩

theorem Kept.edit (kept : Kept state) (ad next : AdUnit) (present : state.ad = some ad)
    (budget : next.budgetSpark = ad.budgetSpark) (spent : next.spentSpark = ad.spentSpark) :
    Kept { state with ad := some next } where
  credited := kept.credited
  absent := by simp
  paid := by
    rintro unit ⟨rfl⟩
    obtain ⟨debited, accepted, within, refunded⟩ := kept.paid ad present
    constructor
    · rw [budget]
      exact debited
    · rw [spent]
      exact accepted
    · rw [budget, spent]
      exact within
    · rw [budget, spent]
      exact refunded

theorem owned_ad (advertiserId : String) (ad : AdUnit) (found : state.owned advertiserId = some ad) :
    state.ad = some ad := (Option.filter_eq_some_iff.mp found).1

theorem createAd_kept (kept : Kept state) (request : AdRequest) (none : state.ad.isNone) :
    Kept (state.createAd request).2 := by
  obtain ⟨debited, accepted, refunded⟩ := kept.absent (Option.isNone_iff_eq_none.mp none)
  unfold createAd
  split
  · exact kept
  next enough =>
    split
    · exact kept
    split
    · exact kept
    · refine ⟨kept.credited, by simp, ?_⟩
      rintro ad ⟨rfl⟩
      have positive : minBudget ≤ request.budgetSpark := by omega
      refine ⟨by simp [debited], ?_, ?_, .inl refunded⟩
      · simpa [State.award] using accepted
      · dsimp only
        unfold minBudget at positive
        omega

theorem deleteAd_kept (kept : Kept state) (advertiserId : String)
    (exact : Exact state (.delete advertiserId)) : Kept (state.deleteAd advertiserId).2 := by
  simp only [Exact] at exact
  unfold deleteAd
  split
  · exact kept
  next ad found =>
    obtain ⟨debited, accepted, within, refunded⟩ := kept.paid ad (owned_ad advertiserId ad found)
    have none : state.refunded = 0 := by simpa [found] using exact
    have left : unspent ad = ad.budgetSpark - ad.spentSpark := by
      unfold unspent
      omega
    -- The refund itself moves Spark to the advertiser and nothing else.
    have books : (if unspent ad > 0 then state.award advertiserId (unspent ad) else state).books =
        state.books := by split <;> rfl
    have credits : (if unspent ad > 0 then state.award advertiserId (unspent ad)
        else state).credited = state.credited := by split <;> rfl
    have shares : (if unspent ad > 0 then state.award advertiserId (unspent ad)
        else state).shares = state.shares := by split <;> rfl
    simp only [State.books, Prod.mk.injEq] at books
    refine ⟨?_, by simp, ?_⟩
    · rw [credits, shares]
      exact kept.credited
    · rintro unit ⟨rfl⟩
      refine ⟨?_, ?_, within, .inr ?_⟩
      · rw [books.2.1]
        exact debited
      · rw [books.2.2.1]
        exact accepted
      · dsimp only
        omega

theorem record_kept (operators : String → Option String) (kept : Kept state)
    (kind : ImpressionType) (viewing : Viewing)
    (exact : (state.charges kind viewing).all (state.exact kind) = true) :
    Kept (State.record operators kind state viewing).2 := by
  unfold State.record
  split
  · exact kept
  next ad active =>
    have present : state.ad = some ad := (Option.filter_eq_some_iff.mp active).1
    split
    · exact kept
    next inRate =>
      split
      · exact kept.edit ad _ present rfl rfl
      next affordable =>
        have charges : state.charges kind viewing = some ad := by
          have rate : state.withinRate viewing kind = true := by simpa using inRate
          simp [State.charges, active, rate, affordable]
        rw [charges] at exact
        simp only [Option.all_some, State.exact, Bool.and_eq_true, decide_eq_true_eq] at exact
        obtain ⟨⟨none, nonneg⟩, whole⟩ := exact
        obtain ⟨debited, accepted, within, -⟩ := kept.paid ad present
        have fits : truncate (ad.spentSpark + kind.cost ad) ≤ ad.budgetSpark := by
          have below : (truncate (ad.spentSpark + kind.cost ad) : ℚ) ≤ ad.budgetSpark := by
            rw [whole]
            exact not_lt.mp affordable
          exact_mod_cast below
        -- The charge itself, before anybody is credited.
        have charged : Kept (state.charge kind viewing ad) := by
          refine ⟨kept.credited, by simp [charge], ?_⟩
          rintro unit ⟨rfl⟩
          constructor
          · rw [count_budget]
            exact debited
          · rw [count_spent]
            simp only [charge]
            rw [whole, accepted]
          · rw [count_budget, count_spent]
            exact fits
          · exact .inl none
        have credits := creditShare_credits operators _ viewing (kind.cost ad) nonneg
          charged.credited
        have viewed := awardViewer_credits
          (creditShare operators (state.charge kind viewing ad) viewing (kind.cost ad)) viewing kind
        refine charged.credit _ ((awardViewer_books _ viewing kind).trans
          (creditShare_books operators _ viewing (kind.cost ad))) ?_
        rw [viewed.1, viewed.2]
        exact credits

end Steps

theorem step_kept (operators : String → Option String) (state : State) (event : Event)
    (kept : Kept state) (exact : Exact state event) : Kept (step operators state event) := by
  cases event with
  | create request =>
    simp only [step]
    split
    next none => exact createAd_kept kept request none
    · exact kept
  | update advertiserId updates =>
    simp only [step, updateAd]
    split
    · exact kept
    next ad found => exact kept.edit ad _ (owned_ad advertiserId ad found) rfl rfl
  | pause advertiserId =>
    simp only [step, pauseAd]
    split
    · exact kept
    next ad found => exact kept.edit ad _ (owned_ad advertiserId ad found) rfl rfl
  | delete advertiserId => exact deleteAd_kept kept advertiserId exact
  | impression viewing => exact record_kept operators kept .view viewing exact
  | click viewing => exact record_kept operators kept .click viewing exact

theorem fresh_kept (spark : String → Int) : Kept (State.fresh spark) where
  credited := by simp [State.fresh]
  absent := fun _ => ⟨rfl, rfl, rfl⟩
  paid := by simp [State.fresh]

theorem ad_conserves_when_exact (operators : String → Option String) (spark : String → Int)
    (run : List Event) (exact : Along (step operators) Exact (State.fresh spark) run) :
    Always (step operators) Conserves (State.fresh spark) run :=
  always_of_invariant (step operators) Kept Conserves Exact (step_kept operators) Kept.conserves run
    (State.fresh spark) (fresh_kept spark) exact

def hundredEach : String → Int := fun _ => 100

def hosted (nodeId : String) : Option String := if nodeId = "node" then some "hoster" else none

def smallAd : AdRequest :=
  { advertiserId := "advertiser", title := "Ad", clickUrl := "url", budgetSpark := 50 }

def clicksThenDelete : List Event :=
  [.create smallAd, .click ⟨some "viewer", some "node", 0, true⟩, .pause "advertiser",
    .click ⟨some "viewer", some "node", seconds 7200, true⟩,
    .update "advertiser" { status := some "active" },
    .click ⟨some "viewer", some "node", seconds 7200, false⟩, .delete "advertiser"]

theorem ad_conserves_clicks_then_delete :
    Always (step hosted) Conserves (State.fresh hundredEach) clicksThenDelete :=
  ad_conserves_when_exact hosted hundredEach clicksThenDelete (by decide +kernel)

def impressionThenDelete : List Event :=
  [.create smallAd, .impression ⟨some "viewer", some "node", 0, true⟩, .delete "advertiser"]

theorem impression_then_delete_loses_spark :
    ¬ Conserves (final (step hosted) (State.fresh hundredEach) impressionThenDelete) := by
  decide +kernel

end Hartos.Ads
