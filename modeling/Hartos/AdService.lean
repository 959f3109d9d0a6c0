import Hartos.MeteredUsage
import Hartos.StepSystem
import Mathlib.Logic.Function.Basic
import Mathlib.Tactic.Linarith

/-!
Ads, the Spark they are paid with and the Spark their impressions and clicks earn the
people who host nodes. Costs are rational; the spent counter of an ad is whole.
-/
namespace Hartos.Ads
open StepSystem Metering

def defaultCpi : ℚ := 1 / 10

def defaultCpc : ℚ := 1

def minBudget : Int := 50

def maxImpressionsPerUserPerAdPerHour : Nat := 3

def maxClicksPerUserPerAdPerHour : Nat := 1

def hosterRevenueShare : ℚ := 9 / 10

def hosterUnwitnessedShare : ℚ := 1 / 2

def adImpressionServed : Int := 1

structure AdUnit where
  advertiserId : String
  title : String
  content : String
  imageUrl : String
  clickUrl : String
  adType : String
  targeting : String
  budgetSpark : Int
  spentSpark : Int
  costPerImpression : ℚ
  costPerClick : ℚ
  impressionCount : Nat
  clickCount : Nat
  status : String
  deriving DecidableEq

inductive ImpressionType where
  | view | click
  deriving DecidableEq

structure AdImpression where
  impressionType : ImpressionType
  userId : Option String
  nodeId : Option String
  witnessed : Bool
  createdAt : Time
  deriving DecidableEq

structure AdUpdates where
  title : Option String := none
  content : Option String := none
  imageUrl : Option String := none
  clickUrl : Option String := none
  adType : Option String := none
  targeting : Option String := none
  status : Option String := none
  deriving DecidableEq

structure Viewing where
  userId : Option String
  nodeId : Option String
  now : Time
  witness : Bool
  deriving DecidableEq

structure AdRequest where
  advertiserId : String
  title : String
  clickUrl : String
  content : String := ""
  imageUrl : String := ""
  adType : String := "banner"
  targeting : String := ""
  budgetSpark : Int := 100
  costPerImpression : ℚ := 1 / 10
  costPerClick : ℚ := 1
  deriving DecidableEq

inductive Response where
  | missing
  | error (message : String)
  | updated
  | deleted (sparkRefunded : Int)
  | recorded (witnessed : Bool)
  deriving DecidableEq

/-- One ad with its impressions and clicks, the Spark of everybody, and what has moved:
debited when the ad was created, charged for what was accepted, refunded, and credited
to the people who host nodes against their share. -/
structure State where
  ad : Option AdUnit
  impressions : List AdImpression
  spark : String → Int
  debited : Int
  accepted : ℚ
  refunded : Int
  credited : Int
  shares : ℚ

namespace ImpressionType

def limit : ImpressionType → Nat
  | .view => maxImpressionsPerUserPerAdPerHour
  | .click => maxClicksPerUserPerAdPerHour

def rateLimitError : ImpressionType → String
  | .view => "Rate limit exceeded"
  | .click => "Click rate limit exceeded"

def cost (kind : ImpressionType) (ad : AdUnit) : ℚ :=
  match kind with
  | .view => if ad.costPerImpression = 0 then defaultCpi else ad.costPerImpression
  | .click => if ad.costPerClick = 0 then defaultCpc else ad.costPerClick

def count (kind : ImpressionType) (ad : AdUnit) : AdUnit :=
  match kind with
  | .view => { ad with impressionCount := ad.impressionCount + 1 }
  | .click => { ad with clickCount := ad.clickCount + 1 }

end ImpressionType

namespace State
variable (operators : String → Option String) (state : State) (advertiserId : String)

def award (userId : String) (amount : Int) : State :=
  { state with spark := Function.update state.spark userId (state.spark userId + amount) }

def createAd (request : AdRequest) : Response × State :=
  if request.budgetSpark < minBudget then
    (.error s!"Minimum budget is {minBudget} Spark", state)
  else if request.title = "" ∨ request.clickUrl = "" then
    (.error "Title and click_url are required", state)
  else if state.spark request.advertiserId < request.budgetSpark then
    (.error "Insufficient Spark", state)
  else
    (.updated, { state.award request.advertiserId (-request.budgetSpark) with
      ad := some
        { advertiserId := request.advertiserId
          title := request.title
          content := request.content
          imageUrl := request.imageUrl
          clickUrl := request.clickUrl
          adType := request.adType
          targeting := request.targeting
          budgetSpark := request.budgetSpark
          spentSpark := 0
          costPerImpression := request.costPerImpression
          costPerClick := request.costPerClick
          impressionCount := 0
          clickCount := 0
          status := "active" }
      debited := state.debited + request.budgetSpark })

def owned : Option AdUnit :=
  state.ad.filter fun ad => ad.advertiserId = advertiserId

/-- `update_ad`: the status is among what may be set, to anything. -/
def updateAd (updates : AdUpdates) : Response × State :=
  match state.owned advertiserId with
  | none => (.missing, state)
  | some ad =>
      (.updated, { state with ad := some { ad with
        title := updates.title.getD ad.title
        content := updates.content.getD ad.content
        imageUrl := updates.imageUrl.getD ad.imageUrl
        clickUrl := updates.clickUrl.getD ad.clickUrl
        adType := updates.adType.getD ad.adType
        targeting := updates.targeting.getD ad.targeting
        status := updates.status.getD ad.status } })

def pauseAd : Response × State :=
  match state.owned advertiserId with
  | none => (.missing, state)
  | some ad => (.updated, { state with ad := some { ad with status := "paused" } })

def unspent (ad : AdUnit) : Int := max 0 (ad.budgetSpark - ad.spentSpark)

def deleteAd : Response × State :=
  match state.owned advertiserId with
  | none => (.missing, state)
  | some ad =>
      (.deleted (unspent ad),
        { (if unspent ad > 0 then state.award advertiserId (unspent ad) else state) with
          ad := some { ad with status := "completed" }
          refunded := state.refunded + unspent ad })

def checkRateLimit (userId : String) (kind : ImpressionType) (now : Time) : Bool :=
  (state.impressions.filter fun impression =>
    decide (impression.userId = some userId) && decide (impression.impressionType = kind) &&
      decide (impression.createdAt ≥ now - seconds 3600)).length < kind.limit

def withinRate (viewing : Viewing) (kind : ImpressionType) : Bool :=
  match viewing.userId with
  | none => true
  | some userId => userId = "" || state.checkRateLimit userId kind viewing.now

def creditNodeHoster (nodeId : String) (sparkAmount : ℚ) : State :=
  match operators nodeId with
  | none => state
  | some operator =>
      if sparkAmount ≥ 1 then
        { state.award operator (truncate sparkAmount) with
          credited := state.credited + truncate sparkAmount }
      else state

def creditShare (viewing : Viewing) (cost : ℚ) : State :=
  match viewing.nodeId with
  | none => state
  | some nodeId =>
      if nodeId = "" then state
      else
        let share := if viewing.witness then hosterRevenueShare else hosterUnwitnessedShare
        { creditNodeHoster operators state nodeId (cost * share) with
          shares := state.shares + cost * share }

def awardViewer (viewing : Viewing) (kind : ImpressionType) : State :=
  match kind, viewing.userId with
  | .view, some userId => if userId = "" then state else state.award userId adImpressionServed
  | _, _ => state

def witnessed (viewing : Viewing) : Bool :=
  viewing.witness && decide (viewing.nodeId.getD "" ≠ "")

def charge (kind : ImpressionType) (viewing : Viewing) (ad : AdUnit) : State :=
  { state with
    ad := some (kind.count { ad with spentSpark := truncate (ad.spentSpark + kind.cost ad) })
    impressions := state.impressions ++
      [⟨kind, viewing.userId, viewing.nodeId, witnessed viewing, viewing.now⟩]
    accepted := state.accepted + kind.cost ad }

def record (kind : ImpressionType) (state : State) (viewing : Viewing) : Response × State :=
  match state.ad.filter fun ad => ad.status = "active" with
  | none => (.missing, state)
  | some ad =>
      if !state.withinRate viewing kind then (.error kind.rateLimitError, state)
      else if ad.spentSpark + kind.cost ad > ad.budgetSpark then
        (.error "Ad budget exhausted",
          { state with ad := some { ad with status := "exhausted" } })
      else
        (.recorded (witnessed viewing),
          (creditShare operators (state.charge kind viewing ad) viewing (kind.cost ad)).awardViewer
            viewing kind)

def recordImpression : State → Viewing → Response × State := record operators .view

def recordClick : State → Viewing → Response × State := record operators .click

def fresh (spark : String → Int) : State := ⟨none, [], spark, 0, 0, 0, 0, 0⟩

end State

inductive Event where
  | create (request : AdRequest)
  | update (advertiserId : String) (updates : AdUpdates)
  | pause (advertiserId : String)
  | delete (advertiserId : String)
  | impression (viewing : Viewing)
  | click (viewing : Viewing)
  deriving DecidableEq

/-- The calls on one ad; it is created once. `operators` says who is known to host a
node. -/
def step (operators : String → Option String) (state : State) : Event → State
  | .create request => if state.ad.isNone then (state.createAd request).2 else state
  | .update advertiserId updates => (state.updateAd advertiserId updates).2
  | .pause advertiserId => (state.pauseAd advertiserId).2
  | .delete advertiserId => (state.deleteAd advertiserId).2
  | .impression viewing => (State.recordImpression operators state viewing).2
  | .click viewing => (State.recordClick operators state viewing).2

end Hartos.Ads
