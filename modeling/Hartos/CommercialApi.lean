import Hartos.SharedRow
import Hartos.StepSystem
import Hartos.Task

/-!
The monthly quota of one API key. Each request runs in a database session of its own:
it validates the key, reserves one unit by writing back the usage it read plus one, runs
its handler and commits. The daily reset of expired months is a session of the same kind.
-/
namespace Hartos.CommercialApi
open SharedRow StepSystem

structure CommercialAPIKey where
  isActive : Bool
  expiresAt : Option Time
  monthlyQuota : Int
  usageThisMonth : Int
  usageResetAt : Option Time
  deriving DecidableEq

def thirtyDays : Time := seconds (30 * 24 * 3600)

def CommercialAPIKey.valid (key : CommercialAPIKey) (now : Time) : Bool :=
  key.isActive && !(key.expiresAt.any fun expires => decide (expires < now)) &&
    !decide (key.usageThisMonth ≥ key.monthlyQuota)

def CommercialAPIKey.due (key : CommercialAPIKey) (now : Time) : Bool :=
  key.isActive && key.usageResetAt.any fun reset => decide (reset ≤ now)

/-- Where a session stands: in `require_api_key`, in a handler that may release its
unit, or in `reset_monthly_quotas`. -/
inductive Stage where
  | idle
  | rating
  | reserving
  | counting (current : Int)
  | running
  | releasing (current : Int)
  | resetting (usage : Int) (now : Time)
  | resetDone
  deriving DecidableEq

structure Session where
  key : Option CommercialAPIKey
  stage : Stage
  reserved : Int
  deriving DecidableEq

def Session.fresh : Session := ⟨none, .idle, 0⟩

/-- `admitted` counts the calls that `reserve_quota` admitted since the last reset, less
the released ones. -/
structure State where
  row : Row Nat CommercialAPIKey
  sessions : Nat → Session
  admitted : Int

inductive Event where
  | arrive (session : Nat) (now : Time)
  /-- The next statement: whether the identity map still has the key, and what the count
  of the day's calls says. -/
  | advance (session : Nat) (kept withinRate : Bool)
  | release (session : Nat) (kept : Bool)
  | reset (session : Nat) (now : Time)
  | commit (session : Nat)
  | fail (session : Nat)
  deriving DecidableEq

namespace State
variable (state : State) (session : Nat) (kept : Bool)

def keep (next : Session) : State :=
  { state with sessions := Function.update state.sessions session next }

def load : CommercialAPIKey :=
  match (state.sessions session).key with
  | none => state.row.seen session
  | some key => if kept then key else state.row.seen session

def validate (now : Time) : State :=
  let key := state.row.seen session
  if key.valid now then state.keep session ⟨some key, .rating, 0⟩ else state

def readQuota : State :=
  let key := state.load session kept
  if key.usageThisMonth ≥ key.monthlyQuota then state.keep session Session.fresh
  else state.keep session ⟨some key, .counting key.usageThisMonth, 0⟩

def reserveQuota (current : Int) : State :=
  if state.row.free session then
    let key := { state.row.seen session with usageThisMonth := current + 1 }
    { state with
      row := state.row.write session key
      admitted := state.admitted + 1 }.keep session ⟨some key, .running, 1⟩
  else state

def readRelease : State :=
  let mine := state.sessions session
  let key := state.load session kept
  if key.usageThisMonth > 0 then
    state.keep session ⟨some key, .releasing key.usageThisMonth, mine.reserved⟩
  else state

def releaseQuota (current : Int) : State :=
  let mine := state.sessions session
  if state.row.free session then
    let key := { state.row.seen session with usageThisMonth := current - 1 }
    { state with
      row := state.row.write session key
      admitted := state.admitted - 1 }.keep session ⟨some key, .running, mine.reserved - 1⟩
  else state

def readReset (now : Time) : State :=
  let key := state.row.seen session
  if key.due now then state.keep session ⟨some key, .resetting key.usageThisMonth now, 0⟩
  else state

/-- The flush of `reset_monthly_quotas`: a usage read as zero is not a changed column. -/
def resetMonthlyQuotas (usage : Int) (now : Time) : State :=
  if state.row.free session then
    let stored := state.row.seen session
    let key := { stored with
      usageThisMonth := if usage = 0 then stored.usageThisMonth else 0
      usageResetAt := some (now + thirtyDays) }
    { state with row := state.row.write session key }.keep session ⟨some key, .resetDone, 0⟩
  else state

def advance (kept withinRate : Bool) : State :=
  match (state.sessions session).stage with
  | .rating =>
      -- `check_rate_limit` reads the key again; a refused request is closed.
      if withinRate then state.keep session ⟨some (state.load session kept), .reserving, 0⟩
      else state.keep session Session.fresh
  | .reserving => state.readQuota session kept
  | .counting current => state.reserveQuota session current
  | .releasing current => state.releaseQuota session current
  | .resetting usage now => state.resetMonthlyQuotas session usage now
  | .idle | .running | .resetDone => state

def commit (state : State) (session : Nat) : State :=
  match (state.sessions session).stage with
  | .running => { state with row := state.row.commit session }.keep session Session.fresh
  | .resetDone =>
      { state with row := state.row.commit session, admitted := 0 }.keep session Session.fresh
  | _ => state

def fail : State :=
  { state with row := state.row.rollback session }.keep session Session.fresh

def opened (key : CommercialAPIKey) : State := ⟨⟨key, none⟩, fun _ => Session.fresh, 0⟩

end State

def step (state : State) : Event → State
  | .arrive session now =>
      if (state.sessions session).stage = .idle then state.validate session now else state
  | .advance session kept withinRate => state.advance session kept withinRate
  | .release session kept =>
      if (state.sessions session).stage = .running then state.readRelease session kept else state
  | .reset session now =>
      if (state.sessions session).stage = .idle then state.readReset session now else state
  | .commit session => state.commit session
  | .fail session => state.fail session

end Hartos.CommercialApi
