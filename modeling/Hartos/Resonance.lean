import Hartos.SharedRow
import Hartos.StepSystem

/-!
The wallet of one person and the database sessions that award to it and spend from it.
An award changes the wallet a session has in memory, and a flush writes the columns that
changed; a spend is one conditional update of the row itself. Every other step of another
session may come between two statements.
-/
namespace Hartos.Resonance
open SharedRow StepSystem

structure ResonanceWallet where
  pulse : Int
  spark : Int
  sparkLifetime : Int
  level : Int
  levelTitle : String
  xp : Int
  xpNextLevel : Int
  seasonPulse : Int
  seasonSpark : Int
  deriving DecidableEq

inductive Currency where
  | pulse | spark | xp
  deriving DecidableEq

structure Source where
  sourceType : String
  sourceId : Option String
  description : String
  deriving DecidableEq

structure ResonanceTransaction where
  currency : Currency
  amount : Int
  balanceAfter : Int
  source : Source
  deriving DecidableEq

def levelTitles : List (Int × String) :=
  [(1, "Newcomer"), (3, "Contributor"), (5, "Regular"), (8, "Established"), (10, "Veteran"),
    (15, "Expert"), (20, "Master"), (25, "Luminary"), (30, "Legend"), (40, "Architect"),
    (50, "Founding Pillar")]

def titleForLevel (level : Int) : String :=
  levelTitles.foldl (fun title entry => if level ≥ entry.1 then entry.2 else title) "Newcomer"

/-- The loop of `_check_level_up`. The points a level takes come from a floating-point
power, `xpForLevel`; as each takes at least one, the points bound the rounds. -/
def checkLevelUp (xpForLevel : Int → Int) : Nat → ResonanceWallet → ResonanceWallet
  | 0, wallet => wallet
  | fuel + 1, wallet =>
      if wallet.xp ≥ wallet.xpNextLevel then
        checkLevelUp xpForLevel fuel
          { wallet with
            xp := wallet.xp - wallet.xpNextLevel
            level := wallet.level + 1
            levelTitle := titleForLevel (wallet.level + 1)
            xpNextLevel := xpForLevel (wallet.level + 1 + 1) }
      else wallet

structure Loaded where
  original : ResonanceWallet
  current : ResonanceWallet
  deriving DecidableEq

inductive Operation where
  | awardPulse (amount : Nat) (source : Source)
  | awardSpark (amount : Nat) (source : Source)
  | awardXp (amount : Nat) (source : Source)
  | spendSpark (amount : Nat) (source : Source)
  deriving DecidableEq

inductive Stage where
  | ready
  | flushing (levels : Bool)
  | debiting (amount : Nat) (source : Source)
  | refreshing (amount : Nat) (source : Source) (debited : Bool)
  deriving DecidableEq

structure Session where
  wallet : Option Loaded
  transactions : List ResonanceTransaction
  stage : Stage
  awarded : Nat
  spent : Nat
  deriving DecidableEq

def Session.fresh : Session := ⟨none, [], .ready, 0, 0⟩

structure State where
  row : Row Nat ResonanceWallet
  sessions : Nat → Session
  ledger : List ResonanceTransaction
  awarded : Nat
  spent : Nat

def column {Column : Type} [DecidableEq Column] (original current stored : Column) : Column :=
  if current = original then stored else current

def Loaded.merge (wallet : Loaded) (stored : ResonanceWallet) : ResonanceWallet :=
  { pulse := column wallet.original.pulse wallet.current.pulse stored.pulse
    spark := column wallet.original.spark wallet.current.spark stored.spark
    sparkLifetime := column wallet.original.sparkLifetime wallet.current.sparkLifetime
      stored.sparkLifetime
    level := column wallet.original.level wallet.current.level stored.level
    levelTitle := column wallet.original.levelTitle wallet.current.levelTitle stored.levelTitle
    xp := column wallet.original.xp wallet.current.xp stored.xp
    xpNextLevel := column wallet.original.xpNextLevel wallet.current.xpNextLevel
      stored.xpNextLevel
    seasonPulse := column wallet.original.seasonPulse wallet.current.seasonPulse
      stored.seasonPulse
    seasonSpark := column wallet.original.seasonSpark wallet.current.seasonSpark
      stored.seasonSpark }

namespace State
variable (state : State) (session : Nat) (xpForLevel : Int → Int)

def keep (next : Session) : State :=
  { state with sessions := Function.update state.sessions session next }

/-- `get_or_create_wallet` of a wallet that exists: what the identity map still has is
not read again. -/
def load (kept : Bool) : Loaded :=
  match (state.sessions session).wallet with
  | none => ⟨state.row.seen session, state.row.seen session⟩
  | some wallet => if kept then wallet else ⟨state.row.seen session, state.row.seen session⟩

def begin (kept : Bool) (operation : Operation) : State :=
  let mine := state.sessions session
  let loaded := state.load session kept
  let wallet := loaded.current
  match operation with
  | .awardPulse amount source =>
      let wallet := { wallet with
        pulse := wallet.pulse + amount
        seasonPulse := wallet.seasonPulse + amount }
      state.keep session { mine with
        wallet := some ⟨loaded.original, wallet⟩
        transactions := mine.transactions ++ [⟨.pulse, amount, wallet.pulse, source⟩]
        stage := .flushing false }
  | .awardSpark amount source =>
      let wallet := { wallet with
        spark := wallet.spark + amount
        sparkLifetime := wallet.sparkLifetime + amount
        seasonSpark := wallet.seasonSpark + amount }
      state.keep session { mine with
        wallet := some ⟨loaded.original, wallet⟩
        transactions := mine.transactions ++ [⟨.spark, amount, wallet.spark, source⟩]
        stage := .flushing false
        awarded := mine.awarded + amount }
  | .awardXp amount source =>
      let wallet := { wallet with xp := wallet.xp + amount }
      state.keep session { mine with
        wallet := some ⟨loaded.original, wallet⟩
        transactions := mine.transactions ++ [⟨.xp, amount, wallet.xp, source⟩]
        stage := .flushing true }
  | .spendSpark amount source =>
      state.keep session { mine with wallet := some loaded, stage := .debiting amount source }

def flushed (wallet : ResonanceWallet) (levels : Bool) : Loaded × Stage :=
  if levels then
    (⟨wallet, checkLevelUp xpForLevel (wallet.xp.toNat + 1) wallet⟩, .flushing false)
  else (⟨wallet, wallet⟩, .ready)

def flush (state : State) (session : Nat) (levels : Bool) : State :=
  let mine := state.sessions session
  match mine.wallet with
  | none => state
  | some wallet =>
      let (next, stage) := flushed xpForLevel wallet.current levels
      if wallet.current = wallet.original then
        state.keep session { mine with wallet := some next, stage }
      else if state.row.free session then
        { state with row := state.row.write session (wallet.merge (state.row.seen session)) }.keep
          session { mine with wallet := some next, stage }
      else state

def debit (amount : Nat) (source : Source) : State :=
  let mine := state.sessions session
  if state.row.free session then
    let stored := state.row.seen session
    if stored.spark ≥ amount then
      { state with
        row := state.row.write session { stored with spark := stored.spark - amount } }.keep
          session { mine with
            stage := .refreshing amount source true
            spent := mine.spent + amount }
    else state.keep session { mine with stage := .refreshing amount source false }
  else state

def refresh (amount : Nat) (source : Source) (debited : Bool) : State :=
  let mine := state.sessions session
  let stored := state.row.seen session
  if debited then
    state.keep session { mine with
      wallet := some ⟨stored, stored⟩
      transactions := mine.transactions ++ [⟨.spark, -amount, stored.spark, source⟩]
      stage := .flushing false }
  else state.keep session { mine with wallet := some ⟨stored, stored⟩, stage := .ready }

def advance (state : State) (session : Nat) : State :=
  match (state.sessions session).stage with
  | .ready => state
  | .flushing levels => flush xpForLevel state session levels
  | .debiting amount source => state.debit session amount source
  | .refreshing amount source debited => state.refresh session amount source debited

def commit (state : State) (session : Nat) : State :=
  let mine := state.sessions session
  { row := state.row.commit session
    sessions := Function.update state.sessions session
      { mine with transactions := [], awarded := 0, spent := 0 }
    ledger := state.ledger ++ mine.transactions
    awarded := state.awarded + mine.awarded
    spent := state.spent + mine.spent }

def close : State :=
  { state with row := state.row.rollback session }.keep session Session.fresh

/-- The update of `award_action_once` that sets the row to itself. -/
def lock : State :=
  if state.row.free session then
    { state with row := state.row.write session (state.row.seen session) }
  else state

def opened (wallet : ResonanceWallet) : State :=
  ⟨⟨wallet, none⟩, fun _ => Session.fresh, [], 0, 0⟩

end State

/-- `kept` says whether the identity map still has the wallet it once read. -/
inductive Event where
  | begin (session : Nat) (kept : Bool) (operation : Operation)
  | advance (session : Nat)
  | lock (session : Nat)
  | commit (session : Nat)
  | close (session : Nat)
  deriving DecidableEq

def step (xpForLevel : Int → Int) (state : State) : Event → State
  | .begin session kept operation =>
      if (state.sessions session).stage = .ready then state.begin session kept operation else state
  | .advance session => state.advance xpForLevel session
  | .lock session => if (state.sessions session).stage = .ready then state.lock session else state
  | .commit session =>
      if (state.sessions session).stage = .ready then state.commit session else state
  | .close session => state.close session

end Hartos.Resonance
