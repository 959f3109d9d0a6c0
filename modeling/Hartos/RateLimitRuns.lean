import Hartos.RateLimits
import Hartos.StepSystem
import Hartos.WindowedAdmission

/-!
Any number of `check_and_consume` calls at once. A call passes the sections of
`check` and of `consume` one by one, the other calls in between. A window reads
the clock before it takes its lock, so a section's reading may lag behind the
clock, though never behind the call's own last section.
-/
namespace Hartos.RateLimits
open KeyedTable KeyedGroups WindowedAdmission
open Hartos.Queue (tokenUnit chatKey)

inductive Phase where
  | begun
  | hasToken (burstTokens : Int)
  | hasMinute (burstTokens minuteRemaining : Int)
  | allowed (info : RateLimitInfo)
  | burstCharged (info : RateLimitInfo)
  | minuteCharged (info : RateLimitInfo)
  | returned (info : RateLimitInfo)
  deriving DecidableEq

structure Call where
  channel : String
  chatId : String
  phase : Phase
  since : Time
  allowedAt : Option Time
  deriving DecidableEq

def Call.key (call : Call) : String := chatKey call.channel call.chatId

structure Calls where
  limiter : RateLimiter
  clock : Time
  calls : List Call

inductive Move where
  | arrive (channel chatId : String) (elapsed : Nat)
  | proceed (call : Nat) (elapsed lag : Nat)
  deriving DecidableEq

namespace Calls

def start : Calls := ⟨RateLimiter.init, 0, []⟩

def refusal (meters : Meters) (result : RateLimitResult) (burstTokens : Int) (retryAfter : Time)
    (reading : Time) : RateLimitInfo where
  allowed := false
  result := result
  remainingMinute := (meters.minute.getRemaining reading).1
  remainingHour := (meters.hour.getRemaining reading).1
  remainingBurst := burstTokens
  resetMinuteAt := reading + (meters.minute.getResetTime reading).1
  resetHourAt := reading + (meters.hour.getResetTime reading).1
  retryAfterSeconds := some retryAfter

def permission (burstTokens minuteRemaining hourRemaining : Int) (reading : Time) :
    RateLimitInfo where
  allowed := true
  result := .allowed
  remainingMinute := minuteRemaining
  remainingHour := hourRemaining
  remainingBurst := burstTokens
  resetMinuteAt := reading + seconds 60
  resetHourAt := reading + seconds 3600
  retryAfterSeconds := none

variable (config : RateLimitConfig) (state : Calls)

def pass (meters : Meters) (clock reading : Time) : Phase → Meters × Phase
  | .begun =>
      let (burstTokens, burst) := meters.burst.wholeTokens clock
      if burstTokens ≤ 0 then
        (⟨meters.minute.cleanup reading, meters.hour.cleanup reading, burst⟩,
          .returned (refusal meters .burstExceeded 0 (seconds config.burstWindowSeconds) reading))
      else ({ meters with burst := burst }, .hasToken burstTokens)
  | .hasToken burstTokens =>
      let (seen, minute) := meters.minute.check reading
      if seen.1 then ({ meters with minute := minute }, .hasMinute burstTokens seen.2)
      else
        (⟨minute, meters.hour.cleanup reading, meters.burst⟩,
          .returned
            { refusal meters .rateLimited burstTokens (minute.getResetTime reading).1 reading with
              remainingMinute := 0 })
  | .hasMinute burstTokens minuteRemaining =>
      let (seen, hour) := meters.hour.check reading
      if seen.1 then
        ({ meters with hour := hour },
          .allowed (permission burstTokens minuteRemaining seen.2 reading))
      else
        (⟨meters.minute.cleanup reading, hour, meters.burst⟩,
          .returned
            { refusal meters .rateLimited burstTokens (hour.getResetTime reading).1 reading with
              remainingMinute := minuteRemaining
              remainingHour := 0 })
  | .allowed info =>
      let (charged, burst) := meters.burst.consume clock
      ({ meters with burst := burst }, if charged then .burstCharged info else .returned info)
  | .burstCharged info =>
      let (charged, minute) := meters.minute.consume reading
      ({ meters with minute := minute }, if charged then .minuteCharged info else .returned info)
  | .minuteCharged info =>
      let (_, hour) := meters.hour.consume reading
      ({ meters with hour := hour }, .returned info)
  | .returned info => (meters, .returned info)

def tally (stats : RateLimitStats) (before after : Phase) : RateLimitStats :=
  match before, after with
  | .hasMinute _ _, .allowed _ => { stats with totalAllowed := stats.totalAllowed + 1 }
  | .begun, .returned _ => { stats with totalBurstExceeded := stats.totalBurstExceeded + 1 }
  | .hasToken _, .returned _ | .hasMinute _ _, .returned _ =>
      { stats with totalRateLimited := stats.totalRateLimited + 1 }
  | _, _ => stats

def advance (call : Call) (phase : Phase) (clock : Time) : Call :=
  { call with
    phase := phase
    since := clock
    allowedAt :=
      match call.phase, phase with
      | .hasMinute _ _, .allowed _ => some clock
      | _, _ => call.allowedAt }

def proceed (index : Nat) (clock reading : Time) : Calls :=
  match state.calls[index]? with
  | none => state
  | some call =>
      match state.limiter.counters.value? call.key with
      | none => state
      | some meters =>
          if reading < call.since then state
          else
            let (passed, phase) := pass config meters clock reading call.phase
            { limiter :=
                { state.limiter.put call.key passed with
                  stats := tally state.limiter.stats call.phase phase }
              clock := clock
              calls := state.calls.set index (advance call phase clock) }

def step : Move → Calls
  | .arrive channel chatId elapsed =>
      let clock := state.clock + elapsed
      let (_, limiter) := state.limiter.getOrCreateCounters config channel chatId clock
      { limiter :=
          { limiter with
            stats := { limiter.stats with totalRequests := limiter.stats.totalRequests + 1 } }
        clock := clock
        calls := state.calls ++ [⟨channel, chatId, .begun, clock, none⟩] }
  | .proceed index elapsed lag =>
      let clock := state.clock + elapsed
      proceed config state index clock (clock - lag)

def answers (key : String) (calls : List Call) : List Time :=
  calls.filterMap fun call => if call.key = key then call.allowedAt else none

def openedBy (key : String) (calls : List Call) : Option String :=
  (calls.find? fun call => decide (call.key = key)).map Call.channel

def WithinLimits : Prop :=
  ∀ key channel, openedBy key state.calls = some channel → ∀ finish,
    (inWindow (SlidingWindowCounter.cutoff 60) finish (answers key state.calls) : Int) ≤
        max 0 (RateLimiter.perMinute config channel) + max 0 config.burstLimit ∧
      (inWindow (SlidingWindowCounter.cutoff 3600) finish (answers key state.calls) : Int) ≤
        max 0 config.requestsPerHour + max 0 config.burstLimit

inductive Meter where
  | burst | minute | hour
  deriving DecidableEq

def owes (meter : Meter) : Phase → Bool
  | .allowed _ => true
  | .burstCharged _ => decide (meter ≠ .burst)
  | .minuteCharged _ => decide (meter = .hour)
  | _ => false

def owed (meter : Meter) (key : String) (calls : List Call) : List Time :=
  calls.filterMap fun call =>
    if call.key = key ∧ owes meter call.phase then call.allowedAt else none

/-- Where `check` is about to let a call through, each meter has more left than the
calls of the key let through before it are still to take. -/
def spare (key : String) (meters : Meters) (reading : Time) : Bool :=
  decide ((((owed .burst key state.calls).length : Int) + 1) * tokenUnit ≤ meters.burst.tokens) &&
    decide (((owed .minute key state.calls).length : Int) + meters.minute.timestamps.length <
      meters.minute.maxRequests) &&
    decide (((owed .hour key state.calls).length : Int) +
      (meters.hour.cleanup reading).timestamps.length < meters.hour.maxRequests)

def inTurn : Move → Bool
  | .arrive _ _ _ => true
  | .proceed index elapsed lag =>
      match state.calls[index]? with
      | none => true
      | some call =>
          match state.limiter.counters.value? call.key, call.phase with
          | some meters, .hasMinute _ _ =>
              let reading := state.clock + elapsed - lag
              !meters.hour.hasRoom reading || spare state call.key meters reading
          | _, _ => true

theorem cutoff_mono {windowSeconds : Int} {first second : Time} (before : first ≤ second) :
    SlidingWindowCounter.cutoff windowSeconds first ≤
      SlidingWindowCounter.cutoff windowSeconds second :=
  Int.sub_le_sub_right before _

structure Tracks (clock : Time) (counter : SlidingWindowCounter) (answered owing : List Time) :
    Prop where
  fits : owing = [] ∨ (owing.length : Int) + counter.timestamps.length ≤ counter.maxRequests
  covered : Covered (SlidingWindowCounter.cutoff counter.windowSeconds) clock answered owing
    counter.timestamps
  windowed : Windowed (SlidingWindowCounter.cutoff counter.windowSeconds) counter.maxRequests.toNat
    answered

namespace Tracks
variable {clock : Time} {counter : SlidingWindowCounter} {answered owing : List Time}

theorem perm {answered' owing' : List Time} (tracks : Tracks clock counter answered owing)
    (sameAnswers : answered'.Perm answered) (sameOwing : owing'.Perm owing) :
    Tracks clock counter answered' owing' where
  fits := by
    rw [sameOwing.length_eq]
    apply tracks.fits.imp_left
    intro none
    exact List.Perm.eq_nil (none ▸ sameOwing)
  covered := tracks.covered.perm sameAnswers sameOwing
  windowed := by
    intro finish
    rw [inWindow_perm _ finish sameAnswers]
    exact tracks.windowed finish

theorem later {clock' : Time} (tracks : Tracks clock counter answered owing)
    (after : clock ≤ clock') : Tracks clock' counter answered owing :=
  ⟨tracks.fits, tracks.covered.later (fun _ _ before => cutoff_mono before) after, tracks.windowed⟩

theorem cleanup {reading : Time} (tracks : Tracks clock counter answered owing)
    (past : reading ≤ clock) : Tracks clock (counter.cleanup reading) answered owing where
  fits := by
    apply tracks.fits.imp_right
    have fewer : (counter.cleanup reading).timestamps.length ≤ counter.timestamps.length :=
      (List.dropWhile_sublist _).length_le
    have same : (counter.cleanup reading).maxRequests = counter.maxRequests := rfl
    omega
  covered := tracks.covered.forget (fun _ _ before => cutoff_mono before) past
  windowed := tracks.windowed

theorem letIn (tracks : Tracks clock counter answered owing)
    (room : (owing.length : Int) + counter.timestamps.length < counter.maxRequests) :
    Tracks clock counter (clock :: answered) (clock :: owing) where
  fits := by
    rw [List.length_cons]
    omega
  covered := tracks.covered.letIn clock
  windowed := by
    apply tracks.windowed.letIn (fun _ _ before => cutoff_mono before) tracks.covered
    omega

theorem hasRoom {time : Time} (tracks : Tracks clock counter answered (time :: owing))
    (reading : Time) : counter.hasRoom reading = true := by
  have fewer : (counter.cleanup reading).timestamps.length ≤ counter.timestamps.length :=
    (List.dropWhile_sublist _).length_le
  rcases tracks.fits with none | room
  · cases none
  · rw [List.length_cons] at room
    apply decide_eq_true
    omega

theorem charge {time reading : Time} (tracks : Tracks clock counter answered (time :: owing))
    (after : time ≤ reading) (past : reading ≤ clock) :
    Tracks clock (counter.consume reading).2 answered owing := by
  have cleaned := tracks.cleanup past
  rw [counter.consume_room reading (tracks.hasRoom reading)]
  refine ⟨?_, cleaned.covered.charge after, tracks.windowed⟩
  rcases cleaned.fits with none | room
  · cases none
  · simp only [List.length_cons, List.length_append, List.length_nil] at room ⊢
    omega

end Tracks

structure Funds (clock : Time) (bucket : TokenBucket) (owing : List Time) : Prop where
  capped : bucket.tokens ≤ bucket.capacity * tokenUnit
  refilled : bucket.lastRefill ≤ clock
  funded : owing = [] ∨ 0 ≤ bucket.refillRate ∧ (owing.length : Int) * tokenUnit ≤ bucket.tokens

namespace Funds
variable {clock : Time} {bucket : TokenBucket} {owing : List Time}

theorem perm {owing' : List Time} (funds : Funds clock bucket owing)
    (sameOwing : owing'.Perm owing) : Funds clock bucket owing' where
  capped := funds.capped
  refilled := funds.refilled
  funded := by
    rw [sameOwing.length_eq]
    apply funds.funded.imp_left
    intro none
    exact List.Perm.eq_nil (none ▸ sameOwing)

theorem later {clock' : Time} (funds : Funds clock bucket owing) (after : clock ≤ clock') :
    Funds clock' bucket owing :=
  ⟨funds.capped, le_trans funds.refilled after, funds.funded⟩

theorem refill_grows (funds : Funds clock bucket owing) (rate : 0 ≤ bucket.refillRate) :
    bucket.tokens ≤ (bucket.refill clock).tokens := by
  have gained : 0 ≤ (clock - bucket.lastRefill) * bucket.refillRate :=
    Int.mul_nonneg (Int.sub_nonneg_of_le funds.refilled) rate
  exact le_min funds.capped (Int.le_add_of_nonneg_right gained)

theorem refill (funds : Funds clock bucket owing) : Funds clock (bucket.refill clock) owing where
  capped := min_le_left _ _
  refilled := le_refl clock
  funded := by
    apply funds.funded.imp_right
    rintro ⟨rate, enough⟩
    exact ⟨rate, le_trans enough (funds.refill_grows rate)⟩

theorem letIn (funds : Funds clock bucket owing) (rate : 0 ≤ bucket.refillRate)
    (enough : ((owing.length : Int) + 1) * tokenUnit ≤ bucket.tokens) :
    Funds clock bucket (clock :: owing) where
  capped := funds.capped
  refilled := funds.refilled
  funded := by
    right
    exact ⟨rate, by exact_mod_cast enough⟩

theorem hasToken {time : Time} (funds : Funds clock bucket (time :: owing)) :
    bucket.hasToken clock = true := by
  rcases funds.refill.funded with none | ⟨_, enough⟩
  · cases none
  · apply decide_eq_true
    rw [List.length_cons] at enough
    have unit : (0 : Int) ≤ tokenUnit := by decide
    have others := Int.mul_nonneg (Int.natCast_nonneg owing.length) unit
    have both : ((owing.length + 1 : Nat) : Int) * tokenUnit =
        owing.length * tokenUnit + tokenUnit := by
      push_cast
      rw [Int.add_mul, Int.one_mul]
    omega

theorem charge {time : Time} (funds : Funds clock bucket (time :: owing)) :
    Funds clock (bucket.consume clock).2 owing := by
  rw [bucket.consume_token clock funds.hasToken]
  have unit : (0 : Int) < tokenUnit := by decide
  constructor
  · exact le_trans (Int.sub_le_self _ unit.le) funds.refill.capped
  · exact le_refl clock
  · rcases funds.refill.funded with none | ⟨rate, enough⟩
    · cases none
    · right
      refine ⟨rate, ?_⟩
      have both : ((owing.length + 1 : Nat) : Int) * tokenUnit =
          owing.length * tokenUnit + tokenUnit := by
        push_cast
        rw [Int.add_mul, Int.one_mul]
      rw [List.length_cons] at enough
      change (owing.length : Int) * tokenUnit ≤ (bucket.refill clock).tokens - tokenUnit
      omega

end Funds

/-- What the meters of a key know about its calls: when they were answered allowed,
and which of them each meter has still to be charged for. -/
structure Backed (config : RateLimitConfig) (clock : Time) (meters : Meters)
    (answered burstOwing minuteOwing hourOwing : List Time) : Prop where
  minute : Tracks clock meters.minute answered minuteOwing
  hour : Tracks clock meters.hour answered hourOwing
  burst : Funds clock meters.burst burstOwing
  rate : meters.burst.refillRate = meters.minute.maxRequests
  minuteLong : meters.minute.windowSeconds = 60
  hourLong : meters.hour.windowSeconds = 3600
  hourLimit : meters.hour.maxRequests = config.requestsPerHour

def BackedIn (config : RateLimitConfig) (clock : Time) (calls : List Call) (key : String)
    (meters : Meters) : Prop :=
  Backed config clock meters (answers key calls) (owed .burst key calls) (owed .minute key calls)
    (owed .hour key calls)

namespace Backed
variable {config : RateLimitConfig} {clock : Time} {meters : Meters}
  {answered burstOwing minuteOwing hourOwing : List Time}

theorem later {clock' : Time}
    (backed : Backed config clock meters answered burstOwing minuteOwing hourOwing)
    (after : clock ≤ clock') :
    Backed config clock' meters answered burstOwing minuteOwing hourOwing :=
  { backed with
    minute := backed.minute.later after
    hour := backed.hour.later after
    burst := backed.burst.later after }

theorem cleanMinute {reading : Time}
    (backed : Backed config clock meters answered burstOwing minuteOwing hourOwing)
    (past : reading ≤ clock) :
    Backed config clock { meters with minute := meters.minute.cleanup reading } answered burstOwing
      minuteOwing hourOwing :=
  { backed with minute := backed.minute.cleanup past }

theorem cleanHour {reading : Time}
    (backed : Backed config clock meters answered burstOwing minuteOwing hourOwing)
    (past : reading ≤ clock) :
    Backed config clock { meters with hour := meters.hour.cleanup reading } answered burstOwing
      minuteOwing hourOwing :=
  { backed with hour := backed.hour.cleanup past }

theorem refill (backed : Backed config clock meters answered burstOwing minuteOwing hourOwing) :
    Backed config clock { meters with burst := meters.burst.refill clock } answered burstOwing
      minuteOwing hourOwing :=
  { backed with burst := backed.burst.refill }

theorem letIn (backed : Backed config clock meters answered burstOwing minuteOwing hourOwing)
    (tokens : ((burstOwing.length : Int) + 1) * tokenUnit ≤ meters.burst.tokens)
    (minuteRoom : (minuteOwing.length : Int) + meters.minute.timestamps.length <
      meters.minute.maxRequests)
    (hourRoom : (hourOwing.length : Int) + meters.hour.timestamps.length <
      meters.hour.maxRequests) :
    Backed config clock meters (clock :: answered) (clock :: burstOwing) (clock :: minuteOwing)
      (clock :: hourOwing) := by
  have rate : 0 ≤ meters.burst.refillRate := by
    rw [backed.rate]
    omega
  exact { backed with
    minute := backed.minute.letIn minuteRoom
    hour := backed.hour.letIn hourRoom
    burst := backed.burst.letIn rate tokens }

theorem chargeBurst {time : Time}
    (backed : Backed config clock meters answered (time :: burstOwing) minuteOwing hourOwing) :
    Backed config clock { meters with burst := (meters.burst.consume clock).2 } answered burstOwing
      minuteOwing hourOwing := by
  have rate : (meters.burst.consume clock).2.refillRate = meters.minute.maxRequests := by
    rw [meters.burst.consume_token clock backed.burst.hasToken]
    exact backed.rate
  exact { backed with
    burst := backed.burst.charge
    rate := rate }

variable {time reading : Time}

theorem chargeMinute
    (backed : Backed config clock meters answered burstOwing (time :: minuteOwing) hourOwing)
    (after : time ≤ reading) (past : reading ≤ clock) :
    Backed config clock { meters with minute := (meters.minute.consume reading).2 } answered
      burstOwing minuteOwing hourOwing := by
  have charged := backed.minute.charge after past
  rw [meters.minute.consume_room reading (backed.minute.hasRoom reading)] at charged ⊢
  exact { backed with minute := charged }

theorem chargeHour
    (backed : Backed config clock meters answered burstOwing minuteOwing (time :: hourOwing))
    (after : time ≤ reading) (past : reading ≤ clock) :
    Backed config clock { meters with hour := (meters.hour.consume reading).2 } answered
      burstOwing minuteOwing hourOwing := by
  have charged := backed.hour.charge after past
  rw [meters.hour.consume_room reading (backed.hour.hasRoom reading)] at charged ⊢
  exact { backed with hour := charged }

theorem perm {answered' burstOwing' minuteOwing' hourOwing' : List Time}
    (backed : Backed config clock meters answered burstOwing minuteOwing hourOwing)
    (answers : answered'.Perm answered) (burst : burstOwing'.Perm burstOwing)
    (minute : minuteOwing'.Perm minuteOwing) (hour : hourOwing'.Perm hourOwing) :
    Backed config clock meters answered' burstOwing' minuteOwing' hourOwing' :=
  { backed with
    minute := backed.minute.perm answers minute
    hour := backed.hour.perm answers hour
    burst := backed.burst.perm burst }

end Backed

variable (meter : Meter) (config : RateLimitConfig) (state : Calls) (clock : Time)
  (calls : List Call) (call : Call) (others : List Call) (meters : Meters)

theorem split_calls (index : Nat) (call changed : Call) (found : calls[index]? = some call) :
    ∃ others, calls.Perm (call :: others) ∧ (calls.set index changed).Perm (changed :: others) := by
  obtain ⟨inside, rfl⟩ := List.getElem?_eq_some_iff.mp found
  exact ⟨calls.eraseIdx index, (List.getElem_cons_eraseIdx_perm inside).symm,
    List.set_perm_cons_eraseIdx inside changed⟩

theorem BackedIn.perm {config : RateLimitConfig} {clock : Time} {first second : List Call}
    {key : String} {meters : Meters} (backed : BackedIn config clock first key meters)
    (same : second.Perm first) : BackedIn config clock second key meters :=
  Backed.perm backed (same.filterMap _) (same.filterMap _) (same.filterMap _) (same.filterMap _)

theorem other_key (key : String) (meters : Meters) (other : call.key ≠ key) :
    BackedIn config clock (call :: others) key meters ↔
      BackedIn config clock others key meters := by
  simp [BackedIn, answers, owed, other]

def Dated (allowedAt : Option Time) (since : Time) : Phase → Prop
  | .begun | .hasToken _ | .hasMinute _ _ => allowedAt = none
  | .allowed _ | .burstCharged _ | .minuteCharged _ =>
      ∃ time, allowedAt = some time ∧ time ≤ since
  | .returned _ => ∀ time, allowedAt = some time → time ≤ since

def Stamped (clock : Time) (call : Call) : Prop :=
  call.since ≤ clock ∧ Dated call.allowedAt call.since call.phase

def Permitted (meters : Meters) (reading : Time) (phase : Phase) (key : String)
    (others : List Call) : Prop :=
  (∃ burstTokens minuteRemaining, phase = .hasMinute burstTokens minuteRemaining) →
    meters.hour.hasRoom reading = true →
    (((owed .burst key others).length : Int) + 1) * tokenUnit ≤ meters.burst.tokens ∧
      ((owed .minute key others).length : Int) + meters.minute.timestamps.length <
        meters.minute.maxRequests ∧
      ((owed .hour key others).length : Int) + (meters.hour.cleanup reading).timestamps.length <
        meters.hour.maxRequests

theorem answers_cons :
    answers call.key (call :: others) = call.allowedAt.toList ++ answers call.key others := by
  cases same : call.allowedAt <;> simp [answers, same]

theorem owed_cons :
    owed meter call.key (call :: others) =
      (if owes meter call.phase then call.allowedAt else none).toList ++
        owed meter call.key others := by
  cases owing : owes meter call.phase with
  | false => simp [owed, owing]
  | true => cases same : call.allowedAt <;> simp [owed, owing, same]

theorem backed_cons :
    BackedIn config clock (call :: others) call.key meters ↔
      Backed config clock meters
        (call.allowedAt.toList ++ answers call.key others)
        ((if owes .burst call.phase then call.allowedAt else none).toList ++
          owed .burst call.key others)
        ((if owes .minute call.phase then call.allowedAt else none).toList ++
          owed .minute call.key others)
        ((if owes .hour call.phase then call.allowedAt else none).toList ++
          owed .hour call.key others) := by
  rw [BackedIn, answers_cons, owed_cons, owed_cons, owed_cons]

/-- A call that was not let through leaves no trace in the lists of its key. -/
theorem backed_silent (silent : call.allowedAt = none) :
    BackedIn config clock (call :: others) call.key meters ↔
      BackedIn config clock others call.key meters := by
  simp [BackedIn, answers, owed, silent]

theorem pass_backed (clock reading : Time) (call : Call) (others : List Call) (meters : Meters)
    (stamped : Stamped clock call) (after : call.since ≤ reading) (past : reading ≤ clock)
    (permitted : Permitted meters reading call.phase call.key others)
    (backed : BackedIn config clock (call :: others) call.key meters) :
    BackedIn config clock
      (advance call (pass config meters clock reading call.phase).2 clock :: others) call.key
      (pass config meters clock reading call.phase).1 := by
  obtain ⟨channel, chatId, phase, since, allowedAt⟩ := call
  obtain ⟨_, own⟩ := stamped
  cases phase with
  | begun =>
    have before := (backed_silent config clock _ others meters own).mp backed
    have refilled := Backed.refill before
    simp only [pass]
    split
    · have cleaned := (refilled.cleanMinute past).cleanHour past
      exact (backed_silent config clock _ others _ own).mpr cleaned
    · exact (backed_silent config clock _ others _ own).mpr refilled
  | hasToken burstTokens =>
    have before := (backed_silent config clock _ others meters own).mp backed
    have cleaned := Backed.cleanMinute before past
    simp only [pass]
    split
    · exact (backed_silent config clock _ others _ own).mpr cleaned
    · exact (backed_silent config clock _ others _ own).mpr (cleaned.cleanHour past)
  | hasMinute burstTokens minuteRemaining =>
    have before := (backed_silent config clock _ others meters own).mp backed
    have cleaned := Backed.cleanHour before past
    simp only [pass]
    split
    next seen =>
      rw [meters.hour.check_allowed reading] at seen
      obtain ⟨tokens, minuteRoom, hourRoom⟩ := permitted ⟨_, _, rfl⟩ seen
      exact (backed_cons config clock _ others _).mpr
        (Backed.letIn cleaned tokens minuteRoom hourRoom)
    next =>
      exact (backed_silent config clock _ others _ own).mpr (Backed.cleanMinute cleaned past)
  | allowed info =>
    obtain ⟨time, rfl, _⟩ := own
    have owing := (backed_cons config clock _ others meters).mp backed
    have charged := Backed.chargeBurst owing
    have token := Funds.hasToken owing.burst
    simp only [pass, meters.burst.consume_token clock token] at charged ⊢
    exact (backed_cons config clock _ others _).mpr charged
  | burstCharged info =>
    obtain ⟨time, rfl, early⟩ := own
    have owing := (backed_cons config clock _ others meters).mp backed
    have charged := Backed.chargeMinute owing (le_trans early after) past
    have room := Tracks.hasRoom owing.minute reading
    simp only [pass, meters.minute.consume_room reading room] at charged ⊢
    exact (backed_cons config clock _ others _).mpr charged
  | minuteCharged info =>
    obtain ⟨time, rfl, early⟩ := own
    have owing := (backed_cons config clock _ others meters).mp backed
    exact (backed_cons config clock _ others _).mpr
      (Backed.chargeHour owing (le_trans early after) past)
  | returned info =>
    exact (backed_cons config clock _ others _).mpr
      ((backed_cons config clock _ others meters).mp backed)

theorem pass_limit (clock reading : Time) (phase : Phase) :
    (pass config meters clock reading phase).1.minute.maxRequests = meters.minute.maxRequests := by
  cases phase with
  | burstCharged info =>
    simp only [pass, SlidingWindowCounter.consume]
    split <;> rfl
  | begun | hasToken | hasMinute =>
    simp only [pass]
    split <;> rfl
  | allowed | minuteCharged | returned => rfl

theorem pass_stamped (clock reading : Time) (call : Call) (meters : Meters)
    (stamped : Stamped clock call) (after : call.since ≤ reading) (past : reading ≤ clock) :
    Stamped clock (advance call (pass config meters clock reading call.phase).2 clock) := by
  obtain ⟨channel, chatId, phase, since, allowedAt⟩ := call
  obtain ⟨_, own⟩ := stamped
  have early : since ≤ clock := le_trans after past
  refine ⟨le_refl clock, ?_⟩
  cases phase with
  | begun | hasToken =>
    cases own
    simp only [pass]
    split
    all_goals simp [Dated, advance]
  | hasMinute =>
    cases own
    simp only [pass]
    split
    all_goals simp [Dated, advance]
  | allowed info | burstCharged info | minuteCharged info =>
    obtain ⟨time, rfl, before⟩ := own
    have kept : time ≤ clock := le_trans before early
    simp only [pass]
    try split
    all_goals simpa [Dated, advance] using kept
  | returned info => exact fun time given => le_trans (own time given) early

structure Sound (config : RateLimitConfig) (state : Calls) : Prop where
  keys : ∀ key meters, state.limiter.counters.value? key = some meters →
    BackedIn config state.clock state.calls key meters
  known : ∀ call ∈ state.calls, ∃ meters, state.limiter.counters.value? call.key = some meters
  opened : ∀ key meters, state.limiter.counters.value? key = some meters →
    ∃ channel, openedBy key state.calls = some channel ∧
      meters.minute.maxRequests = RateLimiter.perMinute config channel
  stamped : ∀ call ∈ state.calls, Stamped state.clock call

section

variable (key : String) (calls : List Call)

theorem openedBy_names :
    openedBy key calls =
      ((calls.map fun call => (call.key, call.channel)).find? fun names =>
        decide (names.1 = key)).map Prod.snd := by
  rw [openedBy, List.find?_map, Option.map_map]
  rfl

theorem openedBy_set (index : Nat) (call : Call) (found : calls[index]? = some call) (phase : Phase)
    (clock : Time) :
    openedBy key (calls.set index (advance call phase clock)) = openedBy key calls := by
  have names : (calls.set index (advance call phase clock)).map
      (fun call => (call.key, call.channel)) = calls.map fun call => (call.key, call.channel) := by
    apply List.ext_getElem?
    intro place
    rw [List.getElem?_map, List.getElem?_map, List.getElem?_set]
    by_cases here : index = place
    · subst here
      have inside := (List.getElem?_eq_some_iff.mp found).1
      rw [if_pos rfl, if_pos inside, found]
      rfl
    · rw [if_neg here]
  rw [openedBy_names, openedBy_names, names]

theorem openedBy_append (call : Call) (channel : String)
    (opened : openedBy key calls = some channel) :
    openedBy key (calls ++ [call]) = some channel := by
  obtain ⟨first, found, named⟩ := Option.map_eq_some_iff.mp opened
  rw [openedBy, List.find?_append, found]
  exact congrArg some named

end

theorem start_sound : start.Sound config where
  keys := by rintro key meters ⟨⟩
  known := by rintro call ⟨⟩
  opened := by rintro key meters ⟨⟩
  stamped := by rintro call ⟨⟩

theorem backed_other (key : String) (meters : Meters) (others : ∀ call ∈ calls, call.key ≠ key) :
    BackedIn config clock calls key meters ↔ BackedIn config clock [] key meters := by
  induction calls with
  | nil => exact Iff.rfl
  | cons call rest ih =>
    rw [other_key config clock call rest key meters (others call List.mem_cons_self)]
    exact ih fun other member => others other (List.mem_cons_of_mem call member)

theorem fresh_backed (key channel : String) :
    BackedIn config clock [] key (RateLimiter.freshMeters config channel clock) := by
  have empty : ∀ length limit,
      Tracks clock (SlidingWindowCounter.init length limit) [] [] := by
    intro length limit
    refine ⟨Or.inl rfl, ?_, ?_⟩
    · intro start _
      exact Nat.zero_le _
    · intro finish
      exact Nat.zero_le _
  exact {
    minute := empty _ _
    hour := empty _ _
    burst := ⟨le_refl _, le_refl clock, Or.inl rfl⟩
    rate := rfl
    minuteLong := rfl
    hourLong := rfl
    hourLimit := rfl }

theorem Stamped.later {clock clock' : Time} {call : Call} (stamped : Stamped clock call)
    (after : clock ≤ clock') : Stamped clock' call :=
  ⟨le_trans stamped.1 after, stamped.2⟩

theorem later_clock (elapsed : Nat) : clock ≤ clock + elapsed :=
  Int.le_add_of_nonneg_right (Int.natCast_nonneg elapsed)

theorem backed_append (key : String) (meters : Meters) (silent : call.allowedAt = none)
    (backed : BackedIn config clock calls key meters) :
    BackedIn config clock (calls ++ [call]) key meters := by
  apply BackedIn.perm _ (List.perm_append_singleton call calls)
  by_cases same : call.key = key
  · subst same
    exact (backed_silent config clock call calls meters silent).mpr backed
  · exact (other_key config clock call calls key meters same).mpr backed

theorem arrive_sound (sound : state.Sound config) (channel chatId : String) (elapsed : Nat) :
    (state.step config (.arrive channel chatId elapsed)).Sound config := by
  have after := later_clock state.clock elapsed
  have aged : ∀ key meters, state.limiter.counters.value? key = some meters →
      BackedIn config (state.clock + elapsed)
        (state.calls ++ [⟨channel, chatId, .begun, state.clock + elapsed, none⟩]) key meters := by
    intro key meters stored
    exact backed_append config _ state.calls _ key meters rfl
      (Backed.later (sound.keys key meters stored) after)
  have stamped : ∀ call ∈ state.calls ++ [⟨channel, chatId, .begun, state.clock + elapsed, none⟩],
      Stamped (state.clock + elapsed) call := by
    intro call member
    rcases List.mem_append.mp member with old | new
    · exact (sound.stamped call old).later after
    · rw [List.mem_singleton.mp new]
      exact ⟨le_refl _, rfl⟩
  simp only [step, RateLimiter.getOrCreateCounters]
  split
  next meters stored =>
    constructor
    · exact aged
    · intro call member
      rcases List.mem_append.mp member with old | new
      · exact sound.known call old
      · rw [List.mem_singleton.mp new]
        exact ⟨meters, stored⟩
    · intro key other found
      obtain ⟨first, opened, limit⟩ := sound.opened key other found
      exact ⟨first, openedBy_append key state.calls _ first opened, limit⟩
    · exact stamped
  next missing =>
    -- No call has come for the key before.
    have strangers : ∀ call ∈ state.calls, call.key ≠ chatKey channel chatId := by
      intro call member same
      obtain ⟨meters, stored⟩ := sound.known call member
      rw [same, missing] at stored
      cases stored
    have unopened : openedBy (chatKey channel chatId)
        (state.calls ++ [⟨channel, chatId, .begun, state.clock + elapsed, none⟩]) =
          some channel := by
      have none : state.calls.find? (fun call => decide (call.key = chatKey channel chatId)) =
          none := by
        apply List.find?_eq_none.mpr
        intro call member
        simpa using strangers call member
      rw [openedBy, List.find?_append, none]
      simp [Call.key]
    constructor
    · intro key meters stored
      rw [RateLimiter.value?_put] at stored
      split at stored
      next same =>
        subst same
        cases stored
        apply backed_append config _ state.calls _ _ _ rfl
        exact (backed_other config _ state.calls _ _ strangers).mpr
          (fresh_backed config _ _ channel)
      next => exact aged key meters stored
    · intro call member
      rw [RateLimiter.value?_put]
      rcases List.mem_append.mp member with old | new
      · rw [if_neg (Ne.symm (strangers call old))]
        exact sound.known call old
      · have same : chatKey channel chatId = call.key := by rw [List.mem_singleton.mp new]; rfl
        rw [if_pos same]
        exact ⟨_, rfl⟩
    · intro key meters stored
      rw [RateLimiter.value?_put] at stored
      split at stored
      next same =>
        subst same
        cases stored
        exact ⟨channel, unopened, rfl⟩
      next =>
        obtain ⟨first, opened, limit⟩ := sound.opened key meters stored
        exact ⟨first, openedBy_append key state.calls _ first opened, limit⟩
    · exact stamped

theorem owed_silent (key : String) (call : Call) (others : List Call)
    (silent : call.allowedAt = none) : owed meter key (call :: others) = owed meter key others := by
  simp [owed, silent]

/-- The spare tokens and places at the turn of a call, read off the other calls. -/
theorem permitted_of_turn (index elapsed lag : Nat) (call : Call) (others : List Call)
    (meters : Meters) (found : state.calls[index]? = some call)
    (stored : state.limiter.counters.value? call.key = some meters)
    (stamped : Stamped state.clock call) (split : state.calls.Perm (call :: others))
    (turn : state.inTurn (.proceed index elapsed lag) = true) :
    Permitted meters (state.clock + elapsed - lag) call.phase call.key others := by
  rintro ⟨burstTokens, minuteRemaining, gate⟩ room
  have own := stamped.2
  rw [gate] at own
  have lists : ∀ meter, (owed meter call.key state.calls).length =
      (owed meter call.key others).length := by
    intro meter
    rw [← owed_silent meter call.key call others own]
    exact (split.filterMap _).length_eq
  simp only [inTurn, found, stored, gate, room, Bool.not_true, Bool.false_or, spare,
    Bool.and_eq_true, decide_eq_true_eq, lists] at turn
  exact ⟨turn.1.1, turn.1.2, turn.2⟩

theorem proceed_sound (sound : state.Sound config) (index elapsed lag : Nat)
    (turn : state.inTurn (.proceed index elapsed lag) = true) :
    (state.step config (.proceed index elapsed lag)).Sound config := by
  have after := later_clock state.clock elapsed
  have past : state.clock + elapsed - lag ≤ state.clock + elapsed :=
    Int.sub_le_self _ (Int.natCast_nonneg lag)
  simp only [step, proceed]
  split
  · exact sound
  next call found =>
    split
    · exact sound
    next meters stored =>
      split
      · exact sound
      next reached =>
        have own := sound.stamped call (List.mem_of_getElem? found)
        obtain ⟨others, split, changed⟩ := split_calls state.calls index call
          (advance call
            (pass config meters (state.clock + elapsed) (state.clock + elapsed - lag) call.phase).2
            (state.clock + elapsed)) found
        have permitted := permitted_of_turn state index elapsed lag call others meters found stored
          own split turn
        constructor
        · intro key other kept
          rw [RateLimiter.value?_put] at kept
          split at kept
          next same =>
            subst same
            cases kept
            have before := BackedIn.perm (sound.keys call.key meters stored) split.symm
            exact BackedIn.perm (pass_backed config _ _ call others meters (own.later after)
              (not_lt.mp reached) past permitted (Backed.later before after)) changed
          next different =>
            have before := BackedIn.perm (sound.keys key other kept) split.symm
            have apart := (other_key config _ call others key other different).mp before
            apply BackedIn.perm _ changed
            apply (other_key config _ (advance call _ _) others key other different).mpr
            exact Backed.later apart after
        · intro other member
          rw [RateLimiter.value?_put]
          split
          · exact ⟨_, rfl⟩
          next different =>
            rcases List.mem_or_eq_of_mem_set member with old | new
            · exact sound.known other old
            · exact absurd (congrArg Call.key new).symm different
        · intro key other kept
          rw [RateLimiter.value?_put] at kept
          rw [openedBy_set key state.calls index call found]
          split at kept
          next same =>
            subst same
            cases kept
            obtain ⟨first, opened, limit⟩ := sound.opened call.key meters stored
            exact ⟨first, opened, (pass_limit config meters _ _ call.phase).trans limit⟩
          next => exact sound.opened key other kept
        · intro other member
          rcases List.mem_or_eq_of_mem_set member with old | new
          · exact (sound.stamped other old).later after
          · rw [new]
            exact pass_stamped config _ _ call meters (own.later after) (not_lt.mp reached) past

theorem step_sound (move : Move) (sound : state.Sound config) (turn : state.inTurn move = true) :
    (state.step config move).Sound config := by
  cases move with
  | arrive channel chatId elapsed => exact arrive_sound config state sound channel chatId elapsed
  | proceed index elapsed lag => exact proceed_sound config state sound index elapsed lag turn

theorem Sound.withinLimits {config : RateLimitConfig} {state : Calls}
    (sound : state.Sound config) : state.WithinLimits config := by
  intro key channel opened finish
  obtain ⟨first, found, named⟩ := Option.map_eq_some_iff.mp opened
  have same : first.key = key := by simpa using List.find?_some found
  obtain ⟨meters, stored⟩ := sound.known first (List.mem_of_find?_eq_some found)
  rw [same] at stored
  have backed := sound.keys key meters stored
  obtain ⟨other, also, limit⟩ := sound.opened key meters stored
  rw [opened] at also
  cases also
  have minute := backed.minute.windowed finish
  have hour := backed.hour.windowed finish
  rw [backed.minuteLong, limit] at minute
  rw [backed.hourLong, backed.hourLimit] at hour
  constructor <;> omega

/-- In a run where `check` lets a call through only while each meter has more left
than the calls let through before it are still to take, no window is exceeded. -/
theorem within_limits_in_turn (config : RateLimitConfig) (run : List Move)
    (turns : StepSystem.Along (step config) (fun state move => state.inTurn move = true) start
      run) :
    StepSystem.Always (step config) (WithinLimits config) start run := by
  apply StepSystem.always_of_invariant (step config) (Sound config) _
    (fun state move => state.inTurn move = true)
  · intro state move sound turn
    exact step_sound config state move sound turn
  · intro state sound
    exact sound.withinLimits
  · exact start_sound config
  · exact turns

def oneCall (index : Nat) : List Move := List.replicate 6 (.proceed index 1 0)

theorem one_call_within_limits :
    StepSystem.Always (step {}) (WithinLimits {}) start
      (.arrive "telegram" "chat1" 0 :: oneCall 0 ++ .arrive "telegram" "chat1" 5 :: oneCall 1) :=
  within_limits_in_turn {} _ (by decide +kernel)

/-- Three calls checked before the first of them is charged: one message a minute and a
burst of one let all three through. -/
theorem checked_together_all_allowed :
    ¬ ∀ (config : RateLimitConfig) (run : List Move),
      StepSystem.Always (step config) (WithinLimits config) start run := by
  intro claimed
  let config : RateLimitConfig := { requestsPerMinute := 1, burstLimit := 1 }
  let gates : Nat → List Move := fun index => List.replicate 3 (.proceed index 0 0)
  let run := List.replicate 3 (Move.arrive "telegram" "chat1" 0) ++ gates 0 ++ gates 1 ++ gates 2
  have together := StepSystem.always_final (claimed config run)
  have bound := (together "telegram:chat1" "telegram" (by decide +kernel) 0).1
  exact absurd bound (by decide +kernel)

end Calls

end Hartos.RateLimits
