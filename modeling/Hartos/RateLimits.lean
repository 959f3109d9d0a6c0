import Hartos.KeyedGroups
import Hartos.PipelineStages

/-!
The rate limiter with its three meters for each chat: the minute window, the hour
window and the burst bucket. Every meter has a lock of its own and is read at a
clock reading of its own, so a call of `check` or `consume` is a row of sections.
The clock is counted in microseconds and the bucket in units of which sixty
million make one token, so its refill per microsecond is whole.
-/
namespace Hartos.RateLimits
open KeyedTable KeyedGroups
open Hartos.Queue (tokenUnit chatKey)

structure RateLimitConfig extends Queue.RateLimitConfig where
  burstWindowSeconds : Int := 1

inductive RateLimitResult where
  | allowed | rateLimited | burstExceeded
  deriving DecidableEq

structure RateLimitInfo where
  allowed : Bool
  result : RateLimitResult
  remainingMinute : Int
  remainingHour : Int
  remainingBurst : Int
  resetMinuteAt : Time
  resetHourAt : Time
  retryAfterSeconds : Option Time
  deriving DecidableEq

structure SlidingWindowCounter where
  windowSeconds : Int
  maxRequests : Int
  timestamps : List Time
  deriving DecidableEq

namespace SlidingWindowCounter

def init (windowSeconds maxRequests : Int) : SlidingWindowCounter :=
  ⟨windowSeconds, maxRequests, []⟩

def cutoff (windowSeconds : Int) (now : Time) : Time := now - seconds windowSeconds

variable (counter : SlidingWindowCounter) (now : Time)

def cleanup : SlidingWindowCounter :=
  { counter with
    timestamps := counter.timestamps.dropWhile fun time =>
      decide (time < cutoff counter.windowSeconds now) }

def remaining : Int :=
  max 0 (counter.maxRequests - counter.timestamps.length)

def check : (Bool × Int) × SlidingWindowCounter :=
  let cleaned := counter.cleanup now
  ((decide (cleaned.remaining > 0), cleaned.remaining), cleaned)

def consume : Bool × SlidingWindowCounter :=
  let cleaned := counter.cleanup now
  if (cleaned.timestamps.length : Int) ≥ cleaned.maxRequests then (false, cleaned)
  else (true, { cleaned with timestamps := cleaned.timestamps ++ [now] })

def getRemaining : Int × SlidingWindowCounter :=
  let cleaned := counter.cleanup now
  (cleaned.remaining, cleaned)

def getResetTime : Time × SlidingWindowCounter :=
  let cleaned := counter.cleanup now
  match cleaned.timestamps with
  | [] => (0, cleaned)
  | oldest :: _ => (max 0 (oldest + seconds cleaned.windowSeconds - now), cleaned)

def hasRoom : Bool :=
  decide (((counter.cleanup now).timestamps.length : Int) < counter.maxRequests)

variable (counter : SlidingWindowCounter) (now : Time)

theorem consume_room (room : counter.hasRoom now = true) :
    counter.consume now =
      (true,
        { counter.cleanup now with
          timestamps := (counter.cleanup now).timestamps ++ [now] }) := by
  have space := of_decide_eq_true room
  have cleaned : ¬ ((counter.cleanup now).timestamps.length : Int) ≥
      (counter.cleanup now).maxRequests := not_le.mpr space
  rw [consume, if_neg cleaned]

theorem consume_full (full : counter.hasRoom now = false) :
    counter.consume now = (false, counter.cleanup now) := by
  have crowded := of_decide_eq_false full
  have cleaned : ((counter.cleanup now).timestamps.length : Int) ≥
      (counter.cleanup now).maxRequests := not_lt.mp crowded
  rw [consume, if_pos cleaned]

theorem check_allowed : (counter.check now).1.1 = counter.hasRoom now := by
  have same : (counter.cleanup now).maxRequests = counter.maxRequests := rfl
  simp only [check, remaining, hasRoom, same]
  apply decide_eq_decide.mpr
  omega

end SlidingWindowCounter

/-- `refillRate` counts units per microsecond, which is tokens per minute. -/
structure TokenBucket where
  capacity : Int
  refillRate : Int
  tokens : Int
  lastRefill : Time
  deriving DecidableEq

namespace TokenBucket

def init (capacity refillRate : Int) (now : Time) : TokenBucket :=
  ⟨capacity, refillRate, capacity * tokenUnit, now⟩

variable (bucket : TokenBucket) (now : Time)

def refill : TokenBucket :=
  { bucket with
    tokens := min (bucket.capacity * tokenUnit)
      (bucket.tokens + (now - bucket.lastRefill) * bucket.refillRate)
    lastRefill := now }

def consume : Bool × TokenBucket :=
  let refilled := bucket.refill now
  if refilled.tokens ≥ tokenUnit then
    (true, { refilled with tokens := refilled.tokens - tokenUnit })
  else (false, refilled)

/-- `int(get_tokens())`: the fraction is cut off toward zero. -/
def wholeTokens : Int × TokenBucket :=
  let refilled := bucket.refill now
  (refilled.tokens.tdiv tokenUnit, refilled)

def hasToken : Bool :=
  decide (tokenUnit ≤ (bucket.refill now).tokens)

variable (bucket : TokenBucket) (now : Time)

theorem consume_token (token : bucket.hasToken now = true) :
    bucket.consume now =
      (true, { bucket.refill now with tokens := (bucket.refill now).tokens - tokenUnit }) := by
  rw [consume, if_pos (of_decide_eq_true token)]

theorem consume_empty (empty : bucket.hasToken now = false) :
    bucket.consume now = (false, bucket.refill now) := by
  rw [consume, if_neg (of_decide_eq_false empty)]

end TokenBucket

structure RateLimitStats where
  totalRequests : Nat := 0
  totalAllowed : Nat := 0
  totalRateLimited : Nat := 0
  totalBurstExceeded : Nat := 0
  deriving DecidableEq

structure Meters where
  minute : SlidingWindowCounter
  hour : SlidingWindowCounter
  burst : TokenBucket
  deriving DecidableEq

structure RateLimiter where
  counters : Dict String Meters
  stats : RateLimitStats

namespace RateLimiter

def init : RateLimiter := ⟨Dict.empty, {}⟩

variable (config : RateLimitConfig) (limiter : RateLimiter)

def perMinute (channel : String) : Int :=
  (config.perChannelLimits channel).getD config.requestsPerMinute

def freshMeters (channel : String) (now : Time) : Meters where
  minute := .init 60 (perMinute config channel)
  hour := .init 3600 config.requestsPerHour
  burst := .init config.burstLimit (perMinute config channel) now

def put (key : String) (meters : Meters) : RateLimiter :=
  { limiter with counters := limiter.counters.set (key, meters) }

def getOrCreateCounters (channel chatId : String) (now : Time) : Meters × RateLimiter :=
  match limiter.counters.value? (chatKey channel chatId) with
  | some meters => (meters, limiter)
  | none =>
      let meters := freshMeters config channel now
      (meters, limiter.put (chatKey channel chatId) meters)

@[simp] theorem value?_put (key wanted : String) (meters : Meters) :
    (limiter.put key meters).counters.value? wanted =
      if key = wanted then some meters else limiter.counters.value? wanted :=
  limiter.counters.value?_set key wanted meters

/-- The clock readings of one `consume`: one for each section. -/
structure Readings where
  created : Time
  burst : Time
  minute : Time
  hour : Time

def consume (config : RateLimitConfig) (limiter : RateLimiter) (channel chatId : String)
    (readings : Readings) : Bool × RateLimiter :=
  let key := chatKey channel chatId
  let (meters, found) := limiter.getOrCreateCounters config channel chatId readings.created
  let (token, burst) := meters.burst.consume readings.burst
  if token then
    let (minuteRoom, minute) := meters.minute.consume readings.minute
    if minuteRoom then
      let (hourRoom, hour) := meters.hour.consume readings.hour
      (hourRoom, found.put key ⟨minute, hour, burst⟩)
    else (false, found.put key ⟨minute, meters.hour, burst⟩)
  else (false, found.put key ⟨meters.minute, meters.hour, burst⟩)

structure Lapsed (readings : Readings) (before after : Meters) : Prop where
  burst : after.burst = before.burst.refill readings.burst
  minute : after.minute = before.minute ∨ after.minute = before.minute.cleanup readings.minute
  hour : after.hour = before.hour ∨ after.hour = before.hour.cleanup readings.hour

structure Charged (readings : Readings) (before after : Meters) : Prop where
  burst : after.burst =
    { before.burst.refill readings.burst with
      tokens := (before.burst.refill readings.burst).tokens - tokenUnit }
  minute : after.minute =
    { before.minute.cleanup readings.minute with
      timestamps := (before.minute.cleanup readings.minute).timestamps ++ [readings.minute] }
  hour : after.hour =
    { before.hour.cleanup readings.hour with
      timestamps := (before.hour.cleanup readings.hour).timestamps ++ [readings.hour] }

def AllOrNothing (channel chatId : String) (readings : Readings) : Prop :=
  let before := (limiter.getOrCreateCounters config channel chatId readings.created).1
  let outcome := limiter.consume config channel chatId readings
  ∃ after, outcome.2.counters.value? (chatKey channel chatId) = some after ∧
    if outcome.1 then Charged readings before after else Lapsed readings before after

section Refusals
variable {config : RateLimitConfig} {limiter : RateLimiter} {channel chatId : String}
  {readings : Readings} {before : Meters} {found : RateLimiter}

theorem taken_ne (bucket : TokenBucket) :
    bucket ≠ { bucket with tokens := bucket.tokens - tokenUnit } := by
  intro same
  have tokens : bucket.tokens = bucket.tokens - tokenUnit := congrArg TokenBucket.tokens same
  have unit : (0 : Int) < tokenUnit := by decide
  omega

theorem allOrNothing_of_empty
    (opened : limiter.getOrCreateCounters config channel chatId readings.created = (before, found))
    (empty : before.burst.hasToken readings.burst = false) :
    AllOrNothing config limiter channel chatId readings := by
  have lapsed : Lapsed readings before
      ⟨before.minute, before.hour, before.burst.refill readings.burst⟩ :=
    ⟨rfl, Or.inl rfl, Or.inl rfl⟩
  simpa [AllOrNothing, consume, opened, before.burst.consume_empty _ empty] using lapsed

section

variable
  (opened : limiter.getOrCreateCounters config channel chatId readings.created = (before, found))
  (token : before.burst.hasToken readings.burst = true)
include opened token

theorem allOrNothing_of_room (minuteRoom : before.minute.hasRoom readings.minute = true)
    (hourRoom : before.hour.hasRoom readings.hour = true) :
    AllOrNothing config limiter channel chatId readings := by
  simp only [AllOrNothing, consume, opened, before.burst.consume_token _ token,
    before.minute.consume_room _ minuteRoom, before.hour.consume_room _ hourRoom, ↓reduceIte,
    value?_put, Option.some.injEq, exists_eq_left']
  exact ⟨rfl, rfl, rfl⟩

-- The token is gone although the minute window refuses.
theorem leaks_of_minute (full : before.minute.hasRoom readings.minute = false) :
    ¬ AllOrNothing config limiter channel chatId readings := by
  simp only [AllOrNothing, consume, opened, before.burst.consume_token _ token,
    before.minute.consume_full _ full, Bool.false_eq_true, ↓reduceIte, value?_put,
    Option.some.injEq, exists_eq_left']
  intro lapsed
  exact taken_ne _ lapsed.burst.symm

-- The token and the place in the minute window are gone although the hour window refuses.
theorem leaks_of_hour (minuteRoom : before.minute.hasRoom readings.minute = true)
    (full : before.hour.hasRoom readings.hour = false) :
    ¬ AllOrNothing config limiter channel chatId readings := by
  simp only [AllOrNothing, consume, opened, before.burst.consume_token _ token,
    before.minute.consume_room _ minuteRoom, before.hour.consume_full _ full, Bool.false_eq_true,
    ↓reduceIte, value?_put, Option.some.injEq, exists_eq_left']
  intro lapsed
  exact taken_ne _ lapsed.burst.symm

end

end Refusals

/-- A call of `consume` is all or nothing exactly if the bucket refuses it, or neither
window does. -/
theorem allOrNothing_iff (config : RateLimitConfig) (limiter : RateLimiter)
    (channel chatId : String) (readings : Readings) :
    AllOrNothing config limiter channel chatId readings ↔
      let before := (limiter.getOrCreateCounters config channel chatId readings.created).1
      before.burst.hasToken readings.burst = false ∨
        before.minute.hasRoom readings.minute = true ∧
          before.hour.hasRoom readings.hour = true := by
  cases opened : limiter.getOrCreateCounters config channel chatId readings.created with
  | mk before found =>
    cases token : before.burst.hasToken readings.burst with
    | false => simp [allOrNothing_of_empty opened token, token]
    | true =>
      cases minuteRoom : before.minute.hasRoom readings.minute with
      | false => simp [leaks_of_minute opened token minuteRoom, token, minuteRoom]
      | true =>
        cases hourRoom : before.hour.hasRoom readings.hour with
        | false =>
          simp [leaks_of_hour opened token minuteRoom hourRoom, token, hourRoom]
        | true =>
          simp [allOrNothing_of_room opened token minuteRoom hourRoom, minuteRoom, hourRoom]

/-- One message a minute: the second one is refused, and a token of the burst is gone. -/
theorem refused_call_takes_token :
    ¬ ∀ (config : RateLimitConfig) (limiter : RateLimiter) (channel chatId : String)
      (readings : Readings), AllOrNothing config limiter channel chatId readings := by
  intro claimed
  let config : RateLimitConfig := { requestsPerMinute := 1 }
  let once := (consume config init "telegram" "chat1" ⟨0, 0, 0, 0⟩).2
  have leaks : ¬ AllOrNothing config once "telegram" "chat1" ⟨0, 0, 0, 0⟩ :=
    leaks_of_minute rfl (by decide +kernel) (by decide +kernel)
  exact leaks (claimed config once "telegram" "chat1" ⟨0, 0, 0, 0⟩)

end RateLimiter

end Hartos.RateLimits
