import Hartos.CommercialApi

/-!
The monthly quota of a key through any interleaving of its requests, their releases and
the resets. The bound holds as long as each write finds the usage its session read and
no request that keeps its unit is rolled back.
-/
namespace Hartos.CommercialApi
open SharedRow StepSystem

def WithinQuota (quota : Int) (state : State) : Prop := state.admitted ≤ quota

instance (quota : Int) : DecidablePred (WithinQuota quota) := fun state =>
  inferInstanceAs (Decidable (state.admitted ≤ quota))

def Session.stands (session : Session) (stored : CommercialAPIKey) : Bool :=
  match session.stage with
  | .counting current | .releasing current => decide (stored.usageThisMonth = current)
  | _ => true

def Stands (state : State) : Event → Prop
  | .advance session _ _ => state.row.free session = true →
      (state.sessions session).stands (state.row.seen session) = true
  | .fail session => (state.sessions session).reserved ≤ 0
  | _ => True

instance (state : State) : (event : Event) → Decidable (Stands state event)
  | .advance session _ _ => inferInstanceAs (Decidable (state.row.free session = true →
      (state.sessions session).stands (state.row.seen session) = true))
  | .fail session => inferInstanceAs (Decidable ((state.sessions session).reserved ≤ 0))
  | .arrive _ _ => .isTrue trivial
  | .release _ _ => .isTrue trivial
  | .reset _ _ => .isTrue trivial
  | .commit _ => .isTrue trivial

def Stage.writes : Stage → Bool
  | .running | .releasing _ | .resetDone => true
  | _ => false

structure Sane (quota : Int) (key : CommercialAPIKey) : Prop where
  allowance : key.monthlyQuota = quota
  usage : 0 ≤ key.usageThisMonth
  bound : key.usageThisMonth ≤ quota

structure Session.Sound (quota : Int) (session : Session) : Prop where
  key : ∀ key, session.key = some key → Sane quota key
  counting : ∀ current, session.stage = .counting current → 0 ≤ current ∧ current < quota
  releasing : ∀ current, session.stage = .releasing current → 0 < current
  reserved : session.stage ≠ .running → (∀ current, session.stage ≠ .releasing current) →
    session.reserved = 0

/-- The sessions, the row's versions and the count agree: whoever writes the row is past
its write, and the units of that session are in its version alone. -/
structure Counted (quota : Int) (state : State) : Prop where
  sessions : ∀ session, (state.sessions session).Sound quota
  committed : Sane quota state.row.committed
  latest : Sane quota state.row.latest
  writer : ∀ session, (state.sessions session).stage.writes = true ↔
    ∃ key, state.row.writing = some (session, key)
  settled : state.row.writing = none → state.admitted ≤ state.row.committed.usageThisMonth
  pending : ∀ session key, state.row.writing = some (session, key) →
    state.admitted - (state.sessions session).reserved ≤ state.row.committed.usageThisMonth
  written : ∀ session key, state.row.writing = some (session, key) →
    (state.sessions session).stage ≠ .resetDone → state.admitted ≤ key.usageThisMonth

variable (quota : Int) (state : State)

theorem Counted.within (counted : Counted quota state) : WithinQuota quota state := by
  unfold WithinQuota
  have committed := counted.committed.bound
  have latest := counted.latest.bound
  unfold Row.latest at latest
  cases writing : state.row.writing with
  | none =>
    have settled := counted.settled writing
    omega
  | some holder =>
    obtain ⟨session, key⟩ := holder
    by_cases reset : (state.sessions session).stage = .resetDone
    · have pending := counted.pending session key writing
      have none := (counted.sessions session).reserved (by simp [reset]) (by simp [reset])
      omega
    · have written := counted.written session key writing reset
      simp only [writing] at latest
      omega

section Steps
variable {quota : Int} {state : State} {session : Nat}

section

variable (counted : Counted quota state)
include counted

variable (reader : Nat) (kept : Bool) (current : Int)

theorem Counted.seen : Sane quota (state.row.seen reader) := by
  cases free : state.row.free reader with
  | true => exact state.row.seen_free reader free ▸ counted.latest
  | false => exact state.row.seen_taken reader free ▸ counted.committed

theorem Counted.load : Sane quota (state.load reader kept) := by
  unfold State.load
  split
  · exact counted.seen reader
  next key here =>
    split
    · exact (counted.sessions reader).key key here
    · exact counted.seen reader

/-- A session that has not written finds the row free only when nobody writes it. -/
theorem Counted.unwritten (before : (state.sessions session).stage.writes = false)
    (free : state.row.free session = true) : state.row.writing = none := by
  cases writing : state.row.writing with
  | none => rfl
  | some holder =>
    obtain ⟨writer, key⟩ := holder
    simp only [Row.free, writing, decide_eq_true_eq] at free
    have writes := (counted.writer session).mpr ⟨key, free ▸ writing⟩
    rw [before] at writes
    cases writes

theorem Counted.keep (next : Session) (sound : next.Sound quota)
    (writes : next.stage.writes = (state.sessions session).stage.writes)
    (reserved : next.reserved = (state.sessions session).reserved)
    (reset : next.stage = .resetDone ↔ (state.sessions session).stage = .resetDone) :
    Counted quota (state.keep session next) where
  sessions := by
    intro other
    by_cases here : other = session
    · subst here
      simpa [State.keep] using sound
    · simpa [State.keep, Function.update_of_ne here] using counted.sessions other
  committed := counted.committed
  latest := counted.latest
  writer := by
    intro other
    by_cases here : other = session
    · subst here
      simpa [State.keep, writes] using counted.writer other
    · simpa [State.keep, Function.update_of_ne here] using counted.writer other
  settled := counted.settled
  pending := by
    intro other key writing
    have pending := counted.pending other key writing
    by_cases here : other = session
    · subst here
      simpa [State.keep, reserved] using pending
    · simpa [State.keep, Function.update_of_ne here] using pending
  written := by
    intro other key writing kept
    apply counted.written other key writing
    intro done
    apply kept
    by_cases here : other = session
    · subst here
      simpa [State.keep] using reset.mpr done
    · simpa [State.keep, Function.update_of_ne here] using done

-- Nothing was written before and nothing is held after: only the session itself is another.
theorem Counted.goOn (before : (state.sessions session).stage.writes = false)
    (key : Option CommercialAPIKey) (next : Stage) (after : next.writes = false)
    (sane : ∀ own, key = some own → Sane quota own)
    (counting : ∀ current, next = .counting current → 0 ≤ current ∧ current < quota) :
    Counted quota (state.keep session ⟨key, next, 0⟩) := by
  have held := (counted.sessions session).reserved
    (fun same => by simp [same, Stage.writes] at before)
    (fun _ same => by simp [same, Stage.writes] at before)
  have apart (done : Stage) (wrote : done.writes = true) : next ≠ done := by
    rintro rfl
    exact absurd wrote (by simp [after])
  refine counted.keep _ ⟨sane, counting, fun current => (absurd · (apart (.releasing current) rfl)),
    fun _ _ => rfl⟩ (after.trans before.symm) held.symm ?_
  simp only [apart .resetDone rfl, false_iff]
  intro same
  simp [same, Stage.writes] at before

/-- A session that writes, and leaves its stage past a write. -/
theorem Counted.write (key : CommercialAPIKey) (sane : Sane quota key)
    (free : state.row.free session = true) (next : Session) (sound : next.Sound quota)
    (writes : next.stage.writes = true) (admitted : Int)
    (pending : admitted - next.reserved ≤ state.row.committed.usageThisMonth)
    (written : next.stage ≠ .resetDone → admitted ≤ key.usageThisMonth) :
    Counted quota ({ state with
      row := state.row.write session key, admitted := admitted }.keep session next) where
  sessions := by
    intro other
    by_cases here : other = session
    · subst here
      simpa [State.keep] using sound
    · simpa [State.keep, Function.update_of_ne here] using counted.sessions other
  committed := counted.committed
  latest := sane
  writer := by
    intro other
    by_cases here : other = session
    · subst here
      simp [State.keep, Row.write, writes]
    · have none : ¬ ∃ stored, state.row.writing = some (other, stored) := by
        rintro ⟨stored, writing⟩
        simp only [Row.free, writing, decide_eq_true_eq] at free
        exact here free
      have before := counted.writer other
      simp only [State.keep, Function.update_of_ne here, Row.write]
      rw [before]
      simp [none, Ne.symm here]
  settled := by
    intro nobody
    simp [State.keep, Row.write] at nobody
  pending := by
    intro other stored writing
    obtain ⟨rfl, rfl⟩ := writing
    simpa [State.keep, Row.write] using pending
  written := by
    intro other stored writing kept
    obtain ⟨rfl, rfl⟩ := writing
    simp only [State.keep, Function.update_self] at kept
    exact written kept

theorem Counted.leave (row : Row Nat CommercialAPIKey) (admitted : Int)
    (committed : Sane quota row.committed) (latest : Sane quota row.latest)
    (others : ∀ other key, row.writing = some (other, key) ↔
      state.row.writing = some (other, key) ∧ other ≠ session)
    (settled : row.writing = none → admitted ≤ row.committed.usageThisMonth)
    (unmoved : row.writing ≠ none → admitted = state.admitted ∧
      row.committed = state.row.committed) :
    Counted quota ({ state with row := row, admitted := admitted }.keep session Session.fresh) where
  sessions := by
    intro other
    by_cases here : other = session
    · subst here
      simp only [State.keep, Function.update_self]
      exact ⟨by simp [Session.fresh], by simp [Session.fresh], by simp [Session.fresh],
        fun _ _ => rfl⟩
    · simpa [State.keep, Function.update_of_ne here] using counted.sessions other
  committed := committed
  latest := latest
  writer := by
    intro other
    have before := counted.writer other
    by_cases here : other = session
    · subst here
      simp [State.keep, others, Session.fresh, Stage.writes]
    · simpa [State.keep, Function.update_of_ne here, others, here] using before
  settled := settled
  pending := by
    intro other key writing
    change row.writing = some (other, key) at writing
    obtain ⟨same, stored⟩ := unmoved (by rw [writing]; simp)
    obtain ⟨before, here⟩ := (others other key).mp writing
    have pending := counted.pending other key before
    simp only [State.keep, Function.update_of_ne here]
    rw [same, stored]
    exact pending
  written := by
    intro other key writing kept
    change row.writing = some (other, key) at writing
    obtain ⟨same, -⟩ := unmoved (by rw [writing]; simp)
    obtain ⟨before, here⟩ := (others other key).mp writing
    simp only [State.keep, Function.update_of_ne here] at kept ⊢
    rw [same]
    exact counted.written other key before kept

theorem validate_counted (now : Time) (idle : (state.sessions session).stage = .idle) :
    Counted quota (state.validate session now) := by
  have seen := counted.seen session
  unfold State.validate
  dsimp only
  split
  · refine counted.goOn (by rw [idle]; rfl) _ _ rfl ?_ fun _ same => by cases same
    rintro key ⟨rfl⟩
    exact seen
  · exact counted

theorem rating_counted (kept withinRate : Bool)
    (rating : (state.sessions session).stage = .rating) :
    Counted quota (if withinRate then
        state.keep session ⟨some (state.load session kept), .reserving, 0⟩
      else state.keep session Session.fresh) := by
  have loaded := counted.load session kept
  have before : (state.sessions session).stage.writes = false := by rw [rating]; rfl
  split
  · refine counted.goOn before _ _ rfl ?_ fun _ same => by cases same
    rintro key ⟨rfl⟩
    exact loaded
  · exact counted.goOn before none _ rfl nofun fun _ same => by cases same

theorem readQuota_counted (reserving : (state.sessions session).stage = .reserving) :
    Counted quota (state.readQuota session kept) := by
  have loaded := counted.load session kept
  have before : (state.sessions session).stage.writes = false := by rw [reserving]; rfl
  unfold State.readQuota
  dsimp only
  split
  · exact counted.goOn before none _ rfl nofun fun _ same => by cases same
  next room =>
    refine counted.goOn before _ _ rfl ?_ ?_
    · rintro key ⟨rfl⟩
      exact loaded
    · rintro current ⟨rfl⟩
      have allowance := loaded.allowance
      have usage := loaded.usage
      omega

theorem reserveQuota_counted (counting : (state.sessions session).stage = .counting current)
    (stands : state.row.free session = true →
      (state.row.seen session).usageThisMonth = current) :
    Counted quota (state.reserveQuota session current) := by
  have bounds := (counted.sessions session).counting current counting
  have seen := counted.seen session
  unfold State.reserveQuota
  split
  next free =>
    have nobody := counted.unwritten (by simp [counting, Stage.writes]) free
    have settled := counted.settled nobody
    have read : state.row.committed.usageThisMonth = current := by
      have same : state.row.seen session = state.row.committed := by simp [Row.seen, nobody]
      rw [← same]
      exact stands free
    have sane : Sane quota { state.row.seen session with usageThisMonth := current + 1 } :=
      ⟨seen.allowance, by dsimp only; omega, by dsimp only; omega⟩
    refine counted.write _ sane free _ ⟨?_, by simp, by simp, by simp⟩ rfl _ ?_ ?_
    · rintro key ⟨rfl⟩
      exact sane
    · dsimp only
      omega
    · dsimp only
      omega
  · exact counted

theorem readRelease_counted (running : (state.sessions session).stage = .running) :
    Counted quota (state.readRelease session kept) := by
  have loaded := counted.load session kept
  unfold State.readRelease
  dsimp only
  split
  next some_ =>
    refine counted.keep _ ⟨?_, by simp, ?_, by simp⟩ ?_ rfl ?_
    · rintro key ⟨rfl⟩
      exact loaded
    · rintro current ⟨rfl⟩
      exact some_
    · simp [running, Stage.writes]
    · simp [running]
  · exact counted

theorem releaseQuota_counted (releasing : (state.sessions session).stage = .releasing current)
    (stands : state.row.free session = true →
      (state.row.seen session).usageThisMonth = current) :
    Counted quota (state.releaseQuota session current) := by
  have positive := (counted.sessions session).releasing current releasing
  have seen := counted.seen session
  obtain ⟨stored, writing⟩ := (counted.writer session).mp (by simp [releasing, Stage.writes])
  have pending := counted.pending session stored writing
  have written := counted.written session stored writing (by simp [releasing])
  have own : state.row.seen session = stored := by simp [Row.seen, writing]
  unfold State.releaseQuota
  split
  next free =>
    have read := stands free
    rw [own] at seen read ⊢
    have bound := seen.bound
    have sane : Sane quota { stored with usageThisMonth := current - 1 } :=
      ⟨seen.allowance, by dsimp only; omega, by dsimp only; omega⟩
    refine counted.write _ sane free _ ⟨?_, by simp, by simp, by simp⟩ rfl _ ?_ ?_
    · rintro key ⟨rfl⟩
      exact sane
    · dsimp only
      omega
    · dsimp only
      omega
  · exact counted

theorem readReset_counted (now : Time) (idle : (state.sessions session).stage = .idle) :
    Counted quota (state.readReset session now) := by
  have seen := counted.seen session
  unfold State.readReset
  dsimp only
  split
  · refine counted.goOn (by rw [idle]; rfl) _ _ rfl ?_ fun _ same => by cases same
    rintro key ⟨rfl⟩
    exact seen
  · exact counted

theorem resetMonthlyQuotas_counted (usage : Int) (now : Time)
    (resetting : (state.sessions session).stage = .resetting usage now) :
    Counted quota (state.resetMonthlyQuotas session usage now) := by
  have seen := counted.seen session
  unfold State.resetMonthlyQuotas
  split
  next free =>
    have nobody := counted.unwritten (by simp [resetting, Stage.writes]) free
    have settled := counted.settled nobody
    have sane : Sane quota { state.row.seen session with
        usageThisMonth := if usage = 0 then (state.row.seen session).usageThisMonth else 0
        usageResetAt := some (now + thirtyDays) } := by
      have low := seen.usage
      have high := seen.bound
      refine ⟨seen.allowance, ?_, ?_⟩ <;> dsimp only <;> split <;> omega
    refine counted.write _ sane free _ ⟨?_, by simp, by simp, fun _ _ => rfl⟩ rfl state.admitted ?_
      (by simp)
    · rintro key ⟨rfl⟩
      exact sane
    · dsimp only
      omega
  · exact counted

theorem Counted.commit (admitted : Int) (writes : (state.sessions session).stage.writes = true)
    (bound : admitted ≤ state.row.latest.usageThisMonth) :
    Counted quota ({ state with
      row := state.row.commit session, admitted := admitted }.keep session Session.fresh) := by
  obtain ⟨stored, writing⟩ := (counted.writer session).mp writes
  have free : state.row.free session = true := by simp [Row.free, writing]
  have others := state.row.writing_commit session
  rw [state.row.commit_free session free] at others ⊢
  exact counted.leave ⟨state.row.latest, none⟩ admitted counted.latest counted.latest others
    (fun _ => bound) (fun held => absurd rfl held)

theorem commit_counted : Counted quota (state.commit session) := by
  unfold State.commit
  split
  next running =>
    obtain ⟨stored, writing⟩ := (counted.writer session).mp (by simp [running, Stage.writes])
    refine counted.commit state.admitted (by simp [running, Stage.writes]) ?_
    have written := counted.written session stored writing (by simp [running])
    simpa [Row.latest, writing] using written
  next done => exact counted.commit 0 (by simp [done, Stage.writes]) counted.latest.usage
  · exact counted

theorem fail_counted (stands : (state.sessions session).reserved ≤ 0) :
    Counted quota (state.fail session) := by
  unfold State.fail
  have others := state.row.writing_rollback session
  cases free : state.row.free session with
  | true =>
    have row : state.row.rollback session = ⟨state.row.committed, none⟩ := by
      simp [Row.rollback, free]
    rw [row] at others ⊢
    apply counted.leave ⟨state.row.committed, none⟩ state.admitted counted.committed
      counted.committed others ?_ (fun held => absurd rfl held)
    intro _
    cases writing : state.row.writing with
    | none => exact counted.settled writing
    | some holder =>
      obtain ⟨writer, key⟩ := holder
      have pending := counted.pending writer key writing
      simp only [Row.free, writing, decide_eq_true_eq] at free
      subst free
      dsimp only
      omega
  | false =>
    have row : state.row.rollback session = state.row := by simp [Row.rollback, free]
    rw [row] at others ⊢
    exact counted.leave state.row state.admitted counted.committed counted.latest others
      counted.settled (fun _ => ⟨rfl, rfl⟩)

end

end Steps

theorem step_counted (event : Event) (counted : Counted quota state) (stands : Stands state event) :
    Counted quota (step state event) := by
  cases event with
  | arrive session now =>
    simp only [step]
    split
    next idle => exact validate_counted counted now idle
    · exact counted
  | advance session kept withinRate =>
    simp only [Stands, Session.stands] at stands
    simp only [step, State.advance]
    cases stage : (state.sessions session).stage with
    | rating => exact rating_counted counted kept withinRate stage
    | reserving => exact readQuota_counted counted kept stage
    | counting current =>
      simp only [stage, decide_eq_true_eq] at stands
      exact reserveQuota_counted counted current stage stands
    | releasing current =>
      simp only [stage, decide_eq_true_eq] at stands
      exact releaseQuota_counted counted current stage stands
    | resetting usage now => exact resetMonthlyQuotas_counted counted usage now stage
    | idle => exact counted
    | running => exact counted
    | resetDone => exact counted
  | release session kept =>
    simp only [step]
    split
    next running => exact readRelease_counted counted kept running
    · exact counted
  | reset session now =>
    simp only [step]
    split
    next idle => exact readReset_counted counted now idle
    · exact counted
  | commit session => exact commit_counted counted
  | fail session => exact fail_counted counted stands

theorem opened_counted (key : CommercialAPIKey) (usage : 0 ≤ key.usageThisMonth)
    (bound : key.usageThisMonth ≤ key.monthlyQuota) :
    Counted key.monthlyQuota (State.opened key) where
  sessions := fun session => ⟨by simp [State.opened, Session.fresh], by
    simp [State.opened, Session.fresh], by simp [State.opened, Session.fresh], fun _ _ => rfl⟩
  committed := ⟨rfl, usage, bound⟩
  latest := ⟨rfl, usage, bound⟩
  writer := by simp [State.opened, Session.fresh, Stage.writes]
  settled := fun _ => usage
  pending := by simp [State.opened]
  written := by simp [State.opened]

theorem quota_holds_when_reads_stand (key : CommercialAPIKey) (usage : 0 ≤ key.usageThisMonth)
    (bound : key.usageThisMonth ≤ key.monthlyQuota) (run : List Event)
    (stands : Along step Stands (State.opened key) run) :
    Always step (WithinQuota key.monthlyQuota) (State.opened key) run :=
  always_of_invariant step (Counted key.monthlyQuota) (WithinQuota key.monthlyQuota) Stands
    (step_counted key.monthlyQuota) (Counted.within key.monthlyQuota) run (State.opened key)
    (opened_counted key usage bound) stands

def oneCall : CommercialAPIKey := ⟨true, none, 1, 0, some 100⟩

def releasedCall : List Event :=
  [.arrive 1 0, .advance 1 false true, .advance 1 false true, .advance 1 false true,
    .release 1 true, .advance 1 false true, .commit 1, .arrive 2 1, .advance 2 true true,
    .advance 2 true true, .advance 2 true true, .commit 2, .arrive 3 2, .reset 4 200,
    .advance 4 false true, .commit 4]

theorem quota_holds_released_call :
    Always step (WithinQuota 1) (State.opened oneCall) releasedCall :=
  quota_holds_when_reads_stand oneCall (by decide) (by decide) releasedCall (by decide +kernel)

def twoWorkers : List Event :=
  [.arrive 1 0, .arrive 2 0, .advance 1 true true, .advance 2 true true, .advance 1 true true,
    .advance 2 true true, .advance 1 true true, .commit 1, .advance 2 true true]

theorem two_workers_exceed_quota :
    ¬ WithinQuota 1 (final step (State.opened oneCall) twoWorkers) := by decide +kernel

end Hartos.CommercialApi
