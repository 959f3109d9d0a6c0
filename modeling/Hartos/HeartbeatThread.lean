import Hartos.StepSystem
import Hartos.Task

/-!
The shared renew thread of one `DistributedTaskLock`. A call holds
`_heartbeat_lock` from start to end and is one event; the thread takes one event
for each point of its loop where it can be interrupted. What Redis answers to a
renewal is part of the event, so all answers are covered.
-/
namespace Hartos.HeartbeatThread
open KeyedTable StepSystem

/-- One row of `_heartbeats`. `event` names the threading.Event the row was
registered with, so a key registered again is another row. -/
structure Heartbeat where
  key : TaskId × AgentId
  event : Nat
  ttl : Nat
  deriving DecidableEq

inductive Renewal where
  | extended
  | refused
  -- The call raised; `renew` reports that as False too.
  | failed
  deriving DecidableEq

/-- Where `_heartbeat_loop` stands. `gone` is a thread that ended, or none yet. -/
inductive LoopPoint where
  | testing
  | waiting
  | snapshot
  | renewing (rest : List Heartbeat)
  | removing (lost : Heartbeat) (answer : Renewal) (rest : List Heartbeat)
  | returning
  | gone
  deriving DecidableEq

structure State where
  heartbeats : Table Heartbeat.key
  stopped : List Nat
  nextEvent : Nat
  stop : Bool
  thread : LoopPoint

def initial : State where
  heartbeats := Table.empty Heartbeat.key
  stopped := []
  nextEvent := 0
  stop := false
  thread := .gone

def defaultTtl : Nat := 300

def ttlOr (ttl : Option Nat) : Nat :=
  match ttl with
  | some (n + 1) => n + 1
  | _ => defaultTtl

variable (state : State)

def isAlive : Bool := state.thread ≠ .gone

def startHeartbeat (key : TaskId × AgentId) (ttl : Option Nat) : State :=
  if key ∈ state.heartbeats.keys then state
  else
    { state with
      heartbeats := state.heartbeats.set ⟨key, state.nextEvent, ttlOr ttl⟩
      nextEvent := state.nextEvent + 1
      -- A new stop flag comes with a new thread only.
      stop := if isAlive state then state.stop else false
      thread := if isAlive state then state.thread else .testing }

def stopHeartbeat (key : TaskId × AgentId) : State :=
  match state.heartbeats.get? key with
  | none => state
  | some entry =>
      { state with
        heartbeats := state.heartbeats.erase key
        stopped := entry.event :: state.stopped
        stop := state.stop || (state.heartbeats.erase key).rows.isEmpty }

def stopAllHeartbeats : State :=
  { state with
    heartbeats := Table.empty Heartbeat.key
    stopped := state.heartbeats.rows.map Heartbeat.event ++ state.stopped
    stop := true }

/-- One step of `_heartbeat_loop`; `answer` is what a renewal made now returns. -/
def loopStep (answer : Renewal) : State :=
  match state.thread with
  | .testing => { state with thread := if state.stop then .returning else .waiting }
  | .waiting => { state with thread := if state.stop then .returning else .snapshot }
  | .snapshot => { state with thread := .renewing state.heartbeats.rows }
  | .renewing [] => { state with thread := .testing }
  | .renewing (entry :: rest) =>
      if entry.event ∈ state.stopped ∨ answer = .extended then
        { state with thread := .renewing rest }
      else { state with thread := .removing entry answer rest }
  | .removing entry _ rest =>
      -- The table is popped by key, whatever row stands there by now.
      { state with
        heartbeats := state.heartbeats.erase entry.key
        thread := .renewing rest }
  | .returning => { state with thread := .gone }
  | .gone => state

inductive Event where
  | start (key : TaskId × AgentId) (ttl : Option Nat)
  | stop (key : TaskId × AgentId)
  | stopAll
  | loop (answer : Renewal)
  deriving DecidableEq

def step : Event → State
  | .start key ttl => startHeartbeat state key ttl
  | .stop key => stopHeartbeat state key
  | .stopAll => stopAllHeartbeats state
  | .loop answer => loopStep state answer

def Served : Prop :=
  state.heartbeats.rows ≠ [] →
    state.thread ≠ .returning ∧ state.thread ≠ .gone ∧ state.stop = false

instance : DecidablePred Served := fun state => by unfold Served; infer_instance

def LosesOnlyRefused (event : Event) : Prop :=
  ∀ entry, state.heartbeats.get? entry.key = some entry →
    (step state event).heartbeats.get? entry.key = some entry ∨
      event = .stop entry.key ∨ event = .stopAll ∨
      ∃ rest, state.thread = .removing entry .refused rest

def StartsClear : Event → Prop
  | .start key _ =>
      key ∈ state.heartbeats.keys ∨ ¬ (isAlive state = true ∧ state.stop = true)
  | _ => True

def RemovesRefused : Event → Prop
  | .loop _ => match state.thread with
    | .removing entry answer _ =>
        ∀ found, state.heartbeats.get? entry.key = some found → answer = .refused ∧ found = entry
    | _ => True
  | _ => True

def LeavesOnStop : Prop := state.thread = .returning → state.stop = true

variable (state : State) (key : TaskId × AgentId) (event : Event)

theorem leavesOnStop_step (holds : LeavesOnStop state) : LeavesOnStop (step state event) := by
  unfold LeavesOnStop at holds ⊢
  cases event with
  | start key ttl =>
    simp only [step, startHeartbeat]
    split
    · exact holds
    · by_cases alive : isAlive state = true
      · simpa [alive] using holds
      · simp [alive]
  | stop key =>
    simp only [step, stopHeartbeat]
    split
    · exact holds
    · intro leaving
      simp [holds leaving]
  | stopAll => exact fun _ => rfl
  | loop answer =>
    simp only [step, loopStep]
    split
    next => by_cases flag : state.stop = true <;> simp [flag]
    next => by_cases flag : state.stop = true <;> simp [flag]
    next => simp
    next => simp
    next => split <;> simp
    next => simp
    next => simp
    next => exact holds

theorem served_start (ttl : Option Nat) (leaves : LeavesOnStop state) (served : Served state) :
    Served (startHeartbeat state key ttl) ↔ StartsClear state (.start key ttl) := by
  by_cases known : key ∈ state.heartbeats.keys
  · simp only [startHeartbeat, known, ↓reduceIte, StartsClear, true_or, iff_true]
    exact served
  · have rows := state.heartbeats.set_nonempty ⟨key, state.nextEvent, ttlOr ttl⟩
    simp only [startHeartbeat, known, ↓reduceIte, Served, ne_eq, rows, not_false_eq_true,
      true_implies, StartsClear, false_or]
    by_cases alive : isAlive state = true
    -- A live thread is left as it is, its stop flag included.
    · have here : state.thread ≠ .gone := by simpa [isAlive] using alive
      simp only [alive, ↓reduceIte, true_and]
      constructor
      · intro after stopping
        rw [after.2.2] at stopping
        cases stopping
      · intro clear
        exact ⟨fun leaving => clear (leaves leaving), here, by simpa using clear⟩
    · simp [alive]

theorem served_stop (served : Served state) : Served (stopHeartbeat state key) := by
  unfold stopHeartbeat
  cases found : state.heartbeats.get? key with
  | none => exact served
  | some entry =>
    intro left
    have before := served (state.heartbeats.erase_nonempty key left)
    exact ⟨before.1, before.2.1, by simp [before.2.2, left]⟩

theorem served_loop (answer : Renewal) (served : Served state) :
    Served (loopStep state answer) := by
  intro left
  -- The loop only removes rows, so a row left over was there before.
  have before : state.heartbeats.rows ≠ [] := by
    revert left
    unfold loopStep
    repeat' split
    all_goals first | exact id | exact fun left => Table.erase_nonempty _ _ left
  obtain ⟨inLoop, running, clear⟩ := served before
  unfold loopStep
  split
  next => simp [clear]
  next => simp [clear]
  next => simp [clear]
  next => simp [clear]
  next => split <;> simp [clear]
  next => simp [clear]
  next leaving => exact absurd leaving inLoop
  next gone => exact absurd gone running

theorem served_step (leaves : LeavesOnStop state) (served : Served state) :
    Served (step state event) ↔ StartsClear state event := by
  cases event with
  | start key ttl => exact served_start state key ttl leaves served
  | stop key => exact iff_of_true (served_stop state key served) trivial
  | stopAll => exact iff_of_true (fun left => absurd rfl left) trivial
  | loop answer => exact iff_of_true (served_loop state answer served) trivial

theorem losesOnlyRefused_iff : LosesOnlyRefused state event ↔ RemovesRefused state event := by
  cases event with
  | start key ttl =>
    refine iff_of_true (fun entry there => Or.inl ?_) trivial
    by_cases known : key ∈ state.heartbeats.keys
    · simpa [step, startHeartbeat, known] using there
    · have other : key ≠ entry.key := by
        intro same
        exact known (same ▸ (Table.mem_keys _ _).mpr ⟨entry, there⟩)
      simp [step, startHeartbeat, known, Table.get?_set, other, there]
  | stop key =>
    refine iff_of_true (fun entry there => ?_) trivial
    by_cases same : key = entry.key
    · exact Or.inr (Or.inl (same ▸ rfl))
    · refine Or.inl ?_
      simp only [step, stopHeartbeat]
      split
      · exact there
      · simp [Table.get?_erase, Ne.symm same, there]
  | stopAll => exact iff_of_true (fun _ _ => Or.inr (Or.inr (Or.inl rfl))) trivial
  | loop answer =>
    cases point : state.thread with
    | removing lost given rest =>
      simp only [LosesOnlyRefused, RemovesRefused, step, loopStep, point, reduceCtorEq, false_or,
        LoopPoint.removing.injEq, Table.get?_erase]
      constructor
      · intro keeps found there
        have named := Table.get?_key _ _ _ there
        rcases keeps found (named ▸ there) with stays | ⟨_, sameRow, refused, _⟩
        · simp [named] at stays
        · exact ⟨refused, sameRow.symm⟩
      · intro due entry there
        by_cases same : entry.key = lost.key
        · obtain ⟨refused, sameRow⟩ := due entry (same ▸ there)
          exact Or.inr ⟨rest, sameRow.symm, refused, rfl⟩
        · exact Or.inl (by simp [same, there])
    | renewing entries =>
      refine iff_of_true (fun entry there => Or.inl ?_) (by simp [RemovesRefused, point])
      cases entries with
      | nil => simpa [step, loopStep, point] using there
      | cons first rest =>
        by_cases kept : first.event ∈ state.stopped ∨ answer = .extended <;>
          simpa [step, loopStep, point, kept] using there
    | _ =>
      refine iff_of_true (fun entry there => Or.inl ?_) (by simp [RemovesRefused, point])
      simpa [step, loopStep, point] using there

/-- The two laws of the heartbeat table, each with the steps that keep it. In a
run from a new lock, registered heartbeats always have a thread that runs on
exactly when nothing registers while the thread is on its way out; and rows leave
the table by a stop or a refused renewal of their own exactly when every row the
loop removes is the refused one. -/
theorem heartbeats_kept_iff (run : List Event) :
    (Always step Served initial run ↔ Along step StartsClear initial run) ∧
      (Along step LosesOnlyRefused initial run ↔ Along step RemovesRefused initial run) :=
  ⟨always_iff_along step LeavesOnStop Served StartsClear leavesOnStop_step served_step run initial
      (by simp [LeavesOnStop, initial]) (fun rows => absurd rfl rows),
    along_congr step LosesOnlyRefused RemovesRefused losesOnlyRefused_iff run initial⟩

/-- A claim stopped and another started before the thread woke: the thread ends
and the new claim is never renewed. -/
theorem second_claim_unserved :
    let run : List Event :=
      [.start ("a", "worker") none, .stop ("a", "worker"), .start ("b", "worker") none,
        .loop .extended, .loop .extended]
    ¬ Always step Served initial run ∧
      (final step initial run).heartbeats.keys = [("b", "worker")] ∧
      (final step initial run).thread = .gone := by
  decide

end Hartos.HeartbeatThread
