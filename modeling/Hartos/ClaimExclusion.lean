import Hartos.ClaimOwnership
import Hartos.CoordinatorPrograms

/-!
Who else gets a task somebody holds, on a coordinator with the lock of one
process. Threads run the calls of their workers access by access, in any order.
Nothing renews an entry of that lock, whatever `heartbeat` says, so a holder is
alone with its task while the entry has not lapsed, and no longer.
-/
namespace Hartos.ClaimExclusion
open TaskStatus KeyedTable StepSystem

abbrev Local := Coordinator InMemoryTaskLock

abbrev ThreadId := String

/-- Who has a task, and when its lock was taken: a call that has locked it and not
answered yet, or the worker it was handed to. -/
structure Hold where
  taskId : TaskId
  agentId : AgentId
  since : Time
  claiming : Option ThreadId
  deriving DecidableEq

structure Call where
  agentId : AgentId
  program : Program InMemoryTaskLock

structure State where
  coordinator : Local
  running : ThreadId → Option Call
  holds : List Hold

inductive Event where
  | begins (thread : ThreadId) (call : CoordinatorEvent) (passes : Nat)
  | runs (thread : ThreadId) (now : Time)
  -- Whatever else the process does to its ledger.
  | edits (ledger : SmartLedger)

/-- A worker that reports on a task no longer holds it; a call that broke off claims nothing. -/
def begun (thread : ThreadId) (call : CoordinatorEvent) (holds : List Hold) : List Hold :=
  holds.filter fun hold => hold.claiming ≠ some thread ∧
    ¬ (hold.claiming = none ∧ call.reported = some hold.taskId ∧ call.agent = hold.agentId)

def accessed (thread : ThreadId) (now : Time) (granted : Bool) (holds : List Hold) :
    Access → List Hold
  | .tryClaimTask taskId agentId =>
      if granted then ⟨taskId, agentId, now, some thread⟩ :: holds else holds
  | .releaseTask taskId _ =>
      holds.filter fun hold => ¬ (hold.taskId = taskId ∧ hold.claiming = some thread)
  | _ => holds

def lockedAt (thread : ThreadId) (now : Time) (holds : List Hold) (taskId : TaskId) : Time :=
  match holds.find? fun hold => hold.taskId = taskId ∧ hold.claiming = some thread with
  | none => now
  | some hold => hold.since

def answered (thread : ThreadId) (agentId : AgentId) (now : Time) (holds : List Hold) :
    Answer → List Hold
  | .claimed taskIds =>
      taskIds.map (fun taskId => ⟨taskId, agentId, lockedAt thread now holds taskId, none⟩) ++
        holds.filter fun hold => hold.claiming ≠ some thread
  | _ => holds

def State.run (host : Host) (state : State) (thread : ThreadId) (now : Time) (call : Call) :
    State :=
  let goesOn (program : Program InMemoryTaskLock) :=
    Function.update state.running thread (some { call with program := program })
  match call.program with
  | .done answer =>
      { state with
        running := Function.update state.running thread none
        holds := answered thread call.agentId now state.holds answer }
  | .look next => { state with running := goesOn (next state.coordinator now) }
  | .access access next =>
      let outcome := state.coordinator.access host now access
      { coordinator := outcome.2
        running := goesOn (next outcome.1)
        holds := accessed thread now outcome.1 state.holds access }

def step (host : Host) (state : State) : Event → State
  | .begins thread call passes =>
      { state with
        running := Function.update state.running thread (some ⟨call.agent, call.program host passes⟩)
        holds := begun thread call state.holds }
  | .runs thread now =>
      match state.running thread with
      | none => state
      | some call => state.run host thread now call
  | .edits ledger => { state with coordinator := { state.coordinator with ledger := ledger } }

def start (coordinator : Local) : State := ⟨coordinator, fun _ => none, []⟩

def State.next (state : State) : Event → Option (ThreadId × Time × Program InMemoryTaskLock)
  | .runs thread now => (state.running thread).map fun call => (thread, now, call.program)
  | _ => none

/-- No claim returns a task that somebody holds. -/
def Exclusive (state : State) (event : Event) : Prop :=
  match state.next event with
  | some (_, _, .done (.claimed taskIds)) =>
      ∀ hold ∈ state.holds, hold.taskId ∈ taskIds → hold.claiming ≠ none
  | _ => True

def State.timely (state : State) : ThreadId × Time × Program InMemoryTaskLock → Bool
  | (_, now, .access (.tryClaimTask taskId _) _) =>
      state.holds.all fun hold => hold.taskId = taskId → now < hold.since + lockTtl
  | (thread, _, .access (.releaseTask taskId agentId) _) =>
      state.holds.all fun hold => hold.taskId = taskId → hold.agentId = agentId →
        hold.claiming = some thread
  | _ => true

/-- A lock is asked for while the lock of whoever has the task lives, and given back
before the same agent has the task anew. -/
def Timely (state : State) (event : Event) : Prop := (state.next event).all state.timely = true

instance (state : State) (event : Event) : Decidable (Timely state event) :=
  inferInstanceAs (Decidable (_ = true))

section Entries
variable (lock : InMemoryTaskLock) (taskId other : TaskId) (agentId : AgentId) (now : Time)

theorem claim_entry (different : other ≠ taskId) :
    (tryClaimTask lock taskId agentId now).2.locks.get? other = lock.locks.get? other := by
  change (lock.tryClaimTask taskId agentId now).2.locks.get? other = _
  rw [InMemoryTaskLock.tryClaimTask_spec]
  split
  · rfl
  · simp [Table.get?_set, Ne.symm different]

theorem claim_own_entry (granted : (tryClaimTask lock taskId agentId now).1 = true) :
    (tryClaimTask lock taskId agentId now).2.locks.get? taskId =
      some ⟨taskId, agentId, now + lockTtl⟩ := by
  change (lock.tryClaimTask taskId agentId now).1 = true at granted
  change (lock.tryClaimTask taskId agentId now).2.locks.get? taskId = _
  rw [InMemoryTaskLock.tryClaimTask_spec] at granted ⊢
  split at granted
  · simp at granted
  next free => simp [free]

theorem busy_lock (busy : (tryClaimTask lock taskId agentId now).1 = false) :
    (tryClaimTask lock taskId agentId now).2 = lock := by
  change (lock.tryClaimTask taskId agentId now).1 = false at busy
  change (lock.tryClaimTask taskId agentId now).2 = lock
  rw [InMemoryTaskLock.tryClaimTask_spec] at busy ⊢
  split at busy
  next held => simp [held]
  · simp at busy

-- A release takes out the caller's own entry or nothing.
theorem release_entry (entry : LockEntry) (there : lock.locks.get? other = some entry)
    (foreign : other ≠ taskId ∨ entry.agentId ≠ agentId) :
    (releaseTask lock taskId agentId now).2.locks.get? other = some entry := by
  change (lock.releaseTask taskId agentId).2.locks.get? other = _
  unfold InMemoryTaskLock.releaseTask
  cases found : lock.locks.get? taskId with
  | none => exact there
  | some existing =>
    by_cases owned : existing.agentId = agentId
    · have different : other ≠ taskId := by
        rintro rfl
        rw [found, Option.some.injEq] at there
        exact foreign.elim (absurd rfl) fun stranger => stranger (there ▸ owned)
      simp [owned, Table.get?_erase, different, there]
    · simp [owned, there]

-- An entry that has not run out refuses the next claim.
theorem live_entry_refuses (holder : AgentId) (since : Time)
    (entry : lock.locks.get? taskId = some ⟨taskId, holder, since + lockTtl⟩)
    (live : now < since + lockTtl) : (tryClaimTask lock taskId agentId now).1 = false := by
  change (lock.tryClaimTask taskId agentId now).1 = false
  simp [InMemoryTaskLock.tryClaimTask, entry, live]

end Entries

def Claiming (holds : List Hold) (thread : ThreadId) (call : Call) : Prop :=
  ∃ owned, Sound call.agentId owned none call.program ∧
    ∀ taskId ∈ owned, ∃ since, ⟨taskId, call.agentId, since, some thread⟩ ∈ holds

structure Recorded (holds : List Hold) (lock : InMemoryTaskLock) : Prop where
  entry : ∀ hold ∈ holds, lock.locks.get? hold.taskId =
    some ⟨hold.taskId, hold.agentId, hold.since + lockTtl⟩
  single : ∀ hold ∈ holds, ∀ other ∈ holds, hold.taskId = other.taskId → hold = other

theorem Recorded.filter {holds : List Hold} {lock : InMemoryTaskLock} (recorded : Recorded holds lock)
    (keep : Hold → Bool) : Recorded (holds.filter keep) lock :=
  ⟨fun hold member => recorded.entry hold (List.mem_of_mem_filter member),
    fun hold first other second => recorded.single hold (List.mem_of_mem_filter first) other
      (List.mem_of_mem_filter second)⟩

structure Guarded (state : State) : Prop where
  recorded : Recorded state.holds state.coordinator.lock
  calls : ∀ thread call, state.running thread = some call → Claiming state.holds thread call

section Steps
variable (host : Host) {state after : State} {thread : ThreadId} {now : Time}

theorem guarded_start (coordinator : Local) : Guarded (start coordinator) := by
  constructor
  · exact ⟨List.forall_mem_nil _, List.forall_mem_nil _⟩
  · rintro thread call ⟨⟩

-- The rule for a step of one thread: what the others have locked stays theirs.
theorem Guarded.step_of (guarded : Guarded state) (own : Option Call)
    (running : after.running = Function.update state.running thread own)
    (recorded : Recorded after.holds after.coordinator.lock)
    (claims : ∀ call, own = some call → Claiming after.holds thread call)
    (others : ∀ hold ∈ state.holds, ∀ other, hold.claiming = some other → other ≠ thread →
      hold ∈ after.holds) : Guarded after := by
  refine ⟨recorded, fun other call found => ?_⟩
  rw [running] at found
  by_cases same : other = thread
  · subst same
    rw [Function.update_self] at found
    exact claims call found
  · rw [Function.update_of_ne same] at found
    obtain ⟨owned, lawful, locked⟩ := guarded.calls other call found
    refine ⟨owned, lawful, fun taskId member => ?_⟩
    obtain ⟨since, hold⟩ := locked taskId member
    exact ⟨since, others _ hold other rfl same⟩

theorem begun_guarded (guarded : Guarded state) (call : CoordinatorEvent) (passes : Nat) :
    Guarded (step host state (.begins thread call passes)) := by
  apply guarded.step_of (some ⟨call.agent, call.program host passes⟩) rfl
  · exact guarded.recorded.filter _
  · rintro _ ⟨⟩
    exact ⟨[], Sound.program host passes call, List.forall_mem_nil _⟩
  · intro hold member other claiming different
    apply List.mem_filter.mpr
    simp [member, claiming, different]

theorem lockedAt_own (recorded : Recorded state.holds state.coordinator.lock) (own : Hold)
    (member : own ∈ state.holds) (claiming : own.claiming = some thread) :
    lockedAt thread now state.holds own.taskId = own.since := by
  unfold lockedAt
  split
  next missing =>
    have other := List.find?_eq_none.mp missing own member
    simp [claiming] at other
  next hold found =>
    have same := List.find?_some found
    rw [decide_eq_true_eq] at same
    rw [recorded.single hold (List.mem_of_find?_eq_some found) own member same.1]

theorem answered_guarded (guarded : Guarded state) (agentId : AgentId) (answer : Answer)
    (found : state.running thread = some ⟨agentId, .done answer⟩) :
    Guarded (state.run host thread now ⟨agentId, .done answer⟩) := by
  obtain ⟨owned, lawful, locked⟩ := guarded.calls thread _ found
  apply guarded.step_of none rfl
  · cases answer with
    | claimed taskIds =>
      -- What is handed out is what this thread had locked, and nobody else has it.
      have own (taskId : TaskId) (member : taskId ∈ taskIds) :
          ⟨taskId, agentId, lockedAt thread now state.holds taskId, some thread⟩ ∈ state.holds := by
        obtain ⟨since, held⟩ := locked taskId (lawful taskId member).1
        rw [lockedAt_own guarded.recorded _ held rfl]
        exact held
      have apart (taskId : TaskId) (member : taskId ∈ taskIds) (hold : Hold)
          (kept : hold ∈ state.holds.filter fun hold => hold.claiming ≠ some thread) :
          hold.taskId ≠ taskId := by
        rintro rfl
        obtain ⟨earlier, other⟩ := List.mem_filter.mp kept
        have same := guarded.recorded.single hold earlier _ (own hold.taskId member) rfl
        rw [same] at other
        simp at other
      constructor
      · intro hold member
        rcases List.mem_append.mp member with handed | kept
        · obtain ⟨taskId, listed, rfl⟩ := List.mem_map.mp handed
          exact (guarded.recorded.entry _ (own taskId listed) :)
        · exact guarded.recorded.entry hold (List.mem_of_mem_filter kept)
      · intro hold member other also same
        rcases List.mem_append.mp member with handed | kept
        · obtain ⟨taskId, listed, rfl⟩ := List.mem_map.mp handed
          rcases List.mem_append.mp also with handed | kept
          · obtain ⟨second, _, rfl⟩ := List.mem_map.mp handed
            cases same
            rfl
          · exact absurd same.symm (apart taskId listed other kept)
        · rcases List.mem_append.mp also with handed | last
          · obtain ⟨taskId, listed, rfl⟩ := List.mem_map.mp handed
            exact absurd same (apart taskId listed hold kept)
          · exact guarded.recorded.single hold (List.mem_of_mem_filter kept) other
              (List.mem_of_mem_filter last) same
    | submitted | ended => exact guarded.recorded
  · rintro _ ⟨⟩
  · intro hold member other claiming different
    cases answer with
    | claimed taskIds =>
      apply List.mem_append_right
      apply List.mem_filter.mpr
      simp [member, claiming, different]
    | submitted | ended => exact member

theorem claimed_guarded (guarded : Guarded state) (agentId : AgentId) (taskId : TaskId)
    (next : Bool → Program InMemoryTaskLock) (lawful : ∃ owned : List TaskId,
      (∀ granted, Sound agentId (if granted then taskId :: owned else owned) none (next granted)) ∧
        ∀ other ∈ owned, ∃ since, ⟨other, agentId, since, some thread⟩ ∈ state.holds)
    (alive : ∀ hold ∈ state.holds, hold.taskId = taskId → now < hold.since + lockTtl) :
    Guarded (state.run host thread now ⟨agentId, .access (.tryClaimTask taskId agentId) next⟩) := by
  obtain ⟨owned, lawful, locked⟩ := lawful
  have busy := busy_lock state.coordinator.lock taskId agentId now
  have entry := claim_own_entry state.coordinator.lock taskId agentId now
  have others (other : TaskId) :=
    claim_entry state.coordinator.lock taskId other agentId now
  have refuses (hold : Hold) (held : hold ∈ state.holds) (same : hold.taskId = taskId) :=
    live_entry_refuses state.coordinator.lock taskId agentId now _ _
      (same ▸ guarded.recorded.entry hold held) (alive hold held same)
  have result : state.run host thread now ⟨agentId, .access (.tryClaimTask taskId agentId) next⟩ =
      let outcome := tryClaimTask state.coordinator.lock taskId agentId now
      ⟨⟨state.coordinator.ledger, outcome.2⟩,
        Function.update state.running thread (some ⟨agentId, next outcome.1⟩),
        accessed thread now outcome.1 state.holds (.tryClaimTask taskId agentId)⟩ := rfl
  rw [result]
  generalize tryClaimTask state.coordinator.lock taskId agentId now = outcome
    at busy entry others refuses ⊢
  obtain ⟨granted, lock⟩ := outcome
  cases granted with
  -- Refused: the lock is as it was.
  | false =>
    obtain rfl : lock = state.coordinator.lock := busy rfl
    apply guarded.step_of (some ⟨agentId, next false⟩) rfl
    · exact guarded.recorded
    · rintro _ ⟨⟩
      exact ⟨owned, lawful false, locked⟩
    · exact fun _ held _ _ _ => held
  | true =>
    -- A live entry would have refused, so nobody has the task.
    have apart (hold : Hold) (held : hold ∈ state.holds) : hold.taskId ≠ taskId := by
      intro same
      cases refuses hold held same
    apply guarded.step_of (some ⟨agentId, next true⟩) rfl
    · constructor
      · intro hold member
        rcases List.mem_cons.mp member with rfl | held
        · exact entry rfl
        · exact (others hold.taskId (apart hold held)).trans (guarded.recorded.entry hold held)
      · intro hold member other also same
        rcases List.mem_cons.mp member with rfl | held
        · rcases List.mem_cons.mp also with rfl | held
          · rfl
          · exact absurd same.symm (apart other held)
        · rcases List.mem_cons.mp also with rfl | last
          · exact absurd same (apart hold held)
          · exact guarded.recorded.single hold held other last same
    · rintro _ ⟨⟩
      refine ⟨taskId :: owned, lawful true, fun other member => ?_⟩
      rcases List.mem_cons.mp member with rfl | earlier
      · exact ⟨now, List.mem_cons_self⟩
      · obtain ⟨since, held⟩ := locked other earlier
        exact ⟨since, List.mem_cons_of_mem _ held⟩
    · exact fun _ held _ _ _ => List.mem_cons_of_mem _ held

theorem released_guarded (guarded : Guarded state) (call agentId : AgentId) (taskId : TaskId)
    (next : Bool → Program InMemoryTaskLock) (lawful : ∃ owned : List TaskId,
      (∀ replied, Sound call (owned.filter (· ≠ taskId)) none (next replied)) ∧
        ∀ other ∈ owned, ∃ since, ⟨other, call, since, some thread⟩ ∈ state.holds)
    (own : ∀ hold ∈ state.holds, hold.taskId = taskId → hold.agentId = agentId →
      hold.claiming = some thread) :
    Guarded (state.run host thread now ⟨call, .access (.releaseTask taskId agentId) next⟩) := by
  obtain ⟨owned, lawful, locked⟩ := lawful
  apply guarded.step_of (some ⟨call, next _⟩) rfl
  · refine ⟨fun hold member => ?_, (guarded.recorded.filter _).single⟩
    obtain ⟨held, stays⟩ := List.mem_filter.mp member
    apply release_entry _ taskId hold.taskId agentId now _ (guarded.recorded.entry hold held)
    -- The entry goes with a hold of this call, and stays with any other.
    by_cases same : hold.taskId = taskId
    · right
      intro mine
      simp [same, own hold held same mine] at stays
    · exact Or.inl same
  · rintro _ ⟨⟩
    refine ⟨owned.filter (· ≠ taskId), lawful _, fun other member => ?_⟩
    obtain ⟨earlier, different⟩ := List.mem_filter.mp member
    obtain ⟨since, held⟩ := locked other earlier
    refine ⟨since, List.mem_filter.mpr ⟨held, ?_⟩⟩
    simpa using of_decide_eq_true different
  · intro hold held other claiming different
    apply List.mem_filter.mpr
    simp [held, claiming, different]

theorem run_guarded (guarded : Guarded state) (call : Call)
    (found : state.running thread = some call) (timely : Timely state (.runs thread now)) :
    Guarded (state.run host thread now call) := by
  obtain ⟨agentId, program⟩ := call
  obtain ⟨owned, lawful, locked⟩ := guarded.calls thread _ found
  cases program with
  | done answer => exact answered_guarded host guarded agentId answer found
  | look next =>
    apply guarded.step_of (some ⟨agentId, next state.coordinator now⟩) rfl
    · exact guarded.recorded
    · rintro _ ⟨⟩
      exact ⟨owned, lawful state.coordinator now nofun, locked⟩
    · exact fun _ held _ _ _ => held
  | access access next =>
    obtain ⟨locksFor, _, lawful⟩ := lawful
    have goesOn (replied : Bool) := lawful replied (access.tells_none replied)
    simp only [Timely, State.next, found, Option.map_some, Option.all_some] at timely
    cases access with
    | tryClaimTask taskId other =>
      obtain rfl : other = agentId := locksFor
      apply claimed_guarded host guarded other taskId next ⟨owned, goesOn, locked⟩
      simpa [State.timely, imp_iff_not_or] using timely
    | releaseTask taskId other =>
      apply released_guarded host guarded agentId other taskId next ⟨owned, goesOn, locked⟩
      simpa [State.timely, imp_iff_not_or] using timely
    -- Nothing else touches the lock.
    | _ =>
      apply guarded.step_of (some ⟨agentId, next _⟩) rfl
      · exact guarded.recorded
      · rintro _ ⟨⟩
        exact ⟨owned, goesOn _, locked⟩
      · exact fun _ held _ _ _ => held

theorem step_guarded (state : State) (event : Event) (guarded : Guarded state)
    (timely : Timely state event) : Guarded (step host state event) := by
  cases event with
  | begins thread call passes => exact begun_guarded host guarded call passes
  | runs thread now =>
    cases found : state.running thread with
    | none => simpa only [step, found] using guarded
    | some call => simpa only [step, found] using run_guarded host guarded call found timely
  | edits ledger => exact ⟨guarded.recorded, guarded.calls⟩

end Steps

theorem guarded_exclusive (state : State) (event : Event) (guarded : Guarded state) :
    Exclusive state event := by
  cases event with
  | begins | edits => trivial
  | runs thread now =>
    cases found : state.running thread with
    | none => simp only [Exclusive, State.next, found, Option.map_none]
    | some call =>
      obtain ⟨agentId, program⟩ := call
      obtain ⟨owned, lawful, locked⟩ := guarded.calls thread _ found
      simp only [Exclusive, State.next, found, Option.map_some]
      split
      next taskIds same =>
        cases same
        intro hold member listed
        obtain ⟨since, own⟩ := locked hold.taskId (lawful hold.taskId listed).1
        rw [guarded.recorded.single hold member _ own rfl]
        simp
      next => trivial

/-- In every run in which locks are asked for and given back in time, no claim
returns a task that somebody holds. -/
theorem exclusive_along (host : Host) (coordinator : Local) (run : List Event)
    (timely : Along (step host) Timely (start coordinator) run) :
    Along (step host) Exclusive (start coordinator) run :=
  along_of_invariant (step host) Guarded Timely Exclusive (step_guarded host)
    (fun state event guarded _ => guarded_exclusive state event guarded) run _
    (guarded_start coordinator) timely

def claims (thread : ThreadId) (agentId : AgentId) : Event :=
  .begins thread (.claimNextTask agentId none 0) 2

def runs (thread : ThreadId) (now : Time) (steps : Nat) : List Event :=
  List.replicate steps (.runs thread now)

/-- Both calls find the task pending; the second asks for the lock ten seconds late. -/
theorem exclusive_one_leaf :
    Along (step SmartLedger.sampleHost) Exclusive (start ClaimOwnership.oneLeaf)
      ([claims "left" "first", claims "right" "second"] ++ runs "left" 0 6 ++
        runs "right" (seconds 10) 8 ++ runs "left" (seconds 20) 5) :=
  exclusive_along SmartLedger.sampleHost ClaimOwnership.oneLeaf _ (by decide)

/-- After ten minutes the lock has long lapsed, and a second worker gets the task
although the first is still at it. -/
theorem second_worker_gets_held_task :
    ¬ Along (step SmartLedger.sampleHost) Exclusive (start ClaimOwnership.oneLeaf)
      ([claims "left" "first"] ++ runs "left" 0 11 ++ [claims "right" "second"] ++
        runs "right" (seconds 601) 17 ++ [.runs "right" (seconds 601)]) := by
  intro lawful
  rw [along_append] at lawful
  have exclusive := lawful.2.1
  generalize reached : final (step SmartLedger.sampleHost) _ _ = state at exclusive
  have held : ⟨"a", "first", 0, none⟩ ∈ state.holds := by
    rw [← reached]
    decide
  have handed : (state.next (.runs "right" (seconds 601))).map (fun step => step.2.2) =
      some (.done (.claimed ["a"])) := by
    rw [← reached]
    rfl
  obtain ⟨⟨thread, now, program⟩, next, rfl⟩ := Option.map_eq_some_iff.mp handed
  simp only [Exclusive, next] at exclusive
  exact exclusive _ held List.mem_cons_self rfl

end Hartos.ClaimExclusion
