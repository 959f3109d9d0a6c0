import Hartos.CoordinatorEvents

/-!
Who may finish a claimed task. The coordinator compares no caller with the
recorded claimant: `release_task` checks the owner of the lock, the ledger change
before it checks nobody. Runs in which a report is made by the agent the task was
last handed to keep the law; a late report of a recovered claim breaks it.
-/
namespace Hartos.ClaimOwnership
open TaskStatus KeyedTable StepSystem
open SmartLedger (Cascaded)
variable {Lock : Type} [TaskLock Lock]

structure State (Lock : Type) where
  coordinator : Coordinator Lock
  granted : TaskId → Option AgentId

def step (host : Host) (state : State Lock) (event : CoordinatorEvent) : State Lock where
  coordinator := (event.perform host state.coordinator).2
  granted taskId :=
    if taskId ∈ (event.perform host state.coordinator).1 then some event.agent
    else state.granted taskId

def start (coordinator : Coordinator Lock) : State Lock where
  coordinator := coordinator
  granted taskId := (coordinator.ledger.getTask taskId).bind fun task => task.context.claimedBy

def Entitled (state : State Lock) (event : CoordinatorEvent) : Prop :=
  ∀ taskId status holder, event.reported = some taskId → event.target = some status →
    state.granted taskId = some holder →
    event.agent = holder ∨ ∀ task, state.coordinator.ledger.getTask taskId = some task →
      task.validateTransition status = false

/-- The law of one call: a task running under a claim is finished, deferred or
blocked by its claimant alone, and a report by anyone else leaves the task as it
was. -/
structure OwnerOnly (host : Host) (state : State Lock) (event : CoordinatorEvent) : Prop where
  moves : ∀ taskId old new claimant, state.coordinator.ledger.getTask taskId = some old →
    (step host state event).coordinator.ledger.getTask taskId = some new →
    old.status = .inProgress → old.context.claimedBy = some claimant →
    (new.status = .completed ∨ new.status = .deferred ∨ new.status = .blocked) →
    event.reported = some taskId ∧ event.agent = claimant
  strangers : ∀ taskId old claimant, event.reported = some taskId →
    state.coordinator.ledger.getTask taskId = some old →
    old.context.claimedBy = some claimant → claimant ≠ event.agent →
    (step host state event).coordinator.ledger.getTask taskId = some old

def Recorded (state : State Lock) : Prop :=
  ∀ taskId task claimant, state.coordinator.ledger.getTask taskId = some task →
    task.context.claimedBy = some claimant → state.granted taskId = some claimant

omit [TaskLock Lock] in
theorem recorded_start (coordinator : Coordinator Lock) : Recorded (start coordinator) := by
  intro taskId task claimant found claimed
  have there : coordinator.ledger.getTask taskId = some task := found
  simp [start, there, claimed]

variable (host : Host) (state : State Lock) (event : CoordinatorEvent)

theorem recorded_claim (claims : event.reported = none) (recorded : Recorded state) :
    Recorded (step host state event) := by
  have effect := event.claim_ledger host state.coordinator claims
  intro taskId new claimant found claimed
  obtain ⟨old, there, row⟩ := effect.rows.get?_origin taskId new found
  have named := state.coordinator.ledger.getTask_taskId taskId old there
  by_cases returned : taskId ∈ (event.perform host state.coordinator).1
  · have granted := row.granted (named.symm ▸ returned)
    rw [granted.claimedBy, Option.some.injEq] at claimed
    simp [step, returned, claimed]
  · simp only [step, returned, ↓reduceIte]
    cases row.passed (named.symm ▸ returned) with
    | kept same => exact recorded taskId old claimant there (same ▸ claimed)
    | undeferred _ _ _ context => exact recorded taskId old claimant there (context ▸ claimed)
    -- A recovery takes the claimant off the record.
    | recovered _ _ _ cleared =>
        rw [cleared.1] at claimed
        cases claimed

theorem recorded_report (taskId : TaskId) (reports : event.reported = some taskId)
    (recorded : Recorded state) : Recorded (step host state event) := by
  -- A report hands out nothing: `granted` stays, and the record can only lose claimants.
  have none := event.report_returns_none host state.coordinator taskId reports
  intro other new claimant found claimed
  simp only [step, none, List.not_mem_nil, ↓reduceIte]
  cases asks : event.target with
  | none =>
    have idle := event.idle_report host state.coordinator taskId reports asks
    simp only [step, idle] at found
    exact recorded other new claimant found claimed
  | some status =>
    have rows := event.report_rows host state.coordinator taskId status reports asks
    obtain ⟨old, there, row⟩ := rows.get?_origin other new found
    by_cases here : old.taskId = taskId
    · rcases row.named here with same | ⟨_, sameClaim | ⟨_, cleared, _⟩⟩
      · exact recorded other old claimant there (same ▸ claimed)
      · exact recorded other old claimant there (sameClaim.1 ▸ claimed)
      · rw [cleared] at claimed
        cases claimed
    · have context := (row.others here).context
      exact recorded other old claimant there (context ▸ claimed)

theorem recorded_step (recorded : Recorded state) : Recorded (step host state event) := by
  cases reports : event.reported with
  | none => exact recorded_claim host state event reports recorded
  | some taskId => exact recorded_report host state event taskId reports recorded

-- A claim finishes, defers and blocks nothing that is running.
theorem ownerOnly_claim (claims : event.reported = none) : OwnerOnly host state event := by
  have effect := event.claim_ledger host state.coordinator claims
  refine ⟨fun taskId old new claimant found after running _ finished => ?_,
    fun taskId _ _ reports => ?_⟩
  · obtain ⟨new', there, row⟩ := effect.rows.get?_some taskId old found
    have same : new = new' := Option.some.inj (after.symm.trans there)
    subst same
    by_cases returned : old.taskId ∈ (event.perform host state.coordinator).1
    · simp [(row.granted returned).running] at finished
    · cases row.passed returned with
      | kept same => simp [same, running] at finished
      | undeferred _ _ pending => simp [pending] at finished
      | recovered _ _ pending => simp [pending] at finished
  · rw [claims] at reports
    cases reports

theorem ownerOnly_report (reportedId : TaskId) (reports : event.reported = some reportedId)
    (recorded : Recorded state) (entitled : Entitled state event) : OwnerOnly host state event := by
  cases asks : event.target with
  | none =>
    have idle := event.idle_report host state.coordinator reportedId reports asks
    refine ⟨fun taskId old new claimant found after running _ finished => ?_,
      fun taskId old _ _ found _ _ => ?_⟩
    · simp only [step, idle, found, Option.some.injEq] at after
      simp [← after, running] at finished
    · simpa only [step, idle] using found
  | some status =>
    have rows := event.report_rows host state.coordinator reportedId status reports asks
    -- A caller who was not handed the task is refused.
    have refused (old : Task) (claimant : AgentId)
        (found : state.coordinator.ledger.getTask reportedId = some old)
        (claimed : old.context.claimedBy = some claimant) (stranger : event.agent ≠ claimant) :
        (event.perform host state.coordinator).2.ledger = state.coordinator.ledger := by
      have holder := recorded reportedId old claimant found claimed
      rcases entitled reportedId status claimant reports asks holder with same | forbidden
      · exact absurd same stranger
      · exact event.report_refused host state.coordinator reportedId status reports asks forbidden
    refine ⟨fun taskId old new claimant found after running claimed finished => ?_,
      fun taskId old claimant names found claimed stranger => ?_⟩
    · have named := state.coordinator.ledger.getTask_taskId taskId old found
      by_cases here : taskId = reportedId
      · subst here
        refine ⟨reports, ?_⟩
        by_contra stranger
        simp only [step, refused old claimant found claimed stranger, found,
          Option.some.injEq] at after
        simp [← after, running] at finished
      · obtain ⟨new', there, row⟩ := rows.get?_some taskId old found
        have same : new = new' := Option.some.inj (after.symm.trans there)
        subst same
        rcases (row.others (named ▸ here)).status with kept | ⟨blocked, _⟩
        · simp [kept, running] at finished
        · rw [running] at blocked
          cases blocked
    · have here : taskId = reportedId := Option.some.inj (names.symm.trans reports)
      subst here
      simpa only [step, refused old claimant found claimed (Ne.symm stranger)] using found

/-- In every run whose reports are made by the agents the tasks were last handed
to, whatever the lock and the clock do, the law holds of every call. -/
theorem owner_only_along (host : Host) (coordinator : Coordinator Lock)
    (run : List CoordinatorEvent)
    (entitled : Along (step host) Entitled (start coordinator) run) :
    Along (step host) (OwnerOnly host) (start coordinator) run := by
  apply along_of_invariant (step host) Recorded Entitled (OwnerOnly host) _ _ run
    (start coordinator) (recorded_start coordinator) entitled
  · exact fun state event recorded _ => recorded_step host state event recorded
  · intro state event recorded allowed
    cases reports : event.reported with
    | none => exact ownerOnly_claim host state event reports
    | some taskId => exact ownerOnly_report host state event taskId reports recorded allowed

def leafTask : Task := { SmartLedger.sampleTask "a" .pending with parentTaskId := some "goal" }

def oneLeaf : Coordinator InMemoryTaskLock := Coordinator.sampleCoordinator [leafTask] .accepted

theorem owner_only_one_leaf :
    Along (step SmartLedger.sampleHost) (OwnerOnly SmartLedger.sampleHost) (start oneLeaf)
      [.claimNextTask "first" none 0, .submitResult "first" "a" none 5] := by
  refine owner_only_along SmartLedger.sampleHost oneLeaf _ ⟨?_, ?_, trivial⟩
  · rintro taskId status holder reports
    cases reports
  · rintro taskId status holder reports - granted
    cases reports
    have first : (step SmartLedger.sampleHost (start oneLeaf)
        (.claimNextTask "first" none 0)).granted "a" = some "first" := by decide
    exact Or.inl (Option.some.inj (first.symm.trans granted))

/-- The first worker's claim is recovered and handed to the second; the first
then submits, and the task the second is running is COMPLETED. -/
theorem late_submission_completes :
    let run : List CoordinatorEvent :=
      [.claimNextTask "first" none 0, .claimNextTask "second" none (seconds 601),
        .submitResult "first" "a" none (seconds 602)]
    let last := final (step SmartLedger.sampleHost) (start oneLeaf) run
    ((last.coordinator.ledger.getTask "a").map fun task =>
        (task.status, task.context.claimedBy)) = some (.completed, some "second") ∧
      ¬ Along (step SmartLedger.sampleHost) (OwnerOnly SmartLedger.sampleHost) (start oneLeaf)
        run := by
  intro run last
  refine ⟨by decide, fun lawful => ?_⟩
  have call := lawful.2.2.1
  let before := StepSystem.final (step SmartLedger.sampleHost) (start oneLeaf)
    [.claimNextTask "first" none 0, .claimNextTask "second" none (seconds 601)]
  have claimant : (before.coordinator.ledger.getTask "a").any
      (fun task => task.status = .inProgress ∧ task.context.claimedBy = some "second") = true := by
    decide
  have finished : (last.coordinator.ledger.getTask "a").any (·.status = .completed) = true := by
    decide
  obtain ⟨old, found, running⟩ := (Option.any_eq_true _ _).mp claimant
  obtain ⟨new, after, completed⟩ := (Option.any_eq_true _ _).mp finished
  simp only [decide_eq_true_eq] at running completed
  have kept := call.strangers "a" old "second" rfl found running.2 (by decide)
  have same : new = old := Option.some.inj (after.symm.trans kept)
  rw [same, running.1] at completed
  cases completed

end Hartos.ClaimOwnership
