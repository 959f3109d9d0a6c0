import Hartos.LedgerProjection
import Hartos.LoopGuards

/-!
Forcing an action along a path of valid transitions. Each step is a durable move of its own, so
a path that is refused half way leaves its first steps behind, and a state from which no path
leads to the target stays where it is.
-/
namespace Hartos.Lifecycle
open TaskStatus SmartLedger

def statePaths : ActionState → ActionState → Option (List ActionState)
  | .assigned, .inProgress => some [.inProgress]
  | .assigned, .statusVerificationRequested => some [.inProgress, .statusVerificationRequested]
  | .assigned, .completed => some [.inProgress, .statusVerificationRequested, .completed]
  | .inProgress, .statusVerificationRequested => some [.statusVerificationRequested]
  | .inProgress, .completed => some [.statusVerificationRequested, .completed]
  | .statusVerificationRequested, .completed => some [.completed]
  | .statusVerificationRequested, .pending => some [.pending]
  | .statusVerificationRequested, .error => some [.error]
  | .completed, .terminated => some [.terminated]
  | .completed, .fallbackRequested => some [.fallbackRequested]
  | .completed, .fallbackReceived => some [.fallbackRequested, .fallbackReceived]
  | .completed, .recipeRequested => some [.fallbackRequested, .fallbackReceived, .recipeRequested]
  | .pending, .completed => some [.completed]
  | .pending, .error => some [.error]
  | .error, .inProgress => some [.inProgress]
  | .error, .completed => some [.inProgress, .statusVerificationRequested, .completed]
  | .fallbackRequested, .fallbackReceived => some [.fallbackReceived]
  | .fallbackReceived, .recipeRequested => some [.recipeRequested]
  | .recipeRequested, .recipeReceived => some [.recipeReceived]
  | .recipeReceived, .terminated => some [.terminated]
  | .assigned, .terminated =>
      some [.inProgress, .statusVerificationRequested, .completed, .terminated]
  | .inProgress, .terminated => some [.statusVerificationRequested, .completed, .terminated]
  | .statusVerificationRequested, .terminated => some [.completed, .terminated]
  | .pending, .terminated => some [.completed, .terminated]
  | _, _ => none

/-- `_POST_TERMINATED_SYNONYMS`: what a terminated action is past. -/
def postTerminatedSynonyms : List ActionState :=
  [.completed, .fallbackRequested, .fallbackReceived, .recipeRequested, .recipeReceived]

def pathTo (currentState targetState : ActionState) : Option (List ActionState) :=
  match statePaths currentState targetState with
  | some path => some path
  | none => if validateStateTransition currentState targetState then some [targetState] else none

structure Reading where
  now : Time
  bankedArtifactExists : Option Bool := none

def stepCall (readings : ActionState → Reading) (state : ActionState) : Call where
  state := state
  bankedArtifactExists := (readings state).bankedArtifactExists
  now := (readings state).now

section Force
variable (host : Host) (userPrompt : UserPrompt) (actionId : Int)
  (readings : ActionState → Reading)

def takeStep (hooks : Hooks) (state : ActionState) : Except StateTransitionError Unit × Hooks :=
  setActionState host hooks userPrompt actionId (stepCall readings state)

def walkPath : Hooks → List ActionState → Bool × Hooks
  | hooks, [] => (true, hooks)
  | hooks, state :: rest =>
      let taken := takeStep host userPrompt actionId readings hooks state
      if taken.1.isOk then walkPath taken.2 rest else (false, taken.2)

def forceStateThroughValidPath (hooks : Hooks) (targetState : ActionState)
    (throughCompleted : Bool) : Bool × Hooks :=
  let currentState := hooks.getActionState userPrompt actionId
  if currentState = targetState then (true, hooks)
  else if currentState = .terminated ∧ targetState ∈ postTerminatedSynonyms then (true, hooks)
  else
    match pathTo currentState targetState with
    | none => (false, hooks)
    | some path =>
        if throughCompleted = false ∧ .completed ∈ path then (false, hooks)
        else walkPath host userPrompt actionId readings hooks path

def stepsTaken : Hooks → List ActionState → List (ActionState × ActionState)
  | _, [] => []
  | hooks, state :: rest =>
      let taken := takeStep host userPrompt actionId readings hooks state
      if taken.1.isOk then
        (hooks.getActionState userPrompt actionId, state) :: stepsTaken taken.2 rest
      else []

end Force

def chained : ActionState → List ActionState → Bool
  | _, [] => true
  | currentState, state :: rest =>
      decide (currentState ≠ state) && validateStateTransition currentState state &&
        chained state rest

variable (currentState targetState : ActionState) (path : List ActionState)

theorem statePaths_chained (listed : statePaths currentState targetState = some path) :
    chained currentState path = true ∧ currentState ∉ path ∧
      path.getLast? = some targetState := by
  have all : ∀ path, statePaths currentState targetState = some path →
      (chained currentState path && decide (currentState ∉ path) &&
        decide (path.getLast? = some targetState)) = true := by
    intro path listed
    cases currentState <;> cases targetState <;> cases listed <;> rfl
  have tested := all path listed
  simp only [Bool.and_eq_true, decide_eq_true_eq] at tested
  exact ⟨tested.1.1, tested.1.2, tested.2⟩

theorem pathTo_chained (moves : currentState ≠ targetState)
    (found : pathTo currentState targetState = some path) :
    chained currentState path = true ∧ currentState ∉ path ∧
      path.getLast? = some targetState := by
  rw [pathTo] at found
  cases listed : statePaths currentState targetState with
  | some enumerated =>
    rw [listed] at found
    cases found
    exact statePaths_chained currentState targetState path listed
  | none =>
    rw [listed] at found
    dsimp only at found
    split at found
    next valid =>
      cases found
      simp only [chained, moves, ne_eq, not_false_eq_true, decide_true, valid, Bool.and_self,
        List.mem_singleton, List.getLast?_singleton, and_self]
    next => cases found

/-- The view after the steps of a path; `none` if one of them is refused. -/
def LedgerView.takes (readings : ActionState → Reading) :
    LedgerView → List ActionState → Option LedgerView
  | view, [] => some view
  | view, state :: rest =>
      (view.project (stepCall readings state)).bind fun later => later.takes readings rest

section Walk
variable (host : Host) (userPrompt : UserPrompt) (actionId : Int)
  (readings : ActionState → Reading)

inductive StepEnd (hooks : Hooks) (state : ActionState) :
    Except StateTransitionError Unit × Hooks → Option LedgerView → Prop
  | refused (error : StateTransitionError) (after : Hooks) (untouched : Untouched hooks after) :
      StepEnd hooks state (.error error, after) none
  | taken (after : Hooks) (reached : after.getActionState userPrompt actionId = state) :
      StepEnd hooks state (.ok (), after) (some (after.ledgerView userPrompt actionId))

variable (hooks : Hooks) (path : List ActionState)

theorem takeStep_end (state : ActionState)
    (moves : hooks.getActionState userPrompt actionId ≠ state)
    (valid : validateStateTransition (hooks.getActionState userPrompt actionId) state = true) :
    StepEnd userPrompt actionId hooks state
      (takeStep host userPrompt actionId readings hooks state)
      ((hooks.ledgerView userPrompt actionId).project (stepCall readings state)) := by
  have seen := autoSyncToLedger_viewed host hooks userPrompt actionId (stepCall readings state)
  have undone := autoSyncToLedger_untouched host hooks userPrompt actionId (stepCall readings state)
  rw [← seen, takeStep, setActionState_valid host (stepCall readings state) moves valid, viewed]
  cases synced : (hooks.autoSyncToLedger host userPrompt actionId (stepCall readings state)).1 with
  | false => exact .refused _ _ (undone synced)
  | true => exact .taken _ (getActionState_putActionState _ state)

section

variable (chain : chained (hooks.getActionState userPrompt actionId) path = true)
include chain

theorem walkPath_takes :
    (walkPath host userPrompt actionId readings hooks path).1 =
      ((hooks.ledgerView userPrompt actionId).takes readings path).isSome := by
  induction path generalizing hooks with
  | nil => rfl
  | cons state rest ih =>
    simp only [chained, Bool.and_eq_true, decide_eq_true_eq] at chain
    have ends := takeStep_end host userPrompt actionId readings hooks state chain.1.1 chain.1.2
    rw [walkPath, LedgerView.takes]
    generalize takeStep host userPrompt actionId readings hooks state = taken at ends ⊢
    generalize (hooks.ledgerView userPrompt actionId).project _ = projected at ends ⊢
    cases ends with
    | refused error after untouched => rfl
    | taken after reached => exact ih after (reached.symm ▸ chain.2)

-- The walk ends in the state it started from or in one of the path.
theorem walkPath_visits :
    (walkPath host userPrompt actionId readings hooks path).2.getActionState userPrompt actionId ∈
      hooks.getActionState userPrompt actionId :: path := by
  induction path generalizing hooks with
  | nil => exact List.mem_cons_self
  | cons state rest ih =>
    simp only [chained, Bool.and_eq_true, decide_eq_true_eq] at chain
    have ends := takeStep_end host userPrompt actionId readings hooks state chain.1.1 chain.1.2
    rw [walkPath]
    generalize takeStep host userPrompt actionId readings hooks state = taken at ends ⊢
    generalize (hooks.ledgerView userPrompt actionId).project _ = projected at ends
    cases ends with
    | refused error after untouched =>
      have same : after.getActionState userPrompt actionId =
          hooks.getActionState userPrompt actionId := by
        rw [Hooks.getActionState, Hooks.getActionState, untouched.actionStates]
      exact List.mem_cons.mpr (Or.inl same)
    | taken after reached =>
      have visited := ih after (reached.symm ▸ chain.2)
      rw [reached] at visited
      exact List.mem_cons_of_mem _ visited

theorem walkPath_reaches (goes : (walkPath host userPrompt actionId readings hooks path).1 = true) :
    (walkPath host userPrompt actionId readings hooks path).2.getActionState userPrompt actionId =
      path.getLast?.getD (hooks.getActionState userPrompt actionId) := by
  induction path generalizing hooks with
  | nil => rfl
  | cons state rest ih =>
    simp only [chained, Bool.and_eq_true, decide_eq_true_eq] at chain
    have ends := takeStep_end host userPrompt actionId readings hooks state chain.1.1 chain.1.2
    rw [walkPath] at goes ⊢
    generalize takeStep host userPrompt actionId readings hooks state = taken at ends goes ⊢
    generalize (hooks.ledgerView userPrompt actionId).project _ = projected at ends
    cases ends with
    | refused error after untouched => cases goes
    | taken after reached =>
      have last := ih after (reached.symm ▸ chain.2) goes
      rw [List.getLast?_cons, Option.getD_some, ← reached]
      exact last

theorem stepsTaken_valid :
    ∀ move ∈ stepsTaken host userPrompt actionId readings hooks path,
      validateStateTransition move.1 move.2 = true := by
  induction path generalizing hooks with
  | nil =>
    intro move member
    cases member
  | cons state rest ih =>
    simp only [chained, Bool.and_eq_true, decide_eq_true_eq] at chain
    have ends := takeStep_end host userPrompt actionId readings hooks state chain.1.1 chain.1.2
    rw [stepsTaken]
    generalize takeStep host userPrompt actionId readings hooks state = taken at ends ⊢
    generalize (hooks.ledgerView userPrompt actionId).project _ = projected at ends
    intro move member
    cases ends with
    | refused error after untouched => cases member
    | taken after reached =>
      rcases List.mem_cons.mp member with rfl | later
      · exact chain.1.2
      · exact ih after (reached.symm ▸ chain.2) move later

end

end Walk

/-- The path a call walks: none of it where the target is reached already, `none` where the
call refuses at once. -/
def plan (currentState targetState : ActionState) (throughCompleted : Bool) :
    Option (List ActionState) :=
  if currentState = targetState then some []
  else if currentState = .terminated ∧ targetState ∈ postTerminatedSynonyms then some []
  else
    (pathTo currentState targetState).filter fun path =>
      !decide (throughCompleted = false ∧ .completed ∈ path)

def LedgerView.whole (view : LedgerView) (readings : ActionState → Reading) :
    List ActionState → Bool
  | [] => true
  | first :: rest =>
      (view.project (stepCall readings first)).isNone ||
        (view.takes readings (first :: rest)).isSome

def terminable (currentState : ActionState) (tracked : Bool) : Bool :=
  decide (currentState ∈ [ActionState.assigned, .inProgress, .statusVerificationRequested,
    .recipeRequested, .recipeReceived]) ||
  !tracked && decide (currentState ∈ [ActionState.pending, .previewPending])

section Calls
variable (host : Host) (userPrompt : UserPrompt) (actionId : Int)
  (readings : ActionState → Reading)

structure InSync (hooks : Hooks) : Prop where
  saves : ∀ ledger, hooks.ledgerRegistry userPrompt = some ledger → Accepting ledger
  status : ∀ status, hooks.ledgerStatus userPrompt actionId = some status →
    status = stateMap (hooks.getActionState userPrompt actionId)

variable (hooks : Hooks)

theorem forceStateThroughValidPath_plan (targetState : ActionState) (throughCompleted : Bool) :
    forceStateThroughValidPath host userPrompt actionId readings hooks targetState
        throughCompleted =
      match plan (hooks.getActionState userPrompt actionId) targetState throughCompleted with
      | none => (false, hooks)
      | some path => walkPath host userPrompt actionId readings hooks path := by
  rw [forceStateThroughValidPath, plan]
  split
  next => rfl
  next =>
    split
    next => rfl
    next =>
      cases pathTo (hooks.getActionState userPrompt actionId) targetState with
      | none => rfl
      | some path =>
        by_cases certifies : throughCompleted = false ∧ .completed ∈ path
        · simp only [certifies, and_self, if_true, Option.filter_some, decide_true,
            Bool.not_true, Bool.false_eq_true, if_false]
        · simp only [certifies, if_false, Option.filter_some, decide_false, Bool.not_false,
            if_true]

theorem plan_chained (currentState targetState : ActionState) (throughCompleted : Bool)
    (path : List ActionState)
    (planned : plan currentState targetState throughCompleted = some path) :
    chained currentState path = true ∧ currentState ∉ path ∧
      (path.getLast?.getD currentState = targetState ∨
        (path = [] ∧ currentState = .terminated ∧ targetState ∈ postTerminatedSynonyms)) := by
  rw [plan] at planned
  split at planned
  next same =>
    cases planned
    exact ⟨rfl, List.not_mem_nil, Or.inl same⟩
  next moves =>
    split at planned
    next past =>
      cases planned
      exact ⟨rfl, List.not_mem_nil, Or.inr ⟨rfl, past⟩⟩
    next =>
      obtain ⟨found, _⟩ := Option.filter_eq_some_iff.mp planned
      obtain ⟨chain, away, last⟩ := pathTo_chained currentState targetState path moves found
      exact ⟨chain, away, Or.inl (by rw [last, Option.getD_some])⟩

theorem ledgerView_accepting
    (saves : ∀ ledger, hooks.ledgerRegistry userPrompt = some ledger → Accepting ledger)
    (write : Nat) : (hooks.ledgerView userPrompt actionId).verdict write = .accepted := by
  rw [Hooks.ledgerView]
  cases held : hooks.ledgerRegistry userPrompt with
  | none => rfl
  | some ledger =>
    dsimp only
    rw [viewOf]
    cases ledger.getTask (actionTaskId actionId) with
    | none => rfl
    | some task => exact saves ledger held write

-- Whether a running action reaches TERMINATED with the ledger in step.
theorem terminated_takes (view : LedgerView) (currentState : ActionState)
    (running : isTerminalActionState currentState = false)
    (saves : ∀ write, view.verdict write = .accepted)
    (inStep : ∀ status, view.status = some status → status = stateMap currentState) :
    ((plan currentState .terminated true).any fun path => (view.takes readings path).isSome) =
      terminable currentState view.status.isSome := by
  obtain ⟨status, verdict, writes⟩ := view
  dsimp only at saves inStep ⊢
  cases status with
  | none =>
    cases currentState <;>
      first
        | exact absurd running (by decide)
        | rfl
  | some status =>
    have projected := inStep status rfl
    subst projected
    cases currentState <;>
      first
        | exact absurd running (by decide)
        | rfl
        | simp [plan, pathTo, statePaths, LedgerView.takes, LedgerView.project, route, stepCall,
            stateMap, LedgerView.written, LedgerView.allows, saves, isTerminalState,
            isPossibleMaskedFailure, transitionRefusalBetween, validTransitions, terminable,
            validateStateTransition, actionTransitions]

structure Lawful (hooks : Hooks) (targetState : ActionState) (throughCompleted : Bool) : Prop where
  reached :
    (forceStateThroughValidPath host userPrompt actionId readings hooks targetState
      throughCompleted).1 = true →
    (forceStateThroughValidPath host userPrompt actionId readings hooks targetState
        throughCompleted).2.getActionState userPrompt actionId = targetState ∨
      ((forceStateThroughValidPath host userPrompt actionId readings hooks targetState
          throughCompleted).2 = hooks ∧
        hooks.getActionState userPrompt actionId = .terminated ∧
        targetState ∈ postTerminatedSynonyms)
  valid : ∀ path,
    plan (hooks.getActionState userPrompt actionId) targetState throughCompleted = some path →
    ∀ move ∈ stepsTaken host userPrompt actionId readings hooks path,
      validateStateTransition move.1 move.2 = true
  undone :
    (forceStateThroughValidPath host userPrompt actionId readings hooks targetState
      throughCompleted).1 = false →
    (forceStateThroughValidPath host userPrompt actionId readings hooks targetState
        throughCompleted).2.getActionState userPrompt actionId =
      hooks.getActionState userPrompt actionId ∧
    (forceStateThroughValidPath host userPrompt actionId readings hooks targetState
        throughCompleted).2.ledgerTask userPrompt actionId =
      hooks.ledgerTask userPrompt actionId ∧
    (forceStateThroughValidPath host userPrompt actionId readings hooks targetState
        throughCompleted).2.tracking = hooks.tracking
  terminates : targetState = .terminated → throughCompleted = true →
    isTerminalActionState (hooks.getActionState userPrompt actionId) = false →
    InSync userPrompt actionId hooks →
    (forceStateThroughValidPath host userPrompt actionId readings hooks targetState
      throughCompleted).1 = true

/-- The ledger refuses the first step or none, and where a running action whose ledger is in
step is to be terminated, a path leads there. -/
structure Passable (hooks : Hooks) (targetState : ActionState) (throughCompleted : Bool) :
    Prop where
  whole : ∀ path,
    plan (hooks.getActionState userPrompt actionId) targetState throughCompleted = some path →
    (hooks.ledgerView userPrompt actionId).whole readings path = true
  terminable : targetState = .terminated → throughCompleted = true →
    isTerminalActionState (hooks.getActionState userPrompt actionId) = false →
    InSync userPrompt actionId hooks →
    Lifecycle.terminable (hooks.getActionState userPrompt actionId)
      (hooks.ledgerStatus userPrompt actionId).isSome = true

theorem walkPath_undone_iff (path : List ActionState)
    (chain : chained (hooks.getActionState userPrompt actionId) path = true)
    (away : hooks.getActionState userPrompt actionId ∉ path) :
    ((walkPath host userPrompt actionId readings hooks path).1 = false →
      (walkPath host userPrompt actionId readings hooks path).2.getActionState userPrompt actionId =
        hooks.getActionState userPrompt actionId ∧
      (walkPath host userPrompt actionId readings hooks path).2.ledgerTask userPrompt actionId =
        hooks.ledgerTask userPrompt actionId ∧
      (walkPath host userPrompt actionId readings hooks path).2.tracking = hooks.tracking) ↔
    (hooks.ledgerView userPrompt actionId).whole readings path = true := by
  have result := walkPath_takes host userPrompt actionId readings hooks path chain
  rw [result]
  cases path with
  | nil =>
    apply iff_of_true _ rfl
    intro refused
    cases refused
  | cons state rest =>
    simp only [chained, Bool.and_eq_true, decide_eq_true_eq] at chain
    have ends := takeStep_end host userPrompt actionId readings hooks state chain.1.1 chain.1.2
    rw [LedgerView.whole, LedgerView.takes, walkPath]
    generalize takeStep host userPrompt actionId readings hooks state = taken at ends ⊢
    generalize (hooks.ledgerView userPrompt actionId).project _ = projected at ends ⊢
    cases ends with
    | refused error after untouched =>
      apply iff_of_true _ rfl
      intro _
      refine ⟨?_, untouched.ledgerTask userPrompt actionId, untouched.tracking⟩
      change after.getActionState userPrompt actionId = _
      rw [Hooks.getActionState, Hooks.getActionState, untouched.actionStates]
    | taken after reached =>
      simp only [Option.bind_some, Option.isNone_some, Bool.false_or]
      constructor
      · intro undone
        by_contra stops
        have refused := Bool.eq_false_of_not_eq_true stops
        -- The first step went through, so the walk stands in a state of the path.
        have visited := walkPath_visits host userPrompt actionId readings after rest
          (reached.symm ▸ chain.2)
        rw [reached] at visited
        have stayed : (walkPath host userPrompt actionId readings after
            rest).2.getActionState userPrompt actionId =
              hooks.getActionState userPrompt actionId := (undone refused).1
        exact away (stayed ▸ visited)
      · intro goes refused
        rw [goes] at refused
        cases refused

/-- A call keeps what it is to keep exactly if the path it walks is passable. -/
theorem force_lawful_iff (hooks : Hooks) (targetState : ActionState) (throughCompleted : Bool) :
    Lawful host userPrompt actionId readings hooks targetState throughCompleted ↔
      Passable userPrompt actionId readings hooks targetState throughCompleted := by
  have planned := forceStateThroughValidPath_plan host userPrompt actionId readings hooks
    targetState throughCompleted
  have undoneIff :
      ((forceStateThroughValidPath host userPrompt actionId readings hooks targetState
          throughCompleted).1 = false →
        (forceStateThroughValidPath host userPrompt actionId readings hooks targetState
            throughCompleted).2.getActionState userPrompt actionId =
          hooks.getActionState userPrompt actionId ∧
        (forceStateThroughValidPath host userPrompt actionId readings hooks targetState
            throughCompleted).2.ledgerTask userPrompt actionId =
          hooks.ledgerTask userPrompt actionId ∧
        (forceStateThroughValidPath host userPrompt actionId readings hooks targetState
            throughCompleted).2.tracking = hooks.tracking) ↔
      ∀ path,
        plan (hooks.getActionState userPrompt actionId) targetState throughCompleted = some path →
        (hooks.ledgerView userPrompt actionId).whole readings path = true := by
    rw [planned]
    cases found : plan (hooks.getActionState userPrompt actionId) targetState throughCompleted with
    | none =>
      apply iff_of_true (fun _ => ⟨rfl, rfl, rfl⟩)
      intro path listed
      cases listed
    | some path =>
      obtain ⟨chain, away, _⟩ := plan_chained _ _ _ path found
      simp only [Option.some.injEq, forall_eq']
      exact walkPath_undone_iff host userPrompt actionId readings hooks path chain away
  have terminatesIff : targetState = .terminated → throughCompleted = true →
      isTerminalActionState (hooks.getActionState userPrompt actionId) = false →
      InSync userPrompt actionId hooks →
      (forceStateThroughValidPath host userPrompt actionId readings hooks targetState
        throughCompleted).1 =
        terminable (hooks.getActionState userPrompt actionId)
          (hooks.ledgerStatus userPrompt actionId).isSome := by
    rintro rfl rfl running sync
    rw [planned, ← ledgerView_status, ← terminated_takes readings
      (hooks.ledgerView userPrompt actionId) _ running
      (ledgerView_accepting userPrompt actionId hooks sync.saves)
      (fun status seen => sync.status status (ledgerView_status userPrompt actionId hooks ▸ seen))]
    cases found : plan (hooks.getActionState userPrompt actionId) .terminated true with
    | none => rfl
    | some path =>
      exact walkPath_takes host userPrompt actionId readings hooks path
        (plan_chained _ _ _ path found).1
  constructor
  · intro lawful
    refine ⟨undoneIff.mp lawful.undone, ?_⟩
    intro terminated through running sync
    rw [← terminatesIff terminated through running sync]
    exact lawful.terminates terminated through running sync
  · intro passable
    refine ⟨?_, ?_, undoneIff.mpr passable.whole, ?_⟩
    · intro goes
      rw [planned] at goes ⊢
      cases found : plan (hooks.getActionState userPrompt actionId) targetState
          throughCompleted with
      | none =>
          rw [found] at goes
          cases goes
      | some path =>
          rw [found] at goes
          obtain ⟨chain, _, last | ⟨rfl, past⟩⟩ := plan_chained _ _ _ path found
          · exact Or.inl ((walkPath_reaches host userPrompt actionId readings hooks path chain
              goes).trans last)
          · exact Or.inr ⟨rfl, past⟩
    · intro path listed
      exact stepsTaken_valid host userPrompt actionId readings hooks path
        (plan_chained _ _ _ path listed).1
    · intro terminated through running sync
      rw [terminatesIff terminated through running sync]
      exact passable.terminable terminated through running sync

end Calls

def awaitingFallback : Hooks :=
  let ledger := sampleLedger [sampleTask "action_1" .blocked] .accepted
  (sampleHooks.putLedger "7_42" ledger).putActionState "7_42" 1 .fallbackRequested

/-- No path leads on from there to TERMINATED. -/
theorem fallback_cannot_be_terminated :
    ¬ ∀ (host : Host) (userPrompt : UserPrompt) (actionId : Int)
        (readings : ActionState → Reading) (hooks : Hooks) (targetState : ActionState)
        (throughCompleted : Bool),
      Lawful host userPrompt actionId readings hooks targetState throughCompleted := by
  intro claimed
  have sync : InSync "7_42" 1 awaitingFallback := by
    constructor
    · intro ledger held
      have same : ledger = sampleLedger [sampleTask "action_1" .blocked] .accepted := by
        rw [awaitingFallback, Hooks.putActionState, Hooks.putLedger] at held
        dsimp only at held
        rw [Function.update_self, Option.some.injEq] at held
        exact held.symm
      intro write
      rw [same]
      rfl
    · intro status seen
      cases seen
      decide
  have ended := (claimed sampleHost "7_42" 1 (fun _ => ⟨1, none⟩) awaitingFallback .terminated
    true).terminates rfl rfl (by decide) sync
  exact absurd ended (by decide)

/-- The backend takes the first save and rejects the second: the call answers False, and the
action stays where two of its three steps have brought it. -/
example :
    let ledger := { freshLedger with
      backend := ⟨none, fun write => if write = 0 then .accepted else .rejected, 0⟩ }
    let forced := forceStateThroughValidPath sampleHost "7_42" 1 (fun _ => ⟨1, none⟩)
      (sampleHooks.putLedger "7_42" ledger) .completed true
    forced.1 = false ∧
      forced.2.getActionState "7_42" 1 = .statusVerificationRequested ∧
      forced.2.ledgerStatus "7_42" 1 = some .inProgress := by
  decide

end Hartos.Lifecycle
