import Mathlib.Logic.Basic

/-!
Runs of a deterministic step function. An interleaving of several parties is
one list of events, each tagged with whoever makes it; an event that cannot
happen in a state leaves that state alone, so every real schedule is one of
these lists.
-/
namespace StepSystem

universe u v w x
variable {State : Type u} {Event : Type v} {Answer : Type w} {Other : Type x}

def final (step : State → Event → State) : State → List Event → State
  | state, [] => state
  | state, event :: rest => final step (step state event) rest

/-- Every event of the run meets `condition` in the state it finds. -/
def Along (step : State → Event → State) (condition : State → Event → Prop) :
    State → List Event → Prop
  | _, [] => True
  | state, event :: rest => condition state event ∧ Along step condition (step state event) rest

/-- Every state of the run, the first and the last included, satisfies `good`. -/
def Always (step : State → Event → State) (good : State → Prop) : State → List Event → Prop
  | state, [] => good state
  | state, event :: rest => good state ∧ Always step good (step state event) rest

instance decidableAlong (step : State → Event → State) (condition : State → Event → Prop)
    [∀ state event, Decidable (condition state event)] :
    (state : State) → (run : List Event) → Decidable (Along step condition state run)
  | _, [] => inferInstanceAs (Decidable True)
  | state, event :: rest =>
      have := decidableAlong step condition (step state event) rest
      inferInstanceAs (Decidable (condition state event ∧ Along step condition (step state event) rest))

instance decidableAlways (step : State → Event → State) (good : State → Prop)
    [DecidablePred good] :
    (state : State) → (run : List Event) → Decidable (Always step good state run)
  | state, [] => inferInstanceAs (Decidable (good state))
  | state, event :: rest =>
      have := decidableAlways step good (step state event) rest
      inferInstanceAs (Decidable (good state ∧ Always step good (step state event) rest))

variable (step : State → Event → State) (left right : State → Event → Prop)
  (inv good : State → Prop) (permitted : State → Event → Prop)

theorem along_congr (same : ∀ state event, left state event ↔ right state event) (run : List Event)
    (state : State) : Along step left state run ↔ Along step right state run := by
  induction run generalizing state with
  | nil => exact Iff.rfl
  | cons event rest ih => exact and_congr (same state event) (ih (step state event))

theorem always_congr {left right : State → Prop} (same : ∀ state, left state ↔ right state)
    (run : List Event) (state : State) :
    Always step left state run ↔ Always step right state run := by
  induction run generalizing state with
  | nil => exact same state
  | cons event rest ih => exact and_congr (same state) (ih (step state event))

theorem final_append (first second : List Event) (state : State) :
    final step state (first ++ second) = final step (final step state first) second := by
  induction first generalizing state with
  | nil => rfl
  | cons event rest ih => exact ih (step state event)

theorem along_append (condition : State → Event → Prop) (first second : List Event)
    (state : State) :
    Along step condition state (first ++ second) ↔
      Along step condition state first ∧ Along step condition (final step state first) second := by
  induction first generalizing state with
  | nil => exact ⟨fun along => ⟨trivial, along⟩, fun both => both.2⟩
  | cons event rest ih => exact (and_congr_right fun _ => ih (step state event)).trans and_assoc.symm

theorem along_and (run : List Event) (state : State) (lefts : Along step left state run)
    (rights : Along step right state run) :
    Along step (fun state event => left state event ∧ right state event) state run := by
  induction run generalizing state with
  | nil => trivial
  | cons event rest ih =>
    exact ⟨⟨lefts.1, rights.1⟩, ih (step state event) lefts.2 rights.2⟩

theorem along_of_forall (condition : Event → Prop) (run : List Event)
    (all : ∀ event ∈ run, condition event) (state : State) :
    Along step (fun _ => condition) state run := by
  induction run generalizing state with
  | nil => trivial
  | cons event rest ih =>
    constructor
    · exact all event List.mem_cons_self
    · apply ih
      intro later member
      exact all later (List.mem_cons_of_mem event member)

/-- What holds at every event of a run follows from an invariant that the
permitted events keep and that implies the conclusion where they happen. -/
theorem along_of_invariant (inv : State → Prop) (permitted wanted : State → Event → Prop)
    (kept : ∀ state event, inv state → permitted state event → inv (step state event))
    (gives : ∀ state event, inv state → permitted state event → wanted state event)
    (run : List Event) (state : State) (start : inv state)
    (allowed : Along step permitted state run) : Along step wanted state run := by
  induction run generalizing state with
  | nil => trivial
  | cons event rest ih =>
    exact ⟨gives state event start allowed.1,
      ih (step state event) (kept state event start allowed.1) allowed.2⟩

theorem final_of_invariant (inv : State → Prop) (permitted : State → Event → Prop)
    (kept : ∀ state event, inv state → permitted state event → inv (step state event))
    (run : List Event) (state : State) (start : inv state)
    (allowed : Along step permitted state run) : inv (final step state run) := by
  induction run generalizing state with
  | nil => exact start
  | cons event rest ih =>
    exact ih (step state event) (kept state event start allowed.1) allowed.2

-- An invariant that the permitted events keep holds of every state of the run.
theorem final_of_kept (inv : State → Prop)
    (kept : ∀ state event, inv state → inv (step state event)) (run : List Event) (state : State)
    (start : inv state) : inv (final step state run) :=
  final_of_invariant step inv (fun _ _ => True) (fun state event held _ => kept state event held)
    run state start (along_of_forall step (fun _ => True) run (fun _ _ => trivial) state)

theorem always_of_invariant
    (kept : ∀ state event, inv state → permitted state event → inv (step state event))
    (gives : ∀ state, inv state → good state) (run : List Event) (state : State) (start : inv state)
    (allowed : Along step permitted state run) : Always step good state run := by
  induction run generalizing state with
  | nil => exact gives state start
  | cons event rest ih =>
    exact ⟨gives state start, ih (step state event) (kept state event start allowed.1) allowed.2⟩

theorem always_final {step : State → Event → State} {good : State → Prop} {run : List Event}
    {state : State} (always : Always step good state run) : good (final step state run) := by
  induction run generalizing state with
  | nil => exact always
  | cons event rest ih => exact ih always.2

/-- In runs of allowed events, when a good state stays good exactly under the permitted ones, a
run is good throughout exactly when all its events are permitted. -/
theorem always_iff_along_of_allowed (allowed permitted : State → Event → Prop)
    (kept : ∀ state event, inv state → allowed state event → inv (step state event))
    (exactly : ∀ state event, inv state → allowed state event → good state →
      (good (step state event) ↔ permitted state event)) (run : List Event) (state : State)
    (start : inv state) (possible : Along step allowed state run) (begins : good state) :
    Always step good state run ↔ Along step permitted state run := by
  induction run generalizing state with
  | nil => exact ⟨fun _ => trivial, fun _ => begins⟩
  | cons event rest ih =>
    have next := kept state event start possible.1
    have same := exactly state event start possible.1 begins
    constructor
    · intro throughout
      -- `Always` speaks of the state an event leaves only in the tail of the run.
      have after : good (step state event) := by
        cases rest with
        | nil => exact throughout.2
        | cons => exact throughout.2.1
      exact ⟨same.mp after, (ih _ next possible.2 after).mp throughout.2⟩
    · intro along
      exact ⟨begins, (ih _ next possible.2 (same.mpr along.1)).mpr along.2⟩

theorem always_iff_along (kept : ∀ state event, inv state → inv (step state event))
    (exactly : ∀ state event, inv state → good state →
      (good (step state event) ↔ permitted state event)) (run : List Event) (state : State)
    (start : inv state) (begins : good state) :
    Always step good state run ↔ Along step permitted state run :=
  always_iff_along_of_allowed step inv good (fun _ _ => True) permitted
    (fun state event held _ => kept state event held)
    (fun state event held _ => exactly state event held) run state start
    (along_of_forall step (fun _ => True) run (fun _ _ => trivial) state) begins

def answers (serve : State → Event → Answer × State) : State → List Event → List Answer
  | _, [] => []
  | state, event :: rest => (serve state event).1 :: answers serve (serve state event).2 rest

/-- Servers that answer alike exactly at the permitted events, and stay related there, answer
alike throughout a run exactly if all its events are permitted. -/
theorem answers_eq_iff_along (left : State → Event → Answer × State)
    (right : Other → Event → Answer × Other) (related : State → Other → Prop)
    (permitted : State → Event → Prop)
    (exactly : ∀ state other event, related state other →
      ((left state event).1 = (right other event).1 ↔ permitted state event))
    (kept : ∀ state other event, related state other → permitted state event →
      related (left state event).2 (right other event).2)
    (run : List Event) (state : State) (other : Other) (start : related state other) :
    answers left state run = answers right other run ↔
      Along (fun state event => (left state event).2) permitted state run := by
  induction run generalizing state other with
  | nil => exact ⟨fun _ => trivial, fun _ => rfl⟩
  | cons event rest ih =>
    have same := exactly state other event start
    rw [answers, answers, List.cons.injEq, same, Along]
    apply and_congr_right
    intro holds
    exact ih _ _ (kept state other event start holds)

end StepSystem
