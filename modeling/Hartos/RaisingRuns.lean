import Mathlib.Logic.Basic

/-!
Rules for computations that change a state and may raise, the state surviving the exception.
`Holds` bounds where such a run can end, whichever way it ends, and says what a value it
returns guarantees.
-/
namespace RaisingRuns
variable {Error State α β : Type}

instance decidableEqResult [DecidableEq Error] [DecidableEq State] [DecidableEq α] :
    DecidableEq (EStateM.Result Error State α)
  | .ok value last, .ok value' last' =>
      decidable_of_iff (value = value' ∧ last = last') (by simp)
  | .error error last, .error error' last' =>
      decidable_of_iff (error = error' ∧ last = last') (by simp)
  | .ok _ _, .error _ _ => isFalse nofun
  | .error _ _, .ok _ _ => isFalse nofun

structure Lasting (related : State → State → Prop) : Prop where
  refl : ∀ state, related state state
  trans : ∀ {first second third}, related first second → related second third →
    related first third

def Ends (related : State → State → Prop) (after : α → State → Prop) (start : State) :
    EStateM.Result Error State α → Prop
  | .ok value last => related start last ∧ after value last
  | .error _ last => related start last

def Holds (related : State → State → Prop) (before : State → Prop) (run : EStateM Error State α)
    (after : α → State → Prop) : Prop :=
  ∀ state, before state → Ends related after state (run state)

variable {related : State → State → Prop}

section

variable (lasting : Lasting related)
include lasting

variable {before : State → Prop} {after : α → State → Prop}

theorem ends_from {first middle : State} {result : EStateM.Result Error State α}
    (reached : related first middle) (ends : Ends related after middle result) :
    Ends related after first result := by
  cases result with
  | ok value last => exact ⟨lasting.trans reached ends.1, ends.2⟩
  | error error last => exact lasting.trans reached ends

theorem holds_pure (value : α) (after : α → State → Prop) :
    Holds related (after value) (pure value : EStateM Error State α) after :=
  fun state given => ⟨lasting.refl state, given⟩

theorem holds_throw (error : Error) (before : State → Prop) (after : α → State → Prop) :
    Holds related before (throw error : EStateM Error State α) after :=
  fun state _ => lasting.refl state

theorem holds_bind {middle : α → State → Prop} {after : β → State → Prop}
    {run : EStateM Error State α} {next : α → EStateM Error State β}
    (first : Holds related before run middle)
    (second : ∀ value, Holds related (middle value) (next value) after) :
    Holds related before (run >>= next) after := by
  intro state given
  have one := first state given
  change Ends related after state (EStateM.bind run next state)
  unfold EStateM.bind
  cases ran : run state with
  | ok value reached =>
    rw [ran] at one
    exact ends_from lasting one.1 (second value reached one.2)
  | error error reached =>
    rw [ran] at one
    exact one

theorem holds_tryCatch {run : EStateM Error State α} {handler : Error → EStateM Error State α}
    (tried : Holds related before run after)
    (caught : ∀ error, Holds related (fun _ => True) (handler error) after) :
    Holds related before (tryCatch run handler) after := by
  intro state given
  have one := tried state given
  change Ends related after state (EStateM.tryCatch run handler state)
  unfold EStateM.tryCatch
  cases ran : run state with
  | ok value reached =>
    rw [ran] at one
    exact one
  | error error reached =>
    rw [ran] at one
    exact ends_from lasting one (caught error reached trivial)

end

theorem holds_consequence {before stronger : State → Prop} {after weaker : α → State → Prop}
    {run : EStateM Error State α} (held : Holds related before run after)
    (given : ∀ state, stronger state → before state)
    (gives : ∀ value state, after value state → weaker value state) :
    Holds related stronger run weaker := by
  intro state start
  have ends := held state (given state start)
  cases ran : run state with
  | ok value last =>
    rw [ran] at ends
    exact ⟨ends.1, gives value last ends.2⟩
  | error error last =>
    rw [ran] at ends
    exact ends

/-- What related states keep is still there after the run. -/
theorem holds_frame {before kept : State → Prop} {after : α → State → Prop}
    {run : EStateM Error State α} (held : Holds related before run after)
    (stable : ∀ first last, related first last → kept first → kept last) :
    Holds related (fun state => before state ∧ kept state) run
      (fun value state => after value state ∧ kept state) := by
  rintro state ⟨given, keeps⟩
  have ends := held state given
  cases ran : run state with
  | ok value last =>
    rw [ran] at ends
    exact ⟨ends.1, ends.2, stable state last ends.1 keeps⟩
  | error error last =>
    rw [ran] at ends
    exact ends

end RaisingRuns
