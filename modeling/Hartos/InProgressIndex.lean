import Hartos.StepSystem
import Mathlib.Algebra.Order.Ring.Int

/-!
The in-progress marks of one ledger key: the saves of one ledger, in their separate writes, and
any number of `keys_in_progress` passes over the same folder. Times are in nanoseconds.
-/
namespace Hartos.InProgressIndex
open StepSystem

abbrev Time := Int

def indexTimeSlack : Time := 2 * 1000000000

structure SavedFile where
  inProgress : Bool
  -- `_file_written_at`.
  written : Time
  deriving DecidableEq

structure Index where
  clock : Time
  file : Option SavedFile
  mark : Bool
  -- The time of `.last_pass`.
  stamp : Option Time
  -- The folder is in `_FOLDERS_READ_IN_FULL`.
  readInFull : Bool
  deriving DecidableEq

/-- A save that holds `_io_lock`, by the call it makes next. -/
inductive Save where
  | idle
  | marking
  | writing (inProgress : Bool)
  | clearing
  deriving DecidableEq

inductive Stage where
  | listMarks
  | lookUpFolder (marked : Bool)
  | lookUpStamp (marked : Bool)
  | startClock (marked : Bool) (since : Option Time)
  | statFile (marked : Bool) (since : Option Time) (started : Time)
  | openFile (started : Time)
  | markFound (started : Time)
  | createStamp (marked found : Bool) (started : Time)
  | setStamp (marked found : Bool) (started : Time)
  | addFolder (marked found : Bool)
  | dropMarks (marked found : Bool)
  | clearMark (found : Bool)
  | returned (names : Bool)
  deriving DecidableEq

structure Pass where
  stage : Stage
  -- From its start on, up to its end, the file has held a task in progress.
  held : Bool
  deriving DecidableEq

structure State where
  index : Index
  save : Save
  -- `_unmarked` of the ledger.
  unmarked : Bool
  passes : List Pass
  deriving DecidableEq

def opened (clock : Time) (file : Option SavedFile) (mark : Bool) (stamp : Option Time) : State :=
  ⟨⟨clock, file, mark, stamp, false⟩, .idle, false, []⟩

inductive Event where
  | tick (elapsed : Nat)
  | save (inProgress : Bool)
  | setMark (ok : Bool)
  | write (ok : Bool) (written : Time)
  | clearMark (ok : Bool)
  -- The process that saves ends.
  | crash
  -- Every process ends, and one starts.
  | restart
  | start
  | pass (position : Nat) (ok : Bool)
  deriving DecidableEq

namespace Index

def inProgress (index : Index) : Bool := index.file.any SavedFile.inProgress

/-- A file left out of a pass: `since is not None and written < since - _INDEX_TIME_SLACK_S`. -/
def skipped (since : Option Time) (written : Time) : Bool :=
  since.any fun since => decide (written < since - indexTimeSlack)

/-- One step of `keys_in_progress`, of which `ok` says whether a write goes through. -/
def keysInProgress (index : Index) (ok : Bool) : Stage → Index × Stage
  | .listMarks => (index, .lookUpFolder index.mark)
  | .lookUpFolder marked =>
      (index, if index.readInFull then .lookUpStamp marked else .startClock marked none)
  | .lookUpStamp marked => (index, .startClock marked index.stamp)
  | .startClock marked since => (index, .statFile marked since index.clock)
  | .statFile marked since started =>
      (index, if !marked && index.file.any (fun file => !skipped since file.written)
        then .openFile started else .createStamp marked false started)
  | .openFile started =>
      (index, if index.inProgress then .markFound started else .createStamp false false started)
  | .markFound started =>
      if ok then ({ index with mark := true }, .createStamp false true started)
      else (index, .dropMarks false true)
  | .createStamp marked found started =>
      -- A new file carries the time it is made, until `os.utime`.
      if ok then ({ index with stamp := index.stamp <|> some index.clock },
        .setStamp marked found started)
      else (index, .dropMarks marked found)
  | .setStamp marked found started =>
      if ok then ({ index with stamp := some started }, .addFolder marked found)
      else (index, .dropMarks marked found)
  | .addFolder marked found => ({ index with readInFull := true }, .dropMarks marked found)
  | .dropMarks marked found =>
      (index, if marked && index.file.isNone then .clearMark found else .returned (marked || found))
  | .clearMark found => (if ok then { index with mark := false } else index, .returned found)
  | .returned names => (index, .returned names)

end Index

def Stage.finished : Stage → Bool
  | .returned _ => true
  | _ => false

def Pass.afterWrite (inProgress : Bool) (pass : Pass) : Pass :=
  { pass with held := pass.held && (inProgress || pass.stage.finished) }

def step (state : State) : Event → State
  | .tick elapsed => { state with index.clock := state.index.clock + elapsed }
  | .save inProgress =>
      match state.save with
      | .idle => { state with save := if inProgress then .marking else .writing false }
      | _ => state
  | .setMark ok =>
      match state.save with
      | .marking =>
          if ok then { state with index.mark := true, unmarked := false, save := .writing true }
          else { state with save := .writing true }
      | _ => state
  | .write ok written =>
      match state.save with
      | .writing inProgress =>
          if !ok then { state with save := .idle }
          -- File times agree with the clock up to the slack.
          else if state.index.clock - indexTimeSlack ≤ written ∧
              written ≤ state.index.clock + indexTimeSlack then
            { state with
              index.file := some ⟨inProgress, written⟩
              save := if inProgress then .idle else .clearing
              passes := state.passes.map (Pass.afterWrite inProgress) }
          else state
      | _ => state
  | .clearMark ok =>
      match state.save with
      | .clearing =>
          if state.unmarked || !ok then { state with save := .idle }
          else { state with index.mark := false, unmarked := true, save := .idle }
      | _ => state
  | .crash => { state with save := .idle, unmarked := false }
  | .restart => opened state.index.clock state.index.file state.index.mark state.index.stamp
  | .start => { state with passes := state.passes ++ [⟨.listMarks, state.index.inProgress⟩] }
  | .pass position ok =>
      match state.passes[position]? with
      | none => state
      | some pass =>
          let taken := state.index.keysInProgress ok pass.stage
          { state with
            index := taken.1
            passes := state.passes.set position { pass with stage := taken.2 } }

def State.Answered (state : State) : Prop :=
  ∀ pass ∈ state.passes, pass.held = true → pass.stage ≠ .returned false

instance (state : State) : Decidable state.Answered :=
  inferInstanceAs (Decidable (∀ pass ∈ state.passes,
    pass.held = true → pass.stage ≠ .returned false))

namespace Index

/-- A pass over what was written from `since` on leaves the file out, with its task in progress. -/
def misses (index : Index) (since : Option Time) : Bool :=
  index.file.any fun file => file.inProgress && skipped since file.written

end Index

namespace Stage

def claim : Stage → Option Time
  | .statFile true _ started => some started
  | .createStamp _ _ started | .setStamp _ _ started => some started
  | _ => none

def limit : Stage → Option Time
  | .startClock false since | .statFile false since _ => since
  | _ => none

def recorded : Stage → Bool
  | .addFolder _ _ => true
  | _ => false

end Stage

def State.inForce (state : State) : Option Time :=
  if state.index.readInFull || state.passes.any (fun pass => pass.stage.recorded)
    then state.index.stamp else none

def State.Careful (state : State) (ok held : Bool) : Stage → Prop
  | .lookUpStamp false => held = true → state.index.misses state.index.stamp = false
  | .startClock true _ =>
      state.index.mark = false → state.index.misses (some state.index.clock) = false
  | .clearMark _ =>
      ok = true → state.index.misses state.inForce = false ∧
        ∀ other ∈ state.passes, state.index.misses other.stage.claim = false ∧
          state.index.misses other.stage.limit = false
  | _ => True

instance State.decidableCareful (state : State) (ok held : Bool) :
    (stage : Stage) → Decidable (state.Careful ok held stage)
  | .lookUpStamp false =>
      inferInstanceAs (Decidable (held = true → state.index.misses state.index.stamp = false))
  | .startClock true _ =>
      inferInstanceAs (Decidable (state.index.mark = false →
        state.index.misses (some state.index.clock) = false))
  | .clearMark _ =>
      inferInstanceAs (Decidable (ok = true → state.index.misses state.inForce = false ∧
        ∀ other ∈ state.passes, state.index.misses other.stage.claim = false ∧
          state.index.misses other.stage.limit = false))
  | .lookUpStamp true | .startClock false _ | .listMarks | .lookUpFolder _ | .statFile _ _ _
  | .openFile _ | .markFound _ | .createStamp _ _ _ | .setStamp _ _ _ | .addFolder _ _
  | .dropMarks _ _ | .returned _ => inferInstanceAs (Decidable True)

def Permitted (state : State) : Event → Prop
  | .pass position ok => ∀ pass ∈ state.passes[position]?, state.Careful ok pass.held pass.stage
  | _ => True

instance (state : State) : (event : Event) → Decidable (Permitted state event)
  | .pass position ok =>
      inferInstanceAs (Decidable (∀ pass ∈ state.passes[position]?,
        state.Careful ok pass.held pass.stage))
  | .tick _ | .save _ | .setMark _ | .write _ _ | .clearMark _ | .crash | .restart | .start =>
      inferInstanceAs (Decidable True)

namespace Index

def Recorded (index : Index) : Prop :=
  ∃ time, index.stamp = some time ∧ time ≤ index.clock ∧
    (index.mark = false → index.misses (some time) = false)

theorem misses_none (index : Index) : index.misses none = false := by
  cases file : index.file with
  | none => simp [misses, file]
  | some file' => simp [misses, file, skipped]

variable {index : Index}

theorem misses_idle (idle : index.inProgress = false) (since : Option Time) :
    index.misses since = false := by
  cases file : index.file with
  | none => simp [misses, file]
  | some file' =>
    have none : file'.inProgress = false := by simpa [inProgress, file] using idle
    simp [misses, file, none]

theorem misses_same {index later : Index} (file : later.file = index.file) (since : Option Time) :
    later.misses since = index.misses since := by
  rw [misses, misses, file]

theorem inProgress_same {index later : Index} (file : later.file = index.file) :
    later.inProgress = index.inProgress := by
  rw [inProgress, inProgress, file]

/-- A file in progress that is not missed is not left out either. -/
theorem reads_inProgress {since : Option Time} (holds : index.inProgress = true)
    (found : index.misses since = false) :
    index.file.any (fun file => !skipped since file.written) = true := by
  cases file : index.file with
  | none => simp [inProgress, file] at holds
  | some file' =>
    have busy : file'.inProgress = true := by simpa [inProgress, file] using holds
    simpa [misses, file, busy] using found

theorem misses_written {file : SavedFile} {time : Time} (now : index.file = some file)
    (early : time ≤ index.clock) (agrees : index.clock - indexTimeSlack ≤ file.written) :
    index.misses (some time) = false := by
  have kept : time - indexTimeSlack ≤ file.written :=
    (Int.sub_le_sub_right early indexTimeSlack).trans agrees
  simp [misses, now, skipped, Int.not_lt.mpr kept]

end Index

namespace Stage

def times : Stage → List Time
  | .startClock _ since => since.toList
  | .statFile _ since started => started :: since.toList
  | .openFile started | .markFound started | .createStamp _ _ started | .setStamp _ _ started =>
      [started]
  | _ => []

def secured : Stage → Bool
  | .createStamp marked found _ | .setStamp marked found _ | .addFolder marked found
  | .dropMarks marked found => marked || found
  | .clearMark found => found
  | .returned names => names
  | _ => true

variable {stage : Stage} {time : Time}

theorem limit_mem (limit : stage.limit = some time) : time ∈ stage.times := by
  cases stage with
  | startClock marked since => cases marked <;> simp_all [Stage.limit, times]
  | statFile marked since started => cases marked <;> simp_all [Stage.limit, times]
  | _ => simp [Stage.limit] at limit

theorem claim_mem (claim : stage.claim = some time) : time ∈ stage.times := by
  cases stage with
  | statFile marked since started => cases marked <;> simp_all [Stage.claim, times]
  | createStamp marked found started => simp_all [Stage.claim, times]
  | setStamp marked found started => simp_all [Stage.claim, times]
  | _ => simp [Stage.claim] at claim

end Stage

structure Pass.Sound (index : Index) (pass : Pass) : Prop where
  timely : ∀ time ∈ pass.stage.times, time ≤ index.clock
  held : pass.held = true → pass.stage.finished = false → index.inProgress = true
  secured : pass.held = true → pass.stage.secured = true
  limit : pass.held = true ∨ index.mark = false → index.misses pass.stage.limit = false
  claim : index.mark = false → index.misses pass.stage.claim = false
  recorded : pass.stage.recorded = true → index.Recorded
  known : ∀ marked, pass.stage = .lookUpStamp marked → index.readInFull = true

structure State.Sound (state : State) : Prop where
  passes : ∀ pass ∈ state.passes, pass.Sound state.index
  recorded : state.index.readInFull = true → state.index.Recorded
  cleared : state.save = .clearing → state.index.inProgress = false

structure Index.Follows (index later : Index) : Prop where
  clock : index.clock ≤ later.clock
  file : later.file = index.file
  mark : later.mark = false → index.mark = false
  recorded : index.Recorded → later.Recorded
  readInFull : index.readInFull = true → later.readInFull = true

theorem Pass.Sound.follow {index later : Index} {pass : Pass} (follows : index.Follows later)
    (sound : pass.Sound index) : pass.Sound later where
  timely time member := (sound.timely time member).trans follows.clock
  held held running := (Index.inProgress_same follows.file).trans (sound.held held running)
  secured := sound.secured
  limit shown :=
    (Index.misses_same follows.file _).trans (sound.limit (shown.imp_right follows.mark))
  claim off := (Index.misses_same follows.file _).trans (sound.claim (follows.mark off))
  recorded recorded := follows.recorded (sound.recorded recorded)
  known marked stage := follows.readInFull (sound.known marked stage)

variable {index : Index} {stage : Stage} {state : State}

/-- Nothing is missed where no task is in progress, whatever the mark. -/
theorem Pass.Sound.unmark {pass : Pass} (idle : index.inProgress = false)
    (sound : pass.Sound index) :
    pass.Sound { index with mark := false } where
  timely := sound.timely
  held := sound.held
  secured := sound.secured
  limit _ := Index.misses_idle idle _
  claim _ := Index.misses_idle idle _
  recorded recorded := by
    obtain ⟨time, stamp, early, _⟩ := sound.recorded recorded
    exact ⟨time, stamp, early, fun _ => Index.misses_idle idle _⟩
  known := sound.known

namespace Index

theorem keysInProgress_file (index : Index) (ok : Bool) (stage : Stage) :
    (index.keysInProgress ok stage).1.file = index.file := by
  cases stage <;> cases ok <;> rfl

theorem keysInProgress_readInFull {index : Index} {ok : Bool} {stage : Stage}
    (full : (index.keysInProgress ok stage).1.readInFull = true) :
    index.readInFull = true ∨ stage.recorded = true := by
  cases stage with
  | addFolder marked found => exact Or.inr rfl
  | _ => cases ok <;> exact Or.inl full

theorem Follows.refl (index : Index) : index.Follows index :=
  ⟨le_refl _, rfl, fun off => off, fun recorded => recorded, fun full => full⟩

/-- Short of clearing a mark, a pass leaves the index as the others need it. -/
theorem keysInProgress_follows {index : Index} {pass : Pass} (ok : Bool)
    (sound : pass.Sound index) (keeps : ∀ found, pass.stage ≠ .clearMark found) :
    index.Follows (index.keysInProgress ok pass.stage).1 := by
  obtain ⟨stage, held⟩ := pass
  cases ok with
  | false =>
    cases stage with
    | addFolder marked found =>
      exact ⟨le_refl _, rfl, fun off => off, fun recorded => recorded, fun _ => rfl⟩
    | _ => exact Follows.refl index
  | true =>
    cases stage with
    | markFound started =>
      -- With the mark on, what was recorded no longer has to cover the file.
      constructor
      · exact le_refl _
      · rfl
      · intro off
        cases off
      · rintro ⟨time, stamp, early, _⟩
        exact ⟨time, stamp, early, fun off => by cases off⟩
      · exact fun full => full
    | createStamp marked found started =>
      constructor
      · exact le_refl _
      · rfl
      · exact fun off => off
      · rintro ⟨time, stamp, early, covers⟩
        exact ⟨time, by simp [keysInProgress, stamp], early, covers⟩
      · exact fun full => full
    | setStamp marked found started =>
      -- The claim of this pass becomes the stamp.
      constructor
      · exact le_refl _
      · rfl
      · exact fun off => off
      · intro _
        exact ⟨started, rfl, sound.timely started (by simp [Stage.times]), sound.claim⟩
      · exact fun full => full
    | addFolder marked found =>
      exact ⟨le_refl _, rfl, fun off => off, fun recorded => recorded, fun _ => rfl⟩
    | clearMark found => exact absurd rfl (keeps found)
    | _ => exact Follows.refl index

end Index

/-- The stages that neither look up a time nor rest on one. -/
theorem Pass.Sound.plain {held : Bool} (times : stage.times = [])
    (recorded : stage.recorded = false)
    (known : ∀ marked, stage = .lookUpStamp marked → index.readInFull = true)
    (holds : held = true → stage.finished = false → index.inProgress = true)
    (secured : held = true → stage.secured = true) : Pass.Sound index ⟨stage, held⟩ where
  timely time member := by simp [times] at member
  held := holds
  secured := secured
  limit _ := by
    cases limit : stage.limit with
    | none => exact index.misses_none
    | some time => simpa [times] using Stage.limit_mem limit
  claim _ := by
    cases claim : stage.claim with
    | none => exact index.misses_none
    | some time => simpa [times] using Stage.claim_mem claim
  recorded recorded' := by simp [recorded] at recorded'
  known := known

theorem Pass.Sound.started {held : Bool} {started : Time} (times : stage.times = [started])
    (limit : stage.limit = none) (early : started ≤ index.clock)
    (claim : index.mark = false → index.misses stage.claim = false)
    (holds : held = true → index.inProgress = true) (secured : held = true → stage.secured = true) :
    Pass.Sound index ⟨stage, held⟩ where
  timely time member := by
    rw [times, List.mem_singleton] at member
    exact member ▸ early
  held holds' _ := holds holds'
  secured := secured
  limit _ := by rw [limit]; exact index.misses_none
  claim := claim
  recorded recorded := by
    cases stage with
    | addFolder marked found => simp [Stage.times] at times
    | _ => cases recorded
  known marked at' := by
    have same : stage = .lookUpStamp marked := at'
    rw [same] at times
    cases times

def State.Advances (state : State) (ok : Bool) (stage : Stage) (held : Bool) : Prop :=
  Pass.Sound (state.index.keysInProgress ok stage).1
    ⟨(state.index.keysInProgress ok stage).2, held⟩

variable {ok held : Bool}

theorem Pass.Sound.lookUpStamp {marked : Bool}
    (sound : Pass.Sound state.index ⟨.lookUpStamp marked, held⟩)
    (whole : state.index.readInFull = true → state.index.Recorded)
    (careful : state.Careful ok held (.lookUpStamp marked)) :
    state.Advances ok (.lookUpStamp marked) held := by
  obtain ⟨time, stamp, early, found⟩ := whole (sound.known marked rfl)
  constructor
  · intro later member
    simp only [Index.keysInProgress, stamp, Stage.times, Option.toList_some,
      List.mem_singleton] at member
    exact member ▸ early
  · exact fun holds _ => sound.held holds rfl
  · exact fun _ => rfl
  · cases marked with
    | true => exact fun _ => state.index.misses_none
    | false =>
      -- Where the mark is off the stamp covers the file already.
      rintro (holds | off)
      · exact careful holds
      · have covered : state.index.misses state.index.stamp = false := stamp ▸ found off
        exact covered
  · exact fun _ => state.index.misses_none
  · exact fun recorded => by cases recorded
  · exact fun marked at' => by cases at'

theorem Pass.Sound.startClock {marked : Bool} {since : Option Time}
    (sound : Pass.Sound state.index ⟨.startClock marked since, held⟩)
    (careful : state.Careful ok held (.startClock marked since)) :
    state.Advances ok (.startClock marked since) held := by
  constructor
  · intro time member
    rcases List.mem_cons.mp member with now | before
    · exact now.le
    · exact sound.timely time before
  · exact fun holds _ => sound.held holds rfl
  · exact fun _ => rfl
  · cases marked with
    | true => exact fun _ => state.index.misses_none
    | false => exact sound.limit
  · cases marked with
    | true => exact careful
    | false => exact fun _ => state.index.misses_none
  · exact fun recorded => by cases recorded
  · exact fun marked at' => by cases at'

theorem Pass.Sound.statFile {marked : Bool} {since : Option Time} {started : Time}
    (sound : Pass.Sound state.index ⟨.statFile marked since started, held⟩) :
    state.Advances ok (.statFile marked since started) held := by
  have early : started ≤ state.index.clock := sound.timely started (List.mem_cons_self)
  have holds : held = true → state.index.inProgress = true := fun holds => sound.held holds rfl
  cases marked with
  | true =>
    exact .started rfl rfl early sound.claim holds (fun _ => rfl)
  | false =>
    cases kept : state.index.file.any (fun file => !Index.skipped since file.written) with
    | true =>
      simp only [State.Advances, Index.keysInProgress, kept]
      exact .started rfl rfl early (fun _ => state.index.misses_none) holds (fun _ => rfl)
    | false =>
      -- A file that is left out holds no task in progress.
      have idle (shown : held = true ∨ state.index.mark = false) :
          state.index.inProgress = false := by
        have limit : state.index.misses since = false := sound.limit shown
        cases busy : state.index.inProgress with
        | false => rfl
        | true => rw [Index.reads_inProgress busy limit] at kept; cases kept
      simp only [State.Advances, Index.keysInProgress, kept]
      apply Pass.Sound.started rfl rfl early
      · exact fun off => Index.misses_idle (idle (Or.inr off)) _
      · exact holds
      · intro holds'
        have none := idle (Or.inl holds')
        rw [holds holds'] at none
        cases none

theorem Pass.Sound.setStamp {marked found : Bool} {started : Time}
    (sound : Pass.Sound state.index ⟨.setStamp marked found started, held⟩) :
    state.Advances ok (.setStamp marked found started) held := by
  have early : started ≤ state.index.clock := sound.timely started (List.mem_cons_self)
  have holds : held = true → state.index.inProgress = true := fun holds => sound.held holds rfl
  cases ok with
  | true =>
    constructor
    · exact fun time member => by cases member
    · exact fun h _ => holds h
    · exact sound.secured
    · exact fun _ => state.index.misses_none
    · exact fun _ => state.index.misses_none
    · exact fun _ => ⟨started, rfl, early, sound.claim⟩
    · exact fun marked at' => by cases at'
  | false =>
    exact .plain rfl rfl (by simp [Index.keysInProgress]) (fun h _ => holds h) sound.secured

theorem Pass.Sound.dropMarks {marked found : Bool}
    (sound : Pass.Sound state.index ⟨.dropMarks marked found, held⟩) :
    state.Advances ok (.dropMarks marked found) held := by
  cases gone : (marked && state.index.file.isNone) with
  | true =>
    simp only [State.Advances, Index.keysInProgress, gone, if_true]
    apply Pass.Sound.plain rfl rfl (by simp) (fun holds _ => sound.held holds rfl)
    intro holds
    have busy := sound.held holds rfl
    rw [Bool.and_eq_true, Option.isNone_iff_eq_none] at gone
    simp [Index.inProgress, gone.2] at busy
  | false =>
    simp only [State.Advances, Index.keysInProgress, gone]
    exact .plain rfl rfl (by simp) (fun _ running => by cases running) sound.secured

theorem Pass.Sound.advance {pass : Pass} (sound : pass.Sound state.index)
    (whole : state.index.readInFull = true → state.index.Recorded) (ok : Bool)
    (careful : state.Careful ok pass.held pass.stage) :
    Pass.Sound (state.index.keysInProgress ok pass.stage).1
      { pass with stage := (state.index.keysInProgress ok pass.stage).2 } := by
  obtain ⟨stage, held⟩ := pass
  cases stage with
  | listMarks =>
    exact .plain rfl rfl (by simp [Index.keysInProgress]) (fun holds _ => sound.held holds rfl)
      (fun _ => rfl)
  | lookUpFolder marked =>
    by_cases full : state.index.readInFull = true
    · simp only [Index.keysInProgress, full, if_true]
      exact .plain rfl rfl (fun _ _ => full) (fun holds _ => sound.held holds rfl) (fun _ => rfl)
    · simp only [Index.keysInProgress, full]
      exact .plain rfl rfl (by simp) (fun holds _ => sound.held holds rfl) (fun _ => rfl)
  | lookUpStamp marked => exact sound.lookUpStamp whole careful
  | startClock marked since => exact sound.startClock careful
  | statFile marked since started => exact sound.statFile
  | openFile started =>
    have early : started ≤ state.index.clock := sound.timely started (List.mem_cons_self)
    have holds : held = true → state.index.inProgress = true := fun holds => sound.held holds rfl
    cases busy : state.index.inProgress with
    | true =>
      simp only [Index.keysInProgress, busy, if_true]
      exact .started rfl rfl early (fun _ => state.index.misses_none) holds (fun _ => rfl)
    | false =>
      simp only [Index.keysInProgress, busy]
      exact .started rfl rfl early (fun _ => Index.misses_idle busy _) holds
        (fun holds' => by rw [holds holds'] at busy; cases busy)
  | markFound started =>
    have early : started ≤ state.index.clock := sound.timely started (List.mem_cons_self)
    have holds : held = true → state.index.inProgress = true := fun holds => sound.held holds rfl
    cases ok with
    | true => exact .started rfl rfl early (fun off => by cases off) holds (fun _ => rfl)
    | false =>
      -- The mark could not be written: the start is not recorded, and the key is returned.
      exact .plain rfl rfl (by simp [Index.keysInProgress]) (fun h _ => holds h) (fun _ => rfl)
  | createStamp marked found started =>
    have early : started ≤ state.index.clock := sound.timely started (List.mem_cons_self)
    have holds : held = true → state.index.inProgress = true := fun holds => sound.held holds rfl
    cases ok with
    | true => exact .started rfl rfl early sound.claim holds sound.secured
    | false =>
      exact .plain rfl rfl (by simp [Index.keysInProgress]) (fun h _ => holds h) sound.secured
  | setStamp marked found started => exact sound.setStamp
  | addFolder marked found =>
    exact .plain rfl rfl (by simp [Index.keysInProgress]) (fun holds _ => sound.held holds rfl)
      sound.secured
  | dropMarks marked found => exact sound.dropMarks
  | clearMark found =>
    exact .plain rfl rfl (by simp [Index.keysInProgress]) (fun _ running => by cases running)
      sound.secured
  | returned names => exact sound

theorem State.Sound.inForce_recorded (sound : state.Sound)
    (inForce : state.index.readInFull = true ∨
      state.passes.any (fun pass => pass.stage.recorded) = true) : state.index.Recorded := by
  rcases inForce with full | some
  · exact sound.recorded full
  · obtain ⟨pass, member, recorded⟩ := List.any_eq_true.mp some
    exact (sound.passes pass member).recorded recorded

theorem State.Sound.clear (sound : state.Sound) (stamp : state.index.misses state.inForce = false)
    (times : ∀ other ∈ state.passes, state.index.misses other.stage.claim = false ∧
      state.index.misses other.stage.limit = false) :
    (∀ pass ∈ state.passes, pass.Sound { state.index with mark := false }) ∧
      (state.index.readInFull = true → Index.Recorded { state.index with mark := false }) := by
  have recorded : (state.index.readInFull = true ∨
      state.passes.any (fun pass => pass.stage.recorded) = true) →
        Index.Recorded { state.index with mark := false } := by
    intro inForce
    obtain ⟨time, stamped, early, _⟩ := sound.inForce_recorded inForce
    have now : state.inForce = some time := by
      rw [State.inForce, if_pos (Bool.or_eq_true_iff.mpr inForce), stamped]
    exact ⟨time, stamped, early, fun _ => now ▸ stamp⟩
  constructor
  · intro pass member
    have before := sound.passes pass member
    exact
      { before with
        limit := fun _ => (times pass member).2
        claim := fun _ => (times pass member).1
        recorded := fun last =>
          recorded (Or.inr (List.any_eq_true.mpr ⟨pass, member, last⟩)) }
  · exact fun full => recorded (Or.inl full)

theorem State.Sound.others (sound : state.Sound) (mover : Pass) (member : mover ∈ state.passes)
    (ok : Bool) (careful : state.Careful ok mover.held mover.stage) :
    (∀ pass ∈ state.passes, pass.Sound (state.index.keysInProgress ok mover.stage).1) ∧
      ((state.index.keysInProgress ok mover.stage).1.readInFull = true →
        (state.index.keysInProgress ok mover.stage).1.Recorded) := by
  have before := sound.passes mover member
  by_cases clears : ∃ found, mover.stage = .clearMark found
  · obtain ⟨found, stage⟩ := clears
    rw [stage] at careful ⊢
    cases ok with
    | true => exact sound.clear (careful rfl).1 (careful rfl).2
    | false => exact ⟨sound.passes, sound.recorded⟩
  · have follows : state.index.Follows (state.index.keysInProgress ok mover.stage).1 :=
      Index.keysInProgress_follows ok before (fun found stage => clears ⟨found, stage⟩)
    constructor
    · exact fun pass among => (sound.passes pass among).follow follows
    · intro full
      apply follows.recorded
      rcases Index.keysInProgress_readInFull full with already | last
      · exact sound.recorded already
      · exact before.recorded last

theorem State.Sound.pass (sound : state.Sound) (position : Nat) (ok : Bool)
    (permitted : Permitted state (.pass position ok)) : (step state (.pass position ok)).Sound := by
  cases at' : state.passes[position]? with
  | none => simpa [step, at'] using sound
  | some mover =>
    have member : mover ∈ state.passes := List.mem_of_getElem? at'
    have careful : state.Careful ok mover.held mover.stage := permitted mover at'
    have others := sound.others mover member ok careful
    simp only [step, at']
    constructor
    · intro pass among
      rcases List.mem_or_eq_of_mem_set among with before | now
      · exact others.1 pass before
      · exact now ▸ (sound.passes mover member).advance sound.recorded ok careful
    · exact others.2
    · intro clearing
      rw [Index.inProgress_same (Index.keysInProgress_file _ _ _)]
      exact sound.cleared clearing

/-- What the ledger and the clock do that leaves the file as it is. -/
theorem State.Sound.follow {later : Index} (sound : state.Sound)
    (follows : state.index.Follows later)
    (full : later.readInFull = true → state.index.readInFull = true) (save : Save)
    (clearing : save = .clearing → state.index.inProgress = false) (unmarked : Bool) :
    State.Sound ⟨later, save, unmarked, state.passes⟩ where
  passes pass member := (sound.passes pass member).follow follows
  recorded now := follows.recorded (sound.recorded (full now))
  cleared now := (Index.inProgress_same follows.file).trans (clearing now)

theorem Pass.Sound.write {pass : Pass} (sound : pass.Sound index) (inProgress : Bool)
    (written : Time) (agrees : index.clock - indexTimeSlack ≤ written) :
    (pass.afterWrite inProgress).Sound { index with file := some ⟨inProgress, written⟩ } := by
  have covers : ∀ time : Time, time ≤ index.clock →
      Index.misses { index with file := some ⟨inProgress, written⟩ } (some time) = false :=
    fun time early => Index.misses_written rfl early agrees
  constructor
  · exact sound.timely
  · intro held running
    simp only [Pass.afterWrite, Bool.and_eq_true, Bool.or_eq_true] at held running
    rcases held.2 with holds | ended
    · exact holds
    · rw [ended] at running
      cases running
  · intro held
    exact sound.secured (Bool.and_eq_true_iff.mp held).1
  · intro _
    cases limit : pass.stage.limit with
    | none => simp only [Pass.afterWrite, limit]; exact Index.misses_none _
    | some time =>
      simp only [Pass.afterWrite, limit]
      exact covers time (sound.timely time (Stage.limit_mem limit))
  · intro _
    cases claim : pass.stage.claim with
    | none => simp only [Pass.afterWrite, claim]; exact Index.misses_none _
    | some time =>
      simp only [Pass.afterWrite, claim]
      exact covers time (sound.timely time (Stage.claim_mem claim))
  · intro recorded
    obtain ⟨time, stamp, early, _⟩ := sound.recorded recorded
    exact ⟨time, stamp, early, fun _ => covers time early⟩
  · exact sound.known

theorem State.Sound.write {inProgress unmarked : Bool} {passes : List Pass}
    (sound : State.Sound ⟨index, .writing inProgress, unmarked, passes⟩) (ok : Bool)
    (written : Time) :
    (step ⟨index, .writing inProgress, unmarked, passes⟩ (.write ok written)).Sound := by
  cases ok with
  | false =>
    exact sound.follow (Index.Follows.refl index) (fun full => full) _
      (fun clearing => by cases clearing) _
  | true =>
    by_cases agrees : index.clock - indexTimeSlack ≤ written ∧
        written ≤ index.clock + indexTimeSlack
    · simp only [step, Bool.not_true, Bool.false_eq_true, if_false, agrees, and_self, if_true]
      constructor
      · intro pass member
        obtain ⟨before, among, same⟩ := List.mem_map.mp member
        exact same ▸ (sound.passes before among).write inProgress written agrees.1
      · intro full
        obtain ⟨time, stamp, early, _⟩ := sound.recorded full
        exact ⟨time, stamp, early, fun _ => Index.misses_written rfl early agrees.1⟩
      · intro clearing
        cases inProgress with
        | true => cases clearing
        | false => rfl
    · simp only [step, Bool.not_true, Bool.false_eq_true, if_false, if_neg agrees]
      exact sound

theorem State.Sound.unmark {save : Save} {unmarked : Bool} {passes : List Pass}
    (sound : State.Sound ⟨index, save, unmarked, passes⟩) (idle : index.inProgress = false) :
    State.Sound ⟨{ index with mark := false }, .idle, true, passes⟩ where
  passes pass member := (sound.passes pass member).unmark idle
  recorded full := by
    obtain ⟨time, stamp, early, _⟩ := sound.recorded full
    exact ⟨time, stamp, early, fun _ => Index.misses_idle idle _⟩
  cleared clearing := by cases clearing

theorem Index.follows_tick (index : Index) (elapsed : Nat) :
    index.Follows { index with clock := index.clock + elapsed } := by
  have later : index.clock ≤ index.clock + elapsed :=
    Int.le_add_of_nonneg_right (Int.natCast_nonneg elapsed)
  constructor
  · exact later
  · rfl
  · exact fun off => off
  · rintro ⟨time, stamp, early, found⟩
    exact ⟨time, stamp, early.trans later, found⟩
  · exact fun full => full

theorem Index.follows_mark (index : Index) : index.Follows { index with mark := true } := by
  constructor
  · exact le_refl _
  · rfl
  · exact fun off => by cases off
  · rintro ⟨time, stamp, early, _⟩
    exact ⟨time, stamp, early, fun off => by cases off⟩
  · exact fun full => full

theorem opened_sound (clock : Time) (file : Option SavedFile) (mark : Bool) (stamp : Option Time) :
    (opened clock file mark stamp).Sound where
  passes pass member := by cases member
  recorded full := by cases full
  cleared clearing := by cases clearing

theorem step_sound (state : State) (event : Event) (sound : state.Sound)
    (permitted : Permitted state event) : (step state event).Sound := by
  obtain ⟨index, save, unmarked, passes⟩ := state
  cases event with
  | tick elapsed =>
    exact sound.follow (index.follows_tick elapsed) (fun full => full) save sound.cleared unmarked
  | save inProgress =>
    cases save with
    | idle =>
      apply sound.follow (Index.Follows.refl index) (fun full => full)
      cases inProgress with
      | true => exact fun clearing => by cases clearing
      | false => exact fun clearing => by cases clearing
    | _ => exact sound
  | setMark ok =>
    cases save with
    | marking =>
      cases ok with
      | true =>
        exact sound.follow index.follows_mark (fun full => full) _
          (fun clearing => by cases clearing) _
      | false =>
        exact sound.follow (Index.Follows.refl index) (fun full => full) _
          (fun clearing => by cases clearing) _
    | _ => exact sound
  | write ok written =>
    cases save with
    | writing inProgress => exact sound.write ok written
    | _ => exact sound
  | clearMark ok =>
    cases save with
    | clearing =>
      cases skips : (unmarked || !ok) with
      | true =>
          simp only [step, skips, if_true]
          exact sound.follow (Index.Follows.refl index) (fun full => full) _
            (fun clearing => by cases clearing) _
      | false =>
          simp only [step, skips]
          exact sound.unmark (sound.cleared rfl)
    | _ => exact sound
  | crash =>
    exact sound.follow (Index.Follows.refl index) (fun full => full) _
      (fun clearing => by cases clearing) _
  | restart => exact opened_sound _ _ _ _
  | start =>
    constructor
    · intro pass member
      rcases List.mem_append.mp member with before | now
      · exact sound.passes pass before
      · rw [List.mem_singleton] at now
        subst now
        exact .plain rfl rfl (by simp) (fun holds _ => holds) (fun _ => rfl)
    · exact sound.recorded
    · exact sound.cleared
  | pass position ok => exact sound.pass position ok permitted

theorem State.Sound.answered (sound : state.Sound) : state.Answered := by
  intro pass member held absent
  have secured := (sound.passes pass member).secured held
  rw [absent] at secured
  cases secured

/-- In runs of permitted steps every pass returns the key of a file that held a task in progress
from its start to its end. -/
theorem keys_in_progress_answered (clock : Time) (file : Option SavedFile) (mark : Bool)
    (stamp : Option Time) (run : List Event)
    (permitted : Along step Permitted (opened clock file mark stamp) run) :
    Always step State.Answered (opened clock file mark stamp) run :=
  always_of_invariant step State.Sound State.Answered Permitted step_sound
    (fun _ sound => sound.answered) run (opened clock file mark stamp)
    (opened_sound clock file mark stamp) permitted

def wholePass (position : Nat) : List Event := List.replicate 12 (.pass position true)

def aSecond : Nat := 1000000000

def racedFirstSave : List Event :=
  [Event.save true, Event.setMark true, Event.start] ++ List.replicate 8 (Event.pass 0 true) ++
    [Event.write true 0, Event.pass 0 true, Event.start, Event.tick (3 * aSecond)] ++ wholePass 1

theorem raced_first_save_answered :
    Along step Permitted (opened 0 none false none) racedFirstSave ∧
      Always step State.Answered (opened 0 none false none) racedFirstSave :=
  have permitted : Along step Permitted (opened 0 none false none) racedFirstSave := by
    decide +kernel
  ⟨permitted, keys_in_progress_answered 0 none false none racedFirstSave permitted⟩

def hiddenWrite : List Event :=
  [Event.save true, Event.setMark true, Event.write true 0,
   Event.start, Event.pass 0 true,
   Event.save false, Event.write true 0, Event.clearMark true,
   Event.save true, Event.setMark false, Event.write true 0,
   Event.tick (3 * aSecond)] ++ wholePass 0 ++ [Event.start] ++ wholePass 1

theorem hidden_write_unanswered :
    ¬ ∀ (clock : Time) (file : Option SavedFile) (mark : Bool) (stamp : Option Time)
      (run : List Event), Always step State.Answered (opened clock file mark stamp) run := by
  intro always
  have hidden := always_final (always 0 none false none hiddenWrite)
  revert hidden
  decide +kernel

end Hartos.InProgressIndex
