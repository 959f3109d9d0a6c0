import Hartos.SyncQueue

/-!
The sync queue through any interleaving of drains: no committed row is left in progress, no
two drains send one item, and only what a parent listed becomes completed.
-/
namespace Hartos.Sync
open SharedRow StepSystem

namespace SyncState
variable {state : SyncState}

def Claims (state : SyncState) (session : Nat) (id : String) : Prop :=
  ∃ item, (state.row id).writing = some (session, item) ∧ state.drain session ≠ .idle

structure Safe (state : SyncState) : Prop where
  placed : ∀ id ∈ state.ids, let status := (state.row id).committed.status
    status = .completed ∨ status = .dead ∨ (∃ session, state.Claims session id) ∨ status.Selected
  apart : ∀ first second items others, state.drain first = .sending items →
    state.drain second = .sending others → first ≠ second → ∀ id ∈ items, id ∉ others
  acknowledged : ∀ id ∈ state.ids, (state.row id).committed.status = .completed →
    id ∈ state.listed

def Writes (listed : List String) (id : String) (item : QueueItem) : DrainStage → Prop
  | .idle => False
  | .selecting _ => False
  | .claiming _ => False
  | .fetching ids => id ∈ ids ∧ item.status = .inProgress
  | .sending items => id ∈ items ∧ item.status = .inProgress
  | .committing => item.status ≠ .inProgress ∧ (item.status = .completed → id ∈ listed)

structure Inv (state : SyncState) : Prop where
  settled : ∀ id, (state.row id).committed.status ≠ .inProgress
  completed : ∀ id, (state.row id).committed.status = .completed → id ∈ state.listed
  written : ∀ id session item, (state.row id).writing = some (session, item) →
    id ∈ state.ids ∧ Writes state.listed id item (state.drain session)
  held : ∀ session items, state.drain session = .sending items → ∀ id ∈ items,
    ∃ item, (state.row id).writing = some (session, item)
  known : ∀ session ids, state.drain session = .claiming ids → ∀ id ∈ ids, id ∈ state.ids

def Clean (state : SyncState) (session : Nat) : Prop :=
  ∀ id item, (state.row id).writing ≠ some (session, item)

theorem Inv.opened : Inv opened := by
  constructor <;> simp [SyncState.opened]

theorem Inv.clean (inv : Inv state) (session : Nat)
    (early : ∀ id item, ¬ Writes state.listed id item (state.drain session)) :
    state.Clean session := by
  intro id item writing
  exact early id item (inv.written id session item writing).2

theorem Inv.safe (inv : Inv state) : state.Safe := by
  constructor
  · intro id _
    have settled := inv.settled id
    cases status : (state.row id).committed.status with
    | queued => exact .inr (.inr (.inr (.inl rfl)))
    | inProgress => exact absurd status settled
    | completed => exact .inl rfl
    | failed => exact .inr (.inr (.inr (.inr rfl)))
    | dead => exact .inr (.inl rfl)
  · intro first second items others isFirst isSecond different id here there
    obtain ⟨item, byFirst⟩ := inv.held first items isFirst id here
    obtain ⟨other, bySecond⟩ := inv.held second others isSecond id there
    rw [byFirst] at bySecond
    cases bySecond
    exact different rfl
  · intro id _ completed
    exact inv.completed id completed

variable (reply : ParentAnswer) {session : Nat} {id : String}

theorem free_of_clean (clean : state.Clean session) (free : (state.row id).free session = true) :
    (state.row id).writing = none := by
  unfold Row.free at free
  cases writing : (state.row id).writing with
  | none => rfl
  | some written =>
    obtain ⟨writer, item⟩ := written
    rw [writing] at free
    have same : writer = session := of_decide_eq_true free
    exact absurd (same ▸ writing) (clean id item)

theorem seen_of_none (writing : (state.row id).writing = none) :
    state.seen session id = (state.row id).committed := by
  simp [SyncState.seen, Row.seen, writing]

theorem seen_of_written {item : QueueItem}
    (writing : (state.row id).writing = some (session, item)) :
    state.seen session id = item := by
  simp [SyncState.seen, Row.seen, writing]

/-- A drain without writes moves to a stage in which it still has none to show. -/
theorem Inv.go (inv : Inv state) {session : Nat} (clean : state.Clean session)
    (stage : DrainStage) (sends : ∀ items, stage = .sending items → items = [])
    (known : ∀ ids, stage = .claiming ids → ∀ id ∈ ids, id ∈ state.ids) :
    Inv (state.go session stage) := by
  refine ⟨inv.settled, inv.completed, ?_, ?_, ?_⟩
  · intro id writer item writing
    by_cases same : writer = session
    · exact absurd (same ▸ writing) (clean id item)
    · simpa [SyncState.go, same] using inv.written id writer item writing
  · intro other items isSending id member
    by_cases same : other = session
    · have stage := sends items (by simpa [SyncState.go, same] using isSending)
      simp [stage] at member
    · exact inv.held other items (by simpa [SyncState.go, same] using isSending) id member
  · intro other ids isClaiming
    by_cases same : other = session
    · exact known ids (by simpa [SyncState.go, same] using isClaiming)
    · exact inv.known other ids (by simpa [SyncState.go, same] using isClaiming)

theorem Inv.enqueue (inv : Inv state) (id nodeId operationType payload : String) :
    Inv (state.enqueue id nodeId operationType payload) := by
  unfold SyncState.enqueue
  split
  · exact inv
  next absent =>
    have unwritten (session : Nat) (item : QueueItem) :
        (state.row id).writing ≠ some (session, item) := fun writing =>
      absent (inv.written id session item writing).1
    refine ⟨?_, ?_, ?_, ?_, ?_⟩
    · intro other
      by_cases same : other = id <;> simp [same, inv.settled]
    · intro other
      by_cases same : other = id
      · simp [same]
      · simpa [same] using inv.completed other
    · intro other session item
      by_cases same : other = id
      · simp [same]
      · intro writing
        have before := inv.written other session item (by simpa [same] using writing)
        exact ⟨List.mem_append_left _ before.1, before.2⟩
    · intro session items sending other member
      obtain ⟨item, writing⟩ := inv.held session items sending other member
      have different : other ≠ id := by
        rintro rfl
        exact unwritten session item writing
      exact ⟨item, by simpa [different] using writing⟩
    · intro session ids claiming other member
      exact List.mem_append_left _ (inv.known session ids claiming other member)

theorem Inv.begin (inv : Inv state) (session : Nat) (nodeId : String) :
    Inv (state.begin session nodeId) := by
  unfold SyncState.begin
  split
  next idle => exact inv.go (inv.clean session (by simp [idle, Writes])) _ (by simp) (by simp)
  · exact inv

theorem Inv.select (inv : Inv state) (session batchSize : Nat) :
    Inv (state.select session batchSize) := by
  unfold SyncState.select
  split
  next nodeId selecting =>
    apply inv.go (inv.clean session (by simp [selecting, Writes]))
    · split <;> simp
    · intro ids
      split
      · simp
      · rintro ⟨⟩ id member
        exact (List.mem_filter.mp (List.mem_of_mem_take member)).1
  · exact inv

theorem Inv.restamp (inv : Inv state) (row : String → Row Nat QueueItem)
    (status : ∀ id, (row id).committed.status = (state.row id).committed.status)
    (writing : ∀ id, (row id).writing = (state.row id).writing) : Inv { state with row } := by
  refine ⟨?_, ?_, ?_, ?_, inv.known⟩
  · intro id
    rw [status]
    exact inv.settled id
  · intro id
    rw [status]
    exact inv.completed id
  · intro id session item
    rw [writing]
    exact inv.written id session item
  · intro session items sending id member
    rw [writing]
    exact inv.held session items sending id member

theorem commit_clean (clean : state.Clean session) (id : String) :
    (state.row id).commit session = state.row id := by
  have clean := clean id
  cases row : state.row id with
  | mk committed writing =>
    rw [row] at clean
    cases writing with
    | none => rfl
    | some written =>
      have other : written.1 ≠ session := fun same => clean written.2 (same ▸ rfl)
      exact Row.commit_taken _ session (by simp [Row.free, other])

section

variable (inv : Inv state) (session : Nat)
include inv

theorem Inv.adopt : Inv (state.adopt session) := by
  unfold SyncState.adopt
  split
  next nodeId selecting =>
    dsimp only
    split
    next free =>
      have clean := inv.clean session (by simp [selecting, Writes])
      have stamped (id : String) : (if id ∈ state.ids.filter fun id =>
            (state.seen session id).nodeId ≠ nodeId ∧ (state.seen session id).status.Selected
          then (state.row id).write session { state.seen session id with nodeId }
          else state.row id).commit session =
            ⟨{ (state.row id).committed with nodeId := if id ∈ state.ids.filter fun id =>
              (state.seen session id).nodeId ≠ nodeId ∧ (state.seen session id).status.Selected
              then nodeId else (state.row id).committed.nodeId }, (state.row id).writing⟩ := by
        split
        next member =>
          have unwritten := free_of_clean clean (List.all_eq_true.mp free id member)
          rw [seen_of_none unwritten, Row.commit_free _ _ (by simp [Row.free, Row.write]), unwritten]
          rfl
        · exact commit_clean clean id
      apply inv.restamp
      · intro id
        have same := congrArg (fun row => row.committed.status) (stamped id)
        exact same
      · intro id
        have same := congrArg Row.writing (stamped id)
        exact same
    · exact inv
  · exact inv

theorem Inv.claim : Inv (state.claim session) := by
  unfold SyncState.claim
  split
  next ids claiming =>
    split
    next free =>
      have clean := inv.clean session (by simp [claiming, Writes])
      have alone (id : String) (member : id ∈ ids) : (state.row id).writing = none :=
        free_of_clean clean (List.all_eq_true.mp free id member)
      refine ⟨?_, ?_, ?_, ?_, ?_⟩
      · intro id
        simp only [SyncState.go, SyncState.writeRows]
        split <;> exact inv.settled id
      · intro id
        simp only [SyncState.go, SyncState.writeRows]
        split <;> exact inv.completed id
      · intro id writer item
        simp only [SyncState.go, SyncState.writeRows]
        split
        next member =>
          rintro ⟨⟩
          have taken := (List.mem_filter.mp member).1
          refine ⟨inv.known session ids claiming id taken, ?_⟩
          have some : (ids.filter fun id => (state.seen session id).status.Selected) ≠ [] :=
            List.ne_nil_of_mem member
          simp [some, Writes, taken]
        next other =>
          intro writing
          have different : writer ≠ session := fun same => clean id item (same ▸ writing)
          simpa [different] using inv.written id writer item writing
      · intro writer items sending id member
        have different : writer ≠ session := by
          rintro rfl
          simp only [SyncState.go, ↓reduceIte] at sending
          split at sending <;> cases sending
        obtain ⟨item, writing⟩ :=
          inv.held writer items (by simpa [SyncState.go, SyncState.writeRows, different] using sending)
            id member
        have unclaimed : id ∉ ids.filter fun id => (state.seen session id).status.Selected :=
          fun claimed => by
            rw [alone id (List.mem_filter.mp claimed).1] at writing
            cases writing
        exact ⟨item, by simpa only [SyncState.go, SyncState.writeRows, if_neg unclaimed] using writing⟩
      · intro writer others isClaiming
        have different : writer ≠ session := by
          rintro rfl
          simp only [SyncState.go, ↓reduceIte] at isClaiming
          split at isClaiming <;> cases isClaiming
        exact inv.known writer others
          (by simpa [SyncState.go, SyncState.writeRows, different] using isClaiming)
    · exact inv
  · exact inv

theorem Inv.fetch : Inv (state.fetch session) := by
  unfold SyncState.fetch
  split
  next ids fetching =>
    have mine (id : String) (item : QueueItem)
        (writing : (state.row id).writing = some (session, item)) :
        id ∈ ids.filter fun id => (state.seen session id).status = .inProgress := by
      have written := (inv.written id session item writing).2
      rw [fetching] at written
      exact List.mem_filter.mpr
        ⟨written.1, decide_eq_true (seen_of_written writing ▸ written.2)⟩
    refine ⟨inv.settled, inv.completed, ?_, ?_, ?_⟩
    · intro id writer item writing
      refine ⟨(inv.written id writer item writing).1, ?_⟩
      by_cases same : writer = session
      · subst same
        have member := mine id item writing
        have written := (inv.written id writer item writing).2
        rw [fetching] at written
        simp only [SyncState.go, ↓reduceIte, if_neg (List.ne_nil_of_mem member)]
        exact ⟨member, written.2⟩
      · simpa [SyncState.go, same] using (inv.written id writer item writing).2
    · intro writer items sending id member
      by_cases same : writer = session
      · subst same
        simp only [SyncState.go, ↓reduceIte] at sending
        split at sending
        · cases sending
        cases sending
        have progress := of_decide_eq_true (List.mem_filter.mp member).2
        cases writing : (state.row id).writing with
        | none =>
          rw [seen_of_none writing] at progress
          exact absurd progress (inv.settled id)
        | some written =>
          obtain ⟨other, item⟩ := written
          by_cases own : other = writer
          · exact ⟨item, own ▸ writing⟩
          · simp only [SyncState.seen, Row.seen, writing, if_neg own] at progress
            exact absurd progress (inv.settled id)
      · exact inv.held writer items (by simpa [SyncState.go, same] using sending) id member
    · intro writer others isClaiming
      by_cases same : writer = session
      · subst same
        simp only [SyncState.go, ↓reduceIte] at isClaiming
        split at isClaiming <;> cases isClaiming
      · exact inv.known writer others (by simpa [SyncState.go, same] using isClaiming)
  · exact inv

/-- A transaction ends: its writes are gone, and those of the others stand. -/
theorem Inv.ends (after : String → Row Nat QueueItem)
    (left : ∀ id writer item, (after id).writing = some (writer, item) ↔
      (state.row id).writing = some (writer, item) ∧ writer ≠ session)
    (settled : ∀ id, (after id).committed.status ≠ .inProgress)
    (completed : ∀ id, (after id).committed.status = .completed → id ∈ state.listed) :
    Inv ({ state with row := after }.go session .idle) := by
  have others (writer : Nat) (different : writer ≠ session) :
      ({ state with row := after }.go session .idle).drain writer = state.drain writer :=
    if_neg different
  refine ⟨settled, completed, ?_, ?_, ?_⟩
  · intro id writer item writing
    obtain ⟨before, different⟩ := (left id writer item).mp writing
    rw [others writer different]
    exact inv.written id writer item before
  · intro writer items sending id member
    have different : writer ≠ session := by
      rintro rfl
      simp [SyncState.go] at sending
    rw [others writer different] at sending
    obtain ⟨item, writing⟩ := inv.held writer items sending id member
    exact ⟨item, (left id writer item).mpr ⟨writing, different⟩⟩
  · intro writer ids isClaiming
    have different : writer ≠ session := by
      rintro rfl
      simp [SyncState.go] at isClaiming
    rw [others writer different] at isClaiming
    exact inv.known writer ids isClaiming

theorem Inv.abandon : Inv (state.abandon session) := by
  apply inv.ends session
  · exact fun id => (state.row id).writing_rollback session
  · intro id
    simpa using inv.settled id
  · intro id
    simpa using inv.completed id

end

theorem answered_settled (id : String) (item : QueueItem) (asked : reply ≠ .raised) :
    (buried (answered reply id item)).status ≠ .inProgress := by
  cases reply with
  | processed ids =>
    by_cases listed : id ∈ ids
    · simp [answered, listed, buried]
    · simp only [answered, if_neg listed, buried, failedBy]
      split <;> simp
  | refused statusCode =>
    simp only [answered, buried, failedBy]
    split <;> simp
  | requestException error =>
    simp only [answered, buried, failedBy]
    split <;> simp
  | raised => exact absurd rfl asked

theorem answered_completed (id : String) (item : QueueItem) (asked : reply ≠ .raised)
    (completed : (buried (answered reply id item)).status = .completed) :
    ∃ ids, reply = .processed ids ∧ id ∈ ids := by
  have failing (error : String) : (buried (failedBy error item)).status ≠ .completed := by
    simp only [buried, failedBy]
    split <;> simp
  cases reply with
  | processed ids =>
    by_cases listed : id ∈ ids
    · exact ⟨ids, rfl, listed⟩
    · simp only [answered, if_neg listed] at completed
      exact absurd completed (failing _)
  | refused statusCode => exact absurd completed (failing _)
  | requestException error => exact absurd completed (failing _)
  | raised => exact absurd rfl asked

/-- All that the drain sent is written with a status that is no longer in progress. -/
theorem Inv.marked (inv : Inv state) {session : Nat} {items : List String}
    (sending : state.drain session = .sending items) (reply : ParentAnswer) (asked : reply ≠ .raised)
    (listed : List String) (more : ∀ id ∈ state.listed, id ∈ listed)
    (acknowledged : ∀ ids, reply = .processed ids → ∀ id ∈ ids, id ∈ listed) :
    Inv { (state.writeRows session items fun id item => buried (answered reply id item)).go session
      .committing with listed } := by
  refine ⟨?_, ?_, ?_, ?_, ?_⟩
  · intro id
    simp only [SyncState.go, SyncState.writeRows]
    split <;> exact inv.settled id
  · intro id completed
    apply more
    apply inv.completed id
    simp only [SyncState.go, SyncState.writeRows] at completed
    split at completed <;> exact completed
  · intro id writer item
    simp only [SyncState.go, SyncState.writeRows]
    split
    next member =>
      rintro ⟨⟩
      obtain ⟨before, writing⟩ := inv.held session items sending id member
      refine ⟨(inv.written id session before writing).1, ?_⟩
      simp only [↓reduceIte]
      refine ⟨answered_settled reply id _ asked, fun completed => ?_⟩
      obtain ⟨ids, processed, here⟩ := answered_completed reply id _ asked completed
      exact acknowledged ids processed id here
    next other =>
      intro writing
      obtain ⟨known, written⟩ := inv.written id writer item writing
      have different : writer ≠ session := by
        rintro rfl
        rw [sending] at written
        exact other written.1
      refine ⟨known, ?_⟩
      simp only [if_neg different]
      cases stage : state.drain writer <;> rw [stage] at written <;>
        first | exact written | exact ⟨written.1, fun completed => more id (written.2 completed)⟩
  · intro writer others isSending id member
    have different : writer ≠ session := by
      rintro rfl
      simp [SyncState.go] at isSending
    obtain ⟨item, writing⟩ := inv.held writer others
      (by simpa [SyncState.go, SyncState.writeRows, different] using isSending) id member
    have apart : id ∉ items := fun mine => by
      obtain ⟨own, ownWriting⟩ := inv.held session items sending id mine
      rw [ownWriting] at writing
      cases writing
      exact different rfl
    exact ⟨item, by simpa only [SyncState.go, SyncState.writeRows, if_neg apart] using writing⟩
  · intro writer others isClaiming
    have different : writer ≠ session := by
      rintro rfl
      simp [SyncState.go] at isClaiming
    exact inv.known writer others
      (by simpa [SyncState.go, SyncState.writeRows, different] using isClaiming)

theorem Inv.answer (inv : Inv state) (session : Nat) (reply : ParentAnswer) :
    Inv (state.answer session reply) := by
  unfold SyncState.answer
  split
  next items sending =>
    cases reply with
    | raised => exact inv.abandon session
    | processed ids =>
      apply inv.marked sending (.processed ids) (by simp)
      · exact fun id before => List.mem_append_right ids before
      · rintro _ ⟨⟩ id here
        exact List.mem_append_left _ here
    | refused statusCode =>
      exact inv.marked sending (.refused statusCode) (by simp) state.listed (fun _ => id) (by simp)
    | requestException error =>
      exact inv.marked sending (.requestException error) (by simp) state.listed (fun _ => id)
        (by simp)
  · exact inv

theorem Inv.commit (inv : Inv state) (session : Nat) : Inv (state.commit session) := by
  unfold SyncState.commit
  split
  next committing =>
    have result (id : String) : ((state.row id).commit session).committed =
        (state.row id).committed ∨ ∃ item, (state.row id).writing = some (session, item) ∧
          ((state.row id).commit session).committed = item := by
      cases writing : (state.row id).writing with
      | none => exact .inl (seen_of_none writing)
      | some written =>
        obtain ⟨writer, item⟩ := written
        by_cases own : writer = session
        · exact .inr ⟨item, own ▸ rfl, seen_of_written (own ▸ writing)⟩
        · simp [Row.seen, writing, own]
    apply inv.ends session
    · exact fun id => (state.row id).writing_commit session
    · intro id
      rcases result id with same | ⟨item, writing, same⟩
      · rw [same]
        exact inv.settled id
      · rw [same]
        have written := (inv.written id session item writing).2
        rw [committing] at written
        exact written.1
    · intro id
      rcases result id with same | ⟨item, writing, same⟩
      · rw [same]
        exact inv.completed id
      · rw [same]
        have written := (inv.written id session item writing).2
        rw [committing] at written
        exact written.2
  next => exact inv

theorem Inv.step (inv : Inv state) (event : SyncEvent) : Inv (state.step event) := by
  cases event with
  | enqueue id nodeId operationType payload => exact inv.enqueue id nodeId operationType payload
  | begin session nodeId => exact inv.begin session nodeId
  | adopt session => exact inv.adopt session
  | select session batchSize => exact inv.select session batchSize
  | claim session => exact inv.claim session
  | fetch session => exact inv.fetch session
  | answer session reply => exact inv.answer session reply
  | commit session => exact inv.commit session
  | abandon session => exact inv.abandon session

/-- Whatever the drains of a queue do and however they end, every committed item can be told
from its status to be done with, claimed or up for the next drain, no two drains send one
item at a time, and only listed items are completed. -/
theorem drains_keep_queue_safe (run : List SyncEvent) :
    Always SyncState.step Safe SyncState.opened run := by
  apply always_of_invariant SyncState.step Inv Safe (fun _ _ => True)
  · intro state event inv _
    exact inv.step event
  · exact fun state inv => inv.safe
  · exact Inv.opened
  · exact along_of_forall SyncState.step (fun _ => True) run (fun _ _ => trivial) SyncState.opened

end SyncState
end Hartos.Sync
