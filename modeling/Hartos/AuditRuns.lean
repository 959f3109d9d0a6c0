import Hartos.AuditCalls

/-!
The committed log over every interleaving of calls, commits, rollbacks and database errors: when
its chain stays whole, and when no event of committed work is missing from it.
-/
namespace Hartos.AuditLog
open StepSystem

section Tables
variable {table rows : List Entry} {entry : Entry}

theorem insertById_last (above : ∀ row ∈ table, row.id < entry.id) :
    insertById entry table = table ++ [entry] := by
  induction table with
  | nil => rfl
  | cons row rest ih =>
    have below := above row List.mem_cons_self
    rw [insertById, if_neg (Nat.lt_asymm below), ih fun other member =>
      above other (List.mem_cons_of_mem row member)]
    rfl

theorem ordered_snoc (ordered : Ordered table) (above : ∀ row ∈ table, row.id < entry.id) :
    Ordered (table ++ [entry]) := by
  apply List.pairwise_append.mpr
  refine ⟨ordered, List.pairwise_singleton _ _, ?_⟩
  intro row member other last
  rw [List.mem_singleton.mp last]
  exact above row member

theorem merge_ordered (ordered : Ordered (table ++ rows)) : merge table rows = table ++ rows := by
  induction rows generalizing table with
  | nil => exact (List.append_nil table).symm
  | cons row rest ih =>
    have above : ∀ other ∈ table, other.id < row.id := fun other member =>
      (List.pairwise_append.mp ordered).2.2 other member row List.mem_cons_self
    have moved : Ordered ((table ++ [row]) ++ rest) := by
      rw [List.append_assoc]
      exact ordered
    calc merge table (row :: rest)
        = merge (insertById row table) rest := rfl
      _ = merge (table ++ [row]) rest := by rw [insertById_last above]
      _ = (table ++ [row]) ++ rest := ih moved
      _ = table ++ row :: rest := List.append_assoc table [row] rest

variable {sha256 : String → String} {prevHash : String}

theorem lastHash_append :
    lastHash prevHash (table ++ rows) = lastHash (lastHash prevHash table) rows :=
  List.foldl_append

/-- A row that has the hash expected after the last one. -/
theorem chained_snoc (chained : Chained sha256 prevHash table)
    (follows : entry.entryHash = entry.expected sha256 (lastHash prevHash table)) :
    Chained sha256 prevHash (table ++ [entry]) := by
  apply chained_append.mpr
  refine ⟨chained, ?_⟩
  simp [Chained, chainBreak, follows]

theorem verifyChain_chained (chained : Chained sha256 "genesis" table) (limit : Nat) :
    (verifyChain sha256 table limit).1 = true := by
  have parts := chained
  rw [← List.take_append_drop limit table] at parts
  have start : chainBreak sha256 "genesis" (table.take limit) = none := (chained_append.mp parts).1
  simp only [verifyChain, start]
  split_ifs <;> rfl

end Tables

section Runs
variable {Session : Type}

def Recorded (log : List Entry) (call : Call Session) : Prop := ∃ id, call.entry id ∈ log

def Quiet (s : State Session) : Prop :=
  s.call = none ∧ ∀ session, (s.work session).rows = [] ∧ (s.work session).logged = []

def Complete (useDb : Bool) (sha256 : String → String) (s : State Session) : Prop :=
  Quiet s → (∀ limit, (verifyChain sha256 (s.getEntries useDb true) limit).1 = true) ∧
    ∀ call ∈ s.owed, Recorded (s.getEntries useDb true) call

/-- The head is read, or the fallback's tail is the head; nothing is committed between the read of
the head and the commit of what was chained onto it; an own session fails only when it may try
again. -/
def Undisturbed (useDb : Bool) (s : State Session) : Event Session → Prop
  | .logEvent _ session readable => useDb = true → readable = true ∨
      lastHash "genesis" s.memory = lastHash "genesis" (s.view session)
  | .insert _ => ∀ call ∈ s.call, call.session = none → call.base = s.committed.length
  | .insertFails error => ∀ call ∈ s.call, call.session = none →
      isBusy error = true ∧ 1 < call.attempts
  | .commit session =>
      (s.work session).rows ≠ [] → (s.work session).base = s.committed.length
  | .remember | .rollback _ => True

instance decidableUndisturbed [DecidableEq Session] (useDb : Bool) (s : State Session) :
    (event : Event Session) → Decidable (Undisturbed useDb s event)
  | .logEvent _ _ _ => inferInstanceAs (Decidable (_ → _ ∨ _))
  | .insert _ => inferInstanceAs (Decidable (∀ call ∈ s.call, _ → _))
  | .insertFails _ => inferInstanceAs (Decidable (∀ call ∈ s.call, _ → _ ∧ _))
  | .commit _ => inferInstanceAs (Decidable (_ → _))
  | .remember => inferInstanceAs (Decidable True)
  | .rollback _ => inferInstanceAs (Decidable True)

structure Continues (sha256 : String → String) (committed : List Entry) (work : Work Session) :
    Prop where
  past : work.base ≤ committed.length
  ordered : work.base = committed.length → Ordered (committed ++ work.rows)
  chained : work.base = committed.length → Chained sha256 (lastHash "genesis" committed) work.rows

structure Reading (sha256 : String → String) (s : State Session) (call : Call Session) : Prop where
  past : call.base ≤ s.committed.length
  since : ∀ session, call.session = some session → (s.work session).rows ≠ [] →
    (s.work session).base ≤ call.base
  hashed : call.entryHash = (call.entry 0).expected sha256 call.prevHash
  once : ∀ session, call.session = some session → call.attempts ≤ 1
  tried : call.attempts = 0 → ∃ session, call.session = some session ∧
    (s.work session).usable = false
  head : call.attempts ≠ 0 → call.base = s.committed.length →
    call.prevHash = lastHash "genesis" (s.view call.session)

structure Inv (sha256 : String → String) (s : State Session) : Prop where
  ordered : Ordered s.committed
  chained : Chained sha256 "genesis" s.committed
  reading : ∀ call ∈ s.call, Reading sha256 s call
  works : ∀ session, (s.work session).rows ≠ [] →
    Continues sha256 s.committed (s.work session)
  logged : ∀ session, (s.work session).usable = true → ∀ call ∈ (s.work session).logged,
    Recorded (s.work session).rows call
  owed : ∀ call ∈ s.owed, Recorded s.committed call

section Database
variable {sha256 : String → String} {s : State Session}

theorem Recorded.append {log rows : List Entry} {call : Call Session} (there : Recorded log call) :
    Recorded (log ++ rows) call := by
  obtain ⟨id, member⟩ := there
  exact ⟨id, List.mem_append_left rows member⟩

theorem Reading.follows {call : Call Session} (reading : Reading sha256 s call) (id : Nat)
    {prevHash : String} (head : call.prevHash = prevHash) :
    (call.entry id).entryHash = (call.entry id).expected sha256 prevHash :=
  head ▸ reading.hashed

/-- With more rows committed, what was read before is out of date. -/
theorem Continues.grown {committed more : List Entry} {work : Work Session}
    (continues : Continues sha256 committed work) (longer : committed.length < more.length) :
    Continues sha256 more work := by
  have past := continues.past
  exact ⟨by omega, fun same => by omega, fun same => by omega⟩

theorem inv_begin (inv : Inv sha256 s) (request : Request) (session : Option Session)
    (readable : Bool) (read : readable = true ∨
      lastHash "genesis" s.memory = lastHash "genesis" (s.view session)) :
    Inv sha256 (s.begin true sha256 request session readable) := by
  have head : s.getLastHash true session readable = lastHash "genesis" (s.view session) := by
    unfold State.getLastHash
    rcases read with yes | same
    · rw [if_pos ⟨rfl, yes⟩]
    · split_ifs
      · rfl
      · exact same
  refine ⟨inv.ordered, inv.chained, ?_, inv.works, inv.logged, inv.owed⟩
  intro call found
  rw [← Option.some.inj found]
  exact {
    past := le_rfl
    since := fun other _ some => (inv.works other some).past
    hashed := rfl
    once := by
      intro other borrowed
      change session = some other at borrowed
      simp [attemptsOf, borrowed]
    tried := by
      intro none
      simp only [attemptsOf, ↓reduceIte] at none
      split_ifs at none
    head := fun _ _ => head }

variable [DecidableEq Session]

@[simp] theorem put_work_self (session : Session) (work : Work Session) :
    (s.put session work).work session = work := by
  simp [State.put]

theorem put_work_of_ne {session other : Session} (apart : other ≠ session) (work : Work Session) :
    (s.put session work).work other = s.work other := by
  simp [State.put, apart]

section Adding
variable {call : Call Session} {id : Nat}

omit [DecidableEq Session] in
theorem above_of_insertable (fits : s.insertable call id = true) :
    call.attempts ≠ 0 ∧ ∀ row ∈ s.view call.session, row.id < (call.entry id).id := by
  simp only [State.insertable, Bool.and_eq_true, decide_eq_true_eq, List.all_eq_true] at fits
  exact ⟨fits.1, fun row member => (fits.2 row member).1⟩

theorem inv_add_own (inv : Inv sha256 s) (busy : s.call = some call)
    (fits : s.insertable call id = true) (own : call.session = none)
    (same : call.base = s.committed.length) : Inv sha256 (s.add call id) := by
  have reading := inv.reading call busy
  obtain ⟨attempts, above⟩ := above_of_insertable fits
  have head := reading.head attempts same
  simp only [own, State.view] at above head
  have table : insertById (call.entry id) s.committed = s.committed ++ [call.entry id] :=
    insertById_last above
  have longer : s.committed.length < (s.committed ++ [call.entry id]).length := by simp
  simp only [State.add, own, table]
  refine ⟨ordered_snoc inv.ordered above, ?_, by simp, ?_, inv.logged, ?_⟩
  · exact chained_snoc inv.chained (reading.follows id head)
  · intro session some
    exact (inv.works session some).grown longer
  · intro other member
    rcases List.mem_append.mp member with before | new
    · exact (inv.owed other before).append
    · rw [List.mem_singleton.mp new]
      exact ⟨id, List.mem_append_right _ (List.mem_singleton_self _)⟩

omit [DecidableEq Session] in
theorem continues_add (inv : Inv sha256 s) (busy : s.call = some call)
    (fits : s.insertable call id = true) {session : Session} (borrowed : call.session = some session) :
    Continues sha256 s.committed
      { rows := (s.work session).rows ++ [call.entry id]
        logged := (s.work session).logged ++ [call]
        usable := true
        base := if (s.work session).rows = [] then call.base else (s.work session).base } := by
  have reading := inv.reading call busy
  obtain ⟨attempts, above⟩ := above_of_insertable fits
  have head := reading.head attempts
  have past := reading.past
  simp only [borrowed, State.view] at above head
  by_cases empty : (s.work session).rows = []
  · simp only [empty, ↓reduceIte, List.nil_append]
    rw [empty] at above head
    refine ⟨past, fun same => ordered_snoc inv.ordered above, fun same => ?_⟩
    exact @chained_snoc [] _ sha256 _ rfl (reading.follows id (head same))
  · have continues := inv.works session empty
    have since := reading.since session borrowed empty
    simp only [empty, ↓reduceIte]
    refine ⟨continues.past, fun same => ?_, fun same => ?_⟩
    all_goals
      have ordered := continues.ordered same
      rw [merge_ordered ordered] at above head
    · rw [← List.append_assoc]
      exact ordered_snoc ordered above
    · have now : call.base = s.committed.length := past.antisymm (same.ge.trans since)
      apply chained_snoc (continues.chained same)
      exact reading.follows id ((head now).trans lastHash_append)

theorem inv_add_borrowed (inv : Inv sha256 s) (busy : s.call = some call)
    (fits : s.insertable call id = true) {session : Session}
    (borrowed : call.session = some session) : Inv sha256 (s.add call id) := by
  simp only [State.add, borrowed]
  by_cases usable : (s.work session).usable = true
  · rw [if_pos usable]
    refine ⟨inv.ordered, inv.chained, by simp [State.put], ?_, ?_, inv.owed⟩
    · intro other some
      by_cases same : other = session
      · subst same
        rw [put_work_self]
        exact continues_add inv busy fits borrowed
      · rw [put_work_of_ne same] at some ⊢
        exact inv.works other some
    · intro other usable' call' member
      by_cases same : other = session
      · subst same
        rw [put_work_self] at member ⊢
        rcases List.mem_append.mp member with before | new
        · exact (inv.logged other usable call' before).append
        · rw [List.mem_singleton.mp new]
          exact ⟨id, List.mem_append_right _ (List.mem_singleton_self _)⟩
      · rw [put_work_of_ne same] at usable' member ⊢
        exact inv.logged other usable' call' member
  · rw [if_neg usable]
    exact inv

end Adding

section Leaving
variable {call : Call Session}

def Later (s s' : State Session) : Prop :=
  s'.committed = s.committed ∨ s.committed.length < s'.committed.length

omit [DecidableEq Session] in
/-- A step that is not of the call's own session leaves what the call read, or makes it out of
date. -/
theorem Reading.later {s' : State Session} (reading : Reading sha256 s call) (later : Later s s')
    (others : ∀ session, call.session = some session → s'.work session = s.work session) :
    Reading sha256 s' call where
  past := by
    rcases later with same | longer
    · rw [same]
      exact reading.past
    · exact reading.past.trans longer.le
  since session borrowed some := by
    rw [others session borrowed] at some ⊢
    exact reading.since session borrowed some
  hashed := reading.hashed
  once := reading.once
  tried out := by
    obtain ⟨session, borrowed, broken⟩ := reading.tried out
    exact ⟨session, borrowed, (others session borrowed).symm ▸ broken⟩
  head left same := by
    rcases later with table | longer
    · have view : s'.view call.session = s.view call.session := by
        cases borrowed : call.session with
        | none => exact table
        | some session => simp only [State.view, table, others session borrowed]
      rw [view]
      exact reading.head left (same.trans (congrArg _ table))
    · have past := reading.past
      omega

omit [DecidableEq Session] in
theorem Reading.retried (reading : Reading sha256 s call) {error : String}
    (own : call.session = none) (locked : isBusy error = true) (more : 1 < call.attempts) :
    Reading sha256 s (call.retried error) where
  past := reading.past
  since := reading.since
  hashed := reading.hashed
  once session borrowed := absurd (own.symm.trans borrowed) (by simp)
  tried out := by
    simp only [Call.retried, locked, more, and_self, ↓reduceIte] at out
    omega
  head _ := reading.head (by omega)

section

variable (inv : Inv sha256 s) (busy : s.call = some call)
include inv busy

theorem inv_refuse_own {error : String} (own : call.session = none) (locked : isBusy error = true)
    (more : 1 < call.attempts) : Inv sha256 (s.refuse call error) := by
  have reading := inv.reading call busy
  simp only [State.refuse, own]
  refine ⟨inv.ordered, inv.chained, ?_, inv.works, inv.logged, inv.owed⟩
  intro left found
  rw [← Option.some.inj found]
  exact (reading.retried own locked more).later (Or.inl rfl) fun _ _ => rfl

theorem inv_refuse_borrowed (error : String) {session : Session}
    (borrowed : call.session = some session) : Inv sha256 (s.refuse call error) := by
  have reading := inv.reading call busy
  have last := reading.once session borrowed
  have ended : (call.retried error).attempts = 0 := if_neg fun both => absurd both.2 (by omega)
  simp only [State.refuse, borrowed]
  refine ⟨inv.ordered, inv.chained, ?_, ?_, ?_, inv.owed⟩
  · intro left found
    rw [← Option.some.inj found]
    exact {
      past := reading.past
      since := by
        intro other same
        rw [Option.some.inj (same.symm.trans borrowed), put_work_self]
        exact fun some => absurd rfl some
      hashed := reading.hashed
      once := fun _ _ => ended.le.trans (Nat.zero_le 1)
      tried := fun _ => ⟨session, borrowed, by rw [put_work_self]⟩
      head := fun left => absurd ended left }
  · intro other some
    by_cases same : other = session
    · rw [same, put_work_self] at some
      exact absurd rfl some
    · rw [put_work_of_ne same] at some ⊢
      exact inv.works other some
  · intro other usable call' member
    by_cases same : other = session
    · rw [same, put_work_self] at usable
      cases usable
    · rw [put_work_of_ne same] at usable member ⊢
      exact inv.logged other usable call' member

theorem inv_keepInMemory (out : call.attempts = 0) : Inv sha256 (s.keepInMemory call) := by
  obtain ⟨session, borrowed, broken⟩ := (inv.reading call busy).tried out
  simp only [State.keepInMemory, borrowed]
  refine ⟨inv.ordered, inv.chained, by simp [State.put], ?_, ?_, inv.owed⟩
  · intro other some
    by_cases same : other = session
    · subst same
      rw [put_work_self] at some ⊢
      have continues := inv.works other some
      exact ⟨continues.past, continues.ordered, continues.chained⟩
    · rw [put_work_of_ne same] at some ⊢
      exact inv.works other some
  · intro other usable call' member
    by_cases same : other = session
    · rw [same, put_work_self] at usable
      exact absurd (usable.symm.trans broken) (by simp)
    · rw [put_work_of_ne same] at usable member ⊢
      exact inv.logged other usable call' member

end

end Leaving

/-- A transaction that ends, whatever it leaves committed. -/
theorem inv_end (inv : Inv sha256 s) {session : Session} (free : s.free session = true)
    {committed : List Entry} {owed : List (Call Session)}
    (later : committed = s.committed ∨ s.committed.length < committed.length)
    (ordered : Ordered committed) (chained : Chained sha256 "genesis" committed)
    (recorded : ∀ call ∈ owed, Recorded committed call) :
    Inv sha256 ({ s with committed := committed, owed := owed }.put session Work.fresh) := by
  have after : Later s ({ s with committed := committed, owed := owed }.put session Work.fresh) :=
    later
  refine ⟨ordered, chained, ?_, ?_, ?_, recorded⟩
  · intro call busy
    apply (inv.reading call busy).later after
    intro other borrowed
    apply put_work_of_ne
    rintro rfl
    have busy' : s.call = some call := busy
    simp [State.free, busy', borrowed] at free
  · intro other some
    by_cases same : other = session
    · rw [same, put_work_self] at some
      exact absurd rfl some
    · rw [put_work_of_ne same] at some ⊢
      rcases later with table | longer
      · rw [table]
        exact inv.works other some
      · exact (inv.works other some).grown longer
  · intro other usable call member
    by_cases same : other = session
    · rw [same, put_work_self] at member
      cases member
    · rw [put_work_of_ne same] at usable member ⊢
      exact inv.logged other usable call member

theorem inv_commit (inv : Inv sha256 s) {session : Session} (free : s.free session = true)
    (usable : (s.work session).usable = true)
    (same : (s.work session).rows ≠ [] → (s.work session).base = s.committed.length) :
    Inv sha256 ({ s with
      committed := merge s.committed (s.work session).rows
      owed := s.owed ++ (s.work session).logged }.put session Work.fresh) := by
  have logged := inv.logged session usable
  by_cases empty : (s.work session).rows = []
  · rw [empty] at logged ⊢
    apply inv_end inv free (Or.inl rfl) inv.ordered inv.chained
    intro call member
    rcases List.mem_append.mp member with before | new
    · exact inv.owed call before
    · obtain ⟨id, impossible⟩ := logged call new
      cases impossible
  · have continues := inv.works session empty
    have ordered := continues.ordered (same empty)
    have longer : s.committed.length < (s.committed ++ (s.work session).rows).length := by
      rw [List.length_append]
      exact Nat.lt_add_of_pos_right (List.length_pos_of_ne_nil empty)
    rw [merge_ordered ordered]
    apply inv_end inv free (Or.inr longer) ordered
    · exact chained_append.mpr ⟨inv.chained, continues.chained (same empty)⟩
    · intro call member
      rcases List.mem_append.mp member with before | new
      · exact (inv.owed call before).append
      · obtain ⟨id, there⟩ := logged call new
        exact ⟨id, List.mem_append_right _ there⟩

theorem inv_step (inv : Inv sha256 s) (event : Event Session)
    (undisturbed : Undisturbed true s event) : Inv sha256 (step true s sha256 event) := by
  cases event with
  | logEvent request session readable =>
    simp only [step]
    split_ifs
    · exact inv
    · exact inv_begin inv request session readable (undisturbed rfl)
  | insert id =>
    cases busy : s.call with
    | none => simpa only [step, busy] using inv
    | some call =>
      simp only [step, busy]
      split_ifs with fits
      · cases borrowed : call.session with
        | none => exact inv_add_own inv busy fits borrowed (undisturbed call busy borrowed)
        | some session => exact inv_add_borrowed inv busy fits borrowed
      · exact inv
  | insertFails error =>
    cases busy : s.call with
    | none => simpa only [step, busy] using inv
    | some call =>
      simp only [step, busy]
      split_ifs
      · exact inv
      · cases borrowed : call.session with
        | none =>
          obtain ⟨locked, more⟩ := undisturbed call busy borrowed
          exact inv_refuse_own inv busy borrowed locked more
        | some session => exact inv_refuse_borrowed inv busy error borrowed
  | remember =>
    cases busy : s.call with
    | none => simpa only [step, busy] using inv
    | some call =>
      simp only [step, busy]
      split_ifs with out
      · exact inv_keepInMemory inv busy out
      · exact inv
  | commit session =>
    simp only [step]
    split_ifs with possible
    · exact inv_commit inv possible.1 possible.2 undisturbed
    · exact inv
  | rollback session =>
    simp only [step]
    split_ifs with free
    · exact inv_end inv free (Or.inl rfl) inv.ordered inv.chained inv.owed
    · exact inv

omit [DecidableEq Session] in
theorem complete_of_inv (inv : Inv sha256 s) : Complete true sha256 s :=
  fun _ => ⟨verifyChain_chained inv.chained, inv.owed⟩

end Database

structure InMemory (sha256 : String → String) (s : State Session) : Prop where
  chained : Chained sha256 "genesis" s.memory
  waiting : ∀ call ∈ s.call, call.attempts = 0
  reading : ∀ call ∈ s.call, ∀ id, (call.entry id).entryHash =
    (call.entry id).expected sha256 (lastHash "genesis" s.memory)
  logged : ∀ session, ∀ call ∈ (s.work session).logged, Recorded s.memory call
  owed : ∀ call ∈ s.owed, Recorded s.memory call

section Memory
variable [DecidableEq Session] {sha256 : String → String} {s : State Session}

omit [DecidableEq Session] in
theorem inMemory_begin (held : InMemory sha256 s) (request : Request) (session : Option Session)
    (readable : Bool) : InMemory sha256 (s.begin false sha256 request session readable) where
  chained := held.chained
  waiting call found := by
    rw [← Option.some.inj found]
    rfl
  reading call found id := by
    rw [← Option.some.inj found]
    rfl
  logged := held.logged
  owed := held.owed

theorem inMemory_keep (held : InMemory sha256 s) {call : Call Session} (busy : s.call = some call) :
    InMemory sha256 (s.keepInMemory call) := by
  let id := s.memory.length + 1
  have there : Recorded (s.memory ++ [call.entry id]) call :=
    ⟨id, List.mem_append_right _ (List.mem_singleton_self _)⟩
  have chained := chained_snoc held.chained (held.reading call busy id)
  have snoc : ∀ calls : List (Call Session), (∀ other ∈ calls, Recorded s.memory other) →
      ∀ other ∈ calls ++ [call], Recorded (s.memory ++ [call.entry id]) other := by
    intro calls recorded other member
    rcases List.mem_append.mp member with before | new
    · exact (recorded other before).append
    · rw [List.mem_singleton.mp new]
      exact there
  cases borrowed : call.session with
  | none =>
    simp only [State.keepInMemory, borrowed]
    exact {
      chained := chained
      waiting := by simp
      reading := by simp
      logged := fun session other member => (held.logged session other member).append
      owed := snoc s.owed held.owed }
  | some session =>
    simp only [State.keepInMemory, borrowed]
    exact {
      chained := chained
      waiting := by simp [State.put]
      reading := by simp [State.put]
      logged := by
        intro other
        by_cases same : other = session
        · rw [same, put_work_self]
          exact snoc _ (held.logged session)
        · rw [put_work_of_ne same]
          exact fun call' member => (held.logged other call' member).append
      owed := fun other member => (held.owed other member).append }

theorem inMemory_end (held : InMemory sha256 s) (session : Session) (committed : List Entry)
    {owed : List (Call Session)} (recorded : ∀ call ∈ owed, Recorded s.memory call) :
    InMemory sha256 ({ s with committed := committed, owed := owed }.put session Work.fresh) where
  chained := held.chained
  waiting := held.waiting
  reading := held.reading
  logged other := by
    by_cases same : other = session
    · rw [same, put_work_self]
      simp [Work.fresh]
    · rw [put_work_of_ne same]
      exact held.logged other
  owed := recorded

theorem inMemory_step (held : InMemory sha256 s) (event : Event Session) :
    InMemory sha256 (step false s sha256 event) := by
  cases event with
  | logEvent request session readable =>
    simp only [step]
    split_ifs
    · exact held
    · exact inMemory_begin held request session readable
  | insert id =>
    cases busy : s.call with
    | none => simpa only [step, busy] using held
    | some call =>
      have refused : s.insertable call id = false := by
        simp [State.insertable, held.waiting call busy]
      simpa only [step, busy, refused, Bool.false_eq_true, ↓reduceIte] using held
  | insertFails error =>
    cases busy : s.call with
    | none => simpa only [step, busy] using held
    | some call => simpa only [step, busy, held.waiting call busy, ↓reduceIte] using held
  | remember =>
    cases busy : s.call with
    | none => simpa only [step, busy] using held
    | some call =>
      simp only [step, busy, held.waiting call busy, ↓reduceIte]
      exact inMemory_keep held busy
  | commit session =>
    simp only [step]
    split_ifs
    · apply inMemory_end held
      intro call member
      rcases List.mem_append.mp member with before | new
      · exact held.owed call before
      · exact held.logged session call new
    · exact held
  | rollback session =>
    simp only [step]
    split_ifs
    · exact inMemory_end held session s.committed held.owed
    · exact held

omit [DecidableEq Session] in
theorem complete_of_inMemory (held : InMemory sha256 s) : Complete false sha256 s :=
  fun _ => ⟨verifyChain_chained held.chained, held.owed⟩

end Memory

section Whole
variable [DecidableEq Session]

/-- From a valid table on, as long as nothing comes between the read of a head and the commit of
what follows it, and no own session gives up. -/
theorem quiet_log_complete (sha256 : String → String) (useDb : Bool) (table : List Entry)
    (ordered : Ordered table) (chained : Chained sha256 "genesis" table)
    (run : List (Event Session))
    (undisturbed : Along (fun s event => step useDb s sha256 event) (Undisturbed useDb)
      (State.init table) run) :
    Always (fun s event => step useDb s sha256 event) (Complete useDb sha256)
      (State.init table) run := by
  cases useDb with
  | true =>
    have start : Inv sha256 (State.init table : State Session) := {
      ordered := ordered
      chained := chained
      reading := by simp [State.init]
      works := fun _ some => absurd rfl some
      logged := by simp [State.init, Work.fresh]
      owed := by simp [State.init] }
    exact always_of_invariant _ (Inv sha256) _ _ (fun _ event inv => inv_step inv event)
      (fun _ => complete_of_inv) run _ start undisturbed
  | false =>
    have start : InMemory sha256 (State.init table : State Session) := {
      chained := rfl
      waiting := by simp [State.init]
      reading := by simp [State.init]
      logged := by simp [State.init, Work.fresh]
      owed := by simp [State.init] }
    exact always_of_invariant _ (InMemory sha256) _ _ (fun _ event held _ =>
      inMemory_step held event) (fun _ => complete_of_inMemory) run _ start undisturbed

end Whole

/-! A transaction that logs and commits, and one whose commit comes between the tries of
another call. -/

def sampleRequest (action : String) : Request := ⟨"auth", "u", none, action, none, "t"⟩

def busyError : String := "(sqlite3.OperationalError) database is locked"

def borrowedRun : List (Event Unit) :=
  [.logEvent (sampleRequest "in") (some ()) true, .insert 1, .commit (),
    .logEvent (sampleRequest "out") none true, .insertFails busyError, .insert 2]

def lateRun : List (Event Unit) :=
  [.logEvent (sampleRequest "in") (some ()) true, .insert 1,
    .logEvent (sampleRequest "out") none true, .insertFails busyError, .commit (), .insert 2]

def sampleEnd (run : List (Event Unit)) : State Unit :=
  final (fun s event => step true s sampleDigest event) (State.init []) run

def Idle (s : State Unit) : Prop :=
  s.call = none ∧ (s.work ()).rows = [] ∧ (s.work ()).logged = []

instance decidableIdle (s : State Unit) : Decidable (Idle s) := inferInstanceAs (Decidable (_ ∧ _))

theorem quiet_of_idle {s : State Unit} (idle : Idle s) : Quiet s := ⟨idle.1, fun _ => idle.2⟩

theorem borrowed_complete : Quiet (sampleEnd borrowedRun) ∧
    (sampleEnd borrowedRun).committed.length = 2 ∧
    Always (fun s event => step true s sampleDigest event) (Complete true sampleDigest)
      (State.init []) borrowedRun := by
  have ended : Idle (sampleEnd borrowedRun) ∧ (sampleEnd borrowedRun).committed.length = 2 := by
    decide +kernel
  have complete := quiet_log_complete sampleDigest true [] List.Pairwise.nil rfl borrowedRun
    (by decide +kernel)
  exact ⟨quiet_of_idle ended.1, ended.2, complete⟩

theorem forked_log : ¬ ∀ sha256 : String → String, Digest sha256 →
    ∀ (useDb : Bool) (run : List (Event Unit)),
      Always (fun s event => step useDb s sha256 event) (Complete useDb sha256)
        (State.init []) run := by
  intro valid
  have complete := always_final (valid sampleDigest sampleDigest_digest true lateRun)
  have ended : Idle (sampleEnd lateRun) ∧
      (verifyChain sampleDigest ((sampleEnd lateRun).getEntries true true) 10).1 = false := by
    decide +kernel
  have whole := (complete (quiet_of_idle ended.1)).1 10
  exact absurd (whole.symm.trans ended.2) (by decide)

end Runs

end Hartos.AuditLog
