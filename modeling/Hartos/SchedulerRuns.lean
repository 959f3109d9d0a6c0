import Hartos.LlamaScheduler
import Hartos.StepSystem

/-!
Slots, queue and grants over every interleaving of calls. A daemon promoted from the queue may be
evicted before its call wakes; that call then returns `None` without a timeout.
-/
namespace Hartos.LlamaScheduler
open StepSystem

def holding : List Phase := [.checking, .waiting, .deciding, .returned]

def queueing : List Phase := [.checking, .waiting, .deciding, .refused]

structure Fits (s : Scheduler) (seq : Nat) (req : Req) : Prop where
  unborn : s.next ≤ seq → req.phase = .unborn
  fresh : req.phase = .entered → req.event = false ∧ req.admitted = false
  holds : seq ∈ s.inflight → req.admitted = true ∧ req.phase ∈ holding
  queued : ∀ entry ∈ s.wait, seqOf entry = seq →
    entry = toLex (req.kind.pri, seq) ∧ req.admitted = false ∧ req.event = false ∧
      req.phase ∈ queueing
  refused : req.phase = .refused → req.canceled = true ∧ req.Ended s.now s.ringing
  promoted : req.event = true → req.phase ∈ [.checking, .waiting] → req.admitted = true
  deciding : req.phase = .deciding → req.Ended s.now s.ringing

/-- An entry of the heap whose call has not returned `None`. -/
def Live (s : Scheduler) (entry : Nat ×ₗ Nat) : Prop :=
  entry ∈ s.wait ∧ (s.req (seqOf entry)).canceled = false

structure Inv (s : Scheduler) : Prop where
  fits : ∀ seq, Fits s seq (s.req seq)
  sorted : s.wait.Pairwise (· ≤ ·)
  nodup : s.wait.Nodup
  users : ∀ entry, Live s entry → (s.req (seqOf entry)).kind = .user →
    ∀ other ∈ s.inflight, (s.req other).kind = .user

def Vacant (s : Scheduler) : Prop := s.inflight.card < s.n → ∀ entry, ¬ Live s entry

theorem Req.Ended.mono {req : Req} {now now' : Int} {ringing ringing' : Finset Nat}
    (ended : req.Ended now ringing) (later : now ≤ now') (more : ringing ⊆ ringing') :
    req.Ended now' ringing' := by
  rcases ended with ⟨deadline, named, passed⟩ | ⟨event, named, rung⟩
  · exact .inl ⟨deadline, named, passed.trans later⟩
  · exact .inr ⟨event, named, more rung⟩

section Parts
variable {s s' : Scheduler} {seq : Nat} {req : Req}

theorem setReq_congr {change change' : Req → Req}
    (same : change (s.req seq) = change' (s.req seq)) :
    s.setReq seq change = s.setReq seq change' := by
  rw [Scheduler.setReq, same]
  rfl

/-- A request fits as long as it comes into neither place. -/
theorem Fits.frame (fits : Fits s seq req) (next : s.next ≤ s'.next)
    (slots : seq ∈ s'.inflight → seq ∈ s.inflight)
    (queue : ∀ entry ∈ s'.wait, seqOf entry = seq → entry ∈ s.wait)
    (later : s.now ≤ s'.now) (more : s.ringing ⊆ s'.ringing) : Fits s' seq req where
  unborn above := fits.unborn (next.trans above)
  fresh := fits.fresh
  holds member := fits.holds (slots member)
  queued entry member named := fits.queued entry (queue entry member named) named
  refused refused := ⟨(fits.refused refused).1, (fits.refused refused).2.mono later more⟩
  promoted := fits.promoted
  deciding decides := (fits.deciding decides).mono later more

theorem Inv.entry_eq (inv : Inv s) {entry : Nat ×ₗ Nat} (member : entry ∈ s.wait) :
    entry = toLex ((s.req (seqOf entry)).kind.pri, seqOf entry) :=
  ((inv.fits _).queued entry member rfl).1

theorem Inv.born (inv : Inv s) (seq : Nat) (alive : (s.req seq).phase ≠ .unborn) : seq < s.next := by
  by_contra above
  exact alive ((inv.fits seq).unborn (not_lt.mp above))

theorem Inv.away (inv : Inv s) (seq : Nat) (elsewhere : (s.req seq).phase ∉ holding) : seq ∉ s.inflight :=
  fun member => elsewhere ((inv.fits seq).holds member).2

theorem Inv.apart (inv : Inv s) (seq : Nat) (elsewhere : (s.req seq).phase ∉ queueing) :
    ∀ entry ∈ s.wait, seqOf entry ≠ seq :=
  fun entry member named => elsewhere ((inv.fits seq).queued entry member named).2.2.2

/-- Nothing changes but the clock, the events of turns and the number of slots. -/
theorem Inv.frame (inv : Inv s) (req : s'.req = s.req) (inflight : s'.inflight = s.inflight)
    (wait : s'.wait = s.wait) (next : s'.next = s.next) (later : s.now ≤ s'.now)
    (more : s.ringing ⊆ s'.ringing) : Inv s' where
  fits seq := req ▸ (inv.fits seq).frame next.ge (inflight ▸ id) (fun _ member _ => wait ▸ member)
    later more
  sorted := wait ▸ inv.sorted
  nodup := wait ▸ inv.nodup
  users entry live := by
    rw [req, inflight]
    exact inv.users entry ⟨wait ▸ live.1, req ▸ live.2⟩

theorem Live.of_setReq {change : Req → Req} {entry : Nat ×ₗ Nat}
    (live : Live (s.setReq seq change) entry)
    (canceled : (change (s.req seq)).canceled = false → (s.req seq).canceled = false) :
    Live s entry := by
  refine ⟨live.1, ?_⟩
  have alive := live.2
  by_cases same : seqOf entry = seq
  · rw [same] at alive ⊢
    exact canceled (by simpa [Scheduler.setReq] using alive)
  · simpa [Scheduler.setReq, same] using alive

/-- One request changes, and who is in flight and queued does not. -/
theorem Inv.setReq (inv : Inv s) {change : Req → Req}
    (fits : Fits s seq (change (s.req seq))) (kind : (change (s.req seq)).kind = (s.req seq).kind)
    (canceled : (change (s.req seq)).canceled = false → (s.req seq).canceled = false) :
    Inv (s.setReq seq change) where
  fits other := by
    by_cases same : other = seq
    · subst same
      simp only [Scheduler.setReq, Function.update_self]
      exact fits.frame le_rfl id (fun _ member _ => member) le_rfl (Finset.Subset.refl _)
    · simp only [Scheduler.setReq, Function.update_of_ne same]
      exact (inv.fits other).frame le_rfl id (fun _ member _ => member) le_rfl
        (Finset.Subset.refl _)
  sorted := inv.sorted
  nodup := inv.nodup
  users entry live user other member := by
    have kinds : ∀ other, ((s.setReq seq change).req other).kind = (s.req other).kind := by
      intro other
      by_cases same : other = seq
      · subst same
        simpa [Scheduler.setReq] using kind
      · simp [Scheduler.setReq, same]
    rw [kinds] at user ⊢
    exact inv.users entry (live.of_setReq canceled) user other member

end Parts

section Locked
variable {s : Scheduler} {seq : Nat}

theorem Inv.enterSlot (inv : Inv s) (ready : (s.req seq).phase ∈ holding)
    (apart : ∀ entry ∈ s.wait, seqOf entry ≠ seq)
    (ahead : (s.req seq).kind = .daemon → ∀ entry, Live s entry →
      (s.req (seqOf entry)).kind = .daemon) : Inv (s.admitLocked seq) where
  fits other := by
    by_cases same : other = seq
    · subst same
      have fits := inv.fits other
      simp only [Scheduler.admitLocked, Scheduler.setReq, Function.update_self]
      have started : (s.req other).phase ≠ .entered := fun entered =>
        absurd (entered ▸ ready) (by decide)
      exact ⟨fits.unborn, fun entered => absurd entered started, fun _ => ⟨rfl, ready⟩,
        fun entry member named => absurd named (apart entry member), fits.refused,
        fun _ _ => rfl, fits.deciding⟩
    · simp only [Scheduler.admitLocked, Scheduler.setReq, Function.update_of_ne same]
      refine (inv.fits other).frame le_rfl (fun member => ?_) (fun _ member _ => member) le_rfl
        (Finset.Subset.refl _)
      exact (Finset.mem_insert.mp member).resolve_left same
  sorted := inv.sorted
  nodup := inv.nodup
  users entry live user other member := by
    have unlike : seqOf entry ≠ seq := apart entry live.1
    have alive : Live s entry := ⟨live.1, by
      simpa [Scheduler.admitLocked, Scheduler.setReq, unlike] using live.2⟩
    simp only [Scheduler.admitLocked, Scheduler.setReq, Function.update_of_ne unlike] at user
    by_cases same : other = seq
    · subst same
      simp only [Scheduler.admitLocked, Scheduler.setReq, Function.update_self]
      cases kind : (s.req other).kind with
      | user => rfl
      | daemon => exact absurd ((ahead kind entry alive).symm.trans user) (by decide)
    · simp only [Scheduler.admitLocked, Scheduler.setReq, Function.update_of_ne same]
      exact inv.users entry alive user other ((Finset.mem_insert.mp member).resolve_left same)

theorem Inv.evict (inv : Inv s) (flying : seq ∈ s.inflight)
    (awake : ¬ ((s.req seq).event = true ∧ (s.req seq).phase ∈ [.checking, .waiting])) :
    Inv (s.evictLocked seq) where
  fits other := by
    by_cases same : other = seq
    · subst same
      have fits := inv.fits other
      simp only [Scheduler.evictLocked, Scheduler.setReq, Function.update_self]
      refine ⟨fits.unborn, fun entered => ⟨(fits.fresh entered).1, rfl⟩, ?_, ?_, fits.refused,
        ?_, fits.deciding⟩
      · exact fun member => absurd member (Finset.notMem_erase _ _)
      · intro entry member named
        have queued := (fits.queued entry member named).2.1
        exact absurd ((fits.holds flying).1.symm.trans queued) (by decide)
      · exact fun rung place => absurd ⟨rung, place⟩ awake
    · simp only [Scheduler.evictLocked, Scheduler.setReq, Function.update_of_ne same]
      exact (inv.fits other).frame le_rfl (fun member => Finset.mem_of_mem_erase member)
        (fun _ member _ => member) le_rfl (Finset.Subset.refl _)
  sorted := inv.sorted
  nodup := inv.nodup
  users entry live user other member := by
    have kinds : ∀ other, ((s.evictLocked seq).req other).kind = (s.req other).kind := by
      intro other
      by_cases same : other = seq
      · subst same
        simp [Scheduler.evictLocked, Scheduler.setReq]
      · simp [Scheduler.evictLocked, Scheduler.setReq, same]
    have alive : Live s entry := ⟨live.1, by
      have := live.2
      by_cases same : seqOf entry = seq
      · simpa [Scheduler.evictLocked, Scheduler.setReq, same] using this
      · simpa [Scheduler.evictLocked, Scheduler.setReq, same] using this⟩
    rw [kinds] at user ⊢
    exact inv.users entry alive user other (Finset.mem_of_mem_erase member)

theorem Inv.push (inv : Inv s) (placed : (s.req seq).phase = .checking)
    (plain : (s.req seq).admitted = false ∧ (s.req seq).event = false)
    (apart : ∀ entry ∈ s.wait, seqOf entry ≠ seq)
    (full : (s.req seq).kind = .user → ∀ other ∈ s.inflight, (s.req other).kind = .user) :
    Inv (s.pushWait seq) where
  fits other := by
    refine ⟨(inv.fits other).unborn, (inv.fits other).fresh, (inv.fits other).holds, ?_,
      (inv.fits other).refused, (inv.fits other).promoted, (inv.fits other).deciding⟩
    intro entry member named
    rcases List.mem_orderedInsert _ |>.mp member with rfl | member
    · subst named
      have queues : (s.req seq).phase ∈ queueing := placed ▸ by decide
      exact ⟨rfl, plain.1, plain.2, queues⟩
    · exact (inv.fits other).queued entry member named
  sorted := inv.sorted.orderedInsert _ _
  nodup := by
    refine (List.perm_orderedInsert _ _ _).nodup_iff.mpr (List.nodup_cons.mpr ⟨?_, inv.nodup⟩)
    exact fun member => apart _ member rfl
  users entry live user other member := by
    rcases List.mem_orderedInsert _ |>.mp live.1 with rfl | queued
    · exact full user other member
    · exact inv.users entry ⟨queued, live.2⟩ user other member

theorem Inv.pop (inv : Inv s) {entry : Nat ×ₗ Nat} {rest : List (Nat ×ₗ Nat)}
    (queue : s.wait = entry :: rest) : Inv { s with wait := rest } where
  fits other := (inv.fits other).frame le_rfl id
    (fun _ member _ => queue ▸ List.mem_cons_of_mem entry member) le_rfl (Finset.Subset.refl _)
  sorted := (List.pairwise_cons.mp (queue ▸ inv.sorted)).2
  nodup := (List.nodup_cons.mp (queue ▸ inv.nodup)).2
  users later live := inv.users later ⟨queue ▸ List.mem_cons_of_mem entry live.1, live.2⟩

/-- The head of the queue is admitted and its call is woken. -/
theorem Inv.promoteHead (inv : Inv s) {entry : Nat ×ₗ Nat} {rest : List (Nat ×ₗ Nat)}
    (queue : s.wait = entry :: rest) (alive : (s.req (seqOf entry)).canceled = false) :
    Inv (({ s with wait := rest }.admitLocked (seqOf entry)).setReq (seqOf entry)
      fun req => { req with event := true }) := by
  have member : entry ∈ s.wait := queue ▸ List.mem_cons_self
  obtain ⟨named, plain, silent, place⟩ := (inv.fits _).queued entry member rfl
  have unrefused : (s.req (seqOf entry)).phase ≠ .refused := fun refused =>
    absurd (((inv.fits _).refused refused).1.symm.trans alive) (by decide)
  have ready : (s.req (seqOf entry)).phase ∈ holding := by
    revert place unrefused
    cases (s.req (seqOf entry)).phase <;> decide
  have apart : ∀ later ∈ rest, seqOf later ≠ seqOf entry := by
    intro later inside same
    have both := inv.entry_eq (queue ▸ List.mem_cons_of_mem entry inside : later ∈ s.wait)
    rw [same, ← named] at both
    exact (List.nodup_cons.mp (queue ▸ inv.nodup)).1 (both ▸ inside)
  have admitted := (inv.pop queue).enterSlot ready apart (by
    intro kind later live
    have inside : later ∈ s.wait := queue ▸ List.mem_cons_of_mem entry live.1
    have below := (List.pairwise_cons.mp (queue ▸ inv.sorted)).1 later live.1
    rw [named, inv.entry_eq inside, Prod.Lex.toLex_le_toLex, kind] at below
    cases later : (s.req (seqOf later)).kind with
    | daemon => rfl
    | user => simp [later, Kind.pri] at below)
  refine admitted.setReq ?_ rfl id
  have fits := admitted.fits (seqOf entry)
  simp only [Scheduler.admitLocked, Scheduler.setReq, Function.update_self] at fits ⊢
  refine ⟨fits.unborn, ?_, fits.holds, ?_, fits.refused, fun _ _ => rfl, fits.deciding⟩
  · intro entered
    rw [show (s.req (seqOf entry)).phase = .entered from entered] at ready
    exact absurd ready (by decide)
  · exact fun later inside same => absurd same (apart later inside)

end Locked

structure Promotion (s s' : Scheduler) : Prop where
  slots : s'.n = s.n
  queue : s'.wait <:+ s.wait
  kept : s.inflight ⊆ s'.inflight
  within : s'.inflight ≠ s.inflight → s'.inflight.card ≤ s'.n
  ahead : ∀ seq ∈ s'.inflight, seq ∉ s.inflight → ∃ entry ∈ s.wait, seqOf entry = seq ∧
    ∀ later ∈ s'.wait, entry ≤ later ∧ entry ≠ later
  full : s'.inflight.card < s'.n → s'.wait = []
  same : ∀ seq, (s'.req seq).kind = (s.req seq).kind ∧
    (s'.req seq).canceled = (s.req seq).canceled

section Promotions
variable {s s' : Scheduler} {entry : Nat ×ₗ Nat} {rest : List (Nat ×ₗ Nat)}

theorem Promotion.none (full : s.inflight.card < s.n → s.wait = []) : Promotion s s :=
  ⟨rfl, List.suffix_rfl, Finset.Subset.refl _, fun changed => absurd rfl changed,
    fun _ member fresh => absurd member fresh, full, fun _ => ⟨rfl, rfl⟩⟩

theorem Promotion.pop (queue : s.wait = entry :: rest)
    (promotion : Promotion { s with wait := rest } s') : Promotion s s' where
  slots := promotion.slots
  queue := queue ▸ promotion.queue.trans (List.suffix_cons entry rest)
  kept := promotion.kept
  within := promotion.within
  ahead seq member fresh := by
    obtain ⟨earlier, inside, named, below⟩ := promotion.ahead seq member fresh
    exact ⟨earlier, queue ▸ List.mem_cons_of_mem entry inside, named, below⟩
  full := promotion.full
  same := promotion.same

theorem Promotion.head (inv : Inv s) (queue : s.wait = entry :: rest)
    (room : s.inflight.card < s.n)
    (promotion : Promotion (({ s with wait := rest }.admitLocked (seqOf entry)).setReq
      (seqOf entry) fun req => { req with event := true }) s') : Promotion s s' where
  slots := promotion.slots
  queue := queue ▸ promotion.queue.trans (List.suffix_cons entry rest)
  kept := (Finset.subset_insert _ _).trans promotion.kept
  within _ := by
    by_cases changed : s'.inflight = insert (seqOf entry) s.inflight
    · rw [changed, promotion.slots]
      exact (Finset.card_insert_le _ _).trans room
    · exact promotion.within changed
  ahead seq member fresh := by
    by_cases same : seq = seqOf entry
    · subst same
      refine ⟨entry, queue ▸ List.mem_cons_self, rfl, fun later left => ?_⟩
      have inside : later ∈ rest := promotion.queue.subset left
      refine ⟨(List.pairwise_cons.mp (queue ▸ inv.sorted)).1 later inside, fun equal => ?_⟩
      exact (List.nodup_cons.mp (queue ▸ inv.nodup)).1 (equal ▸ inside)
    · obtain ⟨earlier, inside, named, below⟩ := promotion.ahead seq member
        fun old => fresh ((Finset.mem_insert.mp old).resolve_left same)
      exact ⟨earlier, queue ▸ List.mem_cons_of_mem entry inside, named, below⟩
  full := promotion.full
  same seq := by
    have kept := promotion.same seq
    by_cases same : seq = seqOf entry
    · subst same
      simpa [Scheduler.setReq, Scheduler.admitLocked] using kept
    · simpa [Scheduler.setReq, Scheduler.admitLocked, same] using kept

end Promotions

theorem promoteFrom_spec (entries : List (Nat ×ₗ Nat)) {s : Scheduler} (inv : Inv s)
    (queue : s.wait = entries) :
    Inv (Scheduler.promoteFrom entries s) ∧ Promotion s (Scheduler.promoteFrom entries s) := by
  induction entries generalizing s with
  | nil => exact ⟨inv, .none fun _ => queue⟩
  | cons entry rest ih =>
    simp only [Scheduler.promoteFrom]
    split_ifs with room skipped
    · obtain ⟨kept, promotion⟩ := ih (inv.pop queue) rfl
      exact ⟨kept, promotion.pop queue⟩
    · simp only [Bool.or_eq_true, not_or, Bool.not_eq_true] at skipped
      obtain ⟨kept, promotion⟩ := ih (inv.promoteHead queue skipped.1) rfl
      exact ⟨kept, promotion.head inv queue room⟩
    · exact ⟨inv, .none fun room' => absurd room' room⟩

variable {s : Scheduler} (event : Event)

theorem promoteLocked_spec (inv : Inv s) : Inv s.promoteLocked ∧ Promotion s s.promoteLocked :=
  promoteFrom_spec s.wait inv rfl

theorem Promotion.vacant {s s' : Scheduler} (promotion : Promotion s s') : Vacant s' := by
  intro room entry live
  have queued := live.1
  rw [promotion.full room] at queued
  exact absurd queued List.not_mem_nil

structure Sound (s : Scheduler) : Prop where
  held : ∀ seq ∈ s.inflight, (s.req seq).phase ∈ holding
  vacant : s.inflight.card < s.n → ∀ entry ∈ s.wait, (s.req (seqOf entry)).canceled = true
  users : ∀ entry ∈ s.wait, (s.req (seqOf entry)).canceled = false →
    (s.req (seqOf entry)).kind = .user → ∀ other ∈ s.inflight, (s.req other).kind = .user
  ended : ∀ seq, (s.req seq).phase = .refused → (s.req seq).Ended s.now s.ringing

def Ahead (s : Scheduler) (first second : Nat) : Prop :=
  ((s.req first).kind = .user ∧ (s.req second).kind = .daemon) ∨
    ((s.req first).kind = (s.req second).kind ∧ first < second)

structure Fair (s : Scheduler) (event : Event) (s' : Scheduler) : Prop where
  within : ∀ seq ∈ s'.inflight, seq ∉ s.inflight → s'.inflight.card ≤ s'.n ∨
    ∃ victim ∈ s.inflight, (s.req victim).kind = .daemon ∧
      s'.inflight = insert seq (s.inflight.erase victim)
  order : ∀ seq ∈ s'.inflight, seq ∉ s.inflight → ∀ entry ∈ s.wait, entry ∈ s'.wait →
    (s.req (seqOf entry)).canceled = false → Ahead s seq (seqOf entry)
  evicted : ∀ seq ∈ s.inflight, seq ∉ s'.inflight →
    event = .release seq ∨ (s.req seq).kind = .daemon

def Undisturbed (s : Scheduler) : Event → Prop
  | .enter seq => (s.req seq).phase = .entered → s.n ≤ s.inflight.card →
      ∀ victim ∈ s.victimFor seq,
        ¬ ((s.req victim).event = true ∧ (s.req victim).phase ∈ [.checking, .waiting])
  | .fail seq => (s.req seq).phase ≠ .waiting
  | _ => True

instance decidableUndisturbed (s : Scheduler) : (event : Event) → Decidable (Undisturbed s event)
  | .enter seq => inferInstanceAs (Decidable (_ → _ → ∀ victim ∈ s.victimFor seq, ¬ (_ ∧ _)))
  | .fail _ => inferInstanceAs (Decidable (¬ _))
  | .call .. | .check _ | .wake _ | .giveUp _ | .decide _ | .release _ | .setSlots .. |
    .bindCancel .. | .unbindCancel _ | .cancelTurn _ | .tick _ => inferInstanceAs (Decidable True)

section Steps
variable {s : Scheduler} {seq : Nat}

theorem mem_daemons {other : Nat} :
    other ∈ s.daemons ↔ other ∈ s.inflight ∧ (s.req other).kind = .daemon :=
  Finset.mem_filter

variable {victim : Nat} {s' : Scheduler}

theorem pickDaemonLocked_some (picked : s.pickDaemonLocked = some victim) :
    victim ∈ s.inflight ∧ (s.req victim).kind = .daemon := by
  unfold Scheduler.pickDaemonLocked at picked
  split_ifs at picked with running
  cases picked
  exact mem_daemons.mp (Finset.min'_mem _ running)

theorem pickDaemonLocked_none (picked : s.pickDaemonLocked = none) :
    ∀ other ∈ s.inflight, (s.req other).kind = .user := by
  intro other flying
  unfold Scheduler.pickDaemonLocked at picked
  split_ifs at picked with running
  cases kind : (s.req other).kind with
  | user => rfl
  | daemon => exact absurd ⟨other, mem_daemons.mpr ⟨flying, kind⟩⟩ running

theorem victimFor_some (chosen : s.victimFor seq = some victim) :
    (s.req seq).kind = .user ∧ victim ∈ s.inflight ∧ (s.req victim).kind = .daemon := by
  unfold Scheduler.victimFor at chosen
  split_ifs at chosen with user
  exact ⟨user, pickDaemonLocked_some chosen⟩

theorem victimFor_none (chosen : s.victimFor seq = none) (user : (s.req seq).kind = .user) :
    ∀ other ∈ s.inflight, (s.req other).kind = .user := by
  unfold Scheduler.victimFor at chosen
  rw [if_pos user] at chosen
  exact pickDaemonLocked_none chosen

theorem fair_of_same {event : Event} (same : s'.inflight = s.inflight) :
    Fair s event s' where
  within _ member fresh := absurd (same ▸ member) fresh
  order _ member fresh := absurd (same ▸ member) fresh
  evicted _ member gone := absurd (same ▸ member) gone

theorem Vacant.setReq {change : Req → Req} (vacant : Vacant s)
    (canceled : (change (s.req seq)).canceled = false → (s.req seq).canceled = false) :
    Vacant (s.setReq seq change) :=
  fun room entry live => vacant room entry (live.of_setReq canceled)

theorem enters (inv : Inv s) (entered : (s.req seq).phase = .entered) :
    Inv (s.setReq seq fun req => { req with phase := .checking }) := by
  have fits := inv.fits seq
  have away := inv.away seq (by rw [entered]; decide)
  have apart := inv.apart seq (by rw [entered]; decide)
  refine inv.setReq ⟨?_, nofun, fun member => absurd member away,
    fun entry member named => absurd named (apart entry member), nofun, ?_, nofun⟩ rfl id
  · intro above
    exact absurd ((fits.unborn above).symm.trans entered) (by decide)
  · intro rung
    exact absurd (rung.symm.trans (fits.fresh entered).1) (by decide)

theorem entering_kind (other : Nat) :
    ((s.setReq seq fun req => { req with phase := .checking }).req other).kind =
      (s.req other).kind := by
  by_cases same : other = seq
  · subst same
    simp [Scheduler.setReq]
  · simp [Scheduler.setReq, same]

theorem entering_victim :
    (s.setReq seq fun req => { req with phase := .checking }).victimFor seq = s.victimFor seq := by
  have daemons : (s.setReq seq fun req => { req with phase := .checking }).daemons = s.daemons :=
    Finset.filter_congr fun other _ => by rw [entering_kind]
  simp only [Scheduler.victimFor, Scheduler.pickDaemonLocked, entering_kind, daemons]

theorem Fair.of_entering {event : Event}
    (fair : Fair (s.setReq seq fun req => { req with phase := .checking }) event s') :
    Fair s event s' where
  within other member fresh := by
    obtain count | ⟨victim, flying, daemon, inflight⟩ := fair.within other member fresh
    · exact .inl count
    · exact .inr ⟨victim, flying, entering_kind victim ▸ daemon, inflight⟩
  order other member fresh entry queued left alive := by
    have ahead := fair.order other member fresh entry queued left (by
      by_cases same : seqOf entry = seq
      · simpa [Scheduler.setReq, same] using (same ▸ alive)
      · simpa [Scheduler.setReq, same] using alive)
    unfold Ahead at ahead ⊢
    simpa only [entering_kind] using ahead
  evicted other flying gone := (fair.evicted other flying gone).imp_right fun daemon =>
    entering_kind other ▸ daemon

section Entering
variable (inv : Inv s) (vacant : Vacant s) (placed : (s.req seq).phase = .checking)
variable (away : seq ∉ s.inflight) (apart : ∀ entry ∈ s.wait, seqOf entry ≠ seq)
include inv vacant placed away apart

theorem enter_kept (plain : (s.req seq).admitted = false ∧ (s.req seq).event = false)
    (calm : s.n ≤ s.inflight.card → ∀ victim ∈ s.victimFor seq,
      ¬ ((s.req victim).event = true ∧ (s.req victim).phase ∈ [.checking, .waiting])) :
    Inv (s.enter seq) ∧ Vacant (s.enter seq) := by
  have ready : (s.req seq).phase ∈ holding := placed ▸ by decide
  unfold Scheduler.enter
  split_ifs with room
  · have nobody := vacant room
    refine ⟨inv.enterSlot ready apart fun _ entry live => absurd live (nobody entry), ?_⟩
    intro _ entry live
    have queued : Live (s.setReq seq fun req => { req with admitted := true }) entry := live
    exact nobody entry (queued.of_setReq id)
  · cases chosen : s.victimFor seq with
    | none =>
      refine ⟨inv.push placed plain apart (victimFor_none chosen), ?_⟩
      exact fun room' => absurd room' room
    | some victim =>
      obtain ⟨user, flying, daemon⟩ := victimFor_some chosen
      have other : seq ≠ victim := fun same => away (same ▸ flying)
      have evicted := inv.evict flying (calm (not_lt.mp room) victim chosen)
      have same : (s.evictLocked victim).req seq = s.req seq := by
        simp [Scheduler.evictLocked, Scheduler.setReq, other]
      refine ⟨evicted.enterSlot (same ▸ ready) apart fun kind => ?_, fun room' => ?_⟩
      · rw [same, user] at kind
        cases kind
      · have count : (insert seq (s.inflight.erase victim)).card = s.inflight.card := by
          rw [Finset.card_insert_of_notMem (fun old => away (Finset.mem_of_mem_erase old)),
            Finset.card_erase_add_one flying]
        exact absurd (count ▸ room') room

omit placed away apart in
theorem enter_fair (event : Event) : Fair s event (s.enter seq) := by
  unfold Scheduler.enter
  split_ifs with room
  · refine ⟨fun other member fresh => .inl ?_, fun other member fresh entry queued _ alive => ?_,
      fun other flying gone => absurd (Finset.mem_insert_of_mem flying) gone⟩
    · exact (Finset.card_insert_le _ _).trans room
    · exact absurd ⟨queued, alive⟩ (vacant room entry)
  · cases chosen : s.victimFor seq with
    | none => exact fair_of_same rfl
    | some victim =>
      obtain ⟨user, flying, daemon⟩ := victimFor_some chosen
      have new : ∀ other ∈ insert seq (s.inflight.erase victim), other ∉ s.inflight →
          other = seq := fun other member fresh =>
        (Finset.mem_insert.mp member).resolve_right
          fun old => fresh (Finset.mem_of_mem_erase old)
      refine ⟨fun other member fresh => .inr ⟨victim, flying, daemon, ?_⟩,
        fun other member fresh entry queued _ alive => ?_, fun other member gone => .inr ?_⟩
      · rw [new other member fresh]
        rfl
      · rw [new other member fresh]
        refine .inl ⟨user, ?_⟩
        cases kind : (s.req (seqOf entry)).kind with
        | daemon => rfl
        | user =>
          have users := inv.users entry ⟨queued, alive⟩ kind victim flying
          exact absurd (users.symm.trans daemon) (by decide)
      · have same : other = victim := by
          by_contra another
          exact gone (Finset.mem_insert_of_mem (Finset.mem_erase.mpr ⟨another, member⟩))
        rw [same]
        exact daemon

end Entering

theorem Promotion.fair {s₀ s s' : Scheduler} {event : Event} (promotion : Promotion s s')
    (inv : Inv s) (before : s.inflight ⊆ s₀.inflight)
    (gone : ∀ seq ∈ s₀.inflight, seq ∉ s.inflight → event = .release seq)
    (kinds : ∀ seq, (s.req seq).kind = (s₀.req seq).kind) :
    Fair s₀ event s' where
  within seq member fresh := .inl (promotion.within fun same => fresh (before (same ▸ member)))
  order seq member fresh entry _ left _ := by
    obtain ⟨earlier, inside, named, below⟩ :=
      promotion.ahead seq member fun old => fresh (before old)
    obtain ⟨le, ne⟩ := below entry left
    have lt := lt_of_le_of_ne le ne
    have queued : entry ∈ s.wait := promotion.queue.subset left
    rw [inv.entry_eq inside, inv.entry_eq queued, Prod.Lex.toLex_lt_toLex, named] at lt
    unfold Ahead
    cases first : (s.req seq).kind <;> cases second : (s.req (seqOf entry)).kind <;>
      simp_all [Kind.pri]
  evicted seq member missing := .inl (gone seq member fun kept => missing (promotion.kept kept))

end Steps

section Others
variable {s : Scheduler} {seq : Nat} (inv : Inv s)
include inv

theorem call_kept (vacant : Vacant s) (rid : String) (kind : Kind) (timeout : Option Int) :
    Inv (s.call rid kind timeout) ∧ Vacant (s.call rid kind timeout) := by
  have unborn : (s.req s.next).phase = .unborn := (inv.fits s.next).unborn le_rfl
  have away := inv.away s.next (by rw [unborn]; decide)
  have apart := inv.apart s.next (by rw [unborn]; decide)
  have same : ∀ other, other ≠ s.next → (s.call rid kind timeout).req other = s.req other :=
    fun other unlike => Function.update_of_ne unlike _ _
  have live : ∀ entry, Live (s.call rid kind timeout) entry → Live s entry := fun entry live =>
    ⟨live.1, same (seqOf entry) (apart entry live.1) ▸ live.2⟩
  refine ⟨⟨fun other => ?_, inv.sorted, inv.nodup, fun entry queued user other member => ?_⟩,
    fun room entry queued => vacant room entry (live entry queued)⟩
  · by_cases new : other = s.next
    · subst new
      rw [show (s.call rid kind timeout).req s.next = _ from Function.update_self _ _ _]
      exact ⟨fun above => absurd above (Nat.not_succ_le_self _), fun _ => ⟨rfl, rfl⟩,
        fun member => absurd member away, fun entry member named => absurd named (apart entry member),
        nofun, nofun, nofun⟩
    · rw [same other new]
      exact (inv.fits other).frame (Nat.le_succ _) id (fun _ member _ => member) le_rfl
        (Finset.Subset.refl _)
  · rw [same _ fun new => away (new ▸ member)]
    rw [same _ (apart entry queued.1)] at user
    exact inv.users entry (live entry queued) user other member

theorem returns_kept (started : (s.req seq).phase ∈ [.checking, .waiting, .deciding])
    (admitted : (s.req seq).admitted = true) :
    Inv (s.setReq seq fun req => { req with phase := .returned }) := by
  have fits := inv.fits seq
  have born := inv.born seq fun unborn => absurd (unborn ▸ started) (by decide)
  refine inv.setReq ⟨fun above => absurd born (not_lt.mpr above), nofun,
    fun _ => ⟨admitted, by simp [holding]⟩, fun entry member named => ?_, nofun,
    fun _ _ => admitted, nofun⟩ rfl id
  exact absurd (admitted.symm.trans (fits.queued entry member named).2.1) (by decide)

theorem check_kept (placed : (s.req seq).phase = .checking) : Inv (s.check seq) := by
  by_cases admitted : (s.req seq).admitted = true
  · have same : s.check seq = s.setReq seq fun req => { req with phase := .returned } :=
      setReq_congr (if_pos admitted)
    rw [same]
    exact returns_kept inv (by rw [placed]; decide) admitted
  · have fits := inv.fits seq
    have born := inv.born seq (by rw [placed]; decide)
    have same : s.check seq = s.setReq seq fun req => { req with
        cancelEv := if req.rid = "" then none else s.cancelEvents req.rid
        deadline := req.timeout.map (s.now + ·)
        phase := .waiting } := setReq_congr (if_neg admitted)
    rw [same]
    refine inv.setReq ⟨fun above => absurd born (not_lt.mpr above), nofun,
      fun member => absurd (fits.holds member).1 admitted, fun entry member named => ?_, nofun,
      fun rung _ => fits.promoted rung (by rw [placed]; decide), nofun⟩ rfl id
    obtain ⟨own, plain, silent, _⟩ := fits.queued entry member named
    exact ⟨own, plain, silent, by simp [queueing]⟩

theorem wake_kept (placed : (s.req seq).phase = .waiting) (rung : (s.req seq).event = true) :
    Inv (s.wake seq) := by
  have admitted := (inv.fits seq).promoted rung (by rw [placed]; decide)
  have same : s.wake seq = s.setReq seq fun req => { req with phase := .returned } :=
    setReq_congr (by simp only [if_pos admitted])
  rw [same]
  exact returns_kept inv (by rw [placed]; decide) admitted

theorem giveUp_kept (placed : (s.req seq).phase = .waiting)
    (ended : (s.req seq).Ended s.now s.ringing) :
    Inv (s.setReq seq fun req => { req with phase := .deciding }) := by
  have fits := inv.fits seq
  have born := inv.born seq (by rw [placed]; decide)
  refine inv.setReq ⟨fun above => absurd born (not_lt.mpr above), nofun,
    fun member => ⟨(fits.holds member).1, by simp [holding]⟩, fun entry member named => ?_, nofun,
    fun rung _ => fits.promoted rung (by rw [placed]; decide), fun _ => ended⟩ rfl id
  obtain ⟨own, plain, silent, _⟩ := fits.queued entry member named
  exact ⟨own, plain, silent, by simp [queueing]⟩

theorem decide_kept (placed : (s.req seq).phase = .deciding) : Inv (s.decideLocked seq) := by
  by_cases admitted : (s.req seq).admitted = true
  · have same : s.decideLocked seq = s.setReq seq fun req => { req with phase := .returned } :=
      setReq_congr (if_pos admitted)
    rw [same]
    exact returns_kept inv (by rw [placed]; decide) admitted
  · have fits := inv.fits seq
    have born := inv.born seq (by rw [placed]; decide)
    have same : s.decideLocked seq =
        s.setReq seq fun req => { req with canceled := true, phase := .refused } :=
      setReq_congr (if_neg admitted)
    rw [same]
    refine inv.setReq ⟨fun above => absurd born (not_lt.mpr above), nofun,
      fun member => absurd (fits.holds member).1 admitted, fun entry member named => ?_,
      fun _ => ⟨rfl, fits.deciding placed⟩, nofun, nofun⟩ rfl nofun
    obtain ⟨own, plain, silent, _⟩ := fits.queued entry member named
    exact ⟨own, plain, silent, by simp [queueing]⟩

theorem releasing_kept (placed : (s.req seq).phase = .returned ∨ (s.req seq).phase = .released) :
    Inv { s.setReq seq fun req => { req with phase := .released } with
      inflight := s.inflight.erase seq } := by
  have apart := inv.apart seq (by rcases placed with same | same <;> rw [same] <;> decide)
  have born := inv.born seq (by rcases placed with same | same <;> rw [same] <;> decide)
  refine ⟨fun other => ?_, inv.sorted, inv.nodup, fun entry live user other member => ?_⟩
  · by_cases same : other = seq
    · subst same
      simp only [Scheduler.setReq, Function.update_self]
      exact ⟨fun above => absurd born (not_lt.mpr above), nofun,
        fun member => absurd member (Finset.notMem_erase _ _),
        fun entry member named => absurd named (apart entry member), nofun, nofun, nofun⟩
    · simp only [Scheduler.setReq, Function.update_of_ne same]
      exact (inv.fits other).frame le_rfl Finset.mem_of_mem_erase (fun _ member _ => member) le_rfl
        (Finset.Subset.refl _)
  · obtain ⟨unlike, flying⟩ := Finset.mem_erase.mp member
    have queued : Live (s.setReq seq fun req => { req with phase := .released }) entry := live
    simp only [Scheduler.setReq, Function.update_of_ne unlike,
      Function.update_of_ne (apart entry live.1)] at user ⊢
    exact inv.users entry (queued.of_setReq id) user other flying

end Others

theorem step_kept (good : Inv s ∧ Vacant s) (undisturbed : Undisturbed s event) :
    Inv (step s event) ∧ Vacant (step s event) := by
  obtain ⟨inv, vacant⟩ := good
  cases event with
  | call rid kind timeout => exact call_kept inv vacant rid kind timeout
  | enter seq =>
    simp only [step]
    split_ifs with entered
    · have fits := inv.fits seq
      have away := inv.away seq (by rw [entered]; decide)
      have apart := inv.apart seq (by rw [entered]; decide)
      refine enter_kept (enters inv entered) (vacant.setReq id) (by simp [Scheduler.setReq]) away
        apart (by simpa [Scheduler.setReq] using (fits.fresh entered).symm) ?_
      intro full victim chosen
      have old : s.victimFor seq = some victim := entering_victim ▸ chosen
      have other : victim ≠ seq := fun same => away (same ▸ (victimFor_some old).2.1)
      simpa [Scheduler.setReq, other] using undisturbed entered full victim old
    · exact ⟨inv, vacant⟩
  | check seq =>
    simp only [step]
    split_ifs with placed
    · exact ⟨check_kept inv placed, vacant.setReq (by split_ifs <;> exact id)⟩
    · exact ⟨inv, vacant⟩
  | wake seq =>
    simp only [step]
    split_ifs with placed
    · exact ⟨wake_kept inv placed.1 placed.2, vacant.setReq id⟩
    · exact ⟨inv, vacant⟩
  | giveUp seq =>
    simp only [step]
    split_ifs with placed
    · exact ⟨giveUp_kept inv placed.1 placed.2, vacant.setReq id⟩
    · exact ⟨inv, vacant⟩
  | fail seq =>
    simp only [step]
    rw [if_neg undisturbed]
    exact ⟨inv, vacant⟩
  | decide seq =>
    simp only [step]
    split_ifs with placed
    · refine ⟨decide_kept inv placed, vacant.setReq ?_⟩
      split_ifs
      · exact id
      · exact nofun
    · exact ⟨inv, vacant⟩
  | release seq =>
    simp only [step]
    split_ifs with placed
    · have promoted := promoteLocked_spec (releasing_kept inv placed)
      exact ⟨promoted.1, promoted.2.vacant⟩
    · exact ⟨inv, vacant⟩
  | setSlots env n =>
    have resized : Inv { s with n := resolveSlots env n } :=
      inv.frame rfl rfl rfl rfl le_rfl (Finset.Subset.refl _)
    have promoted := promoteLocked_spec resized
    exact ⟨promoted.1, promoted.2.vacant⟩
  | bindCancel rid event =>
    simp only [step]
    split_ifs
    · exact ⟨inv, vacant⟩
    · exact ⟨inv.frame rfl rfl rfl rfl le_rfl (Finset.Subset.refl _), vacant⟩
  | unbindCancel rid => exact ⟨inv.frame rfl rfl rfl rfl le_rfl (Finset.Subset.refl _), vacant⟩
  | cancelTurn event => exact ⟨inv.frame rfl rfl rfl rfl le_rfl (Finset.subset_insert _ _), vacant⟩
  | tick amount =>
    refine ⟨inv.frame rfl rfl rfl rfl ?_ (Finset.Subset.refl _), vacant⟩
    change s.now ≤ s.now + (amount : Int)
    omega

theorem step_fair (good : Inv s ∧ Vacant s) : Fair s event (step s event) := by
  obtain ⟨inv, vacant⟩ := good
  cases event with
  | enter seq =>
    simp only [step]
    split_ifs with entered
    · exact (enter_fair (enters inv entered) (vacant.setReq id) _).of_entering
    · exact fair_of_same rfl
  | release seq =>
    simp only [step]
    split_ifs with placed
    · have releasing := releasing_kept inv placed
      refine (promoteLocked_spec releasing).2.fair releasing (Finset.erase_subset _ _) ?_ ?_
      · intro other flying gone
        by_contra another
        exact gone (Finset.mem_erase.mpr ⟨fun same => another (same ▸ rfl), flying⟩)
      · intro other
        by_cases same : other = seq
        · subst same
          simp [Scheduler.setReq]
        · simp [Scheduler.setReq, same]
    · exact fair_of_same rfl
  | setSlots env n =>
    have resized : Inv { s with n := resolveSlots env n } :=
      inv.frame rfl rfl rfl rfl le_rfl (Finset.Subset.refl _)
    exact (promoteLocked_spec resized).2.fair resized (Finset.Subset.refl _)
      (fun other flying gone => absurd flying gone) fun _ => rfl
  | call | unbindCancel | cancelTurn | tick => exact fair_of_same rfl
  | check seq | wake seq | giveUp seq | fail seq | decide seq | bindCancel rid event =>
    simp only [step]
    split_ifs <;> exact fair_of_same rfl

theorem sound_of_inv (good : Inv s ∧ Vacant s) : Sound s where
  held seq flying := ((good.1.fits seq).holds flying).2
  vacant room entry queued := by
    by_contra alive
    exact good.2 room entry ⟨queued, Bool.eq_false_iff.mpr alive⟩
  users entry queued alive := good.1.users entry ⟨queued, alive⟩
  ended seq refused := ((good.1.fits seq).refused refused).2

theorem init_inv (n : Nat) : Inv (Scheduler.init n) ∧ Vacant (Scheduler.init n) := by
  refine ⟨⟨fun seq => ⟨fun _ => rfl, nofun, fun flying => absurd flying (Finset.notMem_empty seq),
    fun entry queued => absurd queued List.not_mem_nil, nofun, nofun, nofun⟩, List.Pairwise.nil,
    List.nodup_nil, fun entry live => absurd live.1 List.not_mem_nil⟩, ?_⟩
  exact fun _ entry live => absurd live.1 List.not_mem_nil

/-- While no promoted daemon is evicted before it wakes, every state of a run is sound and every
step is fair. -/
theorem scheduler_sound (n : Nat) (run : List Event)
    (undisturbed : Along step Undisturbed (.init n) run) :
    Always step Sound (.init n) run ∧
      Along step (fun s event => Fair s event (step s event)) (.init n) run := by
  constructor
  · exact always_of_invariant step (fun s => Inv s ∧ Vacant s) Sound Undisturbed
      (fun _ event good calm => step_kept event good calm) (fun _ good => sound_of_inv good) run _
      (init_inv n) undisturbed
  · exact along_of_invariant step (fun s => Inv s ∧ Vacant s) Undisturbed _
      (fun _ event good calm => step_kept event good calm) (fun _ event good _ => step_fair event good)
      run _ (init_inv n) undisturbed

def preemption : List Event :=
  [.call "d" .daemon none, .enter 1, .check 1, .call "u" .user (some 5), .enter 2, .check 2,
    .call "d" .daemon (some 60), .enter 3, .check 3, .release 1, .release 2, .wake 3, .release 3]

theorem preemption_sound :
    Always step Sound (.init 1) preemption ∧
      Along step (fun s event => Fair s event (step s event)) (.init 1) preemption :=
  scheduler_sound 1 preemption (by decide +kernel)

/-- The daemon gets the slot, loses it before it wakes, and returns `None` with no timeout set. -/
def lostGrant : List Event :=
  [.call "d" .daemon none, .enter 1, .check 1, .call "d" .daemon none, .enter 2, .check 2,
    .release 1, .call "u" .user none, .enter 3, .check 3, .wake 2, .decide 2]

theorem grant_lost : ¬ ∀ (n : Nat) (run : List Event), Always step Sound (.init n) run ∧
    Along step (fun s event => Fair s event (step s event)) (.init n) run := by
  intro sound
  have ended := (always_final (sound 1 lostGrant).1).ended 2 (by decide +kernel)
  exact absurd ended (by decide +kernel)

end Hartos.LlamaScheduler
