import Hartos.DrainLock
import Hartos.StepSystem

/-!
Who holds the drain lock over every interleaving. The look at the lock file and the write of it
are separate steps, and a release removes the file whoever wrote it.
-/
namespace Hartos.DrainLock
open StepSystem

def Pc.inWindow : Pc → Bool
  | .found | .opened _ | .judging .. | .aging _ | .taking | .stamping _ | .flushing .. => true
  | _ => false

def Pc.since : Pc → Option Int
  | .holding since | .releasing since | .removing since => some since
  | _ => none

def Fresh (s : State) (y : Thread) (since : Int) : Prop :=
  s.alive y.pid = true ∧ (s.pc y).since = some since ∧ s.now - since < 600

/-- What a thread of another process may know while `y` holds the lock. -/
def Looks (s : State) (y : Thread) (since : Int) : Pc → Prop
  | .opened inode => s.path = some inode
  | .judging lockPid lockTime => lockPid = y.pid ∧ lockTime = since
  | .aging lockTime => lockTime = since
  | .taking | .stamping _ | .flushing .. => False
  | _ => True

def Writes (s : State) (t : Thread) : Pc → Prop
  | .stamping inode | .flushing inode _ =>
      s.path = some inode ∧ s.owner inode = t.pid ∧ s.content inode = .empty
  | _ => True

structure Inv (s : State) : Prop where
  locked : ∀ t, s.alive t.pid = true → s.pc t ≠ .idle → s.lock t.pid = true
  single : ∀ t u, s.alive t.pid = true → t.pid = u.pid → s.pc t ≠ .idle → s.pc u ≠ .idle → t = u
  known : ∀ t, s.pc t ≠ .idle → t ∈ s.threads
  exclusive : ∀ t u, s.alive t.pid = true → s.alive u.pid = true → (s.pc t).inWindow = true →
    (s.pc u).inWindow = true → t.pid = u.pid
  written : ∀ y since, Fresh s y since →
    ∃ inode, s.path = some inode ∧ s.content inode = .record y.pid since ∧ s.owner inode = y.pid
  looking : ∀ t y since, s.alive t.pid = true → Fresh s y since → t.pid ≠ y.pid →
    Looks s y since (s.pc t)
  owning : ∀ t, s.alive t.pid = true → Writes s t (s.pc t)

/-- What is asked of a step: nobody is given the lock that another thread has held for less than
ten minutes, and a release removes the file of its own process only. -/
structure Safe (s : State) (event : Event) : Prop where
  alone : ∀ t torn inode stamp, event = .advance t torn → s.pc t = .flushing inode stamp →
    s.alive t.pid = true → ∀ y since, y ≠ t → s.alive y.pid = true → s.pc y = .holding since →
      ¬ s.now - since < 600
  own : ∀ t torn since inode, event = .advance t torn → s.pc t = .removing since →
    s.alive t.pid = true → s.path = some inode → s.owner inode = t.pid

section Runs
variable (signals : Nat → Nat → Bool)

/-- One process at a time goes from its first look to the end of its write, it may send a signal
to whom it finds in the file, and a holder removes the file within ten minutes. -/
def OrderlyAt (s : State) (t : Thread) : Pc → Prop
  | .asked => ∀ u ∈ s.threads, u.pid ≠ t.pid → s.alive u.pid = true → (s.pc u).inWindow = false
  | .judging lockPid _ => s.alive lockPid = true → signals t.pid lockPid = true
  | .removing since => s.now - since < 600
  | _ => True

def Orderly (s : State) : Event → Prop
  | .advance t _ => s.alive t.pid = true → OrderlyAt signals s t (s.pc t)
  | _ => True

instance decidableOrderlyAt (s : State) (t : Thread) (pc : Pc) :
    Decidable (OrderlyAt signals s t pc) :=
  match pc with
  | .asked => inferInstanceAs (Decidable (∀ u ∈ s.threads, _ → _ → _))
  | .judging _ _ => inferInstanceAs (Decidable (_ → _))
  | .removing _ => inferInstanceAs (Decidable (_ < _))
  | .idle | .found | .opened _ | .aging _ | .taking | .stamping _ | .flushing .. | .refusing |
    .holding _ | .releasing _ | .unlocking => inferInstanceAs (Decidable True)

instance decidableOrderly (s : State) : (event : Event) → Decidable (Orderly signals s event)
  | .advance t _ => inferInstanceAs (Decidable (_ → OrderlyAt signals s t (s.pc t)))
  | .start _ | .crash _ | .acquire _ | .release _ | .tick _ => inferInstanceAs (Decidable True)

end Runs

section Moves
variable {s s' : State} {t : Thread} {pc : Pc}

theorem looks_outside {y : Thread} {since : Int} (outside : pc.inWindow = false) :
    Looks s y since pc := by
  cases pc <;> trivial

theorem writes_outside (outside : pc.inWindow = false) : Writes s t pc := by
  cases pc <;> trivial

structure Moved (s s' : State) (t : Thread) (pc : Pc) : Prop where
  alive : s'.alive = s.alive
  lock : s'.lock = s.lock
  threads : s'.threads = s.threads
  now : s'.now = s.now
  pc : s'.pc = Function.update s.pc t pc

theorem goto_moved : Moved s (s.goto t pc) t pc := ⟨rfl, rfl, rfl, rfl, rfl⟩

section Acting
variable (inv : Inv s) (active : s.pc t ≠ .idle)
include inv active

theorem Inv.moved (moved : Moved s s' t pc)
    (window : pc.inWindow = true → (s.pc t).inWindow = true ∨
      ∀ u ∈ s.threads, u.pid ≠ t.pid → s.alive u.pid = true → (s.pc u).inWindow = false)
    (written : ∀ y since, Fresh s' y since → ∃ inode, s'.path = some inode ∧
      s'.content inode = .record y.pid since ∧ s'.owner inode = y.pid)
    (looking : ∀ u y since, s.alive u.pid = true → Fresh s' y since → u.pid ≠ y.pid →
      Looks s' y since (s'.pc u))
    (owning : ∀ u, s.alive u.pid = true → Writes s' u (s'.pc u)) : Inv s' := by
  obtain ⟨alive, lock, threads, now, pcs⟩ := moved
  have stays : ∀ u, s'.pc u ≠ .idle → s.pc u ≠ .idle := by
    intro u busy
    by_cases same : u = t
    · exact same ▸ active
    · rwa [pcs, Function.update_of_ne same] at busy
  refine ⟨?_, ?_, ?_, ?_, written, ?_, ?_⟩
  · intro u lives busy
    rw [lock]
    exact inv.locked u (alive ▸ lives) (stays u busy)
  · intro u v lives same busy busy'
    exact inv.single u v (alive ▸ lives) same (stays u busy) (stays v busy')
  · intro u busy
    rw [threads]
    exact inv.known u (stays u busy)
  · -- A thread that comes into the window finds no other process there.
    have among : ∀ u, s.alive u.pid = true → (s'.pc t).inWindow = true →
        u ≠ t → (s'.pc u).inWindow = true → s.alive t.pid = true → u.pid = t.pid := by
      intro u lives inside other within lives'
      rw [pcs, Function.update_of_ne other] at within
      rw [pcs, Function.update_self] at inside
      rcases window inside with before | nobody
      · exact inv.exclusive u t lives lives' within before
      · by_contra apart
        have busy : s.pc u ≠ .idle := fun idle => by rw [idle] at within; cases within
        exact absurd (within.symm.trans (nobody u (inv.known u busy) apart lives)) (by decide)
    intro u v lives lives' inside inside'
    rw [alive] at lives lives'
    by_cases first : u = t
    · by_cases second : v = t
      · rw [first, second]
      · exact (among v lives' (first ▸ inside) second inside' (first ▸ lives)).symm ▸ first ▸ rfl
    · by_cases second : v = t
      · exact second ▸ among u lives (second ▸ inside') first inside (second ▸ lives')
      · rw [pcs, Function.update_of_ne first] at inside
        rw [pcs, Function.update_of_ne second] at inside'
        exact inv.exclusive u v lives lives' inside inside'
  · exact fun u y since lives => looking u y since (alive ▸ lives)
  · exact fun u lives => owning u (alive ▸ lives)

omit inv active in
theorem Fresh.of_goto {y : Thread} {since : Int} (fresh : Fresh (s.goto t pc) y since)
    (kept : ∀ since, pc.since = some since → (s.pc t).since = some since) : Fresh s y since := by
  obtain ⟨lives, held, recent⟩ := fresh
  refine ⟨lives, ?_, recent⟩
  by_cases same : y = t
  · subst same
    exact kept since (by simpa [State.goto] using held)
  · simpa [State.goto, same] using held

theorem Inv.goto (kept : ∀ since, pc.since = some since → (s.pc t).since = some since)
    (window : pc.inWindow = true → (s.pc t).inWindow = true ∨
      ∀ u ∈ s.threads, u.pid ≠ t.pid → s.alive u.pid = true → (s.pc u).inWindow = false)
    (looks : ∀ y since, Fresh s y since → t.pid ≠ y.pid → Looks s y since pc)
    (writes : Writes s t pc) : Inv (s.goto t pc) := by
  refine inv.moved active goto_moved window (fun y since fresh => ?_)
    (fun u y since lives fresh apart => ?_) (fun u lives => ?_)
  · exact inv.written y since (fresh.of_goto kept)
  · have before := fresh.of_goto kept
    by_cases same : u = t
    · subst same
      rw [show (s.goto u pc).pc u = pc from Function.update_self _ _ _]
      exact looks y since before apart
    · rw [show (s.goto t pc).pc u = s.pc u from Function.update_of_ne same _ _]
      exact inv.looking u y since lives before apart
  · by_cases same : u = t
    · subst same
      rw [show (s.goto u pc).pc u = pc from Function.update_self _ _ _]
      exact writes
    · rw [show (s.goto t pc).pc u = s.pc u from Function.update_of_ne same _ _]
      exact inv.owning u lives

end Acting

section Files
variable (inv : Inv s) (lives : s.alive t.pid = true)
include inv lives

/-- Nobody holds the lock while a thread is past its look at the file. -/
theorem Inv.nobody (barred : ∀ y since, ¬ Looks s y since (s.pc t))
    (free : (s.pc t).since = none) (active : s.pc t ≠ .idle) (y : Thread) (since : Int) :
    ¬ Fresh s y since := by
  intro fresh
  by_cases same : t.pid = y.pid
  · have busy : s.pc y ≠ .idle := fun idle => by
      have held := fresh.2.1
      rw [idle] at held
      cases held
    have equal := inv.single t y lives same active busy
    exact absurd (free.symm.trans (equal ▸ fresh.2.1)) (by simp)
  · exact barred y since (inv.looking t y since lives fresh same)

theorem Inv.write (barred : ∀ y since, ¬ Looks s y since (s.pc t))
    (free : (s.pc t).since = none) (inside : (s.pc t).inWindow = true)
    (moved : Moved s s' t pc)
    (written : ∀ since, pc.since = some since → ∃ inode, s'.path = some inode ∧
      s'.content inode = .record t.pid since ∧ s'.owner inode = t.pid)
    (writes : Writes s' t pc) : Inv s' := by
  have active : s.pc t ≠ .idle := fun idle => by rw [idle] at inside; cases inside
  have holder : ∀ y since, Fresh s' y since → y = t := by
    intro y since fresh
    by_contra other
    refine inv.nobody lives barred free active y since ⟨moved.alive ▸ fresh.1, ?_, ?_⟩
    · have held := fresh.2.1
      rwa [moved.pc, Function.update_of_ne other] at held
    · exact moved.now ▸ fresh.2.2
  have outside : ∀ u, s.alive u.pid = true → u ≠ t → (s.pc u).inWindow = false := by
    intro u lives' other
    by_contra within
    have within := Bool.eq_true_of_not_eq_false within
    have busy : s.pc u ≠ .idle := fun idle => by rw [idle] at within; cases within
    exact other (inv.single u t lives' (inv.exclusive u t lives' lives within inside) busy active)
  refine inv.moved active moved (fun _ => .inl inside) (fun y since fresh => ?_)
    (fun u y since lives' fresh apart => ?_) (fun u lives' => ?_)
  · obtain rfl := holder y since fresh
    have held := fresh.2.1
    rw [moved.pc, Function.update_self] at held
    exact written since held
  · have other : u ≠ t := fun same => apart (by rw [same, holder y since fresh])
    rw [moved.pc, Function.update_of_ne other]
    exact looks_outside (outside u lives' other)
  · by_cases same : u = t
    · rw [same, moved.pc, Function.update_self]
      exact writes
    · rw [moved.pc, Function.update_of_ne same]
      exact writes_outside (outside u lives' same)

theorem Inv.openWrite (taking : s.pc t = .taking) : Inv (s.openWrite t) := by
  have barred : ∀ y since, ¬ Looks s y since (s.pc t) := by
    rw [taking]
    exact fun _ _ => id
  have free : (s.pc t).since = none := by rw [taking]; rfl
  have inside : (s.pc t).inWindow = true := by rw [taking]; rfl
  unfold State.openWrite
  cases place : s.path with
  | some inode =>
    exact inv.write lives barred free inside ⟨rfl, rfl, rfl, rfl, rfl⟩ nofun
      ⟨rfl, Function.update_self _ _ _, Function.update_self _ _ _⟩
  | none =>
    exact inv.write lives barred free inside ⟨rfl, rfl, rfl, rfl, rfl⟩ nofun
      ⟨rfl, Function.update_self _ _ _, Function.update_self _ _ _⟩

theorem Inv.flush {inode : Nat} {stamp : Int} (flushing : s.pc t = .flushing inode stamp)
    (torn : Bool) : Inv { s.goto t (.holding stamp) with
      content := Function.update s.content inode
        (State.overwrite (s.content inode) torn t.pid stamp) } := by
  have own := inv.owning t lives
  rw [flushing] at own
  obtain ⟨path, owner, empty⟩ := own
  refine inv.write lives (by rw [flushing]; exact fun _ _ => id) (by rw [flushing]; rfl)
    (by rw [flushing]; rfl) ⟨rfl, rfl, rfl, rfl, rfl⟩ ?_ trivial
  rintro since ⟨⟩
  refine ⟨inode, path, ?_, owner⟩
  simp [State.overwrite, empty]

theorem Inv.remove {since : Int} (removing : s.pc t = .removing since)
    (recent : s.now - since < 600) : Inv { s.goto t .unlocking with path := none } := by
  have fresh : Fresh s t since := ⟨lives, by rw [removing]; rfl, recent⟩
  have active : s.pc t ≠ .idle := by rw [removing]; nofun
  obtain ⟨inode, path, content, _⟩ := inv.written t since fresh
  have nobody : ∀ y later, ¬ Fresh { s.goto t .unlocking with path := none } y later := by
    intro y later held
    have other : y ≠ t := fun same => by
      have since' := held.2.1
      rw [same] at since'
      simp [State.goto, Pc.since] at since'
    have before : Fresh s y later := ⟨held.1, by simpa [State.goto, other] using held.2.1, held.2.2⟩
    obtain ⟨inode', path', content', _⟩ := inv.written y later before
    obtain rfl : inode = inode' := Option.some.inj (path.symm.trans path')
    have same : t.pid = y.pid := (Content.record.inj (content.symm.trans content')).1
    have busy : s.pc y ≠ .idle := fun idle => by
      have since' := before.2.1
      rw [idle] at since'
      cases since'
    exact other (inv.single t y lives same active busy).symm
  refine inv.moved active ⟨rfl, rfl, rfl, rfl, rfl⟩ nofun
    (fun y later held => absurd held (nobody y later))
    (fun u y later _ held => absurd held (nobody y later)) (fun u lives' => ?_)
  by_cases same : u = t
  · subst same
    simp [State.goto, Writes]
  · simp only [State.goto, Function.update_of_ne same]
    by_cases apart : u.pid = t.pid
    · by_cases idle : s.pc u = .idle
      · rw [idle]
        trivial
      · exact absurd (inv.single u t lives' apart idle active) same
    · have looks := inv.looking u t since lives' fresh apart
      cases place : s.pc u <;> rw [place] at looks <;> trivial

end Files

section

variable (inv : Inv s)
include inv

/-- The file stays as it is, and whoever moves ends outside the window without the lock. -/
theorem Inv.settle
    (calm : ∀ u, s'.alive u.pid = true → s'.pc u = s.pc u ∧ s.alive u.pid = true ∨
      (s'.pc u).inWindow = false ∧ (s'.pc u).since = none) (path : s'.path = s.path)
    (content : s'.content = s.content) (owner : s'.owner = s.owner) (later : s.now ≤ s'.now)
    (locked : ∀ u, s'.alive u.pid = true → s'.pc u ≠ .idle → s'.lock u.pid = true)
    (single : ∀ u v, s'.alive u.pid = true → u.pid = v.pid → s'.pc u ≠ .idle → s'.pc v ≠ .idle →
      u = v) (known : ∀ u, s'.pc u ≠ .idle → u ∈ s'.threads) : Inv s' := by
  have fresh : ∀ y since, Fresh s' y since → Fresh s y since := by
    rintro y since ⟨lives, held, recent⟩
    rcases calm y lives with ⟨same, before⟩ | ⟨_, free⟩
    · exact ⟨before, same ▸ held, by omega⟩
    · exact absurd (free.symm.trans held) (by simp)
  have inside : ∀ u, s'.alive u.pid = true → (s'.pc u).inWindow = true →
      s.alive u.pid = true ∧ (s.pc u).inWindow = true := by
    intro u lives within
    rcases calm u lives with ⟨same, before⟩ | ⟨outside, _⟩
    · exact ⟨before, same ▸ within⟩
    · exact absurd (outside.symm.trans within) (by decide)
  refine ⟨locked, single, known, ?_, ?_, ?_, ?_⟩
  · intro u v lives lives' within within'
    obtain ⟨before, first⟩ := inside u lives within
    obtain ⟨before', second⟩ := inside v lives' within'
    exact inv.exclusive u v before before' first second
  · intro y since held
    rw [path, content, owner]
    exact inv.written y since (fresh y since held)
  · intro u y since lives held apart
    rcases calm u lives with ⟨same, before⟩ | ⟨outside, _⟩
    · have looks := inv.looking u y since before (fresh y since held) apart
      rw [same]
      cases place : s.pc u <;> rw [place] at looks <;>
        first | trivial | exact looks | exact path.trans looks
    · exact looks_outside outside
  · intro u lives
    rcases calm u lives with ⟨same, before⟩ | ⟨outside, _⟩
    · have writes := inv.owning u before
      rw [same]
      cases place : s.pc u <;> rw [place] at writes <;>
        first | trivial | (unfold Writes; rw [path, content, owner]; exact writes)
    · exact writes_outside outside

theorem Inv.unlock (active : s.pc t ≠ .idle) : Inv (s.unlock t) := by
  have self : (s.unlock t).pc t = .idle := Function.update_self _ _ _
  have others : ∀ u, u ≠ t → (s.unlock t).pc u = s.pc u := fun u other =>
    Function.update_of_ne other _ _
  have busy : ∀ u, (s.unlock t).pc u ≠ .idle → u ≠ t ∧ s.pc u ≠ .idle := by
    intro u awake
    have other : u ≠ t := fun same => awake (same ▸ self)
    exact ⟨other, others u other ▸ awake⟩
  refine inv.settle (fun u lives' => ?_) rfl rfl rfl le_rfl ?_ ?_ ?_
  · by_cases same : u = t
    · rw [same, self]
      exact .inr ⟨rfl, rfl⟩
    · exact .inl ⟨others u same, lives'⟩
  · intro u lives' awake
    obtain ⟨other, before⟩ := busy u awake
    by_cases pid : u.pid = t.pid
    · exact absurd (inv.single u t lives' pid before active) other
    · simpa [State.unlock, pid] using inv.locked u lives' before
  · intro u v lives' pid awake awake'
    exact inv.single u v lives' pid (busy u awake).2 (busy v awake').2
  · exact fun u awake => inv.known u (busy u awake).2

theorem Inv.acquire (unlocked : s.lock t.pid = false) : Inv { s.goto t .asked with
      lock := Function.update s.lock t.pid true
      threads := insert t s.threads } := by
  have idle : ∀ u, s.alive u.pid = true → u.pid = t.pid → s.pc u = .idle := by
    intro u lives' pid
    by_contra active
    have locked := inv.locked u lives' active
    rw [pid, unlocked] at locked
    cases locked
  have self : (s.goto t .asked).pc t = .asked := Function.update_self _ _ _
  have others : ∀ u, u ≠ t → (s.goto t .asked).pc u = s.pc u := fun u other =>
    Function.update_of_ne other _ _
  refine inv.settle (fun u lives' => ?_) rfl rfl rfl le_rfl ?_ ?_ ?_
  · by_cases same : u = t
    · rw [same]
      exact .inr ⟨congrArg Pc.inWindow self, congrArg Pc.since self⟩
    · exact .inl ⟨others u same, lives'⟩
  · intro u lives' awake
    by_cases pid : u.pid = t.pid
    · simp [pid]
    · have other : u ≠ t := fun same => pid (same ▸ rfl)
      simpa [pid] using inv.locked u lives' (others u other ▸ awake)
  · intro u v lives' pid awake awake'
    by_cases first : u = t
    · by_cases second : v = t
      · rw [first, second]
      · have asleep := idle v (pid ▸ lives') (pid.symm.trans (first ▸ rfl))
        exact absurd ((others v second).trans asleep) awake'
    · by_cases second : v = t
      · have asleep := idle u lives' (pid.trans (second ▸ rfl))
        exact absurd ((others u first).trans asleep) awake
      · exact inv.single u v lives' pid (others u first ▸ awake) (others v second ▸ awake')
  · intro u awake
    by_cases same : u = t
    · exact same ▸ Finset.mem_insert_self _ _
    · exact Finset.mem_insert_of_mem (inv.known u (others u same ▸ awake))

theorem Inv.start {pid : Nat} : Inv { s with
    alive := Function.update s.alive pid true
    lock := Function.update s.lock pid false
    pc := fun t => if t.pid = pid then .idle else s.pc t } := by
  have busy : ∀ u, (if u.pid = pid then Pc.idle else s.pc u) ≠ .idle →
      u.pid ≠ pid ∧ s.pc u ≠ .idle := by
    intro u awake
    split_ifs at awake with new
    · exact absurd rfl awake
    · exact ⟨new, awake⟩
  have lived : ∀ other, other ≠ pid → Function.update s.alive pid true other = true →
      s.alive other = true := fun other old lives => by simpa [old] using lives
  refine inv.settle (fun u lives => ?_) rfl rfl rfl le_rfl ?_ ?_ ?_
  · by_cases new : u.pid = pid
    · exact .inr ⟨by simp [new, Pc.inWindow], by simp [new, Pc.since]⟩
    · exact .inl ⟨if_neg new, lived _ new lives⟩
  · intro u lives awake
    obtain ⟨old, before⟩ := busy u awake
    simpa [old] using inv.locked u (lived _ old lives) before
  · intro u v lives same awake awake'
    obtain ⟨old, before⟩ := busy u awake
    exact inv.single u v (lived _ old lives) same before (busy v awake').2
  · exact fun u awake => inv.known u (busy u awake).2

theorem Inv.crash (pid : Nat) : Inv { s with alive := Function.update s.alive pid false } := by
  have lived : ∀ other, Function.update s.alive pid false other = true → s.alive other = true := by
    intro other lives
    by_cases same : other = pid
    · simp [same] at lives
    · simpa [same] using lives
  exact inv.settle (fun u lives => .inl ⟨rfl, lived _ lives⟩) rfl rfl rfl le_rfl
    (fun u lives => inv.locked u (lived _ lives))
    (fun u v lives => inv.single u v (lived _ lives)) inv.known

theorem Inv.tick (amount : Nat) : Inv { s with now := s.now + amount } :=
  inv.settle (fun _ lives => .inl ⟨rfl, lives⟩) rfl rfl rfl (by dsimp only; omega) inv.locked
    inv.single inv.known

end

end Moves

section Main
variable {signals : Nat → Nat → Bool} {s : State} {t : Thread}

/-- A file that is not there, or has no record of a holder, keeps nobody out. -/
theorem looks_taking {y : Thread} {since : Int}
    (unheld : ¬ ∃ inode, s.path = some inode ∧ s.content inode = .record y.pid since) (inv : Inv s)
    (fresh : Fresh s y since) : Looks s y since .taking := by
  obtain ⟨inode, path, content, _⟩ := inv.written y since fresh
  exact unheld ⟨inode, path, content⟩

section Looking
variable (inv : Inv s) (lives : s.alive t.pid = true)
include inv lives

omit lives in
theorem asked_kept (place : s.pc t = .asked) (orderly : OrderlyAt signals s t .asked) :
    Inv (s.goto t (if s.path.isSome then .found else .taking)) := by
  have active : s.pc t ≠ .idle := by rw [place]; nofun
  cases path : s.path with
  | none =>
    exact inv.goto active nofun (fun _ => .inr orderly)
      (fun y since fresh _ => looks_taking (by simp [path]) inv fresh) trivial
  | some inode => exact inv.goto active nofun (fun _ => .inr orderly) (fun _ _ _ _ => trivial) trivial

omit lives in
theorem found_kept (place : s.pc t = .found) : Inv (match s.path with
    | some inode => s.goto t (.opened inode)
    | none => s.goto t .taking) := by
  have active : s.pc t ≠ .idle := by rw [place]; nofun
  have inside : (s.pc t).inWindow = true := by rw [place]; rfl
  cases path : s.path with
  | some inode => exact inv.goto active nofun (fun _ => .inl inside) (fun _ _ _ _ => path) trivial
  | none =>
    exact inv.goto active nofun (fun _ => .inl inside)
      (fun y since fresh _ => looks_taking (by simp [path]) inv fresh) trivial

theorem opened_kept {inode : Nat} (place : s.pc t = .opened inode) :
    Inv (match s.content inode with
      | .record lockPid lockTime => s.goto t (.judging lockPid lockTime)
      | _ => s.goto t .taking) := by
  have active : s.pc t ≠ .idle := by rw [place]; nofun
  have inside : (s.pc t).inWindow = true := by rw [place]; rfl
  have read : ∀ y since, Fresh s y since → t.pid ≠ y.pid →
      s.content inode = .record y.pid since := by
    intro y since fresh apart
    have looks := inv.looking t y since lives fresh apart
    rw [place] at looks
    obtain ⟨inode', path, content, _⟩ := inv.written y since fresh
    obtain rfl : inode = inode' := Option.some.inj (Eq.trans (Eq.symm looks) path)
    exact content
  cases text : s.content inode with
  | record lockPid lockTime =>
    refine inv.goto active nofun (fun _ => .inl inside) (fun y since fresh apart => ?_) trivial
    exact Content.record.inj (text.symm.trans (read y since fresh apart))
  | empty =>
    refine inv.goto active nofun (fun _ => .inl inside) (fun y since fresh apart => ?_) trivial
    exact absurd (text.symm.trans (read y since fresh apart)) (by simp)
  | torn =>
    refine inv.goto active nofun (fun _ => .inl inside) (fun y since fresh apart => ?_) trivial
    exact absurd (text.symm.trans (read y since fresh apart)) (by simp)

theorem judging_kept {lockPid : Nat} {lockTime : Int} (place : s.pc t = .judging lockPid lockTime)
    (orderly : OrderlyAt signals s t (.judging lockPid lockTime)) :
    Inv (if lockPid ≠ t.pid then
      if s.alive lockPid && signals t.pid lockPid then s.goto t (.aging lockTime)
      else s.goto t .taking
    else s.goto t .taking) := by
  have active : s.pc t ≠ .idle := by rw [place]; nofun
  have inside : (s.pc t).inWindow = true := by rw [place]; rfl
  have read : ∀ y since, Fresh s y since → t.pid ≠ y.pid → lockPid = y.pid ∧ lockTime = since := by
    intro y since fresh apart
    have looks := inv.looking t y since lives fresh apart
    rwa [place] at looks
  split_ifs with other reached
  · refine inv.goto active nofun (fun _ => .inl inside) (fun y since fresh apart => ?_) trivial
    exact (read y since fresh apart).2
  · refine inv.goto active nofun (fun _ => .inl inside) (fun y since fresh apart => ?_) trivial
    have holds : s.alive lockPid = true := (read y since fresh apart).1 ▸ fresh.1
    exact reached (by rw [holds, orderly holds]; rfl)
  · refine inv.goto active nofun (fun _ => .inl inside) (fun y since fresh apart => ?_) trivial
    exact other fun same => apart (same ▸ (read y since fresh apart).1)

theorem aging_kept {lockTime : Int} (place : s.pc t = .aging lockTime) :
    Inv (s.goto t (if s.now - lockTime < 600 then .refusing else .taking)) := by
  have active : s.pc t ≠ .idle := by rw [place]; nofun
  have inside : (s.pc t).inWindow = true := by rw [place]; rfl
  split_ifs with recent
  · exact inv.goto active nofun nofun (fun _ _ _ _ => trivial) trivial
  · refine inv.goto active nofun (fun _ => .inl inside) (fun y since fresh apart => ?_) trivial
    have looks := inv.looking t y since lives fresh apart
    rw [place] at looks
    obtain rfl : lockTime = since := looks
    exact recent fresh.2.2

theorem stamping_kept {inode : Nat} (place : s.pc t = .stamping inode) :
    Inv (s.goto t (.flushing inode s.now)) := by
  have inside : (s.pc t).inWindow = true := by rw [place]; rfl
  have writes := inv.owning t lives
  rw [place] at writes
  refine inv.goto (by rw [place]; nofun) nofun (fun _ => .inl inside)
    (fun y since fresh apart => ?_) writes
  have looks := inv.looking t y since lives fresh apart
  rwa [place] at looks

omit lives in
theorem releasing_kept {since : Int} (place : s.pc t = .releasing since) :
    Inv (s.goto t (if s.path.isSome then .removing since else .unlocking)) := by
  have active : s.pc t ≠ .idle := by rw [place]; nofun
  split_ifs
  · refine inv.goto active ?_ nofun (fun _ _ _ _ => trivial) trivial
    rw [place]
    exact fun _ same => same
  · exact inv.goto active nofun nofun (fun _ _ _ _ => trivial) trivial

theorem advance_kept (torn : Bool) (orderly : OrderlyAt signals s t (s.pc t)) :
    Inv (advance signals s t torn) := by
  unfold advance
  cases place : s.pc t with
  | idle => exact inv
  | holding since => exact inv
  | taking => exact inv.openWrite lives place
  | flushing inode stamp => exact inv.flush lives place torn
  | refusing => exact inv.unlock (by rw [place]; nofun)
  | unlocking => exact inv.unlock (by rw [place]; nofun)
  | removing since => exact inv.remove lives place (by rwa [place] at orderly)
  | asked => exact asked_kept inv place (place ▸ orderly)
  | found => exact found_kept inv place
  | opened inode => exact opened_kept inv lives place
  | judging lockPid lockTime => exact judging_kept inv lives place (place ▸ orderly)
  | aging lockTime => exact aging_kept inv lives place
  | stamping inode => exact stamping_kept inv lives place
  | releasing since => exact releasing_kept inv place

end Looking

theorem step_kept (inv : Inv s) (event : Event) (orderly : Orderly signals s event) :
    Inv (step signals s event) := by
  cases event with
  | start pid =>
    simp only [step]
    split_ifs
    · exact inv
    · exact inv.start
  | crash pid => exact inv.crash pid
  | acquire t =>
    simp only [step]
    split_ifs with ready
    · exact inv.acquire ready.2.2
    · exact inv
  | advance t torn =>
    simp only [step]
    split_ifs with lives
    · exact advance_kept inv lives torn (orderly lives)
    · exact inv
  | release t =>
    simp only [step]
    cases place : s.pc t with
    | holding since =>
      split_ifs
      · refine inv.goto (by rw [place]; nofun) ?_ nofun (fun _ _ _ _ => trivial) trivial
        rw [place]
        exact fun _ same => same
      · exact inv
    | _ => exact inv
  | tick amount => exact inv.tick amount

theorem step_safe (inv : Inv s) (event : Event) (orderly : Orderly signals s event) :
    Safe s event where
  alone t torn inode stamp made place lives y since other holds held := by
    intro recent
    refine inv.nobody lives ?_ (by rw [place]; rfl) (by rw [place]; nofun) y since
      ⟨holds, by rw [held]; rfl, recent⟩
    rw [place]
    exact fun _ _ => id
  own t torn since inode made place lives path := by
    subst made
    have recent : s.now - since < 600 := by
      have ordered := orderly lives
      rwa [place] at ordered
    obtain ⟨inode', path', _, owner⟩ :=
      inv.written t since ⟨lives, by rw [place]; rfl, recent⟩
    obtain rfl : inode = inode' := Option.some.inj (path.symm.trans path')
    exact owner

theorem init_inv : Inv State.init :=
  ⟨nofun, fun _ _ _ _ busy => absurd rfl busy, fun _ busy => absurd rfl busy, nofun,
    fun _ _ held => absurd held.1 Bool.false_ne_true,
    fun _ _ _ lives => absurd lives Bool.false_ne_true, fun _ _ => trivial⟩

end Main

/-- In every run whose steps are all orderly, the lock is exclusive and a release removes its own
process's file. -/
theorem drain_lock_exclusive (signals : Nat → Nat → Bool) (run : List Event)
    (orderly : Along (step signals) (Orderly signals) .init run) :
    Along (step signals) Safe .init run :=
  along_of_invariant (step signals) Inv (Orderly signals) Safe
    (fun _ event inv ordered => step_kept inv event ordered)
    (fun _ event inv ordered => step_safe inv event ordered) run _ init_inv orderly

def sampleThread (pid : Nat) : Thread := ⟨pid, 0⟩

def steps (pid count : Nat) : List Event :=
  List.replicate count (.advance (sampleThread pid) false)

def handover : List Event :=
  [.start 1, .start 2, .acquire (sampleThread 1)] ++ steps 1 4 ++ [.acquire (sampleThread 2)] ++
    steps 2 6 ++ [.release (sampleThread 1)] ++ steps 1 3 ++ [.acquire (sampleThread 2)] ++ steps 2 4

theorem handover_exclusive : Along (step fun _ _ => true) Safe .init handover :=
  drain_lock_exclusive (fun _ _ => true) handover (by decide +kernel)

def bothLook : List Event :=
  [.start 1, .start 2, .acquire (sampleThread 1), .acquire (sampleThread 2)] ++ steps 1 1 ++
    steps 2 1 ++ steps 1 3 ++ steps 2 2

theorem lock_given_twice : ¬ ∀ (signals : Nat → Nat → Bool) (run : List Event),
    Along (step signals) Safe .init run := by
  intro safe
  have last := ((along_append _ _ bothLook [.advance (sampleThread 2) false] _).mp
    (safe (fun _ _ => true) _)).2.1
  refine last.alone (sampleThread 2) false 0 0 rfl ?_ ?_ (sampleThread 1) 0 ?_ ?_ ?_ ?_
  all_goals decide +kernel

end Hartos.DrainLock
