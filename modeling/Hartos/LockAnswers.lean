import Hartos.ExpiringKeys
import Hartos.HeartbeatThread
import Hartos.TaskLock
import Mathlib.Algebra.Order.Ring.Int

/-!
The two task locks side by side, with the `ttl` argument and `renew`, and without
heartbeats. Redis keys disappear at their expiry; the entries of the in-process lock
stand until they are overwritten or deleted.
-/
namespace Hartos.LockAnswers
open ExpiringKeys KeyedTable StepSystem

abbrev Ttl := { ttl : Nat // 0 < ttl }

inductive Call where
  | tryClaimTask (taskId : TaskId) (agentId : AgentId) (ttl : Option Ttl)
  | renew (taskId : TaskId) (agentId : AgentId) (ttl : Option Ttl)
  | releaseTask (taskId : TaskId) (agentId : AgentId)
  | getTaskOwner (taskId : TaskId)
  | isTaskLocked (taskId : TaskId)
  deriving DecidableEq

structure Timed where
  elapsed : Nat
  call : Call
  deriving DecidableEq

inductive Answer where
  | done (success : Bool)
  | owner (agentId : Option AgentId)
  deriving DecidableEq

structure Clocked (Lock : Type) where
  lock : Lock
  clock : Time

def Clocked.serve {Lock : Type} (serve : Lock → Time → Call → Answer × Lock)
    (state : Clocked Lock) (event : Timed) : Answer × Clocked Lock :=
  let now := state.clock + event.elapsed
  ((serve state.lock now event.call).1, ⟨(serve state.lock now event.call).2, now⟩)

abbrev Holdings := TaskId → Option (AgentId × Time)

namespace Holdings

def lapse (held : Holdings) (now : Time) : Holdings :=
  fun taskId => (held taskId).filter fun holder => decide (now < holder.2)

def owner (held : Holdings) (taskId : TaskId) : Option AgentId := (held taskId).map Prod.fst

def expiry (now : Time) (ttl : Option Ttl) : Time :=
  now + seconds ((ttl.map Subtype.val).getD HeartbeatThread.defaultTtl)

def answer (held : Holdings) : Call → Answer
  | .tryClaimTask taskId _ _ => .done (held taskId).isNone
  | .renew taskId agentId _ => .done (decide (held.owner taskId = some agentId))
  | .releaseTask taskId agentId => .done (decide (held.owner taskId = some agentId))
  | .getTaskOwner taskId => .owner (held.owner taskId)
  | .isTaskLocked taskId => .done (held taskId).isSome

def after (held : Holdings) (now : Time) : Call → Holdings
  | .tryClaimTask taskId agentId ttl =>
      if (held taskId).isNone then Function.update held taskId (some (agentId, expiry now ttl))
      else held
  | .renew taskId agentId ttl =>
      if held.owner taskId = some agentId then
        Function.update held taskId (some (agentId, expiry now ttl))
      else held
  | .releaseTask taskId agentId =>
      if held.owner taskId = some agentId then Function.update held taskId none else held
  | .getTaskOwner _ | .isTaskLocked _ => held

theorem expiry_later (now : Time) (ttl : Option Ttl) : now < expiry now ttl := by
  apply Int.lt_add_of_pos_right
  cases ttl with
  | none => decide
  | some ttl =>
    exact Int.mul_pos (Int.natCast_pos.mpr ttl.property) (by decide)

end Holdings

namespace InMemory
variable (lock : InMemoryTaskLock) (now : Time)

/-- `ttl if ttl is not None else self.DEFAULT_TTL`. -/
def expiry (ttl : Option Nat) : Time :=
  now + seconds (ttl.getD HeartbeatThread.defaultTtl)

def tryClaimTask (taskId : TaskId) (agentId : AgentId) (ttl : Option Nat) (now : Time) :
    Bool × InMemoryTaskLock :=
  let claimed : InMemoryTaskLock := ⟨lock.locks.set ⟨taskId, agentId, expiry now ttl⟩⟩
  match lock.locks.get? taskId with
  | some existing => if existing.expiresAt > now then (false, lock) else (true, claimed)
  | none => (true, claimed)

def renew (taskId : TaskId) (agentId : AgentId) (ttl : Option Nat) (now : Time) :
    Bool × InMemoryTaskLock :=
  match lock.locks.get? taskId with
  | none => (false, lock)
  | some existing =>
      if existing.agentId ≠ agentId then (false, lock)
      else (true, ⟨lock.locks.set { existing with expiresAt := expiry now ttl }⟩)

def serve : Call → Answer × InMemoryTaskLock
  | .tryClaimTask taskId agentId ttl =>
      let served := tryClaimTask lock taskId agentId (ttl.map Subtype.val) now
      (.done served.1, served.2)
  | .renew taskId agentId ttl =>
      let served := renew lock taskId agentId (ttl.map Subtype.val) now
      (.done served.1, served.2)
  | .releaseTask taskId agentId =>
      let served := lock.releaseTask taskId agentId
      (.done served.1, served.2)
  | .getTaskOwner taskId => (.owner (getTaskOwner lock taskId now), lock)
  | .isTaskLocked taskId => (.done (isTaskLocked lock taskId now), lock)

def held : Holdings := fun taskId =>
  (live LockEntry.expiresAt lock.locks now taskId).map fun entry => (entry.agentId, entry.expiresAt)

def inTime : Call → Prop
  | .renew taskId agentId _ | .releaseTask taskId agentId =>
      ∀ entry, lock.locks.get? taskId = some entry → entry.agentId = agentId →
        now < entry.expiresAt
  | .tryClaimTask _ _ _ | .getTaskOwner _ | .isTaskLocked _ => True

variable (lock : InMemoryTaskLock) (now : Time) (taskId : TaskId) (entry : LockEntry)
  (agentId : AgentId) (ttl : Option Ttl)

theorem held_later {now later : Time} (order : now ≤ later) :
    held lock later = (held lock now).lapse later := by
  funext taskId
  rw [held, Holdings.lapse, held, live_later LockEntry.expiresAt lock.locks order,
    Option.filter_map]
  rfl

theorem held_set (now : Time) (fresh : now < entry.expiresAt) :
    held ⟨lock.locks.set entry⟩ now =
      Function.update (held lock now) entry.taskId (some (entry.agentId, entry.expiresAt)) := by
  funext taskId
  rw [held, live_set, Function.update_apply]
  by_cases here : entry.taskId = taskId
  · rw [if_pos here, if_pos here.symm, if_pos fresh, Option.map_some]
  · rw [if_neg here, if_neg (Ne.symm here), held]

theorem held_erase (dropped : TaskId) (now : Time) :
    held ⟨lock.locks.erase dropped⟩ now = Function.update (held lock now) dropped none := by
  funext taskId
  rw [held, live_erase, Function.update_apply]
  by_cases here : taskId = dropped
  · rw [if_pos here, if_pos here, Option.map_none]
  · rw [if_neg here, if_neg here, held]

theorem liveOwner_eq : lock.locks.liveOwner taskId now = (held lock now).owner taskId := by
  rw [LockTable.liveOwner, Holdings.owner, held, live]
  cases lock.locks.get? taskId with
  | none => rfl
  | some entry => by_cases alive : now < entry.expiresAt <;> simp [alive]

theorem held_of_get? (found : lock.locks.get? taskId = some entry) :
    held lock now taskId =
      if now < entry.expiresAt then some (entry.agentId, entry.expiresAt) else none := by
  rw [held, live, found]
  dsimp only
  split <;> rfl

theorem held_of_missing (missing : lock.locks.get? taskId = none) :
    held lock now taskId = none := by
  rw [held, live, missing, Option.map_none]

theorem tryClaimTask_refines :
    (serve lock now (.tryClaimTask taskId agentId ttl)).1 =
        (held lock now).answer (.tryClaimTask taskId agentId ttl) ∧
      held (serve lock now (.tryClaimTask taskId agentId ttl)).2 now =
        (held lock now).after now (.tryClaimTask taskId agentId ttl) := by
  have claimed := held_set lock ⟨taskId, agentId, Holdings.expiry now ttl⟩ now
    (Holdings.expiry_later now ttl)
  rw [serve, tryClaimTask, Holdings.answer, Holdings.after]
  cases found : lock.locks.get? taskId with
  | none =>
    rw [held_of_missing lock now taskId found]
    exact ⟨rfl, claimed⟩
  | some entry =>
    rw [held_of_get? lock now taskId entry found]
    by_cases alive : now < entry.expiresAt
    · simp only [gt_iff_lt, if_pos alive, Option.isNone_some, Bool.false_eq_true, ↓reduceIte,
        and_self]
    · simp only [gt_iff_lt, if_neg alive, Option.isNone_none, ↓reduceIte, true_and]
      exact claimed

def Owns (lock : InMemoryTaskLock) (taskId : TaskId) (agentId : AgentId) : Prop :=
  ∃ entry, lock.locks.get? taskId = some entry ∧ entry.agentId = agentId

theorem held_inTime
    (fresh : ∀ entry, lock.locks.get? taskId = some entry → entry.agentId = agentId →
      now < entry.expiresAt) :
    (held lock now).owner taskId = some agentId ↔ Owns lock taskId agentId := by
  rw [Holdings.owner, Owns]
  cases found : lock.locks.get? taskId with
  | none =>
    rw [held_of_missing lock now taskId found]
    simp only [Option.map_none, reduceCtorEq, false_and, exists_false]
  | some entry =>
    rw [held_of_get? lock now taskId entry found]
    constructor
    · intro owned
      split at owned
      next =>
        rw [Option.map_some, Option.some.injEq] at owned
        exact ⟨entry, rfl, owned⟩
      next => cases owned
    · rintro ⟨other, same, owned⟩
      cases same
      rw [if_pos (fresh entry found owned), Option.map_some, owned]

theorem renew_unowned (ttl : Option Nat) (now : Time) (unowned : ¬ Owns lock taskId agentId) :
    renew lock taskId agentId ttl now = (false, lock) := by
  rw [renew]
  cases found : lock.locks.get? taskId with
  | none => rfl
  | some entry =>
    have others : entry.agentId ≠ agentId := by
      intro owned
      exact unowned ⟨entry, found, owned⟩
    exact if_pos others

theorem releaseTask_unowned (unowned : ¬ Owns lock taskId agentId) :
    lock.releaseTask taskId agentId = (false, lock) := by
  rw [InMemoryTaskLock.releaseTask]
  cases found : lock.locks.get? taskId with
  | none => rfl
  | some entry =>
    have others : entry.agentId ≠ agentId := by
      intro owned
      exact unowned ⟨entry, found, owned⟩
    exact if_neg others

theorem renew_refines (fresh : inTime lock now (.renew taskId agentId ttl)) :
    (serve lock now (.renew taskId agentId ttl)).1 =
        (held lock now).answer (.renew taskId agentId ttl) ∧
      held (serve lock now (.renew taskId agentId ttl)).2 now =
        (held lock now).after now (.renew taskId agentId ttl) := by
  have own := held_inTime lock now taskId agentId fresh
  rw [serve, Holdings.answer, Holdings.after]
  by_cases mine : Owns lock taskId agentId
  · rw [if_pos (own.mpr mine), decide_eq_true (own.mpr mine)]
    obtain ⟨entry, found, owned⟩ := mine
    have named := lock.locks.get?_key taskId entry found
    have renewed := held_set lock { entry with expiresAt := Holdings.expiry now ttl } now
      (Holdings.expiry_later now ttl)
    rw [named, owned] at renewed
    simp only [renew, found, ne_eq, owned, not_true_eq_false, if_false, true_and, named]
    exact renewed
  · rw [if_neg (mt own.mp mine), decide_eq_false (mt own.mp mine), renew_unowned _ _ _ _ _ mine]
    exact ⟨rfl, rfl⟩

theorem releaseTask_refines (fresh : inTime lock now (.releaseTask taskId agentId)) :
    (serve lock now (.releaseTask taskId agentId)).1 =
        (held lock now).answer (.releaseTask taskId agentId) ∧
      held (serve lock now (.releaseTask taskId agentId)).2 now =
        (held lock now).after now (.releaseTask taskId agentId) := by
  have own := held_inTime lock now taskId agentId fresh
  rw [serve, Holdings.answer, Holdings.after]
  by_cases mine : Owns lock taskId agentId
  · rw [if_pos (own.mpr mine), decide_eq_true (own.mpr mine)]
    obtain ⟨entry, found, owned⟩ := mine
    simp only [InMemoryTaskLock.releaseTask, found, owned, if_true, true_and]
    exact held_erase lock taskId now
  · rw [if_neg (mt own.mp mine), decide_eq_false (mt own.mp mine),
      releaseTask_unowned _ _ _ mine]
    exact ⟨rfl, rfl⟩

/-- A call that renews and releases in time is served as the claims still held say. -/
theorem serve_refines (call : Call) (fresh : inTime lock now call) :
    (serve lock now call).1 = (held lock now).answer call ∧
      held (serve lock now call).2 now = (held lock now).after now call := by
  cases call with
  | tryClaimTask taskId agentId ttl => exact tryClaimTask_refines lock now taskId agentId ttl
  | renew taskId agentId ttl => exact renew_refines lock now taskId agentId ttl fresh
  | releaseTask taskId agentId => exact releaseTask_refines lock now taskId agentId fresh
  | getTaskOwner taskId => exact ⟨congrArg Answer.owner (liveOwner_eq lock now taskId), rfl⟩
  | isTaskLocked taskId =>
    constructor
    · rw [serve, isTaskLocked]
      have owner : getTaskOwner lock taskId now = (held lock now).owner taskId :=
        liveOwner_eq lock now taskId
      rw [owner, Holdings.owner, Option.isSome_map, Holdings.answer]
    · rfl

/-- A late renewal or release succeeds, although the claim is gone. -/
theorem late_succeeds (call : Call) (late : ¬ inTime lock now call) :
    (serve lock now call).1 = .done true ∧ (held lock now).answer call = .done false := by
  cases call with
  | renew taskId agentId ttl =>
    simp only [inTime, not_forall] at late
    obtain ⟨entry, found, owned, lapsed⟩ := late
    have gone : held lock now taskId = none := by
      rw [held_of_get? lock now taskId entry found, if_neg lapsed]
    simp only [serve, renew, found, ne_eq, owned, not_true_eq_false, if_false, Holdings.answer,
      Holdings.owner, gone, Option.map_none, reduceCtorEq, decide_false, and_self]
  | releaseTask taskId agentId =>
    simp only [inTime, not_forall] at late
    obtain ⟨entry, found, owned, lapsed⟩ := late
    have gone : held lock now taskId = none := by
      rw [held_of_get? lock now taskId entry found, if_neg lapsed]
    simp only [serve, InMemoryTaskLock.releaseTask, found, owned, if_true, Holdings.answer,
      Holdings.owner, gone, Option.map_none, reduceCtorEq, decide_false, and_self]
  | tryClaimTask => exact absurd trivial late
  | getTaskOwner => exact absurd trivial late
  | isTaskLocked => exact absurd trivial late

end InMemory


namespace Redis

abbrev Keys := Store String AgentId Time

variable (keys : Keys) (taskId : TaskId) (agentId : AgentId)

def lockKey : String := "agent_ledger:lock:" ++ taskId

/-- `ttl or self.DEFAULT_TTL`, as the expiry the command sets. -/
def expiry (now : Time) (ttl : Option Nat) : Time := now + seconds (HeartbeatThread.ttlOr ttl)

def tryClaimTask (ttl : Option Nat) (now : Time) : Bool × Keys :=
  setNx keys (lockKey taskId) agentId (expiry now ttl)

def renew (ttl : Option Nat) (now : Time) : Bool × Keys :=
  if fetch keys (lockKey taskId) = some agentId then expire keys (lockKey taskId) (expiry now ttl)
  else (false, keys)

def releaseTask : Bool × Keys :=
  if fetch keys (lockKey taskId) = some agentId then del keys (lockKey taskId) else (false, keys)

def serve (now : Time) (call : Call) : Answer × Keys :=
  let left := reap Item.expiresAt keys now
  match call with
  | .tryClaimTask taskId agentId ttl =>
      let served := tryClaimTask left taskId agentId (ttl.map Subtype.val) now
      (.done served.1, served.2)
  | .renew taskId agentId ttl =>
      let served := renew left taskId agentId (ttl.map Subtype.val) now
      (.done served.1, served.2)
  | .releaseTask taskId agentId =>
      let served := releaseTask left taskId agentId
      (.done served.1, served.2)
  | .getTaskOwner taskId => (.owner (fetch left (lockKey taskId)), left)
  | .isTaskLocked taskId => (.done (left.get? (lockKey taskId)).isSome, left)

def held (now : Time) : Holdings := fun taskId =>
  (live Item.expiresAt keys now (lockKey taskId)).map fun item => (item.value, item.expiresAt)

theorem lockKey_injective : Function.Injective lockKey := by
  intro first second same
  exact (String.append_right_inj _).mp same

variable (keys : Keys) (now : Time) (taskId : TaskId) (agentId : AgentId)

theorem expiry_eq (ttl : Option Ttl) :
    expiry now (ttl.map Subtype.val) = Holdings.expiry now ttl := by
  cases ttl with
  | none => rfl
  | some ttl =>
    obtain ⟨ttl, positive⟩ := ttl
    cases ttl with
    | zero => exact absurd positive (Nat.lt_irrefl 0)
    | succ ttl => rfl

theorem held_later {now later : Time} (order : now ≤ later) :
    held keys later = (held keys now).lapse later := by
  funext taskId
  rw [held, Holdings.lapse, held, live_later Item.expiresAt keys order, Option.filter_map]
  rfl

theorem held_reap : held (reap Item.expiresAt keys now) now = held keys now := by
  funext taskId
  rw [held, live_reap Item.expiresAt keys le_rfl, held]

theorem held_set (now : Time) (ttl : Option Ttl) :
    held (keys.set ⟨lockKey taskId, agentId, expiry now (ttl.map Subtype.val)⟩) now =
      Function.update (held keys now) taskId (some (agentId, Holdings.expiry now ttl)) := by
  funext other
  rw [held, live_set, Function.update_apply, expiry_eq]
  by_cases here : other = taskId
  · rw [if_pos (congrArg lockKey here.symm), if_pos here, if_pos (Holdings.expiry_later now ttl),
      Option.map_some]
  · have apart : ¬ lockKey taskId = lockKey other := fun same => here (lockKey_injective same).symm
    rw [if_neg apart, if_neg here, held]

theorem held_erase (now : Time) :
    held (keys.erase (lockKey taskId)) now = Function.update (held keys now) taskId none := by
  funext other
  rw [held, live_erase, Function.update_apply]
  by_cases here : other = taskId
  · rw [if_pos (congrArg lockKey here), if_pos here, Option.map_none]
  · have apart : ¬ lockKey other = lockKey taskId := fun same => here (lockKey_injective same)
    rw [if_neg apart, if_neg here, held]

theorem get?_left :
    ((reap Item.expiresAt keys now).get? (lockKey taskId)).map
        (fun item => (item.value, item.expiresAt)) = held keys now taskId := by
  rw [get?_reap, held]

theorem fetch_left :
    fetch (reap Item.expiresAt keys now) (lockKey taskId) = (held keys now).owner taskId := by
  rw [Holdings.owner, ← get?_left, Option.map_map, fetch]
  rfl

theorem isSome_left :
    ((reap Item.expiresAt keys now).get? (lockKey taskId)).isSome =
      (held keys now taskId).isSome := by
  rw [← get?_left, Option.isSome_map]

theorem found_left (mine : (held keys now).owner taskId = some agentId) :
    ∃ item, (reap Item.expiresAt keys now).get? (lockKey taskId) = some item ∧
      item.key = lockKey taskId ∧ item.value = agentId := by
  rw [← fetch_left, fetch] at mine
  cases found : (reap Item.expiresAt keys now).get? (lockKey taskId) with
  | none =>
    rw [found] at mine
    cases mine
  | some item =>
    rw [found, Option.map_some, Option.some.injEq] at mine
    exact ⟨item, rfl, (reap Item.expiresAt keys now).get?_key _ item found, mine⟩

theorem serve_refines (call : Call) :
    (serve keys now call).1 = (held keys now).answer call ∧
      held (serve keys now call).2 now = (held keys now).after now call := by
  cases call with
  | tryClaimTask taskId agentId ttl =>
    rw [serve, Holdings.answer, Holdings.after, ← Option.not_isSome]
    rw [tryClaimTask, setNx, isSome_left]
    cases (held keys now taskId).isSome with
    | true => exact ⟨rfl, held_reap keys now⟩
    | false =>
      refine ⟨rfl, ?_⟩
      rw [← held_reap keys now]
      exact held_set _ taskId agentId now ttl
  | renew taskId agentId ttl =>
    rw [serve, Holdings.answer, Holdings.after]
    rw [renew, fetch_left]
    by_cases mine : (held keys now).owner taskId = some agentId
    · obtain ⟨item, found, named, owned⟩ := found_left keys now taskId agentId mine
      rw [if_pos mine, if_pos mine, decide_eq_true mine, expire, found, ← held_reap keys now]
      dsimp only
      rw [named, owned]
      exact ⟨rfl, held_set _ taskId agentId now ttl⟩
    · rw [if_neg mine, if_neg mine, decide_eq_false mine]
      exact ⟨rfl, held_reap keys now⟩
  | releaseTask taskId agentId =>
    rw [serve, Holdings.answer, Holdings.after]
    rw [releaseTask, fetch_left]
    by_cases mine : (held keys now).owner taskId = some agentId
    · obtain ⟨item, found, _, _⟩ := found_left keys now taskId agentId mine
      rw [if_pos mine, if_pos mine, decide_eq_true mine, del, found, ← held_reap keys now]
      exact ⟨rfl, held_erase _ taskId now⟩
    · rw [if_neg mine, if_neg mine, decide_eq_false mine]
      exact ⟨rfl, held_reap keys now⟩
  | getTaskOwner taskId =>
    exact ⟨congrArg Answer.owner (fetch_left keys now taskId), held_reap keys now⟩
  | isTaskLocked taskId =>
    exact ⟨congrArg Answer.done (isSome_left keys now taskId), held_reap keys now⟩

end Redis

structure Alike (memory : Clocked InMemoryTaskLock) (redis : Clocked Redis.Keys) : Prop where
  clock : memory.clock = redis.clock
  held : InMemory.held memory.lock memory.clock = Redis.held redis.lock redis.clock

def InTime (state : Clocked InMemoryTaskLock) (event : Timed) : Prop :=
  InMemory.inTime state.lock (state.clock + event.elapsed) event.call

variable {memory : Clocked InMemoryTaskLock} {redis : Clocked Redis.Keys}

theorem Alike.later (alike : Alike memory redis) (elapsed : Nat) :
    InMemory.held memory.lock (memory.clock + elapsed) =
      Redis.held redis.lock (redis.clock + elapsed) := by
  have order : ∀ clock : Time, clock ≤ clock + elapsed :=
    fun clock => Int.le_add_of_nonneg_right (Int.natCast_nonneg elapsed)
  rw [InMemory.held_later memory.lock (order memory.clock),
    Redis.held_later redis.lock (order redis.clock), alike.held, alike.clock]

theorem Alike.answer_iff (alike : Alike memory redis) (event : Timed) :
    (Clocked.serve InMemory.serve memory event).1 = (Clocked.serve Redis.serve redis event).1 ↔
      InTime memory event := by
  have served := (Redis.serve_refines redis.lock (redis.clock + event.elapsed) event.call).1
  rw [Clocked.serve, Clocked.serve, InTime]
  rw [served, ← alike.later event.elapsed]
  constructor
  · intro same
    by_contra late
    obtain ⟨done, refused⟩ := InMemory.late_succeeds memory.lock _ event.call late
    rw [done, refused] at same
    cases same
  · intro fresh
    exact (InMemory.serve_refines memory.lock _ event.call fresh).1

theorem Alike.serve (alike : Alike memory redis) (event : Timed) (fresh : InTime memory event) :
    Alike (Clocked.serve InMemory.serve memory event).2
      (Clocked.serve Redis.serve redis event).2 where
  clock := congrArg (· + (event.elapsed : Int)) alike.clock
  held := by
    rw [Clocked.serve, Clocked.serve]
    rw [(InMemory.serve_refines memory.lock _ event.call fresh).2,
      (Redis.serve_refines redis.lock _ event.call).2, alike.later event.elapsed, alike.clock]

/-- The lock of one process and the lock on Redis give the same answers to a sequence of calls
exactly if, in the lock of the process, no agent renews or releases a claim of its own that has
expired. -/
theorem answers_alike_iff (start : Time) (run : List Timed) :
    answers (Clocked.serve InMemory.serve) ⟨InMemoryTaskLock.empty, start⟩ run =
        answers (Clocked.serve Redis.serve) ⟨Table.empty _, start⟩ run ↔
      Along (fun state event => (Clocked.serve InMemory.serve state event).2) InTime
        ⟨InMemoryTaskLock.empty, start⟩ run := by
  apply answers_eq_iff_along _ _ Alike
  · exact fun _ _ event alike => alike.answer_iff event
  · exact fun _ _ event alike fresh => alike.serve event fresh
  · exact ⟨rfl, rfl⟩

/-- A claim of one second, renewed two seconds later. -/
theorem renewal_after_expiry :
    ¬ ∀ (start : Time) (run : List Timed),
      answers (Clocked.serve InMemory.serve) ⟨InMemoryTaskLock.empty, start⟩ run =
        answers (Clocked.serve Redis.serve) ⟨Table.empty _, start⟩ run := by
  intro same
  have here := same 0
    [⟨0, .tryClaimTask "task_1" "agent_A" (some ⟨1, by decide⟩)⟩,
      ⟨2000000, .renew "task_1" "agent_A" none⟩]
  exact absurd here (by decide +kernel)

end Hartos.LockAnswers
