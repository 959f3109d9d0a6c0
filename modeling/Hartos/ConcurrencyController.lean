import Hartos.BucketIndex
import Hartos.PipelineStages
import Hartos.StepSystem

/-!
The concurrency controller with its four maps: the slot table and the sets of
slot ids by channel, by chat and by user. The waiters of `acquire` are numbered
events; `release` sets the one registered under the slot's chat. The pipeline's
stage counts the same slots without the indexes.
-/
namespace Hartos.Concurrency
open KeyedTable KeyedGroups BucketIndex
open Hartos.Queue (chatKey)

structure ConcurrencyLimits where
  maxPerUser : Int := 4
  maxPerChannel : Int := 20
  maxPerChat : Int := 2
  maxGlobal : Int := 100
  timeoutSeconds : Int := 300

structure ConcurrencyTotals where
  totalAcquired : Nat := 0
  totalRejected : Nat := 0
  totalQueued : Nat := 0
  totalReleased : Nat := 0
  deriving DecidableEq

structure ConcurrencySlot where
  slotId : String
  channel : String
  chatId : String
  userId : String
  acquiredAt : Time
  deriving DecidableEq

def ConcurrencySlot.chat (slot : ConcurrencySlot) : String := chatKey slot.channel slot.chatId

structure ConcurrencyController where
  slots : Table ConcurrencySlot.slotId
  byChannel : Index String String
  byChat : Index String String
  byUser : Index String String
  stats : ConcurrencyTotals
  slotCounter : Nat
  waiters : Dict String Nat
  waiterCount : Nat
  signalled : List Nat

namespace ConcurrencyController

def init : ConcurrencyController where
  slots := Table.empty ConcurrencySlot.slotId
  byChannel := Dict.empty
  byChat := Dict.empty
  byUser := Dict.empty
  stats := {}
  slotCounter := 0
  waiters := Dict.empty
  waiterCount := 0
  signalled := []

def makeSlotId (channel chatId userId : String) (counter : Nat) : String :=
  channel ++ ":" ++ chatId ++ ":" ++ userId ++ ":" ++ toString counter

variable (controller : ConcurrencyController) (limits : ConcurrencyLimits)

def isAvailable (controller : ConcurrencyController) (channel chatId userId : String) : Bool :=
  if (controller.slots.rows.length : Int) ≥ limits.maxGlobal then false
  else if ((controller.byChannel.bucket channel).length : Int) ≥ limits.maxPerChannel then false
  else if ((controller.byChat.bucket (chatKey channel chatId)).length : Int) ≥ limits.maxPerChat
    then false
  else if ((controller.byUser.bucket userId).length : Int) ≥ limits.maxPerUser then false
  else true

def enter (slot : ConcurrencySlot) : ConcurrencyController :=
  { controller with
    slots := controller.slots.set slot
    byChannel := controller.byChannel.add slot.channel slot.slotId
    byChat := controller.byChat.add slot.chat slot.slotId
    byUser := controller.byUser.add slot.userId slot.slotId }

def acquireSync (controller : ConcurrencyController) (channel chatId userId : String) (now : Time) :
    Option String × ConcurrencyController :=
  if controller.isAvailable limits channel chatId userId then
    let counter := controller.slotCounter + 1
    let slotId := makeSlotId channel chatId userId counter
    let entered := controller.enter ⟨slotId, channel, chatId, userId, now⟩
    (some slotId,
      { entered with
        slotCounter := counter
        stats := { entered.stats with totalAcquired := entered.stats.totalAcquired + 1 } })
  else
    (none,
      { controller with
        stats := { controller.stats with totalRejected := controller.stats.totalRejected + 1 } })

def register (channel chatId : String) : ConcurrencyController :=
  { controller with
    waiters := controller.waiters.set (chatKey channel chatId, controller.waiterCount)
    waiterCount := controller.waiterCount + 1
    stats := { controller.stats with totalQueued := controller.stats.totalQueued + 1 } }

/-- `acquire` up to its answer, or up to where it waits for its event. -/
def acquire (controller : ConcurrencyController) (channel chatId userId : String) (wait : Bool)
    (now : Time) :
    Option String × ConcurrencyController :=
  match controller.acquireSync limits channel chatId userId now with
  | (some slotId, acquired) => (some slotId, acquired)
  | (none, refused) => (none, if wait then refused.register channel chatId else refused)

/-- The rest of a waiting `acquire`: its event was set, or the wait timed out. -/
def resume (controller : ConcurrencyController) (channel chatId userId : String) (waiter : Nat)
    (timedOut : Bool) (now : Time) :
    Option String × ConcurrencyController :=
  let dropWaiter := fun (left : ConcurrencyController) =>
    { left with waiters := left.waiters.erase (chatKey channel chatId) }
  if timedOut then (none, dropWaiter controller)
  else if waiter ∈ controller.signalled then
    let (answer, acquired) := controller.acquireSync limits channel chatId userId now
    (answer, dropWaiter acquired)
  else (none, controller)

/-- The slot `release` takes out: the one named, else the first with all three
attributes. An empty string names nothing. -/
def target (slotId channel chatId userId : Option String) : Option ConcurrencySlot :=
  let given := fun (name : Option String) => name.getD "" ≠ ""
  match (slotId.filter (· ≠ "")).bind controller.slots.get? with
  | some slot => some slot
  | none =>
      if given channel ∧ given chatId ∧ given userId then
        controller.slots.rows.find? fun slot =>
          some slot.channel = channel ∧ some slot.chatId = chatId ∧ some slot.userId = userId
      else none

def leave (slot : ConcurrencySlot) : ConcurrencyController :=
  { controller with
    slots := controller.slots.erase slot.slotId
    byChannel := controller.byChannel.discard slot.channel slot.slotId
    byChat := controller.byChat.discard slot.chat slot.slotId
    byUser := controller.byUser.discard slot.userId slot.slotId }

def release (slotId : Option String := none) (channel : Option String := none)
    (chatId : Option String := none)
    (userId : Option String := none) : Bool × ConcurrencyController :=
  match controller.target slotId channel chatId userId with
  | none => (false, controller)
  | some slot =>
      let left := controller.leave slot
      (true,
        { left with
          stats := { left.stats with totalReleased := left.stats.totalReleased + 1 }
          signalled := ((left.waiters.value? slot.chat).toList) ++ left.signalled })

def releaseEach : List String → ConcurrencyController → Nat × ConcurrencyController
  | [], controller => (0, controller)
  | slotId :: rest, controller =>
      let (found, left) := controller.release (some slotId)
      let (released, final) := releaseEach rest left
      (if found then released + 1 else released, final)

/-- `listed` is the order in which the call finds the ids of the set. -/
def releaseAllForUser (userId : String) (listed : List String → List String) :
    Nat × ConcurrencyController :=
  releaseEach (listed (controller.byUser.bucket userId)) controller

def releaseAllForChannel (channel : String) (listed : List String → List String) :
    Nat × ConcurrencyController :=
  releaseEach (listed (controller.byChannel.bucket channel)) controller

def releaseAllForChat (channel chatId : String) (listed : List String → List String) :
    Nat × ConcurrencyController :=
  releaseEach (listed (controller.byChat.bucket (chatKey channel chatId))) controller

/-- `max_age_seconds or timeout_seconds`: an age of zero is no age. -/
def maxAge (maxAgeSeconds : Option Int) : Int :=
  match maxAgeSeconds with
  | some age => if age = 0 then limits.timeoutSeconds else age
  | none => limits.timeoutSeconds

def cleanupStale (controller : ConcurrencyController) (maxAgeSeconds : Option Int) (now : Time) :
    Nat × ConcurrencyController :=
  let stale := controller.slots.rows.filter fun slot =>
    now - slot.acquiredAt > seconds (maxAge limits maxAgeSeconds)
  releaseEach (stale.map ConcurrencySlot.slotId) controller

def clear : Nat × ConcurrencyController :=
  (controller.slots.rows.length,
    { controller with
      slots := Table.empty ConcurrencySlot.slotId
      byChannel := Dict.empty
      byChat := Dict.empty
      byUser := Dict.empty })

inductive Operation
  | acquireSync (channel chatId userId : String) (now : Time)
  | acquire (channel chatId userId : String) (wait : Bool) (now : Time)
  | resume (channel chatId userId : String) (waiter : Nat) (timedOut : Bool) (now : Time)
  | release (slotId channel chatId userId : Option String)
  | releaseAllForUser (userId : String) (listed : List String → List String)
  | releaseAllForChannel (channel : String) (listed : List String → List String)
  | releaseAllForChat (channel chatId : String) (listed : List String → List String)
  | cleanupStale (maxAgeSeconds : Option Int) (now : Time)
  | clear

def step (controller : ConcurrencyController) : Operation → ConcurrencyController
  | .acquireSync channel chatId userId now =>
      (controller.acquireSync limits channel chatId userId now).2
  | .acquire channel chatId userId wait now =>
      (controller.acquire limits channel chatId userId wait now).2
  | .resume channel chatId userId waiter timedOut now =>
      (controller.resume limits channel chatId userId waiter timedOut now).2
  | .release slotId channel chatId userId => (controller.release slotId channel chatId userId).2
  | .releaseAllForUser userId listed => (controller.releaseAllForUser userId listed).2
  | .releaseAllForChannel channel listed => (controller.releaseAllForChannel channel listed).2
  | .releaseAllForChat channel chatId listed =>
      (controller.releaseAllForChat channel chatId listed).2
  | .cleanupStale maxAgeSeconds now => (controller.cleanupStale limits maxAgeSeconds now).2
  | .clear => controller.clear.2

structure Indexed (controller : ConcurrencyController) : Prop where
  channels : Projects ConcurrencySlot.channel ConcurrencySlot.slotId controller.byChannel
    controller.slots.rows
  chats : Projects ConcurrencySlot.chat ConcurrencySlot.slotId controller.byChat
    controller.slots.rows
  users : Projects ConcurrencySlot.userId ConcurrencySlot.slotId controller.byUser
    controller.slots.rows

def held (label : ConcurrencySlot → String) (wanted : String)
    (controller : ConcurrencyController) : Int :=
  (group label wanted controller.slots.rows).length

structure WithinLimits (limits : ConcurrencyLimits) (controller : ConcurrencyController) :
    Prop where
  total : (controller.slots.rows.length : Int) ≤ max 0 limits.maxGlobal
  channels : ∀ channel, held ConcurrencySlot.channel channel controller ≤ max 0 limits.maxPerChannel
  chats : ∀ chat, held ConcurrencySlot.chat chat controller ≤ max 0 limits.maxPerChat
  users : ∀ user, held ConcurrencySlot.userId user controller ≤ max 0 limits.maxPerUser

def Numbered : Prop :=
  ∀ slot ∈ controller.slots.rows, ∃ counter ≤ controller.slotCounter,
    slot.slotId = makeSlotId slot.channel slot.chatId slot.userId counter

structure Sound (limits : ConcurrencyLimits) (controller : ConcurrencyController) : Prop where
  indexed : controller.Indexed
  within : controller.WithinLimits limits
  numbered : controller.Numbered

/-- Two controllers with the same slots, indexes and counter are sound together. -/
theorem Sound.congr {limits : ConcurrencyLimits} {before after : ConcurrencyController}
    (sound : before.Sound limits) (slots : after.slots = before.slots)
    (byChannel : after.byChannel = before.byChannel) (byChat : after.byChat = before.byChat)
    (byUser : after.byUser = before.byUser) (counter : after.slotCounter = before.slotCounter) :
    after.Sound limits := by
  obtain ⟨⟨channels, chats, users⟩, ⟨total, perChannel, perChat, perUser⟩, numbered⟩ := sound
  constructor
  · constructor
    · rw [slots, byChannel]; exact channels
    · rw [slots, byChat]; exact chats
    · rw [slots, byUser]; exact users
  · constructor <;> simp only [held, slots] <;> assumption
  · intro slot member
    rw [counter]
    exact numbered slot (slots ▸ member)

variable (limits : ConcurrencyLimits) (controller : ConcurrencyController) (slot : ConcurrencySlot)

theorem init_sound : init.Sound limits where
  indexed := ⟨projects_empty _ _, projects_empty _ _, projects_empty _ _⟩
  within := by
    constructor
    · exact le_max_left 0 _
    all_goals intro wanted; exact le_max_left 0 _
  numbered := by
    intro slot member
    cases member

theorem counter_of_suffix {front front' : String} {counter counter' : Nat}
    (same : front ++ ":" ++ toString counter = front' ++ ":" ++ toString counter') :
    counter = counter' := by
  have plain : ∀ n : Nat, ∀ letter ∈ (Nat.toDigits 10 n).reverse, decide (letter ≠ ':') = true := by
    intro n letter member
    have digit := Nat.isDigit_of_mem_toDigits (by decide) (by decide) (List.mem_reverse.mp member)
    apply decide_eq_true
    rintro rfl
    cases digit
  have last : ∀ (front : String) (n : Nat),
      (front ++ ":" ++ toString n).toList.reverse.takeWhile (· ≠ ':') =
        (Nat.toDigits 10 n).reverse := by
    intro front n
    have spelled : (front ++ ":" ++ toString n).toList.reverse =
        (Nat.toDigits 10 n).reverse ++ ':' :: front.toList.reverse := by
      simp
    rw [spelled, List.takeWhile_append_of_pos (plain n)]
    simp
  have digits := congrArg (fun text => text.toList.reverse.takeWhile (· ≠ ':')) same
  simp only [last, List.reverse_inj] at digits
  have value := congrArg (fun letters => Nat.ofDigitChars 10 letters 0) digits
  simpa using value

theorem fresh_id (numbered : controller.Numbered) (channel chatId userId : String) :
    makeSlotId channel chatId userId (controller.slotCounter + 1) ∉ controller.slots.keys := by
  intro taken
  obtain ⟨slot, member, same⟩ := List.mem_map.mp taken
  obtain ⟨counter, bound, named⟩ := numbered slot member
  have equal : counter = controller.slotCounter + 1 := counter_of_suffix (named.symm.trans same)
  omega

theorem rows_enter (fresh : slot.slotId ∉ controller.slots.keys) :
    (controller.enter slot).slots.rows = controller.slots.rows ++ [slot] :=
  controller.slots.rows_set_absent slot fresh

theorem isAvailable_iff (channel chatId userId : String) :
    controller.isAvailable limits channel chatId userId = true ↔
      (controller.slots.rows.length : Int) < limits.maxGlobal ∧
      ((controller.byChannel.bucket channel).length : Int) < limits.maxPerChannel ∧
      ((controller.byChat.bucket (chatKey channel chatId)).length : Int) < limits.maxPerChat ∧
      ((controller.byUser.bucket userId).length : Int) < limits.maxPerUser := by
  simp only [isAvailable]
  split_ifs <;> simp_all

theorem held_enter (fresh : slot.slotId ∉ controller.slots.keys) (label : ConcurrencySlot → String)
    (wanted : String) :
    held label wanted (controller.enter slot) =
      held label wanted controller + if label slot = wanted then 1 else 0 := by
  rw [held, rows_enter controller slot fresh, group_snoc, held]
  by_cases hit : label slot = wanted <;> simp [hit]

theorem held_bucket {label : ConcurrencySlot → String} {index : Index String String}
    {controller : ConcurrencyController}
    (projects : Projects label ConcurrencySlot.slotId index controller.slots.rows)
    (wanted : String) : ((index.bucket wanted).length : Int) = held label wanted controller := by
  rw [projects.bucket wanted, List.length_map]
  rfl

/-- Room under the slot's own value keeps every value of the label within the limit. -/
theorem held_enter_le (fresh : slot.slotId ∉ controller.slots.keys)
    (label : ConcurrencySlot → String) (limit : Int)
    (room : held label (label slot) controller < limit)
    (within : ∀ wanted, held label wanted controller ≤ max 0 limit) (wanted : String) :
    held label wanted (controller.enter slot) ≤ max 0 limit := by
  rw [held_enter controller slot fresh]
  by_cases hit : label slot = wanted
  · rw [if_pos hit, ← hit]
    exact le_trans (Int.add_one_le_of_lt room) (le_max_right 0 limit)
  · rw [if_neg hit, Int.add_zero]
    exact within wanted

theorem entered_sound (sound : controller.Sound limits) (slot : ConcurrencySlot)
    (fresh : slot.slotId ∉ controller.slots.keys)
    (named : slot.slotId =
      makeSlotId slot.channel slot.chatId slot.userId (controller.slotCounter + 1))
    (room : (controller.slots.rows.length : Int) < limits.maxGlobal ∧
      held ConcurrencySlot.channel slot.channel controller < limits.maxPerChannel ∧
      held ConcurrencySlot.chat slot.chat controller < limits.maxPerChat ∧
      held ConcurrencySlot.userId slot.userId controller < limits.maxPerUser) :
    Sound limits { controller.enter slot with slotCounter := controller.slotCounter + 1 } := by
  have rows := rows_enter controller slot fresh
  obtain ⟨global, perChannel, perChat, perUser⟩ := room
  constructor
  · constructor
    · exact rows ▸ sound.indexed.channels.add slot fresh
    · exact rows ▸ sound.indexed.chats.add slot fresh
    · exact rows ▸ sound.indexed.users.add slot fresh
  · constructor
    · rw [rows, List.length_append]
      exact le_trans (Int.add_one_le_of_lt global) (le_max_right 0 _)
    · exact held_enter_le controller slot fresh _ _ perChannel sound.within.channels
    · exact held_enter_le controller slot fresh _ _ perChat sound.within.chats
    · exact held_enter_le controller slot fresh _ _ perUser sound.within.users
  · intro other member
    rw [rows, List.mem_append, List.mem_singleton] at member
    rcases member with old | rfl
    · obtain ⟨counter, bound, name⟩ := sound.numbered other old
      exact ⟨counter, Nat.le_succ_of_le bound, name⟩
    · exact ⟨_, Nat.le_refl _, named⟩

section

variable (sound : controller.Sound limits) (channel chatId userId : String)
include sound

theorem acquireSync_sound (now : Time) :
    (controller.acquireSync limits channel chatId userId now).2.Sound limits := by
  rw [acquireSync]
  split
  next available =>
    have fresh := fresh_id controller sound.numbered channel chatId userId
    obtain ⟨global, perChannel, perChat, perUser⟩ := (isAvailable_iff ..).mp available
    rw [held_bucket sound.indexed.channels] at perChannel
    rw [held_bucket sound.indexed.chats] at perChat
    rw [held_bucket sound.indexed.users] at perUser
    have entered := entered_sound limits controller sound
      ⟨makeSlotId channel chatId userId (controller.slotCounter + 1), channel, chatId, userId, now⟩
      fresh rfl ⟨global, perChannel, perChat, perUser⟩
    exact entered.congr rfl rfl rfl rfl rfl
  next => exact sound.congr rfl rfl rfl rfl rfl

theorem acquire_sound (wait : Bool) (now : Time) :
    (controller.acquire limits channel chatId userId wait now).2.Sound limits := by
  have tried := acquireSync_sound limits controller sound channel chatId userId now
  rw [acquire]
  split
  next acquired answered =>
    rw [answered] at tried
    exact tried
  next refused answered =>
    rw [answered] at tried
    cases wait with
    | true => exact tried.congr rfl rfl rfl rfl rfl
    | false => exact tried

theorem resume_sound (waiter : Nat) (timedOut : Bool) (now : Time) :
    (controller.resume limits channel chatId userId waiter timedOut now).2.Sound limits := by
  have tried := acquireSync_sound limits controller sound channel chatId userId now
  rw [resume]
  split_ifs
  · exact sound.congr rfl rfl rfl rfl rfl
  · exact tried.congr rfl rfl rfl rfl rfl
  · exact sound

end

theorem target_mem (slotId channel chatId userId : Option String) (slot : ConcurrencySlot)
    (found : controller.target slotId channel chatId userId = some slot) :
    slot ∈ controller.slots.rows := by
  rw [target] at found
  split at found
  next named =>
    obtain ⟨wanted, _, stored⟩ := Option.bind_eq_some_iff.mp named
    exact controller.slots.get?_mem wanted slot (found ▸ stored)
  next =>
    split at found
    · exact List.mem_of_find?_eq_some found
    · cases found

theorem held_leave (label : ConcurrencySlot → String) (wanted : String) :
    held label wanted (controller.leave slot) ≤ held label wanted controller := by
  have fewer : ((controller.leave slot).slots.rows).Sublist controller.slots.rows :=
    List.filter_sublist
  exact Int.ofNat_le.mpr (fewer.filter _).length_le

theorem leave_sound (sound : controller.Sound limits) (slot : ConcurrencySlot)
    (inside : slot ∈ controller.slots.rows) : (controller.leave slot).Sound limits := by
  have unique := controller.slots.unique
  have fewer : ((controller.leave slot).slots.rows).Sublist controller.slots.rows :=
    List.filter_sublist
  constructor
  · constructor
    · exact sound.indexed.channels.discard slot inside unique
    · exact sound.indexed.chats.discard slot inside unique
    · exact sound.indexed.users.discard slot inside unique
  · constructor
    · exact le_trans (Int.ofNat_le.mpr fewer.length_le) sound.within.total
    · intro wanted
      exact le_trans (held_leave controller slot _ wanted) (sound.within.channels wanted)
    · intro wanted
      exact le_trans (held_leave controller slot _ wanted) (sound.within.chats wanted)
    · intro wanted
      exact le_trans (held_leave controller slot _ wanted) (sound.within.users wanted)
  · intro other member
    exact sound.numbered other (fewer.subset member)

theorem release_sound (sound : controller.Sound limits)
    (slotId channel chatId userId : Option String) :
    (controller.release slotId channel chatId userId).2.Sound limits := by
  rw [release]
  split
  · exact sound
  next slot found =>
    have left := leave_sound limits controller sound slot
      (target_mem controller slotId channel chatId userId slot found)
    exact left.congr rfl rfl rfl rfl rfl

theorem releaseEach_sound (ids : List String) (controller : ConcurrencyController)
    (sound : controller.Sound limits) : (releaseEach ids controller).2.Sound limits := by
  induction ids generalizing controller with
  | nil => exact sound
  | cons slotId rest ih => exact ih _ (release_sound limits controller sound (some slotId) _ _ _)

theorem clear_sound : controller.clear.2.Sound limits := by
  have fresh := init_sound limits
  constructor
  · exact ⟨fresh.indexed.channels, fresh.indexed.chats, fresh.indexed.users⟩
  · exact ⟨fresh.within.total, fresh.within.channels, fresh.within.chats, fresh.within.users⟩
  · intro slot member
    cases member

theorem step_sound (operation : Operation) (sound : controller.Sound limits) :
    (controller.step limits operation).Sound limits := by
  cases operation with
  | acquireSync channel chatId userId now =>
    exact acquireSync_sound limits controller sound channel chatId userId now
  | acquire channel chatId userId wait now =>
    exact acquire_sound limits controller sound channel chatId userId wait now
  | resume channel chatId userId waiter timedOut now =>
    exact resume_sound limits controller sound channel chatId userId waiter timedOut now
  | release slotId channel chatId userId =>
    exact release_sound limits controller sound slotId channel chatId userId
  | releaseAllForUser userId listed => exact releaseEach_sound limits _ controller sound
  | releaseAllForChannel channel listed => exact releaseEach_sound limits _ controller sound
  | releaseAllForChat channel chatId listed => exact releaseEach_sound limits _ controller sound
  | cleanupStale maxAgeSeconds now => exact releaseEach_sound limits _ controller sound
  | clear => exact clear_sound limits controller

/-- In every state a controller reaches, the three indexes are the projections of
the slot table and no limit is exceeded. -/
theorem always_indexed_within_limits (limits : ConcurrencyLimits) (run : List Operation) :
    StepSystem.Always (step limits)
      (fun controller => controller.Indexed ∧ controller.WithinLimits limits) init run := by
  apply StepSystem.always_of_invariant (step limits) (Sound limits) _ (fun _ _ => True)
  · intro controller operation sound _
    exact step_sound limits controller operation sound
  · intro controller sound
    exact ⟨sound.indexed, sound.within⟩
  · exact init_sound limits
  · exact StepSystem.along_of_forall (step limits) (fun _ => True) run (fun _ _ => trivial) init

end ConcurrencyController

end Hartos.Concurrency
