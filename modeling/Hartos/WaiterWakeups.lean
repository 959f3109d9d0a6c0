import Hartos.ConcurrencyController

/-!
The waiting calls of `acquire`, each in the stages between its critical sections: it has
failed its attempt, it waits for its event, its wait is over and the entry under its chat is
still to be removed. Another call may register, leave or release between any two of them.
-/
namespace Hartos.Concurrency
open KeyedTable KeyedGroups StepSystem
open Hartos.Queue (chatKey)

inductive Stage where
  | failed
  | waiting (event : Nat)
  | leaving
  deriving DecidableEq

structure Call where
  caller : Nat
  channel : String
  chatId : String
  userId : String
  stage : Stage
  deriving DecidableEq

namespace Call

def chat (call : Call) : String := chatKey call.channel call.chatId

def event (call : Call) : Option Nat :=
  match call.stage with
  | .waiting event => some event
  | _ => none

def waits (call : Call) : Bool := decide (call.stage ≠ .leaving)

end Call

structure WaitingRoom where
  controller : ConcurrencyController := ConcurrencyController.init
  calls : Table Call.caller := Table.empty Call.caller

inductive WaitEvent where
  | attempt (caller : Nat) (channel chatId userId : String) (wait : Bool) (now : Time)
  | register (caller : Nat)
  | wake (caller : Nat) (now : Time)
  | timeOut (caller : Nat)
  | leave (caller : Nat)
  | release (slotId channel chatId userId : Option String)

namespace WaitingRoom

def isAvailable (limits : ConcurrencyLimits) (room : WaitingRoom) (call : Call) : Bool :=
  room.controller.isAvailable limits call.channel call.chatId call.userId

def step (limits : ConcurrencyLimits) (room : WaitingRoom) : WaitEvent → WaitingRoom
  | .attempt caller channel chatId userId wait now =>
      if room.calls.get? caller = none then
        let tried := room.controller.acquireSync limits channel chatId userId now
        { controller := tried.2
          calls :=
            if tried.1 = none ∧ wait then
              room.calls.set ⟨caller, channel, chatId, userId, .failed⟩
            else room.calls }
      else room
  | .register caller =>
      match room.calls.get? caller with
      | some call =>
          if call.stage = .failed then
            { controller := room.controller.register call.channel call.chatId
              calls := room.calls.set { call with stage := .waiting room.controller.waiterCount } }
          else room
      | none => room
  | .wake caller now =>
      match room.calls.get? caller with
      | some call =>
          if ∃ event ∈ call.event, event ∈ room.controller.signalled then
            { controller := (room.controller.acquireSync limits call.channel call.chatId
                call.userId now).2
              calls := room.calls.set { call with stage := .leaving } }
          else room
      | none => room
  | .timeOut caller =>
      match room.calls.get? caller with
      | some call =>
          if call.event.isSome then
            { room with calls := room.calls.set { call with stage := .leaving } }
          else room
      | none => room
  | .leave caller =>
      match room.calls.get? caller with
      | some call =>
          if call.stage = .leaving then
            { controller :=
                { room.controller with waiters := room.controller.waiters.erase call.chat }
              calls := room.calls.erase caller }
          else room
      | none => room
  | .release slotId channel chatId userId =>
      { room with controller := (room.controller.release slotId channel chatId userId).2 }

end WaitingRoom

section Wakeups
variable (limits : ConcurrencyLimits)

def NoneForgotten (room : WaitingRoom) : Prop :=
  ∀ call ∈ room.calls.rows, ∀ event ∈ call.event, event ∉ room.controller.signalled →
    room.isAvailable limits call = true →
      room.controller.waiters.value? call.chat = some event

def admitsMore (before after : WaitingRoom) : Prop :=
  ∃ call ∈ before.calls.rows, call.waits = true ∧ before.isAvailable limits call = false ∧
    after.isAvailable limits call = true

def wakesOne (room : WaitingRoom) (event : WaitEvent) : Prop :=
  match event with
  | .release .. =>
      admitsMore limits room (room.step limits event) →
        ∃ call ∈ (room.step limits event).calls.rows, ∃ event' ∈ call.event,
          event' ∈ (room.step limits event).controller.signalled ∧
            (room.step limits event).isAvailable limits call = true
  | _ => True

def sparesOthers (room : WaitingRoom) (call : Call) : Prop :=
  ∀ other ∈ room.calls.rows, other.caller ≠ call.caller → other.chat = call.chat →
    ∀ event ∈ other.event, event ∈ room.controller.signalled

def sparesWaiters (room : WaitingRoom) (event : WaitEvent) : Prop :=
  match event with
  | .register caller =>
      ∀ call ∈ room.calls.get? caller, call.stage = .failed → sparesOthers room call
  | .leave caller =>
      ∀ call ∈ room.calls.get? caller, call.stage = .leaving → sparesOthers room call
  | .release slotId channel chatId userId =>
      ∀ slot ∈ room.controller.target slotId channel chatId userId,
        admitsMore limits room { room with controller := room.controller.leave slot } →
          ∃ call ∈ room.calls.rows, ∃ event' ∈ call.event,
            (event' ∈ room.controller.signalled ∨
              room.controller.waiters.value? slot.chat = some event') ∧
            { room with controller := room.controller.leave slot : WaitingRoom }.isAvailable
              limits call = true
  | _ => True

instance (before after : WaitingRoom) : Decidable (admitsMore limits before after) :=
  inferInstanceAs (Decidable (∃ call ∈ before.calls.rows, _ ∧ _ ∧ _))

instance (room : WaitingRoom) (call : Call) : Decidable (sparesOthers room call) :=
  inferInstanceAs (Decidable (∀ other ∈ room.calls.rows, _ → _ → ∀ event ∈ other.event, _))

instance (room : WaitingRoom) (event : WaitEvent) : Decidable (sparesWaiters limits room event) :=
  match event with
  | .register caller | .leave caller =>
      inferInstanceAs (Decidable (∀ call ∈ room.calls.get? caller, _ → sparesOthers room call))
  | .release slotId channel chatId userId =>
      inferInstanceAs (Decidable (∀ slot ∈ room.controller.target slotId channel chatId userId,
        _ → ∃ call ∈ room.calls.rows, ∃ event ∈ call.event, _ ∧ _))
  | .attempt .. | .wake .. | .timeOut .. => inferInstanceAs (Decidable True)

structure NoWakeupLost (run : List WaitEvent) : Prop where
  forgotten : Always (WaitingRoom.step limits) (NoneForgotten limits) {} run
  woken : Along (WaitingRoom.step limits) (wakesOne limits) {} run

variable {limits} {room : WaitingRoom}

def Registered (room : WaitingRoom) : Prop :=
  ∀ call ∈ room.calls.rows, ∀ event ∈ call.event,
    event ∈ room.controller.signalled ∨ room.controller.waiters.value? call.chat = some event

theorem acquireSync_waiters (limits : ConcurrencyLimits) (controller : ConcurrencyController)
    (channel chatId userId : String) (now : Time) :
    (controller.acquireSync limits channel chatId userId now).2.waiters = controller.waiters ∧
      (controller.acquireSync limits channel chatId userId now).2.signalled =
        controller.signalled := by
  rw [ConcurrencyController.acquireSync]
  split
  · exact ⟨rfl, rfl⟩
  · exact ⟨rfl, rfl⟩

section

variable (registered : Registered room)
include registered

-- A call that does not wait joins or replaces another.
theorem Registered.set (call : Call) (quiet : call.event = none)
    {controller : ConcurrencyController} (waiters : controller.waiters = room.controller.waiters)
    (signalled : controller.signalled = room.controller.signalled) :
    Registered { controller := controller, calls := room.calls.set call } := by
  intro other member event found
  rcases (room.calls.mem_set call other).mp member with rfl | ⟨old, _⟩
  · rw [quiet] at found
    cases found
  · rw [waiters, signalled]
    exact registered other old event found

theorem Registered.keep {controller : ConcurrencyController}
    (waiters : controller.waiters = room.controller.waiters)
    (signalled : controller.signalled = room.controller.signalled) :
    Registered { controller := controller, calls := room.calls } := by
  intro other member event found
  rw [waiters, signalled]
  exact registered other member event found

theorem Registered.register {call : Call} (spares : sparesOthers room call) :
    Registered
      { controller := room.controller.register call.channel call.chatId
        calls := room.calls.set { call with stage := .waiting room.controller.waiterCount } } := by
  intro other member event found
  show event ∈ room.controller.signalled ∨
    (Dict.value? (room.controller.waiters.set (call.chat, room.controller.waiterCount))
      other.chat) = some event
  rw [Dict.value?_set]
  rcases (room.calls.mem_set _ other).mp member with rfl | ⟨old, differ⟩
  · right
    exact (if_pos rfl).trans found
  · by_cases chat : call.chat = other.chat
    · exact Or.inl (spares other old differ chat.symm event found)
    · rw [if_neg chat]
      exact registered other old event found

theorem Registered.leave {call : Call} (spares : sparesOthers room call) :
    Registered
      { controller :=
          { room.controller with waiters := room.controller.waiters.erase call.chat }
        calls := room.calls.erase call.caller } := by
  intro other member event found
  obtain ⟨old, differ⟩ := (room.calls.mem_erase call.caller other).mp member
  by_cases chat : other.chat = call.chat
  · exact Or.inl (spares other old differ chat event found)
  · rcases registered other old event found with set | listed
    · exact Or.inl set
    · right
      rw [Dict.value?, Table.get?_erase, if_neg chat]
      exact listed

theorem Registered.release (slotId channel chatId userId : Option String) :
    Registered { room with
      controller := (room.controller.release slotId channel chatId userId).2 } := by
  rw [ConcurrencyController.release]
  split
  · exact registered
  · intro other member event found
    rcases registered other member event found with set | listed
    · exact Or.inl (List.mem_append_right _ set)
    · exact Or.inr listed

end

theorem step_registered (room : WaitingRoom) (event : WaitEvent) (registered : Registered room)
    (spares : sparesWaiters limits room event) : Registered (room.step limits event) := by
  cases event with
  | attempt caller channel chatId userId wait now =>
    have same := acquireSync_waiters limits room.controller channel chatId userId now
    rw [WaitingRoom.step]
    split
    · dsimp only
      split
      · exact registered.set _ rfl same.1 same.2
      · exact registered.keep same.1 same.2
    · exact registered
  | register caller =>
    rw [WaitingRoom.step]
    split
    case h_1 call found =>
      split
      case isTrue failed =>
        exact registered.register (spares call found failed)
      · exact registered
    · exact registered
  | wake caller now =>
    rw [WaitingRoom.step]
    split
    case h_1 call found =>
      have same := acquireSync_waiters limits room.controller call.channel call.chatId
        call.userId now
      split
      · exact registered.set _ rfl same.1 same.2
      · exact registered
    · exact registered
  | timeOut caller =>
    rw [WaitingRoom.step]
    split
    · split
      · exact registered.set _ rfl rfl rfl
      · exact registered
    · exact registered
  | leave caller =>
    rw [WaitingRoom.step]
    split
    case h_1 call found =>
      split
      case isTrue leaving =>
        have own := room.calls.get?_key caller call found
        exact own ▸ registered.leave (spares call found leaving)
      · exact registered
    · exact registered
  | release slotId channel chatId userId =>
    exact registered.release slotId channel chatId userId

theorem wakesOne_of_spares (room : WaitingRoom) (event : WaitEvent)
    (spares : sparesWaiters limits room event) : wakesOne limits room event := by
  cases event with
  | release slotId channel chatId userId =>
    intro admits
    have step : room.step limits (.release slotId channel chatId userId) =
        { room with controller := (room.controller.release slotId channel chatId userId).2 } :=
      rfl
    rw [step, ConcurrencyController.release] at admits ⊢
    cases found : room.controller.target slotId channel chatId userId with
    | none =>
      rw [found] at admits
      obtain ⟨call, _, _, before, after⟩ := admits
      exact absurd (before.symm.trans after) Bool.false_ne_true
    | some slot =>
      rw [found] at admits
      obtain ⟨call, member, event, found', reached, admitted⟩ := spares slot found admits
      refine ⟨call, member, event, found', ?_, admitted⟩
      rcases reached with set | listed
      · exact List.mem_append_right _ set
      · apply List.mem_append_left
        exact Option.mem_toList.mpr listed
  | attempt | register | wake | timeOut | leave => trivial

end Wakeups

/-- In a run that replaces and removes no entry of a call that still waits, and whose releases
admit nobody but through the chat of their slot, no wakeup is lost. -/
theorem no_wakeup_lost (limits : ConcurrencyLimits) (run : List WaitEvent)
    (spares : Along (WaitingRoom.step limits) (sparesWaiters limits) {} run) :
    NoWakeupLost limits run := by
  have start : Registered {} := fun _ member => (by cases member)
  constructor
  · apply always_of_invariant (WaitingRoom.step limits) Registered (NoneForgotten limits)
      (sparesWaiters limits) step_registered _ run {} start spares
    intro room registered call member event found unset _
    exact (registered call member event found).resolve_left unset
  · exact along_of_invariant (WaitingRoom.step limits) Registered (sparesWaiters limits)
      (wakesOne limits) step_registered (fun room event _ => wakesOne_of_spares room event) run {}
      start spares

/-- One call waits, the other's release wakes it, and it leaves with its slot. -/
theorem single_waiter_woken :
    NoWakeupLost { maxPerChat := 1 }
      [.attempt 0 "telegram" "c" "a" true 0, .attempt 1 "telegram" "c" "b" true 0, .register 1,
        .release (some "telegram:c:a:1") none none none, .wake 1 0, .leave 1] := by
  apply no_wakeup_lost
  decide +kernel

/-- Two calls wait for one chat. The second takes the entry of the first, is woken, and removes
the entry when it leaves: the slot it gives back wakes nobody. -/
theorem replaced_waiter_forgotten :
    ¬ NoWakeupLost { maxPerChat := 1 }
      [.attempt 0 "telegram" "c" "a" true 0, .attempt 1 "telegram" "c" "b" true 0, .register 1,
        .attempt 2 "telegram" "c" "d" true 0, .register 2,
        .release (some "telegram:c:a:1") none none none, .wake 2 0, .leave 2,
        .release (some "telegram:c:d:2") none none none] := by
  intro kept
  have last := always_final kept.forgotten ⟨1, "telegram", "c", "b", .waiting 0⟩
    (by decide +kernel) 0 rfl (by decide +kernel) (by decide +kernel)
  exact absurd last (by decide +kernel)

end Hartos.Concurrency
