import Hartos.KeyedGroups
import Hartos.MessagePipeline
import Hartos.StepSystem

/-!
The inbound debouncer. An item is handed over to `on_flush` or in the answer of a
call. The callback may raise, and so may the error handler it is then given to;
`accepted` and `handed` log what came in and what was handed over.
-/
namespace Hartos.Debounce
open KeyedTable KeyedGroups
open Hartos.Queue (DebounceConfig)

structure DebounceStats where
  totalReceived : Int := 0
  totalFlushed : Int := 0
  totalBatches : Int := 0
  currentPending : Int := 0
  deriving DecidableEq

structure DebounceBuffer (Item : Type) where
  items : List Item
  timer : Option Nat
  deriving DecidableEq

inductive CallbackOutcome where
  | returns | raises | escapes
  deriving DecidableEq

inductive Answer (Item : Type) where
  | none
  | items (items : List Item)
  | raised
  deriving DecidableEq

/-- The debouncer; `timers` are the flush tasks that have neither run nor been cancelled. -/
structure InboundDebouncer (Item : Type) where
  buffers : Dict String (DebounceBuffer Item)
  timers : List (Nat × String)
  timerCount : Nat
  stats : DebounceStats
  accepted : List Item
  handed : List Item

namespace InboundDebouncer
variable {Item : Type}

def init : InboundDebouncer Item := ⟨Dict.empty, [], 0, {}, [], []⟩

variable (debouncer : InboundDebouncer Item) (config : DebounceConfig) (onFlush : Bool)

def waiting (key : String) : List Item :=
  ((debouncer.buffers.value? key).map DebounceBuffer.items).getD []

def cancelTimer (timers : List (Nat × String)) (buffer : DebounceBuffer Item) :
    List (Nat × String) :=
  timers.filter fun timer => decide (some timer.1 ≠ buffer.timer)

def takeOut (key : String) (buffer : DebounceBuffer Item) (fromTimer : Bool) :
    InboundDebouncer Item :=
  { debouncer with
    buffers := debouncer.buffers.erase key
    timers := if fromTimer then debouncer.timers else cancelTimer debouncer.timers buffer
    stats :=
      { debouncer.stats with
        currentPending := debouncer.stats.currentPending - buffer.items.length } }

def countBatch (items : List Item) : InboundDebouncer Item :=
  { debouncer with
    stats :=
      { debouncer.stats with
        totalFlushed := debouncer.stats.totalFlushed + items.length
        totalBatches := debouncer.stats.totalBatches + 1 } }

def handOver (items : List Item) : InboundDebouncer Item :=
  { debouncer with handed := debouncer.handed ++ items }

def flushKey (debouncer : InboundDebouncer Item) (key : String) (fromTimer : Bool)
    (outcome : CallbackOutcome) : Option (List Item) × InboundDebouncer Item :=
  match debouncer.buffers.value? key with
  | none => (some [], debouncer)
  | some buffer =>
      let removed := debouncer.takeOut key buffer fromTimer
      if buffer.items = [] then (some [], removed)
      else
        let counted := removed.countBatch buffer.items
        if onFlush then
          let handed := counted.handOver buffer.items
          match outcome with
          | .returns => (some buffer.items, handed)
          | .raises => (some [], handed)
          | .escapes => (none, handed)
        else (some buffer.items, counted)

def deliver (debouncer : InboundDebouncer Item) (items : List Item) (outcome : CallbackOutcome) :
    Answer Item × InboundDebouncer Item :=
  let handed := debouncer.handOver items
  if onFlush then (if outcome = .escapes then .raised else .none, handed)
  else (.items items, handed)

def keyOf (item : Item) (key : Option String) (keyFunc : Option (Item → String)) : String :=
  match key, keyFunc with
  | some key, _ => key
  | none, some keyFunc => keyFunc item
  | none, none => "default"

def receive (item : Item) : InboundDebouncer Item :=
  { debouncer with
    accepted := debouncer.accepted ++ [item]
    stats := { debouncer.stats with totalReceived := debouncer.stats.totalReceived + 1 } }

def addItem (key : String) (buffer : DebounceBuffer Item) (item : Item) : InboundDebouncer Item :=
  { debouncer with
    buffers := debouncer.buffers.set (key, { buffer with items := buffer.items ++ [item] })
    stats := { debouncer.stats with currentPending := debouncer.stats.currentPending + 1 } }

def schedule (key : String) (buffer : DebounceBuffer Item) : InboundDebouncer Item :=
  { debouncer with
    buffers := debouncer.buffers.set (key, { buffer with timer := some debouncer.timerCount })
    timers := cancelTimer debouncer.timers buffer ++ [(debouncer.timerCount, key)]
    timerCount := debouncer.timerCount + 1 }

/-- With no window, or where debouncing is not asked for, the item goes at once, behind
what `_flush_key` answers. -/
def debounceNow (debouncer : InboundDebouncer Item) (item : Item) (key : String)
    (first second : CallbackOutcome) : Answer Item × InboundDebouncer Item :=
  match (debouncer.receive item).flushKey onFlush key false first with
  | (none, flushed) => (.raised, flushed)
  | (some pending, flushed) =>
      (flushed.countBatch (pending ++ [item])).deliver onFlush (pending ++ [item]) second

def debounceLater (debouncer : InboundDebouncer Item) (item : Item) (key : String)
    (first : CallbackOutcome) :
    Answer Item × InboundDebouncer Item :=
  let buffer := ((debouncer.receive item).buffers.value? key).getD ⟨[], none⟩
  let added := { buffer with items := buffer.items ++ [item] }
  let filled := (debouncer.receive item).addItem key buffer item
  if (added.items.length : Int) ≥ config.maxMessages then
    ((filled.takeOut key added false).countBatch added.items).deliver onFlush added.items first
  else (.none, filled.schedule key added)

def debounce (debouncer : InboundDebouncer Item) (item : Item) (key : Option String)
    (keyFunc : Option (Item → String))
    (channel : Option String) (shouldDebounce : Bool) (first second : CallbackOutcome) :
    Answer Item × InboundDebouncer Item :=
  if config.debounceMs (channel.getD "") ≤ 0 ∨ shouldDebounce = false then
    debouncer.debounceNow onFlush item (keyOf item key keyFunc) first second
  else debouncer.debounceLater config onFlush item (keyOf item key keyFunc) first

def timerFlush (debouncer : InboundDebouncer Item) (timer : Nat) (outcome : CallbackOutcome) :
    InboundDebouncer Item :=
  match debouncer.timers.find? fun scheduled => decide (scheduled.1 = timer) with
  | none => debouncer
  | some (_, key) =>
      let ran := { debouncer with
        timers := debouncer.timers.filter fun scheduled => decide (scheduled.1 ≠ timer) }
      (ran.flushKey onFlush key true outcome).2

def flush (key : String) : List Item × InboundDebouncer Item :=
  match debouncer.buffers.value? key with
  | none => ([], debouncer)
  | some buffer =>
      let removed := debouncer.takeOut key buffer false
      let counted := if buffer.items = [] then removed else removed.countBatch buffer.items
      (buffer.items, counted.handOver buffer.items)

def flushKeys : List String → InboundDebouncer Item →
    List (String × List Item) × InboundDebouncer Item
  | [], debouncer => ([], debouncer)
  | key :: rest, debouncer =>
      let (items, flushed) := debouncer.flush key
      let (others, final) := flushKeys rest flushed
      (if items = [] then others else (key, items) :: others, final)

def flushAll : List (String × List Item) × InboundDebouncer Item :=
  flushKeys debouncer.buffers.keys debouncer

inductive Operation (Item : Type) where
  | debounce (item : Item) (key : Option String) (keyFunc : Option (Item → String))
      (channel : Option String) (shouldDebounce : Bool) (first second : CallbackOutcome)
  | timerFlush (timer : Nat) (outcome : CallbackOutcome)
  | flush (key : String)
  | flushAll

def step (debouncer : InboundDebouncer Item) : Operation Item → InboundDebouncer Item
  | .debounce item key keyFunc channel shouldDebounce first second =>
      (debouncer.debounce config onFlush item key keyFunc channel shouldDebounce first second).2
  | .timerFlush timer outcome => debouncer.timerFlush onFlush timer outcome
  | .flush key => (debouncer.flush key).2
  | .flushAll => debouncer.flushAll.2

def pendingItems : List Item :=
  debouncer.buffers.values.flatMap DebounceBuffer.items

/-- Every accepted item waits or was handed over, once, but for those `inHand`; and the
counters count each item once. -/
structure Balanced (debouncer : InboundDebouncer Item) (inHand : List Item) : Prop where
  once : (debouncer.pendingItems ++ inHand ++ debouncer.handed).Perm debouncer.accepted
  received : debouncer.stats.totalReceived = debouncer.accepted.length
  flushed : debouncer.stats.totalFlushed = debouncer.handed.length
  pending : debouncer.stats.currentPending = debouncer.pendingItems.length

def DeliveredOnce : Prop := debouncer.Balanced []

/-- Where an item goes at once, nothing waits under its key, or the callback raises on
what waits; where a timer runs out, there is a callback or nothing waits. -/
def ownFlush (debouncer : InboundDebouncer Item) : Operation Item → Bool
  | .debounce item key keyFunc channel shouldDebounce first _ =>
      decide (0 < config.debounceMs (channel.getD "") ∧ shouldDebounce = true) ||
        (debouncer.waiting (keyOf item key keyFunc)).isEmpty ||
        onFlush && decide (first = .raises)
  | .timerFlush timer _ =>
      match debouncer.timers.find? fun scheduled => decide (scheduled.1 = timer) with
      | none => true
      | some (_, key) => onFlush || (debouncer.waiting key).isEmpty
  | .flush _ | .flushAll => true

def elsewhere (key : String) : List Item :=
  (Dict.values (debouncer.buffers.erase key)).flatMap DebounceBuffer.items
variable (debouncer : InboundDebouncer Item) (key : String)

theorem pending_split :
    debouncer.pendingItems.Perm (debouncer.waiting key ++ debouncer.elsewhere key) := by
  rw [waiting, elsewhere]
  cases found : debouncer.buffers.get? key with
  | none =>
    have missing : debouncer.buffers.value? key = none := by rw [Dict.value?, found]; rfl
    rw [missing, debouncer.buffers.erase_absent key found]
    exact List.Perm.refl debouncer.pendingItems
  | some row =>
    have stored : debouncer.buffers.value? key = some row.2 := by rw [Dict.value?, found]; rfl
    rw [stored]
    exact ((debouncer.buffers.erase_perm key row found).map Prod.snd).flatMap_right _

theorem pending_set (buffers : Dict String (DebounceBuffer Item)) (key : String)
    (buffer : DebounceBuffer Item) :
    ((Dict.values (buffers.set (key, buffer))).flatMap DebounceBuffer.items).Perm
      (buffer.items ++ (Dict.values (buffers.erase key)).flatMap DebounceBuffer.items) :=
  ((buffers.set_perm (key, buffer)).map Prod.snd).flatMap_right _

theorem waiting_of_value (buffer : DebounceBuffer Item)
    (found : debouncer.buffers.value? key = some buffer) :
    debouncer.waiting key = buffer.items := by
  rw [waiting, found]
  rfl

namespace Balanced
variable {debouncer : InboundDebouncer Item} {inHand : List Item}

theorem total (balanced : debouncer.Balanced inHand) :
    debouncer.pendingItems.length + inHand.length + debouncer.handed.length =
      debouncer.accepted.length := by
  have lengths := balanced.once.length_eq
  rw [List.length_append, List.length_append] at lengths
  exact lengths

theorem takeOut (balanced : debouncer.Balanced inHand) (key : String)
    (buffer : DebounceBuffer Item) (fromTimer : Bool)
    (found : debouncer.buffers.value? key = some buffer) :
    (debouncer.takeOut key buffer fromTimer).Balanced (buffer.items ++ inHand) := by
  have split := debouncer.pending_split key
  rw [debouncer.waiting_of_value key buffer found] at split
  refine ⟨?_, balanced.received, balanced.flushed, ?_⟩
  · apply List.Perm.trans _ balanced.once
    apply List.Perm.append_right
    rw [← List.append_assoc]
    apply List.Perm.append_right
    exact List.perm_append_comm.trans split.symm
  · have lengths := split.length_eq
    rw [List.length_append] at lengths
    change debouncer.stats.currentPending - buffer.items.length =
      ((debouncer.elsewhere key).length : Int)
    rw [balanced.pending]
    omega

theorem settle {items : List Item} (balanced : debouncer.Balanced (items ++ inHand)) :
    ((debouncer.countBatch items).handOver items).Balanced inHand := by
  refine ⟨?_, balanced.received, ?_, balanced.pending⟩
  · apply List.Perm.trans _ balanced.once
    change (debouncer.pendingItems ++ inHand ++ (debouncer.handed ++ items)).Perm _
    rw [List.append_assoc, List.append_assoc, ← List.append_assoc inHand, List.append_assoc items]
    exact List.Perm.append_left _ List.perm_append_comm
  · change debouncer.stats.totalFlushed + items.length = ((debouncer.handed ++ items).length : Int)
    rw [balanced.flushed, List.length_append]
    exact (Int.natCast_add _ _).symm

theorem receive (balanced : debouncer.Balanced []) (item : Item) :
    (debouncer.receive item).Balanced [item] := by
  refine ⟨?_, ?_, balanced.flushed, balanced.pending⟩
  · have before := balanced.once.append_right [item]
    rw [List.append_nil, List.append_assoc] at before
    apply List.Perm.trans _ before
    rw [List.append_assoc]
    exact List.Perm.append_left _ List.perm_append_comm
  · change debouncer.stats.totalReceived + 1 = ((debouncer.accepted ++ [item]).length : Int)
    rw [balanced.received, List.length_append]
    exact (Int.natCast_add _ _).symm

theorem pending_swap (key : String) (buffer : DebounceBuffer Item) (added : List Item)
    (grown : buffer.items = debouncer.waiting key ++ added) :
    ((Dict.values (debouncer.buffers.set (key, buffer))).flatMap DebounceBuffer.items).Perm
      (debouncer.pendingItems ++ added) := by
  have after := pending_set debouncer.buffers key buffer
  have before := (debouncer.pending_split key).append_right added
  rw [grown, List.append_assoc] at after
  rw [List.append_assoc] at before
  exact after.trans ((List.Perm.append_left _ List.perm_append_comm).trans before.symm)

theorem addItem {item : Item} (balanced : debouncer.Balanced [item]) (key : String) :
    (debouncer.addItem key ((debouncer.buffers.value? key).getD ⟨[], none⟩) item).Balanced [] := by
  have grown : ((debouncer.buffers.value? key).getD ⟨[], none⟩).items ++ [item] =
      debouncer.waiting key ++ [item] := by
    rw [waiting]
    cases debouncer.buffers.value? key <;> rfl
  have swap := pending_swap key
    { (debouncer.buffers.value? key).getD ⟨[], none⟩ with
      items := ((debouncer.buffers.value? key).getD ⟨[], none⟩).items ++ [item] } [item] grown
  refine ⟨?_, balanced.received, balanced.flushed, ?_⟩
  · rw [List.append_nil]
    exact (swap.append_right _).trans balanced.once
  · have lengths := swap.length_eq
    rw [List.length_append] at lengths
    change debouncer.stats.currentPending + 1 = _
    rw [balanced.pending]
    exact_mod_cast lengths.symm

theorem schedule (balanced : debouncer.Balanced inHand) (key : String)
    (buffer : DebounceBuffer Item) (found : debouncer.buffers.value? key = some buffer) :
    (debouncer.schedule key buffer).Balanced inHand := by
  have grown : buffer.items = debouncer.waiting key ++ [] := by
    rw [List.append_nil, debouncer.waiting_of_value key buffer found]
  have swap := pending_swap key { buffer with timer := some debouncer.timerCount } [] grown
  rw [List.append_nil] at swap
  refine ⟨?_, balanced.received, balanced.flushed, ?_⟩
  · exact ((swap.append_right _).append_right _).trans balanced.once
  · exact balanced.pending.trans (congrArg Nat.cast swap.length_eq.symm)

theorem of_same {other : InboundDebouncer Item} (balanced : debouncer.Balanced inHand)
    (buffers : other.buffers = debouncer.buffers) (stats : other.stats = debouncer.stats)
    (accepted : other.accepted = debouncer.accepted) (handed : other.handed = debouncer.handed) :
    other.Balanced inHand := by
  have pending : other.pendingItems = debouncer.pendingItems := by
    rw [pendingItems, buffers, pendingItems]
  constructor
  · rw [pending, handed, accepted]
    exact balanced.once
  · rw [stats, accepted]
    exact balanced.received
  · rw [stats, handed]
    exact balanced.flushed
  · rw [stats, pending]
    exact balanced.pending

section

variable (balanced : debouncer.Balanced inHand)
include balanced

-- With a callback, what `_flush_key` takes out has been handed over.
theorem flushKey (key : String) (fromTimer : Bool) (outcome : CallbackOutcome) :
    (debouncer.flushKey true key fromTimer outcome).2.Balanced inHand := by
  rw [InboundDebouncer.flushKey]
  split
  · exact balanced
  next buffer found =>
    have removed := balanced.takeOut key buffer fromTimer found
    split
    next empty =>
      rw [empty] at removed
      exact removed
    next => cases outcome <;> exact removed.settle

/-- Where nothing waits, `_flush_key` changes nothing that counts and answers with nothing. -/
theorem flushKey_idle (onFlush : Bool) (key : String) (fromTimer : Bool) (outcome : CallbackOutcome)
    (idle : debouncer.waiting key = []) :
    (debouncer.flushKey onFlush key fromTimer outcome).1 = some [] ∧
      (debouncer.flushKey onFlush key fromTimer outcome).2.Balanced inHand := by
  rw [InboundDebouncer.flushKey]
  split
  · exact ⟨rfl, balanced⟩
  next buffer found =>
    have empty : buffer.items = [] := (debouncer.waiting_of_value key buffer found).symm.trans idle
    have removed := balanced.takeOut key buffer fromTimer found
    rw [empty] at removed
    rw [if_pos empty]
    exact ⟨rfl, removed⟩

theorem flush (key : String) : (debouncer.flush key).2.Balanced inHand := by
  rw [InboundDebouncer.flush]
  split
  · exact balanced
  next buffer found =>
    have removed := balanced.takeOut key buffer false found
    by_cases empty : buffer.items = []
    · simp only [empty, ↓reduceIte] at removed ⊢
      exact removed.of_same rfl rfl rfl (List.append_nil _)
    · simp only [empty, ↓reduceIte]
      exact removed.settle

end

theorem flushKeys (keys : List String) (debouncer : InboundDebouncer Item)
    (balanced : debouncer.Balanced inHand) :
    (InboundDebouncer.flushKeys keys debouncer).2.Balanced inHand := by
  induction keys generalizing debouncer with
  | nil => exact balanced
  | cons key rest ih => exact ih _ (balanced.flush key)

theorem deliver {items : List Item} (balanced : debouncer.Balanced items) (onFlush : Bool)
    (outcome : CallbackOutcome) :
    ((debouncer.countBatch items).deliver onFlush items outcome).2.Balanced [] := by
  have own : debouncer.Balanced (items ++ []) := by
    rw [List.append_nil]
    exact balanced
  cases onFlush <;> exact own.settle

theorem debounceLater (balanced : debouncer.Balanced []) (config : DebounceConfig)
    (onFlush : Bool) (item : Item) (key : String) (outcome : CallbackOutcome) :
    (debouncer.debounceLater config onFlush item key outcome).2.Balanced [] := by
  have filled := (balanced.receive item).addItem key
  have stored : ∀ (state : InboundDebouncer Item) (buffer : DebounceBuffer Item),
      (state.addItem key buffer item).buffers.value? key =
        some { buffer with items := buffer.items ++ [item] } := by
    intro state buffer
    rw [InboundDebouncer.addItem, Dict.value?, Table.get?_set, if_pos rfl]
    rfl
  rw [InboundDebouncer.debounceLater]
  split
  · have removed := filled.takeOut key _ false (stored _ _)
    rw [List.append_nil] at removed
    exact removed.deliver onFlush outcome
  · exact filled.schedule key _ (stored _ _)

theorem debounceNow (balanced : debouncer.Balanced []) (onFlush : Bool) (item : Item)
    (key : String) (first second : CallbackOutcome)
    (own : debouncer.waiting key = [] ∨ onFlush = true ∧ first = .raises) :
    (debouncer.debounceNow onFlush item key first second).2.Balanced [] := by
  have received := balanced.receive item
  have flushed : ((debouncer.receive item).flushKey onFlush key false first).1 = some [] ∧
      ((debouncer.receive item).flushKey onFlush key false first).2.Balanced [item] := by
    rcases own with idle | ⟨rfl, rfl⟩
    · exact received.flushKey_idle onFlush key false first idle
    · refine ⟨?_, received.flushKey key false .raises⟩
      rw [InboundDebouncer.flushKey]
      split
      · rfl
      · split <;> rfl
  rw [InboundDebouncer.debounceNow]
  generalize (debouncer.receive item).flushKey onFlush key false first = outcome at flushed
  obtain ⟨answer, state⟩ := outcome
  obtain ⟨rfl, held⟩ := flushed
  exact Balanced.deliver held onFlush second

end Balanced

section Unbalanced
variable {debouncer : InboundDebouncer Item} {key : String}

theorem value_of_waiting (busy : debouncer.waiting key ≠ []) :
    ∃ buffer, debouncer.buffers.value? key = some buffer ∧
      buffer.items = debouncer.waiting key ∧ buffer.items ≠ [] := by
  cases found : debouncer.buffers.value? key with
  | none =>
    rw [waiting, found] at busy
    exact absurd rfl busy
  | some buffer =>
    have same := debouncer.waiting_of_value key buffer found
    exact ⟨buffer, rfl, same.symm, same ▸ busy⟩

/-- What waits goes to the callback and is then handed over again, goes uncounted with a
caller, or leaves the new item behind. -/
theorem debounceNow_unbalanced (balanced : debouncer.Balanced []) (onFlush : Bool) (item : Item)
    (first second : CallbackOutcome) (busy : debouncer.waiting key ≠ [])
    (heard : ¬ (onFlush = true ∧ first = .raises)) :
    ¬ (debouncer.debounceNow onFlush item key first second).2.Balanced [] := by
  intro after
  obtain ⟨buffer, found, same, filled⟩ := value_of_waiting busy
  have split := (debouncer.pending_split key).length_eq
  have some := List.length_pos_iff.mpr filled
  have total := balanced.total
  have flushed := balanced.flushed
  have stored : (debouncer.receive item).buffers.value? key = Option.some buffer := found
  rw [List.length_append, ← same] at split
  simp only [List.length_nil, Nat.add_zero] at total
  simp only [debounceNow, flushKey, stored, filled, ↓reduceIte] at after
  cases onFlush with
  | false =>
    have flushed' := after.flushed
    simp only [deliver, handOver, countBatch, takeOut, receive, Bool.false_eq_true, ↓reduceIte,
      List.length_append, List.length_singleton] at flushed'
    omega
  | true =>
    cases first with
    | returns =>
      have total' := after.total
      simp only [deliver, handOver, countBatch, takeOut, receive, pendingItems, ↓reduceIte,
        List.length_append, List.length_singleton, List.length_nil] at total'
      rw [elsewhere] at split
      omega
    | raises => exact heard ⟨rfl, rfl⟩
    | escapes =>
      have total' := after.total
      simp only [handOver, countBatch, takeOut, receive, pendingItems, ↓reduceIte,
        List.length_append, List.length_singleton, List.length_nil] at total'
      rw [elsewhere] at split
      omega

theorem timerFlush_unbalanced (balanced : debouncer.Balanced []) (timer : Nat)
    (outcome : CallbackOutcome) (entry : Nat)
    (scheduled : debouncer.timers.find? (fun scheduled => decide (scheduled.1 = timer)) =
      some (entry, key)) (busy : debouncer.waiting key ≠ []) :
    ¬ (debouncer.timerFlush false timer outcome).Balanced [] := by
  intro after
  obtain ⟨buffer, found, same, filled⟩ := value_of_waiting busy
  have split := (debouncer.pending_split key).length_eq
  have some := List.length_pos_iff.mpr filled
  have total := balanced.total
  rw [List.length_append, ← same, elsewhere] at split
  simp only [timerFlush, scheduled, flushKey, found, filled, Bool.false_eq_true, ↓reduceIte]
    at after
  have total' := after.total
  simp only [countBatch, takeOut, pendingItems, List.length_nil] at total'
  omega

end Unbalanced

theorem step_once_iff (config : DebounceConfig) (onFlush : Bool)
    (debouncer : InboundDebouncer Item) (operation : Operation Item)
    (once : debouncer.DeliveredOnce) :
    (debouncer.step config onFlush operation).DeliveredOnce ↔
      debouncer.ownFlush config onFlush operation = true := by
  cases operation with
  | debounce item key keyFunc channel shouldDebounce first second =>
    simp only [step, debounce, ownFlush]
    by_cases window : 0 < config.debounceMs (channel.getD "") ∧ shouldDebounce = true
    · have later : ¬ (config.debounceMs (channel.getD "") ≤ 0 ∨ shouldDebounce = false) := by
        rintro (none | off)
        · exact not_lt.mpr none window.1
        · exact absurd (off.symm.trans window.2) Bool.false_ne_true
      rw [if_neg later, decide_eq_true window]
      exact iff_of_true (Balanced.debounceLater once config onFlush item _ first) rfl
    · have now : config.debounceMs (channel.getD "") ≤ 0 ∨ shouldDebounce = false := by
        rw [← not_lt, ← Bool.not_eq_true]
        exact not_and_or.mp window
      rw [if_pos now, decide_eq_false window, Bool.false_or]
      by_cases own : debouncer.waiting (keyOf item key keyFunc) = [] ∨
          onFlush = true ∧ first = .raises
      · apply iff_of_true (Balanced.debounceNow once onFlush item _ first second own)
        simpa using own
      · obtain ⟨busy, heard⟩ := not_or.mp own
        apply iff_of_false (debounceNow_unbalanced once onFlush item first second busy heard)
        simpa using own
  | timerFlush timer outcome =>
    simp only [step, ownFlush]
    cases scheduled : debouncer.timers.find? fun scheduled => decide (scheduled.1 = timer) with
    | none =>
      rw [timerFlush, scheduled]
      exact iff_of_true once rfl
    | some entry =>
      obtain ⟨number, key⟩ := entry
      by_cases own : onFlush = true ∨ debouncer.waiting key = []
      · apply iff_of_true _ (by simpa using own)
        rw [timerFlush, scheduled]
        have ran : Balanced { debouncer with
            timers := debouncer.timers.filter fun scheduled =>
              decide (scheduled.1 ≠ timer) } [] := once.of_same rfl rfl rfl rfl
        rcases own with rfl | idle
        · exact ran.flushKey key true outcome
        · exact (ran.flushKey_idle onFlush key true outcome idle).2
      · obtain ⟨silent, busy⟩ := not_or.mp own
        rw [Bool.not_eq_true] at silent
        subst silent
        apply iff_of_false (timerFlush_unbalanced once timer outcome number scheduled busy)
        simpa using busy
  | flush key => exact iff_of_true (once.flush key) rfl
  | flushAll => exact iff_of_true (once.flushKeys _ _) rfl

theorem init_once : (init : InboundDebouncer Item).DeliveredOnce :=
  ⟨List.Perm.refl [], rfl, rfl, rfl⟩

/-- In every state of a run each accepted item waits or was handed over, once, and was
counted once, exactly if at every operation of the run what is flushed is its own. -/
theorem delivered_once_iff (config : DebounceConfig) (onFlush : Bool)
    (run : List (Operation Item)) :
    StepSystem.Always (step config onFlush) DeliveredOnce init run ↔
      StepSystem.Along (step config onFlush)
        (fun debouncer operation => debouncer.ownFlush config onFlush operation = true) init
        run := by
  apply StepSystem.always_iff_along (step config onFlush) (fun _ => True)
  · exact fun _ _ _ => trivial
  · exact fun debouncer operation _ once => step_once_iff config onFlush debouncer operation once
  · trivial
  · exact init_once

/-- A message waits, and one that is not to be debounced comes for the same chat: the
callback gets the first one twice. -/
theorem urgent_item_repeats_waiting :
    ¬ ∀ (config : DebounceConfig) (onFlush : Bool) (run : List (Operation String)),
      StepSystem.Always (step config onFlush) DeliveredOnce init run := by
  intro claimed
  let waits : Operation String := .debounce "hello" (some "chat1") none none true .returns .returns
  let urgent : Operation String := .debounce "stop" (some "chat1") none none false .returns .returns
  have after := StepSystem.always_final (claimed {} true [waits, urgent])
  exact absurd (Balanced.total after) (by decide +kernel)

end InboundDebouncer

end Hartos.Debounce
