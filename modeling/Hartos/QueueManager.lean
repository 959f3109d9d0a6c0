import Hartos.QueueAccounts

/-!
The queues of a manager. Obtaining a queue holds the manager's lock, a call of the queue
holds the lock of that queue only, and the removal of empty queues reads them without it:
each of its reads and deletions is a step of its own, and so are the two halves of an
`enqueue`, for its caller holds the queue's lock between them and nothing else.
-/
namespace Hartos.ChannelQueue
open KeyedTable StepSystem

/-- The lines of `enqueue` before `append`, with the message that is to be appended. -/
def MessageQueue.prepare (config : QueueConfig) (queue : MessageQueue) (message : QueuedMessage)
    (priority : Option Int) (now : Time) : Option QueuedMessage × MessageQueue :=
  let cleaned := (queue.cleanExpired config now).2
  if cleaned.isDuplicate config message then
    (none,
      { cleaned with
        stats := { cleaned.stats with totalDeduplicated := cleaned.stats.totalDeduplicated + 1 } })
  else
    let message := { message with priority := priority.getD message.priority }
    let room := cleaned.makeRoom config
    match room.1 with
    | .refused =>
        (none,
          { room.2.2 with
            stats := { room.2.2.stats with totalDropped := room.2.2.stats.totalDropped + 1 } })
    | .raised => (none, room.2.2)
    | .made =>
        let marked := room.2.2.markSeen config message
        (if marked.1 then some message else none, marked.2)

abbrev ChatKey := String × String

structure QueueObject where
  config : QueueConfig := {}
  queue : MessageQueue := {}
  -- What the holder of the queue's lock is about to append.
  filling : Option QueuedMessage := none

/-- An entry of `_queues`: a key and the number of the queue object. -/
structure ChatQueue where
  key : ChatKey
  object : Nat
  deriving DecidableEq

/-- Why queues are removed: `cleanup_stale` with its cutoff, or `get_queue` that needs room for
a key. -/
inductive Purpose where
  | stale (cutoff : Time)
  | room (key : ChatKey)
  deriving DecidableEq

structure Removal where
  purpose : Purpose
  toScan : List ChatQueue
  current : Option ChatQueue := none
  toRemove : List ChatKey := []
  deriving DecidableEq

/-- A call of `process_all`: the entries of its snapshot that are left, how many messages it
took from the first of them, and its total. -/
structure Pass where
  queues : List ChatQueue
  maxPerQueue : Int
  taken : Nat := 0
  total : Nat := 0
  deriving DecidableEq

structure QueueManager where
  defaultConfig : QueueConfig := {}
  maxQueues : Int := 1000
  queues : Table ChatQueue.key := Table.empty ChatQueue.key
  channelConfigs : String → Option QueueConfig := fun _ => none
  removal : Option Removal := none
  objects : Nat → QueueObject := fun _ => {}
  created : Nat := 0
  passes : Nat → Option Pass := fun _ => none

inductive ManagerEvent where
  | setChannelConfig (channel : String) (config : QueueConfig)
  | getQueue (channel chatId : String) (create : Bool)
  | cleanupStale (cutoff : Time)
  | scan
  | delete
  | finish
  | prepare (object : Nat) (message : QueuedMessage) (priority : Option Int) (now : Time)
  | append (object : Nat) (now : Time)
  | call (object : Nat) (event : QueueEvent)
  | startProcessing (worker : Nat) (maxPerQueue : Int)
  | process (worker : Nat) (now : Time) (raises : Bool)

namespace QueueManager
variable (manager : QueueManager) (key : ChatKey)

def held : List Nat := manager.queues.rows.map ChatQueue.object

def setObject (object : Nat) (value : QueueObject) : QueueManager :=
  { manager with objects := Function.update manager.objects object value }

def createQueue : QueueManager :=
  { manager.setObject manager.created
      { config := (manager.channelConfigs key.1).getD manager.defaultConfig } with
    queues := manager.queues.set ⟨key, manager.created⟩
    created := manager.created + 1 }

def getQueue (create : Bool) : QueueManager :=
  if manager.queues.get? key = none ∧ create then
    if manager.maxQueues ≤ manager.queues.rows.length then
      { manager with removal := some { purpose := .room key, toScan := manager.queues.rows } }
    else manager.createQueue key
  else manager

def scan (removal : Removal) : Removal :=
  match removal.current, removal.toScan with
  | some entry, _ =>
      let old := match removal.purpose, (manager.objects entry.object).queue.lastEnqueueTime with
        | .stale cutoff, some last => decide (last < cutoff)
        | .stale _, none => false
        | .room _, _ => true
      { removal with
        current := none
        toRemove := if old then removal.toRemove ++ [entry.key] else removal.toRemove }
  | none, [] => removal
  | none, entry :: rest =>
      let empty := (manager.objects entry.object).queue.items.isEmpty
      match removal.purpose with
      | .stale _ => { removal with toScan := rest, current := if empty then some entry else none }
      | .room _ =>
          { removal with
            toScan := rest
            toRemove := if empty then removal.toRemove ++ [entry.key] else removal.toRemove }

def deletes : Option ChatKey :=
  match manager.removal with
  | some { toScan := [], current := none, toRemove := key :: _, .. } => some key
  | _ => none

def deleteNext : QueueManager :=
  { manager with
    queues := manager.queues.erase key
    removal := manager.removal.map fun removal =>
      { removal with toRemove := removal.toRemove.tail } }

def finish : QueueManager :=
  match manager.removal with
  | some { purpose, toScan := [], current := none, toRemove := [] } =>
      match purpose with
      | .stale _ => { manager with removal := none }
      | .room key => { manager with removal := none }.createQueue key
  | _ => manager

def idle (object : Nat) : Bool :=
  decide (object < manager.created) && (manager.objects object).filling.isNone

def process (pass : Pass) (now : Time) (raises : Bool) : Option Pass × QueueManager :=
  match pass.queues with
  | [] => (none, manager)
  | entry :: rest =>
      let value := manager.objects entry.object
      if (pass.taken : Int) < pass.maxPerQueue then
        if manager.idle entry.object then
          let done := value.queue.dequeue value.config now
          let manager := manager.setObject entry.object { value with queue := done.2.2 }
          match done.2.1 with
          | none => (some { pass with queues := rest, taken := 0 }, manager)
          | some _ =>
              (some
                { pass with
                  taken := pass.taken + 1
                  total := if raises then pass.total else pass.total + 1 }, manager)
        else (some pass, manager)
      else (some { pass with queues := rest, taken := 0 }, manager)

def step : ManagerEvent → QueueManager
  | .setChannelConfig channel config =>
      { manager with
        channelConfigs := Function.update manager.channelConfigs channel (some config) }
  | .getQueue channel chatId create =>
      if manager.removal.isNone then manager.getQueue (channel, chatId) create else manager
  | .cleanupStale cutoff =>
      if manager.removal.isNone then
        { manager with
          removal := some { purpose := .stale cutoff, toScan := manager.queues.rows } }
      else manager
  | .scan => { manager with removal := manager.removal.map manager.scan }
  | .delete =>
      match manager.deletes with
      | some key => manager.deleteNext key
      | none => manager
  | .finish => manager.finish
  | .prepare object message priority now =>
      let value := manager.objects object
      if manager.idle object then
        let ready := value.queue.prepare value.config message priority now
        manager.setObject object { value with queue := ready.2, filling := ready.1 }
      else manager
  | .append object now =>
      let value := manager.objects object
      match value.filling with
      | some given =>
          manager.setObject object
            { value with queue := value.queue.append value.config now given, filling := none }
      | none => manager
  | .call object event =>
      let value := manager.objects object
      if manager.idle object ∧ callsOf event = 0 then
        manager.setObject object { value with queue := (serve value.config value.queue event).2 }
      else manager
  | .startProcessing worker maxPerQueue =>
      if manager.removal.isNone ∧ manager.passes worker = none then
        { manager with
          passes := Function.update manager.passes worker
            (some { queues := manager.queues.rows, maxPerQueue := maxPerQueue }) }
      else manager
  | .process worker now raises =>
      match manager.passes worker with
      | some pass =>
          let turned := manager.process pass now raises
          { turned.2 with passes := Function.update turned.2.passes worker turned.1 }
      | none => manager

end QueueManager

section Stranded

def NothingStranded (manager : QueueManager) : Prop :=
  ∀ object, (manager.objects object).queue.items ≠ [] → object ∈ manager.held

def keepsReachable (manager : QueueManager) : ManagerEvent → Prop
  | .append object _ => (manager.objects object).filling.isSome → object ∈ manager.held
  | .delete => ∀ key ∈ manager.deletes, ∀ entry ∈ manager.queues.get? key,
      (manager.objects entry.object).queue.items = []
  | _ => True

structure Separate (manager : QueueManager) : Prop where
  distinct : manager.held.Nodup
  created : ∀ object ∈ manager.held, object < manager.created
  awaited : ∀ removal ∈ manager.removal, ∀ key, removal.purpose = .room key →
    manager.queues.get? key = none

variable {manager : QueueManager} {config : QueueConfig} {queue : MessageQueue}

theorem setObject_self (manager : QueueManager) (object : Nat) (value : QueueObject) :
    (manager.setObject object value).objects object = value := by
  exact Function.update_self object value manager.objects

theorem setObject_other (manager : QueueManager) {object other : Nat} (differ : other ≠ object)
    (value : QueueObject) :
    (manager.setObject object value).objects other = manager.objects other := by
  exact Function.update_of_ne differ value manager.objects

theorem setObject_safe (safe : NothingStranded manager) (object : Nat) (value : QueueObject)
    (loses : value.queue.items.Sublist (manager.objects object).queue.items) :
    NothingStranded (manager.setObject object value) := by
  intro other filled
  by_cases same : other = object
  · subst same
    rw [setObject_self] at filled
    apply safe
    intro empty
    rw [empty] at loses
    exact filled (List.eq_nil_of_sublist_nil loses)
  · rw [setObject_other manager same] at filled
    exact safe other filled

theorem prepare_sublist (config : QueueConfig) (queue : MessageQueue) (message : QueuedMessage)
    (priority : Option Int) (now : Time) :
    (queue.prepare config message priority now).2.items.Sublist queue.items := by
  have cleaned : (queue.cleanExpired config now).2.items.Sublist queue.items :=
    List.filter_sublist
  have room : ((queue.cleanExpired config now).2.makeRoom config).2.2.items.Sublist queue.items :=
    (makeRoom_split config (queue.cleanExpired config now).2 ▸
      List.sublist_append_right _ _).trans cleaned
  rw [MessageQueue.prepare]
  dsimp only
  split
  · exact cleaned
  · split
    · exact room
    · exact room
    · rw [(markSeen_items config _ _).1]
      exact room

theorem createQueue_held (manager : QueueManager) {key : ChatKey}
    (absent : manager.queues.get? key = none) :
    (manager.createQueue key).held = manager.held ++ [manager.created] := by
  have fresh := manager.queues.rows_set_absent ⟨key, manager.created⟩
    ((manager.queues.get?_none key).mp absent)
  show (manager.queues.set ⟨key, manager.created⟩).rows.map ChatQueue.object = _
  rw [fresh, List.map_append]
  rfl

theorem createQueue_safe (safe : NothingStranded manager) {key : ChatKey}
    (absent : manager.queues.get? key = none) : NothingStranded (manager.createQueue key) := by
  intro object filled
  rw [createQueue_held manager absent]
  apply List.mem_append_left
  apply safe
  intro empty
  apply filled
  by_cases same : object = manager.created
  · subst same
    exact congrArg (·.queue.items) (setObject_self manager _ _)
  · exact (congrArg (·.queue.items) (setObject_other manager same _)).trans empty

theorem createQueue_separate (separate : Separate manager) {key : ChatKey}
    (absent : manager.queues.get? key = none) (free : manager.removal = none) :
    Separate (manager.createQueue key) where
  distinct := by
    rw [createQueue_held manager absent]
    apply List.nodup_append.mpr
    refine ⟨separate.distinct, List.nodup_singleton _, ?_⟩
    intro object member other new same
    cases List.mem_singleton.mp new
    exact absurd (separate.created object member) (same ▸ Nat.lt_irrefl _)
  awaited := by
    intro removal member
    rw [show (manager.createQueue key).removal = none from free] at member
    cases member
  created := by
    rw [createQueue_held manager absent]
    intro object member
    rcases List.mem_append.mp member with old | new
    · exact (separate.created object old).trans (Nat.lt_succ_self _)
    · cases List.mem_singleton.mp new
      exact Nat.lt_succ_self _

theorem deleteNext_held (separate : Separate manager) (key : ChatKey) (object : Nat) :
    object ∈ (manager.deleteNext key).held ↔
      object ∈ manager.held ∧ ∀ entry ∈ manager.queues.get? key, entry.object ≠ object := by
  constructor
  · intro member
    obtain ⟨entry, kept, rfl⟩ := List.mem_map.mp member
    obtain ⟨present, other⟩ := (manager.queues.mem_erase key entry).mp kept
    refine ⟨List.mem_map.mpr ⟨entry, present, rfl⟩, ?_⟩
    intro dropped found same
    have equal := List.inj_on_of_nodup_map separate.distinct
      (manager.queues.get?_mem key dropped found) present same
    exact other (equal ▸ manager.queues.get?_key key dropped found)
  · rintro ⟨member, others⟩
    obtain ⟨entry, present, rfl⟩ := List.mem_map.mp member
    apply List.mem_map.mpr
    refine ⟨entry, (manager.queues.mem_erase key entry).mpr ⟨present, ?_⟩, rfl⟩
    intro same
    have found := manager.queues.mem_get? entry present
    rw [same] at found
    exact others entry found rfl

/-- A deletion strands nothing exactly when the queue is empty. -/
theorem deleteNext_safe_iff (separate : Separate manager) (safe : NothingStranded manager)
    (key : ChatKey) : NothingStranded (manager.deleteNext key) ↔
      ∀ entry ∈ manager.queues.get? key, (manager.objects entry.object).queue.items = [] := by
  constructor
  · intro after entry found
    by_contra filled
    exact ((deleteNext_held separate key entry.object).mp (after entry.object filled)).2
      entry found rfl
  · intro empty object filled
    apply (deleteNext_held separate key object).mpr
    refine ⟨safe object filled, ?_⟩
    intro entry found same
    exact filled (same ▸ empty entry found)

theorem arrange_ne_nil (config : QueueConfig) (items : List QueuedMessage)
    (message : QueuedMessage) : arrange config (items ++ [message]) ≠ [] := by
  intro empty
  have length := (arrange_perm config (items ++ [message])).length_eq
  rw [empty, List.length_append] at length
  cases length

/-- A message that is appended is stranded exactly when the manager does not hold its queue. -/
theorem append_safe_iff (safe : NothingStranded manager) (object : Nat) (value : QueueObject)
    (given : QueuedMessage) (now : Time) :
    NothingStranded (manager.setObject object
      { value with queue := value.queue.append config now given, filling := none }) ↔
        object ∈ manager.held := by
  constructor
  · intro after
    apply after object
    rw [setObject_self]
    exact arrange_ne_nil config value.queue.items given
  · intro member other filled
    by_cases same : other = object
    · exact same ▸ member
    · rw [setObject_other manager same] at filled
      exact safe other filled

theorem process_safe (safe : NothingStranded manager) (pass : Pass) (now : Time)
    (raises : Bool) : NothingStranded (manager.process pass now raises).2 := by
  have taken (object : Nat) : NothingStranded (manager.setObject object
      { manager.objects object with
        queue := ((manager.objects object).queue.dequeue
          (manager.objects object).config now).2.2 }) := by
    apply setObject_safe safe
    have moved := @serve_sublist (manager.objects object).config
      (manager.objects object).queue (.dequeue now) rfl
    exact (List.sublist_append_right _ _).trans moved
  rw [QueueManager.process]
  split
  · exact safe
  · dsimp only
    split
    · split
      · split
        · exact taken _
        · exact taken _
      · exact safe
    · exact safe

theorem Separate.congr (separate : Separate manager) {after : QueueManager}
    (queues : after.queues = manager.queues) (created : after.created = manager.created)
    (removal : after.removal = manager.removal) : Separate after where
  distinct := by rw [QueueManager.held, queues]; exact separate.distinct
  created := by rw [QueueManager.held, queues, created]; exact separate.created
  awaited := by rw [queues, removal]; exact separate.awaited

theorem process_frame (manager : QueueManager) (pass : Pass) (now : Time) (raises : Bool) :
    (manager.process pass now raises).2.queues = manager.queues ∧
      (manager.process pass now raises).2.created = manager.created ∧
      (manager.process pass now raises).2.removal = manager.removal := by
  rw [QueueManager.process]
  split
  · exact ⟨rfl, rfl, rfl⟩
  · dsimp only
    split
    · split
      · split
        · exact ⟨rfl, rfl, rfl⟩
        · exact ⟨rfl, rfl, rfl⟩
      · exact ⟨rfl, rfl, rfl⟩
    · exact ⟨rfl, rfl, rfl⟩

theorem scan_purpose (manager : QueueManager) (removal : Removal) :
    (manager.scan removal).purpose = removal.purpose := by
  rw [QueueManager.scan]
  split
  · rfl
  · rfl
  · split
    case h_1 stale => exact stale.symm ▸ rfl
    case h_2 room => exact room.symm ▸ rfl

theorem deleteNext_separate (separate : Separate manager) (key : ChatKey) :
    Separate (manager.deleteNext key) := by
  have kept : (manager.deleteNext key).held.Sublist manager.held :=
    List.filter_sublist.map ChatQueue.object
  refine ⟨separate.distinct.sublist kept, ?_, ?_⟩
  · intro object member
    exact separate.created object (kept.subset member)
  · intro removal member wanted room
    obtain ⟨before, present, rfl⟩ := Option.map_eq_some_iff.mp member
    have absent := separate.awaited before present wanted room
    show (manager.queues.erase key).get? wanted = none
    rw [manager.queues.get?_erase]
    split
    · rfl
    · exact absent

theorem getQueue_separate (separate : Separate manager) (free : manager.removal = none)
    (key : ChatKey) (create : Bool) : Separate (manager.getQueue key create) := by
  rw [QueueManager.getQueue]
  split
  case isTrue wanted =>
    split
    · refine ⟨separate.distinct, separate.created, ?_⟩
      intro removal member other room
      cases Option.mem_some.mp member
      cases room
      exact wanted.1
    · exact createQueue_separate separate wanted.1 free
  · exact separate

theorem finish_separate (separate : Separate manager) : Separate manager.finish := by
  rw [QueueManager.finish]
  split
  case h_1 purpose found =>
    have released : Separate { manager with removal := none } :=
      ⟨separate.distinct, separate.created, fun _ member => (by cases member)⟩
    split
    · exact released
    · exact createQueue_separate released (separate.awaited _ found _ rfl) rfl
  · exact separate

theorem step_separate (manager : QueueManager) (event : ManagerEvent)
    (separate : Separate manager) : Separate (manager.step event) := by
  cases event with
  | setChannelConfig channel config => exact separate.congr rfl rfl rfl
  | getQueue channel chatId create =>
    rw [QueueManager.step]
    split
    case isTrue free =>
      exact getQueue_separate separate (Option.isNone_iff_eq_none.mp free) _ create
    · exact separate
  | cleanupStale cutoff =>
    rw [QueueManager.step]
    split
    · refine ⟨separate.distinct, separate.created, ?_⟩
      intro removal member key room
      cases Option.mem_some.mp member
      cases room
    · exact separate
  | scan =>
    refine ⟨separate.distinct, separate.created, ?_⟩
    intro removal member key room
    obtain ⟨before, present, rfl⟩ := Option.map_eq_some_iff.mp member
    rw [scan_purpose] at room
    exact separate.awaited before present key room
  | delete =>
    rw [QueueManager.step]
    split
    · exact deleteNext_separate separate _
    · exact separate
  | finish => exact finish_separate separate
  | prepare object message priority now =>
    rw [QueueManager.step]
    split
    · exact separate.congr rfl rfl rfl
    · exact separate
  | append object now =>
    rw [QueueManager.step]
    split
    · exact separate.congr rfl rfl rfl
    · exact separate
  | call object event =>
    rw [QueueManager.step]
    split
    · exact separate.congr rfl rfl rfl
    · exact separate
  | startProcessing worker maxPerQueue =>
    rw [QueueManager.step]
    split
    · exact separate.congr rfl rfl rfl
    · exact separate
  | process worker now raises =>
    rw [QueueManager.step]
    split
    case h_1 pass _ =>
      have frame := process_frame manager pass now raises
      exact separate.congr frame.1 frame.2.1 frame.2.2
    · exact separate

theorem step_safe_iff (separate : Separate manager) (safe : NothingStranded manager)
    (event : ManagerEvent) :
    NothingStranded (manager.step event) ↔ keepsReachable manager event := by
  cases event with
  | setChannelConfig channel config => exact iff_of_true safe trivial
  | getQueue channel chatId create =>
    apply iff_of_true _ trivial
    rw [QueueManager.step]
    split
    · rw [QueueManager.getQueue]
      split
      case isTrue wanted =>
        split
        · exact safe
        · exact createQueue_safe safe wanted.1
      · exact safe
    · exact safe
  | cleanupStale cutoff =>
    apply iff_of_true _ trivial
    rw [QueueManager.step]
    split
    · exact safe
    · exact safe
  | scan => exact iff_of_true safe trivial
  | delete =>
    rw [QueueManager.step, keepsReachable]
    cases deletes : manager.deletes with
    | none => exact iff_of_true safe (fun _ member => (by cases member))
    | some key =>
      apply (deleteNext_safe_iff separate safe key).trans
      constructor
      · intro empty other same
        cases Option.mem_some.mp same
        exact empty
      · intro empty
        exact empty key rfl
  | finish =>
    apply iff_of_true _ trivial
    rw [QueueManager.step, QueueManager.finish]
    split
    case h_1 purpose found =>
      split
      · exact safe
      · exact @createQueue_safe { manager with removal := none } safe _
          (separate.awaited _ found _ rfl)
    · exact safe
  | prepare object message priority now =>
    apply iff_of_true _ trivial
    rw [QueueManager.step]
    split
    · exact setObject_safe safe object _ (prepare_sublist _ _ message priority now)
    · exact safe
  | append object now =>
    rw [QueueManager.step, keepsReachable]
    cases filling : (manager.objects object).filling with
    | none => exact iff_of_true safe (fun some => absurd some Bool.false_ne_true)
    | some given =>
      apply (append_safe_iff safe object _ given now).trans
      exact ⟨fun held _ => held, fun held => held rfl⟩
  | call object event =>
    apply iff_of_true _ trivial
    rw [QueueManager.step]
    split
    case isTrue free =>
      have quiet : (serve (manager.objects object).config (manager.objects object).queue
          event).1.accepted = [] := by
        cases event with
        | enqueue => cases free.2
        | dequeue | peek | collect | clear | getStats | getDroppedSummary => rfl
      exact setObject_safe safe object _
        ((List.sublist_append_right _ _).trans (serve_sublist _ event quiet))
    · exact safe
  | startProcessing worker maxPerQueue =>
    apply iff_of_true _ trivial
    rw [QueueManager.step]
    split
    · exact safe
    · exact safe
  | process worker now raises =>
    apply iff_of_true _ trivial
    rw [QueueManager.step]
    split
    case h_1 pass _ => exact process_safe safe pass now raises
    · exact safe

end Stranded

def startManager (defaultConfig : QueueConfig) (maxQueues : Int) : QueueManager where
  defaultConfig := defaultConfig
  maxQueues := maxQueues

/-- No message is ever in a queue that the manager does not hold exactly when every message
is appended to one that it holds and every queue is empty when it is deleted. -/
theorem nothing_stranded_iff (defaultConfig : QueueConfig) (maxQueues : Int)
    (run : List ManagerEvent) :
    Always QueueManager.step NothingStranded (startManager defaultConfig maxQueues) run ↔
      Along QueueManager.step keepsReachable (startManager defaultConfig maxQueues) run := by
  apply always_iff_along QueueManager.step Separate NothingStranded keepsReachable step_separate
  · intro manager event separate safe
    exact step_safe_iff separate safe event
  · exact ⟨List.nodup_nil, fun _ member => (by cases member), fun _ member => (by cases member)⟩
  · intro object filled
    exact absurd rfl filled

/-- A producer obtains a queue, another call removes it for being empty, and the producer puts
its message into it. -/
theorem removed_queue_strands :
    ¬ Always QueueManager.step NothingStranded (startManager {} 1)
      [.getQueue "telegram" "a" true, .getQueue "telegram" "b" true, .scan, .delete, .finish,
        .prepare 0 { messageId := "1", contentHash := "1" } none 0, .append 0 0] := by
  intro always
  have held := always_final always 0 (by decide +kernel)
  exact absurd held (by decide +kernel)

end Hartos.ChannelQueue
