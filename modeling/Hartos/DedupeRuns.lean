import Hartos.PipelineStages
import Hartos.RecencyOrder
import Hartos.SideIndex
import Hartos.StepSystem

/-!
The deduplicator under any number of threads. `is_duplicate` and `mark_seen` take the lock
once each, and `check_and_mark` takes it twice: between its check and its mark every other
call can come.
-/
namespace Hartos.Dedupe
open Hartos.Queue Hartos.Queue.MessageDeduplicator KeyedTable StepSystem SideIndex RecencyOrder

structure Accepted where
  message : PipelineMessage
  hash : String
  acceptedAt : Time
  -- How many entries have been recorded since.
  recorded : Nat
  -- The other entries recorded or refreshed since.
  used : List String
  deriving DecidableEq

def Accepted.use (hash : String) (fresh : Bool) (record : Accepted) : Accepted :=
  { record with
    recorded := record.recorded + fresh.toNat
    used := if hash = record.hash ∨ hash ∈ record.used then record.used else hash :: record.used }

structure State where
  deduper : MessageDeduplicator
  clock : Time
  -- What each thread has checked and not marked yet.
  pending : Nat → Option PipelineMessage
  accepted : List Accepted

def opened : State := ⟨MessageDeduplicator.empty, 0, fun _ => none, []⟩

inductive Event where
  | tick (elapsed : Nat)
  -- `check_and_mark` takes the lock for the first time.
  | check (thread : Nat) (message : PipelineMessage)
  -- And for the second.
  | mark (thread : Nat)
  | isDuplicate (message : PipelineMessage)
  | markSeen (message : PipelineMessage)
  | cleanupExpired
  deriving DecidableEq

section Steps
variable (digests : Digests) (config : DedupeConfig)

def refreshed (deduper : MessageDeduplicator) (message : PipelineMessage) (now : Time) :
    Option String :=
  if config.mode = .none then none
  else ((deduper.cleanupExpired config now).knownBy digests config message).map
    DedupeEntry.hashValue

def State.checked (state : State) (message : PipelineMessage) : State :=
  { state with
    deduper := (MessageDeduplicator.check digests config state.deduper message state.clock).2
    accepted :=
      match refreshed digests config state.deduper message state.clock with
      | none => state.accepted
      | some hash => state.accepted.map (Accepted.use hash false) }

def State.marked (state : State) (message : PipelineMessage) : State :=
  { state with
    deduper := MessageDeduplicator.markSeen digests config state.deduper message state.clock
    accepted :=
      match combinedHash digests config message with
      | none => state.accepted
      | some hash =>
          state.accepted.map (Accepted.use hash (state.deduper.entries.get? hash).isNone) }

def acceptance (message : PipelineMessage) (now : Time) : List Accepted :=
  match combinedHash digests config message with
  | none => []
  | some hash => [⟨message, hash, now, 0, []⟩]

def step (state : State) : Event → State
  | .tick elapsed => { state with clock := state.clock + elapsed }
  | .check thread message =>
      match state.pending thread with
      | some _ => state
      | none =>
          let after := state.checked digests config message
          if (MessageDeduplicator.check digests config state.deduper message state.clock).1 then after
          else { after with pending := Function.update state.pending thread (some message) }
  | .mark thread =>
      match state.pending thread with
      | none => state
      | some message =>
          let after := state.marked digests config message
          { after with
            pending := Function.update state.pending thread none
            accepted := acceptance digests config message state.clock ++ after.accepted }
  | .isDuplicate message => state.checked digests config message
  | .markSeen message => state.marked digests config message
  | .cleanupExpired =>
      { state with deduper := state.deduper.cleanupExpired config state.clock }

end Steps

section Law
variable (digests : Digests) (config : DedupeConfig)

def checksId : Prop := config.mode ∈ [DedupeMode.messageId, .combined]
def checksContent : Prop := config.mode ∈ [DedupeMode.contentHash, .combined]

instance : Decidable (checksId config) :=
  inferInstanceAs (Decidable (config.mode ∈ [DedupeMode.messageId, .combined]))

instance : Decidable (checksContent config) :=
  inferInstanceAs (Decidable (config.mode ∈ [DedupeMode.contentHash, .combined]))

def messageName (message : PipelineMessage) : Option String :=
  if message.messageId = "" then none else some message.messageId

def entryName (entry : DedupeEntry) : Option String :=
  if entry.messageId = "" then none else some entry.messageId

def Shares (id content id' content' : Option String) : Prop :=
  (checksId config ∧ id ≠ none ∧ id = id') ∨
    (checksContent config ∧ content ≠ none ∧ content = content')

instance (id content id' content' : Option String) :
    Decidable (Shares config id content id' content') :=
  inferInstanceAs (Decidable ((checksId config ∧ id ≠ none ∧ id = id') ∨
    (checksContent config ∧ content ≠ none ∧ content = content')))

def Same (left right : PipelineMessage) : Prop :=
  Shares config (messageName left) (MessageDeduplicator.contentHashOf digests left.content)
    (messageName right) (MessageDeduplicator.contentHashOf digests right.content)

def Carries (entry : DedupeEntry) (message : PipelineMessage) : Prop :=
  Shares config (entryName entry) entry.contentHash
    (messageName message) (MessageDeduplicator.contentHashOf digests message.content)

variable (state : State) (now : Time)

def Accepted.withinTtl (record : Accepted) : Prop :=
  config.ttlSeconds ≤ 0 ∨ now - record.acceptedAt ≤ seconds config.ttlSeconds

/-- At most `max_entries` newer entries were recorded. -/
def Accepted.fewNewer (record : Accepted) : Prop :=
  record.withinTtl config now ∧ record.recorded ≤ config.maxEntries

/-- Fewer than `max_entries` others were recorded or refreshed. -/
def Accepted.fewUsed (record : Accepted) : Prop :=
  record.withinTtl config now ∧ record.used.length < config.maxEntries

def takenForNew : Event → Option PipelineMessage
  | .check thread message =>
      if (state.pending thread).isNone ∧
          state.deduper.isDuplicate digests config message state.clock = false then some message
      else none
  | .mark thread => state.pending thread
  | .isDuplicate message =>
      if state.deduper.isDuplicate digests config message state.clock = false then some message
      else none
  | _ => none

instance (now : Time) (record : Accepted) : Decidable (record.fewNewer config now) :=
  inferInstanceAs (Decidable ((config.ttlSeconds ≤ 0 ∨
    now - record.acceptedAt ≤ seconds config.ttlSeconds) ∧ record.recorded ≤ config.maxEntries))

/-- No message is taken for new that is the same as one accepted `within` the bounds. -/
def Lawful (within : Time → Accepted → Prop) (state : State) (event : Event) : Prop :=
  ∀ message ∈ takenForNew digests config state event, ∀ record ∈ state.accepted,
    within state.clock record → ¬ Same digests config record.message message

instance (within : Time → Accepted → Prop) [∀ now record, Decidable (within now record)]
    (state : State) (event : Event) : Decidable (Lawful digests config within state event) :=
  inferInstanceAs (Decidable (∀ message ∈ takenForNew digests config state event,
    ∀ record ∈ state.accepted, within state.clock record →
      ¬ Shares config (messageName record.message)
        (MessageDeduplicator.contentHashOf digests record.message.content) (messageName message)
        (MessageDeduplicator.contentHashOf digests message.content)))

def State.Known : Prop :=
  ∀ entry ∈ state.deduper.entries.rows, ∀ message, Carries digests config entry message →
    (state.deduper.knownBy digests config message).isSome = true

def Kept (within : Time → Accepted → Prop) (run : List Event) : Prop :=
  Along (step digests config) (Lawful digests config within) opened run ∧
    Always (step digests config) (State.Known digests config) opened run

def Parted (gone rows : List DedupeEntry) : Prop :=
  ∀ removed ∈ gone, ∀ entry ∈ rows, entry.hashValue ∉ gone.map DedupeEntry.hashValue →
    ¬ Shares config (entryName removed) removed.contentHash (entryName entry) entry.contentHash

def State.expired : List DedupeEntry :=
  state.deduper.entries.rows.filter (MessageDeduplicator.isExpired config state.clock)

def oldest (deduper : MessageDeduplicator) : List DedupeEntry :=
  deduper.entries.rows.take (deduper.entries.rows.length - config.maxEntries)

def State.ExpiryParted : Prop :=
  Parted config (state.expired config) state.deduper.entries.rows

def State.EvictionParted (message : PipelineMessage) : Prop :=
  ∀ hash ∈ combinedHash digests config message,
    let recorded := record digests state.deduper message hash state.clock
    Parted config (oldest config recorded) recorded.entries.rows

def State.StillNew (message : PipelineMessage) : Prop :=
  state.deduper.knownBy digests config message = none ∧
    ∀ hash ∈ combinedHash digests config message, ∀ entry ∈ state.deduper.entries.get? hash,
      entry.messageId = message.messageId ∧
        entry.contentHash = MessageDeduplicator.contentHashOf digests message.content

def Permitted : Event → Prop
  | .tick _ => True
  | .check thread _ => state.pending thread = none → state.ExpiryParted config
  | .mark thread => ∀ message ∈ state.pending thread,
      state.EvictionParted digests config message ∧ state.StillNew digests config message
  | .isDuplicate _ | .cleanupExpired => state.ExpiryParted config
  | .markSeen message => state.EvictionParted digests config message

instance (gone rows : List DedupeEntry) : Decidable (Parted config gone rows) :=
  inferInstanceAs (Decidable (∀ removed ∈ gone, ∀ entry ∈ rows,
    entry.hashValue ∉ gone.map DedupeEntry.hashValue →
      ¬ Shares config (entryName removed) removed.contentHash (entryName entry) entry.contentHash))

instance (state : State) (message : PipelineMessage) :
    Decidable (state.EvictionParted digests config message) :=
  inferInstanceAs (Decidable (∀ hash ∈ combinedHash digests config message,
    Parted config (oldest config (record digests state.deduper message hash state.clock))
      (record digests state.deduper message hash state.clock).entries.rows))

instance (state : State) (message : PipelineMessage) :
    Decidable (state.StillNew digests config message) :=
  inferInstanceAs (Decidable (state.deduper.knownBy digests config message = none ∧
    ∀ hash ∈ combinedHash digests config message, ∀ entry ∈ state.deduper.entries.get? hash,
      entry.messageId = message.messageId ∧
        entry.contentHash = MessageDeduplicator.contentHashOf digests message.content))

instance (state : State) : (event : Event) → Decidable (Permitted digests config state event)
  | .tick _ => inferInstanceAs (Decidable True)
  | .check thread _ =>
      inferInstanceAs (Decidable (state.pending thread = none →
        Parted config (state.expired config) state.deduper.entries.rows))
  | .mark thread =>
      inferInstanceAs (Decidable (∀ message ∈ state.pending thread,
        state.EvictionParted digests config message ∧ state.StillNew digests config message))
  | .isDuplicate _ | .cleanupExpired =>
      inferInstanceAs (Decidable (Parted config (state.expired config) state.deduper.entries.rows))
  | .markSeen message =>
      inferInstanceAs (Decidable (state.EvictionParted digests config message))

end Law

section Entries
variable {digests : Digests} {config : DedupeConfig} {deduper : MessageDeduplicator}
variable (hash : String) (fresh : Bool) {entry : DedupeEntry} (gone : List DedupeEntry)

section

variable (deduper : MessageDeduplicator)

theorem removeAll_entries :
    (gone.foldl MessageDeduplicator.remove deduper).entries =
      (gone.map DedupeEntry.hashValue).foldl Table.erase deduper.entries := by
  induction gone generalizing deduper with
  | nil => rfl
  | cons first rest ih => exact ih (deduper.remove first)

theorem remove_idToHash (entry : DedupeEntry) :
    (deduper.remove entry).idToHash = unlist entryName deduper.idToHash entry := by
  simp only [MessageDeduplicator.remove, unlist, entryName]
  by_cases unnamed : entry.messageId = ""
  · simp [unnamed]
  · simp [unnamed]

theorem removeAll_idToHash :
    (gone.foldl MessageDeduplicator.remove deduper).idToHash =
      gone.foldl (unlist entryName) deduper.idToHash := by
  induction gone generalizing deduper with
  | nil => rfl
  | cons first rest ih => rw [List.foldl_cons, ih, remove_idToHash, List.foldl_cons]

theorem remove_contentToHash (entry : DedupeEntry) :
    (deduper.remove entry).contentToHash =
      unlist DedupeEntry.contentHash deduper.contentToHash entry := by
  simp only [MessageDeduplicator.remove, unlist]
  cases entry.contentHash with
  | none => rfl
  | some hash => rfl

theorem removeAll_contentToHash :
    (gone.foldl MessageDeduplicator.remove deduper).contentToHash =
      gone.foldl (unlist DedupeEntry.contentHash) deduper.contentToHash := by
  induction gone generalizing deduper with
  | nil => rfl
  | cons first rest ih => rw [List.foldl_cons, ih, remove_contentToHash, List.foldl_cons]

end

structure Indexed (config : DedupeConfig) (deduper : MessageDeduplicator) : Prop where
  ids : checksId config → Serves entryName deduper.entries deduper.idToHash
  contents : checksContent config →
    Serves DedupeEntry.contentHash deduper.entries deduper.contentToHash

theorem Indexed.remove (indexed : Indexed config deduper) (gone : List DedupeEntry)
    (among : ∀ entry ∈ gone, entry ∈ deduper.entries.rows)
    (parted : Parted config gone deduper.entries.rows) :
    Indexed config (gone.foldl MessageDeduplicator.remove deduper) := by
  have kept : ∀ wanted, (gone.foldl MessageDeduplicator.remove deduper).entries.get? wanted =
      if wanted ∈ gone.map DedupeEntry.hashValue then none else deduper.entries.get? wanted := by
    intro wanted
    rw [removeAll_entries, Table.get?_eraseAll]
  have apart : ∀ entry ∈ (gone.foldl MessageDeduplicator.remove deduper).entries.rows,
      entry ∈ deduper.entries.rows ∧ entry.hashValue ∉ gone.map DedupeEntry.hashValue := by
    intro entry member
    rw [removeAll_entries, rows_eraseAll, List.mem_filter, decide_eq_true_eq] at member
    exact member
  constructor
  · intro looks
    rw [removeAll_idToHash]
    apply serves_remove gone kept among _ (indexed.ids looks)
    intro entry member wanted named shared
    obtain ⟨removed, in', same⟩ := List.mem_map.mp shared
    apply parted removed in' entry (apart entry member).1 (apart entry member).2
    exact Or.inl ⟨looks, by rw [same]; exact Option.some_ne_none wanted, same.trans named.symm⟩
  · intro looks
    rw [removeAll_contentToHash]
    apply serves_remove gone kept among _ (indexed.contents looks)
    intro entry member wanted named shared
    obtain ⟨removed, in', same⟩ := List.mem_map.mp shared
    apply parted removed in' entry (apart entry member).1 (apart entry member).2
    exact Or.inr ⟨looks, by rw [same]; exact Option.some_ne_none wanted, same.trans named.symm⟩

theorem touch_get? (now : Time) (wanted : String) :
    (deduper.touch entry now).entries.get? wanted =
      if entry.hashValue = wanted then some { entry with lastSeen := now }
      else deduper.entries.get? wanted := by
  simp only [MessageDeduplicator.touch, Table.get?_set, Table.get?_erase]
  by_cases here : entry.hashValue = wanted
  · simp [here]
  · simp [here, Ne.symm here]

theorem touch_rows (now : Time) :
    (deduper.touch entry now).entries.rows =
      (deduper.entries.erase entry.hashValue).rows ++ [{ entry with lastSeen := now }] := by
  apply Table.rows_set_absent
  intro present
  obtain ⟨_, found⟩ := (Table.mem_keys _ _).mp present
  rw [Table.get?_erase, if_pos rfl] at found
  cases found

theorem Indexed.touch (indexed : Indexed config deduper) {entry : DedupeEntry}
    (found : deduper.entries.get? entry.hashValue = some entry) (now : Time) :
    Indexed config (deduper.touch entry now) := by
  have same (wanted : String) (name : DedupeEntry → Option String)
      (steady : name { entry with lastSeen := now } = name entry) :
      ((deduper.touch entry now).entries.get? wanted).map name =
        (deduper.entries.get? wanted).map name := by
    rw [touch_get?]
    split
    next here => rw [← here, found, Option.map_some, Option.map_some, steady]
    next => rfl
  constructor
  · exact fun looks => serves_congr (fun wanted => same wanted entryName rfl) (indexed.ids looks)
  · exact fun looks =>
      serves_congr (fun wanted => same wanted DedupeEntry.contentHash rfl) (indexed.contents looks)

theorem record_present {message : PipelineMessage} {hash : String} {now : Time}
    {entry : DedupeEntry} (found : deduper.entries.get? hash = some entry) :
    record digests deduper message hash now = deduper.touch entry now := by
  rw [record, found]

def entryOf (digests : Digests) (message : PipelineMessage) (hash : String) (now : Time) :
    DedupeEntry :=
  ⟨hash, message.messageId, MessageDeduplicator.contentHashOf digests message.content, now⟩

theorem record_absent {message : PipelineMessage} {hash : String} {now : Time}
    (fresh : deduper.entries.get? hash = none) :
    record digests deduper message hash now =
      ⟨deduper.entries.set (entryOf digests message hash now),
        enlist DedupeEntry.hashValue entryName deduper.idToHash (entryOf digests message hash now),
        enlist DedupeEntry.hashValue DedupeEntry.contentHash deduper.contentToHash
          (entryOf digests message hash now)⟩ := by
  rw [record, fresh]
  simp only [enlist, entryName, entryOf]
  congr 1
  · by_cases unnamed : message.messageId = ""
    · simp [unnamed]
    · simp [unnamed]
  · cases MessageDeduplicator.contentHashOf digests message.content with
    | none => rfl
    | some content => rfl

theorem Indexed.record (indexed : Indexed config deduper) (message : PipelineMessage)
    (hash : String) (now : Time) :
    Indexed config (MessageDeduplicator.record digests deduper message hash now) := by
  cases found : deduper.entries.get? hash with
  | some entry =>
    rw [record_present found]
    have named : entry.hashValue = hash := Table.get?_key _ _ _ found
    exact indexed.touch (named.symm ▸ found) now
  | none =>
    rw [record_absent found]
    constructor
    · exact fun looks =>
        serves_enlist (entryOf digests message hash now) found (indexed.ids looks)
    · exact fun looks =>
        serves_enlist (entryOf digests message hash now) found (indexed.contents looks)

theorem enforceMaxEntries_eq (deduper : MessageDeduplicator) :
    deduper.enforceMaxEntries config =
      (oldest config deduper).foldl MessageDeduplicator.remove deduper := rfl

theorem Indexed.evict (indexed : Indexed config deduper)
    (parted : Parted config (oldest config deduper) deduper.entries.rows) :
    Indexed config (deduper.enforceMaxEntries config) :=
  indexed.remove (oldest config deduper) (fun _ member => List.mem_of_mem_take member) parted

theorem Indexed.expire (indexed : Indexed config deduper) {now : Time}
    (parted : Parted config
      (deduper.entries.rows.filter (MessageDeduplicator.isExpired config now))
      deduper.entries.rows) :
    Indexed config (deduper.cleanupExpired config now) :=
  indexed.remove _ (fun _ member => List.mem_of_mem_filter member) parted

theorem checksId_named {message : PipelineMessage} {wanted : String}
    (named : messageName message = some wanted) :
    message.messageId ≠ "" ∧ message.messageId = wanted := by
  unfold messageName at named
  split at named
  next => cases named
  next other => exact ⟨other, Option.some.inj named⟩

theorem Indexed.known (indexed : Indexed config deduper) {entry : DedupeEntry}
    (member : entry ∈ deduper.entries.rows) {message : PipelineMessage}
    (carries : Carries digests config entry message) :
    (deduper.knownBy digests config message).isSome = true := by
  rw [MessageDeduplicator.knownBy, Option.isSome_or, Bool.or_eq_true]
  rcases carries with ⟨looks, named, same⟩ | ⟨looks, named, same⟩
  · obtain ⟨wanted, id⟩ := Option.ne_none_iff_exists'.mp named
    obtain ⟨other, leads, _⟩ := indexed.ids looks entry member wanted id
    obtain ⟨there, mine⟩ := checksId_named (same ▸ id)
    apply Or.inl
    rw [if_pos ⟨looks, there⟩, mine]
    exact Option.isSome_iff_exists.mpr ⟨other, leads⟩
  · obtain ⟨wanted, content⟩ := Option.ne_none_iff_exists'.mp named
    obtain ⟨other, leads, _⟩ := indexed.contents looks entry member wanted content
    have mode : config.mode ∈ [DedupeMode.contentHash, .combined] := looks
    apply Or.inr
    rw [if_pos mode, ← same, content]
    exact Option.isSome_iff_exists.mpr ⟨other, leads⟩

theorem knownBy_found {message : PipelineMessage} {entry : DedupeEntry}
    (known : deduper.knownBy digests config message = some entry) :
    deduper.entries.get? entry.hashValue = some entry := by
  have at' {hash : Option String} (found : deduper.entryAt hash = some entry) :
      deduper.entries.get? entry.hashValue = some entry := by
    obtain ⟨wanted, _, got⟩ := Option.bind_eq_some_iff.mp found
    rwa [Table.get?_key _ _ _ got]
  rw [MessageDeduplicator.knownBy, Option.or_eq_some_iff] at known
  rcases known with byId | byContent
  · split at byId
    next => exact at' byId
    next => cases byId
  · have byContent := byContent.2
    split at byContent
    next => exact at' byContent
    next => cases byContent

theorem use_other {hash : String} {record : Accepted} (other : hash ≠ record.hash) (fresh : Bool) :
    hash ∈ (record.use hash fresh).used := by
  simp only [Accepted.use, other, false_or]
  split
  next known => exact known
  next => exact List.mem_cons_self

theorem use_grows (record : Accepted) (wanted : String) (member : wanted ∈ record.used) :
    wanted ∈ (record.use hash fresh).used := by
  simp only [Accepted.use]
  split
  next => exact member
  next => exact List.mem_cons_of_mem _ member

theorem use_length (record : Accepted) :
    record.used.length ≤ (record.use hash fresh).used.length := by
  simp only [Accepted.use]
  split
  next => exact Nat.le_refl _
  next => exact Nat.le_succ _

structure Stands (digests : Digests) (deduper : MessageDeduplicator) (record : Accepted)
    (entry : DedupeEntry) : Prop where
  behind : Behind DedupeEntry.hashValue deduper.entries.rows entry record.used
  filed : entry.hashValue = record.hash
  id : entry.messageId = record.message.messageId
  content : entry.contentHash = MessageDeduplicator.contentHashOf digests record.message.content
  seen : record.acceptedAt ≤ entry.lastSeen

variable {held : Accepted} {entry : DedupeEntry}

theorem Stands.found (stands : Stands digests deduper held entry) :
    deduper.entries.get? held.hash = some entry :=
  stands.filed ▸ Table.mem_get? _ _ stands.behind.mem

theorem Stands.expire (stands : Stands digests deduper held entry) {now : Time}
    (within : held.withinTtl config now) :
    Stands digests (deduper.cleanupExpired config now) held entry where
  behind := by
    have live : MessageDeduplicator.isExpired config now entry = false := by
      rw [MessageDeduplicator.isExpired, Bool.and_eq_false_iff, decide_eq_false_iff_not,
        decide_eq_false_iff_not]
      rcases within with never | recent
      · exact Or.inl (Int.not_lt.mpr never)
      · exact Or.inr (Int.not_lt.mpr (Int.le_trans (Int.sub_le_sub_left stands.seen now) recent))
    rw [MessageDeduplicator.cleanupExpired, removeAll_entries, rows_eraseAll]
    apply stands.behind.filter
    rw [decide_eq_true_eq]
    intro gone
    obtain ⟨removed, member, same⟩ := List.mem_map.mp gone
    have both := Table.mem_get? _ _ (List.mem_of_mem_filter member)
    rw [same, Table.mem_get? _ _ stands.behind.mem] at both
    rw [← Option.some.inj both, List.mem_filter, live] at member
    cases member.2
  filed := stands.filed
  id := stands.id
  content := stands.content
  seen := stands.seen

/-- The entry a message has just been given, or been found to have. -/
theorem Stands.newest {deduper : MessageDeduplicator} {rows : List DedupeEntry}
    (last : deduper.entries.rows = rows ++ [entry]) (filed : entry.hashValue = held.hash)
    (id : entry.messageId = held.message.messageId)
    (content : entry.contentHash =
      MessageDeduplicator.contentHashOf digests held.message.content)
    (seen : held.acceptedAt ≤ entry.lastSeen) : Stands digests deduper held entry where
  behind := last ▸ behind_last rows entry held.used
  filed := filed
  id := id
  content := content
  seen := seen

section

variable (stands : Stands digests deduper held entry)
include stands

theorem Stands.touch {other : DedupeEntry}
    (found : deduper.entries.get? other.hashValue = some other) {now : Time}
    (timely : held.acceptedAt ≤ now) (fresh : Bool) :
    ∃ later, Stands digests (deduper.touch other now) (held.use other.hashValue fresh) later := by
  by_cases same : other.hashValue = held.hash
  · rw [same, stands.found] at found
    cases found
    exact ⟨{ entry with lastSeen := now },
      Stands.newest (touch_rows now) stands.filed stands.id stands.content timely⟩
  · have apart : entry.hashValue ≠ other.hashValue := by
      rw [stands.filed]
      exact Ne.symm same
    apply Exists.intro entry
    constructor
    · have latest : ({ other with lastSeen := now } : DedupeEntry).hashValue ∈
          (held.use other.hashValue fresh).used := use_other same fresh
      rw [touch_rows]
      apply Behind.append latest
      apply Behind.mono (use_grows other.hashValue fresh held)
      exact stands.behind.filter _ (by simp [apart])
    · exact stands.filed
    · exact stands.id
    · exact stands.content
    · exact stands.seen

theorem Stands.record (message : PipelineMessage) (hash : String) {now : Time}
    (timely : held.acceptedAt ≤ now) (fresh : Bool) :
    ∃ later, Stands digests (MessageDeduplicator.record digests deduper message hash now)
      (held.use hash fresh) later := by
  cases found : deduper.entries.get? hash with
  | some other =>
    have named : other.hashValue = hash := Table.get?_key _ _ _ found
    subst named
    rw [record_present found]
    exact stands.touch found timely fresh
  | none =>
    have other : hash ≠ held.hash := by
      rintro rfl
      rw [stands.found] at found
      cases found
    have absent := (Table.get?_none _ _).mp found
    rw [record_absent found]
    apply Exists.intro entry
    constructor
    · rw [Table.rows_set_absent _ _ absent]
      have latest : (entryOf digests message hash now).hashValue ∈ (held.use hash fresh).used :=
        use_other other fresh
      apply Behind.append latest
      exact stands.behind.mono (use_grows hash fresh held)
    · exact stands.filed
    · exact stands.id
    · exact stands.content
    · exact stands.seen

theorem Stands.evict (few : held.used.length < config.maxEntries) :
    Stands digests (deduper.enforceMaxEntries config) held entry where
  behind := by
    rw [enforceMaxEntries_eq, removeAll_entries, oldest, rows_eraseOldest]
    exact stands.behind.drop deduper.entries.unique few
  filed := stands.filed
  id := stands.id
  content := stands.content
  seen := stands.seen

theorem Stands.carries {message : PipelineMessage}
    (same : Same digests config held.message message) :
    Carries digests config entry message := by
  have id : entryName entry = messageName held.message := by
    rw [entryName, messageName, stands.id]
  rw [Carries, id, stands.content]
  exact same

end

end Entries

section Invariant
variable {digests : Digests} {config : DedupeConfig} {state : State}

structure State.Sound (digests : Digests) (config : DedupeConfig) (state : State) : Prop where
  indexed : Indexed config state.deduper
  timely : ∀ held ∈ state.accepted, held.acceptedAt ≤ state.clock
  stands : ∀ held ∈ state.accepted, held.fewUsed config state.clock →
    ∃ entry, Stands digests state.deduper held entry

theorem fewUsed_use {held : Accepted} {hash : String} {fresh : Bool} {now : Time}
    (few : (held.use hash fresh).fewUsed config now) : held.fewUsed config now :=
  ⟨few.1, Nat.lt_of_le_of_lt (use_length hash fresh held) few.2⟩

section

variable (sound : state.Sound digests config)
include sound

theorem State.Sound.expire (parted : state.ExpiryParted config) :
    State.Sound digests config
      { state with deduper := state.deduper.cleanupExpired config state.clock } where
  indexed := sound.indexed.expire parted
  timely := sound.timely
  stands held member few := by
    obtain ⟨entry, stands⟩ := sound.stands held member few
    exact ⟨entry, stands.expire few.1⟩

theorem State.Sound.checked (parted : state.ExpiryParted config) (message : PipelineMessage) :
    (state.checked digests config message).Sound digests config := by
  by_cases off : config.mode = .none
  · have idle : state.checked digests config message = state := by
      rw [State.checked, check, refreshed, if_pos off, if_pos off]
    rw [idle]
    exact sound
  · have cleaned := sound.expire parted
    cases known : (state.deduper.cleanupExpired config state.clock).knownBy digests config message
      with
    | none =>
        rw [State.checked, check, refreshed, if_neg off, if_neg off]
        simp only [known, Option.map_none]
        exact cleaned
    | some entry =>
        have found := knownBy_found known
        rw [State.checked, check, refreshed, if_neg off, if_neg off]
        simp only [known, Option.map_some]
        constructor
        · exact cleaned.indexed.touch found state.clock
        · intro held member
          obtain ⟨before, among, rfl⟩ := List.mem_map.mp member
          exact sound.timely before among
        · intro held member few
          obtain ⟨before, among, rfl⟩ := List.mem_map.mp member
          obtain ⟨entry', stands⟩ := cleaned.stands before among (fewUsed_use few)
          exact stands.touch found (sound.timely before among) false

theorem State.Sound.marked (message : PipelineMessage)
    (parted : state.EvictionParted digests config message) :
    (state.marked digests config message).Sound digests config := by
  cases filed : combinedHash digests config message with
  | none =>
    rw [State.marked, MessageDeduplicator.markSeen, filed]
    exact sound
  | some hash =>
    have apart := parted hash filed
    rw [State.marked, MessageDeduplicator.markSeen, filed]
    constructor
    · exact (sound.indexed.record message hash state.clock).evict apart
    · intro held member
      obtain ⟨before, among, rfl⟩ := List.mem_map.mp member
      exact sound.timely before among
    · intro held member few
      obtain ⟨before, among, rfl⟩ := List.mem_map.mp member
      obtain ⟨entry, stands⟩ := sound.stands before among (fewUsed_use few)
      obtain ⟨later, recorded⟩ := stands.record message hash (sound.timely before among) _
      exact ⟨later, recorded.evict few.2⟩

end

/-- What a message is filed under is the newest entry, with its id and its content. -/
theorem stands_recorded {message : PipelineMessage} {hash : String} (now : Time)
    (own : ∀ entry ∈ state.deduper.entries.get? hash, entry.messageId = message.messageId ∧
      entry.contentHash = MessageDeduplicator.contentHashOf digests message.content) :
    ∃ entry, Stands digests (record digests state.deduper message hash now)
      ⟨message, hash, now, 0, []⟩ entry := by
  cases found : state.deduper.entries.get? hash with
  | some entry =>
    have named : entry.hashValue = hash := Table.get?_key _ _ _ found
    rw [record_present found]
    exact ⟨{ entry with lastSeen := now },
      Stands.newest (touch_rows now) named (own entry found).1 (own entry found).2
        (Int.le_refl _)⟩
  | none =>
    have last : (record digests state.deduper message hash now).entries.rows =
        state.deduper.entries.rows ++ [entryOf digests message hash now] := by
      rw [record_absent found]
      exact Table.rows_set_absent _ _ ((Table.get?_none _ _).mp found)
    exact ⟨entryOf digests message hash now, Stands.newest last rfl rfl rfl (Int.le_refl _)⟩

theorem State.Sound.accept (sound : state.Sound digests config) (message : PipelineMessage)
    (parted : state.EvictionParted digests config message)
    (still : state.StillNew digests config message) :
    State.Sound digests config { state.marked digests config message with
      accepted := acceptance digests config message state.clock ++
        (state.marked digests config message).accepted } := by
  have marked := sound.marked message parted
  constructor
  · exact marked.indexed
  · intro held member
    rcases List.mem_append.mp member with now | before
    · unfold acceptance at now
      cases filed : combinedHash digests config message with
      | none => simp [filed] at now
      | some hash =>
        rw [filed, List.mem_singleton] at now
        exact now ▸ Int.le_refl _
    · exact marked.timely held before
  · intro held member few
    rcases List.mem_append.mp member with now | before
    · unfold acceptance at now
      cases filed : combinedHash digests config message with
      | none => simp [filed] at now
      | some hash =>
        rw [filed, List.mem_singleton] at now
        subst now
        obtain ⟨entry, stands⟩ := stands_recorded state.clock (still.2 hash filed)
        have evicted := stands.evict few.2
        apply Exists.intro entry
        simpa only [State.marked, MessageDeduplicator.markSeen, filed] using evicted
    · exact marked.stands held before few

theorem step_sound (state : State) (event : Event) (sound : state.Sound digests config)
    (permitted : Permitted digests config state event) :
    (step digests config state event).Sound digests config := by
  cases event with
  | tick elapsed =>
    have later : state.clock ≤ state.clock + elapsed :=
      Int.le_add_of_nonneg_right (Int.natCast_nonneg elapsed)
    constructor
    · exact sound.indexed
    · exact fun held member => Int.le_trans (sound.timely held member) later
    · intro held member few
      apply sound.stands held member
      have within : held.withinTtl config state.clock := by
        apply few.1.imp_right
        exact Int.le_trans (Int.sub_le_sub_right later held.acceptedAt)
      exact ⟨within, few.2⟩
  | check thread message =>
    cases busy : state.pending thread with
    | some _ =>
      simp only [step, busy]
      exact sound
    | none =>
      have checked := sound.checked (permitted busy) message
      simp only [step, busy]
      split
      next => exact checked
      next => exact ⟨checked.indexed, checked.timely, checked.stands⟩
  | mark thread =>
    cases waiting : state.pending thread with
    | none =>
      simp only [step, waiting]
      exact sound
    | some message =>
      obtain ⟨parted, still⟩ := permitted message waiting
      have accepted := sound.accept message parted still
      simp only [step, waiting]
      exact ⟨accepted.indexed, accepted.timely, accepted.stands⟩
  | isDuplicate message => exact sound.checked permitted message
  | markSeen message => exact sound.marked message permitted
  | cleanupExpired => exact sound.expire permitted

theorem State.Sound.known (sound : state.Sound digests config) : state.Known digests config :=
  fun _ member _ carries => sound.indexed.known member carries

theorem Same.on {left right : PipelineMessage} (same : Same digests config left right) :
    config.mode ≠ .none := by
  intro off
  rcases same with ⟨looks, _⟩ | ⟨looks, _⟩
  · simp [checksId, off] at looks
  · simp [checksContent, off] at looks

theorem State.Sound.duplicate (sound : state.Sound digests config)
    (parted : state.ExpiryParted config) {held : Accepted} (member : held ∈ state.accepted)
    (few : held.fewUsed config state.clock) {message : PipelineMessage}
    (same : Same digests config held.message message) :
    state.deduper.isDuplicate digests config message state.clock = true := by
  have cleaned := sound.expire parted
  obtain ⟨entry, stands⟩ := cleaned.stands held member few
  obtain ⟨other, found⟩ :=
    Option.isSome_iff_exists.mp (cleaned.indexed.known stands.behind.mem (stands.carries same))
  rw [MessageDeduplicator.isDuplicate, MessageDeduplicator.check, if_neg same.on]
  dsimp only
  rw [found]

theorem State.Sound.lawful (sound : state.Sound digests config) (event : Event)
    (permitted : Permitted digests config state event) :
    Lawful digests config (Accepted.fewUsed config) state event := by
  intro message taken held member few same
  cases event with
  | tick elapsed => cases taken
  | markSeen other => cases taken
  | cleanupExpired => cases taken
  | check thread other =>
    simp only [takenForNew] at taken
    split at taken
    next new =>
      cases taken
      have free : state.pending thread = none := Option.isNone_iff_eq_none.mp new.1
      have duplicate := sound.duplicate (permitted free) member few same
      rw [new.2] at duplicate
      cases duplicate
    next => cases taken
  | isDuplicate other =>
    simp only [takenForNew] at taken
    split at taken
    next new =>
      cases taken
      have duplicate := sound.duplicate permitted member few same
      rw [new] at duplicate
      cases duplicate
    next => cases taken
  | mark thread =>
    obtain ⟨_, unknown, _⟩ := permitted message taken
    obtain ⟨entry, stands⟩ := sound.stands held member few
    have known := sound.indexed.known stands.behind.mem (stands.carries same)
    rw [unknown] at known
    cases known

theorem opened_sound : opened.Sound digests config where
  indexed := by
    constructor
    · intro _ entry member
      cases member
    · intro _ entry member
      cases member
  timely _ member := by cases member
  stands _ member := by cases member

end Invariant

/-- In runs whose marks and removals leave the indexes to one entry each, no message is taken for
new within the TTL of an accepted one that is the same, while fewer than `max_entries` others were
used, and no entry that is there is unknown. -/
theorem accepted_once (digests : Digests) (config : DedupeConfig) (run : List Event)
    (permitted : Along (step digests config) (Permitted digests config) opened run) :
    Kept digests config (Accepted.fewUsed config) run :=
  ⟨along_of_invariant (step digests config) (State.Sound digests config)
      (Permitted digests config) (Lawful digests config (Accepted.fewUsed config)) step_sound
      (fun _ event sound permitted => sound.lawful event permitted) run opened opened_sound
      permitted,
    always_of_invariant (step digests config) (State.Sound digests config)
      (State.Known digests config) (Permitted digests config) step_sound
      (fun _ sound => sound.known) run opened opened_sound permitted⟩

def plainDigests : Digests := ⟨id, id⟩

def small : DedupeConfig := { maxEntries := 2, ttlSeconds := 5 }

def message (id content : String) : PipelineMessage := ⟨0, id, "", "", "", content, 0⟩

def busyRun : List Event :=
  [.check 0 (message "a" "x"), .check 1 (message "b" "y"), .mark 1, .mark 0,
   .check 1 (message "b" "z"), .tick 3000000, .isDuplicate (message "c" "x"),
   .markSeen (message "d" "w"), .tick 6000000, .cleanupExpired, .check 0 (message "a" "v"),
   .check 1 (message "b" "y"), .mark 1]

theorem busy_run_accepted_once :
    Along (step plainDigests small) (Permitted plainDigests small) opened busyRun ∧
      Kept plainDigests small (Accepted.fewUsed small) busyRun :=
  have permitted :
      Along (step plainDigests small) (Permitted plainDigests small) opened busyRun := by
    decide +kernel
  ⟨permitted, accepted_once plainDigests small busyRun permitted⟩

def refreshedRun : List Event :=
  [.check 0 (message "a" "x"), .mark 0, .check 0 (message "b" "y"), .mark 0,
   .isDuplicate (message "a" "x"), .check 0 (message "c" "z"), .mark 0,
   .check 0 (message "b" "y")]

theorem refreshed_run_accepts_again :
    ¬ ∀ (digests : Digests) (config : DedupeConfig) (run : List Event),
      Kept digests config (Accepted.fewNewer config) run := by
  intro kept
  have lawful := (kept plainDigests small refreshedRun).1
  revert lawful
  decide +kernel

end Hartos.Dedupe
