import Mathlib.Data.List.Basic

/-!
The receiving end of a sync request. The database session answers from `replies`, one for each
statement it is sent: a statement may fail, and it may take the transaction with it. Then the
session raises at every use until the request rolls back, or, where the database aborts the
transaction behind its back, every statement fails and the commit rolls back in silence. Writes are
named by the row they write and the payload it came from.
-/
namespace Hartos.SyncBatch

/-- What the database says to one statement. A lookup finds no row, or a row; `mark` is what
the handler reads off that row. -/
inductive Reply
  | fails
  | aborts
  -- A failed statement of its own makes some databases refuse the rest of the transaction.
  | poisons
  | absent
  | present (mark : Bool)
  deriving DecidableEq

structure Payload where
  malformed : Bool
  type : String
  originNode : String
  postId : String
  agentId : String
  username : String
  skills : List String
  rowId : String
  walletOwner : String
  stamped : Bool
  userId : String
  jti : String
  jtis : List String
  deriving DecidableEq

structure Item where
  id : String
  op : String
  payload : Payload
  deriving DecidableEq

structure Effect where
  table : String
  key : String
  payload : Payload
  deriving DecidableEq

structure Lookup where
  table : String
  key : String
  deriving DecidableEq

/-- `found` is never read: it is what the lookups so far have found. -/
structure Session where
  flushed : List Effect
  pending : List Effect
  blocked : List String
  broken : Bool
  aborted : Bool
  replies : List Reply
  found : List (Lookup × Bool)
  deriving DecidableEq

variable (item : Item) (node : Node) (session : Session)

def Session.effects : List Effect := session.flushed ++ session.pending

abbrev Run := EStateM String Session

def PENDING_ROLLBACK : String := "This Session's transaction has been rolled back"

def TRANSACTION_ABORTED : String := "current transaction is aborted"

def Session.lost : Session :=
  { session with flushed := [], pending := [], broken := true }

def answer : Reply → EStateM.Result String Session (Option Bool)
  | .fails => .error "statement failed" session
  | .poisons => .error "statement failed" { session with aborted := true }
  | .aborts => .error "connection lost" session.lost
  | .present mark => .ok (some mark) session
  | .absent => .ok none session

def send : Run (Option Bool) := fun session =>
  if session.broken then .error PENDING_ROLLBACK session
  else
    let reply := session.replies.head?.getD .absent
    let sent := { session with replies := session.replies.tail }
    if session.aborted ∧ reply ≠ .aborts then .error TRANSACTION_ABORTED sent
    else answer sent reply

def execute (lookup : Lookup) : Run (Option Bool) := do
  let row ← send
  fun session => .ok row { session with
    found := session.found ++ row.toList.map fun mark => (lookup, mark) }

def flush : Run Unit := fun session =>
  if session.broken then .error PENDING_ROLLBACK session
  else if session.pending = [] then .ok () session
  else
    let reply := session.replies.head?.getD .absent
    let sent := { session with replies := session.replies.tail }
    if session.aborted ∨ reply ∈ [.fails, .poisons, .aborts] then .error "flush failed" sent.lost
    else .ok () { sent with flushed := session.flushed ++ session.pending, pending := [] }

def query (lookup : Lookup) : Run (Option Bool) := do
  flush
  execute lookup

def add (effect : Effect) : Run Unit := fun session =>
  .ok () { session with pending := session.pending ++ [effect] }

def executeWrite (effect : Effect) : Run Unit := do
  let _ ← send
  fun session => .ok () { session with flushed := session.flushed ++ [effect] }

inductive Done
  | applied
  | blocked
  | repeated
  | unknown
  | acknowledged
  | incomplete
  | known
  | banned
  | stale
  | swallowed
  deriving DecidableEq

def swallow (run : Run Done) : Run Done := tryCatch run fun _ => pure .swallowed

def NO_DICT : String := "object has no attribute get"

def rowOf (op : String) (payload : Payload) : Lookup :=
  match op with
  | "sync_post" => ⟨"federated_posts", payload.originNode ++ ":" ++ payload.postId⟩
  | "register_agent" => ⟨"users", payload.agentId⟩
  | "sync_community" => ⟨"communities", payload.rowId⟩
  | "sync_membership" => ⟨"community_memberships", payload.rowId⟩
  | "sync_encounter" => ⟨"encounters", payload.rowId⟩
  | "sync_resonance" => ⟨"resonance_wallets", payload.walletOwner⟩
  | "sync_friendship" => ⟨"friendships", payload.rowId⟩
  | "sync_user" => ⟨"users", payload.userId⟩
  | _ => ⟨"", ""⟩

def Item.row : Lookup := rowOf item.op item.payload

def Item.effect : Effect := ⟨item.row.table, item.row.key, item.payload⟩

def enforceCeiling (due : Bool) : Run Unit :=
  if due then tryCatch (do let _ ← query ⟨"federated_posts", ""⟩) fun _ => pure () else pure ()

def senderBanned (originNode : String) : Run Bool :=
  if originNode = "" then pure false
  else do
    let peer ← query ⟨"peer_nodes", originNode⟩
    pure (peer == some true)

/-- `due`: this insert is the one that has the ceiling checked. -/
def receiveInbox (due : Bool) (item : Item) : Run Done :=
  if item.payload.malformed then throw NO_DICT
  else if item.payload.type ≠ "new_post" then pure .incomplete
  else do
    let banned ← senderBanned item.payload.originNode
    if banned then pure .banned
    else if item.payload.originNode = "" ∨ item.payload.postId = "" then pure .incomplete
    else do
      let existing ← query item.row
      if existing.isSome then pure .known
      else do
        add item.effect
        flush
        enforceCeiling due
        pure .applied

def handleSyncPost (due : Bool) (item : Item) : Run Done := swallow (receiveInbox due item)

def syncSkills (item : Item) : List String → Run Unit
  | [] => pure ()
  | skill :: rest => do
      let badge := item.payload.agentId ++ ":" ++ skill
      let _ ← query ⟨"agent_skill_badges", badge⟩
      add ⟨"agent_skill_badges", badge, item.payload⟩
      syncSkills item rest

def upsertAgent : Run Unit := do
  let existing ← query item.row
  add item.effect
  if existing.isSome then pure () else flush

def handleSyncAgent : Run Done :=
  if item.payload.malformed then throw NO_DICT
  else if item.payload.type ≠ "agent" then pure .incomplete
  else if item.payload.agentId = "" ∨ item.payload.username = "" then pure .incomplete
  else do
    upsertAgent item
    tryCatch (syncSkills item item.payload.skills) fun _ => pure ()
    pure .applied

/-- `key`: the natural key of the entity; `lastWriteWins`: a row newer than the payload stays. -/
def applySyncedRow (key : String) (lastWriteWins : Bool) (item : Item) : Run Done :=
  if item.payload.malformed then throw NO_DICT
  else if key = "" then pure .incomplete
  else do
    let row ← query item.row
    if lastWriteWins ∧ row = some true then pure .stale
    else do
      add item.effect
      flush
      pure .applied

def handleSyncCommunity : Run Done := applySyncedRow item.payload.rowId false item
def handleSyncMembership : Run Done := applySyncedRow item.payload.rowId false item
def handleSyncEncounter : Run Done := applySyncedRow item.payload.rowId false item
def handleSyncResonance : Run Done :=
  applySyncedRow item.payload.walletOwner item.payload.stamped item

def handleSyncFriendship : Run Done :=
  if item.payload.malformed then throw NO_DICT
  else if item.payload.rowId = "" then pure .incomplete
  else do
    let _ ← execute item.row
    executeWrite item.effect
    pure .applied

def handleSyncUser : Run Done :=
  if item.payload.malformed then throw NO_DICT
  else if item.payload.userId = "" ∨ item.payload.username = "" then pure .incomplete
  else do
    let _ ← query item.row
    add item.effect
    pure .applied

def block (ids : List String) : Run Done := fun session =>
  .ok .blocked { session with blocked := session.blocked ++ ids }

/-- The token blocklist is no table of the session; `available` is whether it can be reached. -/
def blockTokens (available : Bool) (ids : List String) : Run Done :=
  swallow (if available then block ids else throw "cannot import jwt_manager")

def handleRevokeToken (available : Bool) (item : Item) : Run Done :=
  if item.payload.malformed then throw NO_DICT
  else if item.payload.jti = "" then pure .incomplete
  else blockTokens available [item.payload.jti]

def handleSyncBlocklist (available : Bool) (item : Item) : Run Done :=
  if item.payload.malformed then throw NO_DICT
  else if item.payload.jtis = [] then pure .incomplete
  else blockTokens available item.payload.jtis

def acknowledgeOnly : List String :=
  ["update_stats", "register_node", "coding_task_assign", "coding_submission"]

structure Node where
  ceilingDue : Bool
  blocklist : Bool
  deriving DecidableEq

def OP_DISPATCH (op : String) : Option (Item → Run Done) :=
  match op with
  | "sync_post" => some (handleSyncPost node.ceilingDue)
  | "register_agent" => some handleSyncAgent
  | "sync_community" => some handleSyncCommunity
  | "sync_membership" => some handleSyncMembership
  | "sync_encounter" => some handleSyncEncounter
  | "sync_resonance" => some handleSyncResonance
  | "sync_friendship" => some handleSyncFriendship
  | "sync_user" => some handleSyncUser
  | "revoke_token" => some (handleRevokeToken node.blocklist)
  | "sync_blocklist" => some (handleSyncBlocklist node.blocklist)
  | op => if op ∈ acknowledgeOnly then some fun _ => pure .acknowledged else none

/-- `processed` and `errors` are what is returned; `trace` pairs each item with its outcome. -/
structure Result where
  processed : List String
  errors : List (String × String)
  trace : List (Item × Except String Done)
  deriving DecidableEq

def Result.take (result : Result) (item : Item) (outcome : Except String Done) : Result :=
  match outcome with
  | .ok _ =>
      { result with
        processed := result.processed ++ [item.id]
        trace := result.trace ++ [(item, outcome)] }
  | .error error =>
      { result with
        errors := result.errors ++ [(item.id, error)]
        trace := result.trace ++ [(item, outcome)] }

def dispatch (item : Item) : Run Done :=
  match OP_DISPATCH node item.op with
  | some handler => handler item
  | none => pure .unknown

def attempt (item : Item) : Run (Except String Done) :=
  tryCatch (do return .ok (← dispatch node item)) fun error => pure (.error error)

def receiveItem (item : Item) : Run (Except String Done) :=
  if item.id = "" then attempt node item
  else do
    let existing ← query ⟨"sync_queue", item.id⟩
    if existing = some true then pure (.ok .repeated) else attempt node item

def receiveItems (node : Node) : List Item → Result → Run Result
  | [], result => pure result
  | item :: rest, result => do
      let outcome ← receiveItem node item
      receiveItems node rest (result.take item outcome)

def receiveSyncBatch (items : List Item) : Run Result :=
  receiveItems node items ⟨[], [], []⟩

/-- COMMIT: of an aborted transaction it is a ROLLBACK that raises nothing. -/
def endTransaction : Run Unit := fun session =>
  if session.aborted ∧ session.replies.head? ≠ some .aborts then
    .ok () { session with flushed := [] }
  else
    match send session with
    | .ok _ committed => .ok () committed
    | .error error left => .error error left

def commit : Run Unit := do
  flush
  endTransaction

/-- `POST /api/social/hierarchy/sync`: the lists are answered only once the commit went through. -/
def hierarchySync (items : List Item) : Run Result := do
  let result ← receiveSyncBatch node items
  commit
  return result

end Hartos.SyncBatch
