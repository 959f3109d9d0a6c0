import Hartos.LruDedup
import Mathlib.Data.List.Sort

/-!
One node's bus: where a publish sends its copies, and what the node does with a copy that
reaches it over a peer link or from the Crossbar router. A reaction says what was handed to
the node's subscribers and what was sent on; the network built on it says where that goes.
-/
namespace Hartos.Bus

def RELAY_TOPIC : String := "fleet.command"
def RELAY_DEFAULT_HOP_TTL : Int := 4
def DEDUP_MAXSIZE : Nat := 10000

/-- A Crossbar URI: `base` alone, or `base.{key}`. -/
structure Template where
  base : String
  key : Option String
deriving DecidableEq

def TOPIC_MAP : List (String × Template) :=
  [("chat.response", ⟨"com.hertzai.hevolve.chat", some "user_id"⟩),
   ("chat.action", ⟨"com.hertzai.hevolve.action", some "user_id"⟩),
   ("chat.general", ⟨"com.hertzai.hevolve", some "user_id"⟩),
   ("chat.analogy", ⟨"com.hertzai.hevolve.analogy", some "user_id"⟩),
   ("chat.social", ⟨"com.hertzai.hevolve.social", some "user_id"⟩),
   ("chat.pupit", ⟨"com.hertzai.pupit", some "user_id"⟩),
   ("chat.new", ⟨"com.hertzai.hevolve.chat.new", some "user_id"⟩),
   ("book.parsing", ⟨"com.hertzai.bookparsing", some "user_id"⟩),
   ("task.progress", ⟨"com.hertzai.longrunning.log", none⟩),
   ("task.confirmation", ⟨"com.hertzai.hevolve.confirmation", none⟩),
   ("task.exception", ⟨"com.hertzai.hevolve.exception", none⟩),
   ("task.timeout", ⟨"com.hertzai.hevolve.timeout", none⟩),
   ("task.intermediate", ⟨"com.hertzai.hevolve.intermediate", none⟩),
   ("task.error", ⟨"com.hertzai.hevolve.error", none⟩),
   ("task.actions", ⟨"com.hertzai.hevolve.actions", none⟩),
   ("task.probe", ⟨"com.hertzai.hevolve.probe", none⟩),
   ("mobile.push", ⟨"com.hertzai.hevolve.pupitpublish", none⟩),
   ("agent.multichat", ⟨"com.hertzai.hevolve.agent.multichat", some "user_id"⟩),
   ("game.session", ⟨"com.hertzai.hevolve.game", some "session_id"⟩),
   ("community.message", ⟨"com.hertzai.hevolve.community", some "community_id"⟩),
   ("community.feed", ⟨"com.hertzai.community.feed", none⟩),
   ("fleet.command", ⟨"com.hertzai.hevolve.fleet", some "device_id"⟩),
   ("fleet.command.user", ⟨"com.hertzai.hevolve.fleet.user", some "user_id"⟩),
   ("mock_interview", ⟨"com.hertzai.mock_interview", some "user_id"⟩),
   ("telemetry.node", ⟨"com.hartos.telemetry", some "node_id"⟩),
   ("compute.routing", ⟨"com.hertzai.hevolve.compute.routing", some "user_id"⟩),
   ("compute.request", ⟨"com.hertzai.hevolve.compute.request", some "user_id"⟩),
   ("compute.response", ⟨"com.hertzai.hevolve.compute.response", some "user_id"⟩),
   ("remote_desktop.signal", ⟨"com.hartos.remote_desktop.signal", some "device_id"⟩),
   ("recipe.available", ⟨"com.hertzai.hevolve.recipe.available", none⟩)]

def REVERSE_MAP : List (String × String) :=
  (TOPIC_MAP.map fun entry => (entry.2.base, entry.1)).insertionSort
    fun left right => right.1.length ≤ left.1.length

/-- `data`: the keys the bus itself reads, and every other key. -/
structure Payload where
  msgId : Option String
  hopTtl : Option Int
  relayPath : Option (List String)
  fields : List (String × String)
deriving DecidableEq

namespace Payload

def get (data : Payload) (key : String) : String := (data.fields.lookup key).getD ""

def setdefaultUser (data : Payload) (userId : String) : Payload :=
  if userId = "" ∨ (data.fields.lookup "user_id").isSome then data
  else { data with fields := data.fields ++ [("user_id", userId)] }

def idOr (data : Payload) (fresh : String) : String :=
  if data.msgId.getD "" = "" then fresh else data.msgId.getD ""

def setdefaultMsgId (data : Payload) (busId : String) : Payload :=
  { data with msgId := some (data.msgId.getD busId) }

end Payload

structure RelayMeta where
  hopTtl : Int
  origin : String
  relayPath : List String
deriving DecidableEq

/-- The frame on the peer link's `events` channel; the relay fields ride on the relayed topic. -/
structure Envelope where
  msgId : String
  topic : String
  data : Payload
  relay : Option RelayMeta
deriving DecidableEq

inductive CrossbarMessage
  | object (data : Payload)
  | text (raw : String)
deriving DecidableEq

def CrossbarMessage.data : CrossbarMessage → Payload
  | .object data => data
  | .text raw => ⟨none, none, none, [("raw", raw)]⟩

def legacyUri (topic userId deviceId : String) (data : Payload) : Option String :=
  match TOPIC_MAP.lookup topic with
  | none => none
  | some ⟨base, none⟩ => some base
  | some ⟨base, some key⟩ =>
      let value :=
        if key = "user_id" then (if userId = "" then data.get "user_id" else userId)
        else if key = "device_id" then (if deviceId = "" then data.get "device_id" else deviceId)
        else data.get key
      if value = "" then none else some (base ++ "." ++ value)

def busTopicOf (uri : String) : String :=
  match REVERSE_MAP.find? fun entry => entry.1.toList.isPrefixOf uri.toList with
  | some entry => entry.2
  | none => uri

section Links
variable {Node : Type}

structure Link (Node : Type) where
  peer : Node
  connected : Bool
  sameUser : Bool
  ownedByUser : Bool
  isDevice : Bool
  deviceGets : Bool
deriving DecidableEq

abbrev Links (Node : Type) := { links : List (Link Node) // (links.map Link.peer).Nodup }

variable [DecidableEq Node]

def broadcast (links : Links Node) (sameUserOnly : Bool) (excludePeer : Option Node)
    (linkFilter : Link Node → Bool) : List Node :=
  (links.val.filter fun link =>
    decide (excludePeer ≠ some link.peer) && link.connected && (!sameUserOnly || link.sameUser) &&
      linkFilter link && (!link.isDevice || link.deviceGets)).map Link.peer

variable (links : Links Node) (sameUserOnly : Bool)

theorem broadcast_excludes (peer : Node) (linkFilter : Link Node → Bool) :
    peer ∉ broadcast links sameUserOnly (some peer) linkFilter := by
  intro sent
  obtain ⟨link, kept, rfl⟩ := List.mem_map.mp sent
  simp at kept

theorem broadcast_nodup (excludePeer : Option Node) (linkFilter : Link Node → Bool) :
    (broadcast links sameUserOnly excludePeer linkFilter).Nodup :=
  links.property.sublist (List.filter_sublist.map Link.peer)

end Links

/-- What the bus asks outside itself. `verifies` is `verify_command_signature` at a node, false
where it raises; `scrub` is `scrubbed_or_none`. -/
structure Fleet (Node : Type) where
  nodes : List Node
  everyone : ∀ node, node ∈ nodes
  selfNodeId : Node → String
  named : ∀ node, selfNodeId node ≠ ""
  verifies : Node → Payload → Bool
  scrub : String → Payload → Option Payload
  ownsSameUserLinks : Node → String → Bool
  crossbarLegIsUsersOwn : String → String → Bool
  routingKeysIntact : String → Payload → Payload → Bool

structure Publish where
  topic : String
  data : Payload
  userId : String
  deviceId : String
  skipCrossbar : Bool
  skipPeerlink : Bool
deriving DecidableEq

namespace Publish
variable {Node : Type} (fleet : Fleet Node) (call : Publish)

/-- `data` with the caller's user written in, which every leg sees. -/
def payload : Payload := call.data.setdefaultUser call.userId

def owner : String := if call.userId = "" then call.payload.get "user_id" else call.userId

def relayMeta : Option RelayMeta :=
  if call.topic = RELAY_TOPIC then
    some ⟨RELAY_DEFAULT_HOP_TTL, call.payload.get "issued_by", []⟩
  else none

def localIds (busId : String) : List String :=
  busId :: call.payload.msgId.toList.filter fun own => own ≠ ""

def routeCrossbar (busId : String) : Option (String × Payload) :=
  if call.skipCrossbar then none
  else
    match legacyUri call.topic call.userId call.deviceId call.payload with
    | none => none
    | some uri =>
        if call.topic = RELAY_TOPIC ∨ fleet.crossbarLegIsUsersOwn uri call.owner then
          some (uri, call.payload.setdefaultMsgId busId)
        else
          match fleet.scrub call.topic call.payload with
          | none => none
          | some scrubbed =>
              if fleet.routingKeysIntact uri call.payload scrubbed then
                some (uri, scrubbed.setdefaultMsgId busId)
              else none

variable [DecidableEq Node]

def routePeerlink (self : Node) (links : Links Node) (busId : String) : List (Node × Envelope) :=
  let envelope : Envelope := ⟨busId, call.topic, call.payload, call.relayMeta⟩
  let sameUserOnly := decide (call.topic ≠ RELAY_TOPIC)
  if call.skipPeerlink then []
  else if call.topic = RELAY_TOPIC ∨ fleet.ownsSameUserLinks self call.owner then
    (broadcast links sameUserOnly none fun _ => true).map fun peer => (peer, envelope)
  else
    (broadcast links sameUserOnly none Link.ownedByUser).map (fun peer => (peer, envelope)) ++
      match fleet.scrub call.topic call.payload with
      | none => []
      | some scrubbed =>
          (broadcast links sameUserOnly none fun link => !link.ownedByUser).map
            fun peer => (peer, { envelope with data := scrubbed })

end Publish

structure Rebroadcast (Node : Type) where
  targets : List Node
  envelope : Envelope
deriving DecidableEq

structure Reaction (Node : Type) where
  delivered : Option (String × Payload)
  rebroadcast : Option (Rebroadcast Node)
deriving DecidableEq

namespace Reaction
variable {Node : Type}

def nothing : Reaction Node := ⟨none, none⟩
def deliver (topic : String) (data : Payload) : Reaction Node := ⟨some (topic, data), none⟩

end Reaction

section Receiving
variable {Node : Type} [DecidableEq Node] (fleet : Fleet Node) (self : Node) (links : Links Node)

def relayFleetCommand (envelope : Envelope) (excludePeer : Option Node) : Reaction Node :=
  if fleet.verifies self envelope.data then
    let relay := envelope.relay.getD ⟨RELAY_DEFAULT_HOP_TTL, "", []⟩
    let selfId := fleet.selfNodeId self
    if selfId ≠ "" ∧ selfId ∈ relay.relayPath then .deliver envelope.topic envelope.data
    else if relay.hopTtl ≤ 0 then .deliver envelope.topic envelope.data
    else
      let path := if selfId = "" then relay.relayPath else relay.relayPath ++ [selfId]
      ⟨some (envelope.topic, envelope.data),
        some ⟨broadcast links false excludePeer fun _ => true,
          { envelope with topic := RELAY_TOPIC, relay := some ⟨relay.hopTtl - 1, relay.origin, path⟩ }⟩⟩
  else .nothing

def receiveFromPeer (dedup : LruDedup String) (envelope : Envelope) (sender : Node) :
    LruDedup String × Reaction Node :=
  if envelope.msgId = "" then (dedup, .nothing)
  else
    match dedup.checkAndAdd envelope.msgId with
    | (false, dedup) => (dedup, .nothing)
    | (true, dedup) =>
        if envelope.topic = RELAY_TOPIC then
          (dedup, relayFleetCommand fleet self links envelope (some sender))
        else (dedup, .deliver envelope.topic envelope.data)

def receiveFromCrossbar (dedup : LruDedup String) (uri : String) (message : CrossbarMessage)
    (fresh : String) : LruDedup String × Reaction Node :=
  let topic := busTopicOf uri
  let data := message.data
  let msgId := data.idOr fresh
  match dedup.checkAndAdd msgId with
  | (false, dedup) => (dedup, .nothing)
  | (true, dedup) =>
      if topic = RELAY_TOPIC then
        let origin := if data.get "origin" = "" then data.get "issued_by" else data.get "origin"
        let relay : RelayMeta :=
          ⟨data.hopTtl.getD RELAY_DEFAULT_HOP_TTL, origin, data.relayPath.getD []⟩
        (dedup, relayFleetCommand fleet self links ⟨msgId, topic, data, some relay⟩ none)
      else (dedup, .deliver topic data)

end Receiving

end Hartos.Bus
