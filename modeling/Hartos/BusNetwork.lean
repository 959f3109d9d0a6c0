import Hartos.MessageBus
import Hartos.StepSystem

/-!
Every node runs the bus. A publish puts its copies on the wire, one frame for each peer it
was sent to and, on the Crossbar leg, one for every node (the publisher's own echo with them).
Frames are handed over in any order, none need be, and each may be handed over as often as
`repeats` allows. `source` numbers the publications; no bus reads it.
-/
namespace Hartos.Bus
variable {Node : Type}

inductive Wire (Node : Type)
  | peer (sender : Node) (envelope : Envelope)
  | crossbar (uri : String) (data : Payload)
deriving DecidableEq

namespace Wire

def key : Wire Node → String
  | .peer _ envelope => envelope.msgId
  | .crossbar _ data => data.msgId.getD ""

def topic : Wire Node → String
  | .peer _ envelope => envelope.topic
  | .crossbar uri _ => busTopicOf uri

def data : Wire Node → Payload
  | .peer _ envelope => envelope.data
  | .crossbar _ data => data

def sender : Wire Node → Option Node
  | .peer sender _ => some sender
  | .crossbar _ _ => none

def hopTtl : Wire Node → Int
  | .peer _ envelope => (envelope.relay.map RelayMeta.hopTtl).getD RELAY_DEFAULT_HOP_TTL
  | .crossbar _ data => data.hopTtl.getD RELAY_DEFAULT_HOP_TTL

def relayPath : Wire Node → List String
  | .peer _ envelope => (envelope.relay.map RelayMeta.relayPath).getD []
  | .crossbar _ data => data.relayPath.getD []

end Wire

structure Frame (Node : Type) where
  source : Nat
  receiver : Node
  wire : Wire Node
  left : Nat
deriving DecidableEq

structure Publication (Node : Type) where
  publisher : Node
  busId : String
  call : Publish
  peered : Bool
  crossbar : Option (String × Payload)
deriving DecidableEq

structure Delivery (Node : Type) where
  node : Node
  source : Nat
  topic : String
  data : Payload
deriving DecidableEq

structure Forwarding (Node : Type) where
  node : Node
  source : Nat
  data : Payload
  inbound : Option Node
  sent : Rebroadcast Node
deriving DecidableEq

structure Network (Node : Type) where
  dedup : Node → LruDedup String
  publications : List (Publication Node)
  frames : List (Frame Node)
  deliveries : List (Delivery Node)
  forwardings : List (Forwarding Node)
  reached : List (Node × Nat)
  minted : List String

inductive Event (Node : Type)
  | publish (node : Node) (call : Publish) (links : Links Node) (busId : String)
  | arrive (index : Nat) (links : Links Node) (fresh : String)

def Event.uuid : Event Node → String
  | .publish _ _ _ busId => busId
  | .arrive _ _ fresh => fresh

namespace Network

def opened : Network Node := ⟨fun _ => .opened DEDUP_MAXSIZE, [], [], [], [], [], []⟩

section Steps
variable [DecidableEq Node] (fleet : Fleet Node) (repeats : Nat)

def copies (state : Network Node) (node : Node) (source : Nat) : Nat :=
  state.deliveries.countP fun delivery => decide (delivery.node = node ∧ delivery.source = source)

def marked (dedup : LruDedup String) (ids : List String) : LruDedup String :=
  ids.foldl (fun dedup id => (dedup.checkAndAdd id).2) dedup

def publish (state : Network Node) (node : Node) (call : Publish) (links : Links Node)
    (busId : String) : Network Node :=
  let source := state.publications.length
  let peers := call.routePeerlink fleet node links busId
  let crossbar := call.routeCrossbar fleet busId
  let uris := crossbar.toList.flatMap fun leg =>
    fleet.nodes.map fun receiver => Frame.mk source receiver (.crossbar leg.1 leg.2) repeats
  { state with
    dedup := Function.update state.dedup node (marked (state.dedup node) (call.localIds busId))
    publications := state.publications ++ [⟨node, busId, call, decide (peers ≠ []), crossbar⟩]
    frames := state.frames ++
      peers.map (fun sent => Frame.mk source sent.1 (.peer node sent.2) repeats) ++ uris
    deliveries := state.deliveries ++ [⟨node, source, call.topic, call.payload⟩] }

def receive (self : Node) (links : Links Node) (dedup : LruDedup String) (wire : Wire Node)
    (fresh : String) : LruDedup String × Reaction Node :=
  match wire with
  | .peer sender envelope => receiveFromPeer fleet self links dedup envelope sender
  | .crossbar uri data => receiveFromCrossbar fleet self links dedup uri (.object data) fresh

def react (state : Network Node) (frame : Frame Node) (reaction : Reaction Node) : Network Node :=
  { state with
    deliveries := state.deliveries ++ reaction.delivered.toList.map fun handed =>
      ⟨frame.receiver, frame.source, handed.1, handed.2⟩
    forwardings := state.forwardings ++ reaction.rebroadcast.toList.map fun sent =>
      ⟨frame.receiver, frame.source, frame.wire.data, frame.wire.sender, sent⟩
    frames := state.frames ++ reaction.rebroadcast.toList.flatMap fun sent =>
      sent.targets.map fun peer =>
        Frame.mk frame.source peer (.peer frame.receiver sent.envelope) repeats }

def hand (state : Network Node) (index : Nat) (frame : Frame Node) (links : Links Node)
    (fresh : String) : Network Node :=
  let received := receive fleet frame.receiver links (state.dedup frame.receiver) frame.wire fresh
  let after : Network Node :=
    { state with
      dedup := Function.update state.dedup frame.receiver received.1
      frames := state.frames.set index { frame with left := frame.left - 1 }
      reached := state.reached ++ [(frame.receiver, frame.source)]
      minted := if frame.wire.key = "" then state.minted ++ [fresh] else state.minted }
  after.react repeats frame received.2

def step (state : Network Node) : Event Node → Network Node
  | .publish node call links busId => state.publish fleet repeats node call links busId
  | .arrive index links fresh =>
      match state.frames[index]? with
      | some frame => if frame.left = 0 then state else state.hand fleet repeats index frame links fresh
      | none => state

end Steps
end Network

/-! Both transports look an id up first, and only then react. -/

def Wire.envelope (wire : Wire Node) (id : String) : Envelope :=
  match wire with
  | .peer _ envelope => envelope
  | .crossbar uri data =>
      ⟨id, busTopicOf uri, data, some ⟨data.hopTtl.getD RELAY_DEFAULT_HOP_TTL,
        if data.get "origin" = "" then data.get "issued_by" else data.get "origin",
        data.relayPath.getD []⟩⟩

def Wire.lookup (wire : Wire Node) (fresh : String) : String :=
  if wire.key = "" then fresh else wire.key

variable (wire : Wire Node) (fresh : String) (id : String)

theorem Wire.lookup_named (named : wire.key ≠ "") : wire.lookup fresh = wire.key := if_neg named

theorem envelope_topic : (wire.envelope id).topic = wire.topic := by
  cases wire <;> rfl

theorem envelope_data : (wire.envelope id).data = wire.data := by
  cases wire <;> rfl

theorem envelope_msgId (named : wire.key ≠ "") :
    (wire.envelope (wire.lookup fresh)).msgId = wire.key := by
  cases wire with
  | peer sender envelope => rfl
  | crossbar uri data => exact Wire.lookup_named (.crossbar uri data) fresh named

theorem envelope_msgId_or :
    (wire.envelope id).msgId = wire.key ∨ (wire.envelope id).msgId = id := by
  cases wire with
  | peer sender envelope => exact .inl rfl
  | crossbar uri data => exact .inr rfl

theorem envelope_relay :
    ((wire.envelope id).relay.getD ⟨RELAY_DEFAULT_HOP_TTL, "", []⟩).hopTtl = wire.hopTtl ∧
      ((wire.envelope id).relay.getD ⟨RELAY_DEFAULT_HOP_TTL, "", []⟩).relayPath =
        wire.relayPath := by
  cases wire with
  | peer sender envelope =>
    obtain ⟨msgId, topic, data, relay⟩ := envelope
    cases relay <;> exact ⟨rfl, rfl⟩
  | crossbar uri data => exact ⟨rfl, rfl⟩

section Receiving
variable [DecidableEq Node] (fleet : Fleet Node) (receiver : Node) (links : Links Node)

def reaction (wire : Wire Node) (id : String) : Reaction Node :=
  if wire.topic = RELAY_TOPIC then
    relayFleetCommand fleet receiver links (wire.envelope id) wire.sender
  else .deliver wire.topic wire.data

variable (dedup : LruDedup String) (wire : Wire Node) (id : String) (fresh : String)
  (sent : Rebroadcast Node) (handed : String × Payload)

theorem receive_cases :
    (Network.receive fleet receiver links dedup wire fresh = (dedup, .nothing) ∧
        (wire.key = "" ∨ wire.key ∈ dedup.cache)) ∨
      (wire.lookup fresh ∉ dedup.cache ∧
        Network.receive fleet receiver links dedup wire fresh =
          ((dedup.checkAndAdd (wire.lookup fresh)).2,
            reaction fleet receiver links wire (wire.lookup fresh))) := by
  cases wire with
  | peer sender envelope =>
    by_cases unnamed : envelope.msgId = ""
    · exact .inl ⟨by simp [Network.receive, receiveFromPeer, unnamed], .inl unnamed⟩
    have named : (Wire.peer sender envelope).lookup fresh = envelope.msgId :=
      Wire.lookup_named (.peer sender envelope) fresh unnamed
    by_cases present : envelope.msgId ∈ dedup.cache
    · refine .inl ⟨?_, .inr present⟩
      simp only [Network.receive, receiveFromPeer, if_neg unnamed,
        LruDedup.checkAndAdd_present dedup _ present]
    · refine .inr ⟨named ▸ present, ?_⟩
      have new := (LruDedup.checkAndAdd_fst dedup envelope.msgId).mpr present
      rw [named]
      generalize added : dedup.checkAndAdd envelope.msgId = result at new
      obtain ⟨isNew, cache⟩ := result
      obtain rfl : isNew = true := new
      by_cases relayed : envelope.topic = RELAY_TOPIC <;>
        simp [Network.receive, receiveFromPeer, unnamed, added, reaction, Wire.topic, Wire.data,
          Wire.sender, Wire.envelope, relayed]
  | crossbar uri data =>
    have named : (Wire.crossbar uri data : Wire Node).lookup fresh = data.idOr fresh := rfl
    rw [named]
    generalize same : data.idOr fresh = id
    by_cases present : id ∈ dedup.cache
    · refine .inl ⟨?_, ?_⟩
      · simp only [Network.receive, receiveFromCrossbar, CrossbarMessage.data, same,
          LruDedup.checkAndAdd_present dedup id present]
      · by_cases unnamed : data.msgId.getD "" = ""
        · exact .inl unnamed
        · have own : data.msgId.getD "" = id := by rw [← same, Payload.idOr, if_neg unnamed]
          exact .inr (show data.msgId.getD "" ∈ dedup.cache from own ▸ present)
    · refine .inr ⟨present, ?_⟩
      have new := (LruDedup.checkAndAdd_fst dedup id).mpr present
      generalize added : dedup.checkAndAdd id = result at new
      obtain ⟨isNew, cache⟩ := result
      obtain rfl : isNew = true := new
      unfold Network.receive receiveFromCrossbar
      dsimp only [CrossbarMessage.data]
      rw [same, added]
      by_cases relayed : (Wire.crossbar uri data : Wire Node).topic = RELAY_TOPIC
      · rw [reaction, if_pos relayed]
        exact if_pos relayed
      · rw [reaction, if_neg relayed]
        exact if_neg relayed

structure SentOn (wire : Wire Node) (id : String) (sent : Rebroadcast Node) : Prop where
  relayed : wire.topic = RELAY_TOPIC
  verified : fleet.verifies receiver wire.data = true
  hopsLeft : 0 < wire.hopTtl
  newHere : fleet.selfNodeId receiver ∉ wire.relayPath
  targets : sent.targets = broadcast links false wire.sender fun _ => true
  msgId : sent.envelope.msgId = (wire.envelope id).msgId
  topic : sent.envelope.topic = RELAY_TOPIC
  data : sent.envelope.data = wire.data
  hopTtl : (Wire.peer receiver sent.envelope).hopTtl = wire.hopTtl - 1
  relayPath : (Wire.peer receiver sent.envelope).relayPath = wire.relayPath ++ [fleet.selfNodeId receiver]

theorem reaction_delivered
    (delivered : (reaction fleet receiver links wire id).delivered = some handed) :
    handed = (wire.topic, wire.data) ∧
      (wire.topic = RELAY_TOPIC → fleet.verifies receiver wire.data = true) := by
  unfold reaction at delivered
  by_cases relayed : wire.topic = RELAY_TOPIC
  · rw [if_pos relayed, relayFleetCommand] at delivered
    rw [envelope_data, envelope_topic] at delivered
    by_cases verified : fleet.verifies receiver wire.data = true
    · refine ⟨?_, fun _ => verified⟩
      dsimp only at delivered
      split_ifs at delivered <;> exact (Option.some.inj delivered).symm
    · rw [if_neg verified] at delivered
      cases delivered
  · rw [if_neg relayed] at delivered
    exact ⟨(Option.some.inj delivered).symm, fun is => absurd is relayed⟩

theorem reaction_plain (plain : wire.topic ≠ RELAY_TOPIC) :
    reaction fleet receiver links wire id = .deliver wire.topic wire.data := if_neg plain

theorem reaction_sentOn
    (forwarded : (reaction fleet receiver links wire id).rebroadcast = some sent) :
    SentOn fleet receiver links wire id sent := by
  unfold reaction at forwarded
  by_cases relayed : wire.topic = RELAY_TOPIC
  · rw [if_pos relayed, relayFleetCommand, envelope_data, envelope_topic] at forwarded
    by_cases verified : fleet.verifies receiver wire.data = true
    · rw [if_pos verified] at forwarded
      dsimp only at forwarded
      rw [(envelope_relay wire id).1, (envelope_relay wire id).2] at forwarded
      by_cases seen : fleet.selfNodeId receiver ≠ "" ∧ fleet.selfNodeId receiver ∈ wire.relayPath
      · rw [if_pos seen] at forwarded
        cases forwarded
      by_cases spent : wire.hopTtl ≤ 0
      · rw [if_neg seen, if_pos spent] at forwarded
        cases forwarded
      rw [if_neg seen, if_neg spent, if_neg (fleet.named receiver)] at forwarded
      obtain rfl := Option.some.inj forwarded
      exact
        { relayed := relayed
          verified := verified
          hopsLeft := by omega
          newHere := fun member => seen ⟨fleet.named receiver, member⟩
          targets := rfl
          msgId := rfl
          topic := rfl
          data := rfl
          hopTtl := rfl
          relayPath := rfl }
    · rw [if_neg verified] at forwarded
      cases forwarded
  · rw [if_neg relayed] at forwarded
    cases forwarded

theorem receive_sentOn
    (forwarded : (Network.receive fleet receiver links dedup wire fresh).2.rebroadcast = some sent) :
    SentOn fleet receiver links wire (wire.lookup fresh) sent := by
  rcases receive_cases fleet receiver links dedup wire fresh with ⟨dropped, _⟩ | ⟨_, taken⟩
  · rw [dropped] at forwarded
    cases forwarded
  · rw [taken] at forwarded
    exact reaction_sentOn fleet receiver links wire _ sent forwarded

theorem receive_delivered
    (delivered : (Network.receive fleet receiver links dedup wire fresh).2.delivered =
      some handed) :
    handed = (wire.topic, wire.data) ∧
      (wire.topic = RELAY_TOPIC → fleet.verifies receiver wire.data = true) := by
  rcases receive_cases fleet receiver links dedup wire fresh with ⟨dropped, _⟩ | ⟨_, taken⟩
  · rw [dropped] at delivered
    cases delivered
  · rw [taken] at delivered
    exact reaction_delivered fleet receiver links wire _ handed delivered

end Receiving

/-! What a publish and a frame handed over change. -/

theorem Network.published_lt {state : Network Node} {source : Nat} {publication : Publication Node}
    (published : state.publications[source]? = some publication) :
    source < state.publications.length := (List.getElem?_eq_some_iff.mp published).1

section Changes
variable [DecidableEq Node] (fleet : Fleet Node) (repeats : Nat)

theorem mem_routePeerlink (call : Publish) (self : Node) (links : Links Node) (busId : String)
    (sent : Node × Envelope) (member : sent ∈ call.routePeerlink fleet self links busId) :
    sent.2.msgId = busId ∧ sent.2.topic = call.topic ∧ sent.2.relay = call.relayMeta ∧
      (call.topic = RELAY_TOPIC → sent.2.data = call.payload) := by
  unfold Publish.routePeerlink at member
  by_cases skipped : call.skipPeerlink = true
  · rw [if_pos skipped] at member
    cases member
  rw [if_neg skipped] at member
  by_cases own : call.topic = RELAY_TOPIC ∨ fleet.ownsSameUserLinks self call.owner = true
  · rw [if_pos own] at member
    obtain ⟨peer, _, rfl⟩ := List.mem_map.mp member
    exact ⟨rfl, rfl, rfl, fun _ => rfl⟩
  · rw [if_neg own] at member
    have plain : call.topic ≠ RELAY_TOPIC := fun relayed => own (.inl relayed)
    rcases List.mem_append.mp member with among | among
    · obtain ⟨peer, _, rfl⟩ := List.mem_map.mp among
      exact ⟨rfl, rfl, rfl, fun _ => rfl⟩
    · cases scrubbed : fleet.scrub call.topic call.payload with
      | none => simp [scrubbed] at among
      | some data =>
        rw [scrubbed] at among
        obtain ⟨peer, _, rfl⟩ := List.mem_map.mp among
        exact ⟨rfl, rfl, rfl, fun relayed => absurd relayed plain⟩

namespace Network

theorem step_cases (state : Network Node) (event : Event Node) :
    state.step fleet repeats event = state ∨
      (∃ node call links busId,
        state.step fleet repeats event = state.publish fleet repeats node call links busId) ∨
      ∃ index frame links fresh, state.frames[index]? = some frame ∧ frame.left ≠ 0 ∧
        state.step fleet repeats event = state.hand fleet repeats index frame links fresh := by
  cases event with
  | publish node call links busId => exact .inr (.inl ⟨node, call, links, busId, rfl⟩)
  | arrive index links fresh =>
    cases found : state.frames[index]? with
    | none => exact .inl (by simp [step, found])
    | some frame =>
      by_cases spent : frame.left = 0
      · exact .inl (by simp [step, found, spent])
      · exact .inr (.inr ⟨index, frame, links, fresh, found, spent, by simp [step, found, spent]⟩)

variable {fleet repeats}
variable (dedup : LruDedup String) (ids : List String) (other : String) {state : Network Node}
  {node : Node} {call : Publish} {links : Links Node} {busId : String}

theorem published_publish {source : Nat} {publication : Publication Node}
    (published : (state.publish fleet repeats node call links busId).publications[source]? =
      some publication) :
    state.publications[source]? = some publication ∨
      source = state.publications.length ∧
        publication = ⟨node, busId, call,
          decide (call.routePeerlink fleet node links busId ≠ []), call.routeCrossbar fleet busId⟩ := by
  rw [publish, List.getElem?_append] at published
  split_ifs at published with before
  · exact .inl published
  · obtain ⟨at_end, same⟩ := List.getElem?_eq_some_iff.mp published
    simp only [List.length_singleton] at at_end
    exact .inr ⟨by omega, by simpa using same.symm⟩

theorem mem_frames_publish {frame : Frame Node}
    (member : frame ∈ (state.publish fleet repeats node call links busId).frames) :
    frame ∈ state.frames ∨ frame.source = state.publications.length ∧
      ((∃ sent ∈ call.routePeerlink fleet node links busId,
          frame.receiver = sent.1 ∧ frame.wire = .peer node sent.2) ∨
        ∃ leg, call.routeCrossbar fleet busId = some leg ∧ frame.wire = .crossbar leg.1 leg.2) := by
  simp only [publish, List.mem_append, List.mem_map, List.mem_flatMap, Option.mem_toList] at member
  rcases member with (old | ⟨sent, among, rfl⟩) | ⟨leg, sent, receiver, _, rfl⟩
  · exact .inl old
  · exact .inr ⟨rfl, .inl ⟨sent, among, rfl, rfl⟩⟩
  · exact .inr ⟨rfl, .inr ⟨leg, sent, rfl⟩⟩

theorem mem_frames_hand {index : Nat} {frame other : Frame Node} {links : Links Node}
    {fresh : String} (found : state.frames[index]? = some frame)
    (member : other ∈ (state.hand fleet repeats index frame links fresh).frames) :
    (∃ earlier ∈ state.frames, other.source = earlier.source ∧
        other.receiver = earlier.receiver ∧ other.wire = earlier.wire) ∨
      ∃ sent, (receive fleet frame.receiver links (state.dedup frame.receiver) frame.wire
          fresh).2.rebroadcast = some sent ∧
        other.source = frame.source ∧ other.receiver ∈ sent.targets ∧
        other.wire = .peer frame.receiver sent.envelope := by
  simp only [hand, react, List.mem_append, List.mem_flatMap, List.mem_map,
    Option.mem_toList] at member
  rcases member with old | ⟨sent, forwarded, peer, among, rfl⟩
  · rcases List.mem_or_eq_of_mem_set old with old | rfl
    · exact .inl ⟨other, old, rfl, rfl, rfl⟩
    · exact .inl ⟨frame, List.mem_of_getElem? found, rfl, rfl, rfl⟩
  · exact .inr ⟨sent, forwarded, rfl, among, rfl⟩

theorem knew_marked : (marked dedup ids).Knew other ↔ dedup.Knew other ∨ other ∈ ids := by
  induction ids generalizing dedup with
  | nil => simp [marked]
  | cons id rest ih =>
    have first := LruDedup.knew_checkAndAdd dedup id other
    have later := ih (dedup.checkAndAdd id).2
    simp only [marked, List.foldl_cons, List.mem_cons] at later ⊢
    rw [later, first, or_assoc]

theorem evicted_marked (went : other ∈ dedup.evicted) : other ∈ (marked dedup ids).evicted := by
  induction ids generalizing dedup with
  | nil => exact went
  | cons id rest ih => exact ih _ (LruDedup.evicted_checkAndAdd dedup id other went)

/-- A frame handed over adds at most the id it is looked up under. -/
theorem knew_receive (fleet : Fleet Node) (self : Node) (links : Links Node) (dedup : LruDedup String)
    (wire : Wire Node) (fresh other : String) :
    (dedup.Knew other → (receive fleet self links dedup wire fresh).1.Knew other) ∧
      ((receive fleet self links dedup wire fresh).1.Knew other →
        dedup.Knew other ∨ other = wire.lookup fresh) ∧
      (other ∈ dedup.evicted → other ∈ (receive fleet self links dedup wire fresh).1.evicted) := by
  rcases receive_cases fleet self links dedup wire fresh with ⟨dropped, _⟩ | ⟨_, taken⟩
  · rw [dropped]
    exact ⟨id, .inl, id⟩
  · rw [taken]
    have added := LruDedup.knew_checkAndAdd dedup (wire.lookup fresh) other
    exact ⟨fun knew => added.mpr (.inl knew), added.mp,
      LruDedup.evicted_checkAndAdd dedup _ other⟩

end Network
end Changes
end Hartos.Bus
