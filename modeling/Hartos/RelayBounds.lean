import Hartos.DeliveredOnce
import Mathlib.Algebra.Ring.Nat
import Mathlib.Data.List.Perm.Subperm

/-!
The relayed command. A frame on the wire can cause at most so many re-broadcasts: one of its
own each time it is handed over, and those its copies cause with one hop fewer.
-/
namespace Hartos.Bus
variable {Node : Type}

def reach (fleet : Fleet Node) (repeats : Nat) : Nat → Nat
  | 0 => 0
  | hops + 1 => 1 + fleet.nodes.length * (repeats * reach fleet repeats hops)

theorem reach_mono (fleet : Fleet Node) (repeats : Nat) {fewer more : Nat} (le : fewer ≤ more) :
    reach fleet repeats fewer ≤ reach fleet repeats more := by
  induction fewer generalizing more with
  | zero => exact Nat.zero_le _
  | succ fewer ih =>
    obtain ⟨rest, rfl⟩ : ∃ rest, more = rest + 1 := ⟨more - 1, by omega⟩
    have below := @ih rest (by omega)
    exact Nat.add_le_add_left (Nat.mul_le_mul_left _ (Nat.mul_le_mul_left _ below)) 1

theorem broadcast_length [DecidableEq Node] (fleet : Fleet Node) (links : Links Node) (sameUserOnly : Bool)
    (excludePeer : Option Node) (linkFilter : Link Node → Bool) :
    (broadcast links sameUserOnly excludePeer linkFilter).length ≤ fleet.nodes.length :=
  (List.subperm_of_subset (broadcast_nodup links sameUserOnly excludePeer linkFilter)
    fun node _ => fleet.everyone node).length_le

theorem sum_set {Item : Type} (weight : Item → Nat) (items : List Item) (index : Nat)
    (old new : Item) (found : items[index]? = some old) :
    ((items.set index new).map weight).sum + weight old = (items.map weight).sum + weight new := by
  induction items generalizing index with
  | nil => simp at found
  | cons item rest ih =>
    cases index with
    | zero =>
      obtain rfl : item = old := by simpa using found
      simp only [List.set_cons_zero, List.map_cons, List.sum_cons]
      omega
    | succ index =>
      have tail := ih index (by simpa using found)
      simp only [List.set_cons_succ, List.map_cons, List.sum_cons]
      omega

theorem sum_le_of_each {Item : Type} (weight : Item → Nat) (items : List Item) (bound : Nat)
    (each : ∀ item ∈ items, weight item ≤ bound) :
    (items.map weight).sum ≤ items.length * bound := by
  induction items with
  | nil => simp
  | cons item rest ih =>
    have first := each item (by simp)
    have later := ih fun other member => each other (List.mem_cons_of_mem _ member)
    simp only [List.map_cons, List.sum_cons, List.length_cons, Nat.succ_mul]
    omega

namespace Publication

def WithinHops (publication : Publication Node) : Prop :=
  ∀ leg ∈ publication.crossbar,
    (leg.2.relayPath.getD []).length + leg.2.hopTtl.getD RELAY_DEFAULT_HOP_TTL ≤
        RELAY_DEFAULT_HOP_TTL ∧
      (leg.2.relayPath.getD []).Nodup

instance (publication : Publication Node) : Decidable publication.WithinHops :=
  inferInstanceAs (Decidable (∀ leg ∈ publication.crossbar, _ ∧ _))

end Publication

def Forwarding.path (forwarding : Forwarding Node) : List String :=
  (Wire.peer forwarding.node forwarding.sent.envelope).relayPath

namespace Network
variable {fleet : Fleet Node} {repeats : Nat}

def rebroadcasts (state : Network Node) (source : Nat) : Nat :=
  state.forwardings.countP fun forwarding => decide (forwarding.source = source)

def weight (fleet : Fleet Node) (repeats source : Nat) (frame : Frame Node) : Nat :=
  if frame.source = source then frame.left * reach fleet repeats frame.wire.hopTtl.toNat else 0

def potential (fleet : Fleet Node) (repeats : Nat) (state : Network Node) (source : Nat) : Nat :=
  state.rebroadcasts source + (state.frames.map (weight fleet repeats source)).sum

def reachOfPublish (fleet : Fleet Node) (repeats : Nat) : Nat :=
  2 * (fleet.nodes.length * (repeats * reach fleet repeats RELAY_DEFAULT_HOP_TTL.toNat))

structure Relaying (fleet : Fleet Node) (repeats : Nat) (state : Network Node) : Prop where
  origins : ∀ forwarding ∈ state.forwardings, forwarding.source < state.publications.length
  verified : ∀ forwarding ∈ state.forwardings,
    fleet.verifies forwarding.node forwarding.data = true
  noEcho : ∀ forwarding ∈ state.forwardings, ∀ peer, forwarding.inbound = some peer →
    peer ∉ forwarding.sent.targets
  hops : ∀ frame ∈ state.frames, ∀ publication,
    state.publications[frame.source]? = some publication →
    publication.call.topic = RELAY_TOPIC → publication.WithinHops →
    frame.wire.relayPath.length + frame.wire.hopTtl ≤ RELAY_DEFAULT_HOP_TTL ∧
      frame.wire.relayPath.Nodup
  paths : ∀ forwarding ∈ state.forwardings, ∀ publication,
    state.publications[forwarding.source]? = some publication →
    publication.call.topic = RELAY_TOPIC → publication.WithinHops →
    forwarding.path.length ≤ RELAY_DEFAULT_HOP_TTL ∧ forwarding.path.Nodup
  authorised : ∀ delivery ∈ state.deliveries, ∀ publication,
    state.publications[delivery.source]? = some publication →
    publication.call.topic = RELAY_TOPIC → publication.OneId →
    fleet.verifies publication.publisher publication.call.payload = true →
    fleet.verifies delivery.node delivery.data = true
  bounded : ∀ source publication, state.publications[source]? = some publication →
    publication.call.topic = RELAY_TOPIC → publication.WithinHops →
    state.potential fleet repeats source ≤ reachOfPublish fleet repeats

theorem relaying_opened : Relaying fleet repeats (opened : Network Node) := by
  constructor <;> simp [opened]

theorem rebroadcasts_fresh {state : Network Node}
    (origins : ∀ forwarding ∈ state.forwardings, forwarding.source < state.publications.length) :
    state.rebroadcasts state.publications.length = 0 := by
  apply List.countP_eq_zero.mpr
  intro forwarding member same
  have := origins forwarding member
  simp only [decide_eq_true_eq] at same
  omega

theorem weight_fresh (fleet : Fleet Node) (repeats : Nat) {state : Network Node}
    (sources : ∀ frame ∈ state.frames, frame.source < state.publications.length) :
    (state.frames.map (weight fleet repeats state.publications.length)).sum = 0 := by
  have zero := sum_le_of_each (weight fleet repeats state.publications.length) state.frames 0 <| by
    intro frame member
    have := sources frame member
    rw [weight, if_neg (by omega)]
  omega

theorem weight_other (fleet : Fleet Node) (repeats : Nat) (frames : List (Frame Node)) (source other : Nat)
    (elsewhere : ∀ frame ∈ frames, frame.source = other) (different : other ≠ source) :
    (frames.map (weight fleet repeats source)).sum = 0 := by
  have zero := sum_le_of_each (weight fleet repeats source) frames 0 <| by
    intro frame member
    rw [weight, if_neg (elsewhere frame member ▸ different)]
  omega

section

variable [DecidableEq Node] {state : Network Node}

theorem potential_publish (ledger : Ledger state) (relaying : Relaying fleet repeats state)
    (node : Node) (call : Publish) (links : Links Node) (busId : String)
    (relayed : call.topic = RELAY_TOPIC)
    (within : ∀ leg ∈ call.routeCrossbar fleet busId,
      leg.2.hopTtl.getD RELAY_DEFAULT_HOP_TTL ≤ RELAY_DEFAULT_HOP_TTL) :
    (state.publish fleet repeats node call links busId).potential fleet repeats
      state.publications.length ≤ reachOfPublish fleet repeats := by
  have noneYet : (state.publish fleet repeats node call links busId).rebroadcasts
      state.publications.length = 0 := rebroadcasts_fresh relaying.origins
  have narrower : ∀ (hops : Int), hops ≤ RELAY_DEFAULT_HOP_TTL →
      repeats * reach fleet repeats hops.toNat ≤
        repeats * reach fleet repeats RELAY_DEFAULT_HOP_TTL.toNat := fun hops few =>
    Nat.mul_le_mul_left _ (reach_mono fleet repeats (by omega))
  have peers : ((call.routePeerlink fleet node links busId).map fun sent =>
      weight fleet repeats state.publications.length
        ⟨state.publications.length, sent.1, .peer node sent.2, repeats⟩).sum ≤
      fleet.nodes.length * (repeats * reach fleet repeats RELAY_DEFAULT_HOP_TTL.toNat) := by
    refine (sum_le_of_each _ _ (repeats * reach fleet repeats RELAY_DEFAULT_HOP_TTL.toNat)
      fun sent among => ?_).trans (Nat.mul_le_mul_right _ ?_)
    · have spec := mem_routePeerlink fleet call node links busId sent among
      rw [weight, if_pos rfl]
      simp [Wire.hopTtl, spec.2.2.1, Publish.relayMeta, relayed]
    · unfold Publish.routePeerlink
      split_ifs with skipped own
      · exact Nat.zero_le _
      · rw [List.length_map]
        exact broadcast_length fleet links _ none _
      · exact absurd (.inl relayed) own
  have uris : ∀ leg ∈ call.routeCrossbar fleet busId, (fleet.nodes.map fun receiver =>
      weight fleet repeats state.publications.length
        ⟨state.publications.length, receiver, .crossbar leg.1 leg.2, repeats⟩).sum ≤
      fleet.nodes.length * (repeats * reach fleet repeats RELAY_DEFAULT_HOP_TTL.toNat) := by
    intro leg routed
    refine sum_le_of_each _ _ _ fun receiver _ => ?_
    rw [weight, if_pos rfl]
    exact narrower _ (within leg routed)
  have old := weight_fresh fleet repeats ledger.sources
  unfold potential
  rw [noneYet]
  simp only [publish, List.map_append, List.sum_append, List.map_map, Function.comp_def, old]
  unfold reachOfPublish
  cases routed : call.routeCrossbar fleet busId with
  | none =>
    simp only [Option.toList_none, List.flatMap_nil, List.map_nil, List.sum_nil]
    omega
  | some leg =>
    have crossbar := uris leg routed
    simp only [Option.toList_some, List.flatMap_cons, List.flatMap_nil, List.append_nil,
      List.map_map, Function.comp_def]
    omega

theorem potential_publish_other (node : Node) (call : Publish) (links : Links Node) (busId : String)
    (source : Nat) (different : state.publications.length ≠ source) :
    (state.publish fleet repeats node call links busId).potential fleet repeats source =
      state.potential fleet repeats source := by
  have peers := weight_other fleet repeats
    ((call.routePeerlink fleet node links busId).map fun sent =>
      Frame.mk state.publications.length sent.1 (.peer node sent.2) repeats) source
    state.publications.length (fun frame among => by
      obtain ⟨sent, _, rfl⟩ := List.mem_map.mp among
      rfl) different
  have uris := weight_other fleet repeats
    ((call.routeCrossbar fleet busId).toList.flatMap fun leg => fleet.nodes.map fun receiver =>
      Frame.mk state.publications.length receiver (.crossbar leg.1 leg.2) repeats) source
    state.publications.length (fun frame among => by
      obtain ⟨leg, _, inner⟩ := List.mem_flatMap.mp among
      obtain ⟨receiver, _, rfl⟩ := List.mem_map.mp inner
      rfl) different
  unfold potential rebroadcasts
  simp only [publish, List.map_append, List.sum_append, peers, uris]
  omega

theorem relaying_publish (ledger : Ledger state) (relaying : Relaying fleet repeats state)
    (node : Node) (call : Publish) (links : Links Node) (busId : String) :
    Relaying fleet repeats (state.publish fleet repeats node call links busId) := by
  constructor
  · intro forwarding member
    have := relaying.origins forwarding member
    simp only [publish, List.length_append, List.length_singleton]
    omega
  · exact relaying.verified
  · exact relaying.noEcho
  · intro frame member publication published relayed within
    rcases mem_frames_publish member with old | ⟨source, sent⟩
    · rcases published_publish published with before | ⟨new, _⟩
      · exact relaying.hops frame old publication before relayed within
      · exact absurd (ledger.sources frame old) (by omega)
    · rcases published_publish published with before | ⟨_, rfl⟩
      · exact absurd (published_lt before) (by omega)
      rcases sent with ⟨peer, among, _, wire⟩ | ⟨leg, routed, wire⟩
      · have spec := mem_routePeerlink fleet call node links busId peer among
        simp [wire, Wire.relayPath, Wire.hopTtl, spec.2.2.1, Publish.relayMeta,
          show call.topic = RELAY_TOPIC from relayed]
      · rw [wire]
        exact within leg routed
  · intro forwarding member publication published relayed within
    rcases published_publish published with before | ⟨new, _⟩
    · exact relaying.paths forwarding member publication before relayed within
    · exact absurd (relaying.origins forwarding member) (by omega)
  · intro delivery member publication published relayed oneId signed
    rcases List.mem_append.mp member with old | new
    · rcases published_publish published with before | ⟨new, _⟩
      · exact relaying.authorised delivery old publication before relayed oneId signed
      · exact absurd (ledger.handed delivery old) (by omega)
    · obtain rfl := List.mem_singleton.mp new
      rcases published_publish published with before | ⟨_, rfl⟩
      · exact absurd (published_lt before) (by simp)
      · exact signed
  · intro source publication published relayed within
    rcases published_publish published with before | ⟨rfl, rfl⟩
    · have := published_lt before
      rw [potential_publish_other node call links busId source (by omega)]
      exact relaying.bounded source publication before relayed within
    · refine potential_publish ledger relaying node call links busId relayed fun leg routed => ?_
      have := (within leg routed).1
      omega

/-- Handing a frame over spends what its re-broadcast and the copies sent on then weigh. -/
theorem potential_hand {index : Nat} {frame : Frame Node}
    (found : state.frames[index]? = some frame) (left : frame.left ≠ 0) (links : Links Node)
    (fresh : String) (source : Nat) :
    (state.hand fleet repeats index frame links fresh).potential fleet repeats source ≤
      state.potential fleet repeats source := by
  have changed := sum_set (weight fleet repeats source) state.frames index frame
    { frame with left := frame.left - 1 } found
  unfold potential rebroadcasts
  simp only [hand, react, List.countP_append, List.map_append, List.sum_append]
  cases forwarded : (receive fleet frame.receiver links (state.dedup frame.receiver) frame.wire
      fresh).2.rebroadcast with
  | none =>
    have lighter : weight fleet repeats source { frame with left := frame.left - 1 } ≤
        weight fleet repeats source frame := by
      unfold weight
      split_ifs
      · exact Nat.mul_le_mul_right _ (Nat.sub_le _ _)
      · exact Nat.zero_le _
    simp only [Option.toList_none, List.map_nil, List.countP_nil, List.flatMap_nil, List.sum_nil]
    omega
  | some sent =>
    have sentOn := receive_sentOn fleet frame.receiver links _ frame.wire fresh sent forwarded
    simp only [Option.toList_some, List.map_cons, List.map_nil, List.countP_singleton,
      List.flatMap_cons, List.flatMap_nil, List.append_nil, List.map_map, Function.comp_def]
    by_cases same : frame.source = source
    · have hops : frame.wire.hopTtl.toNat = (frame.wire.hopTtl - 1).toNat + 1 := by
        have := sentOn.hopsLeft
        omega
      have copies : (sent.targets.map fun peer => weight fleet repeats source
          ⟨frame.source, peer, .peer frame.receiver sent.envelope, repeats⟩).sum ≤
          fleet.nodes.length * (repeats * reach fleet repeats (frame.wire.hopTtl - 1).toNat) := by
        refine (sum_le_of_each _ _ (repeats * reach fleet repeats (frame.wire.hopTtl - 1).toNat)
          fun peer _ => ?_).trans (Nat.mul_le_mul_right _ ?_)
        · have hop : (Wire.peer frame.receiver sent.envelope).hopTtl = frame.wire.hopTtl - 1 :=
            sentOn.hopTtl
          rw [weight, if_pos same, hop]
        · rw [sentOn.targets]
          exact broadcast_length fleet links _ _ _
      have before : weight fleet repeats source frame =
          frame.left * reach fleet repeats frame.wire.hopTtl.toNat := if_pos same
      have after : weight fleet repeats source { frame with left := frame.left - 1 } =
          (frame.left - 1) * reach fleet repeats frame.wire.hopTtl.toNat := if_pos same
      have spent : frame.left * reach fleet repeats frame.wire.hopTtl.toNat =
          (frame.left - 1) * reach fleet repeats frame.wire.hopTtl.toNat +
            reach fleet repeats frame.wire.hopTtl.toNat := by
        rw [← Nat.succ_mul]
        congr 1
        omega
      have once : reach fleet repeats frame.wire.hopTtl.toNat =
          1 + fleet.nodes.length * (repeats * reach fleet repeats (frame.wire.hopTtl - 1).toNat) := by
        rw [hops]
        rfl
      rw [if_pos (decide_eq_true same)]
      omega
    · have copies := weight_other fleet repeats
        (sent.targets.map fun peer =>
          Frame.mk frame.source peer (.peer frame.receiver sent.envelope) repeats)
        source frame.source (by simp) same
      rw [List.map_map] at copies
      simp only [Function.comp_def] at copies
      rw [copies, if_neg (by simpa using same)]
      simp only [weight, if_neg same] at changed
      omega

theorem relaying_hand (ledger : Ledger state) (relaying : Relaying fleet repeats state)
    {index : Nat} {frame : Frame Node} (found : state.frames[index]? = some frame)
    (left : frame.left ≠ 0) (links : Links Node) (fresh : String) :
    Relaying fleet repeats (state.hand fleet repeats index frame links fresh) := by
  have member : frame ∈ state.frames := List.mem_of_getElem? found
  have sentOn := receive_sentOn fleet frame.receiver links (state.dedup frame.receiver) frame.wire
    fresh
  have onward : ∀ sent publication, state.publications[frame.source]? = some publication →
      publication.call.topic = RELAY_TOPIC → publication.WithinHops →
      SentOn fleet frame.receiver links frame.wire (frame.wire.lookup fresh) sent →
      (Wire.peer frame.receiver sent.envelope).relayPath.length +
          (Wire.peer frame.receiver sent.envelope).hopTtl ≤ RELAY_DEFAULT_HOP_TTL ∧
        (Wire.peer frame.receiver sent.envelope).relayPath.length ≤ RELAY_DEFAULT_HOP_TTL ∧
        (Wire.peer frame.receiver sent.envelope).relayPath.Nodup := by
    intro sent publication published relayed within on
    have hops := relaying.hops frame member publication published relayed within
    have positive := on.hopsLeft
    rw [on.relayPath, on.hopTtl, List.length_append, List.length_singleton]
    refine ⟨by omega, by omega, ?_⟩
    rw [List.nodup_append]
    exact ⟨hops.2, List.nodup_singleton _, fun id inPath _ last same =>
      on.newHere ((List.mem_singleton.mp last) ▸ same ▸ inPath)⟩
  constructor
  · intro forwarding among
    rcases List.mem_append.mp among with old | new
    · exact relaying.origins forwarding old
    · obtain ⟨sent, _, rfl⟩ := List.mem_map.mp new
      exact ledger.sources frame member
  · intro forwarding among
    rcases List.mem_append.mp among with old | new
    · exact relaying.verified forwarding old
    · obtain ⟨sent, forwarded, rfl⟩ := List.mem_map.mp new
      exact (sentOn sent (Option.mem_toList.mp forwarded)).verified
  · intro forwarding among peer inbound
    rcases List.mem_append.mp among with old | new
    · exact relaying.noEcho forwarding old peer inbound
    · obtain ⟨sent, forwarded, rfl⟩ := List.mem_map.mp new
      rw [(sentOn sent (Option.mem_toList.mp forwarded)).targets,
        show frame.wire.sender = some peer from inbound]
      exact broadcast_excludes links false peer _
  · intro other among publication published relayed within
    rcases mem_frames_hand found among with
      ⟨earlier, old, source, _, wire⟩ | ⟨sent, forwarded, source, _, wire⟩
    · rw [wire]
      exact relaying.hops earlier old publication (source ▸ published) relayed within
    · rw [wire]
      have on := onward sent publication (source ▸ published) relayed within (sentOn sent forwarded)
      exact ⟨on.1, on.2.2⟩
  · intro forwarding among publication published relayed within
    rcases List.mem_append.mp among with old | new
    · exact relaying.paths forwarding old publication published relayed within
    · obtain ⟨sent, forwarded, rfl⟩ := List.mem_map.mp new
      exact (onward sent publication published relayed within
        (sentOn sent (Option.mem_toList.mp forwarded))).2
  · intro delivery among publication published relayed oneId signed
    rcases List.mem_append.mp among with old | new
    · exact relaying.authorised delivery old publication published relayed oneId signed
    · obtain ⟨handed, given, rfl⟩ := List.mem_map.mp new
      have handedOver := receive_delivered fleet frame.receiver links _ frame.wire fresh handed
        (Option.mem_toList.mp given)
      have topic := (ledger.oneKey frame member publication published oneId).2
      exact handedOver.1 ▸ handedOver.2 (topic.trans relayed)
  · intro source publication published relayed within
    exact (potential_hand found left links fresh source).trans
      (relaying.bounded source publication published relayed within)

end

theorem relaying_run [DecidableEq Node] (fleet : Fleet Node) (repeats : Nat)
    (run : List (Event Node)) :
    Relaying fleet repeats (StepSystem.final (step fleet repeats) opened run) := by
  refine (StepSystem.final_of_kept (step fleet repeats)
    (fun state => Ledger state ∧ Relaying fleet repeats state) ?_ run opened
    ⟨ledger_opened, relaying_opened⟩).2
  rintro state event ⟨ledger, relaying⟩
  have next := ledger_step fleet repeats ledger event
  rcases step_cases fleet repeats state event with
    same | ⟨node, call, links, busId, result⟩ | ⟨index, frame, links, fresh, found, left, result⟩
  · exact same.symm ▸ ⟨ledger, relaying⟩
  · exact ⟨next, result ▸ relaying_publish ledger relaying node call links busId⟩
  · exact ⟨next, result ▸ relaying_hand ledger relaying found left links fresh⟩

structure RelayedSafely [DecidableEq Node] (fleet : Fleet Node) (repeats : Nat)
    (state : Network Node) (source : Nat) (publication : Publication Node) : Prop where
  bounded : state.rebroadcasts source ≤ reachOfPublish fleet repeats
  paths : ∀ forwarding ∈ state.forwardings, forwarding.source = source →
    forwarding.path.length ≤ RELAY_DEFAULT_HOP_TTL ∧ forwarding.path.Nodup
  verified : ∀ forwarding ∈ state.forwardings, forwarding.source = source →
    fleet.verifies forwarding.node forwarding.data = true
  authorised : ∀ delivery ∈ state.deliveries, delivery.source = source →
    fleet.verifies delivery.node delivery.data = true
  noEcho : ∀ forwarding ∈ state.forwardings, forwarding.source = source →
    ∀ peer, forwarding.inbound = some peer → peer ∉ forwarding.sent.targets
  once : ∀ node, publication.carried ∉ (state.dedup node).evicted → state.copies node source ≤ 1

theorem relayed_safely [DecidableEq Node] (fleet : Fleet Node) (repeats : Nat)
    (run : List (Event Node)) (source : Nat) (publication : Publication Node)
    (published : (StepSystem.final (step fleet repeats) opened run).publications[source]? =
      some publication)
    (relayed : publication.call.topic = RELAY_TOPIC)
    (signed : fleet.verifies publication.publisher publication.call.payload = true)
    (oneId : publication.OneId) (within : publication.WithinHops) :
    RelayedSafely fleet repeats (StepSystem.final (step fleet repeats) opened run) source
      publication := by
  have ledger := ledger_run fleet repeats run
  have relaying := relaying_run fleet repeats run
  constructor
  · have := relaying.bounded source publication published relayed within
    unfold potential at this
    omega
  · intro forwarding member same
    exact relaying.paths forwarding member publication (same ▸ published) relayed within
  · exact fun forwarding member _ => relaying.verified forwarding member
  · intro delivery member same
    exact relaying.authorised delivery member publication (same ▸ published) relayed oneId signed
  · exact fun forwarding member _ => relaying.noEcho forwarding member
  · exact fun node kept => ledger.once node source publication published oneId kept

def update : Publish :=
  ⟨RELAY_TOPIC, ⟨none, none, none, [("cmd_type", "firmware_update")]⟩, "", "n9", false, false⟩

def relayedUpdate : List (Event Bool) :=
  [.publish true update (linkTo false) "u0", .arrive 0 (linkTo true) "u1",
    .arrive 1 (linkTo false) "u2", .arrive 2 (linkTo true) "u3"]

def updatePublished : Publication Bool :=
  ⟨true, "u0", update, true,
    some ("com.hertzai.hevolve.fleet.n9", update.payload.setdefaultMsgId "u0")⟩

theorem relayed_safely_update :
    RelayedSafely twoNodes 3 (StepSystem.final (step twoNodes 3) opened relayedUpdate) 0
      updatePublished := by
  have facts : (StepSystem.final (step twoNodes 3) opened relayedUpdate).publications[0]? =
      some updatePublished ∧ updatePublished.OneId := by decide +kernel
  exact relayed_safely twoNodes 3 relayedUpdate 0 _ facts.1 rfl rfl facts.2 (by decide +kernel)

/-- The same command with a `msg_id` of its own. -/
def namedUpdate : Publish := { update with data := { update.data with msgId := some "cmd7" } }

theorem named_update_delivered_twice :
    ¬ ∀ (fleet : Fleet Bool) (repeats : Nat) (run : List (Event Bool)) (source : Nat)
      (publication : Publication Bool), (run.map Event.uuid).Nodup →
      (StepSystem.final (step fleet repeats) opened run).publications[source]? =
        some publication →
      publication.call.topic = RELAY_TOPIC →
      fleet.verifies publication.publisher publication.call.payload = true →
      ∀ node, (∀ id ∈ publication.localIds ++ publication.wireIds,
          id ∉ ((StepSystem.final (step fleet repeats) opened run).dedup node).evicted) →
        (StepSystem.final (step fleet repeats) opened run).copies node source ≤ 1 := by
  intro always
  let run : List (Event Bool) :=
    [.publish true namedUpdate (linkTo false) "u0", .arrive 0 (linkTo true) "u1",
      .arrive 2 (linkTo true) "u2"]
  let named : Publication Bool := ⟨true, "u0", namedUpdate, true,
    some ("com.hertzai.hevolve.fleet.n9", namedUpdate.payload.setdefaultMsgId "u0")⟩
  have facts : (StepSystem.final (step twoNodes 1) opened run).publications[0]? = some named ∧
      (∀ id ∈ named.localIds ++ named.wireIds,
        id ∉ ((StepSystem.final (step twoNodes 1) opened run).dedup false).evicted) ∧
      ¬ (StepSystem.final (step twoNodes 1) opened run).copies false 0 ≤ 1 := by decide +kernel
  exact facts.2.2 (always twoNodes 1 run 0 named (by decide +kernel) facts.1 rfl rfl false
    facts.2.1)

end Network
end Hartos.Bus
