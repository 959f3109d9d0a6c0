import Hartos.DeliveredOnce

/-!
No message is taken for another one. Every id in a node's cache was put there by a publication
whose marks name it, so a message whose id no other publication marks can only be dropped
where it was already handed over.
-/
namespace Hartos.Bus
variable {Node : Type} [DecidableEq Node]

namespace Network
variable {fleet : Fleet Node} {repeats : Nat}

variable (state : Network Node) (source : Nat) (publication : Publication Node)

def Identified : Prop :=
  publication.OneId ∧ publication.carried ∉ state.minted ∧
    ∀ index other, state.publications[index]? = some other → index ≠ source →
      publication.Apart other

def Reaches (node : Node) : Prop :=
  node = publication.publisher ∨ (node, source) ∈ state.reached

structure Trail (state : Network Node) : Prop where
  wired : ∀ frame ∈ state.frames, ∀ publication,
    state.publications[frame.source]? = some publication →
    frame.wire.key ∈ publication.wireIds ∨ frame.wire.key ∈ state.minted
  traced : ∀ node id, (state.dedup node).Knew id → id ∈ state.minted ∨
    ∃ source publication, state.publications[source]? = some publication ∧
      id ∈ publication.marks node ∧
      (publication.OneId → publication.call.topic ≠ RELAY_TOPIC → 0 < state.copies node source)
  recent : ∀ entry ∈ state.reached, entry.2 < state.publications.length
  arrived : ∀ source publication, state.publications[source]? = some publication →
    publication.call.topic ≠ RELAY_TOPIC → state.Identified source publication →
    ∀ node, (node, source) ∈ state.reached → 0 < state.copies node source

def HandedOver (node : Node) : Prop :=
  0 < state.copies node source ∧
    (publication.carried ∉ (state.dedup node).evicted → state.copies node source = 1) ∧
    ∀ delivery ∈ state.deliveries, delivery.source = source →
      delivery.topic = publication.call.topic

theorem trail_opened : Trail (opened : Network Node) := by
  constructor
  · simp [opened]
  · intro node id knew
    exact absurd knew (LruDedup.not_knew_opened DEDUP_MAXSIZE id)
  · simp [opened]
  · simp [opened]

variable {state : Network Node} {node : Node} {call : Publish} {links : Links Node} {busId : String}
  {source : Nat} {publication : Publication Node}

theorem still_published (published : state.publications[source]? = some publication) :
    (state.publish fleet repeats node call links busId).publications[source]? =
      some publication := by
  rw [publish, List.getElem?_append_left (published_lt published)]
  exact published

theorem identified_publish
    (identified : (state.publish fleet repeats node call links busId).Identified source
      publication) : state.Identified source publication := by
  refine ⟨identified.1, identified.2.1, fun index other published different => ?_⟩
  exact identified.2.2 index other (still_published published) different

theorem identified_hand {index : Nat} {frame : Frame Node} {links : Links Node} {fresh : String}
    {source : Nat} {publication : Publication Node}
    (identified : (state.hand fleet repeats index frame links fresh).Identified source
      publication) : state.Identified source publication := by
  refine ⟨identified.1, fun minted => identified.2.1 ?_, identified.2.2⟩
  simp only [hand, react]
  split_ifs
  · exact List.mem_append_left _ minted
  · exact minted

theorem trail_publish (ledger : Ledger state) (trail : Trail state) (node : Node) (call : Publish)
    (links : Links Node) (busId : String) :
    Trail (state.publish fleet repeats node call links busId) := by
  have more : ∀ receiver source, 0 < state.copies receiver source →
      0 < (state.publish fleet repeats node call links busId).copies receiver source := by
    intro receiver source before
    rw [copies_publish]
    omega
  constructor
  · intro frame member publication published
    rcases mem_frames_publish member with old | ⟨source, sent⟩
    · rcases published_publish published with before | ⟨new, _⟩
      · exact trail.wired frame old publication before
      · exact absurd (ledger.sources frame old) (by omega)
    · left
      rcases published_publish published with before | ⟨_, rfl⟩
      · exact absurd (published_lt before) (by omega)
      rcases sent with ⟨peer, among, _, wire⟩ | ⟨leg, routed, wire⟩
      · have spec := mem_routePeerlink fleet call node links busId peer among
        simp only [wire, Publication.wireIds, key_of_peer among, if_true]
        exact List.mem_append_left _ (List.mem_singleton.mpr spec.1)
      · simp only [wire, Publication.wireIds, routed]
        exact List.mem_append_right _ (List.mem_singleton.mpr rfl)
  · intro receiver id knew
    have known : (state.dedup receiver).Knew id ∨
        receiver = node ∧ id ∈ call.localIds busId := by
      by_cases here : receiver = node
      · subst here
        simp only [publish, Function.update_self] at knew
        exact (knew_marked _ _ _).mp knew |>.imp_right fun own => ⟨rfl, own⟩
      · simp only [publish, Function.update_of_ne here] at knew
        exact .inl knew
    rcases known with before | ⟨rfl, own⟩
    · rcases trail.traced receiver id before with minted | ⟨source, publication, published, marked, given⟩
      · exact .inl minted
      · exact .inr ⟨source, publication, still_published published, marked,
          fun oneId plain => more receiver source (given oneId plain)⟩
    · refine .inr ⟨state.publications.length, _, by simp [publish]; rfl, ?_, fun _ _ => ?_⟩
      · simp only [Publication.marks, Publication.localIds, if_true]
        exact List.mem_append_left _ own
      · rw [copies_publish, if_pos ⟨rfl, rfl⟩]
        omega
  · intro entry member
    have := trail.recent entry member
    simp only [publish, List.length_append, List.length_singleton]
    omega
  · intro source publication published plain identified receiver member
    rcases published_publish published with before | ⟨new, _⟩
    · exact more receiver source
        (trail.arrived source publication before plain (identified_publish identified) receiver member)
    · exact absurd (trail.recent _ member) (by simp [new])

section Hand
variable {index : Nat} {frame : Frame Node} {links : Links Node} {fresh : String}
  {origin : Publication Node}

theorem minted_hand {id : String} (minted : id ∈ state.minted) :
    id ∈ (state.hand fleet repeats index frame links fresh).minted := by
  simp only [hand, react]
  split_ifs
  · exact List.mem_append_left _ minted
  · exact minted

theorem copied_hand {receiver : Node} {source : Nat} (before : 0 < state.copies receiver source) :
    0 < (state.hand fleet repeats index frame links fresh).copies receiver source := by
  rw [copies_hand]
  omega

theorem lookup_hand (trail : Trail state) (member : frame ∈ state.frames)
    (known : state.publications[frame.source]? = some origin) :
    frame.wire.lookup fresh ∈ origin.wireIds ∨
      frame.wire.lookup fresh ∈ (state.hand fleet repeats index frame links fresh).minted := by
  by_cases unnamed : frame.wire.key = ""
  · right
    simp only [hand, react, Wire.lookup, if_pos unnamed]
    exact List.mem_append_right _ (List.mem_singleton.mpr rfl)
  · rw [Wire.lookup_named _ _ unnamed]
    exact (trail.wired frame member origin known).imp_right minted_hand

/-- A plain publication that is not dropped as known is handed over. -/
theorem given_hand (ledger : Ledger state) (member : frame ∈ state.frames)
    (known : state.publications[frame.source]? = some origin) (oneId : origin.OneId)
    (plain : origin.call.topic ≠ RELAY_TOPIC)
    (absent : frame.wire.key ∉ (state.dedup frame.receiver).cache) :
    0 < (state.hand fleet repeats index frame links fresh).copies frame.receiver frame.source := by
  have keyed := ledger.oneKey frame member origin known oneId
  have named : frame.wire.key ≠ "" := keyed.1 ▸ oneId.1
  rcases receive_cases fleet frame.receiver links (state.dedup frame.receiver) frame.wire fresh with
    ⟨_, unnamed | present⟩ | ⟨_, taken⟩
  · exact absurd unnamed named
  · exact absurd present absent
  · rw [copies_hand, taken, reaction_plain fleet frame.receiver links frame.wire _
      (keyed.2 ▸ plain)]
    simp [Reaction.deliver]

theorem wired_hand (trail : Trail state) (found : state.frames[index]? = some frame)
    (known : state.publications[frame.source]? = some origin) {other : Frame Node}
    (among : other ∈ (state.hand fleet repeats index frame links fresh).frames)
    {publication : Publication Node}
    (published : state.publications[other.source]? = some publication) :
    other.wire.key ∈ publication.wireIds ∨
      other.wire.key ∈ (state.hand fleet repeats index frame links fresh).minted := by
  have member : frame ∈ state.frames := List.mem_of_getElem? found
  rcases mem_frames_hand found among with
    ⟨earlier, old, source, _, wire⟩ | ⟨sent, forwarded, source, _, wire⟩
  · rw [wire]
    exact (trail.wired earlier old publication (source ▸ published)).imp_right minted_hand
  · have sentOn := receive_sentOn fleet frame.receiver links _ frame.wire fresh sent forwarded
    have key : other.wire.key = (frame.wire.envelope (frame.wire.lookup fresh)).msgId := by
      rw [wire]
      exact sentOn.msgId
    rw [source] at published
    rw [key]
    rcases envelope_msgId_or frame.wire (frame.wire.lookup fresh) with same | same
    · rw [same]
      exact (trail.wired frame member publication published).imp_right minted_hand
    · obtain rfl : publication = origin := Option.some.inj (published.symm.trans known)
      rw [same]
      exact lookup_hand trail member known

theorem traced_hand (ledger : Ledger state) (trail : Trail state) (member : frame ∈ state.frames)
    (known : state.publications[frame.source]? = some origin) {receiver : Node} {id : String}
    (knew : ((state.hand fleet repeats index frame links fresh).dedup receiver).Knew id) :
    id ∈ (state.hand fleet repeats index frame links fresh).minted ∨
      ∃ source publication, state.publications[source]? = some publication ∧
        id ∈ publication.marks receiver ∧
        (publication.OneId → publication.call.topic ≠ RELAY_TOPIC →
          0 < (state.hand fleet repeats index frame links fresh).copies receiver source) := by
  by_cases before : (state.dedup receiver).Knew id
  · rcases trail.traced receiver id before with
      minted | ⟨source, publication, published, marked, handedOver⟩
    · exact .inl (minted_hand minted)
    · exact .inr ⟨source, publication, published, marked,
        fun oneId plain => copied_hand (handedOver oneId plain)⟩
  · by_cases here : receiver = frame.receiver
    · subst here
      simp only [hand, react, Function.update_self] at knew
      obtain rfl := ((knew_receive fleet frame.receiver links _ frame.wire fresh id).2.1
        knew).resolve_left before
      rcases lookup_hand trail member known with wired | minted
      · refine .inr ⟨frame.source, origin, known, List.mem_append_right _ wired,
          fun oneId plain => given_hand ledger member known oneId plain fun present => before ?_⟩
        have keyed := ledger.oneKey frame member origin known oneId
        rw [Wire.lookup_named frame.wire fresh (keyed.1 ▸ oneId.1)]
        exact .inl present
      · exact .inl minted
    · simp only [hand, react, Function.update_of_ne here] at knew
      exact absurd knew before

end Hand

theorem trail_hand (ledger : Ledger state) (trail : Trail state) {index : Nat} {frame : Frame Node}
    (found : state.frames[index]? = some frame) (links : Links Node) (fresh : String) :
    Trail (state.hand fleet repeats index frame links fresh) := by
  have member : frame ∈ state.frames := List.mem_of_getElem? found
  obtain ⟨origin, known⟩ : ∃ origin, state.publications[frame.source]? = some origin :=
    ⟨_, List.getElem?_eq_getElem (ledger.sources frame member)⟩
  constructor
  · intro other among publication published
    exact wired_hand trail found known among published
  · intro receiver id knew
    exact traced_hand ledger trail member known knew
  · intro entry among
    rcases List.mem_append.mp among with old | new
    · exact trail.recent entry old
    · obtain rfl := List.mem_singleton.mp new
      exact ledger.sources frame member
  · intro source publication published plain identified receiver among
    have before := identified_hand identified
    rcases List.mem_append.mp among with old | new
    · exact copied_hand
        (trail.arrived source publication published plain before receiver old)
    · obtain ⟨rfl, rfl⟩ := Prod.mk.inj (List.mem_singleton.mp new)
      by_cases present : frame.wire.key ∈ (state.dedup frame.receiver).cache
      · apply copied_hand
        have keyed := ledger.oneKey frame member publication published before.1
        rw [keyed.1] at present
        rcases trail.traced frame.receiver publication.carried (.inl present) with
          minted | ⟨other, holder, holds, marked, handedOver⟩
        · exact absurd minted before.2.1
        · by_cases same : other = frame.source
          · subst same
            obtain rfl : holder = publication := Option.some.inj (holds.symm.trans published)
            exact handedOver before.1 plain
          · have apart := before.2.2 other holder holds same frame.receiver
            have home : frame.receiver = publication.publisher :=
              not_not.mp fun away => apart away marked
            rw [home]
            exact ledger.own frame.source publication published
      · exact given_hand ledger member published before.1 plain present

theorem trail_run (fleet : Fleet Node) (repeats : Nat) (run : List (Event Node)) :
    Trail (StepSystem.final (step fleet repeats) opened run) := by
  refine (StepSystem.final_of_kept (step fleet repeats) (fun state => Ledger state ∧ Trail state)
    ?_ run opened ⟨ledger_opened, trail_opened⟩).2
  rintro state event ⟨ledger, trail⟩
  have next := ledger_step fleet repeats ledger event
  rcases step_cases fleet repeats state event with
    same | ⟨node, call, links, busId, result⟩ | ⟨index, frame, links, fresh, found, _, result⟩
  · exact same.symm ▸ ⟨ledger, trail⟩
  · exact ⟨next, result ▸ trail_publish ledger trail node call links busId⟩
  · exact ⟨next, result ▸ trail_hand ledger trail found links fresh⟩

/-- Over peer links, over Crossbar or as an echo, in any order and any number of times. -/
theorem delivered_exactly_once (fleet : Fleet Node) (repeats : Nat) (run : List (Event Node)) (source : Nat)
    (publication : Publication Node)
    (published : (StepSystem.final (step fleet repeats) opened run).publications[source]? =
      some publication)
    (plain : publication.call.topic ≠ RELAY_TOPIC)
    (identified : (StepSystem.final (step fleet repeats) opened run).Identified source publication)
    (node : Node)
    (reaches : (StepSystem.final (step fleet repeats) opened run).Reaches source publication node) :
    (StepSystem.final (step fleet repeats) opened run).HandedOver source publication node := by
  have ledger := ledger_run fleet repeats run
  have trail := trail_run fleet repeats run
  have once : 0 < (StepSystem.final (step fleet repeats) opened run).copies node source := by
    rcases reaches with rfl | arrived
    · exact ledger.own source publication published
    · exact trail.arrived source publication published plain identified node arrived
  refine ⟨once, fun kept => ?_, fun delivery member same => ?_⟩
  · have := ledger.once node source publication published identified.1 kept
    omega
  · exact ledger.topics delivery member publication (same.symm ▸ published) identified.1

def progress : Publish :=
  ⟨"task.progress", ⟨none, none, none, [("step", "3")]⟩, "", "", false, false⟩

def progressRun : List (Event Bool) :=
  [.publish true progress (linkTo false) "u0", .arrive 1 (linkTo false) "u1",
    .arrive 2 (linkTo true) "u2", .arrive 0 (linkTo true) "u3"]

def progressPublished : Publication Bool :=
  ⟨true, "u0", progress, true,
    some ("com.hertzai.longrunning.log", progress.payload.setdefaultMsgId "u0")⟩

theorem progress_delivered_once :
    (StepSystem.final (step twoNodes 1) opened progressRun).HandedOver 0 progressPublished
      false := by
  have facts : (StepSystem.final (step twoNodes 1) opened progressRun).publications =
        [progressPublished] ∧
      progressPublished.carried ∉ (StepSystem.final (step twoNodes 1) opened progressRun).minted ∧
      (false, 0) ∈ (StepSystem.final (step twoNodes 1) opened progressRun).reached ∧
      progressPublished.OneId := by decide +kernel
  refine delivered_exactly_once twoNodes 1 progressRun 0 _ (by rw [facts.1]; rfl)
    (by decide +kernel) ⟨facts.2.2.2, facts.2.1, fun index other published different => ?_⟩ false
    (.inr facts.2.2.1)
  have bound := published_lt published
  rw [facts.1, List.length_singleton] at bound
  omega

/-- The same message with a `msg_id` of its own. -/
def namedProgress : Publish := { progress with data := { progress.data with msgId := some "row7" } }

theorem named_progress_delivered_twice :
    ¬ ∀ (fleet : Fleet Bool) (repeats : Nat) (run : List (Event Bool)) (source : Nat)
      (publication : Publication Bool), (run.map Event.uuid).Nodup →
      (StepSystem.final (step fleet repeats) opened run).publications[source]? =
        some publication →
      publication.call.topic ≠ RELAY_TOPIC →
      ∀ node, (StepSystem.final (step fleet repeats) opened run).Reaches source publication node →
        (∀ id ∈ publication.localIds ++ publication.wireIds,
          id ∉ ((StepSystem.final (step fleet repeats) opened run).dedup node).evicted) →
        (StepSystem.final (step fleet repeats) opened run).copies node source = 1 := by
  intro always
  let run : List (Event Bool) :=
    [.publish true namedProgress (linkTo false) "u0", .arrive 0 (linkTo true) "u1",
      .arrive 2 (linkTo true) "u2"]
  let named : Publication Bool := ⟨true, "u0", namedProgress, true,
    some ("com.hertzai.longrunning.log", namedProgress.payload.setdefaultMsgId "u0")⟩
  have facts : (StepSystem.final (step twoNodes 1) opened run).publications[0]? = some named ∧
      (false, 0) ∈ (StepSystem.final (step twoNodes 1) opened run).reached ∧
      (∀ id ∈ named.localIds ++ named.wireIds,
        id ∉ ((StepSystem.final (step twoNodes 1) opened run).dedup false).evicted) ∧
      (StepSystem.final (step twoNodes 1) opened run).copies false 0 ≠ 1 := by decide +kernel
  exact facts.2.2.2 (always twoNodes 1 run 0 named (by decide +kernel) facts.1 (by decide +kernel)
    false (.inr facts.2.1) facts.2.2.1)

end Network
end Hartos.Bus
