import Hartos.BusNetwork

/-!
A publication all whose copies are looked up under one id is handed to a node's subscribers at
most once, as long as the node's cache keeps that id. Where no other message has that id
recorded, every node a copy reaches hands it over.
-/
namespace Hartos.Bus
variable {Node : Type} [DecidableEq Node]

namespace Publication
variable (publication : Publication Node)

def localIds : List String := publication.call.localIds publication.busId

def wireIds : List String :=
  (if publication.peered then [publication.busId] else []) ++
    publication.crossbar.toList.map fun leg => leg.2.msgId.getD ""

def carried : String :=
  if publication.peered then publication.busId
  else
    match publication.crossbar with
    | some leg => leg.2.msgId.getD ""
    | none => publication.busId

def marks (node : Node) : List String :=
  (if node = publication.publisher then publication.localIds else []) ++ publication.wireIds

def OneId : Prop :=
  publication.carried ≠ "" ∧ publication.carried ∈ publication.localIds ∧
    ∀ leg ∈ publication.crossbar,
      busTopicOf leg.1 = publication.call.topic ∧ leg.2.msgId.getD "" = publication.carried

instance : Decidable publication.OneId :=
  inferInstanceAs (Decidable (_ ∧ _ ∧ ∀ leg ∈ publication.crossbar, _ ∧ _))

def Apart (other : Publication Node) : Prop :=
  ∀ node, node ≠ publication.publisher → publication.carried ∉ other.marks node

omit [DecidableEq Node] in
theorem wired_of_peered (peered : publication.peered = true) :
    publication.carried = publication.busId := if_pos peered

end Publication

theorem key_of_peer {call : Publish} {fleet : Fleet Node} {node : Node} {links : Links Node}
    {busId : String} {sent : Node × Envelope}
    (among : sent ∈ call.routePeerlink fleet node links busId) :
    decide (call.routePeerlink fleet node links busId ≠ []) = true :=
  decide_eq_true (List.ne_nil_of_mem among)

namespace Network
variable {fleet : Fleet Node} {repeats : Nat}

theorem copies_publish (state : Network Node) (node : Node) (call : Publish) (links : Links Node)
    (busId : String) (receiver : Node) (source : Nat) :
    (state.publish fleet repeats node call links busId).copies receiver source =
      state.copies receiver source +
        if node = receiver ∧ state.publications.length = source then 1 else 0 := by
  simp [copies, publish, List.countP_append, List.countP_singleton]

theorem copies_hand (state : Network Node) (index : Nat) (frame : Frame Node) (links : Links Node)
    (fresh : String) (receiver : Node) (source : Nat) :
    (state.hand fleet repeats index frame links fresh).copies receiver source =
      state.copies receiver source +
        if (receive fleet frame.receiver links (state.dedup frame.receiver) frame.wire
            fresh).2.delivered.isSome ∧ frame.receiver = receiver ∧ frame.source = source
        then 1 else 0 := by
  unfold copies hand react
  dsimp only
  cases (receive fleet frame.receiver links (state.dedup frame.receiver) frame.wire
    fresh).2.delivered with
  | none => simp
  | some handed => simp [List.countP_singleton]

variable {state : Network Node}

theorem copies_fresh
    (handed : ∀ delivery ∈ state.deliveries, delivery.source < state.publications.length)
    (node : Node) : state.copies node state.publications.length = 0 := by
  apply List.countP_eq_zero.mpr
  intro delivery member same
  have := handed delivery member
  simp only [decide_eq_true_eq] at same
  omega

structure Ledger (state : Network Node) : Prop where
  sources : ∀ frame ∈ state.frames, frame.source < state.publications.length
  handed : ∀ delivery ∈ state.deliveries, delivery.source < state.publications.length
  oneKey : ∀ frame ∈ state.frames, ∀ publication,
    state.publications[frame.source]? = some publication → publication.OneId →
    frame.wire.key = publication.carried ∧ frame.wire.topic = publication.call.topic
  recorded : ∀ node source publication, state.publications[source]? = some publication →
    publication.OneId → 0 < state.copies node source →
    (state.dedup node).Knew publication.carried
  once : ∀ node source publication, state.publications[source]? = some publication →
    publication.OneId → publication.carried ∉ (state.dedup node).evicted →
    state.copies node source ≤ 1
  topics : ∀ delivery ∈ state.deliveries, ∀ publication,
    state.publications[delivery.source]? = some publication → publication.OneId →
    delivery.topic = publication.call.topic
  own : ∀ source publication, state.publications[source]? = some publication →
    0 < state.copies publication.publisher source

theorem ledger_opened : Ledger (opened : Network Node) := by
  constructor <;> simp [opened]

theorem ledger_publish (ledger : Ledger state) (node : Node) (call : Publish) (links : Links Node)
    (busId : String) : Ledger (state.publish fleet repeats node call links busId) := by
  have longer : (state.publish fleet repeats node call links busId).publications.length =
      state.publications.length + 1 := by simp [publish]
  constructor
  · intro frame member
    rw [longer]
    rcases mem_frames_publish member with old | ⟨same, _⟩
    · exact Nat.lt_succ_of_lt (ledger.sources frame old)
    · omega
  · intro delivery member
    rw [longer]
    rcases List.mem_append.mp member with old | new
    · exact Nat.lt_succ_of_lt (ledger.handed delivery old)
    · obtain rfl := List.mem_singleton.mp new
      exact Nat.lt_succ_self _
  · intro frame member publication published oneId
    rcases mem_frames_publish member with old | ⟨source, sent⟩
    · rcases published_publish published with before | ⟨new, _⟩
      · exact ledger.oneKey frame old publication before oneId
      · exact absurd (ledger.sources frame old) (by omega)
    · rcases published_publish published with before | ⟨_, rfl⟩
      · exact absurd (published_lt before) (by omega)
      rcases sent with ⟨peer, among, _, wire⟩ | ⟨leg, routed, wire⟩
      · have spec := mem_routePeerlink fleet call node links busId peer among
        rw [wire]
        have wired := Publication.wired_of_peered
          ⟨node, busId, call, decide (call.routePeerlink fleet node links busId ≠ []),
            call.routeCrossbar fleet busId⟩ (key_of_peer among)
        exact ⟨spec.1.trans wired.symm, spec.2.1⟩
      · rw [wire]
        have legs := oneId.2.2 leg routed
        exact ⟨legs.2, legs.1⟩
  · intro receiver source publication published oneId delivered
    rw [copies_publish] at delivered
    by_cases here : receiver = node
    · subst here
      simp only [publish, Function.update_self]
      rw [knew_marked]
      rcases published_publish published with before | ⟨new, rfl⟩
      · have notNew : ¬ state.publications.length = source := by have := published_lt before; omega
        rw [if_neg (fun both => notNew both.2)] at delivered
        exact .inl (ledger.recorded receiver source publication before oneId delivered)
      · exact .inr oneId.2.1
    · rw [if_neg (fun both => here both.1.symm)] at delivered
      simp only [publish, Function.update_of_ne here]
      rcases published_publish published with before | ⟨rfl, _⟩
      · exact ledger.recorded receiver source publication before oneId delivered
      · rw [copies_fresh ledger.handed] at delivered
        exact absurd delivered (by omega)
  · intro receiver source publication published oneId kept
    rw [copies_publish]
    have kept : publication.carried ∉ (state.dedup receiver).evicted := by
      intro went
      apply kept
      by_cases here : receiver = node
      · subst here
        simpa only [publish, Function.update_self] using evicted_marked _ _ _ went
      · simpa only [publish, Function.update_of_ne here] using went
    rcases published_publish published with before | ⟨rfl, _⟩
    · have notNew : ¬ state.publications.length = source := by have := published_lt before; omega
      rw [if_neg (fun both => notNew both.2)]
      exact ledger.once receiver source publication before oneId kept
    · rw [copies_fresh ledger.handed]
      split_ifs <;> omega
  · intro delivery member publication published oneId
    rcases List.mem_append.mp member with old | new
    · rcases published_publish published with before | ⟨new, _⟩
      · exact ledger.topics delivery old publication before oneId
      · exact absurd (ledger.handed delivery old) (by omega)
    · obtain rfl := List.mem_singleton.mp new
      rcases published_publish published with before | ⟨_, rfl⟩
      · exact absurd (published_lt before) (by simp)
      · rfl
  · intro source publication published
    rw [copies_publish]
    rcases published_publish published with before | ⟨rfl, rfl⟩
    · exact Nat.lt_of_lt_of_le (ledger.own source publication before) (Nat.le_add_right _ _)
    · simp

theorem ledger_hand (ledger : Ledger state) {index : Nat} {frame : Frame Node}
    (found : state.frames[index]? = some frame) (links : Links Node) (fresh : String) :
    Ledger (state.hand fleet repeats index frame links fresh) := by
  have member : frame ∈ state.frames := List.mem_of_getElem? found
  have knows := knew_receive fleet frame.receiver links (state.dedup frame.receiver)
    frame.wire fresh
  have cases := receive_cases fleet frame.receiver links (state.dedup frame.receiver) frame.wire fresh
  constructor
  · intro other among
    rcases mem_frames_hand found among with ⟨earlier, old, source, _, _⟩ | ⟨_, _, source, _, _⟩
    · exact source ▸ ledger.sources earlier old
    · exact source ▸ ledger.sources frame member
  · intro delivery among
    rcases List.mem_append.mp among with old | new
    · exact ledger.handed delivery old
    · obtain ⟨handed, _, rfl⟩ := List.mem_map.mp new
      exact ledger.sources frame member
  · intro other among publication published oneId
    rcases mem_frames_hand found among with
      ⟨earlier, old, source, _, wire⟩ | ⟨sent, forwarded, source, _, wire⟩
    · rw [wire]
      exact ledger.oneKey earlier old publication (source ▸ published) oneId
    · have keyed := ledger.oneKey frame member publication (source ▸ published) oneId
      have sentOn := receive_sentOn fleet frame.receiver links _ frame.wire fresh sent forwarded
      have named : frame.wire.key ≠ "" := keyed.1 ▸ oneId.1
      rw [wire]
      exact ⟨(sentOn.msgId.trans (envelope_msgId frame.wire fresh named)).trans keyed.1,
        (sentOn.topic.trans sentOn.relayed.symm).trans keyed.2⟩
  · intro receiver source publication published oneId delivered
    rw [copies_hand] at delivered
    by_cases here : receiver = frame.receiver
    · subst here
      simp only [hand, react, Function.update_self]
      by_cases before : 0 < state.copies frame.receiver source
      · exact (knows _).1 (ledger.recorded _ source publication published oneId before)
      · split_ifs at delivered with new
        · obtain ⟨handed, _, rfl⟩ := new
          have keyed := ledger.oneKey frame member publication published oneId
          have named : frame.wire.key ≠ "" := keyed.1 ▸ oneId.1
          rcases cases with ⟨dropped, _⟩ | ⟨_, taken⟩
          · simp [dropped, Reaction.nothing] at handed
          · rw [taken]
            apply (LruDedup.knew_checkAndAdd _ _ _).mpr
            exact .inr ((Wire.lookup_named _ fresh named).trans keyed.1).symm
        · exact absurd delivered before
    · rw [if_neg (fun all => here all.2.1.symm)] at delivered
      simp only [hand, react, Function.update_of_ne here]
      exact ledger.recorded receiver source publication published oneId delivered
  · intro receiver source publication published oneId kept
    rw [copies_hand]
    by_cases here : receiver = frame.receiver
    · subst here
      simp only [hand, react, Function.update_self] at kept
      have keptBefore : publication.carried ∉ (state.dedup frame.receiver).evicted :=
        fun went => kept ((knows _).2.2 went)
      split_ifs with new
      · obtain ⟨handed, _, rfl⟩ := new
        have keyed := ledger.oneKey frame member publication published oneId
        have named : frame.wire.key ≠ "" := keyed.1 ▸ oneId.1
        rcases cases with ⟨dropped, _⟩ | ⟨absent, _⟩
        · simp [dropped, Reaction.nothing] at handed
        · rw [Wire.lookup_named _ fresh named, keyed.1] at absent
          have never : ¬ 0 < state.copies frame.receiver frame.source := fun before =>
            absent (LruDedup.in_cache
              (ledger.recorded _ frame.source publication published oneId before) keptBefore)
          omega
      · exact ledger.once _ source publication published oneId keptBefore
    · rw [if_neg (fun all => here all.2.1.symm)]
      simp only [hand, react, Function.update_of_ne here] at kept
      exact ledger.once receiver source publication published oneId kept
  · intro delivery among publication published oneId
    rcases List.mem_append.mp among with old | new
    · exact ledger.topics delivery old publication published oneId
    · obtain ⟨handed, given, rfl⟩ := List.mem_map.mp new
      have handedOver := (receive_delivered fleet frame.receiver links _ frame.wire fresh handed
        (Option.mem_toList.mp given)).1
      exact (congrArg Prod.fst handedOver).trans
        (ledger.oneKey frame member publication published oneId).2
  · intro source publication published
    rw [copies_hand]
    exact Nat.lt_of_lt_of_le (ledger.own source publication published) (Nat.le_add_right _ _)

theorem ledger_step (fleet : Fleet Node) (repeats : Nat) {state : Network Node}
    (ledger : Ledger state) (event : Event Node) : Ledger (state.step fleet repeats event) := by
  rcases step_cases fleet repeats state event with
    same | ⟨node, call, links, busId, result⟩ | ⟨index, frame, links, fresh, found, _, result⟩
  · exact same.symm ▸ ledger
  · exact result ▸ ledger_publish ledger node call links busId
  · exact result ▸ ledger_hand ledger found links fresh

theorem ledger_run (fleet : Fleet Node) (repeats : Nat) (run : List (Event Node)) :
    Ledger (StepSystem.final (step fleet repeats) opened run) :=
  StepSystem.final_of_kept (step fleet repeats) Ledger
    (fun _ event ledger => ledger_step fleet repeats ledger event) run opened ledger_opened

end Network

def twoNodes : Fleet Bool where
  nodes := [true, false]
  everyone := by decide
  selfNodeId := fun node => if node then "a1" else "b2"
  named := by decide
  verifies := fun _ _ => true
  scrub := fun _ data => some data
  ownsSameUserLinks := fun _ _ => true
  crossbarLegIsUsersOwn := fun _ _ => true
  routingKeysIntact := fun _ _ _ => true

def linkTo (peer : Bool) : Links Bool := ⟨[⟨peer, true, true, true, false, false⟩], by simp⟩

end Hartos.Bus
