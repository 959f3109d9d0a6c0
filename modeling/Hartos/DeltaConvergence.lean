import Hartos.CensusOrder
import Hartos.StepSystem

/-!
Deliveries of learning deltas, in any order, any number of times and over either
transport: which deltas a node then holds, and when its census and its average are those
of every other node that was sent the same.
-/
namespace Hartos.Federation
open KeyedTable StepSystem

inductive Transport where
  | http | peerLink
  deriving DecidableEq

structure Delivery where
  transport : Transport
  gate : Gate
  now : ℚ
  payload : Payload

def Verdict.delta? : Verdict → Option Delta
  | .ended _ => none
  | .accepted delta => some delta

namespace Delivery
variable (delivery : Delivery)

def received (aggregator : FederatedAggregator) : FederatedAggregator :=
  match delivery.transport with
  | .http => (peerFederationDelta aggregator delivery.gate delivery.now delivery.payload).1
  | .peerLink => (handleLearningDelta aggregator delivery.gate delivery.now delivery.payload).1

def accepts : Option Delta :=
  (delivery.gate.examine delivery.now delivery.payload).delta?

def Timely : Prop :=
  ∀ delta, delivery.payload = .object delta → delta.stale delivery.now = false

instance : DecidablePred Timely := fun delivery =>
  match sent : delivery.payload with
  | .value _ => .isTrue fun _ found => absurd found (by simp [sent])
  | .object delta => decidable_of_iff (delta.stale delivery.now = false) (by simp [Timely, sent])

end Delivery

-- Inside the window the clock makes no difference to what the checks say.
theorem Gate.examine_timely (gate : Gate) (first second : ℚ) (payload : Payload)
    (now : ∀ delta, payload = .object delta → delta.stale first = false)
    (later : ∀ delta, payload = .object delta → delta.stale second = false) :
    gate.examine first payload = gate.examine second payload := by
  cases payload with
  | value truthy => rfl
  | object delta =>
    simp only [examine, check, checkFreshness, now delta rfl, later delta rfl]

-- Over either transport a delivery stores the delta it gets accepted and nothing else.
theorem Delivery.received_eq (delivery : Delivery) (aggregator : FederatedAggregator) :
    delivery.received aggregator =
      match delivery.accepts with
      | none => aggregator
      | some delta => aggregator.store (.accepted delta) := by
  have stored (verdict : Verdict) : aggregator.store verdict =
      match verdict.delta? with
      | none => aggregator
      | some delta => aggregator.store (.accepted delta) := by
    cases verdict <;> rfl
  obtain ⟨transport, gate, now, payload⟩ := delivery
  cases transport with
  | http =>
    cases payload with
    | object delta => exact stored _
    | value truthy => cases truthy <;> rfl
  | peerLink =>
    cases payload with
    | object delta => exact stored _
    | value truthy => rfl

structure Receiver where
  aggregator : FederatedAggregator
  accepted : List Delta

namespace Receiver

def opened (localDelta : Option Delta) (epoch : Nat) (installs : Finset String) : Receiver :=
  ⟨⟨Table.empty Delta.nodeId, localDelta, epoch, installs⟩, []⟩

variable (receiver : Receiver) (delivery : Delivery)

def deliver : Receiver :=
  ⟨delivery.received receiver.aggregator, delivery.accepts.toList ++ receiver.accepted⟩

def HoldsNewest : Prop :=
  receiver.aggregator.peerDeltas.Newest Delta.timestamp receiver.accepted

def ReplacesOlder : Prop :=
  ∀ delta, delivery.accepts = some delta →
    ∀ held, receiver.aggregator.peerDeltas.get? delta.nodeId = some held →
      held = delta ∨ held.timestamp < delta.timestamp

instance (receiver : Receiver) : DecidablePred receiver.ReplacesOlder := fun delivery =>
  inferInstanceAs (Decidable (∀ delta ∈ delivery.accepts,
    ∀ held ∈ receiver.aggregator.peerDeltas.get? delta.nodeId,
      held = delta ∨ held.timestamp < delta.timestamp))

theorem opened_holds (localDelta : Option Delta) (epoch : Nat) (installs : Finset String) :
    (opened localDelta epoch installs).HoldsNewest :=
  Table.newest_empty Delta.timestamp

theorem deliver_holds_iff (holds : receiver.HoldsNewest) :
    (receiver.deliver delivery).HoldsNewest ↔ receiver.ReplacesOlder delivery := by
  unfold HoldsNewest at holds ⊢
  unfold ReplacesOlder deliver
  rw [delivery.received_eq]
  cases delivery.accepts with
  | none => simpa using holds
  | some delta =>
    have step := Table.newest_set_iff holds delta
    simpa [FederatedAggregator.store, FederatedAggregator.recordGenuineInstall] using step

structure Grown (start receiver : Receiver) : Prop where
  localDelta : receiver.aggregator.localDelta = start.aggregator.localDelta
  epoch : receiver.aggregator.epoch = start.aggregator.epoch
  installs : ∀ nodeId, nodeId ∈ receiver.aggregator.genuineInstalls ↔
    nodeId ∈ start.aggregator.genuineInstalls ∨
      ∃ delta ∈ receiver.accepted, delta.nodeId = nodeId

theorem deliver_grown (start receiver : Receiver) (delivery : Delivery)
    (grown : Grown start receiver) : Grown start (receiver.deliver delivery) := by
  obtain ⟨localDelta, epoch, installs⟩ := grown
  unfold deliver
  rw [delivery.received_eq]
  cases delivery.accepts with
  | none => exact ⟨localDelta, epoch, by simpa using installs⟩
  | some delta =>
    refine ⟨localDelta, epoch, fun nodeId => ?_⟩
    simp only [FederatedAggregator.store, FederatedAggregator.recordGenuineInstall,
      Finset.mem_insert, installs, Option.toList_some, List.singleton_append, List.mem_cons,
      exists_eq_or_imp]
    tauto

theorem final_grown (start : Receiver) (nothing : start.accepted = []) (run : List Delivery) :
    Grown start (final deliver start run) := by
  apply final_of_invariant deliver (Grown start) (fun _ _ => True)
  · intro receiver delivery grown _
    exact deliver_grown start receiver delivery grown
  · exact ⟨rfl, rfl, by simp [nothing]⟩
  · exact along_of_forall deliver (fun _ => True) run (fun _ _ => trivial) start

theorem final_accepted (run : List Delivery) (start : Receiver) (delta : Delta) :
    delta ∈ (final deliver start run).accepted ↔
      delta ∈ start.accepted ∨ ∃ delivery ∈ run, delivery.accepts = some delta := by
  induction run generalizing start with
  | nil => simp [final]
  | cons delivery rest ih =>
    rw [final, ih]
    simp only [deliver, List.mem_append, Option.mem_toList, List.mem_cons,
      exists_eq_or_imp]
    tauto

end Receiver

def SameDeliveries (left right : List Delivery) : Prop :=
  ∀ gate payload, (∃ delivery ∈ left, delivery.gate = gate ∧ delivery.payload = payload) ↔
    ∃ delivery ∈ right, delivery.gate = gate ∧ delivery.payload = payload

variable {left right : List Delivery}

theorem SameDeliveries.symm (same : SameDeliveries left right) : SameDeliveries right left :=
  fun gate payload => (same gate payload).symm

theorem SameDeliveries.accepts (same : SameDeliveries left right)
    (timely : ∀ delivery ∈ left, delivery.Timely) (alsoTimely : ∀ delivery ∈ right, delivery.Timely)
    (delta : Delta) (accepted : ∃ delivery ∈ left, delivery.accepts = some delta) :
    ∃ delivery ∈ right, delivery.accepts = some delta := by
  obtain ⟨delivery, member, accepts⟩ := accepted
  obtain ⟨again, sent, gate, payload⟩ :=
    (same delivery.gate delivery.payload).mp ⟨delivery, member, rfl, rfl⟩
  refine ⟨again, sent, ?_⟩
  have clock := delivery.gate.examine_timely delivery.now again.now delivery.payload
    (timely delivery member) (payload ▸ alsoTimely again sent)
  rw [Delivery.accepts, gate, payload, ← clock]
  exact accepts

namespace Receiver

/-- The nodes in the order in which a delta of theirs is first accepted. -/
def hear (heard : List String) (delivery : Delivery) : List String :=
  match delivery.accepts with
  | none => heard
  | some delta => if delta.nodeId ∈ heard then heard else heard ++ [delta.nodeId]

def firstHeard (run : List Delivery) : List String := run.foldl hear []

theorem final_keys (run : List Delivery) (start : Receiver) :
    (final deliver start run).aggregator.peerDeltas.keys =
      run.foldl hear start.aggregator.peerDeltas.keys := by
  induction run generalizing start with
  | nil => rfl
  | cons delivery rest ih =>
    rw [final, ih, List.foldl_cons, deliver, delivery.received_eq, hear]
    cases delivery.accepts with
    | none => rfl
    | some delta => exact congrArg (rest.foldl hear) (Table.keys_set _ delta)

structure SameCounts (left right : FederatedAggregator) (python : Python) (now : ℚ) : Prop where
  census : Option.Rel Census.SameCounts (left.hiveCensus python now) (right.hiveCensus python now)
  average : Option.Rel (Option.Rel (Aggregated.Alike SameNames)) (left.aggregate python now)
    (right.aggregate python now)

structure SameReports (left right : FederatedAggregator) (python : Python) (now : ℚ) : Prop where
  census : Option.Rel Census.Same (left.hiveCensus python now) (right.hiveCensus python now)
  average : Option.Rel (Option.Rel (Aggregated.Alike SameAverages)) (left.aggregate python now)
    (right.aggregate python now)

theorem sameReports_refl (aggregator : FederatedAggregator) (python : Python) (now : ℚ) :
    SameReports aggregator aggregator python now := by
  constructor
  · cases aggregator.hiveCensus python now with
    | none => exact .none
    | some census => exact .some ⟨fun _ => rfl, rfl⟩
  · cases aggregator.aggregate python now with
    | none => exact .none
    | some averages =>
      cases averages with
      | none => exact .some .none
      | some average =>
        exact .some (.some ⟨rfl, rfl, rfl, fun _ => rfl, fun _ => rfl, fun _ => rfl, fun _ => rfl⟩)

/-- Two nodes that hold the newest of the same deltas, and started alike, hold the same and count
the same; what they sum up is the same if they hold it in one order or the order is nothing to
the sums. -/
theorem same_reports (start left right : Receiver) (grown : Grown start left)
    (alsoGrown : Grown start right) (newest : left.HoldsNewest) (alsoNewest : right.HoldsNewest)
    (same : ∀ delta, delta ∈ left.accepted ↔ delta ∈ right.accepted) (python : Python) (now : ℚ) :
    SameCounts left.aggregator right.aggregator python now ∧
      (left.aggregator.peerDeltas.keys = right.aggregator.peerDeltas.keys ∨
        FederatedAggregator.SumsFree python now right.aggregator.allDeltas →
          SameReports left.aggregator right.aggregator python now) := by
  have held := newest.get?_eq alsoNewest same
  have order := Table.rows_perm_of_get? held
  have own := grown.localDelta.trans alsoGrown.localDelta.symm
  have epoch := grown.epoch.trans alsoGrown.epoch.symm
  have installs : left.aggregator.genuineInstalls = right.aggregator.genuineInstalls := by
    ext nodeId
    rw [grown.installs, alsoGrown.installs]
    simp only [same]
  refine ⟨⟨?_, ?_⟩, ?_⟩
  · exact FederatedAggregator.hiveCensus_counts python now order own installs
  · exact FederatedAggregator.aggregate_counts python now order own epoch
  rintro (keys | free)
  · have peers := Table.ext_get? _ _ keys held
    have alike : left.aggregator = right.aggregator := by
      cases one : left.aggregator
      cases other : right.aggregator
      simp only [one, other] at own epoch installs peers
      rw [own, epoch, installs, peers]
    rw [alike]
    exact sameReports_refl _ python now
  · constructor
    · exact FederatedAggregator.hiveCensus_same python now order own installs free.index free.growth
    · exact FederatedAggregator.aggregate_same python now order own epoch free

/-- A node holds the newest accepted delta of every peer throughout a run exactly when no
delivery is accepted in place of a newer or an equally old other one; runs of which that is
true, and which deliver the same inside the window, end in the same counts, and in the same census
and average if the peers were first heard of in one order or sums do not depend on theirs. -/
theorem converges_when_none_is_late (localDelta : Option Delta) (epoch : Nat)
    (installs : Finset String) :
    (∀ run, Always deliver HoldsNewest (opened localDelta epoch installs) run ↔
      Along deliver ReplacesOlder (opened localDelta epoch installs) run) ∧
    ∀ left right, Along deliver ReplacesOlder (opened localDelta epoch installs) left →
      Along deliver ReplacesOlder (opened localDelta epoch installs) right →
      (∀ delivery ∈ left, delivery.Timely) → (∀ delivery ∈ right, delivery.Timely) →
      SameDeliveries left right → ∀ python now,
      let one := (final deliver (opened localDelta epoch installs) left).aggregator
      let other := (final deliver (opened localDelta epoch installs) right).aggregator
      SameCounts one other python now ∧
        (firstHeard left = firstHeard right ∨
          FederatedAggregator.SumsFree python now other.allDeltas →
            SameReports one other python now) := by
  have begins := opened_holds localDelta epoch installs
  constructor
  · intro run
    apply always_iff_along deliver (fun _ => True) HoldsNewest ReplacesOlder
    · exact fun _ _ _ => trivial
    · intro receiver delivery _ holds
      exact deliver_holds_iff receiver delivery holds
    · trivial
    · exact begins
  · intro left right ordered alsoOrdered timely alsoTimely same python now
    have newest (run : List Delivery)
        (inOrder : Along deliver ReplacesOlder (opened localDelta epoch installs) run) :
        (final deliver (opened localDelta epoch installs) run).HoldsNewest := by
      apply final_of_invariant deliver HoldsNewest ReplacesOlder _ run _ begins inOrder
      intro receiver delivery holds replaces
      exact (deliver_holds_iff receiver delivery holds).mpr replaces
    have keys (run : List Delivery) :
        (final deliver (opened localDelta epoch installs) run).aggregator.peerDeltas.keys =
          firstHeard run :=
      final_keys run _
    have reports := same_reports (opened localDelta epoch installs) _ _ (final_grown _ rfl left)
      (final_grown _ rfl right) (newest left ordered) (newest right alsoOrdered)
      (fun delta => by
        rw [final_accepted, final_accepted]
        exact or_congr_right ⟨same.accepts timely alsoTimely delta,
          same.symm.accepts alsoTimely timely delta⟩) python now
    rw [keys, keys] at reports
    exact reports

end Receiver

section Reports

def openGate : Gate where
  computeGuardrailHash := .answered "5f0c"
  enforcement := .hard
  verifyJsonSignature := fun _ _ _ => .answered true
  isKnownReleaseHash := fun _ => .answered true
  verifyPeerAttestation := fun _ => .answered (true, "")
  verifyDeltaSignature := fun _ => .ok true
  verifyMasterSignature := fun _ => .answered false

def reporting (timestamp : ℚ) (agents : ℚ) : Delta :=
  { version := some 1, nodeId := "node-7", publicKey := "a1", timestamp
    hivemindState := (noMetrics.set ⟨"intelligence_index", .number 1⟩).set
      ⟨"num_agents", .number agents⟩
    codeHash := "9e", signature := "c4" }

def arriving (delta : Delta) : Delivery := ⟨.http, openGate, 1200, .object delta⟩

def plainPython : Python :=
  ⟨fun _ => none, fun _ => none, id, (· + ·), (· * ·), (· / ·), List.sum⟩

def totalAgentsAfter (run : List Delivery) : Option Int :=
  ((final Receiver.deliver (Receiver.opened none 0 ∅) run).aggregator.hiveCensus
    plainPython 1200).bind Census.totalAgents

/-- Two nodes that are each sent the older report and then the newer, one of them twice. -/
theorem converges_when_none_is_late_twice :
    Receiver.SameReports
      (final Receiver.deliver (Receiver.opened none 0 ∅)
        [arriving (reporting 900 2), arriving (reporting 1000 5)]).aggregator
      (final Receiver.deliver (Receiver.opened none 0 ∅)
        [arriving (reporting 900 2), arriving (reporting 1000 5),
          arriving (reporting 1000 5)]).aggregator plainPython 1200 := by
  refine ((Receiver.converges_when_none_is_late none 0 ∅).2
    [arriving (reporting 900 2), arriving (reporting 1000 5)]
    [arriving (reporting 900 2), arriving (reporting 1000 5), arriving (reporting 1000 5)]
    ?_ ?_ ?_ ?_ ?_ plainPython 1200).2 (.inl ?_)
  · decide +kernel
  · decide +kernel
  · decide +kernel
  · decide +kernel
  · intro gate payload
    simp
  · decide +kernel

/-- Delivered in order and then the first once more, the older delta is what is held. -/
theorem redelivery_brings_back_older :
    let run := [arriving (reporting 900 2), arriving (reporting 1000 5),
      arriving (reporting 900 2)]
    let after := final Receiver.deliver (Receiver.opened none 0 ∅) run
    reporting 1000 5 ∈ after.accepted ∧
      after.aggregator.peerDeltas.get? "node-7" = some (reporting 900 2) ∧
      totalAgentsAfter run = some 2 ∧ totalAgentsAfter (run.take 2) = some 5 := by
  decide +kernel

end Reports

end Hartos.Federation
