import Hartos.DeltaConvergence
import Hartos.OriginAttestation

/-!
Whose deltas a node stores in hard enforcement mode: which key signed what is stored
under a node's id, and which key signed the attestation that let it in.
-/
namespace Hartos.Federation
open KeyedTable StepSystem

/-- `get_node_identity` names a node by the first sixteen digits of its public key. -/
def Belongs (key nodeId : String) : Prop := String.ofList (key.toList.take 16) = nodeId

instance (key nodeId : String) : Decidable (Belongs key nodeId) :=
  inferInstanceAs (Decidable (String.ofList (key.toList.take 16) = nodeId))

/-- The delta is its node's own: a key of that node signed it, and unless its code hash is
a known one that key also signed the attestation it came with. -/
def Genuine (signed : String → Message → Prop) (gate : Gate) (delta : Delta) : Prop :=
  ∃ key, Belongs key delta.nodeId ∧ signed key delta.signedContent ∧
    (gate.knownBuild delta = .ok true ∨
      ∃ attestation, delta.originAttestation = some attestation ∧
        signed key attestation.canonicalPayload)

def NamesOwnKey (gate : Gate) (delta : Delta) : Prop :=
  Belongs delta.publicKey delta.nodeId ∧
    (gate.knownBuild delta = .ok true ∨
      ∀ attestation, delta.originAttestation = some attestation →
        attestation.nodePublicKey = delta.publicKey)

instance (gate : Gate) : DecidablePred (NamesOwnKey gate) := fun delta =>
  inferInstanceAs (Decidable (Belongs delta.publicKey delta.nodeId ∧
    (gate.knownBuild delta = .ok true ∨ ∀ attestation ∈ delta.originAttestation,
      attestation.nodePublicKey = delta.publicKey)))

def hardened (origin : Origin) (scheme : Ed25519) (delivery : Delivery) : Delivery :=
  { delivery with gate := hardGate origin scheme delivery.now delivery.gate }

structure Admissions where
  aggregator : FederatedAggregator
  admitted : List Delivery

namespace Admissions

def opened (localDelta : Option Delta) (epoch : Nat) (installs : Finset String) : Admissions :=
  ⟨⟨Table.empty Delta.nodeId, localDelta, epoch, installs⟩, []⟩

def enter (admissions : Admissions) (delivery : Delivery) : Admissions :=
  { aggregator := delivery.received admissions.aggregator
    admitted := if delivery.accepts.isSome then delivery :: admissions.admitted
      else admissions.admitted }

structure AllGenuine (signed : String → Message → Prop) (admissions : Admissions) : Prop where
  held : ∀ delta ∈ admissions.aggregator.peerDeltas.rows,
    ∃ delivery ∈ admissions.admitted, delivery.accepts = some delta
  genuine : ∀ delivery ∈ admissions.admitted, ∀ delta, delivery.accepts = some delta →
    Genuine signed delivery.gate delta

def AcceptsOwnOnly (_ : Admissions) (delivery : Delivery) : Prop :=
  ∀ delta, delivery.accepts = some delta → NamesOwnKey delivery.gate delta

instance (admissions : Admissions) : DecidablePred admissions.AcceptsOwnOnly := fun delivery =>
  inferInstanceAs (Decidable (∀ delta ∈ delivery.accepts, NamesOwnKey delivery.gate delta))

end Admissions

theorem Delivery.accepts_check (delivery : Delivery) (delta : Delta)
    (accepted : delivery.accepts = some delta) : delivery.gate.check delivery.now delta = none := by
  unfold accepts at accepted
  cases sent : delivery.payload with
  | value truthy => simp [sent, Gate.examine, Verdict.delta?] at accepted
  | object payload =>
    cases checked : delivery.gate.check delivery.now payload with
    | some ending => simp [sent, Gate.examine, checked, Verdict.delta?] at accepted
    | none =>
      simp only [sent, Gate.examine, checked, Verdict.delta?, Option.some.injEq] at accepted
      exact accepted ▸ checked

section Signed
variable {origin : Origin} {scheme : Ed25519} {signed : String → Message → Prop}

/-- In hard mode an accepted delta was signed by the key it names, and an attestation it
needed by the key that one names. -/
theorem genuine_of_names (unforgeable : ∀ key message signature,
      scheme.verify key message signature = none → signed key message)
    (delivery : Delivery) (delta : Delta)
    (accepts : (hardened origin scheme delivery).accepts = some delta)
    (names : NamesOwnKey (hardened origin scheme delivery).gate delta) :
    Genuine signed (hardened origin scheme delivery).gate delta := by
  obtain ⟨signature, build⟩ := Gate.check_none _ (Delivery.accepts_check _ delta accepts)
  obtain ⟨belongs, attested⟩ := names
  refine ⟨delta.publicKey, belongs, unforgeable _ _ _ (hardGate_signature signature), ?_⟩
  rcases hardGate_build build with known | ⟨attestation, attached, verified⟩
  · exact .inl known
  · rcases attested with known | own
    · exact .inl known
    · have byKey := verifyPeerAttestation_true _ _ _ _ verified
      rw [own attestation attached] at byKey
      exact .inr ⟨attestation, attached, unforgeable _ _ _ byKey⟩

theorem admit_genuine (unforgeable : ∀ key message signature,
      scheme.verify key message signature = none → signed key message)
    (admissions : Admissions) (delivery : Delivery)
    (all : admissions.AllGenuine signed)
    (own : admissions.AcceptsOwnOnly (hardened origin scheme delivery)) :
    (admissions.enter (hardened origin scheme delivery)).AllGenuine signed := by
  unfold Admissions.enter
  rw [Delivery.received_eq]
  cases accepts : (hardened origin scheme delivery).accepts with
  | none => exact ⟨all.held, all.genuine⟩
  | some delta =>
    constructor
    · intro held member
      rcases (Table.mem_set _ _ _).mp member with same | ⟨before, -⟩
      · exact ⟨_, List.mem_cons_self, same ▸ accepts⟩
      · obtain ⟨earlier, admitted, accepted⟩ := all.held held before
        exact ⟨earlier, List.mem_cons_of_mem _ admitted, accepted⟩
    · intro earlier member stored accepted
      rcases List.mem_cons.mp member with same | before
      · subst same
        exact genuine_of_names unforgeable delivery stored accepted (own stored accepted)
      · exact all.genuine earlier before stored accepted

/-- In hard mode, whatever is sent by whomever: as long as no delta is accepted that names
another key's node, or comes with another key's attestation, every delta stored under a
node's id was signed by that node's key, and so was the attestation that let it in. -/
theorem stored_deltas_are_genuine (unforgeable : ∀ key message signature,
      scheme.verify key message signature = none → signed key message)
    (localDelta : Option Delta) (epoch : Nat) (installs : Finset String) (run : List Delivery)
    (own : Along Admissions.enter Admissions.AcceptsOwnOnly
      (Admissions.opened localDelta epoch installs) (run.map (hardened origin scheme))) :
    Always Admissions.enter (Admissions.AllGenuine signed)
      (Admissions.opened localDelta epoch installs) (run.map (hardened origin scheme)) := by
  have begins : (Admissions.opened localDelta epoch installs).AllGenuine signed := by
    constructor
    · intro delta member
      cases member
    · intro delivery member
      cases member
  have hard := along_of_forall Admissions.enter
    (fun delivery => ∃ sent, hardened origin scheme sent = delivery)
    (run.map (hardened origin scheme)) (fun delivery member =>
      let ⟨sent, _, same⟩ := List.mem_map.mp member
      ⟨sent, same⟩) (Admissions.opened localDelta epoch installs)
  have allowed := along_and _ _ _ _ _ own hard
  apply always_of_invariant _ (Admissions.AllGenuine signed) _ _ _ (fun _ => id) _ _ begins allowed
  rintro admissions _ all ⟨names, sent, rfl⟩
  exact admit_genuine unforgeable admissions sent all names

end Signed

section Impostor

def honestKey : String := String.ofList (List.replicate 64 '1')

def otherKey : String := String.ofList (List.replicate 64 '2')

def honestNode : String := String.ofList (List.replicate 16 '1')

def hartos : Origin := ⟨"6d40", "c04a"⟩

def honestAttestation : Attestation :=
  { originFingerprint := "6d40", masterPublicKey := "c04a", nodePublicKey := honestKey
    timestamp := 1000, nodeSignature := "a0" }

def honestDelta : Delta :=
  { version := some 1, nodeId := honestNode, publicKey := honestKey, timestamp := 1000
    codeHash := "77", signature := "d1", originAttestation := some honestAttestation }

def impostorDelta : Delta :=
  { honestDelta with publicKey := otherKey, timestamp := 1100, signature := "d2" }

def signings : List (String × Message × String) :=
  [(honestKey, honestAttestation.canonicalPayload, "a0"),
    (honestKey, honestDelta.signedContent, "d1"), (otherKey, impostorDelta.signedContent, "d2")]

def madeOnly : Ed25519 :=
  ⟨fun key message signature => if (key, message, signature) ∈ signings then none else some ""⟩

def signedBy (key : String) (message : Message) : Prop :=
  ∃ signature, (key, message, signature) ∈ signings

def unknownBuilds : Gate := { openGate with isKnownReleaseHash := fun _ => .answered false }

def reaching (delta : Delta) : Delivery := ⟨.peerLink, unknownBuilds, 1200, .object delta⟩

theorem madeOnly_unforgeable (key : String) (message : Message) (signature : String)
    (verified : madeOnly.verify key message signature = none) : signedBy key message := by
  unfold madeOnly at verified
  dsimp only at verified
  split at verified
  next made => exact ⟨signature, made⟩
  · cases verified

theorem stored_deltas_are_genuine_honest :
    Always Admissions.enter (Admissions.AllGenuine signedBy) (Admissions.opened none 0 ∅)
      ([reaching honestDelta].map (hardened hartos madeOnly)) :=
  stored_deltas_are_genuine madeOnly_unforgeable none 0 ∅ [reaching honestDelta]
    (by decide +kernel)

/-- The impostor's delta takes the place of the honest node's, which signed no such delta,
and is let in by the attestation the honest node signed. -/
theorem impostor_replaces_honest_delta :
    let run := [reaching honestDelta, reaching impostorDelta].map (hardened hartos madeOnly)
    let after := final Admissions.enter (Admissions.opened none 0 ∅) run
    after.aggregator.peerDeltas.get? honestNode = some impostorDelta ∧
      ∀ made ∈ signings, made.2.1 = impostorDelta.signedContent → ¬ Belongs made.1 honestNode := by
  decide +kernel

end Impostor

end Hartos.Federation
