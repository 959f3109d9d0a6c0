import Hartos.FederatedDeltas

/-!
Signatures on learning deltas and on origin attestations, and the gate that a receiver in
hard enforcement mode puts before a delta. The signature scheme is a parameter.
-/
namespace Hartos.Federation

inductive Message where
  | delta (content : Delta)
  | attestation (content : Attestation)
  deriving DecidableEq

def Delta.canonicalPayload (delta : Delta) : Message := .delta { delta with signature := "" }

def Attestation.canonicalPayload (attestation : Attestation) : Message :=
  .attestation { attestation with nodeSignature := "" }

structure Ed25519 where
  verify : String → Message → String → Option String

/-- `ORIGIN_FINGERPRINT` and the master key of `ORIGIN_IDENTITY`. -/
structure Origin where
  fingerprint : String
  masterPublicKey : String

def verifyJsonSignature (scheme : Ed25519) (publicKey : String) (payload : Delta)
    (signature : String) : Bool :=
  (scheme.verify publicKey payload.canonicalPayload signature).isNone

def attestationMaxAgeSeconds : ℚ := 86400

def verifyPeerAttestation (origin : Origin) (scheme : Ed25519) (now : ℚ)
    (attestation : Attestation) : Bool × String :=
  if attestation.originFingerprint ≠ origin.fingerprint then
    (false, "Origin fingerprint mismatch — not genuine HART OS")
  else if attestation.masterPublicKey ≠ origin.masterPublicKey then
    (false, "Master public key mismatch — different trust anchor")
  else if attestation.nodePublicKey = "" ∨ attestation.nodeSignature = "" then
    (false, "Missing node key or signature")
  else match scheme.verify attestation.nodePublicKey attestation.canonicalPayload
      attestation.nodeSignature with
    | some error => (false, s!"Invalid node signature: {error}")
    | none =>
        if attestationMaxAgeSeconds < |now - attestation.timestamp| then
          (false, "Attestation expired (>24 hours old)")
        else (true, "Peer attestation verified — genuine HART OS node")

/-- The gate in hard mode, with both signature modules present; what it asks of other
modules is taken from `rest`. -/
def hardGate (origin : Origin) (scheme : Ed25519) (now : ℚ) (rest : Gate) : Gate :=
  { rest with
    enforcement := .hard
    verifyJsonSignature := fun publicKey payload signature =>
      .answered (verifyJsonSignature scheme publicKey payload signature)
    verifyPeerAttestation := fun attestation =>
      .answered (verifyPeerAttestation origin scheme now attestation) }

def Delta.signedContent (delta : Delta) : Message := delta.withoutPostSign.canonicalPayload

theorem verifyPeerAttestation_true (origin : Origin) (scheme : Ed25519) (now : ℚ)
    (attestation : Attestation)
    (verified : (verifyPeerAttestation origin scheme now attestation).1 = true) :
    scheme.verify attestation.nodePublicKey attestation.canonicalPayload
      attestation.nodeSignature = none := by
  unfold verifyPeerAttestation at verified
  split at verified
  · cases verified
  · split at verified
    · cases verified
    · split at verified
      · cases verified
      · split at verified
        · cases verified
        next passed => exact passed

section Accepted
variable {origin : Origin} {scheme : Ed25519} {now clock : ℚ} {rest : Gate} {delta : Delta}

theorem Gate.check_none (gate : Gate) (passed : gate.check clock delta = none) :
    gate.checkSignature delta = none ∧ gate.checkBuild delta = none := by
  simp only [check, Option.orElse_eq_none] at passed
  exact ⟨passed.2.2.2.1, passed.2.2.2.2.1⟩

theorem hardGate_signature
    (passed : (hardGate origin scheme now rest).checkSignature delta = none) :
    scheme.verify delta.publicKey delta.signedContent delta.signature = none := by
  unfold Gate.checkSignature at passed
  by_cases unsigned : delta.signature = ""
  · simp [unsigned, hardGate] at passed
  · cases found : scheme.verify delta.publicKey delta.signedContent delta.signature with
    | none => rfl
    | some error =>
      simp [unsigned, hardGate, verifyJsonSignature, Delta.signedContent] at passed found
      simp [found] at passed

theorem hardGate_build (passed : (hardGate origin scheme now rest).checkBuild delta = none) :
    (hardGate origin scheme now rest).knownBuild delta = .ok true ∨
      ∃ attestation, delta.originAttestation = some attestation ∧
        (verifyPeerAttestation origin scheme now attestation).1 = true := by
  have hard : (hardGate origin scheme now rest).enforcement = .hard := rfl
  unfold Gate.checkBuild at passed
  cases known : (hardGate origin scheme now rest).knownBuild delta with
  | error message => simp only [known, reduceCtorEq] at passed
  | ok build => cases build with
    | true => exact .inl rfl
    | false =>
      right
      rw [known] at passed
      cases attached : delta.originAttestation with
      | none => simp [Gate.attestedBuild, attached, hard] at passed
      | some attestation =>
        refine ⟨attestation, rfl, ?_⟩
        have asked : (hardGate origin scheme now rest).verifyPeerAttestation attestation =
            .answered (verifyPeerAttestation origin scheme now attestation) := rfl
        cases verdict : verifyPeerAttestation origin scheme now attestation with
        | mk genuine message => cases genuine with
          | true => rfl
          | false => simp [Gate.attestedBuild, attached, asked, verdict, hard] at passed

end Accepted
end Hartos.Federation
