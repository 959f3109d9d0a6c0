import Hartos.KeyedTable
import Mathlib.Data.Rat.Floor

/-!
Learning deltas as they arrive from peers, and the checks `receive_peer_delta` runs on
one before it stores it. What the checks ask of other modules is a parameter.
-/
namespace Hartos.Federation
open KeyedTable

def deltaVersion : Int := 1

def deltaMaxAgeSeconds : ℚ := 3600

inductive Value where
  | number (value : ℚ)
  | flag (value : Bool)
  | text (content : String)
  | null
  deriving DecidableEq

structure Metric where
  name : String
  value : Value
  deriving DecidableEq

abbrev Block := Table Metric.name

def Block.getD (block : Block) (name : String) (default : Value) : Value :=
  ((block.get? name).map Metric.value).getD default

def Block.get (block : Block) (name : String) : Value := block.getD name .null

def Block.has (block : Block) (name : String) : Bool := (block.get? name).isSome

abbrev noMetrics : Block := Table.empty Metric.name

/-- What `get_attestation_for_federation` signs with the key of its node. -/
structure Attestation where
  originFingerprint : String := ""
  masterPublicKey : String := ""
  nodePublicKey : String := ""
  guardrailHash : String := ""
  codeHash : String := ""
  timestamp : ℚ := 0
  name : String := ""
  license : String := ""
  nodeSignature : String := ""
  deriving DecidableEq

/-- The parts of a revocation. `payload` is what the master key signed. -/
structure Revocation where
  payload : String
  reason : Option String
  masterSignature : String
  deriving DecidableEq

/-- A field that a delta lacks reads as the default `receive_peer_delta` gives it. -/
structure Delta where
  version : Option Int := none
  nodeId : String := ""
  publicKey : String := ""
  guardrailHash : String := ""
  timestamp : ℚ := 0
  experienceStats : Block := noMetrics
  raltStats : Block := noMetrics
  hivemindState : Block := noMetrics
  qualityMetrics : Block := noMetrics
  codeHash : String := ""
  signature : String := ""
  hmacSignature : String := ""
  originAttestation : Option Attestation := none
  revocation : Option Revocation := none
  deriving DecidableEq

def Delta.withoutPostSign (delta : Delta) : Delta :=
  { delta with hmacSignature := "", originAttestation := none }

inductive Payload where
  | object (delta : Delta)
  -- Any other JSON value, with its truth value.
  | value (truthy : Bool)
  deriving DecidableEq

inductive Enforcement where
  | off | warn | soft | hard
  deriving DecidableEq

/-- What a call into another module gives: `unavailable` is an `ImportError`. -/
inductive Consulted (Result : Type) where
  | unavailable
  | raised (error : String)
  | answered (result : Result)

structure Gate where
  computeGuardrailHash : Consulted String
  enforcement : Enforcement
  verifyJsonSignature : String → Delta → String → Consulted Bool
  isKnownReleaseHash : String → Consulted Bool
  verifyPeerAttestation : Attestation → Consulted (Bool × String)
  verifyDeltaSignature : Delta → Except String Bool
  verifyMasterSignature : Revocation → Consulted Bool

inductive Ending where
  | raised (error : String)
  | refused (reason : String)
  -- The circuit breaker is tripped for this reason.
  | revoked (reason : String)
  deriving DecidableEq

inductive Verdict where
  | ended (ending : Ending)
  | accepted (delta : Delta)
  deriving DecidableEq

def Delta.stale (delta : Delta) (now : ℚ) : Bool :=
  decide (deltaMaxAgeSeconds < |now - delta.timestamp|)

namespace Gate
variable (gate : Gate)

-- Each check below says how it ends the call, if it does.

variable (delta : Delta)

def checkVersion : Option Ending :=
  if delta.version ≠ some deltaVersion then
    some (.refused s!"version mismatch (expected {deltaVersion})")
  else none

def checkFreshness (now : ℚ) (delta : Delta) : Option Ending :=
  if delta.stale now then some (.refused "delta too old or from the future") else none

def checkGuardrail : Option Ending :=
  match gate.computeGuardrailHash with
  | .unavailable => none
  | .raised error => some (.raised error)
  | .answered localHash =>
      if delta.guardrailHash ≠ "" ∧ delta.guardrailHash ≠ localHash then
        some (.refused "guardrail hash mismatch")
      else none

def checkSignature : Option Ending :=
  if delta.signature ≠ "" then
    match gate.verifyJsonSignature delta.publicKey delta.withoutPostSign delta.signature with
    | .answered true => none
    | .answered false => some (.refused "invalid signature")
    | .unavailable =>
        if gate.enforcement = .hard then
          some (.refused "Ed25519 module unavailable — cannot verify")
        else none
    | .raised error =>
        if gate.enforcement = .hard then
          some (.refused s!"signature verification failed: {error}")
        else none
  else if gate.enforcement = .hard then
    some (.refused "missing Ed25519 signature (hard enforcement)")
  else none

def unverifiedBuild : String := "unverified build — unknown code hash, no valid attestation"

def attestationFailed (message : String) : String := s!"origin attestation failed: {message}"

def knownBuild : Except String Bool :=
  if delta.codeHash = "" then .ok false
  else match gate.isKnownReleaseHash delta.codeHash with
    | .unavailable => .ok false
    | .raised error => .error error
    | .answered known => .ok known

def attestedBuild : Except String (Bool × String) :=
  match delta.originAttestation with
  | none => .ok (false, unverifiedBuild)
  | some attestation =>
      match gate.verifyPeerAttestation attestation with
      | .unavailable => .ok (false, unverifiedBuild)
      | .raised error => .error error
      | .answered (true, _) => .ok (true, unverifiedBuild)
      | .answered (false, message) => .ok (false, attestationFailed message)

def checkBuild : Option Ending :=
  match gate.knownBuild delta with
  | .error error => some (.raised error)
  | .ok true => none
  | .ok false =>
      match gate.attestedBuild delta with
      | .error error => some (.raised error)
      | .ok (genuine, rejectReason) =>
          if !genuine ∧ gate.enforcement = .hard then some (.refused rejectReason) else none

def checkHmac : Option Ending :=
  if delta.hmacSignature = "" then none
  else match gate.verifyDeltaSignature delta with
    | .error error => some (.raised error)
    | .ok _ => none

def checkRevocation : Option Ending :=
  match delta.revocation with
  | none => none
  | some revocation =>
      if revocation.masterSignature = "" then none
      else match gate.verifyMasterSignature revocation with
        | .unavailable => none
        | .raised error => some (.raised error)
        | .answered true => some (.revoked (revocation.reason.getD "revocation"))
        | .answered false => none

def checkNode : Option Ending :=
  if delta.nodeId = "" then some (.refused "missing node_id") else none

/-- The checks of `receive_peer_delta`, in its order. -/
def check (now : ℚ) (delta : Delta) : Option Ending :=
  checkVersion delta <|> checkFreshness now delta <|> gate.checkGuardrail delta <|>
    gate.checkSignature delta <|> gate.checkBuild delta <|> gate.checkHmac delta <|>
    gate.checkRevocation delta <|> checkNode delta

def examine (now : ℚ) : Payload → Verdict
  | .value _ => .ended (.refused "invalid payload")
  | .object delta =>
      match gate.check now delta with
      | some ending => .ended ending
      | none => .accepted delta

end Gate
end Hartos.Federation
