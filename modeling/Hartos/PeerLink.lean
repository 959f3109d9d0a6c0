import Mathlib.Data.List.Basic

/-!
A peer link between two nodes: a trust level that only rises, the HELLO and its answer, the
session key and the frames under it.
-/
namespace Hartos.PeerLink

inductive TrustLevel
  | sameUser
  | peer
  | relay
  deriving DecidableEq

def TrustLevel.value : TrustLevel → String
  | .sameUser => "same_user"
  | .peer => "peer"
  | .relay => "relay"

def TrustLevel.trustRank : TrustLevel → Nat
  | .relay => 0
  | .peer => 1
  | .sameUser => 2

abbrev Bytes := List UInt8

structure Hello where
  nodeId : String
  ed25519Public : String
  x25519Public : String
  trustRequested : String
  userIdProof : String
  trustContract : Option String
  timestamp : Nat
  deriving DecidableEq

structure HelloAck where
  ed25519Public : String
  x25519Public : String
  timestamp : Nat
  deriving DecidableEq

structure Signed (α : Type) where
  content : α
  signature : String
  deriving DecidableEq

/-- Ed25519 over texts with keys and signatures in hex, the canonical texts of what is signed, and
whether a pre-trust contract verifies. -/
structure Primitives where
  verify : String → String → String → Bool
  helloText : Hello → String
  ackText : HelloAck → String
  contractHolds : String → Bool

/-- What a node brings to a handshake. `userId` is its `HEVOLVE_USER_ID`; `exchange` gives the
session key for another's X25519 key, unless it raises. -/
structure Node where
  nodeId : String
  ed25519Public : String
  sign : String → String
  userId : String
  x25519Public : String
  exchange : String → Option Bytes
  trustContract : Option String

structure Policy where
  hard : Bool
  ownerAdmits : Bool
  deriving DecidableEq

structure Link where
  trust : TrustLevel
  minTrustLevel : TrustLevel
  requiresE2e : Bool
  peerEd25519Public : String
  peerX25519Public : String
  sessionKey : Option Bytes
  keyEstablishedAt : Nat
  deriving DecidableEq

namespace Link

def opened (trust : TrustLevel) (requiresE2e : Bool) : Link :=
  ⟨trust, trust, requiresE2e, "", "", none, 0⟩

variable (link : Link)

def setTrust (newTrust : TrustLevel) : Option Link :=
  if newTrust.trustRank < link.minTrustLevel.trustRank then none
  else some { link with
    trust := newTrust
    minTrustLevel := if link.minTrustLevel.trustRank < newTrust.trustRank then newTrust
      else link.minTrustLevel }

def wantsSessionKey : Bool :=
  decide (link.trust = .peer ∨ link.trust = .relay) || link.requiresE2e

def encrypting : Bool := link.sessionKey.isSome && link.wantsSessionKey

variable (node : Node) (now : Nat)

def deriveSessionKey : Link :=
  let sessionKey := node.exchange link.peerX25519Public
  { link with
    sessionKey := sessionKey
    keyEstablishedAt := if sessionKey.isSome then now else link.keyEstablishedAt }

def withKey (asked : Bool) : Link :=
  if asked ∧ link.peerX25519Public ≠ "" then link.deriveSessionKey node now else link

def keyDialled : Option Link :=
  let keyed := link.withKey node now link.wantsSessionKey
  if keyed.requiresE2e ∧ keyed.sessionKey = none then none else some keyed

def keyAccepted : Option Link :=
  let keyed := link.withKey node now link.requiresE2e
  if keyed.requiresE2e ∧ keyed.sessionKey = none then none
  else some (if keyed.sessionKey = none then keyed.withKey node now keyed.wantsSessionKey
    else keyed)

def meet (ed25519Public x25519Public : String) : Link :=
  { link with peerEd25519Public := ed25519Public, peerX25519Public := x25519Public }

end Link

section Handshakes
variable (p : Primitives)

variable (node : Node) (policy : Policy)

def admits (ed25519Public text signature : String) : Bool :=
  if ed25519Public ≠ "" ∧ signature ≠ "" then p.verify ed25519Public text signature
  else !policy.hard || policy.ownerAdmits

def verifySameUserProof (localUserId proof peerPublicKey : String) : Bool :=
  decide (localUserId ≠ "" ∧ peerPublicKey ≠ "") && p.verify peerPublicKey localUserId proof

def provesSameUser (localUserId : String) (hello : Hello) : Bool :=
  decide (hello.trustRequested = "same_user" ∧ hello.userIdProof ≠ "") &&
    verifySameUserProof p localUserId hello.userIdProof hello.ed25519Public

def decideNodeTrust (localUserId : String) (hello : Hello) (link : Link) : Option Link :=
  match link.setTrust (if provesSameUser p localUserId hello then .sameUser else .peer) with
  | none => none
  | some link =>
      if link.trust = .sameUser then some link
      else
        match hello.trustContract with
        | some contract => if p.contractHolds contract then some link else none
        | none => some link

def Node.hello (trust : TrustLevel) (timestamp : Nat) : Signed Hello :=
  let content : Hello :=
    { nodeId := node.nodeId
      ed25519Public := node.ed25519Public
      x25519Public := node.x25519Public
      trustRequested := trust.value
      userIdProof := if trust = .sameUser ∧ node.userId ≠ "" then node.sign node.userId else ""
      trustContract := node.trustContract
      timestamp := timestamp }
  ⟨content, node.sign (p.helloText content)⟩

def Node.ack (timestamp : Nat) : Signed HelloAck :=
  let content : HelloAck := ⟨node.ed25519Public, node.x25519Public, timestamp⟩
  ⟨content, node.sign (p.ackText content)⟩

def completeHandshake (now : Nat) (link : Link) (received : Signed Hello) :
    Option (Link × Signed HelloAck) :=
  let hello := received.content
  if admits p policy hello.ed25519Public (p.helloText hello) received.signature then
    (decideNodeTrust p node.userId hello
      (link.meet hello.ed25519Public hello.x25519Public)).bind fun decided =>
        (decided.keyAccepted node now).map fun keyed => (keyed, node.ack p now)
  else none

def performHandshake (now : Nat) (link : Link) (received : Signed HelloAck) : Option Link :=
  let ack := received.content
  if admits p policy ack.ed25519Public (p.ackText ack) received.signature then
    (link.meet ack.ed25519Public ack.x25519Public).keyDialled node now
  else none

end Handshakes

structure Aead where
  encrypt : Bytes → Bytes → Bytes → Bytes
  decrypt : Bytes → Bytes → Bytes → Option Bytes

def keyRotationInterval : Nat := 3600

namespace Link
variable (link : Link) (aead : Aead)

def rotated (node : Node) (now : Nat) : Link :=
  if link.keyEstablishedAt + keyRotationInterval < now then link.deriveSessionKey node now else link

def encrypt (node : Node) (now : Nat) (nonce plaintext : Bytes) : Link × Option Bytes :=
  if link.sessionKey = none then (link, some plaintext)
  else
    let fresh := link.rotated node now
    (fresh, fresh.sessionKey.map fun key => nonce ++ aead.encrypt key nonce plaintext)

def decrypt (data : Bytes) : Option Bytes :=
  match link.sessionKey with
  | none => some data
  | some key => if data.length < 13 then none else aead.decrypt key (data.take 12) (data.drop 12)

def send (node : Node) (now : Nat) (nonce frame : Bytes) : Link × Option Bytes :=
  if link.encrypting then link.encrypt aead node now nonce frame else (link, some frame)

def receive (raw : Bytes) : Option Bytes :=
  if link.encrypting then link.decrypt aead raw else some raw

end Link

end Hartos.PeerLink
