import Hartos.Ratchet
import Mathlib.Data.String.Basic

/-!
The pipeline of a direct conversation: how a pair's state is first made, what a send and a
receive do with the stored state.
-/
namespace Hartos.Ratchet
variable {Key Priv Pub Cipher : Type} (crypto : Crypto Key Priv Pub Cipher)

structure Member where
  id : String
  identityKey : String
  deriving DecidableEq

def sortedPairId (first second : String) : String :=
  if first < second then first ++ "|" ++ second else second ++ "|" ++ first

def bootstrapInput (user peer : Member) : String :=
  "hevolve-e2e-bootstrap-v9.B|" ++ sortedPairId user.id peer.id ++ "|" ++
    sortedPairId user.identityKey peer.identityKey

def deriveInitialSharedSecret (user peer : Member) : Key := crypto.sha256 (bootstrapInput user peer)

def deriveInitialDhKeypair (sharedSecret : Key) (party : String) : Priv × Pub :=
  let priv := crypto.bootKey sharedSecret party
  (priv, crypto.publicKey priv)

def bootstrapPair (user peer : Member) (isInitiator : Bool) : RatchetState Key Priv Pub :=
  let shared := deriveInitialSharedSecret crypto user peer
  let our := deriveInitialDhKeypair crypto shared user.id
  let peerPub := (deriveInitialDhKeypair crypto shared peer.id).2
  initRatchet crypto shared our.1 our.2 (if isInitiator then some peerPub else none)

def loadOrBootstrap (stored : Option (RatchetState Key Priv Pub)) (user peer : Member) :
    RatchetState Key Priv Pub :=
  stored.getD (bootstrapPair crypto user peer (user.id < peer.id))

def withPeerKey (state : RatchetState Key Priv Pub) (user peer : Member) :
    RatchetState Key Priv Pub :=
  match state.theirDhPub with
  | some _ => state
  | none =>
      let shared := deriveInitialSharedSecret crypto user peer
      { state with theirDhPub := some (deriveInitialDhKeypair crypto shared peer.id).2 }

def encryptFor (stored : Option (RatchetState Key Priv Pub)) (user peer : Member)
    (plaintext : String) (nonce : Nat) :
    Except RatchetError (RatchetState Key Priv Pub × Envelope Pub Cipher) :=
  encryptMessage crypto (withPeerKey crypto (loadOrBootstrap crypto stored user peer) user peer)
    plaintext nonce

def decryptFor [DecidableEq Pub] (stored : Option (RatchetState Key Priv Pub))
    (user peer : Member) (envelope : Envelope Pub Cipher) (fresh : Priv) :
    RatchetState Key Priv Pub × Option String :=
  let state := loadOrBootstrap crypto stored user peer
  match decryptMessage crypto state envelope fresh with
  | .error _ => (state, none)
  | .ok (after, plaintext) => (after, some plaintext)

theorem sortedPairId_comm (first second : String) :
    sortedPairId first second = sortedPairId second first := by
  unfold sortedPairId
  rcases lt_trichotomy first second with before | rfl | after
  · rw [if_pos before, if_neg before.asymm]
  · rfl
  · rw [if_neg after.asymm, if_pos after]

theorem bootstrapInput_comm (user peer : Member) :
    bootstrapInput user peer = bootstrapInput peer user := by
  unfold bootstrapInput
  rw [sortedPairId_comm user.id, sortedPairId_comm user.identityKey]

theorem sharedSecret_comm (user peer : Member) :
    deriveInitialSharedSecret crypto user peer = deriveInitialSharedSecret crypto peer user :=
  congrArg crypto.sha256 (bootstrapInput_comm user peer)

end Hartos.Ratchet
