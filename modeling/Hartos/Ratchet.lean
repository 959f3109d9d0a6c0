import Mathlib.Logic.Function.Basic

/-!
The ratchet of one conversation partner. The primitives are a parameter: `Crypto` names them and
`Ideal` says what is taken for granted of them.
-/
namespace Hartos.Ratchet

/-- `generate n` is the `n`-th private key drawn, `bootKey` the private key that the bootstrap
secret and a party's id determine, `gcmEncrypt` and `gcmDecrypt` the AEAD with its associated
data. -/
structure Crypto (Key Priv Pub Cipher : Type) where
  zero : Key
  publicKey : Priv → Pub
  exchange : Priv → Pub → Key
  kdfRoot : Key → Key → Key × Key
  kdfChain : Key → Key × Key
  gcmEncrypt : Key → Nat → String → Pub × Nat → Cipher
  gcmDecrypt : Key → Nat → Cipher → Pub × Nat → Option String
  generate : Nat → Priv
  sha256 : String → Key
  bootKey : Key → String → Priv

variable {Key Priv Pub Cipher : Type}

/-- No two inputs of a hash or a key derivation give one output, a root key never comes round to
an earlier one (`rank` counts the steps), the AEAD opens under the right key and no other, and
each key drawn is new. -/
structure Ideal (crypto : Crypto Key Priv Pub Cipher) (rank : Key → Nat) : Prop where
  exchange_comm : ∀ first second, crypto.exchange first (crypto.publicKey second) =
    crypto.exchange second (crypto.publicKey first)
  decrypt_encrypt : ∀ key nonce plaintext aad,
    crypto.gcmDecrypt key nonce (crypto.gcmEncrypt key nonce plaintext aad) aad = some plaintext
  decrypt_other : ∀ key other nonce plaintext aad aad', key ≠ other →
    crypto.gcmDecrypt other nonce (crypto.gcmEncrypt key nonce plaintext aad) aad' = none
  publicKey_inj : ∀ first second, crypto.publicKey first = crypto.publicKey second → first = second
  generate_inj : ∀ first second, crypto.generate first = crypto.generate second → first = second
  generate_ne_boot : ∀ draw raw party, crypto.generate draw ≠ crypto.bootKey (crypto.sha256 raw) party
  boot_inj : ∀ raw raw' first second,
    crypto.bootKey (crypto.sha256 raw) first = crypto.bootKey (crypto.sha256 raw') second →
      raw = raw' ∧ first = second
  sha256_inj : ∀ first second, crypto.sha256 first = crypto.sha256 second → first = second
  chainKey_inj : ∀ first second, (crypto.kdfChain first).1 = (crypto.kdfChain second).1 →
    first = second
  chainKey_ne_zero : ∀ chain, (crypto.kdfChain chain).1 ≠ crypto.zero
  messageKey_inj : ∀ first second, (crypto.kdfChain first).2 = (crypto.kdfChain second).2 →
    first = second
  rootKey_inj : ∀ root dh root' dh', (crypto.kdfRoot root dh).1 = (crypto.kdfRoot root' dh').1 →
    root = root' ∧ dh = dh'
  rootChain_inj : ∀ root dh root' dh', (crypto.kdfRoot root dh).2 = (crypto.kdfRoot root' dh').2 →
    root = root' ∧ dh = dh'
  rootChain_ne_zero : ∀ root dh, (crypto.kdfRoot root dh).2 ≠ crypto.zero
  rootChain_ne_next : ∀ root dh chain, (crypto.kdfRoot root dh).2 ≠ (crypto.kdfChain chain).1
  rank_sha256 : ∀ raw, rank (crypto.sha256 raw) = 0
  rank_root : ∀ root dh, rank (crypto.kdfRoot root dh).1 = rank root + 1

def MAX_SKIPPED_MESSAGES : Nat := 256

/-- `skippedKeys` is the dict from (peer key, index) to message key. -/
structure RatchetState (Key Priv Pub : Type) where
  rootKey : Key
  sendingChainKey : Key
  sendingIndex : Nat
  receivingChainKey : Key
  receivingIndex : Nat
  ourDhPriv : Priv
  ourDhPub : Pub
  theirDhPub : Option Pub
  skippedKeys : Pub × Nat → Option Key

structure Envelope (Pub Cipher : Type) where
  ourPub : Pub
  idx : Nat
  nonce : Nat
  ciphertext : Cipher
  deriving DecidableEq

inductive RatchetError
  | peerKeyUnknown
  | replay
  | skippedBudgetExceeded
  | invalidTag
  deriving DecidableEq

section Steps
variable (crypto : Crypto Key Priv Pub Cipher)

def initRatchet (sharedSecret : Key) (ourDhPriv : Priv) (ourDhPub : Pub)
    (theirDhPub : Option Pub) : RatchetState Key Priv Pub :=
  match theirDhPub with
  | none =>
      ⟨sharedSecret, crypto.zero, 0, crypto.zero, 0, ourDhPriv, ourDhPub, none, fun _ => none⟩
  | some their =>
      let derived := crypto.kdfRoot sharedSecret (crypto.exchange ourDhPriv their)
      ⟨derived.1, derived.2, 0, crypto.zero, 0, ourDhPriv, ourDhPub, some their, fun _ => none⟩

/-- `fresh` is the private key generated for the new sending chain. -/
def advanceDhRatchet (state : RatchetState Key Priv Pub) (theirNewDhPub : Pub) (fresh : Priv) :
    RatchetState Key Priv Pub :=
  let received := crypto.kdfRoot state.rootKey (crypto.exchange state.ourDhPriv theirNewDhPub)
  let sending := crypto.kdfRoot received.1 (crypto.exchange fresh theirNewDhPub)
  { state with
    rootKey := sending.1
    sendingChainKey := sending.2
    sendingIndex := 0
    receivingChainKey := received.2
    receivingIndex := 0
    ourDhPriv := fresh
    ourDhPub := crypto.publicKey fresh
    theirDhPub := some theirNewDhPub }

def encryptMessage (state : RatchetState Key Priv Pub) (plaintext : String) (nonce : Nat) :
    Except RatchetError (RatchetState Key Priv Pub × Envelope Pub Cipher) :=
  if state.theirDhPub.isNone then .error .peerKeyUnknown
  else
    let derived := crypto.kdfChain state.sendingChainKey
    let aad := (state.ourDhPub, state.sendingIndex)
    .ok ({ state with sendingChainKey := derived.1, sendingIndex := state.sendingIndex + 1 },
      ⟨state.ourDhPub, state.sendingIndex, nonce, crypto.gcmEncrypt derived.2 nonce plaintext aad⟩)

variable [DecidableEq Pub]

def cacheNext (theirPub : Pub) (state : RatchetState Key Priv Pub) : RatchetState Key Priv Pub :=
  let derived := crypto.kdfChain state.receivingChainKey
  { state with
    receivingChainKey := derived.1
    receivingIndex := state.receivingIndex + 1
    skippedKeys := Function.update state.skippedKeys (theirPub, state.receivingIndex)
      (some derived.2) }

def skipKeys (theirPub : Pub) (state : RatchetState Key Priv Pub) : Nat →
    RatchetState Key Priv Pub
  | 0 => state
  | count + 1 => skipKeys theirPub (cacheNext crypto theirPub state) count

def skipMessageKeys (state : RatchetState Key Priv Pub) (theirPub : Pub) (upToIdx : Nat) :
    Except RatchetError (RatchetState Key Priv Pub) :=
  if MAX_SKIPPED_MESSAGES < upToIdx - state.receivingIndex then .error .skippedBudgetExceeded
  else .ok (skipKeys crypto theirPub state (upToIdx - state.receivingIndex))

def decryptInChain (state : RatchetState Key Priv Pub) (envelope : Envelope Pub Cipher) :
    Except RatchetError (RatchetState Key Priv Pub × String) :=
  if envelope.idx < state.receivingIndex then .error .replay
  else
    match skipMessageKeys crypto state envelope.ourPub envelope.idx with
    | .error error => .error error
    | .ok state =>
        let derived := crypto.kdfChain state.receivingChainKey
        match crypto.gcmDecrypt derived.2 envelope.nonce envelope.ciphertext
            (envelope.ourPub, envelope.idx) with
        | none => .error .invalidTag
        | some plaintext =>
            .ok ({ state with
                receivingChainKey := derived.1
                receivingIndex := envelope.idx + 1 }, plaintext)

def decryptMessage (state : RatchetState Key Priv Pub) (envelope : Envelope Pub Cipher)
    (fresh : Priv) : Except RatchetError (RatchetState Key Priv Pub × String) :=
  match state.skippedKeys (envelope.ourPub, envelope.idx) with
  | some cached =>
      match crypto.gcmDecrypt cached envelope.nonce envelope.ciphertext
          (envelope.ourPub, envelope.idx) with
      | none => .error .invalidTag
      | some plaintext =>
          .ok ({ state with
              skippedKeys := Function.update state.skippedKeys (envelope.ourPub, envelope.idx)
                none }, plaintext)
  | none =>
      if state.theirDhPub = some envelope.ourPub then decryptInChain crypto state envelope
      else decryptInChain crypto (advanceDhRatchet crypto state envelope.ourPub fresh) envelope

end Steps

section Chains
variable (crypto : Crypto Key Priv Pub Cipher)

def chainAt (chain : Key) : Nat → Key
  | 0 => chain
  | steps + 1 => (crypto.kdfChain (chainAt chain steps)).1

def messageKey (chain : Key) (idx : Nat) : Key := (crypto.kdfChain (chainAt crypto chain idx)).2

variable {crypto} {rank : Key → Nat} (ideal : Ideal crypto rank)
include ideal

variable {root dh root' dh' : Key}

-- A chain that a root step opened is never met further along another one.
theorem chainAt_opened (first second : Nat)
    (same : chainAt crypto (crypto.kdfRoot root dh).2 first =
      chainAt crypto (crypto.kdfRoot root' dh').2 second) :
    first = second ∧ root = root' ∧ dh = dh' := by
  induction first generalizing second with
  | zero =>
    cases second with
    | zero => exact ⟨rfl, ideal.rootChain_inj root dh root' dh' same⟩
    | succ second => exact absurd same (ideal.rootChain_ne_next root dh _)
  | succ first ih =>
    cases second with
    | zero => exact absurd same.symm (ideal.rootChain_ne_next root' dh' _)
    | succ second =>
      have both := ih second (ideal.chainKey_inj _ _ same)
      exact ⟨congrArg Nat.succ both.1, both.2⟩

-- Nor along the placeholder of a state that has not had its first root step.
theorem chainAt_ne_zero {root dh : Key} (steps others : Nat) :
    chainAt crypto (crypto.kdfRoot root dh).2 steps ≠ chainAt crypto crypto.zero others := by
  intro same
  induction steps generalizing others with
  | zero =>
    cases others with
    | zero => exact ideal.rootChain_ne_zero root dh same
    | succ others => exact ideal.rootChain_ne_next root dh _ same
  | succ steps ih =>
    cases others with
    | zero => exact ideal.chainKey_ne_zero _ same
    | succ others => exact ih others (ideal.chainKey_inj _ _ same)

theorem messageKey_opened {first second : Nat}
    (same : messageKey crypto (crypto.kdfRoot root dh).2 first =
      messageKey crypto (crypto.kdfRoot root' dh').2 second) :
    first = second ∧ root = root' ∧ dh = dh' :=
  chainAt_opened ideal first second (ideal.messageKey_inj _ _ same)

end Chains

end Hartos.Ratchet
