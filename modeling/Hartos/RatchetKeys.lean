import Hartos.RatchetRuns
import Hartos.RatchetTerms

/-!
Which keys one user's envelopes are encrypted under.
-/
namespace Hartos.Ratchet
variable {Key Priv Pub Cipher : Type}

inductive Derived (crypto : Crypto Key Priv Pub Cipher) (secret : Key) : Key → Prop
  | shared : Derived crypto secret secret
  | root (key dh : Key) : Derived crypto secret key → Derived crypto secret (crypto.kdfRoot key dh).1

section Statements
variable (crypto : Crypto Key Priv Pub Cipher)

def Sent.messageKey (sent : Sent Key Priv Pub Cipher) : Key :=
  (crypto.kdfChain sent.state.sendingChainKey).2

def Keyed (world : World Key Priv Pub Cipher) (sent : Sent Key Priv Pub Cipher) : Prop :=
  ∃ input key dh, (sent.pair, input) ∈ world.bootstraps ∧
    Derived crypto (crypto.sha256 input) key ∧
    sent.state.sendingChainKey = chainAt crypto (crypto.kdfRoot key dh).2 sent.envelope.idx

def KeysApart (world : World Key Priv Pub Cipher) : Prop :=
  (∀ sent ∈ world.sent, Keyed crypto world sent ∧
    ∀ steps, sent.state.sendingChainKey ≠ chainAt crypto crypto.zero steps) ∧
  world.sent.Pairwise fun later earlier =>
    (later.envelope.ourPub, later.envelope.idx) ≠ (earlier.envelope.ourPub, earlier.envelope.idx) ∧
      later.messageKey crypto ≠ earlier.messageKey crypto

variable [DecidableEq Pub]

/-- A bootstrap hashes something no bootstrap hashed before, a send starts from a state that
knows a peer key, and what is saved replaces the row that its operation loaded. -/
def Unshared (world : World Key Priv Pub Cipher) : Event Pub Cipher → Prop
  | .load _ _ _ _ => True
  | .bootstrap thread =>
      ∀ work ∈ world.work thread, work.row = none →
        ∀ earlier ∈ world.bootstraps, earlier.2 ≠ bootstrapInput work.user work.peer
  | .encrypt thread _ _ =>
      ∀ work ∈ world.work thread, ∀ state ∈ work.row, state.theirDhPub.isSome
  | .save thread =>
      ∀ work ∈ world.work thread, work.outgoing.isSome → world.stored work.pair = work.row
  | .receive thread envelope =>
      ∀ work ∈ world.work thread, ∀ state ∈ work.row,
        (decryptMessage crypto state envelope (crypto.generate world.drawn)).isOk →
          world.stored work.pair = work.row
  | .deleteForConversation _ => True

end Statements

section Roots
variable {crypto : Crypto Key Priv Pub Cipher} {rank : Key → Nat} (ideal : Ideal crypto rank)
include ideal

theorem derived_input {first second : String} {key : Key}
    (left : Derived crypto (crypto.sha256 first) key)
    (right : Derived crypto (crypto.sha256 second) key) : first = second := by
  induction left with
  | shared =>
    generalize same : crypto.sha256 first = key at right
    cases right with
    | shared => exact ideal.sha256_inj _ _ same
    | root key dh before =>
      have counted := congrArg rank same
      rw [ideal.rank_sha256, ideal.rank_root] at counted
      exact absurd counted (Nat.succ_ne_zero _).symm
  | root key dh before ih =>
    generalize same : (crypto.kdfRoot key dh).1 = reached at right
    cases right with
    | shared =>
      have counted := congrArg rank same
      rw [ideal.rank_sha256, ideal.rank_root] at counted
      exact absurd counted (Nat.succ_ne_zero _)
    | root other dh' right =>
      rw [(ideal.rootKey_inj _ _ _ _ same).1] at ih
      exact ih right

end Roots

structure SameSending (before after : RatchetState Key Priv Pub) : Prop where
  rootKey : after.rootKey = before.rootKey
  chain : after.sendingChainKey = before.sendingChainKey
  index : after.sendingIndex = before.sendingIndex
  pub : after.ourDhPub = before.ourDhPub
  peer : after.theirDhPub = before.theirDhPub

namespace SameSending

theorem trans {first second third : RatchetState Key Priv Pub} (left : SameSending first second)
    (right : SameSending second third) : SameSending first third :=
  ⟨right.rootKey.trans left.rootKey, right.chain.trans left.chain, right.index.trans left.index,
    right.pub.trans left.pub, right.peer.trans left.peer⟩

end SameSending

section Decryption
variable (crypto : Crypto Key Priv Pub Cipher) [DecidableEq Pub]

theorem skipKeys_sending (theirPub : Pub) (state : RatchetState Key Priv Pub) (count : Nat) :
    SameSending state (skipKeys crypto theirPub state count) := by
  induction count generalizing state with
  | zero => exact ⟨rfl, rfl, rfl, rfl, rfl⟩
  | succ count ih =>
    have once : SameSending state (cacheNext crypto theirPub state) := ⟨rfl, rfl, rfl, rfl, rfl⟩
    exact once.trans (ih _)

variable {state after : RatchetState Key Priv Pub} {envelope : Envelope Pub Cipher}

theorem decryptInChain_sending {plaintext : String}
    (opened : decryptInChain crypto state envelope = .ok (after, plaintext)) :
    SameSending state after := by
  unfold decryptInChain skipMessageKeys at opened
  split at opened
  · cases opened
  · split at opened
    · cases opened
    next skipped within =>
      split at within
      · cases within
      · cases within
        simp only at opened
        split at opened
        · cases opened
        · cases opened
          exact SameSending.trans (skipKeys_sending crypto envelope.ourPub state _)
            ⟨rfl, rfl, rfl, rfl, rfl⟩

/-- A decryption leaves the sending half alone or makes a ratchet step. -/
theorem decryptMessage_sending {fresh : Priv} {plaintext : String}
    (opened : decryptMessage crypto state envelope fresh = .ok (after, plaintext)) :
    SameSending state after ∨
      SameSending (advanceDhRatchet crypto state envelope.ourPub fresh) after := by
  unfold decryptMessage at opened
  split at opened
  · split at opened
    · cases opened
    · cases opened
      exact Or.inl ⟨rfl, rfl, rfl, rfl, rfl⟩
  · split at opened
    · exact Or.inl (decryptInChain_sending crypto opened)
    · exact Or.inr (decryptInChain_sending crypto opened)

end Decryption

section Invariant
variable (crypto : Crypto Key Priv Pub Cipher) (userId : String)

structure Grounded (bootstraps : List (Pair × String)) (drawn : Nat) (pair : Pair)
    (input : String) (state : RatchetState Key Priv Pub) : Prop where
  logged : (pair, input) ∈ bootstraps
  derived : Derived crypto (crypto.sha256 input) state.rootKey
  pub : state.ourDhPub = crypto.publicKey (crypto.bootKey (crypto.sha256 input) userId) ∨
    ∃ draw < drawn, state.ourDhPub = crypto.publicKey (crypto.generate draw)
  opened : state.theirDhPub.isSome → ∃ key dh, Derived crypto (crypto.sha256 input) key ∧
    state.rootKey = (crypto.kdfRoot key dh).1 ∧
    state.sendingChainKey = chainAt crypto (crypto.kdfRoot key dh).2 state.sendingIndex

def HasGround (bootstraps : List (Pair × String)) (drawn : Nat) (pair : Pair)
    (state : RatchetState Key Priv Pub) : Prop :=
  ∃ input, Grounded crypto userId bootstraps drawn pair input state

def Before (rank : Key → Nat) (old new : RatchetState Key Priv Pub) : Prop :=
  rank old.rootKey < rank new.rootKey ∨
    old.rootKey = new.rootKey ∧ old.sendingIndex < new.sendingIndex

def Prepared (work : Work Key Priv Pub Cipher) : Prop :=
  work.user.id = userId ∧ ∀ after envelope, work.outgoing = some (after, envelope) →
    ∃ row plaintext nonce, work.row = some row ∧ row.theirDhPub.isSome ∧
      encryptMessage crypto row plaintext nonce = .ok (after, envelope)

/-- `rootOf` is the root key each public key was introduced with. -/
structure Accounted (rank : Key → Nat) (rootOf : Pub → Key) (world : World Key Priv Pub Cipher) :
    Prop where
  owned : ∀ first ∈ world.bootstraps, ∀ second ∈ world.bootstraps, first.2 = second.2 →
    first.1 = second.1
  works : ∀ thread work, world.work thread = some work → Prepared crypto userId work
  rows : ∀ pair row, world.stored pair = some row →
    HasGround crypto userId world.bootstraps world.drawn pair row ∧ rootOf row.ourDhPub = row.rootKey
  sent : ∀ sent ∈ world.sent,
    HasGround crypto userId world.bootstraps world.drawn sent.pair sent.state ∧
      rootOf sent.state.ourDhPub = sent.state.rootKey
  header : ∀ sent ∈ world.sent, sent.state.theirDhPub.isSome ∧
    sent.envelope.ourPub = sent.state.ourDhPub ∧ sent.envelope.idx = sent.state.sendingIndex
  before : ∀ sent ∈ world.sent, ∀ row input, world.stored sent.pair = some row →
    Derived crypto (crypto.sha256 input) sent.state.rootKey →
      Derived crypto (crypto.sha256 input) row.rootKey → Before rank sent.state row
  apart : world.sent.Pairwise fun later earlier =>
    later.state.rootKey = earlier.state.rootKey →
      later.state.sendingIndex ≠ earlier.state.sendingIndex

end Invariant

section Ground
variable {crypto : Crypto Key Priv Pub Cipher} {userId : String}
variable {bootstraps : List (Pair × String)} {drawn : Nat} {pair : Pair}
variable {state : RatchetState Key Priv Pub}

theorem Grounded.mono {more : List (Pair × String)} {later : Nat} {input : String}
    (ground : Grounded crypto userId bootstraps drawn pair input state)
    (grown : ∀ entry ∈ bootstraps, entry ∈ more) (still : drawn ≤ later) :
    Grounded crypto userId more later pair input state where
  logged := grown _ ground.logged
  derived := ground.derived
  pub := ground.pub.imp_right fun ⟨draw, before, same⟩ => ⟨draw, before.trans_le still, same⟩
  opened := ground.opened

variable {after : RatchetState Key Priv Pub} {input : String}

theorem Grounded.sending (ground : Grounded crypto userId bootstraps drawn pair input state)
    (same : SameSending state after) :
    Grounded crypto userId bootstraps drawn pair input after where
  logged := ground.logged
  derived := same.rootKey ▸ ground.derived
  pub := by
    rw [same.pub]
    exact ground.pub
  opened := by
    rw [same.peer, same.rootKey, same.chain, same.index]
    exact ground.opened

/-- A bootstrap starts from the shared secret, the initiator one root step on. -/
theorem bootstrapPair_grounded (user peer : Member) (isInitiator : Bool)
    (logged : (pair, bootstrapInput user peer) ∈ bootstraps) :
    Grounded crypto user.id bootstraps drawn pair (bootstrapInput user peer)
      (bootstrapPair crypto user peer isInitiator) := by
  cases isInitiator with
  | false => exact ⟨logged, Derived.shared, Or.inl rfl, fun known => nomatch known⟩
  | true =>
    exact ⟨logged, Derived.root _ _ Derived.shared, Or.inl rfl,
      fun _ => ⟨_, _, Derived.shared, rfl, rfl⟩⟩

theorem Grounded.advance (theirNewDhPub : Pub)
    (ground : Grounded crypto userId bootstraps drawn pair input state) :
    Grounded crypto userId bootstraps (drawn + 1) pair input
      (advanceDhRatchet crypto state theirNewDhPub (crypto.generate drawn)) where
  logged := ground.logged
  derived := Derived.root _ _ (Derived.root _ _ ground.derived)
  pub := Or.inr ⟨drawn, Nat.lt_succ_self drawn, rfl⟩
  opened _ := ⟨_, _, Derived.root _ _ ground.derived, rfl, rfl⟩

theorem Grounded.encrypt {envelope : Envelope Pub Cipher} {plaintext : String} {nonce : Nat}
    {input : String} (ground : Grounded crypto userId bootstraps drawn pair input state)
    (made : encryptMessage crypto state plaintext nonce = .ok (after, envelope)) :
    Grounded crypto userId bootstraps drawn pair input after := by
  unfold encryptMessage at made
  split at made
  · cases made
  · cases made
    refine ⟨ground.logged, ground.derived, ground.pub, fun known => ?_⟩
    obtain ⟨key, dh, derived, root, chain⟩ := ground.opened known
    exact ⟨key, dh, derived, root, congrArg (fun chain => (crypto.kdfChain chain).1) chain⟩

end Ground
end Hartos.Ratchet
