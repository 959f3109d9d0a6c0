import Hartos.DmPipeline
import Hartos.RatchetTerms
import Hartos.StepSystem

/-!
Two members of a direct conversation. Each send is one envelope for the other member and each
delivery one attempt to decrypt; envelopes wait as long as they like and arrive in any order. The
keys of the two states form one ladder: each rung is opened with the key before it, and a member
who reads a new chain climbs two rungs.
-/
namespace Hartos.Ratchet
variable {Key Priv Pub Cipher : Type}

inductive Party where
  | initiator | responder
  deriving DecidableEq

def Party.other : Party → Party
  | .initiator => .responder
  | .responder => .initiator

structure Couple where
  lesser : Member
  greater : Member
  ordered : lesser.id < greater.id

def Couple.member (couple : Couple) : Party → Member
  | .initiator => couple.lesser
  | .responder => couple.greater

/-- `sent` keeps each envelope with its plaintext, `delivered` the peer key and the index of those
that reached this party, decrypted or not. -/
structure Talk (Key Priv Pub Cipher : Type) where
  stored : Party → Option (RatchetState Key Priv Pub)
  sent : Party → List (Envelope Pub Cipher × String)
  delivered : Party → List (Pub × Nat)
  drawn : Nat

inductive TalkEvent where
  | send (sender : Party) (plaintext : String) (nonce : Nat)
  | deliver (receiver : Party) (position : Nat)

def Talk.opened : Talk Key Priv Pub Cipher := ⟨fun _ => none, fun _ => [], fun _ => [], 0⟩

section Steps
variable (crypto : Crypto Key Priv Pub Cipher) (couple : Couple) [DecidableEq Pub]

namespace Talk
variable (talk : Talk Key Priv Pub Cipher) (receiver : Party) (envelope : Envelope Pub Cipher)

def send (sender : Party) (plaintext : String) (nonce : Nat) : Talk Key Priv Pub Cipher :=
  match encryptFor crypto (talk.stored sender) (couple.member sender) (couple.member sender.other)
      plaintext nonce with
  | .error _ => talk
  | .ok (after, envelope) =>
      { talk with
        stored := Function.update talk.stored sender (some after)
        sent := Function.update talk.sent sender (talk.sent sender ++ [(envelope, plaintext)]) }

def attempt : RatchetState Key Priv Pub × Option String :=
  decryptFor crypto (talk.stored receiver) (couple.member receiver) (couple.member receiver.other)
    envelope (crypto.generate talk.drawn)

def deliver : Talk Key Priv Pub Cipher :=
  { talk with
    stored :=
      Function.update talk.stored receiver (some (talk.attempt crypto couple receiver envelope).1)
    delivered := Function.update talk.delivered receiver
      ((envelope.ourPub, envelope.idx) :: talk.delivered receiver)
    drawn := talk.drawn + 1 }

def step : TalkEvent → Talk Key Priv Pub Cipher
  | .send sender plaintext nonce => talk.send crypto couple sender plaintext nonce
  | .deliver receiver position =>
      match (talk.sent receiver.other)[position]? with
      | none => talk
      | some (envelope, _) => talk.deliver crypto couple receiver envelope

def state (party : Party) : RatchetState Key Priv Pub :=
  loadOrBootstrap crypto (talk.stored party) (couple.member party) (couple.member party.other)

def AtFirst (condition : Party → Envelope Pub Cipher → String → Prop)
    (talk : Talk Key Priv Pub Cipher) : TalkEvent → Prop
  | .send _ _ _ => True
  | .deliver receiver position =>
      ∀ entry ∈ (talk.sent receiver.other)[position]?,
        (entry.1.ourPub, entry.1.idx) ∉ talk.delivered receiver →
          condition receiver entry.1 entry.2

def ReadsRight : TalkEvent → Prop :=
  talk.AtFirst fun receiver envelope plaintext =>
    (talk.attempt crypto couple receiver envelope).2 = some plaintext

def outstanding : List (Envelope Pub Cipher × String) :=
  (talk.sent receiver.other).filter fun entry =>
    entry.1.ourPub = envelope.ourPub ∧ entry.1.idx < envelope.idx ∧
      (entry.1.ourPub, entry.1.idx) ∉ talk.delivered receiver

def WithinBudget : TalkEvent → Prop :=
  talk.AtFirst fun receiver envelope _ =>
    (talk.outstanding receiver envelope).length ≤ MAX_SKIPPED_MESSAGES

/-- The responder has not sent before it read, and the envelope is of the chain being read, or of
one not begun, or stands before one of its chain that was read. -/
structure Timely (talk : Talk Key Priv Pub Cipher) (receiver : Party)
    (envelope : Envelope Pub Cipher) : Prop where
  patient : receiver = .responder →
    talk.sent .responder = [] ∨ talk.delivered .responder ≠ []
  reachable : (talk.state crypto couple receiver).theirDhPub = some envelope.ourPub ∨
    (∀ slot ∈ talk.delivered receiver, slot.1 ≠ envelope.ourPub) ∨
    ∃ slot ∈ talk.delivered receiver, slot.1 = envelope.ourPub ∧ envelope.idx < slot.2

def InTurn : TalkEvent → Prop :=
  talk.AtFirst fun receiver envelope _ => talk.Timely crypto couple receiver envelope

instance (condition : Party → Envelope Pub Cipher → String → Prop)
    [∀ receiver envelope plaintext, Decidable (condition receiver envelope plaintext)]
    (talk : Talk Key Priv Pub Cipher) :
    (event : TalkEvent) → Decidable (talk.AtFirst condition event)
  | .send _ _ _ => inferInstanceAs (Decidable True)
  | .deliver receiver position =>
      inferInstanceAs (Decidable (∀ entry ∈ (talk.sent receiver.other)[position]?,
        (entry.1.ourPub, entry.1.idx) ∉ talk.delivered receiver →
          condition receiver entry.1 entry.2))

instance (talk : Talk Key Priv Pub Cipher) (receiver : Party) (envelope : Envelope Pub Cipher) :
    Decidable (talk.Timely crypto couple receiver envelope) :=
  decidable_of_iff
    ((receiver = .responder → talk.sent .responder = [] ∨ talk.delivered .responder ≠ []) ∧
      ((talk.state crypto couple receiver).theirDhPub = some envelope.ourPub ∨
        (∀ slot ∈ talk.delivered receiver, slot.1 ≠ envelope.ourPub) ∨
        ∃ slot ∈ talk.delivered receiver, slot.1 = envelope.ourPub ∧ envelope.idx < slot.2))
    ⟨fun both => ⟨both.1, both.2⟩, fun timely => ⟨timely.patient, timely.reachable⟩⟩

instance (talk : Talk Key Priv Pub Cipher) (event : TalkEvent) :
    Decidable (talk.WithinBudget event) := inferInstanceAs (Decidable (talk.AtFirst _ event))

instance (talk : Talk Key Priv Pub Cipher) (event : TalkEvent) :
    Decidable (talk.InTurn crypto couple event) :=
  inferInstanceAs (Decidable (talk.AtFirst _ event))

instance (talk : Talk Key Priv Pub Cipher) (event : TalkEvent) :
    Decidable (talk.ReadsRight crypto couple event) :=
  inferInstanceAs (Decidable (talk.AtFirst _ event))

end Talk

end Steps

section Chain
variable {crypto : Crypto Key Priv Pub Cipher} {rank : Key → Nat} [DecidableEq Pub]

def withAside (crypto : Crypto Key Priv Pub Cipher) (state : RatchetState Key Priv Pub)
    (chain : Key) (pub : Pub) (upTo : Nat) : RatchetState Key Priv Pub :=
  { state with
    receivingChainKey := chainAt crypto chain upTo
    receivingIndex := upTo
    skippedKeys := fun slot =>
      if slot.1 = pub ∧ state.receivingIndex ≤ slot.2 ∧ slot.2 < upTo then
        some (messageKey crypto chain slot.2)
      else state.skippedKeys slot }

theorem skipKeys_eq (state : RatchetState Key Priv Pub) (chain : Key) (pub : Pub) (count : Nat)
    (along : state.receivingChainKey = chainAt crypto chain state.receivingIndex) :
    skipKeys crypto pub state count =
      withAside crypto state chain pub (state.receivingIndex + count) := by
  induction count generalizing state with
  | zero =>
    have none (slot : Pub × Nat) :
        ¬ (slot.1 = pub ∧ state.receivingIndex ≤ slot.2 ∧ slot.2 < state.receivingIndex) := by
      omega
    simp only [skipKeys, withAside, none, if_false, Nat.add_zero, ← along]
  | succ count ih =>
    rw [skipKeys, ih (cacheNext crypto pub state) (by rw [cacheNext, along]; rfl)]
    have upTo : state.receivingIndex + 1 + count = state.receivingIndex + (count + 1) := by omega
    simp only [withAside, cacheNext, upTo, RatchetState.mk.injEq, true_and]
    funext slot
    obtain ⟨other, idx⟩ := slot
    by_cases same : other = pub
    · subst same
      by_cases here : idx = state.receivingIndex
      · subst here
        simp [messageKey, along]
      · have later : state.receivingIndex + 1 ≤ idx ↔ state.receivingIndex ≤ idx := by omega
        simp [later, here]
    · simp [same]

theorem decryptInChain_ok (ideal : Ideal crypto rank) (state : RatchetState Key Priv Pub)
    (envelope : Envelope Pub Cipher) (chain : Key) (plaintext : String)
    (along : state.receivingChainKey = chainAt crypto chain state.receivingIndex)
    (ahead : state.receivingIndex ≤ envelope.idx)
    (budget : envelope.idx - state.receivingIndex ≤ MAX_SKIPPED_MESSAGES)
    (locked : envelope.ciphertext = crypto.gcmEncrypt (messageKey crypto chain envelope.idx)
      envelope.nonce plaintext (envelope.ourPub, envelope.idx)) :
    decryptInChain crypto state envelope =
      .ok ({ withAside crypto state chain envelope.ourPub envelope.idx with
          receivingChainKey := chainAt crypto chain (envelope.idx + 1)
          receivingIndex := envelope.idx + 1 }, plaintext) := by
  have upTo : state.receivingIndex + (envelope.idx - state.receivingIndex) = envelope.idx := by
    omega
  have skipped : skipMessageKeys crypto state envelope.ourPub envelope.idx =
      .ok (withAside crypto state chain envelope.ourPub envelope.idx) := by
    rw [skipMessageKeys, if_neg (by omega), skipKeys_eq state chain _ _ along, upTo]
  have opens := ideal.decrypt_encrypt (messageKey crypto chain envelope.idx) envelope.nonce
    plaintext (envelope.ourPub, envelope.idx)
  rw [← locked] at opens
  rw [decryptInChain, if_neg (by omega), skipped]
  simp only [withAside]
  rw [show (crypto.kdfChain (chainAt crypto chain envelope.idx)).2 =
    messageKey crypto chain envelope.idx from rfl, opens]
  rfl

theorem decryptInChain_wrong (ideal : Ideal crypto rank) (state : RatchetState Key Priv Pub)
    (envelope : Envelope Pub Cipher) (chain key : Key) (plaintext : String)
    (along : state.receivingChainKey = chainAt crypto chain state.receivingIndex)
    (locked : envelope.ciphertext = crypto.gcmEncrypt key envelope.nonce plaintext
      (envelope.ourPub, envelope.idx))
    (wrong : key ≠ messageKey crypto chain envelope.idx) :
    ∃ error, decryptInChain crypto state envelope = .error error := by
  rw [decryptInChain]
  split
  next => exact ⟨_, rfl⟩
  next ahead =>
    rw [skipMessageKeys]
    split
    next error found => exact ⟨error, rfl⟩
    next after found =>
      split at found
      next => cases found
      next =>
        cases found
        have upTo : state.receivingIndex + (envelope.idx - state.receivingIndex) =
            envelope.idx := by omega
        rw [skipKeys_eq state chain _ _ along, upTo]
        have closed := ideal.decrypt_other key (messageKey crypto chain envelope.idx)
          envelope.nonce plaintext (envelope.ourPub, envelope.idx)
          (envelope.ourPub, envelope.idx) wrong
        rw [← locked] at closed
        simp only [withAside]
        rw [show (crypto.kdfChain (chainAt crypto chain envelope.idx)).2 =
          messageKey crypto chain envelope.idx from rfl, closed]
        exact ⟨_, rfl⟩

end Chain

end Hartos.Ratchet
