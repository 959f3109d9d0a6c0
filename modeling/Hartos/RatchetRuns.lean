import Hartos.DmPipeline
import Hartos.StepSystem

/-!
The pipeline of one user, with every conversation and peer. An operation of a thread loads the
row of its pair, works on what it loaded and saves; other threads run between these steps.
-/
namespace Hartos.Ratchet
variable {Key Priv Pub Cipher : Type}

structure Pair where
  conversation : String
  peer : String
  deriving DecidableEq

structure Work (Key Priv Pub Cipher : Type) where
  conversation : String
  user : Member
  peer : Member
  row : Option (RatchetState Key Priv Pub)
  outgoing : Option (RatchetState Key Priv Pub × Envelope Pub Cipher)

def Work.pair (work : Work Key Priv Pub Cipher) : Pair := ⟨work.conversation, work.peer.id⟩

structure Sent (Key Priv Pub Cipher : Type) where
  pair : Pair
  state : RatchetState Key Priv Pub
  envelope : Envelope Pub Cipher

/-- `bootstraps` logs what each bootstrap secret was the digest of, `drawn` counts the private
keys generated. -/
structure World (Key Priv Pub Cipher : Type) where
  stored : Pair → Option (RatchetState Key Priv Pub)
  work : Nat → Option (Work Key Priv Pub Cipher)
  sent : List (Sent Key Priv Pub Cipher)
  bootstraps : List (Pair × String)
  drawn : Nat

inductive Event (Pub Cipher : Type)
  | load (thread : Nat) (conversation identityKey : String) (peer : Member)
  | bootstrap (thread : Nat)
  | encrypt (thread : Nat) (plaintext : String) (nonce : Nat)
  | save (thread : Nat)
  | receive (thread : Nat) (envelope : Envelope Pub Cipher)
  | deleteForConversation (conversation : String)

def World.initial : World Key Priv Pub Cipher := ⟨fun _ => none, fun _ => none, [], [], 0⟩

section Steps
variable (crypto : Crypto Key Priv Pub Cipher) [DecidableEq Pub]

variable (world : World Key Priv Pub Cipher) (thread : Nat) (work : Work Key Priv Pub Cipher)

def World.load (conversation : String) (user peer : Member) : World Key Priv Pub Cipher :=
  let row := world.stored ⟨conversation, peer.id⟩
  { world with
    work := Function.update world.work thread (some ⟨conversation, user, peer, row, none⟩) }

def World.bootstrap : World Key Priv Pub Cipher :=
  let state := bootstrapPair crypto work.user work.peer (work.user.id < work.peer.id)
  { world with
    stored := Function.update world.stored work.pair (some state)
    work := Function.update world.work thread (some { work with row := some state })
    bootstraps := (work.pair, bootstrapInput work.user work.peer) :: world.bootstraps }

def World.encrypt (state : RatchetState Key Priv Pub) (plaintext : String) (nonce : Nat) :
    World Key Priv Pub Cipher :=
  let outgoing := encryptMessage crypto (withPeerKey crypto state work.user work.peer) plaintext nonce
  { world with
    work := Function.update world.work thread (some { work with outgoing := outgoing.toOption }) }

def World.save (state after : RatchetState Key Priv Pub) (envelope : Envelope Pub Cipher) :
    World Key Priv Pub Cipher :=
  { world with
    stored := Function.update world.stored work.pair (some after)
    work := Function.update world.work thread none
    sent := ⟨work.pair, state, envelope⟩ :: world.sent }

def World.receive (state : RatchetState Key Priv Pub) (envelope : Envelope Pub Cipher) :
    World Key Priv Pub Cipher :=
  match decryptMessage crypto state envelope (crypto.generate world.drawn) with
  | .error _ =>
      { world with
        work := Function.update world.work thread none
        drawn := world.drawn + 1 }
  | .ok (after, _) =>
      { world with
        stored := Function.update world.stored work.pair (some after)
        work := Function.update world.work thread none
        drawn := world.drawn + 1 }

def World.step (userId : String) (world : World Key Priv Pub Cipher) :
    Event Pub Cipher → World Key Priv Pub Cipher
  | .load thread conversation identityKey peer =>
      world.load thread conversation ⟨userId, identityKey⟩ peer
  | .bootstrap thread =>
      match world.work thread with
      | none => world
      | some work => if work.row.isNone then world.bootstrap crypto thread work else world
  | .encrypt thread plaintext nonce =>
      match world.work thread with
      | none => world
      | some work =>
          match work.row with
          | none => world
          | some state => world.encrypt crypto thread work state plaintext nonce
  | .save thread =>
      match world.work thread with
      | none => world
      | some work =>
          match work.row, work.outgoing with
          | some state, some (after, envelope) => world.save thread work state after envelope
          | _, _ => world
  | .receive thread envelope =>
      match world.work thread with
      | none => world
      | some work =>
          match work.row with
          | none => world
          | some state => world.receive crypto thread work state envelope
  | .deleteForConversation conversation =>
      { world with
        stored := fun pair =>
          if pair.conversation = conversation then none else world.stored pair }

end Steps
end Hartos.Ratchet
