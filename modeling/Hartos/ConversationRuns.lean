import Hartos.ConversationKeys
import Mathlib.Data.List.Perm.Subperm

/-!
Both parties on the ladder. Each sends on the chain just above its place and reads the chains at
and below it, so neither is ever more than one rung ahead.
-/
namespace Hartos.Ratchet
open StepSystem
variable {Key Priv Pub Cipher : Type}

def Couple.secret (crypto : Crypto Key Priv Pub Cipher) (couple : Couple) : Key :=
  deriveInitialSharedSecret crypto couple.lesser couple.greater

structure Rungs (Priv : Type) where
  keys : Nat → Priv
  place : Party → Nat
  read : Party → Nat → Nat
  count : Nat → Nat

section Ladder
variable (crypto : Crypto Key Priv Pub Cipher) (couple : Couple)

structure Receives (rungs : Rungs Priv) (party : Party) (delivered : List (Pub × Nat))
    (state : RatchetState Key Priv Pub) : Prop where
  reading : Reading crypto (couple.secret crypto) rungs.keys (rungs.read party)
    (rungs.place party) delivered state
  their : 1 ≤ rungs.place party →
    state.theirDhPub = some (crypto.publicKey (rungs.keys (rungs.place party - 1)))
  begun : ∀ c, 2 ≤ c → Reads (rungs.place party) c →
    ∃ idx, (crypto.publicKey (rungs.keys (c - 1)), idx) ∈ delivered

structure Sends (rungs : Rungs Priv) (party : Party) (sent : List (Envelope Pub Cipher × String))
    (state : RatchetState Key Priv Pub) : Prop where
  chain : state.sendingChainKey = chainAt crypto
    (chainOf crypto (couple.secret crypto) rungs.keys (rungs.place party + 1)) state.sendingIndex
  index : state.sendingIndex = rungs.count (rungs.place party + 1)
  each : ∀ entry ∈ sent, ∃ c, Reads (rungs.place party + 1) c ∧
    Locked crypto (couple.secret crypto) rungs.keys c entry.1 entry.2 ∧
      entry.1.idx < rungs.count c
  all : ∀ c, Reads (rungs.place party + 1) c → ∀ idx < rungs.count c,
    ∃ entry ∈ sent, entry.1.ourPub = crypto.publicKey (rungs.keys (c - 1)) ∧ entry.1.idx = idx

def Rungs.Held (rungs : Rungs Priv) (rung : Nat) : Prop := ∃ party, rung ≤ rungs.place party

structure Ladder (rungs : Rungs Priv) (talk : Talk Key Priv Pub Cipher) : Prop where
  receives : ∀ party, Receives crypto couple rungs party (talk.delivered party)
    (talk.state crypto couple party)
  sends : ∀ party, Sends crypto couple rungs party (talk.sent party)
    (talk.state crypto couple party)
  patient : rungs.place .responder = 0 → talk.sent .responder = [] →
    (talk.state crypto couple .responder).theirDhPub = none
  silent : 2 ≤ rungs.place .responder → rungs.count 1 = 0
  higher : ∀ party c, c % 2 = rungs.place party % 2 → rungs.place party < c →
    rungs.read party c = 0
  unwritten : ∀ party c, c % 2 = (rungs.place party + 1) % 2 → rungs.place party + 1 < c →
    rungs.count c = 0
  parity : rungs.place .initiator % 2 = 1 ∧ rungs.place .responder % 2 = 0
  near : ∀ party, rungs.place party ≤ rungs.place party.other + 1
  apart : ∀ i j, rungs.Held i → rungs.Held j →
    crypto.publicKey (rungs.keys i) = crypto.publicKey (rungs.keys j) → i = j
  drawn : ∀ i draw, rungs.Held i → talk.drawn ≤ draw → rungs.keys i ≠ crypto.generate draw

end Ladder

theorem covered_length {Entry : Type} (entries : List Entry) (index : Entry → Nat)
    (first last : Nat)
    (covered : ∀ i, first ≤ i → i < last → ∃ entry ∈ entries, index entry = i) :
    last - first ≤ entries.length := by
  have subset : List.range' first (last - first) ⊆ entries.map index := by
    intro i member
    obtain ⟨least, less⟩ := List.mem_range'_1.mp member
    obtain ⟨entry, among, same⟩ := covered i least (by omega)
    exact same ▸ List.mem_map_of_mem among
  calc last - first = (List.range' first (last - first)).length := List.length_range'.symm
    _ ≤ (entries.map index).length :=
      (List.Nodup.subperm List.nodup_range' subset).length_le
    _ = entries.length := List.length_map index

section Sending
variable {crypto : Crypto Key Priv Pub Cipher} {couple : Couple} {rungs : Rungs Priv}
  {party : Party}

theorem withPeerKey_eq (crypto : Crypto Key Priv Pub Cipher) (state : RatchetState Key Priv Pub)
    (user peer : Member) :
    ∃ their, withPeerKey crypto state user peer = { state with theirDhPub := some their } ∧
      ∀ known, state.theirDhPub = some known → their = known := by
  obtain ⟨root, sending, index, receiving, received, priv, pub, their, skipped⟩ := state
  cases their with
  | some their => exact ⟨their, rfl, fun known same => Option.some.inj same⟩
  | none => exact ⟨_, rfl, fun known same => by cases same⟩

theorem other_other : party.other.other = party := by
  cases party <;> rfl

def Rungs.write (rungs : Rungs Priv) (party : Party) : Rungs Priv :=
  { rungs with
    count := Function.update rungs.count (rungs.place party + 1)
      (rungs.count (rungs.place party + 1) + 1) }

theorem count_write (c : Nat) (other : c % 2 ≠ (rungs.place party + 1) % 2) :
    (rungs.write party).count c = rungs.count c := by
  apply Function.update_of_ne
  rintro rfl
  exact other rfl

theorem count_grows (c : Nat) : rungs.count c ≤ (rungs.write party).count c := by
  by_cases here : c = rungs.place party + 1
  · subst here
    simp [Rungs.write]
  · simp [Rungs.write, here]

variable {delivered : List (Pub × Nat)} {sent : List (Envelope Pub Cipher × String)}
  {state : RatchetState Key Priv Pub}

theorem Sends.write_other {other : Party}
    (differ : (rungs.place other + 1) % 2 ≠ (rungs.place party + 1) % 2)
    (sends : Sends crypto couple rungs other sent state) :
    Sends crypto couple (rungs.write party) other sent state where
  chain := sends.chain
  index := sends.index.trans (count_write _ differ).symm
  each entry member := by
    obtain ⟨c, reads, locked, less⟩ := sends.each entry member
    exact ⟨c, reads, locked, Nat.lt_of_lt_of_le less (count_grows c)⟩
  all c reads idx less := by
    have odd : c % 2 ≠ (rungs.place party + 1) % 2 := reads.parity ▸ differ
    rw [count_write c odd] at less
    exact sends.all c reads idx less

def nextEnvelope (crypto : Crypto Key Priv Pub Cipher) (state : RatchetState Key Priv Pub)
    (plaintext : String) (nonce : Nat) : Envelope Pub Cipher :=
  ⟨state.ourDhPub, state.sendingIndex, nonce,
    crypto.gcmEncrypt (crypto.kdfChain state.sendingChainKey).2 nonce plaintext
      (state.ourDhPub, state.sendingIndex)⟩

def nextState (crypto : Crypto Key Priv Pub Cipher) (state : RatchetState Key Priv Pub)
    (their : Pub) : RatchetState Key Priv Pub :=
  { state with
    theirDhPub := some their
    sendingChainKey := (crypto.kdfChain state.sendingChainKey).1
    sendingIndex := state.sendingIndex + 1 }

theorem Sends.write (their : Pub) (plaintext : String) (nonce : Nat)
    (sends : Sends crypto couple rungs party sent state)
    (pub : state.ourDhPub = crypto.publicKey (rungs.keys (rungs.place party))) :
    Sends crypto couple (rungs.write party) party
      (sent ++ [(nextEnvelope crypto state plaintext nonce, plaintext)])
      (nextState crypto state their) := by
  have current : Reads (rungs.place party + 1) (rungs.place party + 1) :=
    ⟨Nat.succ_pos _, Nat.le_refl _, rfl⟩
  constructor
  · rw [nextState, sends.chain]
    rfl
  · rw [nextState, sends.index]
    simp [Rungs.write]
  · intro entry member
    rcases List.mem_append.mp member with before | now
    · obtain ⟨c, reads, locked, less⟩ := sends.each entry before
      exact ⟨c, reads, locked, Nat.lt_of_lt_of_le less (count_grows c)⟩
    · rw [List.mem_singleton] at now
      subst now
      apply Exists.intro (rungs.place party + 1)
      apply And.intro current
      constructor
      · constructor
        · exact pub
        · simp only [nextEnvelope, sends.chain]
          rfl
      · simp [Rungs.write, nextEnvelope, sends.index]
  · intro c reads idx less
    by_cases here : c = rungs.place party + 1
    · subst here
      simp only [Rungs.write, Function.update_self] at less
      by_cases last : idx = rungs.count (rungs.place party + 1)
      · subst last
        exact ⟨_, List.mem_append_right _ (List.mem_singleton_self _), pub, sends.index⟩
      · obtain ⟨entry, member, same⟩ := sends.all _ reads idx (by omega)
        exact ⟨entry, List.mem_append_left _ member, same⟩
    · simp only [Rungs.write, Function.update_of_ne here] at less
      obtain ⟨entry, member, same⟩ := sends.all c reads idx less
      exact ⟨entry, List.mem_append_left _ member, same⟩

theorem send_eq (crypto : Crypto Key Priv Pub Cipher) (couple : Couple)
    (talk : Talk Key Priv Pub Cipher) (sender : Party) (plaintext : String) (nonce : Nat) :
    ∃ their, (∀ known, (talk.state crypto couple sender).theirDhPub = some known → their = known) ∧
      talk.send crypto couple sender plaintext nonce =
        { talk with
          stored := Function.update talk.stored sender
            (some (nextState crypto (talk.state crypto couple sender) their))
          sent := Function.update talk.sent sender (talk.sent sender ++ [(nextEnvelope crypto
            (talk.state crypto couple sender) plaintext nonce, plaintext)]) } := by
  obtain ⟨their, same, steady⟩ := withPeerKey_eq crypto (talk.state crypto couple sender)
    (couple.member sender) (couple.member sender.other)
  apply Exists.intro their
  apply And.intro steady
  have same' : withPeerKey crypto (loadOrBootstrap crypto (talk.stored sender)
      (couple.member sender) (couple.member sender.other)) (couple.member sender)
      (couple.member sender.other) = { talk.state crypto couple sender with
        theirDhPub := some their } := same
  simp only [Talk.send, encryptFor, same', encryptMessage, Option.isNone_some, Bool.false_eq_true,
    if_false, nextState, nextEnvelope]

theorem state_stored {talk : Talk Key Priv Pub Cipher} {state : RatchetState Key Priv Pub}
    (stored : talk.stored party = some state) : talk.state crypto couple party = state := by
  rw [Talk.state, stored]
  rfl

theorem state_same {talk later : Talk Key Priv Pub Cipher}
    (stored : later.stored party = talk.stored party) :
    later.state crypto couple party = talk.state crypto couple party := by
  rw [Talk.state, Talk.state, stored]

theorem Receives.write {sender : Party} {delivered : List (Pub × Nat)}
    {state : RatchetState Key Priv Pub}
    (receives : Receives crypto couple rungs party delivered state) :
    Receives crypto couple (rungs.write sender) party delivered state :=
  ⟨receives.reading, receives.their, receives.begun⟩

theorem Receives.next {their : Pub}
    (steady : ∀ known, state.theirDhPub = some known → their = known)
    (receives : Receives crypto couple rungs party delivered state) :
    Receives crypto couple rungs party delivered (nextState crypto state their) where
  reading := receives.reading.same _ rfl rfl rfl rfl rfl rfl
  their started := congrArg some (steady _ (receives.their started))
  begun := receives.begun

variable {talk : Talk Key Priv Pub Cipher}

theorem Ladder.send (ladder : Ladder crypto couple rungs talk) (sender : Party)
    (plaintext : String) (nonce : Nat) :
    Ladder crypto couple (rungs.write sender)
      (talk.send crypto couple sender plaintext nonce) := by
  obtain ⟨their, steady, same⟩ := send_eq crypto couple talk sender plaintext nonce
  generalize talk.send crypto couple sender plaintext nonce = later at same ⊢
  have pub := (ladder.receives sender).reading.pub
  have parity := ladder.parity
  have elsewhere (party : Party) (differ : party ≠ sender) :
      (rungs.place party + 1) % 2 ≠ (rungs.place sender + 1) % 2 := by
    cases party <;> cases sender <;> first | exact absurd rfl differ | omega
  have delivered : later.delivered = talk.delivered := by rw [same]
  have here : later.state crypto couple sender =
      nextState crypto (talk.state crypto couple sender) their :=
    state_stored (by rw [same]; exact Function.update_self _ _ _)
  have there (party : Party) (differ : party ≠ sender) :
      later.state crypto couple party = talk.state crypto couple party :=
    state_same (by rw [same]; exact Function.update_of_ne differ _ _)
  have sentHere : later.sent sender = talk.sent sender ++
      [(nextEnvelope crypto (talk.state crypto couple sender) plaintext nonce, plaintext)] := by
    rw [same]
    exact Function.update_self _ _ _
  have sentThere (party : Party) (differ : party ≠ sender) :
      later.sent party = talk.sent party := by
    rw [same]
    exact Function.update_of_ne differ _ _
  constructor
  · intro party
    rw [delivered]
    by_cases mine : party = sender
    · subst mine
      rw [here]
      exact ((ladder.receives party).next steady).write
    · rw [there party mine]
      exact (ladder.receives party).write
  · intro party
    by_cases mine : party = sender
    · subst mine
      rw [here, sentHere]
      exact (ladder.sends party).write their plaintext nonce pub
    · rw [there party mine, sentThere party mine]
      exact (ladder.sends party).write_other (elsewhere party mine)
  · intro bottom quiet
    by_cases mine : Party.responder = sender
    · rw [mine, sentHere] at quiet
      exact absurd quiet (List.append_ne_nil_of_right_ne_nil _ (List.cons_ne_nil _ _))
    · rw [there _ mine]
      rw [sentThere _ mine] at quiet
      exact ladder.patient bottom quiet
  · intro risen
    have other : 1 % 2 ≠ (rungs.place sender + 1) % 2 ∨ 1 ≠ rungs.place sender + 1 := by
      cases sender with
      | initiator => exact Or.inl (by omega)
      | responder =>
        have climbed : 2 ≤ rungs.place .responder := risen
        exact Or.inr (by omega)
    have kept : (rungs.write sender).count 1 = rungs.count 1 := by
      rcases other with odd | apart
      · exact count_write 1 odd
      · exact Function.update_of_ne apart _ _
    exact kept.trans (ladder.silent risen)
  · exact ladder.higher
  · intro party c odd beyond
    have kept : (rungs.write sender).count c = rungs.count c := by
      by_cases here : party = sender
      · subst here
        have above : rungs.place party + 1 < c := beyond
        exact Function.update_of_ne (by omega) _ _
      · exact count_write c (odd.trans_ne (elsewhere party here))
    exact kept.trans (ladder.unwritten party c odd beyond)
  · exact ladder.parity
  · exact ladder.near
  · exact ladder.apart
  · intro i draw held least
    rw [same] at least
    exact ladder.drawn i draw held least

end Sending

section Delivering
variable {crypto : Crypto Key Priv Pub Cipher} {couple : Couple} {rungs : Rungs Priv}
  {party receiver : Party} {talk : Talk Key Priv Pub Cipher} {envelope : Envelope Pub Cipher}
  {plaintext : String}

def Rungs.reach (rungs : Rungs Priv) (receiver : Party) (reached : Nat → Nat) : Rungs Priv :=
  { rungs with read := Function.update rungs.read receiver reached }
variable {reached : Nat → Nat}

theorem reach_here : (rungs.reach receiver reached).read receiver = reached :=
  Function.update_self _ _ _

theorem reach_there (differ : party ≠ receiver) :
    (rungs.reach receiver reached).read party = rungs.read party :=
  Function.update_of_ne differ _ _

theorem Receives.reach_other {delivered : List (Pub × Nat)} {state : RatchetState Key Priv Pub}
    (differ : party ≠ receiver) (receives : Receives crypto couple rungs party delivered state) :
    Receives crypto couple (rungs.reach receiver reached) party delivered state where
  reading := by
    rw [reach_there differ]
    exact receives.reading
  their := receives.their
  begun := receives.begun

theorem Sends.reach {sent : List (Envelope Pub Cipher × String)}
    {state after : RatchetState Key Priv Pub}
    (chain : after.sendingChainKey = state.sendingChainKey)
    (index : after.sendingIndex = state.sendingIndex)
    (sends : Sends crypto couple rungs party sent state) :
    Sends crypto couple (rungs.reach receiver reached) party sent after where
  chain := by
    rw [chain, index]
    exact sends.chain
  index := index.trans sends.index
  each := sends.each
  all := sends.all

variable [DecidableEq Pub]
variable {after : RatchetState Key Priv Pub}

theorem attempt_ok
    (opens : decryptMessage crypto (talk.state crypto couple receiver) envelope
      (crypto.generate talk.drawn) = .ok (after, plaintext)) :
    talk.attempt crypto couple receiver envelope = (after, some plaintext) := by
  rw [Talk.state] at opens
  rw [Talk.attempt, decryptFor, opens]

theorem attempt_error {error : RatchetError}
    (closed : decryptMessage crypto (talk.state crypto couple receiver) envelope
      (crypto.generate talk.drawn) = .error error) :
    talk.attempt crypto couple receiver envelope = (talk.state crypto couple receiver, none) := by
  rw [Talk.state] at closed ⊢
  rw [Talk.attempt, decryptFor, closed]

theorem deliver_here (attempt : (talk.attempt crypto couple receiver envelope).1 = after) :
    (talk.deliver crypto couple receiver envelope).state crypto couple receiver = after :=
  state_stored (by rw [Talk.deliver, attempt]; exact Function.update_self _ _ _)

theorem deliver_there (differ : party ≠ receiver) :
    (talk.deliver crypto couple receiver envelope).state crypto couple party =
      talk.state crypto couple party :=
  state_same (Function.update_of_ne differ _ _)

theorem delivered_here : (talk.deliver crypto couple receiver envelope).delivered receiver =
    (envelope.ourPub, envelope.idx) :: talk.delivered receiver := Function.update_self _ _ _

theorem delivered_there (differ : party ≠ receiver) :
    (talk.deliver crypto couple receiver envelope).delivered party = talk.delivered party :=
  Function.update_of_ne differ _ _

theorem Ladder.deliver (ladder : Ladder crypto couple rungs talk) {reached : Nat → Nat}
    {after : RatchetState Key Priv Pub}
    (attempt : (talk.attempt crypto couple receiver envelope).1 = after)
    (reading : Reading crypto (couple.secret crypto) rungs.keys reached (rungs.place receiver)
      ((envelope.ourPub, envelope.idx) :: talk.delivered receiver) after)
    (chain : after.sendingChainKey = (talk.state crypto couple receiver).sendingChainKey)
    (index : after.sendingIndex = (talk.state crypto couple receiver).sendingIndex)
    (their : after.theirDhPub = (talk.state crypto couple receiver).theirDhPub)
    (higher : ∀ c, c % 2 = rungs.place receiver % 2 → rungs.place receiver < c → reached c = 0) :
    Ladder crypto couple (rungs.reach receiver reached)
      (talk.deliver crypto couple receiver envelope) := by
  constructor
  · intro party
    by_cases mine : party = receiver
    · subst mine
      have receives := ladder.receives party
      rw [deliver_here attempt, delivered_here]
      constructor
      · rw [reach_here]
        exact reading
      · rw [their]
        exact receives.their
      · intro chain least reads
        obtain ⟨idx, came⟩ := receives.begun chain least reads
        exact ⟨idx, List.mem_cons_of_mem _ came⟩
    · rw [deliver_there mine, delivered_there mine]
      exact (ladder.receives party).reach_other mine
  · intro party
    by_cases mine : party = receiver
    · subst mine
      rw [deliver_here attempt]
      exact (ladder.sends party).reach chain index
    · rw [deliver_there mine]
      exact (ladder.sends party).reach rfl rfl
  · intro bottom quiet
    by_cases mine : Party.responder = receiver
    · subst mine
      rw [deliver_here attempt, their]
      exact ladder.patient bottom quiet
    · rw [deliver_there mine]
      exact ladder.patient bottom quiet
  · exact ladder.silent
  · intro party c odd beyond
    by_cases mine : party = receiver
    · subst mine
      rw [reach_here]
      exact higher c odd beyond
    · rw [reach_there mine]
      exact ladder.higher party c odd beyond
  · exact ladder.unwritten
  · exact ladder.parity
  · exact ladder.near
  · exact ladder.apart
  · exact fun i draw held least => ladder.drawn i draw held (Nat.le_of_succ_le least)

def Rungs.climb (rungs : Rungs Priv) (receiver : Party) (fresh : Priv) (idx : Nat) : Rungs Priv :=
  { keys := Function.update rungs.keys (rungs.place receiver + 2) fresh
    place := Function.update rungs.place receiver (rungs.place receiver + 2)
    read := Function.update rungs.read receiver
      (Function.update (rungs.read receiver) (rungs.place receiver + 2) (idx + 1))
    count := rungs.count }

end Delivering

section Climbing
variable {crypto : Crypto Key Priv Pub Cipher} {couple : Couple} {rungs : Rungs Priv}
  {party receiver : Party} {talk : Talk Key Priv Pub Cipher} {envelope : Envelope Pub Cipher}
  {plaintext : String} {fresh : Priv} {idx : Nat}

theorem climb_key (i : Nat) (below : i ≠ rungs.place receiver + 2) :
    (rungs.climb receiver fresh idx).keys i = rungs.keys i := Function.update_of_ne below _ _

theorem climb_top : (rungs.climb receiver fresh idx).keys (rungs.place receiver + 2) = fresh :=
  Function.update_self _ _ _

theorem climb_place : (rungs.climb receiver fresh idx).place receiver = rungs.place receiver + 2 :=
  Function.update_self _ _ _

theorem climb_elsewhere (differ : party ≠ receiver) :
    (rungs.climb receiver fresh idx).place party = rungs.place party :=
  Function.update_of_ne differ _ _

/-- Keys above a party's place are none of its business. -/
theorem Reading.raise {secret : Key} {keys others : Nat → Priv} {read : Nat → Nat} {place : Nat}
    {delivered : List (Pub × Nat)} {state : RatchetState Key Priv Pub}
    (same : ∀ i ≤ place, others i = keys i)
    (reading : Reading crypto secret keys read place delivered state) :
    Reading crypto secret others read place delivered state := by
  have chains (c : Nat) (inside : c ≤ place) :
      chainOf crypto secret others c = chainOf crypto secret keys c :=
    chainOf_congr crypto secret _ _ c fun i less => same i (by omega)
  have below (c : Nat) (inside : c ≤ place) : others (c - 1) = keys (c - 1) :=
    same (c - 1) (by omega)
  constructor
  · rw [reading.root, rootAt_congr crypto secret _ _ place same]
  · rw [reading.priv, same place (Nat.le_refl _)]
  · rw [reading.pub, same place (Nat.le_refl _)]
  · rw [reading.chain, chains place (Nat.le_refl _)]
  · exact reading.index
  · intro pub idx key
    rw [reading.aside]
    constructor
    · rintro ⟨c, reads, rfl, before, unused, rfl⟩
      exact ⟨c, reads, by rw [below c reads.below], before, unused, by rw [chains c reads.below]⟩
    · rintro ⟨c, reads, rfl, before, unused, rfl⟩
      exact ⟨c, reads, by rw [below c reads.below], before, unused, by rw [chains c reads.below]⟩
  · intro pub idx member
    obtain ⟨c, reads, rfl, before⟩ := reading.come pub idx member
    exact ⟨c, reads, by rw [below c reads.below], before⟩

theorem Locked.raise {secret : Key} {keys others : Nat → Priv} {c : Nat}
    (same : ∀ i < c, others i = keys i) (some : 1 ≤ c)
    (locked : Locked crypto secret keys c envelope plaintext) :
    Locked crypto secret others c envelope plaintext where
  pub := by rw [locked.pub, same (c - 1) (by omega)]
  cipher := by rw [locked.cipher, chainOf_congr crypto secret others keys c same]

theorem Receives.climb_other {delivered : List (Pub × Nat)} {state : RatchetState Key Priv Pub}
    (differ : party ≠ receiver) (below : rungs.place party < rungs.place receiver + 2)
    (receives : Receives crypto couple rungs party delivered state) :
    Receives crypto couple (rungs.climb receiver fresh idx) party delivered state := by
  have steady (i : Nat) (inside : i ≤ rungs.place party) :
      (rungs.climb receiver fresh idx).keys i = rungs.keys i := climb_key i (by omega)
  constructor
  · have read : (rungs.climb receiver fresh idx).read party = rungs.read party :=
      Function.update_of_ne differ _ _
    rw [read, climb_elsewhere differ]
    exact receives.reading.raise steady
  · rw [climb_elsewhere differ, steady _ (Nat.sub_le _ _)]
    exact receives.their
  · rw [climb_elsewhere differ]
    intro c least reads
    rw [steady (c - 1) (by have := reads.below; omega)]
    exact receives.begun c least reads

variable {sent : List (Envelope Pub Cipher × String)}

theorem Sends.climb_other {state : RatchetState Key Priv Pub} (differ : party ≠ receiver)
    (below : rungs.place party < rungs.place receiver + 2)
    (sends : Sends crypto couple rungs party sent state) :
    Sends crypto couple (rungs.climb receiver fresh idx) party sent state := by
  have steady (i : Nat) (inside : i ≤ rungs.place party) :
      (rungs.climb receiver fresh idx).keys i = rungs.keys i := climb_key i (by omega)
  constructor
  · rw [climb_elsewhere differ, sends.chain,
      chainOf_congr crypto _ (rungs.climb receiver fresh idx).keys rungs.keys _
        fun i less => steady i (by omega)]
  · rw [climb_elsewhere differ]
    exact sends.index
  · rw [climb_elsewhere differ]
    intro entry member
    obtain ⟨c, reads, locked, less⟩ := sends.each entry member
    have inside := reads.below
    exact ⟨c, reads, locked.raise (fun i less => steady i (by omega)) reads.opened, less⟩
  · rw [climb_elsewhere differ]
    intro c reads idx less
    have inside := reads.below
    rw [steady (c - 1) (by omega)]
    exact sends.all c reads idx less

/-- The climber sends on a chain of its own that nobody has written to. -/
theorem Sends.climb {state after : RatchetState Key Priv Pub}
    (chain : after.sendingChainKey = chainOf crypto (couple.secret crypto)
      (rungs.climb receiver fresh idx).keys (rungs.place receiver + 3))
    (index : after.sendingIndex = 0) (empty : rungs.count (rungs.place receiver + 3) = 0)
    (sends : Sends crypto couple rungs receiver sent state) :
    Sends crypto couple (rungs.climb receiver fresh idx) receiver sent after := by
  have steady (i : Nat) (inside : i ≤ rungs.place receiver + 1) :
      (rungs.climb receiver fresh idx).keys i = rungs.keys i := climb_key i (by omega)
  constructor
  · rw [climb_place, chain, index]
    rfl
  · rw [climb_place, index]
    exact empty.symm
  · intro entry member
    obtain ⟨c, reads, locked, less⟩ := sends.each entry member
    have opened := reads.opened
    have inside := reads.below
    have parity := reads.parity
    have still : Reads ((rungs.climb receiver fresh idx).place receiver + 1) c := by
      rw [climb_place]
      exact ⟨opened, by omega, by omega⟩
    exact ⟨c, still, locked.raise (fun i less => steady i (by omega)) opened, less⟩
  · rw [climb_place]
    intro c reads idx' less
    have opened := reads.opened
    have inside := reads.below
    have parity := reads.parity
    by_cases top : c = rungs.place receiver + 3
    · have none : rungs.count c = 0 := top ▸ empty
      have some : idx' < rungs.count c := less
      omega
    · rw [steady (c - 1) (by omega)]
      exact sends.all c ⟨opened, by omega, by omega⟩ idx' less

theorem eq_other (differ : party ≠ receiver) : party = receiver.other := by
  cases party <;> cases receiver <;> first | exact absurd rfl differ | rfl

theorem climb_held (lower : rungs.place receiver.other = rungs.place receiver + 1) {i : Nat}
    (high : (rungs.climb receiver fresh idx).Held i) (other : i ≠ rungs.place receiver + 2) :
    rungs.Held i ∧ i < rungs.place receiver + 2 := by
  obtain ⟨party, inside⟩ := high
  by_cases mine : party = receiver
  · subst mine
    rw [climb_place] at inside
    exact ⟨⟨party.other, by omega⟩, by omega⟩
  · rw [climb_elsewhere mine, eq_other mine, lower] at inside
    exact ⟨⟨receiver.other, by omega⟩, by omega⟩

theorem Ladder.climb_higher (ladder : Ladder crypto couple rungs talk) :
    ∀ party c, c % 2 = (rungs.climb receiver fresh idx).place party % 2 →
      (rungs.climb receiver fresh idx).place party < c →
        (rungs.climb receiver fresh idx).read party c = 0 := by
  intro party c odd beyond
  by_cases mine : party = receiver
  · subst mine
    rw [climb_place] at odd beyond
    have now : (rungs.climb party fresh idx).read party c =
        rungs.read party c := by
      simp only [Rungs.climb, Function.update_self]
      exact Function.update_of_ne (by omega) _ _
    rw [now]
    exact ladder.higher party c (by omega) (by omega)
  · rw [climb_elsewhere mine] at odd beyond
    have now : (rungs.climb receiver fresh idx).read party =
        rungs.read party := Function.update_of_ne mine _ _
    rw [now]
    exact ladder.higher party c odd beyond

theorem climb_near (lower : rungs.place receiver.other = rungs.place receiver + 1) :
    ∀ party, (rungs.climb receiver fresh idx).place party ≤
      (rungs.climb receiver fresh idx).place party.other + 1 := by
  intro party
  by_cases mine : party = receiver
  · subst mine
    have differ : party.other ≠ party := by cases party <;> decide
    rw [climb_place, climb_elsewhere differ]
    omega
  · have back : party.other = receiver := by
      rw [eq_other mine]
      exact other_other
    rw [climb_elsewhere mine, back, climb_place, eq_other mine, lower]
    omega

variable {rank : Key → Nat}

theorem Ladder.climb_apart (ideal : Ideal crypto rank) (ladder : Ladder crypto couple rungs talk)
    (lower : rungs.place receiver.other = rungs.place receiver + 1) :
    let climbed := rungs.climb receiver (crypto.generate talk.drawn) idx
    ∀ i j, climbed.Held i → climbed.Held j →
      crypto.publicKey (climbed.keys i) = crypto.publicKey (climbed.keys j) → i = j := by
  intro climbed i j heldI heldJ same
  by_cases topI : i = rungs.place receiver + 2 <;> by_cases topJ : j = rungs.place receiver + 2
  · exact topI.trans topJ.symm
  · have low := climb_held lower heldJ topJ
    rw [topI, climb_top, climb_key j topJ] at same
    exact absurd (ideal.publicKey_inj _ _ same).symm
      (ladder.drawn j talk.drawn low.1 (Nat.le_refl _))
  · have low := climb_held lower heldI topI
    rw [topJ, climb_top, climb_key i topI] at same
    exact absurd (ideal.publicKey_inj _ _ same)
      (ladder.drawn i talk.drawn low.1 (Nat.le_refl _))
  · rw [climb_key i topI, climb_key j topJ] at same
    exact ladder.apart i j (climb_held lower heldI topI).1 (climb_held lower heldJ topJ).1
        same

variable [DecidableEq Pub]

/-- A delivery that takes the receiver up, past the sender of the chain. -/
theorem Ladder.climb (ideal : Ideal crypto rank) (ladder : Ladder crypto couple rungs talk)
    {after : RatchetState Key Priv Pub}
    (lower : rungs.place receiver.other = rungs.place receiver + 1)
    (quiet : rungs.place receiver = 0 → rungs.count 1 = 0)
    (attempt : (talk.attempt crypto couple receiver envelope).1 = after)
    (receives : Receives crypto couple
      (rungs.climb receiver (crypto.generate talk.drawn) envelope.idx) receiver
      ((envelope.ourPub, envelope.idx) :: talk.delivered receiver) after)
    (chain : after.sendingChainKey = chainOf crypto (couple.secret crypto)
      (rungs.climb receiver (crypto.generate talk.drawn) envelope.idx).keys
      (rungs.place receiver + 3))
    (index : after.sendingIndex = 0) :
    Ladder crypto couple (rungs.climb receiver (crypto.generate talk.drawn) envelope.idx)
      (talk.deliver crypto couple receiver envelope) := by
  have place (party : Party) (differ : party ≠ receiver) :
      rungs.place party = rungs.place receiver + 1 := by
    rw [eq_other differ]
    exact lower
  constructor
  · intro party
    by_cases mine : party = receiver
    · subst mine
      rw [deliver_here attempt, delivered_here]
      exact receives
    · rw [deliver_there mine, delivered_there mine]
      exact (ladder.receives party).climb_other mine (by rw [place party mine]; omega)
  · intro party
    by_cases mine : party = receiver
    · subst mine
      rw [deliver_here attempt]
      apply (ladder.sends party).climb chain index
      exact ladder.unwritten party _ (by omega) (by omega)
    · rw [deliver_there mine]
      exact (ladder.sends party).climb_other mine (by rw [place party mine]; omega)
  · intro bottom still
    by_cases mine : Party.responder = receiver
    · subst mine
      cases bottom
    · rw [climb_elsewhere mine] at bottom
      rw [deliver_there mine]
      exact ladder.patient bottom still
  · intro risen
    by_cases mine : Party.responder = receiver
    · subst mine
      by_cases bottom : rungs.place .responder = 0
      · exact quiet bottom
      · have even := ladder.parity.2
        exact ladder.silent (by omega)
    · rw [climb_elsewhere mine] at risen
      exact ladder.silent risen
  · exact ladder.climb_higher
  · intro party c odd beyond
    by_cases mine : party = receiver
    · subst mine
      rw [climb_place] at odd beyond
      exact ladder.unwritten party c (by omega) (by omega)
    · rw [climb_elsewhere mine] at odd beyond
      exact ladder.unwritten party c odd beyond
  · have parity := ladder.parity
    cases receiver with
    | initiator =>
      rw [climb_place, climb_elsewhere (by decide)]
      omega
    | responder =>
      rw [climb_place, climb_elsewhere (by decide)]
      omega
  · exact climb_near lower
  · exact ladder.climb_apart ideal lower
  · intro i draw heldI least
    have later : talk.drawn + 1 ≤ draw := least
    by_cases top : i = rungs.place receiver + 2
    · rw [top, climb_top]
      intro same
      have equal := ideal.generate_inj _ _ same
      omega
    · rw [climb_key i top]
      exact ladder.drawn i draw (climb_held lower heldI top).1 (by omega)

end Climbing

section Reception
variable {crypto : Crypto Key Priv Pub Cipher} {couple : Couple} {rank : Key → Nat}
  {rungs : Rungs Priv} {receiver : Party} {talk : Talk Key Priv Pub Cipher}
  {envelope : Envelope Pub Cipher} {plaintext : String} {c : Nat}

section

variable (ladder : Ladder crypto couple rungs talk)
include ladder

/-- A chain that the receiver reads and one the other party wrote are the same if their keys are. -/
theorem Ladder.same_chain {chain : Nat} (reads : Reads (rungs.place receiver) chain)
    (wrote : Reads (rungs.place receiver.other + 1) c)
    (same : crypto.publicKey (rungs.keys (chain - 1)) = crypto.publicKey (rungs.keys (c - 1))) :
    chain = c := by
  have readBelow := reads.below
  have wroteBelow := wrote.below
  have readOpened := reads.opened
  have wroteOpened := wrote.opened
  have equal := ladder.apart (chain - 1) (c - 1) ⟨receiver, by omega⟩ ⟨receiver.other, by omega⟩
    same
  omega

theorem Ladder.passed (wrote : Reads (rungs.place receiver.other + 1) c) {idx : Nat}
    (came : (crypto.publicKey (rungs.keys (c - 1)), idx) ∈ talk.delivered receiver) :
    Reads (rungs.place receiver) c ∧ idx < rungs.read receiver c := by
  obtain ⟨chain, reads, pub, before⟩ := (ladder.receives receiver).reading.come _ _ came
  have same := ladder.same_chain reads wrote pub.symm
  exact same ▸ ⟨reads, before⟩

theorem Ladder.places (receiver : Party) :
    rungs.place receiver.other = rungs.place receiver + 1 ∨
      rungs.place receiver = rungs.place receiver.other + 1 := by
  have parity := ladder.parity
  have near := ladder.near receiver
  have back := ladder.near receiver.other
  cases receiver with
  | initiator => simp only [Party.other] at near back ⊢; omega
  | responder => simp only [Party.other] at near back ⊢; omega

end

theorem secret_rank (ideal : Ideal crypto rank) : rank (couple.secret crypto) = 0 :=
  ideal.rank_sha256 _

theorem Ladder.unknown (ladder : Ladder crypto couple rungs talk)
    (lower : rungs.place receiver.other = rungs.place receiver + 1)
    (patient : receiver = .responder →
      talk.sent .responder = [] ∨ talk.delivered .responder ≠ []) :
    (talk.state crypto couple receiver).theirDhPub ≠
      some (crypto.publicKey (rungs.keys (rungs.place receiver + 1))) := by
  by_cases started : 1 ≤ rungs.place receiver
  · rw [(ladder.receives receiver).their started]
    intro same
    have equal := ladder.apart _ _ ⟨receiver, Nat.sub_le _ _⟩ ⟨receiver.other, lower.ge⟩
      (Option.some.inj same)
    omega
  · cases receiver with
    | initiator =>
      have odd := ladder.parity.1
      omega
    | responder =>
      have bottom : rungs.place .responder = 0 := by omega
      rcases patient rfl with quiet | came
      · rw [ladder.patient bottom quiet]
        exact fun same => by cases same
      · obtain ⟨slot, member⟩ := List.exists_mem_of_ne_nil _ came
        obtain ⟨chain, reads, _⟩ := (ladder.receives .responder).reading.come slot.1 slot.2 member
        have opened := reads.opened
        have below := reads.below
        omega

/-- The responder that climbs for the first time has not written. -/
theorem Ladder.unsaid (ladder : Ladder crypto couple rungs talk)
    (bottom : rungs.place receiver = 0)
    (patient : receiver = .responder →
      talk.sent .responder = [] ∨ talk.delivered .responder ≠ []) : rungs.count 1 = 0 := by
  cases receiver with
  | initiator =>
    have odd := ladder.parity.1
    omega
  | responder =>
    rcases patient rfl with quiet | came
    · by_contra some
      have first : Reads (rungs.place .responder + 1) 1 := ⟨Nat.le_refl _, by omega, by omega⟩
      obtain ⟨entry, member, _⟩ := (ladder.sends .responder).all 1 first 0 (by omega)
      rw [quiet] at member
      cases member
    · obtain ⟨slot, member⟩ := List.exists_mem_of_ne_nil _ came
      obtain ⟨chain, reads, _⟩ := (ladder.receives .responder).reading.come slot.1 slot.2 member
      have opened := reads.opened
      have below := reads.below
      omega

variable [DecidableEq Pub]

/-- All that was not read yet of the chain is outstanding. -/
theorem Ladder.budget (ladder : Ladder crypto couple rungs talk)
    (wrote : Reads (rungs.place receiver.other + 1) c)
    (pub : envelope.ourPub = crypto.publicKey (rungs.keys (c - 1)))
    (less : envelope.idx < rungs.count c) :
    envelope.idx - rungs.read receiver c ≤ (talk.outstanding receiver envelope).length := by
  apply covered_length _ fun entry : Envelope Pub Cipher × String => entry.1.idx
  intro i least below
  obtain ⟨entry, member, entryPub, rfl⟩ := (ladder.sends receiver.other).all c wrote i (by omega)
  have waiting : (entry.1.ourPub, entry.1.idx) ∉ talk.delivered receiver := by
    intro came
    rw [entryPub] at came
    have before := (ladder.passed wrote came).2
    omega
  have among : entry ∈ talk.outstanding receiver envelope := by
    rw [Talk.outstanding, List.mem_filter, decide_eq_true_eq]
    exact ⟨member, entryPub.trans pub.symm, below, waiting⟩
  exact ⟨entry, among, rfl⟩

section

variable (ideal : Ideal crypto rank) (ladder : Ladder crypto couple rungs talk)
include ideal ladder

theorem Ladder.aside (reads : Reads (rungs.place receiver) c)
    (locked : Locked crypto (couple.secret crypto) rungs.keys c envelope plaintext)
    (first : (envelope.ourPub, envelope.idx) ∉ talk.delivered receiver)
    (before : envelope.idx < rungs.read receiver c) :
    (talk.attempt crypto couple receiver envelope).2 = some plaintext ∧
      ∃ later, Ladder crypto couple later (talk.deliver crypto couple receiver envelope) := by
  have receives := ladder.receives receiver
  have attempt := attempt_ok (receives.reading.opens_aside ideal reads before first locked
    (crypto.generate talk.drawn))
  apply And.intro (congrArg Prod.snd attempt)
  apply Exists.intro (rungs.reach receiver (rungs.read receiver))
  apply ladder.deliver (congrArg Prod.fst attempt)
  · rw [locked.pub]
    exact receives.reading.used c envelope.idx reads before
  · rfl
  · rfl
  · rfl
  · exact ladder.higher receiver

/-- The next message, or a later one, of the chain being read. -/
theorem Ladder.next (wrote : Reads (rungs.place receiver.other + 1) (rungs.place receiver))
    (locked : Locked crypto (couple.secret crypto) rungs.keys (rungs.place receiver) envelope
      plaintext) (ahead : rungs.read receiver (rungs.place receiver) ≤ envelope.idx)
    (budget : envelope.idx - rungs.read receiver (rungs.place receiver) ≤ MAX_SKIPPED_MESSAGES) :
    (talk.attempt crypto couple receiver envelope).2 = some plaintext ∧
      ∃ later, Ladder crypto couple later (talk.deliver crypto couple receiver envelope) := by
  have receives := ladder.receives receiver
  have started : 1 ≤ rungs.place receiver := wrote.opened
  have their := receives.their started
  have none := receives.reading.not_aside envelope (by
    intro chain reads pub
    rw [ladder.same_chain reads wrote (pub.symm.trans locked.pub)]
    exact ahead)
  have attempt := attempt_ok (receives.reading.opens_next ideal (locked.pub ▸ their) none ahead
    budget locked (crypto.generate talk.drawn))
  apply And.intro (congrArg Prod.snd attempt)
  apply Exists.intro (rungs.reach receiver
    (Function.update (rungs.read receiver) (rungs.place receiver) (envelope.idx + 1)))
  apply ladder.deliver (congrArg Prod.fst attempt)
  · rw [locked.pub]
    apply receives.reading.further _ started envelope.idx ahead
    intro i j lowI lowJ same
    exact ladder.apart i j ⟨receiver, by omega⟩ ⟨receiver, by omega⟩ same
  · rfl
  · rfl
  · rfl
  · intro chain odd beyond
    rw [Function.update_of_ne (by omega)]
    exact ladder.higher receiver chain odd beyond

theorem Ladder.again (wrote : Reads (rungs.place receiver.other + 1) c)
    (locked : Locked crypto (couple.secret crypto) rungs.keys c envelope plaintext)
    (known : (envelope.ourPub, envelope.idx) ∈ talk.delivered receiver) :
    ∃ later, Ladder crypto couple later (talk.deliver crypto couple receiver envelope) := by
  have receives := ladder.receives receiver
  have reads := (ladder.passed wrote (locked.pub ▸ known)).1
  have started : 1 ≤ rungs.place receiver := reads.opened.trans reads.below
  obtain ⟨error, closed⟩ := receives.reading.closed ideal (secret_rank ideal)
    (receives.their started) (fun chain reads' => ladder.same_chain reads' wrote) started
    reads.below known locked (crypto.generate talk.drawn)
  have attempt := attempt_error closed
  apply Exists.intro (rungs.reach receiver (rungs.read receiver))
  apply ladder.deliver (congrArg Prod.fst attempt)
  · exact receives.reading.again _ known
  · rfl
  · rfl
  · rfl
  · exact ladder.higher receiver

theorem Ladder.fresh (lower : rungs.place receiver.other = rungs.place receiver + 1)
    (locked : Locked crypto (couple.secret crypto) rungs.keys (rungs.place receiver + 2) envelope
      plaintext)
    (patient : receiver = .responder →
      talk.sent .responder = [] ∨ talk.delivered .responder ≠ [])
    (budget : envelope.idx ≤ MAX_SKIPPED_MESSAGES) :
    (talk.attempt crypto couple receiver envelope).2 = some plaintext ∧
      ∃ later, Ladder crypto couple later (talk.deliver crypto couple receiver envelope) := by
  have receives := ladder.receives receiver
  have wrote : Reads (rungs.place receiver.other + 1) (rungs.place receiver + 2) :=
    ⟨by omega, by omega, by omega⟩
  have pub : envelope.ourPub = crypto.publicKey (rungs.keys (rungs.place receiver + 1)) :=
    locked.pub
  have none := receives.reading.not_aside envelope (by
    intro chain reads same
    have equal := ladder.same_chain reads wrote (same.symm.trans locked.pub)
    have below := reads.below
    omega)
  have unread : rungs.read receiver (rungs.place receiver + 2) = 0 :=
    ladder.higher receiver _ (by omega) (by omega)
  have climbed := receives.reading.climb ideal (crypto.generate talk.drawn) unread
  have locked' : Locked crypto (couple.secret crypto)
      (rungs.climb receiver (crypto.generate talk.drawn) envelope.idx).keys
      (rungs.place receiver + 2) envelope plaintext :=
    locked.raise (fun i less => climb_key i (by omega)) (by omega)
  have opens : decryptMessage crypto (talk.state crypto couple receiver) envelope
      (crypto.generate talk.drawn) = decryptInChain crypto (advanceDhRatchet crypto
        (talk.state crypto couple receiver)
        (crypto.publicKey (rungs.keys (rungs.place receiver + 1))) (crypto.generate talk.drawn))
        envelope := by
    rw [decryptMessage, none]
    rw [pub, if_neg (ladder.unknown lower patient)]
  rw [decryptInChain_ok ideal _ envelope _ plaintext climbed.along (Nat.zero_le _) budget
    locked'.cipher] at opens
  have attempt := attempt_ok opens
  apply And.intro (congrArg Prod.snd attempt)
  apply Exists.intro (rungs.climb receiver (crypto.generate talk.drawn) envelope.idx)
  apply ladder.climb ideal lower (fun bottom => ladder.unsaid bottom patient)
    (congrArg Prod.fst attempt)
  · constructor
    · have now : (rungs.climb receiver (crypto.generate talk.drawn) envelope.idx).read receiver =
          Function.update (rungs.read receiver) (rungs.place receiver + 2) (envelope.idx + 1) :=
        Function.update_self _ _ _
      rw [now, climb_place, locked'.pub]
      apply climbed.further _ (by omega) envelope.idx (unread ▸ Nat.zero_le _)
      intro i j lowI lowJ same
      rw [Function.update_of_ne (by omega), Function.update_of_ne (by omega)] at same
      exact ladder.apart i j ⟨receiver.other, by omega⟩ ⟨receiver.other, by omega⟩ same
    · intro _
      have top : (rungs.climb receiver (crypto.generate talk.drawn) envelope.idx).keys
          (rungs.place receiver + 2 - 1) = rungs.keys (rungs.place receiver + 1) :=
        climb_key _ (by omega)
      rw [climb_place, top]
      rfl
    · rw [climb_place]
      intro chain least reads
      by_cases top : chain = rungs.place receiver + 2
      · rw [top, ← locked'.pub]
        exact ⟨envelope.idx, List.mem_cons_self⟩
      · have below := reads.below
        have parity := reads.parity
        rw [climb_key (chain - 1) (by omega)]
        obtain ⟨idx, came⟩ := receives.begun chain least ⟨reads.opened, by omega, by omega⟩
        exact ⟨idx, List.mem_cons_of_mem _ came⟩
  · exact receives.reading.climb_chain ideal (crypto.generate talk.drawn)
  · rfl

/-- The first delivery of an envelope that comes in turn. -/
theorem Ladder.receive (member : (envelope, plaintext) ∈ talk.sent receiver.other)
    (first : (envelope.ourPub, envelope.idx) ∉ talk.delivered receiver)
    (few : (talk.outstanding receiver envelope).length ≤ MAX_SKIPPED_MESSAGES)
    (timely : talk.Timely crypto couple receiver envelope) :
    (talk.attempt crypto couple receiver envelope).2 = some plaintext ∧
      ∃ later, Ladder crypto couple later (talk.deliver crypto couple receiver envelope) := by
  obtain ⟨c, wrote, locked, less⟩ := (ladder.sends receiver.other).each _ member
  have budget := (ladder.budget wrote locked.pub less).trans few
  have below := wrote.below
  have opened := wrote.opened
  have parity := wrote.parity
  have places := ladder.places receiver
  by_cases new : c = rungs.place receiver + 2
  · subst new
    have lower : rungs.place receiver.other = rungs.place receiver + 1 := by omega
    rw [ladder.higher receiver _ (by omega) (by omega)] at budget
    exact ladder.fresh ideal lower locked timely.patient budget
  · have reads : Reads (rungs.place receiver) c := ⟨opened, by omega, by omega⟩
    by_cases before : envelope.idx < rungs.read receiver c
    · exact ladder.aside ideal reads locked first before
    · -- What was not put aside is of the chain being read.
      have current : c = rungs.place receiver := by
        have started : 1 ≤ rungs.place receiver := opened.trans reads.below
        have top : Reads (rungs.place receiver) (rungs.place receiver) :=
          ⟨started, Nat.le_refl _, rfl⟩
        rcases timely.reachable with reading | unbegun | ⟨slot, came, mine, later⟩
        · rw [(ladder.receives receiver).their started, locked.pub] at reading
          exact (ladder.same_chain top wrote (Option.some.inj reading)).symm
        · by_contra lower
          by_cases least : 2 ≤ c
          · obtain ⟨idx, came⟩ := (ladder.receives receiver).begun c least reads
            exact unbegun _ came locked.pub.symm
          · -- The first chain is the responder's, who has climbed since and had not written.
            have bottom : c = 1 := by omega
            subst bottom
            cases receiver with
            | initiator =>
              have odd := ladder.parity.1
              simp only [Party.other] at places
              have silent := ladder.silent (by omega)
              omega
            | responder =>
              have even := ladder.parity.2
              omega
        · have slot' : slot = (crypto.publicKey (rungs.keys (c - 1)), slot.2) :=
            Prod.ext (mine.trans locked.pub) rfl
          have passed := (ladder.passed wrote (slot' ▸ came)).2
          omega
      subst current
      exact ladder.next ideal wrote locked (by omega) budget

end

end Reception

section Runs
variable (crypto : Crypto Key Priv Pub Cipher) (couple : Couple)

def firstRungs : Rungs Priv where
  keys rung := crypto.bootKey (couple.secret crypto)
    (if rung = 0 then couple.greater.id else couple.lesser.id)
  place
    | .initiator => 1
    | .responder => 0
  read _ _ := 0
  count _ := 0

variable {crypto couple} {rank : Key → Nat}

theorem initiator_opened :
    (Talk.opened : Talk Key Priv Pub Cipher).state crypto couple .initiator =
      initRatchet crypto (couple.secret crypto)
        ((firstRungs crypto couple).keys 1) (crypto.publicKey ((firstRungs crypto couple).keys 1))
        (some (crypto.publicKey ((firstRungs crypto couple).keys 0))) := by
  simp only [Talk.state, Talk.opened, loadOrBootstrap, Option.getD_none, Couple.member, Party.other,
    bootstrapPair, couple.ordered, decide_true, if_true, deriveInitialDhKeypair]
  rfl

theorem responder_opened :
    (Talk.opened : Talk Key Priv Pub Cipher).state crypto couple .responder =
      initRatchet crypto (couple.secret crypto)
        ((firstRungs crypto couple).keys 0) (crypto.publicKey ((firstRungs crypto couple).keys 0))
        none := by
  simp only [Talk.state, Talk.opened, loadOrBootstrap, Option.getD_none, Couple.member, Party.other,
    bootstrapPair, couple.ordered.asymm, decide_false, deriveInitialDhKeypair,
    sharedSecret_comm crypto couple.greater couple.lesser]
  rfl

theorem reading_opened {secret : Key} {keys : Nat → Priv} {place : Nat}
    {state : RatchetState Key Priv Pub} (root : state.rootKey = rootAt crypto secret keys place)
    (priv : state.ourDhPriv = keys place) (pub : state.ourDhPub = crypto.publicKey (keys place))
    (chain : state.receivingChainKey = chainAt crypto (chainOf crypto secret keys place) 0)
    (index : state.receivingIndex = 0) (skipped : state.skippedKeys = fun _ => none) :
    Reading crypto secret keys (fun _ => 0) place [] state where
  root := root
  priv := priv
  pub := pub
  chain := chain
  index := index
  aside pub idx key := by
    rw [skipped]
    constructor
    · intro found
      cases found
    · rintro ⟨c, _, _, before, _⟩
      cases before
  come pub idx came := by cases came

theorem opened_ladder (ideal : Ideal crypto rank) :
    Ladder crypto couple (firstRungs crypto couple) Talk.opened := by
  constructor
  · intro party
    cases party with
    | initiator =>
      rw [initiator_opened]
      constructor
      · exact reading_opened rfl rfl rfl rfl rfl rfl
      · intro _
        rfl
      · intro c least reads
        have below : c ≤ 1 := reads.below
        omega
    | responder =>
      rw [responder_opened]
      constructor
      · exact reading_opened rfl rfl rfl rfl rfl rfl
      · intro started
        cases started
      · intro c least reads
        have below : c ≤ 0 := reads.below
        omega
  · intro party
    constructor
    · cases party with
      | initiator => rw [initiator_opened]; rfl
      | responder => rw [responder_opened]; rfl
    · cases party with
      | initiator => rw [initiator_opened]; rfl
      | responder => rw [responder_opened]; rfl
    · intro entry member
      cases member
    · intro c reads idx less
      cases less
  · intro _ _
    rw [responder_opened]
    rfl
  · intro risen
    cases risen
  · exact fun _ _ _ _ => rfl
  · exact fun _ _ _ _ => rfl
  · exact ⟨rfl, rfl⟩
  · intro party
    cases party with
    | initiator => exact Nat.le_refl _
    | responder => exact Nat.zero_le _
  · intro i j heldI heldJ same
    have low (rung : Nat) (held : (firstRungs crypto couple).Held rung) : rung ≤ 1 := by
      obtain ⟨party, inside⟩ := held
      cases party with
      | initiator => exact inside
      | responder => exact inside.trans (Nat.zero_le _)
    have lowI := low i heldI
    have lowJ := low j heldJ
    have equal := (ideal.boot_inj _ _ _ _ (ideal.publicKey_inj _ _ same)).2
    by_cases zeroI : i = 0 <;> by_cases zeroJ : j = 0
    · omega
    · rw [if_pos zeroI, if_neg zeroJ] at equal
      exact absurd equal couple.ordered.ne'
    · rw [if_neg zeroI, if_pos zeroJ] at equal
      exact absurd equal couple.ordered.ne
    · omega
  · intro i draw _ _ same
    exact ideal.generate_ne_boot draw _ _ same.symm

variable [DecidableEq Pub]

theorem talk_step (ideal : Ideal crypto rank) (talk : Talk Key Priv Pub Cipher) (event : TalkEvent)
    (kept : ∃ rungs, Ladder crypto couple rungs talk)
    (permitted : talk.WithinBudget event ∧ talk.InTurn crypto couple event) :
    talk.ReadsRight crypto couple event ∧
      ∃ rungs, Ladder crypto couple rungs (talk.step crypto couple event) := by
  obtain ⟨rungs, ladder⟩ := kept
  cases event with
  | send sender plaintext nonce => exact ⟨trivial, _, ladder.send sender plaintext nonce⟩
  | deliver receiver position =>
    cases found : (talk.sent receiver.other)[position]? with
    | none =>
      have same : talk.step crypto couple (.deliver receiver position) = talk := by
        rw [Talk.step, found]
      rw [same]
      constructor
      · intro entry at'
        rw [found] at at'
        cases at'
      · exact ⟨rungs, ladder⟩
    | some entry =>
      have member : (entry.1, entry.2) ∈ talk.sent receiver.other := List.mem_of_getElem? found
      have same : talk.step crypto couple (.deliver receiver position) =
          talk.deliver crypto couple receiver entry.1 := by
        rw [Talk.step, found]
      rw [same]
      by_cases known : (entry.1.ourPub, entry.1.idx) ∈ talk.delivered receiver
      · constructor
        · intro other at' first
          rw [found] at at'
          cases at'
          exact absurd known first
        · obtain ⟨c, wrote, locked, _⟩ := (ladder.sends receiver.other).each _ member
          exact ladder.again ideal wrote locked known
      · have read := ladder.receive ideal member known (permitted.1 entry found known)
          (permitted.2 entry found known)
        constructor
        · intro other at' _
          rw [found] at at'
          cases at'
          exact read.1
        · exact read.2

/-- Within the budget, and where every first delivery is in turn, each envelope decrypts to its
plaintext the first time it is delivered. -/
theorem first_delivery_reads (ideal : Ideal crypto rank) (run : List TalkEvent)
    (permitted : Along (Talk.step crypto couple)
      (fun talk event => talk.WithinBudget event ∧ talk.InTurn crypto couple event)
      Talk.opened run) :
    Along (Talk.step crypto couple) (Talk.ReadsRight crypto couple)
      Talk.opened run :=
  along_of_invariant (Talk.step crypto couple)
    (fun talk => ∃ rungs, Ladder crypto couple rungs talk)
    (fun talk event => talk.WithinBudget event ∧ talk.InTurn crypto couple event)
    (Talk.ReadsRight crypto couple)
    (fun talk event kept permitted => (talk_step ideal talk event kept permitted).2)
    (fun talk event kept permitted => (talk_step ideal talk event kept permitted).1) run
    Talk.opened ⟨_, opened_ladder ideal⟩ permitted

end Runs

def couple : Couple := ⟨⟨"ann", "A"⟩, ⟨"bob", "B"⟩, by decide +kernel⟩

def skipping : List TalkEvent :=
  [.send .initiator "one" 0, .send .initiator "two" 1, .deliver .responder 1]

theorem skipping_reads :
    Ideal Terms.terms Terms.depth ∧
      Along (Talk.step Terms.terms couple) (Talk.ReadsRight Terms.terms couple) Talk.opened
        skipping :=
  ⟨Terms.terms_ideal, first_delivery_reads Terms.terms_ideal skipping (by decide +kernel)⟩

def earlyReply : List TalkEvent :=
  [.send .responder "hello" 0, .send .initiator "hello" 1, .deliver .responder 0]

theorem early_reply_unread :
    ¬ ∀ (couple : Couple) (run : List TalkEvent),
      Along (Talk.step Terms.terms couple) (fun talk => talk.WithinBudget) Talk.opened run →
        Along (Talk.step Terms.terms couple) (Talk.ReadsRight Terms.terms couple) Talk.opened
          run := by
  intro always
  have reads := always couple earlyReply (by decide +kernel)
  revert reads
  decide +kernel

end Hartos.Ratchet
