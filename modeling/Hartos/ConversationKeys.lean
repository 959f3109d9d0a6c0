import Hartos.Conversation

/-!
The keys of a conversation as a ladder.
-/
namespace Hartos.Ratchet
variable {Key Priv Pub Cipher : Type}

section Rungs
variable (crypto : Crypto Key Priv Pub Cipher) (secret : Key) (keys : Nat → Priv)

def rungDh (n : Nat) : Key := crypto.exchange (keys (n + 1)) (crypto.publicKey (keys n))

def rootAt : Nat → Key
  | 0 => secret
  | n + 1 => (crypto.kdfRoot (rootAt n) (rungDh crypto keys n)).1

def chainOf : Nat → Key
  | 0 => crypto.zero
  | 1 => crypto.zero
  | n + 2 => (crypto.kdfRoot (rootAt crypto secret keys n) (rungDh crypto keys n)).2

variable {rank : Key → Nat} (others : Nat → Priv)

theorem rootAt_congr (n : Nat) (same : ∀ i ≤ n, keys i = others i) :
    rootAt crypto secret keys n = rootAt crypto secret others n := by
  induction n with
  | zero => rfl
  | succ n ih =>
    rw [rootAt, rootAt, ih fun i below => same i (Nat.le_succ_of_le below), rungDh, rungDh,
      same n (Nat.le_succ n), same (n + 1) (Nat.le_refl _)]

theorem chainOf_congr (c : Nat) (same : ∀ i < c, keys i = others i) :
    chainOf crypto secret keys c = chainOf crypto secret others c := by
  match c with
  | 0 => rfl
  | 1 => rfl
  | n + 2 =>
      rw [chainOf, chainOf, rootAt_congr crypto secret keys others n
        fun i below => same i (by omega), rungDh, rungDh, same n (by omega),
        same (n + 1) (by omega)]

theorem rank_rootAt (ideal : Ideal crypto rank) (base : rank secret = 0) (n : Nat) :
    rank (rootAt crypto secret keys n) = n := by
  induction n with
  | zero => exact base
  | succ n ih => rw [rootAt, ideal.rank_root, ih]

-- A chain opened at a root no longer in use gives none of the keys of one opened at it.
theorem messageKey_stale (ideal : Ideal crypto rank) (base : rank secret = 0) (c place : Nat)
    (dh : Key) (below : c ≤ place) (first second : Nat) :
    messageKey crypto (chainOf crypto secret keys c) first ≠
      messageKey crypto (crypto.kdfRoot (rootAt crypto secret keys place) dh).2 second := by
  intro same
  match c with
  | 0 => exact chainAt_ne_zero ideal second first (ideal.messageKey_inj _ _ same.symm)
  | 1 => exact chainAt_ne_zero ideal second first (ideal.messageKey_inj _ _ same.symm)
  | n + 2 =>
      have roots := (messageKey_opened ideal same).2.1
      have ranks := congrArg rank roots
      rw [rank_rootAt crypto secret keys ideal base, rank_rootAt crypto secret keys ideal base]
        at ranks
      omega

end Rungs

structure Reads (place c : Nat) : Prop where
  opened : 1 ≤ c
  below : c ≤ place
  parity : c % 2 = place % 2

section Reading
variable (crypto : Crypto Key Priv Pub Cipher) (secret : Key) (keys : Nat → Priv)

/-- The reading half of a state. `read c` is one more than the last index read of chain `c`. -/
structure Reading (read : Nat → Nat) (place : Nat) (delivered : List (Pub × Nat))
    (state : RatchetState Key Priv Pub) : Prop where
  root : state.rootKey = rootAt crypto secret keys place
  priv : state.ourDhPriv = keys place
  pub : state.ourDhPub = crypto.publicKey (keys place)
  chain : state.receivingChainKey = chainAt crypto (chainOf crypto secret keys place) (read place)
  index : state.receivingIndex = read place
  aside : ∀ pub idx key, state.skippedKeys (pub, idx) = some key ↔
    ∃ c, Reads place c ∧ pub = crypto.publicKey (keys (c - 1)) ∧ idx < read c ∧
      (pub, idx) ∉ delivered ∧ key = messageKey crypto (chainOf crypto secret keys c) idx
  come : ∀ pub idx, (pub, idx) ∈ delivered →
    ∃ c, Reads place c ∧ pub = crypto.publicKey (keys (c - 1)) ∧ idx < read c

variable {crypto secret keys} {read : Nat → Nat} {place : Nat} {delivered : List (Pub × Nat)}
  {state : RatchetState Key Priv Pub}

namespace Reading

/-- Only what the state holds, not what it sends, matters. -/
theorem same (reading : Reading crypto secret keys read place delivered state)
    (after : RatchetState Key Priv Pub) (root : after.rootKey = state.rootKey)
    (priv : after.ourDhPriv = state.ourDhPriv) (pub : after.ourDhPub = state.ourDhPub)
    (chain : after.receivingChainKey = state.receivingChainKey)
    (index : after.receivingIndex = state.receivingIndex)
    (skipped : after.skippedKeys = state.skippedKeys) :
    Reading crypto secret keys read place delivered after where
  root := root.trans reading.root
  priv := priv.trans reading.priv
  pub := pub.trans reading.pub
  chain := chain.trans reading.chain
  index := index.trans reading.index
  aside := skipped ▸ reading.aside
  come := reading.come

theorem again (reading : Reading crypto secret keys read place delivered state) (slot : Pub × Nat)
    (known : slot ∈ delivered) :
    Reading crypto secret keys read place (slot :: delivered) state := by
  have members (other : Pub × Nat) : other ∈ slot :: delivered ↔ other ∈ delivered := by
    constructor
    · intro member
      rcases List.mem_cons.mp member with rfl | old
      · exact known
      · exact old
    · exact List.mem_cons_of_mem slot
  constructor
  · exact reading.root
  · exact reading.priv
  · exact reading.pub
  · exact reading.chain
  · exact reading.index
  · intro pub idx key
    rw [members, reading.aside]
  · intro pub idx member
    exact reading.come pub idx ((members _).mp member)

theorem used [DecidableEq Pub] (reading : Reading crypto secret keys read place delivered state)
    (c idx : Nat) (reads : Reads place c) (before : idx < read c) :
    Reading crypto secret keys read place
      ((crypto.publicKey (keys (c - 1)), idx) :: delivered)
      { state with
        skippedKeys :=
          Function.update state.skippedKeys (crypto.publicKey (keys (c - 1)), idx) none } := by
  constructor
  · exact reading.root
  · exact reading.priv
  · exact reading.pub
  · exact reading.chain
  · exact reading.index
  · intro pub other key
    simp only [Function.update_apply]
    by_cases here : (pub, other) = (crypto.publicKey (keys (c - 1)), idx)
    · simp [here]
    · rw [if_neg here, reading.aside]
      simp only [List.mem_cons, here, false_or]
  · intro pub other member
    rcases List.mem_cons.mp member with same | old
    · cases same
      exact ⟨c, reads, rfl, before⟩
    · exact reading.come pub other old

theorem further [DecidableEq Pub] (reading : Reading crypto secret keys read place delivered state)
    (apart : ∀ i j, i < place → j < place →
      crypto.publicKey (keys i) = crypto.publicKey (keys j) → i = j)
    (started : 1 ≤ place) (idx : Nat) (ahead : read place ≤ idx) :
    Reading crypto secret keys (Function.update read place (idx + 1)) place
      ((crypto.publicKey (keys (place - 1)), idx) :: delivered)
      { withAside crypto state (chainOf crypto secret keys place)
          (crypto.publicKey (keys (place - 1))) idx with
        receivingChainKey := chainAt crypto (chainOf crypto secret keys place) (idx + 1)
        receivingIndex := idx + 1 } := by
  have samePlace {c : Nat} (reads : Reads place c)
      (pub : crypto.publicKey (keys (place - 1)) = crypto.publicKey (keys (c - 1))) :
      c = place := by
    have inside := reads.below
    have opened := reads.opened
    have equal := apart (place - 1) (c - 1) (by omega) (by omega) pub
    omega
  have grows (c : Nat) : read c ≤ Function.update read place (idx + 1) c := by
    by_cases here : c = place
    · subst here
      simp only [Function.update_self]
      omega
    · simp [here]
  constructor
  · exact reading.root
  · exact reading.priv
  · exact reading.pub
  · simp
  · simp
  · intro pub other key
    simp only [withAside, reading.index, List.mem_cons, Prod.mk.injEq, not_or]
    constructor
    · intro found
      split at found
      next inside =>
        obtain ⟨rfl, least, less⟩ := inside
        refine ⟨place, ⟨started, Nat.le_refl _, rfl⟩, rfl, ?_, ⟨by simp; omega, ?_⟩, ?_⟩
        · simp only [Function.update_self]
          omega
        · intro old
          obtain ⟨c, reads, pub, before⟩ := reading.come _ _ old
          rw [samePlace reads pub] at before
          omega
        · exact (Option.some.inj found).symm
      next outside =>
        obtain ⟨c, reads, rfl, before, fresh, rfl⟩ := (reading.aside _ _ _).mp found
        refine ⟨c, reads, rfl, lt_of_lt_of_le before (grows c), ⟨?_, fresh⟩, rfl⟩
        rintro ⟨pub, rfl⟩
        rw [samePlace reads pub.symm] at before
        omega
    · rintro ⟨c, reads, rfl, before, ⟨other', fresh⟩, rfl⟩
      by_cases here : c = place
      · subst here
        simp only [Function.update_self] at before
        have less : other < idx := by
          rcases Nat.lt_or_ge other idx with less | least
          · exact less
          · exact absurd ⟨rfl, by omega⟩ other'
        by_cases least : read c ≤ other
        · rw [if_pos ⟨rfl, least, less⟩]
        · rw [if_neg fun inside => least inside.2.1]
          exact (reading.aside _ _ _).mpr ⟨c, reads, rfl, by omega, fresh, rfl⟩
      · rw [if_neg fun inside => here (samePlace reads inside.1.symm)]
        rw [Function.update_of_ne here] at before
        exact (reading.aside _ _ _).mpr ⟨c, reads, rfl, before, fresh, rfl⟩
  · intro pub other member
    rcases List.mem_cons.mp member with same | old
    · cases same
      refine ⟨place, ⟨started, Nat.le_refl _, rfl⟩, rfl, ?_⟩
      simp
    · obtain ⟨c, reads, rfl, before⟩ := reading.come pub other old
      exact ⟨c, reads, rfl, lt_of_lt_of_le before (grows c)⟩

section

variable (reading : Reading crypto secret keys read place delivered state) {rank : Key → Nat}
  (ideal : Ideal crypto rank) (fresh : Priv)
include reading ideal

/-- The root a climb starts at, and what it agrees on with the two keys above it. -/
theorem climb_roots :
    rootAt crypto secret (Function.update keys (place + 2) fresh) place = state.rootKey ∧
      crypto.exchange state.ourDhPriv (crypto.publicKey (keys (place + 1))) =
        rungDh crypto (Function.update keys (place + 2) fresh) place ∧
      crypto.exchange fresh (crypto.publicKey (keys (place + 1))) =
        rungDh crypto (Function.update keys (place + 2) fresh) (place + 1) := by
  have below (i : Nat) (less : i < place + 2) : Function.update keys (place + 2) fresh i = keys i :=
    Function.update_of_ne (by omega) _ _
  constructor
  · rw [reading.root]
    exact rootAt_congr crypto secret _ _ place fun i inside => below i (by omega)
  · constructor
    · rw [rungDh, below (place + 1) (by omega), below place (by omega), reading.priv,
        ideal.exchange_comm]
    · rw [rungDh, below (place + 1) (by omega), Function.update_self]

theorem climb_chain :
    (advanceDhRatchet crypto state (crypto.publicKey (keys (place + 1))) fresh).sendingChainKey =
      chainOf crypto secret (Function.update keys (place + 2) fresh) (place + 3) := by
  obtain ⟨root, first, second⟩ := reading.climb_roots ideal fresh
  simp only [advanceDhRatchet, first, second, ← root]
  rfl

/-- The first message of a new chain moves the reader up. -/
theorem climb (unread : read (place + 2) = 0) :
    Reading crypto secret (Function.update keys (place + 2) fresh) read (place + 2) delivered
      (advanceDhRatchet crypto state (crypto.publicKey (keys (place + 1))) fresh) := by
  have below (i : Nat) (less : i < place + 2) : Function.update keys (place + 2) fresh i = keys i :=
    Function.update_of_ne (by omega) _ _
  have chains (c : Nat) (inside : c ≤ place + 2) :
      chainOf crypto secret (Function.update keys (place + 2) fresh) c =
        chainOf crypto secret keys c :=
    chainOf_congr crypto secret _ _ c fun i less => below i (by omega)
  obtain ⟨root, first, second⟩ := reading.climb_roots ideal fresh
  have stays (c : Nat) : Reads (place + 2) c ↔ Reads place c ∨ c = place + 2 := by
    constructor
    · intro reads
      have opened := reads.opened
      have inside := reads.below
      have parity := reads.parity
      by_cases new : c = place + 2
      · exact Or.inr new
      · exact Or.inl ⟨opened, by omega, by omega⟩
    · rintro (reads | rfl)
      · exact ⟨reads.opened, by have := reads.below; omega, by have := reads.parity; omega⟩
      · exact ⟨by omega, Nat.le_refl _, rfl⟩
  constructor
  · simp only [advanceDhRatchet, first, second, ← root]
    rfl
  · simp [advanceDhRatchet]
  · simp [advanceDhRatchet]
  · simp only [advanceDhRatchet, first, ← root, unread]
    rfl
  · simp [advanceDhRatchet, unread]
  · intro pub idx key
    simp only [advanceDhRatchet, reading.aside, stays]
    constructor
    · rintro ⟨c, reads, rfl, before, unused, rfl⟩
      have inside := reads.below
      exact ⟨c, Or.inl reads, by rw [below (c - 1) (by omega)], before, unused,
        by rw [chains c (by omega)]⟩
    · rintro ⟨c, reads | rfl, rfl, before, unused, rfl⟩
      · have inside := reads.below
        exact ⟨c, reads, by rw [below (c - 1) (by omega)], before, unused,
          by rw [chains c (by omega)]⟩
      · omega
  · intro pub idx member
    obtain ⟨c, reads, rfl, before⟩ := reading.come pub idx member
    have inside := reads.below
    exact ⟨c, (stays c).mpr (Or.inl reads), by rw [below (c - 1) (by omega)], before⟩

end

end Reading
end Reading

structure Locked (crypto : Crypto Key Priv Pub Cipher) (secret : Key) (keys : Nat → Priv) (c : Nat)
    (envelope : Envelope Pub Cipher) (plaintext : String) : Prop where
  pub : envelope.ourPub = crypto.publicKey (keys (c - 1))
  cipher : envelope.ciphertext =
    crypto.gcmEncrypt (messageKey crypto (chainOf crypto secret keys c) envelope.idx)
      envelope.nonce plaintext (envelope.ourPub, envelope.idx)

section Outcomes
variable {crypto : Crypto Key Priv Pub Cipher} {rank : Key → Nat} {secret : Key}
  {keys : Nat → Priv} {read : Nat → Nat} {place : Nat} {delivered : List (Pub × Nat)}
  {state : RatchetState Key Priv Pub} {envelope : Envelope Pub Cipher} {plaintext : String}
  {c : Nat}

namespace Reading

theorem along (reading : Reading crypto secret keys read place delivered state) :
    state.receivingChainKey =
      chainAt crypto (chainOf crypto secret keys place) state.receivingIndex := by
  rw [reading.chain, reading.index]

theorem not_aside (reading : Reading crypto secret keys read place delivered state)
    (envelope : Envelope Pub Cipher)
    (ahead : ∀ chain, Reads place chain →
      envelope.ourPub = crypto.publicKey (keys (chain - 1)) → read chain ≤ envelope.idx) :
    state.skippedKeys (envelope.ourPub, envelope.idx) = none := by
  cases found : state.skippedKeys (envelope.ourPub, envelope.idx) with
  | none => rfl
  | some key =>
    obtain ⟨chain, reads, pub, before, _⟩ := (reading.aside _ _ _).mp found
    exact absurd before (Nat.not_lt.mpr (ahead chain reads pub))

variable [DecidableEq Pub]

theorem opens_aside (ideal : Ideal crypto rank)
    (reading : Reading crypto secret keys read place delivered state) (reads : Reads place c)
    (before : envelope.idx < read c) (first : (envelope.ourPub, envelope.idx) ∉ delivered)
    (locked : Locked crypto secret keys c envelope plaintext) (fresh : Priv) :
    decryptMessage crypto state envelope fresh =
      .ok ({ state with
        skippedKeys := Function.update state.skippedKeys (envelope.ourPub, envelope.idx) none },
          plaintext) := by
  have found : state.skippedKeys (envelope.ourPub, envelope.idx) =
      some (messageKey crypto (chainOf crypto secret keys c) envelope.idx) :=
    (reading.aside _ _ _).mpr ⟨c, reads, locked.pub, before, first, rfl⟩
  have opens := ideal.decrypt_encrypt
    (messageKey crypto (chainOf crypto secret keys c) envelope.idx) envelope.nonce plaintext
    (envelope.ourPub, envelope.idx)
  rw [← locked.cipher] at opens
  rw [decryptMessage, found]
  dsimp only
  rw [opens]

theorem opens_next (ideal : Ideal crypto rank)
    (reading : Reading crypto secret keys read place delivered state)
    (their : state.theirDhPub = some envelope.ourPub)
    (none : state.skippedKeys (envelope.ourPub, envelope.idx) = none)
    (ahead : read place ≤ envelope.idx)
    (budget : envelope.idx - read place ≤ MAX_SKIPPED_MESSAGES)
    (locked : Locked crypto secret keys place envelope plaintext) (fresh : Priv) :
    decryptMessage crypto state envelope fresh =
      .ok ({ withAside crypto state (chainOf crypto secret keys place) envelope.ourPub
          envelope.idx with
        receivingChainKey := chainAt crypto (chainOf crypto secret keys place) (envelope.idx + 1)
        receivingIndex := envelope.idx + 1 }, plaintext) := by
  rw [decryptMessage, none]
  rw [if_pos their]
  exact decryptInChain_ok ideal state envelope _ plaintext reading.along
    (reading.index ▸ ahead) (reading.index ▸ budget) locked.cipher

theorem closed (ideal : Ideal crypto rank) (base : rank secret = 0)
    (reading : Reading crypto secret keys read place delivered state)
    (their : state.theirDhPub = some (crypto.publicKey (keys (place - 1))))
    (apart : ∀ chain, Reads place chain →
      crypto.publicKey (keys (chain - 1)) = crypto.publicKey (keys (c - 1)) → chain = c)
    (started : 1 ≤ place) (below : c ≤ place)
    (known : (envelope.ourPub, envelope.idx) ∈ delivered)
    (locked : Locked crypto secret keys c envelope plaintext) (fresh : Priv) :
    ∃ error, decryptMessage crypto state envelope fresh = .error error := by
  have none : state.skippedKeys (envelope.ourPub, envelope.idx) = none := by
    cases found : state.skippedKeys (envelope.ourPub, envelope.idx) with
    | none => rfl
    | some key =>
      obtain ⟨_, _, _, _, first, _⟩ := (reading.aside _ _ _).mp found
      exact absurd known first
  obtain ⟨chain, reads, pub, before⟩ := reading.come _ _ known
  have mine : chain = c := apart chain reads (pub.symm.trans locked.pub)
  subst mine
  rw [decryptMessage, none]
  by_cases here : chain = place
  · subst here
    rw [if_pos (locked.pub ▸ their)]
    exact ⟨.replay, by rw [decryptInChain, if_pos (reading.index ▸ before)]⟩
  · have other : state.theirDhPub ≠ some envelope.ourPub := by
      rw [their, locked.pub]
      intro same
      exact here (apart place ⟨started, Nat.le_refl _, rfl⟩ (Option.some.inj same)).symm
    rw [if_neg other]
    -- The reader steps to a root that no chain below its place was opened at.
    apply decryptInChain_wrong ideal _ envelope
      (crypto.kdfRoot state.rootKey (crypto.exchange state.ourDhPriv envelope.ourPub)).2 _
      plaintext rfl locked.cipher
    rw [reading.root]
    exact messageKey_stale crypto secret keys ideal base chain place _ below _ _

end Reading
end Outcomes

end Hartos.Ratchet
