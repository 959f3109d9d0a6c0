import Hartos.KeyAccounts

/-!
Along a run of the pipeline whose saves lose nothing, every key is used once.
-/
namespace Hartos.Ratchet
variable {Key Priv Pub Cipher : Type} {crypto : Crypto Key Priv Pub Cipher} {userId : String}
variable {rank : Key → Nat} {rootOf : Pub → Key} {world : World Key Priv Pub Cipher}
variable {pair : Pair} {row after : RatchetState Key Priv Pub}

section Order
variable {sent : RatchetState Key Priv Pub}

theorem Before.sending (behind : Before rank sent row) (same : SameSending row after) :
    Before rank sent after := by
  unfold Before
  rw [same.rootKey, same.index]
  exact behind

theorem Before.encrypt {plaintext : String} {nonce : Nat} {envelope : Envelope Pub Cipher}
    (made : encryptMessage crypto row plaintext nonce = .ok (after, envelope))
    (behind : Before rank sent row ∨ sent = row) : Before rank sent after := by
  unfold encryptMessage at made
  split at made
  · cases made
  · cases made
    rcases behind with (earlier | ⟨same, less⟩) | rfl
    · exact Or.inl earlier
    · exact Or.inr ⟨same, less.trans (Nat.lt_succ_self _)⟩
    · exact Or.inr ⟨rfl, Nat.lt_succ_self _⟩

theorem Before.advance (ideal : Ideal crypto rank) {theirNewDhPub : Pub} {fresh : Priv}
    (behind : Before rank sent row) :
    Before rank sent (advanceDhRatchet crypto row theirNewDhPub fresh) := by
  have later : rank (advanceDhRatchet crypto row theirNewDhPub fresh).rootKey =
      rank row.rootKey + 1 + 1 :=
    (ideal.rank_root _ _).trans (congrArg Nat.succ (ideal.rank_root _ _))
  refine Or.inl ?_
  rcases behind with earlier | ⟨same, _⟩
  · omega
  · rw [same, later]
    omega

end Order

/-- The header of an envelope is its sender's position, and encrypting keeps key pair and root. -/
theorem encryptMessage_header {plaintext : String} {nonce : Nat} {envelope : Envelope Pub Cipher}
    (made : encryptMessage crypto row plaintext nonce = .ok (after, envelope)) :
    envelope.ourPub = row.ourDhPub ∧ envelope.idx = row.sendingIndex ∧
      after.ourDhPub = row.ourDhPub ∧ after.rootKey = row.rootKey := by
  unfold encryptMessage at made
  split at made
  · cases made
  · cases made
    exact ⟨rfl, rfl, rfl, rfl⟩

namespace Accounted
variable (ideal : Ideal crypto rank)
include ideal

theorem pair_eq (accounted : Accounted crypto userId rank rootOf world) {other : Pair}
    {held : RatchetState Key Priv Pub}
    (left : HasGround crypto userId world.bootstraps world.drawn pair row)
    (right : HasGround crypto userId world.bootstraps world.drawn other held)
    (same : row.rootKey = held.rootKey) : pair = other := by
  obtain ⟨first, left⟩ := left
  obtain ⟨second, right⟩ := right
  exact accounted.owned _ left.logged _ right.logged
    (derived_input ideal (same ▸ left.derived) right.derived)

variable [DecidableEq Pub]

theorem bootstrap (accounted : Accounted crypto userId rank rootOf world) (thread : Nat)
    (work : Work Key Priv Pub Cipher) (held : world.work thread = some work)
    (missing : work.row = none)
    (unused : ∀ earlier ∈ world.bootstraps, earlier.2 ≠ bootstrapInput work.user work.peer) :
    ∃ rootOf, Accounted crypto userId rank rootOf (world.bootstrap crypto thread work) := by
  obtain ⟨mine, prepared⟩ := accounted.works thread work held
  let state := bootstrapPair crypto work.user work.peer (work.user.id < work.peer.id)
  have ground : Grounded crypto userId ((work.pair, bootstrapInput work.user work.peer) :: world.bootstraps)
      world.drawn work.pair (bootstrapInput work.user work.peer) state :=
    mine ▸ bootstrapPair_grounded work.user work.peer _ List.mem_cons_self
  have named : state.ourDhPub = crypto.publicKey
      (crypto.bootKey (crypto.sha256 (bootstrapInput work.user work.peer)) work.user.id) := by
    cases decided : decide (work.user.id < work.peer.id) <;> simp only [state, decided] <;> rfl
  -- Nothing yet is under the key pair of this secret.
  have unseen : ∀ pair row, HasGround crypto userId world.bootstraps world.drawn pair row →
      row.ourDhPub ≠ state.ourDhPub := by
    rintro pair row ⟨input, other⟩ same
    rcases other.pub with boot | ⟨draw, _, drawn⟩
    · have both := ideal.boot_inj _ _ _ _
        (ideal.publicKey_inj _ _ (boot.symm.trans (same.trans named)))
      exact unused _ other.logged both.1
    · exact ideal.generate_ne_boot _ _ _
        (ideal.publicKey_inj _ _ (drawn.symm.trans (same.trans named)))
  refine ⟨Function.update rootOf state.ourDhPub state.rootKey, ?_⟩
  have renamed := accounted.name state.ourDhPub state.rootKey
    (fun pair row found => unseen pair row (accounted.rows pair row found).1)
    (fun sent among => unseen _ _ (accounted.sent sent among).1)
  apply setWork ((renamed.log work.pair _ unused).put work.pair state ⟨_, ground⟩
    (Function.update_self ..) _) thread (some { work with row := some state })
  · rintro _ ⟨⟩
    refine ⟨mine, fun after envelope outgoing => ?_⟩
    obtain ⟨row, _, _, found, _⟩ := prepared after envelope outgoing
    rw [missing] at found
    cases found
  · intro sent among _ input derived derived'
    obtain ⟨⟨earlier, other⟩, _⟩ := accounted.sent sent among
    have first := derived_input ideal other.derived derived
    have second := derived_input ideal ground.derived derived'
    exact absurd (first.trans second.symm) (unused _ other.logged)

omit ideal [DecidableEq Pub] in
theorem encrypt (accounted : Accounted crypto userId rank rootOf world) (thread : Nat)
    (work : Work Key Priv Pub Cipher) (held : world.work thread = some work)
    (found : work.row = some row) (known : row.theirDhPub.isSome) (plaintext : String) (nonce : Nat) :
    Accounted crypto userId rank rootOf
      (world.encrypt crypto thread work row plaintext nonce) := by
  apply accounted.setWork
  rintro _ ⟨⟩
  refine ⟨(accounted.works thread work held).1, fun after envelope outgoing => ?_⟩
  have own : withPeerKey crypto row work.user work.peer = row := by
    unfold withPeerKey
    split
    · rfl
    next absent =>
      rw [absent] at known
      cases known
  rw [own] at outgoing
  cases made : encryptMessage crypto row plaintext nonce with
  | error error =>
    rw [made] at outgoing
    cases outgoing
  | ok both =>
    rw [made] at outgoing
    cases outgoing
    exact ⟨row, plaintext, nonce, found, known, made⟩

omit [DecidableEq Pub] in
theorem save (accounted : Accounted crypto userId rank rootOf world) (thread : Nat)
    (work : Work Key Priv Pub Cipher) (held : world.work thread = some work)
    (found : work.row = some row) {envelope : Envelope Pub Cipher}
    (outgoing : work.outgoing = some (after, envelope)) (current : world.stored work.pair = some row) :
    Accounted crypto userId rank rootOf (world.save thread work row after envelope) := by
  obtain ⟨loaded, plaintext, nonce, same, known, made⟩ :=
    (accounted.works thread work held).2 after envelope outgoing
  cases found.symm.trans same
  obtain ⟨ourPub, idx, pub, root⟩ := encryptMessage_header made
  obtain ⟨⟨input, ground⟩, named⟩ := accounted.rows work.pair row current
  have replaced := (accounted.put work.pair after ⟨input, ground.encrypt made⟩
    (by rw [pub, root, named]) (fun sent among same input derived derived' =>
      Before.encrypt made (Or.inl (accounted.before sent among row input (same ▸ current) derived
        (root ▸ derived'))))).setWork thread none (fun _ absent => nomatch absent)
  apply replaced.record ⟨work.pair, row, envelope⟩ ⟨input, ground⟩ named ⟨known, ourPub, idx⟩
  · intro next stored
    simp only [Function.update_self] at stored
    cases stored
    exact Before.encrypt made (Or.inr rfl)
  · -- An envelope of this root key is the same pair's, and the row is past it.
    intro earlier among rooted
    have ours := accounted.sent earlier among
    have paired := accounted.pair_eq ideal ours.1 ⟨input, ground⟩ rooted.symm
    have behind := accounted.before earlier among row input (paired ▸ current)
      (rooted ▸ ground.derived) ground.derived
    rcases behind with lower | ⟨_, less⟩
    · rw [← rooted] at lower
      exact absurd lower (lt_irrefl _)
    · exact less.ne'

theorem receive (accounted : Accounted crypto userId rank rootOf world) (thread : Nat)
    (work : Work Key Priv Pub Cipher) (envelope : Envelope Pub Cipher)
    (current : (decryptMessage crypto row envelope (crypto.generate world.drawn)).isOk →
      world.stored work.pair = some row) :
    ∃ rootOf, Accounted crypto userId rank rootOf
      (world.receive crypto thread work row envelope) := by
  unfold World.receive
  cases opened : decryptMessage crypto row envelope (crypto.generate world.drawn) with
  | error error =>
    exact ⟨rootOf, (accounted.draw.setWork thread none fun _ absent => nomatch absent)⟩
  | ok both =>
    obtain ⟨after, plaintext⟩ := both
    rw [opened] at current
    have stored := current rfl
    obtain ⟨⟨input, ground⟩, named⟩ := accounted.rows work.pair row stored
    have behind : ∀ sent ∈ world.sent, sent.pair = work.pair → ∀ other,
        Derived crypto (crypto.sha256 other) sent.state.rootKey →
          Derived crypto (crypto.sha256 other) row.rootKey → Before rank sent.state row :=
      fun sent among same other => accounted.before sent among row other (same ▸ stored)
    rcases decryptMessage_sending crypto opened with same | same
    · refine ⟨rootOf, (accounted.draw.put work.pair after ?_ ?_ ?_).setWork thread none
        fun _ absent => nomatch absent⟩
      · exact ⟨input, (ground.sending same).mono (fun _ among => among) (Nat.le_succ _)⟩
      · rw [same.pub, same.rootKey, named]
      · intro sent among paired other derived derived'
        exact (behind sent among paired other derived (same.rootKey ▸ derived')).sending same
    · let advanced := advanceDhRatchet crypto row envelope.ourPub (crypto.generate world.drawn)
      have next := ground.advance envelope.ourPub
      -- The key drawn is under no row and no envelope.
      have unseen : ∀ pair row, HasGround crypto userId world.bootstraps world.drawn pair row →
          row.ourDhPub ≠ advanced.ourDhPub := by
        rintro pair row ⟨input, other⟩ same
        rcases other.pub with boot | ⟨draw, earlier, drawn⟩
        · exact ideal.generate_ne_boot _ _ _
            (ideal.publicKey_inj _ _ (same.symm.trans boot))
        · exact earlier.ne (ideal.generate_inj _ _
            (ideal.publicKey_inj _ _ (drawn.symm.trans same)))
      have renamed := accounted.name advanced.ourDhPub advanced.rootKey
        (fun pair row found => unseen pair row (accounted.rows pair row found).1)
        (fun sent among => unseen _ _ (accounted.sent sent among).1)
      refine ⟨_, (renamed.draw.put work.pair after ⟨input, next.sending same⟩ ?_ ?_).setWork thread
        none fun _ absent => nomatch absent⟩
      · rw [same.pub, same.rootKey]
        exact Function.update_self ..
      · intro sent among paired other derived derived'
        have source := derived_input ideal derived' (next.sending same).derived
        subst source
        exact ((behind sent among paired other derived ground.derived).advance ideal).sending same

theorem step (accounted : Accounted crypto userId rank rootOf world) (event : Event Pub Cipher)
    (unshared : Unshared crypto world event) :
    ∃ rootOf, Accounted crypto userId rank rootOf (world.step crypto userId event) := by
  cases event with
  | load thread conversation identityKey peer =>
    refine ⟨rootOf, accounted.setWork thread _ ?_⟩
    rintro _ ⟨⟩
    exact ⟨rfl, fun _ _ absent => nomatch absent⟩
  | bootstrap thread =>
    cases held : world.work thread with
    | none => exact ⟨rootOf, by simpa only [World.step, held] using accounted⟩
    | some work =>
      cases found : work.row with
      | some row =>
        exact ⟨rootOf, by
          simpa only [World.step, held, found, Option.isNone_some, Bool.false_eq_true, if_false]
            using accounted⟩
      | none =>
        simp only [World.step, held, found, Option.isNone_none, if_true]
        exact accounted.bootstrap ideal thread work held found (unshared work held found)
  | encrypt thread plaintext nonce =>
    cases held : world.work thread with
    | none => exact ⟨rootOf, by simpa only [World.step, held] using accounted⟩
    | some work =>
      cases found : work.row with
      | none => exact ⟨rootOf, by simpa only [World.step, held, found] using accounted⟩
      | some row =>
        simp only [World.step, held, found]
        exact ⟨rootOf, accounted.encrypt thread work held found (unshared work held row found)
          plaintext nonce⟩
  | save thread =>
    cases held : world.work thread with
    | none => exact ⟨rootOf, by simpa only [World.step, held] using accounted⟩
    | some work =>
      cases found : work.row with
      | none => exact ⟨rootOf, by simpa only [World.step, held, found] using accounted⟩
      | some row =>
        cases outgoing : work.outgoing with
        | none => exact ⟨rootOf, by simpa only [World.step, held, found, outgoing] using accounted⟩
        | some both =>
          simp only [World.step, held, found, outgoing]
          have current := unshared work held (by rw [outgoing]; rfl)
          exact ⟨rootOf, accounted.save ideal thread work held found outgoing
            (current.trans found)⟩
  | receive thread envelope =>
    cases held : world.work thread with
    | none => exact ⟨rootOf, by simpa only [World.step, held] using accounted⟩
    | some work =>
      cases found : work.row with
      | none => exact ⟨rootOf, by simpa only [World.step, held, found] using accounted⟩
      | some row =>
        simp only [World.step, held, found]
        exact accounted.receive ideal thread work envelope
          fun opened => (unshared work held row found opened).trans found
  | deleteForConversation conversation => exact ⟨rootOf, accounted.forget conversation⟩

omit [DecidableEq Pub] in
theorem keysApart (accounted : Accounted crypto userId rank rootOf world) :
    KeysApart crypto world := by
  have opened : ∀ sent ∈ world.sent, ∃ input key dh, (sent.pair, input) ∈ world.bootstraps ∧
      Derived crypto (crypto.sha256 input) key ∧ sent.state.rootKey = (crypto.kdfRoot key dh).1 ∧
      sent.state.sendingChainKey = chainAt crypto (crypto.kdfRoot key dh).2 sent.envelope.idx := by
    intro sent among
    obtain ⟨input, ground⟩ := (accounted.sent sent among).1
    obtain ⟨known, _, idx⟩ := accounted.header sent among
    obtain ⟨key, dh, derived, root, chain⟩ := ground.opened known
    exact ⟨input, key, dh, ground.logged, derived, root, idx ▸ chain⟩
  constructor
  · intro sent among
    obtain ⟨input, key, dh, logged, derived, _, chain⟩ := opened sent among
    refine ⟨⟨input, key, dh, logged, derived, chain⟩, fun steps same => ?_⟩
    exact chainAt_ne_zero ideal _ steps (chain.symm.trans same)
  · refine accounted.apart.imp_of_mem fun {later earlier} among also apart => ⟨fun same => ?_, fun same => ?_⟩
    · obtain ⟨_, ourPub, idx⟩ := accounted.header later among
      obtain ⟨_, ourPub', idx'⟩ := accounted.header earlier also
      obtain ⟨pubs, indices⟩ := Prod.mk.inj same
      apply apart
      · rw [← (accounted.sent later among).2, ← (accounted.sent earlier also).2, ← ourPub, pubs,
          ourPub']
      · rw [← idx, indices, idx']
    · obtain ⟨_, key, dh, _, _, root, chain⟩ := opened later among
      obtain ⟨_, key', dh', _, _, root', chain'⟩ := opened earlier also
      unfold Sent.messageKey at same
      rw [chain, chain'] at same
      obtain ⟨indices, keys, dhs⟩ := messageKey_opened ideal same
      apply apart
      · rw [root, root', keys, dhs]
      · rw [← (accounted.header later among).2.2, indices, (accounted.header earlier also).2.2]

end Accounted

/-- While every bootstrap has a secret of its own, every send a peer key and no save undoes
another, each envelope has a position and a key of its own under a chain from the secret. -/
theorem keys_apart [DecidableEq Pub] (ideal : Ideal crypto rank) (userId : String)
    (run : List (Event Pub Cipher))
    (unshared : StepSystem.Along (World.step crypto userId) (Unshared crypto) World.initial run) :
    StepSystem.Always (World.step crypto userId) (KeysApart crypto) World.initial run :=
  StepSystem.always_of_invariant (World.step crypto userId)
    (fun world => ∃ rootOf, Accounted crypto userId rank rootOf world) (KeysApart crypto)
    (Unshared crypto)
    (fun _ event ⟨_, accounted⟩ held => accounted.step ideal event held)
    (fun _ ⟨_, accounted⟩ => accounted.keysApart ideal) run World.initial
    ⟨fun _ => crypto.zero, Accounted.initial⟩ unshared

section Runs
open Terms

def alice : String := "alice"
def bob : Member := ⟨"bob", "kb"⟩

def twoSends : List (Event Terms.Priv Sealed) :=
  [.load 0 "c" "ka" bob, .bootstrap 0, .encrypt 0 "hi" 0, .save 0,
    .load 0 "c" "ka" bob, .encrypt 0 "ho" 1, .save 0]

theorem keys_apart_twoSends :
    StepSystem.Always (World.step terms alice) (KeysApart terms) World.initial twoSends := by
  apply keys_apart terms_ideal alice twoSends
  have before : decide (alice < bob.id) = true := by decide +kernel
  simp only [twoSends, StepSystem.Along, Unshared, World.step, World.load, World.initial,
    World.bootstrap, World.encrypt, World.save, Work.pair, bootstrapPair, initRatchet, withPeerKey,
    encryptMessage, before, Function.update_self, Except.toOption, Option.isNone_none, if_true]
  simp

def zed : String := "zed"

def earlySend : List (Event Terms.Priv Sealed) :=
  [.load 0 "c" "kz" bob, .bootstrap 0, .encrypt 0 "hi" 0, .save 0]

def crossedSends : List (Event Terms.Priv Sealed) :=
  [.load 0 "c" "ka" bob, .bootstrap 0, .load 1 "c" "ka" bob, .encrypt 0 "hi" 0, .encrypt 1 "ho" 1,
    .save 0, .save 1]

def twoConversations : List (Event Terms.Priv Sealed) :=
  [.load 0 "c" "ka" bob, .bootstrap 0, .encrypt 0 "hi" 0, .save 0,
    .load 0 "d" "ka" bob, .bootstrap 0, .encrypt 0 "ho" 1, .save 0]

def reached (userId : String) (run : List (Event Terms.Priv Sealed)) :
    World Term Terms.Priv Terms.Priv Sealed :=
  StepSystem.final (World.step terms userId) World.initial run

def trace (sent : Sent Term Terms.Priv Terms.Priv Sealed) : (Terms.Priv × Nat) × Term :=
  ((sent.envelope.ourPub, sent.envelope.idx), sent.state.sendingChainKey)

theorem keys_repeat :
    ¬ KeysApart terms (reached zed earlySend) ∧ ¬ KeysApart terms (reached alice crossedSends) ∧
      ¬ KeysApart terms (reached alice twoConversations) := by
  have traces : (∃ found ∈ (reached zed earlySend).sent.map trace, found.2 = Term.zero) ∧
      ¬ ((reached alice crossedSends).sent.map trace).Pairwise (fun later earlier =>
        later.1 ≠ earlier.1) ∧
      ¬ ((reached alice twoConversations).sent.map trace).Pairwise (fun later earlier =>
        later.1 ≠ earlier.1) := by
    decide +kernel
  obtain ⟨⟨_, among, zero⟩, crossed, twice⟩ := traces
  refine ⟨fun apart => ?_, fun apart => crossed ?_, fun apart => twice ?_⟩
  · obtain ⟨sent, member, rfl⟩ := List.mem_map.mp among
    exact (apart.1 sent member).2 0 zero
  · exact List.pairwise_map.mpr (apart.2.imp fun both => both.1)
  · exact List.pairwise_map.mpr (apart.2.imp fun both => both.1)

end Runs
end Hartos.Ratchet
