import Hartos.PeerLink
import Hartos.StepSystem

/-!
One handshake between two nodes, and the frames they send each other afterwards: whether the two
ends agree on what is sealed, and with which key.
-/
namespace Hartos.PeerLink
open StepSystem

structure Node.Honest (p : Primitives) (node : Node) : Prop where
  key : node.ed25519Public ≠ ""
  signs : ∀ text, node.sign text ≠ ""
  verifies : ∀ text signed,
    p.verify node.ed25519Public text (node.sign signed) = true ↔ text = signed

structure Aead.Lawful (aead : Aead) : Prop where
  decrypts : ∀ key nonce data plaintext, aead.decrypt key nonce data = some plaintext ↔
    data = aead.encrypt key nonce plaintext
  tagged : ∀ key nonce plaintext,
    (aead.encrypt key nonce plaintext).length = plaintext.length + 16

structure Meeting where
  dialler : Node
  acceptor : Node
  trust : TrustLevel
  requiresE2e : Bool
  diallerPolicy : Policy
  acceptorPolicy : Policy
  sentAt : Nat
  acceptedAt : Nat
  answeredAt : Nat

structure Ends where
  dialler : Link
  acceptor : Link
  deriving DecidableEq

inductive Event
  | dialler (now : Nat) (nonce frame : Bytes)
  | acceptor (now : Nat) (nonce frame : Bytes)

namespace Meeting
variable (m : Meeting) (p : Primitives) (aead : Aead)

def connected : Option Ends :=
  (completeHandshake p m.acceptor m.acceptorPolicy m.acceptedAt (Link.opened .peer m.requiresE2e)
    (m.dialler.hello p m.trust m.sentAt)).bind fun answered =>
      (performHandshake p m.dialler m.diallerPolicy m.answeredAt
        (Link.opened m.trust m.requiresE2e) answered.2).map fun dialled => ⟨dialled, answered.1⟩

def step (ends : Ends) : Event → Ends
  | .dialler now nonce frame =>
      { ends with dialler := (ends.dialler.send aead m.dialler now nonce frame).1 }
  | .acceptor now nonce frame =>
      { ends with acceptor := (ends.acceptor.send aead m.acceptor now nonce frame).1 }

end Meeting

def Link.Sealed (aead : Aead) (link : Link) (frame : Bytes) : Prop :=
  ∃ key nonce plaintext, link.sessionKey = some key ∧ nonce.length = 12 ∧
    frame = nonce ++ aead.encrypt key nonce plaintext

def Link.ReadBy (aead : Aead) (node : Node) (link other : Link) : Prop :=
  ∀ now nonce frame, nonce.length = 12 → ∃ sent,
    (link.send aead node now nonce frame).2 = some sent ∧ other.receive aead sent = some frame

def Link.Guarded (aead : Aead) (node : Node) (link : Link) : Prop :=
  link.trust ≠ .sameUser →
    (∀ now nonce frame sent, nonce.length = 12 →
      (link.send aead node now nonce frame).2 = some sent → link.Sealed aead sent) ∧
    ∀ raw frame, link.receive aead raw = some frame → link.Sealed aead raw

structure Meeting.Sound (m : Meeting) (aead : Aead) (ends : Ends) : Prop where
  agree : ends.dialler.encrypting = ends.acceptor.encrypting
  same_key : ends.dialler.encrypting = true → ends.dialler.sessionKey = ends.acceptor.sessionKey
  heard : ends.dialler.ReadBy aead m.dialler ends.acceptor
  answered : ends.acceptor.ReadBy aead m.acceptor ends.dialler
  dialler_guarded : ends.dialler.Guarded aead m.dialler
  acceptor_guarded : ends.acceptor.Guarded aead m.acceptor

def keyOf (node : Node) (trust : TrustLevel) (requiresE2e : Bool) (peerX25519Public : String) :
    Option Bytes :=
  if (trust ≠ .sameUser ∨ requiresE2e = true) ∧ peerX25519Public ≠ "" then
    node.exchange peerX25519Public
  else none

structure Established (node : Node) (trust : TrustLevel) (requiresE2e : Bool)
    (peerX25519Public : String) (link : Link) : Prop where
  level : link.trust = trust
  shared : link.requiresE2e = requiresE2e
  peer : link.peerX25519Public = peerX25519Public
  key : link.sessionKey = keyOf node trust requiresE2e peerX25519Public

section Links
variable {node : Node} {trust : TrustLevel} {requiresE2e : Bool} {peerX25519Public : String}
variable {link : Link} {aead : Aead}

theorem wantsSessionKey_iff :
    link.wantsSessionKey = true ↔ link.trust ≠ .sameUser ∨ link.requiresE2e = true := by
  cases link with
  | mk trust => cases trust <;> simp [Link.wantsSessionKey]

theorem encrypting_iff (established : Established node trust requiresE2e peerX25519Public link) :
    link.encrypting = true ↔ (keyOf node trust requiresE2e peerX25519Public).isSome = true := by
  have wants := @wantsSessionKey_iff link
  rw [established.level, established.shared] at wants
  simp only [Link.encrypting, Bool.and_eq_true, wants, established.key, keyOf]
  split_ifs with asked
  · simp [asked.1]
  · simp

theorem not_encrypting (established : Established node trust requiresE2e peerX25519Public link)
    (none : keyOf node trust requiresE2e peerX25519Public = none) : link.encrypting = false := by
  rw [Bool.eq_false_iff, Ne, encrypting_iff established, none]
  simp

theorem keyOf_some {key : Bytes} (holds : keyOf node trust requiresE2e peerX25519Public = some key) :
    node.exchange peerX25519Public = some key := by
  unfold keyOf at holds
  split_ifs at holds
  exact holds

section

variable (established : Established node trust requiresE2e peerX25519Public link)
include established

theorem rotated_key (some : link.sessionKey ≠ none) (now : Nat) :
    (link.rotated node now).sessionKey = link.sessionKey := by
  unfold Link.rotated
  split_ifs
  · obtain ⟨key, holds⟩ := Option.ne_none_iff_exists'.mp some
    have derived := keyOf_some (established.key.symm.trans holds)
    rw [← established.peer] at derived
    exact derived.trans holds.symm
  · rfl

theorem rotated_established (some : link.sessionKey ≠ none) (now : Nat) :
    Established node trust requiresE2e peerX25519Public (link.rotated node now) := by
  have key := rotated_key established some now
  unfold Link.rotated at key ⊢
  split_ifs at key ⊢
  · exact ⟨established.level, established.shared, established.peer, key.trans established.key⟩
  · exact established

theorem send_established (now : Nat) (nonce frame : Bytes) :
    Established node trust requiresE2e peerX25519Public
      (link.send aead node now nonce frame).1 := by
  unfold Link.send Link.encrypt
  split_ifs with sealing none
  · exact established
  · exact rotated_established established none now
  · exact established

theorem send_sealed {key : Bytes} (holds : link.sessionKey = some key)
    (sealing : link.encrypting = true) (now : Nat) (nonce frame : Bytes) :
    (link.send aead node now nonce frame).2 = some (nonce ++ aead.encrypt key nonce frame) := by
  have some : link.sessionKey ≠ none := by simp [holds]
  simp only [Link.send, sealing, ↓reduceIte, Link.encrypt, some]
  rw [rotated_key established some, holds]
  rfl

end

theorem send_plain (plain : link.encrypting = false) (now : Nat) (nonce frame : Bytes) :
    (link.send aead node now nonce frame).2 = some frame := by
  simp [Link.send, plain]

theorem receive_plain (plain : link.encrypting = false) (raw : Bytes) :
    link.receive aead raw = some raw := by
  simp [Link.receive, plain]

theorem receive_sealed (lawful : aead.Lawful) {key : Bytes} (holds : link.sessionKey = some key)
    (sealing : link.encrypting = true) {nonce : Bytes} (twelve : nonce.length = 12)
    (frame : Bytes) : link.receive aead (nonce ++ aead.encrypt key nonce frame) = some frame := by
  have tagged := lawful.tagged key nonce frame
  have long : ¬ (nonce ++ aead.encrypt key nonce frame).length < 13 := by
    rw [List.length_append]
    omega
  simp only [Link.receive, sealing, ↓reduceIte, Link.decrypt, holds, long]
  rw [← twelve, List.take_left, List.drop_left]
  exact (lawful.decrypts _ _ _ _).mpr rfl

theorem receive_some (lawful : aead.Lawful) {key : Bytes} (holds : link.sessionKey = some key)
    (sealing : link.encrypting = true) {raw frame : Bytes}
    (read : link.receive aead raw = some frame) : link.Sealed aead raw := by
  simp only [Link.receive, sealing, ↓reduceIte, Link.decrypt, holds] at read
  split_ifs at read with short
  have opened := (lawful.decrypts _ _ _ _).mp read
  refine ⟨key, raw.take 12, frame, holds, ?_, ?_⟩
  · rw [List.length_take]
    omega
  · rw [← opened, List.take_append_drop]

theorem guarded_sealing (lawful : aead.Lawful)
    (established : Established node trust requiresE2e peerX25519Public link)
    {key : Bytes} (holds : link.sessionKey = some key) (sealing : link.encrypting = true) :
    link.Guarded aead node := by
  intro _
  constructor
  · intro now nonce frame sent twelve gives
    rw [send_sealed established holds sealing] at gives
    exact ⟨key, nonce, frame, holds, twelve, (Option.some.inj gives).symm⟩
  · intro raw frame read
    exact receive_some lawful holds sealing read

/-- An end that does not seal accepts a frame that nobody sealed. -/
theorem not_guarded (plain : link.encrypting = false) (trust : link.trust ≠ .sameUser) :
    ¬ link.Guarded aead node := by
  intro guarded
  obtain ⟨key, nonce, plaintext, -, twelve, empty⟩ :=
    (guarded trust).2 [] [] (receive_plain plain [])
  have length := congrArg List.length empty
  rw [List.length_append, twelve, List.length_nil] at length
  omega

end Links

namespace Meeting
variable (m : Meeting) (p : Primitives)

def SameUser : Prop :=
  m.trust = .sameUser ∧ m.dialler.userId ≠ "" ∧ m.dialler.userId = m.acceptor.userId

def Usable (node other : Node) : Prop :=
  other.x25519Public ≠ "" ∧ (node.exchange other.x25519Public).isSome = true

/-- Over the relay, or between nodes of one user that show it, or asked for as a peer with keys
that both ends can use; or the acceptor refuses the dialler's contract. -/
def Agreeing : Prop :=
  m.requiresE2e = true ∨ m.SameUser ∨
    (m.trust ≠ .sameUser ∧ Usable m.dialler m.acceptor ∧ Usable m.acceptor m.dialler) ∨
    ∃ contract ∈ m.dialler.trustContract, p.contractHolds contract = false

instance decidableSameUser : Decidable m.SameUser := inferInstanceAs (Decidable (_ ∧ _ ∧ _))

instance decidableUsable (node other : Node) : Decidable (Usable node other) :=
  inferInstanceAs (Decidable (_ ∧ _))

def Refused : Prop :=
  ¬ m.SameUser ∧ ∃ contract ∈ m.dialler.trustContract, p.contractHolds contract = false

def acceptedTrust : TrustLevel := if m.SameUser then .sameUser else .peer

section Honest
variable {m p} (dials : m.dialler.Honest p) (accepts : m.acceptor.Honest p)

include dials in
theorem provesSameUser_iff : provesSameUser p m.acceptor.userId
    (m.dialler.hello p m.trust m.sentAt).content = true ↔ m.SameUser := by
  constructor
  · intro proves
    simp only [provesSameUser, verifySameUserProof, Bool.and_eq_true, decide_eq_true_eq] at proves
    obtain ⟨⟨asked, proof⟩, -, verified⟩ := proves
    have own : m.trust = .sameUser ∧ m.dialler.userId ≠ "" := by
      by_contra other
      exact proof (if_neg other)
    have signed : (m.dialler.hello p m.trust m.sentAt).content.userIdProof =
        m.dialler.sign m.dialler.userId := if_pos own
    rw [signed] at verified
    exact ⟨own.1, own.2, ((dials.verifies _ _).mp verified).symm⟩
  · rintro ⟨trust, user, same⟩
    have verified := (dials.verifies m.acceptor.userId m.dialler.userId).mpr same.symm
    rw [← same] at verified
    simp [provesSameUser, verifySameUserProof, Node.hello, trust, user, dials.key, dials.signs,
      verified, ← same, TrustLevel.value]

theorem admits_signed {node : Node} (honest : node.Honest p) (policy : Policy) (text : String) :
    admits p policy node.ed25519Public text (node.sign text) = true := by
  simp [admits, honest.key, honest.signs text, (honest.verifies text text).mpr rfl]

end Honest

end Meeting

def metLink (trust : TrustLevel) (requiresE2e : Bool) (ed25519Public x25519Public : String) : Link :=
  (Link.opened trust requiresE2e).meet ed25519Public x25519Public

section Keying
variable {node : Node} {trust : TrustLevel} {requiresE2e : Bool}
variable {ed25519Public x25519Public : String} {link : Link}

/-- An inbound link takes the level that the HELLO proves. -/
theorem setTrust_met (above : trust ≠ .relay) :
    (metLink .peer requiresE2e ed25519Public x25519Public).setTrust trust =
      some (metLink trust requiresE2e ed25519Public x25519Public) := by
  cases trust with
  | relay => exact absurd rfl above
  | peer => rfl
  | sameUser => rfl

variable (now : Nat)

theorem established_withKey :
    Established node trust requiresE2e x25519Public
      ((metLink trust requiresE2e ed25519Public x25519Public).withKey node now
        (metLink trust requiresE2e ed25519Public x25519Public).wantsSessionKey) := by
  have wants := @wantsSessionKey_iff (metLink trust requiresE2e ed25519Public x25519Public)
  unfold Link.withKey
  split_ifs with asked
  · exact ⟨rfl, rfl, rfl, (if_pos ⟨wants.mp asked.1, asked.2⟩).symm⟩
  · have without : ¬ ((trust ≠ .sameUser ∨ requiresE2e = true) ∧ x25519Public ≠ "") :=
      fun both => asked ⟨wants.mpr both.1, both.2⟩
    exact ⟨rfl, rfl, rfl, (if_neg without).symm⟩

theorem keyDialled_some {now : Nat}
    (keyed : (metLink trust requiresE2e ed25519Public x25519Public).keyDialled node now =
      some link) :
    Established node trust requiresE2e x25519Public link ∧
      (requiresE2e = true → link.sessionKey ≠ none) := by
  have established := @established_withKey node trust requiresE2e ed25519Public x25519Public now
  simp only [Link.keyDialled] at keyed
  by_cases bare : requiresE2e = true ∧ ((metLink trust requiresE2e ed25519Public
      x25519Public).withKey node now (metLink trust requiresE2e ed25519Public
        x25519Public).wantsSessionKey).sessionKey = none
  · rw [established.shared, if_pos bare] at keyed
    cases keyed
  · rw [established.shared, if_neg bare] at keyed
    rw [← Option.some.inj keyed]
    exact ⟨established, fun shared without => bare ⟨shared, without⟩⟩

theorem keyAccepted_some {now : Nat}
    (keyed : (metLink trust requiresE2e ed25519Public x25519Public).keyAccepted node now =
      some link) :
    Established node trust requiresE2e x25519Public link ∧
      (requiresE2e = true → link.sessionKey ≠ none) := by
  have established := @established_withKey node trust requiresE2e ed25519Public x25519Public now
  simp only [Link.keyAccepted] at keyed
  cases requiresE2e with
  | true =>
    have asked : (metLink trust true ed25519Public x25519Public).wantsSessionKey = true :=
      wantsSessionKey_iff.mpr (Or.inr rfl)
    rw [asked] at established
    rw [show (metLink trust true ed25519Public x25519Public).requiresE2e = true from rfl] at keyed
    by_cases bare : ((metLink trust true ed25519Public x25519Public).withKey node now
        true).sessionKey = none
    · rw [if_pos ⟨established.shared, bare⟩] at keyed
      cases keyed
    · rw [if_neg fun both => bare both.2, if_neg bare] at keyed
      rw [← Option.some.inj keyed]
      exact ⟨established, fun _ => bare⟩
  | false =>
    rw [← Option.some.inj keyed]
    exact ⟨established, fun shared => absurd shared (by decide)⟩

theorem keyDialled_direct :
    ∃ link, (metLink trust false ed25519Public x25519Public).keyDialled node now = some link := by
  have established := @established_withKey node trust false ed25519Public x25519Public now
  refine ⟨_, if_neg fun both => ?_⟩
  exact absurd (established.shared.symm.trans both.1) (by decide)

theorem keyAccepted_direct :
    ∃ link, (metLink trust false ed25519Public x25519Public).keyAccepted node now = some link := by
  simp [Link.keyAccepted, Link.withKey, metLink, Link.opened, Link.meet]

end Keying

namespace Meeting
variable {m : Meeting} {p : Primitives}
variable (dials : m.dialler.Honest p) (accepts : m.acceptor.Honest p)

def decided (m : Meeting) (p : Primitives) : Option Link :=
  decideNodeTrust p m.acceptor.userId (m.dialler.hello p m.trust m.sentAt).content
    (metLink .peer m.requiresE2e m.dialler.ed25519Public m.dialler.x25519Public)

def acceptedLink (m : Meeting) : Link :=
  metLink m.acceptedTrust m.requiresE2e m.dialler.ed25519Public m.dialler.x25519Public

include dials in
theorem decided_sameUser (same : m.SameUser) : m.decided p = some m.acceptedLink := by
  have level : m.acceptedTrust = .sameUser := if_pos same
  simp only [decided, acceptedLink, level, decideNodeTrust, (provesSameUser_iff dials).mpr same,
    ↓reduceIte]
  rfl

include dials in
theorem decided_peer (other : ¬ m.SameUser) :
    m.decided p = match m.dialler.trustContract with
      | some contract => if p.contractHolds contract then some m.acceptedLink else none
      | none => some m.acceptedLink := by
  have level : m.acceptedTrust = .peer := if_neg other
  have unproved : provesSameUser p m.acceptor.userId
      (m.dialler.hello p m.trust m.sentAt).content = false :=
    Bool.eq_false_iff.mpr fun proved => other ((provesSameUser_iff dials).mp proved)
  simp only [decided, acceptedLink, level, decideNodeTrust, unproved, Bool.false_eq_true,
    ↓reduceIte]
  rfl

include dials in
theorem decided_of_not_refused (heard : ¬ m.Refused p) : m.decided p = some m.acceptedLink := by
  by_cases same : m.SameUser
  · exact decided_sameUser dials same
  · rw [decided_peer dials same]
    cases offered : m.dialler.trustContract with
    | none => rfl
    | some contract =>
      apply if_pos
      by_contra broken
      exact heard ⟨same, contract, offered, Bool.eq_false_iff.mpr broken⟩

include dials in
theorem decided_of_refused (refused : m.Refused p) : m.decided p = none := by
  obtain ⟨other, contract, offered, broken⟩ := refused
  have named : m.dialler.trustContract = some contract := offered
  simp [decided_peer dials other, named, broken]

include dials accepts in
theorem connected_eq : m.connected p =
    (m.decided p).bind fun decided => (decided.keyAccepted m.acceptor m.acceptedAt).bind
      fun accepted => ((metLink m.trust m.requiresE2e m.acceptor.ed25519Public
        m.acceptor.x25519Public).keyDialled m.dialler m.answeredAt).map
          fun dialled => ⟨dialled, accepted⟩ := by
  have hello := admits_signed dials m.acceptorPolicy
  have ack := admits_signed accepts m.diallerPolicy
  have answered : ∀ link : Link, performHandshake p m.dialler m.diallerPolicy m.answeredAt link
      (m.acceptor.ack p m.acceptedAt) = (link.meet m.acceptor.ed25519Public
        m.acceptor.x25519Public).keyDialled m.dialler m.answeredAt := fun _ => if_pos (ack _)
  have completed : completeHandshake p m.acceptor m.acceptorPolicy m.acceptedAt
      (Link.opened .peer m.requiresE2e) (m.dialler.hello p m.trust m.sentAt) =
        (m.decided p).bind fun decided => (decided.keyAccepted m.acceptor m.acceptedAt).map
          fun keyed => (keyed, m.acceptor.ack p m.acceptedAt) := if_pos (hello _)
  rw [connected, completed]
  cases m.decided p with
  | none => rfl
  | some link =>
    simp only [Option.bind_some, Option.bind_map, Function.comp_def, answered]
    rfl

structure Paired (m : Meeting) (ends : Ends) : Prop where
  dialler : Established m.dialler m.trust m.requiresE2e m.acceptor.x25519Public ends.dialler
  acceptor : Established m.acceptor m.acceptedTrust m.requiresE2e m.dialler.x25519Public
    ends.acceptor

def diallerKey (m : Meeting) : Option Bytes :=
  keyOf m.dialler m.trust m.requiresE2e m.acceptor.x25519Public

def acceptorKey (m : Meeting) : Option Bytes :=
  keyOf m.acceptor m.acceptedTrust m.requiresE2e m.dialler.x25519Public

structure Alike (m : Meeting) : Prop where
  same : m.diallerKey = m.acceptorKey
  bare : m.diallerKey = none → m.trust = .sameUser ∧ m.acceptedTrust = .sameUser

variable {aead : Aead}

theorem Paired.step {ends : Ends} (paired : m.Paired ends) (event : Event) :
    m.Paired (m.step aead ends event) := by
  cases event with
  | dialler now nonce frame =>
    exact ⟨send_established paired.dialler now nonce frame, paired.acceptor⟩
  | acceptor now nonce frame =>
    exact ⟨paired.dialler, send_established paired.acceptor now nonce frame⟩

theorem readBy_of_key (lawful : aead.Lawful) {node other : Node} {trust trust' : TrustLevel}
    {requiresE2e : Bool} {public' public'' : String} {link link' : Link}
    (established : Established node trust requiresE2e public' link)
    (established' : Established other trust' requiresE2e public'' link') {key : Bytes}
    (holds : keyOf node trust requiresE2e public' = some key)
    (holds' : keyOf other trust' requiresE2e public'' = some key) :
    link.ReadBy aead node link' := by
  have sealing := (encrypting_iff established).mpr (by simp [holds])
  have sealing' := (encrypting_iff established').mpr (by simp [holds'])
  intro now nonce frame twelve
  exact ⟨_, send_sealed established (established.key.trans holds) sealing now nonce frame,
    receive_sealed lawful (established'.key.trans holds') sealing' twelve frame⟩

theorem readBy_plain {node : Node} {link link' : Link} (plain : link.encrypting = false)
    (plain' : link'.encrypting = false) : link.ReadBy aead node link' :=
  fun now nonce frame _ => ⟨frame, send_plain plain now nonce frame, receive_plain plain' frame⟩

theorem sound_of_alike (lawful : aead.Lawful) (alike : m.Alike) {ends : Ends}
    (paired : m.Paired ends) : m.Sound aead ends := by
  obtain ⟨dialler, acceptor⟩ := paired
  cases holds : m.diallerKey with
  | some key =>
    have holds' := alike.same.symm.trans holds
    have sealing := (encrypting_iff dialler).mpr (Option.isSome_of_mem holds)
    have sealing' := (encrypting_iff acceptor).mpr (Option.isSome_of_mem holds')
    have own := dialler.key.trans holds
    have own' := acceptor.key.trans holds'
    exact {
      agree := sealing.trans sealing'.symm
      same_key := fun _ => own.trans own'.symm
      heard := readBy_of_key lawful dialler acceptor holds holds'
      answered := readBy_of_key lawful acceptor dialler holds' holds
      dialler_guarded := guarded_sealing lawful dialler own sealing
      acceptor_guarded := guarded_sealing lawful acceptor own' sealing' }
  | none =>
    obtain ⟨level, level'⟩ := alike.bare holds
    have plain := not_encrypting dialler holds
    have plain' := not_encrypting acceptor (alike.same.symm.trans holds)
    exact {
      agree := plain.trans plain'.symm
      same_key := fun sealing => absurd (sealing.symm.trans plain) (by decide)
      heard := readBy_plain plain plain'
      answered := readBy_plain plain' plain
      dialler_guarded := fun other => absurd (dialler.level.trans level) other
      acceptor_guarded := fun other => absurd (acceptor.level.trans level') other }

include dials accepts in
theorem paired_of_connected {ends : Ends} (connected : m.connected p = some ends) :
    m.Paired ends ∧ ¬ m.Refused p ∧ (m.requiresE2e = true →
      m.diallerKey ≠ none ∧ m.acceptorKey ≠ none) := by
  rw [connected_eq dials accepts] at connected
  have heard : ¬ m.Refused p := by
    intro refused
    rw [decided_of_refused dials refused] at connected
    cases connected
  rw [decided_of_not_refused dials heard] at connected
  simp only [Option.bind_some, Option.bind_eq_some_iff, Option.map_eq_some_iff] at connected
  obtain ⟨accepted, keyed', dialled, keyed, rfl⟩ := connected
  obtain ⟨dialler, has⟩ := keyDialled_some keyed
  obtain ⟨acceptor, has'⟩ := keyAccepted_some keyed'
  refine ⟨⟨dialler, acceptor⟩, heard, fun shared => ⟨?_, ?_⟩⟩
  · intro none
    exact has shared (dialler.key.trans none)
  · intro none
    exact has' shared (acceptor.key.trans none)

include dials accepts in
theorem connected_direct (direct : m.requiresE2e = false) (heard : ¬ m.Refused p) :
    ∃ ends, m.connected p = some ends := by
  rw [connected_eq dials accepts, decided_of_not_refused dials heard]
  simp only [acceptedLink, direct, Option.bind_some]
  obtain ⟨dialled, keyed⟩ := @keyDialled_direct m.dialler m.trust m.acceptor.ed25519Public
    m.acceptor.x25519Public m.answeredAt
  obtain ⟨accepted, keyed'⟩ := @keyAccepted_direct m.acceptor m.acceptedTrust
    m.dialler.ed25519Public m.dialler.x25519Public m.acceptedAt
  exact ⟨⟨dialled, accepted⟩, by rw [keyed', keyed]; rfl⟩

def Matched (m : Meeting) : Prop :=
  ∀ key key', m.dialler.exchange m.acceptor.x25519Public = some key →
    m.acceptor.exchange m.dialler.x25519Public = some key' → key = key'

theorem alike_of_keys (matched : m.Matched) (some : m.diallerKey ≠ none)
    (some' : m.acceptorKey ≠ none) : m.Alike := by
  obtain ⟨key, holds⟩ := Option.ne_none_iff_exists'.mp some
  obtain ⟨key', holds'⟩ := Option.ne_none_iff_exists'.mp some'
  refine ⟨?_, fun none => absurd none some⟩
  rw [holds, holds', matched key key' (keyOf_some holds) (keyOf_some holds')]

theorem alike_of_sameUser (direct : m.requiresE2e = false) (same : m.SameUser) : m.Alike := by
  have level : m.acceptedTrust = .sameUser := if_pos same
  have bare : m.diallerKey = none := if_neg (by simp [same.1, direct])
  have bare' : m.acceptorKey = none := if_neg (by simp [level, direct])
  exact ⟨bare.trans bare'.symm, fun _ => ⟨same.1, level⟩⟩

include dials accepts in
theorem alike_of_agreeing (matched : m.Matched) (agreeing : m.Agreeing p) {ends : Ends}
    (connected : m.connected p = some ends) : m.Alike := by
  obtain ⟨-, heard, keys⟩ := paired_of_connected dials accepts connected
  cases direct : m.requiresE2e with
  | true => exact alike_of_keys matched (keys direct).1 (keys direct).2
  | false =>
    by_cases same : m.SameUser
    · exact alike_of_sameUser direct same
    · rcases agreeing with shared | same' | ⟨other, usable, usable'⟩ | broken
      · exact absurd (shared.symm.trans direct) (by decide)
      · exact absurd same' same
      · have level : m.acceptedTrust = .peer := if_neg same
        have derived : m.diallerKey = _ := if_pos ⟨Or.inl other, usable.1⟩
        have derived' : m.acceptorKey = _ := if_pos ⟨Or.inl (by simp [level]), usable'.1⟩
        apply alike_of_keys matched
        · rw [derived]
          exact Option.isSome_iff_ne_none.mp usable.2
        · rw [derived']
          exact Option.isSome_iff_ne_none.mp usable'.2
      · exact absurd ⟨same, broken⟩ heard

/-- The acceptor takes the dialler for a peer, and one of the two ends has no key. -/
theorem not_sound {aead : Aead} {ends : Ends} (paired : m.Paired ends)
    (agreeing : ¬ m.Agreeing p) : ¬ m.Sound aead ends := by
  obtain ⟨dialler, acceptor⟩ := paired
  simp only [Agreeing, not_or] at agreeing
  obtain ⟨shared, other, unusable, -⟩ := agreeing
  have direct : m.requiresE2e = false := Bool.eq_false_iff.mpr shared
  have level : ends.acceptor.trust = .peer := acceptor.level.trans (if_neg other)
  have peer : ends.acceptor.trust ≠ .sameUser := by simp [level]
  intro sound
  have sealing : ends.acceptor.encrypting = true := by
    by_contra plain
    exact not_guarded (Bool.eq_false_iff.mpr plain) peer sound.acceptor_guarded
  have sealing' : ends.dialler.encrypting = true := sound.agree.trans sealing
  obtain ⟨key, derived⟩ := Option.isSome_iff_exists.mp ((encrypting_iff dialler).mp sealing')
  obtain ⟨key', derived'⟩ := Option.isSome_iff_exists.mp ((encrypting_iff acceptor).mp sealing)
  have exchanged := keyOf_some derived
  have exchanged' := keyOf_some derived'
  simp only [keyOf, direct, Bool.false_eq_true, or_false] at derived derived'
  split_ifs at derived derived' with asked asked'
  exact unusable ⟨asked.1, ⟨asked.2, by simp [exchanged]⟩, ⟨asked'.2, by simp [exchanged']⟩⟩

def AlwaysSound (m : Meeting) (p : Primitives) (aead : Aead) : Prop :=
  ∀ ends, m.connected p = some ends → ∀ run, Always (m.step aead) (m.Sound aead) ends run

include dials accepts in
theorem alwaysSound_of_agreeing {aead : Aead} (lawful : aead.Lawful) (matched : m.Matched)
    (agreeing : m.Agreeing p) : m.AlwaysSound p aead := by
  intro ends connected run
  have alike := alike_of_agreeing dials accepts matched agreeing connected
  have paired := (paired_of_connected dials accepts connected).1
  exact always_of_invariant _ m.Paired _ (fun _ _ => True) (fun _ event held _ => held.step event)
    (fun _ held => sound_of_alike lawful alike held) run ends paired
    (along_of_forall _ (fun _ => True) run (fun _ _ => trivial) ends)

include dials accepts in
theorem not_alwaysSound {aead : Aead} (agreeing : ¬ m.Agreeing p) : ¬ m.AlwaysSound p aead := by
  have direct : m.requiresE2e = false :=
    Bool.eq_false_iff.mpr fun shared => agreeing (Or.inl shared)
  have heard : ¬ m.Refused p := fun refused => agreeing (Or.inr (Or.inr (Or.inr refused.2)))
  obtain ⟨ends, connected⟩ := connected_direct dials accepts direct heard
  intro always
  exact not_sound (paired_of_connected dials accepts connected).1 agreeing
    (always ends connected [])

/-- The ends of a handshake agree on sealing and read each other exactly when it is over the relay,
between nodes of one user that show it, or asked for as a peer with keys that both can use; or the
acceptor refuses the dialler's contract. -/
theorem sealing_agreed_iff (m : Meeting) (p : Primitives) (aead : Aead) (lawful : aead.Lawful)
    (dials : m.dialler.Honest p) (accepts : m.acceptor.Honest p) (matched : m.Matched) :
    m.AlwaysSound p aead ↔ m.Agreeing p := by
  constructor
  · intro always
    by_contra agreeing
    exact not_alwaysSound dials accepts agreeing always
  · exact alwaysSound_of_agreeing dials accepts lawful matched

end Meeting

/-! Two nodes, of one user and of two. -/

section Samples

def signedText (key text : String) : String := key ++ ("." ++ text)

theorem signedText_injective (key text signed : String)
    (same : signedText key text = signedText key signed) : text = signed := by
  have letters := congrArg String.toList same
  simp only [signedText, String.toList_append, List.append_cancel_left_eq] at letters
  exact String.toList_inj.mp letters

def samplePrimitives : Primitives where
  verify key text signature := decide (signature = signedText key text)
  helloText hello := hello.nodeId
  ackText ack := ack.x25519Public
  contractHolds _ := true

def sampleNode (name userId other : String) : Node where
  nodeId := name
  ed25519Public := name
  sign := signedText name
  userId := userId
  x25519Public := name
  exchange peer := if peer = other then some [7] else none
  trustContract := none

theorem sampleNode_honest (name userId other : String) (named : name ≠ "") :
    (sampleNode name userId other).Honest samplePrimitives where
  key := named
  signs text empty := by
    have letters := congrArg String.toList empty
    simp [sampleNode, signedText] at letters
  verifies text signed := by
    simp only [samplePrimitives, sampleNode, decide_eq_true_eq]
    exact ⟨fun same => (signedText_injective name signed text same).symm, fun same => by rw [same]⟩

def sampleTag (key : Bytes) : Bytes := (key ++ List.replicate 16 0).take 16

def sampleAead : Aead where
  encrypt key _ plaintext := sampleTag key ++ plaintext
  decrypt key _ data := if data.take 16 = sampleTag key then some (data.drop 16) else none

theorem sampleTag_length (key : Bytes) : (sampleTag key).length = 16 := by
  simp [sampleTag]

theorem sampleAead_lawful : sampleAead.Lawful where
  decrypts key nonce data plaintext := by
    have length := sampleTag_length key
    simp only [sampleAead]
    constructor
    · intro opened
      split_ifs at opened with tag
      rw [← Option.some.inj opened, ← tag, List.take_append_drop]
    · rintro rfl
      rw [← length, List.take_left, List.drop_left, if_pos rfl]
  tagged key nonce plaintext := by
    rw [sampleAead, List.length_append, sampleTag_length, Nat.add_comm]

def sampleMeeting (trust : TrustLevel) (userId : String) : Meeting where
  dialler := sampleNode "a" "user" "b"
  acceptor := sampleNode "b" userId "a"
  trust := trust
  requiresE2e := false
  diallerPolicy := ⟨true, false⟩
  acceptorPolicy := ⟨true, false⟩
  sentAt := 1
  acceptedAt := 2
  answeredAt := 3

theorem sampleMeeting_matched (trust : TrustLevel) (userId : String) :
    (sampleMeeting trust userId).Matched := by
  intro key key' holds holds'
  simp only [sampleMeeting, sampleNode, ↓reduceIte, Option.some.injEq] at holds holds'
  exact holds.symm.trans holds'

theorem peers_agree : (sampleMeeting .peer "other").Agreeing samplePrimitives ∧
    (sampleMeeting .peer "other").AlwaysSound samplePrimitives sampleAead := by
  have keys : (sampleMeeting .peer "other").Agreeing samplePrimitives :=
    Or.inr (Or.inr (Or.inl ⟨by decide, by decide +kernel, by decide +kernel⟩))
  have sound := Meeting.sealing_agreed_iff (sampleMeeting .peer "other") samplePrimitives sampleAead
    sampleAead_lawful (sampleNode_honest _ _ _ (by decide)) (sampleNode_honest _ _ _ (by decide))
    (sampleMeeting_matched _ _)
  exact ⟨keys, sound.mpr keys⟩

/-- The dialler takes the other for its user's and sends in the clear, the acceptor seals. -/
theorem demoted_unread : ¬ ∀ (m : Meeting) (p : Primitives) (aead : Aead), aead.Lawful →
    m.dialler.Honest p → m.acceptor.Honest p → m.Matched → m.AlwaysSound p aead := by
  intro always
  have sound := always (sampleMeeting .sameUser "other") samplePrimitives sampleAead
    sampleAead_lawful (sampleNode_honest _ _ _ (by decide)) (sampleNode_honest _ _ _ (by decide))
    (sampleMeeting_matched _ _)
  have connected : ((sampleMeeting .sameUser "other").connected samplePrimitives).isSome = true := by
    decide +kernel
  obtain ⟨ends, both⟩ := Option.isSome_iff_exists.mp connected
  have agree := (sound ends both []).agree
  have apart : ∀ ends ∈ (sampleMeeting .sameUser "other").connected samplePrimitives,
      ends.dialler.encrypting ≠ ends.acceptor.encrypting := by decide +kernel
  exact apart ends both agree

end Samples

end Hartos.PeerLink
