import Hartos.LinkSealing

/-!
Inbound HELLOs of nodes in hard enforcement, from nodes of this node's user and from strangers:
whose links get the trust of the same user.
-/
namespace Hartos.PeerLink
open StepSystem

structure World (Party : Type) where
  holder : String → Option Party
  own : Party → Bool

structure Admission (Party : Type) where
  far : Party
  key : String
  trust : TrustLevel
  deriving DecidableEq

/-- `signed` are the texts that were signed anywhere, each with its key. -/
structure Admissions (Party : Type) where
  signed : List (String × String)
  links : List (Admission Party)

inductive Inbound (Party : Type)
  | signs (party : Party) (key text : String)
  | hello (far : Party) (received : Signed Hello) (requiresE2e ownerAdmits : Bool) (now : Nat)

section Runs
variable {Party : Type} (world : World Party) (p : Primitives) (self : Node)

def World.ownKey (key : String) : Bool := (world.holder key).any world.own

def World.strangerKey (key : String) : Bool := (world.holder key).any fun party => !world.own party

namespace Admissions

def start : Admissions Party := ⟨[], []⟩

def step (s : Admissions Party) : Inbound Party → Admissions Party
  | .signs _ key text => { s with signed := (key, text) :: s.signed }
  | .hello far received requiresE2e ownerAdmits now =>
      match completeHandshake p self ⟨true, ownerAdmits⟩ now (Link.opened .peer requiresE2e)
        received with
      | none => s
      | some (link, _) =>
          { s with links := ⟨far, received.content.ed25519Public, link.trust⟩ :: s.links }

def Possible (s : Admissions Party) : Inbound Party → Prop
  | .signs party key _ => world.holder key = some party
  | .hello far received _ _ _ =>
      (∀ key text, p.verify key text received.signature = true → (key, text) ∈ s.signed) ∧
      (∀ key text, p.verify key text received.content.userIdProof = true →
        (key, text) ∈ s.signed) ∧
      (world.own far = true → world.holder received.content.ed25519Public = some far)

def Genuine (s : Admissions Party) : Prop :=
  ∀ link ∈ s.links, link.trust = .sameUser →
    world.own link.far = true ∧ world.holder link.key = some link.far

/-- A key of its own under the user's id, or a HELLO that a node of the user signed before, or the
key and the proof of such a node in a HELLO without a signature that the owner lets in. -/
def Borrows (s : Admissions Party) (received : Signed Hello) (ownerAdmits : Bool) : Prop :=
  let hello := received.content
  (world.strangerKey hello.ed25519Public = true ∧ (hello.ed25519Public, self.userId) ∈ s.signed ∧
      admits p ⟨true, ownerAdmits⟩ hello.ed25519Public (p.helloText hello) received.signature = true) ∨
    (world.ownKey hello.ed25519Public = true ∧
      (hello.ed25519Public, p.helloText hello) ∈ s.signed ∧ received.signature ≠ "" ∧
      p.verify hello.ed25519Public (p.helloText hello) received.signature = true) ∨
    (world.ownKey hello.ed25519Public = true ∧ received.signature = "" ∧ ownerAdmits = true)

def Asks (received : Signed Hello) (requiresE2e : Bool) : Prop :=
  provesSameUser p self.userId received.content = true ∧
    (requiresE2e = true → received.content.x25519Public ≠ "" ∧
      (self.exchange received.content.x25519Public).isSome = true)

def Straight (s : Admissions Party) : Inbound Party → Prop
  | .signs .. => True
  | .hello far received requiresE2e ownerAdmits _ => world.own far = true ∨
      ¬ (Asks p self received requiresE2e ∧ s.Borrows world p self received ownerAdmits)

end Admissions

section Granting
variable {p : Primitives} {self : Node}

theorem withKey_trust (link : Link) (now : Nat) (asked : Bool) :
    (link.withKey self now asked).trust = link.trust := by
  unfold Link.withKey
  split_ifs <;> rfl

theorem keyAccepted_trust {link keyed : Link} {now : Nat}
    (accepted : link.keyAccepted self now = some keyed) : keyed.trust = link.trust := by
  simp only [Link.keyAccepted] at accepted
  split_ifs at accepted
  all_goals
    rw [← Option.some.inj accepted]
    simp only [withKey_trust]

theorem keyAccepted_isSome (trust : TrustLevel) (requiresE2e : Bool)
    (ed25519Public x25519Public : String) (now : Nat) :
    ((metLink trust requiresE2e ed25519Public x25519Public).keyAccepted self now).isSome = true ↔
      (requiresE2e = true → x25519Public ≠ "" ∧ (self.exchange x25519Public).isSome = true) := by
  cases requiresE2e with
  | false => simp [Link.keyAccepted, Link.withKey, metLink, Link.opened, Link.meet]
  | true =>
    by_cases named : x25519Public = ""
    · simp [Link.keyAccepted, Link.withKey, metLink, Link.opened, Link.meet, named]
    · cases derived : self.exchange x25519Public with
      | none => simp [Link.keyAccepted, Link.withKey, Link.deriveSessionKey, metLink, Link.opened,
          Link.meet, named, derived]
      | some key => simp [Link.keyAccepted, Link.withKey, Link.deriveSessionKey, metLink,
          Link.opened, Link.meet, named, derived]

variable {userId : String} {hello : Hello}

theorem decideNodeTrust_proved (requiresE2e : Bool)
    (proved : provesSameUser p userId hello = true) :
    decideNodeTrust p userId hello
        (metLink .peer requiresE2e hello.ed25519Public hello.x25519Public) =
      some (metLink .sameUser requiresE2e hello.ed25519Public hello.x25519Public) := by
  simp only [decideNodeTrust, proved, ↓reduceIte]
  rfl

theorem decideNodeTrust_unproved {requiresE2e : Bool} {link : Link}
    (unproved : provesSameUser p userId hello = false)
    (decided : decideNodeTrust p userId hello
      (metLink .peer requiresE2e hello.ed25519Public hello.x25519Public) = some link) :
    link.trust = .peer := by
  have set : (metLink .peer requiresE2e hello.ed25519Public hello.x25519Public).setTrust .peer = _ :=
    setTrust_met (by decide)
  have level : (metLink .peer requiresE2e hello.ed25519Public hello.x25519Public).trust = .peer := rfl
  simp only [decideNodeTrust, unproved, Bool.false_eq_true, ↓reduceIte, set, level] at decided
  rw [if_neg (by decide)] at decided
  split at decided
  · split_ifs at decided
    rw [← Option.some.inj decided, level]
  · rw [← Option.some.inj decided, level]

/-- The trust of the same user is granted to who is let in and asks with a proof. -/
theorem granted_iff (policy : Policy) (now : Nat) (requiresE2e : Bool) (received : Signed Hello) :
    (∃ answered ∈ completeHandshake p self policy now (Link.opened .peer requiresE2e) received,
      answered.1.trust = .sameUser) ↔
      admits p policy received.content.ed25519Public (p.helloText received.content)
        received.signature = true ∧ Admissions.Asks p self received requiresE2e := by
  have asked := @keyAccepted_isSome self .sameUser requiresE2e
    received.content.ed25519Public received.content.x25519Public now
  by_cases letIn : admits p policy received.content.ed25519Public (p.helloText received.content)
      received.signature = true
  · have completed : completeHandshake p self policy now (Link.opened .peer requiresE2e) received =
        (decideNodeTrust p self.userId received.content (metLink .peer requiresE2e
          received.content.ed25519Public received.content.x25519Public)).bind fun decided =>
            (decided.keyAccepted self now).map fun keyed => (keyed, self.ack p now) := if_pos letIn
    rw [completed, Admissions.Asks, ← asked]
    cases proved : provesSameUser p self.userId received.content with
    | true =>
      rw [decideNodeTrust_proved requiresE2e proved, Option.bind_some]
      constructor
      · rintro ⟨answered, member, -⟩
        obtain ⟨keyed, accepted, -⟩ := Option.map_eq_some_iff.mp member
        exact ⟨letIn, rfl, Option.isSome_of_mem accepted⟩
      · rintro ⟨-, -, keyed⟩
        obtain ⟨link, accepted⟩ := Option.isSome_iff_exists.mp keyed
        exact ⟨(link, self.ack p now), by rw [accepted]; rfl, keyAccepted_trust accepted⟩
    | false =>
      constructor
      · rintro ⟨answered, member, level⟩
        obtain ⟨link, decided, mapped⟩ := Option.bind_eq_some_iff.mp member
        obtain ⟨keyed, accepted, same⟩ := Option.map_eq_some_iff.mp mapped
        have peer := decideNodeTrust_unproved proved decided
        rw [← same, keyAccepted_trust accepted, peer] at level
        cases level
      · rintro ⟨-, impossible, -⟩
        cases impossible
  · have refused : completeHandshake p self policy now (Link.opened .peer requiresE2e) received =
        none := if_neg letIn
    rw [refused]
    constructor
    · rintro ⟨answered, impossible, -⟩
      cases impossible
    · intro both
      exact absurd both.1 letIn

end Granting

section Whole
variable {world : World Party} {p : Primitives} {self : Node} {s : Admissions Party}

namespace Admissions

def Held (world : World Party) (s : Admissions Party) : Prop :=
  ∀ made ∈ s.signed, (world.holder made.1).isSome = true

theorem ownKey_or_strangerKey {key : String} (held : (world.holder key).isSome = true) :
    world.ownKey key = true ∨ world.strangerKey key = true := by
  obtain ⟨party, holds⟩ := Option.isSome_iff_exists.mp held
  cases own : world.own party with
  | true => exact Or.inl (by simp [World.ownKey, holds, own])
  | false => exact Or.inr (by simp [World.strangerKey, holds, own])

/-- A party that is let in with a proof borrows one of the three ways. -/
theorem borrows_of_let_in (held : s.Held world) {far : Party} {received : Signed Hello}
    {requiresE2e ownerAdmits : Bool} {now : Nat}
    (possible : s.Possible world p (.hello far received requiresE2e ownerAdmits now))
    (letIn : admits p ⟨true, ownerAdmits⟩ received.content.ed25519Public
      (p.helloText received.content) received.signature = true)
    (asks : Asks p self received requiresE2e) :
    s.Borrows world p self received ownerAdmits := by
  obtain ⟨signedBy, provedBy, -⟩ := possible
  have proves := asks.1
  simp only [provesSameUser, verifySameUserProof, Bool.and_eq_true, decide_eq_true_eq] at proves
  obtain ⟨-, named, proof⟩ := proves
  have made := provedBy _ _ proof
  rcases ownKey_or_strangerKey (held _ made) with own | stranger
  · by_cases missing : received.signature = ""
    · rw [admits, if_neg (by simp [missing])] at letIn
      exact Or.inr (Or.inr ⟨own, missing, by simpa using letIn⟩)
    · rw [admits, if_pos ⟨named.2, missing⟩] at letIn
      exact Or.inr (Or.inl ⟨own, signedBy _ _ letIn, missing, letIn⟩)
  · exact Or.inl ⟨stranger, made, letIn⟩

theorem let_in_of_borrows {received : Signed Hello} {requiresE2e ownerAdmits : Bool}
    (asks : Asks p self received requiresE2e)
    (borrows : s.Borrows world p self received ownerAdmits) :
    admits p ⟨true, ownerAdmits⟩ received.content.ed25519Public (p.helloText received.content)
      received.signature = true := by
  have proves := asks.1
  simp only [provesSameUser, verifySameUserProof, Bool.and_eq_true, decide_eq_true_eq] at proves
  obtain ⟨-, named, -⟩ := proves
  rcases borrows with ⟨-, -, letIn⟩ | ⟨-, -, signed, verified⟩ | ⟨-, missing, admitted⟩
  · exact letIn
  · rw [admits, if_pos ⟨named.2, signed⟩]
    exact verified
  · rw [admits, if_neg (by simp [missing]), admitted]
    rfl

theorem held_step (held : s.Held world) (event : Inbound Party)
    (possible : s.Possible world p event) : (s.step p self event).Held world := by
  cases event with
  | signs party key text =>
    intro made member
    rcases List.mem_cons.mp member with rfl | before
    · exact Option.isSome_of_mem possible
    · exact held made before
  | hello far received requiresE2e ownerAdmits now =>
    simp only [step]
    split
    · exact held
    · exact held

theorem genuine_hello_iff (held : s.Held world) {far : Party} {received : Signed Hello}
    {requiresE2e ownerAdmits : Bool} {now : Nat}
    (possible : s.Possible world p (.hello far received requiresE2e ownerAdmits now))
    (genuine : s.Genuine world) :
    (s.step p self (.hello far received requiresE2e ownerAdmits now)).Genuine world ↔
      s.Straight world p self (.hello far received requiresE2e ownerAdmits now) := by
  have granted := @granted_iff p self ⟨true, ownerAdmits⟩ now requiresE2e received
  simp only [step, Straight]
  cases completed : completeHandshake p self ⟨true, ownerAdmits⟩ now
      (Link.opened .peer requiresE2e) received with
  | none =>
      refine ⟨fun _ => Or.inr ?_, fun _ => genuine⟩
      rintro ⟨asks, borrows⟩
      obtain ⟨answered, member, -⟩ := granted.mpr ⟨let_in_of_borrows asks borrows, asks⟩
      rw [completed] at member
      cases member
  | some answered =>
      constructor
      · intro after
        by_contra crooked
        obtain ⟨stranger, impostor⟩ := not_or.mp crooked
        obtain ⟨asks, borrows⟩ := not_not.mp impostor
        obtain ⟨answered', member, level⟩ := granted.mpr ⟨let_in_of_borrows asks borrows, asks⟩
        rw [completed] at member
        obtain rfl := Option.some.inj member
        exact stranger (after _ List.mem_cons_self level).1
      · rintro straight link member level
        rcases List.mem_cons.mp member with rfl | before
        · obtain ⟨letIn, asks⟩ := granted.mp ⟨answered, completed, level⟩
          rcases straight with own | honest
          · exact ⟨own, possible.2.2 own⟩
          · exact absurd ⟨asks, borrows_of_let_in held possible letIn asks⟩ honest
        · exact genuine link before level

end Admissions

/-- In every run that is possible, the trust of the same user goes to nodes of that user alone
exactly when no stranger asks for it with what it borrows. -/
theorem sameUser_genuine_iff (world : World Party) (p : Primitives) (self : Node)
    (run : List (Inbound Party))
    (possible : Along (Admissions.step p self) (Admissions.Possible world p) .start run) :
    Always (Admissions.step p self) (Admissions.Genuine world) .start run ↔
      Along (Admissions.step p self) (Admissions.Straight world p self) .start run := by
  refine always_iff_along_of_allowed _ (Admissions.Held world) _ _ _
    (fun _ event held allowed => Admissions.held_step held event allowed) ?_ run .start
    (by simp [Admissions.Held, Admissions.start]) possible
    (by simp [Admissions.Genuine, Admissions.start])
  intro s event held allowed genuine
  cases event with
  | signs => exact ⟨fun _ => trivial, fun _ => genuine⟩
  | hello far received requiresE2e ownerAdmits now =>
    exact Admissions.genuine_hello_iff held allowed genuine

end Whole

end Runs

/-! A node of the user and a stranger, with all signatures there are. -/

section Samples

def signatures : List (String × String × String) :=
  [("a", "user", "a1"), ("a", "home", "a2"), ("m", "user", "m1"), ("m", "away", "m2")]

def tabled : Primitives where
  verify key text signature := decide ((key, text, signature) ∈ signatures)
  helloText := Hello.nodeId
  ackText := HelloAck.x25519Public
  contractHolds _ := true

def sampleWorld : World Bool where
  holder key := if key = "a" then some true else if key = "m" then some false else none
  own := id

def signing : List (Inbound Bool) :=
  signatures.map fun made => .signs (made.1 = "a") made.1 made.2.1

def homeHello : Signed Hello := ⟨⟨"home", "a", "x", "same_user", "a1", none, 1⟩, "a2"⟩

def claimingHello : Signed Hello := ⟨⟨"away", "m", "y", "same_user", "m1", none, 3⟩, "m2"⟩

def helloRun (far : Bool) (received : Signed Hello) : List (Inbound Bool) :=
  signing ++ [.hello far received false false 5]

def sampleSelf : Node := sampleNode "b" "user" "a"

theorem tabled_made {key text signature : String} (verified : tabled.verify key text signature = true) :
    (key, text) ∈ signatures.map fun made => (made.1, made.2.1) :=
  List.mem_map.mpr ⟨_, of_decide_eq_true verified, rfl⟩

theorem helloRun_possible (far : Bool) (received : Signed Hello)
    (own : far = true → received.content.ed25519Public = "a") :
    Along (Admissions.step tabled sampleSelf) (Admissions.Possible sampleWorld tabled) .start
      (helloRun far received) := by
  have all : ∀ key text signature, tabled.verify key text signature = true → (key, text) ∈
      (final (Admissions.step tabled sampleSelf) .start signing : Admissions Bool).signed :=
    fun key text signature verified => (List.mem_reverse.mpr (tabled_made verified))
  rw [helloRun, along_append]
  refine ⟨?_, ⟨?_, ?_, ?_⟩, trivial⟩
  · exact ⟨rfl, rfl, rfl, rfl, trivial⟩
  · exact fun key text => all key text _
  · exact fun key text => all key text _
  · intro home
    have same : far = true := home
    rw [own same, same]
    rfl

theorem home_genuine : ⟨true, "a", .sameUser⟩ ∈ (final (Admissions.step tabled sampleSelf) .start
      (helloRun true homeHello) : Admissions Bool).links ∧
    Always (Admissions.step tabled sampleSelf) (Admissions.Genuine sampleWorld) .start
      (helloRun true homeHello) := by
  have straight : Along (Admissions.step tabled sampleSelf)
      (Admissions.Straight sampleWorld tabled sampleSelf) .start (helloRun true homeHello) := by
    rw [helloRun, along_append]
    exact ⟨⟨trivial, trivial, trivial, trivial, trivial⟩, Or.inl rfl, trivial⟩
  have same := sameUser_genuine_iff sampleWorld tabled sampleSelf (helloRun true homeHello)
    (helloRun_possible true homeHello fun _ => rfl)
  exact ⟨by decide +kernel, same.mpr straight⟩

theorem stranger_trusted : ¬ ∀ (world : World Bool) (p : Primitives) (self : Node)
    (run : List (Inbound Bool)),
    Along (Admissions.step p self) (Admissions.Possible world p) .start run →
      Always (Admissions.step p self) (Admissions.Genuine world) .start run := by
  intro genuine
  have all := always_final (genuine sampleWorld tabled sampleSelf (helloRun false claimingHello)
    (helloRun_possible false claimingHello fun impossible => absurd impossible (by decide)))
  have trusted : ⟨false, "m", .sameUser⟩ ∈ (final (Admissions.step tabled sampleSelf) .start
      (helloRun false claimingHello) : Admissions Bool).links := by
    decide +kernel
  exact absurd (all _ trusted rfl).1 (by decide)

end Samples

end Hartos.PeerLink
