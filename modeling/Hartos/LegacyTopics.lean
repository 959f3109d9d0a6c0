import Hartos.MessageBus

/-!
The two ways back from a Crossbar URI to a topic: one asks for a segment boundary after the
declared base, the other takes any URI that begins with it.
-/
namespace Hartos.Bus

abbrev BaseEntry := String × String

variable (uri : String)

def begins (entry : BaseEntry) : Bool := entry.1.toList.isPrefixOf uri.toList

def bounded (entry : BaseEntry) : Bool :=
  decide (uri = entry.1) || (entry.1.toList ++ ['.']).isPrefixOf uri.toList

def receiveIn (table : List BaseEntry) (uri : String) : Option String :=
  (table.find? (begins uri)).map Prod.snd

def resolveIn (table : List BaseEntry) (uri : String) : Option String × String :=
  match table.find? (bounded uri) with
  | some entry =>
      (some entry.2,
        if uri = entry.1 then "" else String.ofList (uri.toList.drop (entry.1.toList.length + 1)))
  | none => (none, "")

/-- The topic that `receive_from_crossbar` finds before it lets an unknown URI pass through. -/
def receiveTopic : Option String := receiveIn REVERSE_MAP uri

def resolveLegacyTopic : Option String × String := resolveIn REVERSE_MAP uri

variable (uri : String) (entry : BaseEntry)

def placeholder (key userId deviceId : String) (data : Payload) : String :=
  if key = "user_id" then (if userId = "" then data.get "user_id" else userId)
  else if key = "device_id" then (if deviceId = "" then data.get "device_id" else deviceId)
  else data.get key

theorem legacyUri_keyed {topic base key : String} (declared : TOPIC_MAP.lookup topic =
    some ⟨base, some key⟩) (userId deviceId : String) (data : Payload) :
    legacyUri topic userId deviceId data =
      if placeholder key userId deviceId data = "" then none
      else some (base ++ "." ++ placeholder key userId deviceId data) := by
  rw [legacyUri, declared]
  rfl

section Search
variable {Element : Type} {table : List Element} {weak strong : Element → Bool}

-- What is found comes before whatever else could have been.
theorem find?_first {related : Element → Element → Prop} {found other : Element}
    (sorted : table.Pairwise related) (is : table.find? weak = some found) (member : other ∈ table)
    (hit : weak other = true) : other = found ∨ related found other := by
  obtain ⟨-, before, after, parts, missed⟩ := List.find?_eq_some_iff_append.mp is
  rw [parts] at member sorted
  rcases List.mem_append.mp member with early | late
  · have miss := missed other early
    rw [hit] at miss
    cases miss
  · rcases List.mem_cons.mp late with same | later
    · exact Or.inl same
    · exact Or.inr ((List.pairwise_cons.mp (List.pairwise_append.mp sorted).2.1).1 other later)

-- A search that asks for more finds the same exactly if what is found has it.
theorem find?_eq_iff (less : ∀ element, strong element = true → weak element = true) :
    table.find? weak = table.find? strong ↔
      ∀ element, table.find? weak = some element → strong element = true := by
  induction table with
  | nil =>
    apply iff_of_true rfl
    intro element none
    cases none
  | cons head rest ih =>
    rw [List.find?_cons, List.find?_cons]
    cases here : weak head with
    | false =>
      have neither : strong head = false := by
        rw [← Bool.not_eq_true]
        intro more
        rw [less head more] at here
        cases here
      rw [neither]
      exact ih
    | true =>
      constructor
      · intro same element is
        cases Option.some.inj is
        cases more : strong head with
        | true => rfl
        | false =>
          rw [more] at same
          have hit := List.find?_some same.symm
          rw [more] at hit
          exact hit
      · intro all
        rw [all head rfl]

end Search

theorem begins_starts (begun : begins uri entry = true) : entry.1.toList <+: uri.toList :=
  List.isPrefixOf_iff_prefix.mp begun

theorem bounded_begins (bound : bounded uri entry = true) : begins uri entry = true := by
  rw [begins, List.isPrefixOf_iff_prefix]
  rcases Bool.or_eq_true_iff.mp bound with same | dotted
  · exact ⟨[], by rw [List.append_nil, of_decide_eq_true same]⟩
  · exact (List.prefix_append _ _).trans (List.isPrefixOf_iff_prefix.mp dotted)

structure Declared (table : List BaseEntry) : Prop where
  sorted : table.Pairwise fun first second => second.1.length ≤ first.1.length
  unique : ∀ first ∈ table, ∀ second ∈ table, first.1 = second.1 ∨ first.2 = second.2 →
    first = second

section Tables
variable {table : List BaseEntry} (declared : Declared table)
include declared

theorem agree_iff (uri : String) :
    receiveIn table uri = (resolveIn table uri).1 ↔
      ∀ entry, table.find? (begins uri) = some entry → bounded uri entry = true := by
  have topic : (resolveIn table uri).1 = (table.find? (bounded uri)).map Prod.snd := by
    rw [resolveIn]
    cases table.find? (bounded uri) <;> rfl
  rw [← find?_eq_iff (bounded_begins uri), topic, receiveIn]
  constructor
  · intro same
    cases left : table.find? (begins uri) with
    | none =>
      rw [left] at same
      exact (Option.map_eq_none_iff.mp same.symm).symm
    | some entry =>
      rw [left] at same
      obtain ⟨other, right, topic⟩ := Option.map_eq_some_iff.mp same.symm
      rw [right, declared.unique entry (List.mem_of_find?_eq_some left) other
        (List.mem_of_find?_eq_some right) (Or.inr topic.symm)]
  · intro same
    rw [same]

theorem find_longest {test : BaseEntry → Bool} {letters : List Char}
    (starts : ∀ entry, test entry = true → entry.1.toList <+: letters) {base topic : String}
    (own : (base, topic) ∈ table) (hit : test (base, topic) = true)
    (most : ∀ entry ∈ table, test entry = true → entry.1.length ≤ base.length) :
    table.find? test = some (base, topic) := by
  obtain ⟨entry, is⟩ := Option.isSome_iff_exists.mp (List.find?_isSome.mpr ⟨_, own, hit⟩)
  have member := List.mem_of_find?_eq_some is
  have found := List.find?_some is
  have longest : base.length ≤ entry.1.length := by
    rcases find?_first declared.sorted is own hit with same | shorter
    · rw [← same]
    · exact shorter
  -- Two beginnings of one text that are equally long are one.
  have equal := Nat.le_antisymm (most entry member found) longest
  have same := List.IsPrefix.eq_of_length (List.prefix_of_prefix_length_le (starts entry found)
    (starts _ hit) (Nat.le_of_eq equal)) equal
  rw [is, declared.unique entry member _ own (Or.inl (String.toList_injective same))]

-- Of the bases that begin a URI none is longer than its own exactly if it comes back.
theorem back_iff {base topic : String} (own : (base, topic) ∈ table) (value : String) :
    resolveIn table (base ++ "." ++ value) = (some topic, value) ∧
        receiveIn table (base ++ "." ++ value) = some topic ↔
      ∀ entry ∈ table, begins (base ++ "." ++ value) entry = true →
        entry.1.length ≤ base.length := by
  have letters : (base ++ "." ++ value).toList = base.toList ++ '.' :: value.toList := by
    rw [String.toList_append, String.toList_append, List.append_assoc]
    rfl
  have bound : bounded (base ++ "." ++ value) (base, topic) = true := by
    rw [bounded, letters, Bool.or_eq_true_iff, List.isPrefixOf_iff_prefix]
    exact Or.inr ⟨value.toList, by rw [List.append_assoc]; rfl⟩
  have begun := bounded_begins _ _ bound
  constructor
  · rintro ⟨-, received⟩ entry member hit
    obtain ⟨found, is, named⟩ := Option.map_eq_some_iff.mp received
    have same := declared.unique found (List.mem_of_find?_eq_some is) _ own (Or.inr named)
    rw [same] at is
    rcases find?_first declared.sorted is member hit with rfl | shorter
    · exact Nat.le_refl _
    · exact shorter
  · intro clear
    have found := find_longest declared (begins_starts _) own begun clear
    have resolved := find_longest declared
      (fun entry bound => begins_starts _ entry (bounded_begins _ entry bound)) own bound
      fun entry member bound => clear entry member (bounded_begins _ entry bound)
    constructor
    · have longer : base ++ "." ++ value ≠ base := by
        intro same
        have lengths := congrArg (fun text => text.toList.length) same
        rw [letters, List.length_append, List.length_cons] at lengths
        omega
      rw [resolveIn, resolved]
      dsimp only
      rw [if_neg longer, letters, List.drop_append, List.drop_of_length_le (Nat.le_succ _),
        Nat.add_sub_cancel_left]
      exact congrArg (Prod.mk (some topic)) String.ofList_toList
    · rw [receiveIn, found]
      rfl

end Tables

theorem mem_reverseMap {entry : BaseEntry} :
    entry ∈ REVERSE_MAP ↔ ∃ row ∈ TOPIC_MAP, (row.2.base, row.1) = entry := by
  rw [REVERSE_MAP, (List.perm_insertionSort _ _).mem_iff, List.mem_map]

theorem reverseMap_declared : Declared REVERSE_MAP where
  sorted := by
    have total : Std.Total fun first second : BaseEntry => second.1.length ≤ first.1.length :=
      ⟨fun first second => Nat.le_total second.1.length first.1.length⟩
    have trans : IsTrans BaseEntry fun first second => second.1.length ≤ first.1.length :=
      ⟨fun _ _ _ left right => Nat.le_trans right left⟩
    exact List.pairwise_insertionSort _ _
  unique first left second right same := by
    have bases : (TOPIC_MAP.map fun row => row.2.base).Nodup := by decide +kernel
    have topics : (TOPIC_MAP.map Prod.fst).Nodup := by decide +kernel
    obtain ⟨row, here, rfl⟩ := mem_reverseMap.mp left
    obtain ⟨other, there, rfl⟩ := mem_reverseMap.mp right
    rcases same with base | topic
    · rw [List.inj_on_of_nodup_map bases here there base]
    · rw [List.inj_on_of_nodup_map topics here there topic]

def EndsSegment (uri : String) : Prop :=
  ∀ entry, REVERSE_MAP.find? (begins uri) = some entry → bounded uri entry = true

variable (topic userId deviceId : String) (data : Payload)

def RoundTrips : Prop :=
  ∀ base key uri, TOPIC_MAP.lookup topic = some ⟨base, some key⟩ →
    legacyUri topic userId deviceId data = some uri →
    resolveLegacyTopic uri = (some topic, placeholder key userId deviceId data) ∧
      receiveTopic uri = some topic

def Clear : Prop :=
  ∀ base key uri, TOPIC_MAP.lookup topic = some ⟨base, some key⟩ →
    legacyUri topic userId deviceId data = some uri →
    ∀ entry ∈ REVERSE_MAP, begins uri entry = true → entry.1.length ≤ base.length

theorem round_trips_iff :
    RoundTrips topic userId deviceId data ↔ Clear topic userId deviceId data := by
  rw [RoundTrips, Clear]
  apply forall_congr'
  intro base
  apply forall_congr'
  intro key
  apply forall_congr'
  intro uri
  apply forall_congr'
  intro declared
  apply forall_congr'
  intro made
  rw [legacyUri_keyed declared] at made
  split at made
  · cases made
  · cases Option.some.inj made
    obtain ⟨_, _, rows, -⟩ := List.lookup_eq_some_iff.mp declared
    have own : (base, topic) ∈ REVERSE_MAP :=
      mem_reverseMap.mpr ⟨_, rows ▸ List.mem_append_right _ List.mem_cons_self, rfl⟩
    exact back_iff reverseMap_declared own _

/-- The two matchers agree on a URI exactly if the longest base that begins it ends at a segment;
a value comes back, and is delivered, under its own topic exactly if no longer base begins the URI
that it makes. -/
theorem legacy_topics_iff (uri topic userId deviceId : String) (data : Payload) :
    (receiveTopic uri = (resolveLegacyTopic uri).1 ↔ EndsSegment uri) ∧
      (RoundTrips topic userId deviceId data ↔ Clear topic userId deviceId data) :=
  ⟨agree_iff reverseMap_declared uri, round_trips_iff topic userId deviceId data⟩

/-- The URI of a user whose id begins like a segment is another topic's. -/
theorem chatty_delivered_elsewhere :
    ¬RoundTrips "chat.general" "chatty" "" ⟨none, none, none, []⟩ := by
  rw [round_trips_iff]
  intro clear
  have shorter := clear "com.hertzai.hevolve" "user_id" "com.hertzai.hevolve.chatty"
    (by decide +kernel) (by decide +kernel) ("com.hertzai.hevolve.chat", "chat.response")
    (mem_reverseMap.mpr ⟨("chat.response", ⟨"com.hertzai.hevolve.chat", some "user_id"⟩),
      by decide, rfl⟩) (by decide +kernel)
  revert shorter
  decide +kernel

end Hartos.Bus
