import Hartos.AuditLog
import Mathlib.Data.List.Induction
import Mathlib.Data.String.Basic

/-!
What a change of one row of the audit log, or the loss of one, does to its verification.
-/
namespace Hartos.AuditLog

structure Digest (sha256 : String → String) : Prop where
  injective : ∀ first second, sha256 first = sha256 second → first = second
  plain : ∀ text, '|' ∉ (sha256 text).toList
  not_genesis : ∀ text, sha256 text ≠ "genesis"

def lastHash (prevHash : String) (entries : List Entry) : String :=
  entries.foldl (fun _ entry => entry.entryHash) prevHash

def Chained (sha256 : String → String) (prevHash : String) (entries : List Entry) : Prop :=
  chainBreak sha256 prevHash entries = none

theorem before_bar {bar : Char} {first second rest rest' : List Char} (free : bar ∉ first)
    (free' : bar ∉ second) (same : first ++ bar :: rest = second ++ bar :: rest') :
    first = second := by
  induction first generalizing second with
  | nil =>
    cases second with
    | nil => rfl
    | cons letter second =>
      cases same
      exact absurd List.mem_cons_self free'
  | cons letter first ih =>
    cases second with
    | nil =>
      cases same
      exact absurd List.mem_cons_self free
    | cons letter' second =>
      obtain ⟨same', rests⟩ := List.cons.inj same
      rw [same', ih (fun member => free (List.mem_cons_of_mem _ member))
        (fun member => free' (List.mem_cons_of_mem _ member)) rests]

section Chains
variable {sha256 : String → String} {prevHash : String} {entry : Entry}

@[simp] theorem chained_nil : Chained sha256 prevHash [] := rfl

@[simp] theorem chained_cons {rest : List Entry} : Chained sha256 prevHash (entry :: rest) ↔
    entry.entryHash = entry.expected sha256 prevHash ∧ Chained sha256 entry.entryHash rest := by
  unfold Chained
  simp only [chainBreak]
  by_cases same : entry.entryHash = entry.expected sha256 prevHash <;> simp [same]

theorem chained_append {first second : List Entry} : Chained sha256 prevHash (first ++ second) ↔
    Chained sha256 prevHash first ∧ Chained sha256 (lastHash prevHash first) second := by
  induction first generalizing prevHash with
  | nil => simp [lastHash]
  | cons entry rest ih =>
    rw [List.cons_append, chained_cons, chained_cons, ih, and_assoc]
    rfl

theorem verifyChain_fst (table : List Entry) (limit : Nat) (fits : table.length ≤ limit) :
    (verifyChain sha256 table limit).1 = true ↔ Chained sha256 "genesis" table := by
  simp only [verifyChain, List.take_of_length_le fits]
  unfold Chained
  by_cases empty : table = []
  · simp [empty, chainBreak]
  · rw [if_neg empty]
    cases chainBreak sha256 "genesis" table <;> simp

theorem lastHash_snoc (entries : List Entry) :
    lastHash prevHash (entries ++ [entry]) = entry.entryHash := by
  simp [lastHash]

theorem text_prevHash {other : Entry} {prevHash' : String} (plain : '|' ∉ prevHash.toList)
    (plain' : '|' ∉ prevHash'.toList) (same : entry.text prevHash = other.text prevHash') :
    prevHash = prevHash' := by
  have letters := congrArg String.toList same
  simp only [Entry.text, payload, String.toList_append, List.append_assoc] at letters
  exact String.toList_inj.mp (before_bar plain plain' letters)

variable (digest : Digest sha256)
include digest

theorem plain_of_chained {entries : List Entry} (chained : Chained sha256 "genesis" entries) :
    '|' ∉ (lastHash "genesis" entries).toList := by
  induction entries using List.reverseRecOn with
  | nil => decide
  | append_singleton entries entry _ =>
    rw [chained_append, chained_cons] at chained
    rw [lastHash_snoc, chained.2.1]
    exact digest.plain _

variable {entries more : List Entry}

-- No two entries of a valid chain have the same hash, and none has the first predecessor's.
theorem lastHash_ne_later {newest : Entry}
    (chained : Chained sha256 "genesis" (entries ++ (more ++ [newest]))) :
    lastHash "genesis" entries ≠ newest.entryHash := by
  intro same
  induction entries using List.reverseRecOn generalizing more newest with
  | nil =>
    rw [List.nil_append] at chained
    have hashed := (chained_cons.mp (chained_append.mp chained).2).1
    exact digest.not_genesis _ (hashed.symm.trans same.symm)
  | append_singleton entries entry ih =>
    -- Equal hashes have equal texts, so their predecessors' hashes are equal as well.
    rw [lastHash_snoc] at same
    rw [← List.append_assoc] at chained
    obtain ⟨before, own⟩ := chained_append.mp chained
    obtain ⟨inner, _⟩ := chained_append.mp before
    obtain ⟨innermost, last⟩ := chained_append.mp inner
    have hashed := (chained_cons.mp own).1
    have hashed' := (chained_cons.mp last).1
    have texts := digest.injective _ _ (hashed'.symm.trans (same.trans hashed))
    have back := text_prevHash (plain_of_chained digest innermost) (plain_of_chained digest before)
      texts
    rcases List.eq_nil_or_concat more with rfl | ⟨shorter, latest, rfl⟩
    · rw [List.append_nil, lastHash_snoc] at back
      have within : Chained sha256 "genesis" (entries ++ ([] ++ [entry])) := inner
      exact ih within back
    · rw [List.concat_eq_append, ← List.append_assoc, lastHash_snoc] at back
      have within : Chained sha256 "genesis" (entries ++ (entry :: shorter ++ [latest])) := by
        simpa using before
      exact ih within back

/-- An entry that is there fits on no other place of the chain. -/
theorem lastHash_unique (chained : Chained sha256 "genesis" (entries ++ more))
    (same : lastHash "genesis" entries = lastHash "genesis" (entries ++ more)) : more = [] := by
  rcases List.eq_nil_or_concat more with rfl | ⟨shorter, latest, rfl⟩
  · rfl
  · rw [List.concat_eq_append] at chained same
    rw [← List.append_assoc, lastHash_snoc] at same
    exact absurd same (lastHash_ne_later digest chained)

end Chains

section Order
variable {entry : Entry}

/-- Whatever the new row's id, it stands between the smaller ids and the larger. -/
theorem insertById_split {table : List Entry} (ordered : Ordered table)
    (apart : ∀ other ∈ table, other.id ≠ entry.id) :
    ∃ left right, table = left ++ right ∧ insertById entry table = left ++ entry :: right ∧
      (∀ other ∈ left, other.id < entry.id) ∧ ∀ other ∈ right, entry.id < other.id := by
  induction table with
  | nil => exact ⟨[], [], rfl, rfl, fun _ member => (nomatch member), fun _ member => (nomatch member)⟩
  | cons other rest ih =>
    obtain ⟨ahead, tail⟩ := List.pairwise_cons.mp ordered
    by_cases less : entry.id < other.id
    · refine ⟨[], other :: rest, rfl, if_pos less, fun _ member => (nomatch member), ?_⟩
      intro later member
      rcases List.mem_cons.mp member with rfl | member
      · exact less
      · exact less.trans (ahead later member)
    · obtain ⟨left, right, parts, inserted, smaller, larger⟩ :=
        ih tail fun later member => apart later (List.mem_cons_of_mem _ member)
      refine ⟨other :: left, right, congrArg _ parts, ?_, ?_, larger⟩
      · rw [insertById, if_neg less, inserted]
        rfl
      · intro earlier member
        rcases List.mem_cons.mp member with rfl | member
        · have := apart earlier List.mem_cons_self
          omega
        · exact smaller earlier member

end Order

structure Unseen (sha256 : String → String) (before after : List Entry) (entry changed : Entry) :
    Prop where
  above : ∀ other ∈ before, other.id < changed.id
  below : ∀ other ∈ after, changed.id < other.id
  hashed : changed.entryHash = changed.expected sha256 (lastHash "genesis" before)
  followed : after ≠ [] → changed.entryHash = entry.entryHash ∧
    changed.text (lastHash "genesis" before) = entry.text (lastHash "genesis" before)

section Tampering
variable {sha256 : String → String} {before after : List Entry} {entry changed : Entry}
variable (digest : Digest sha256)
variable (chained : Chained sha256 "genesis" (before ++ entry :: after))
include digest chained

theorem chained_replaced_iff : Chained sha256 "genesis" (before ++ changed :: after) ↔
    changed.entryHash = changed.expected sha256 (lastHash "genesis" before) ∧
      (after ≠ [] → changed.entryHash = entry.entryHash ∧
        changed.text (lastHash "genesis" before) = entry.text (lastHash "genesis" before)) := by
  obtain ⟨prefixed, rest⟩ := chained_append.mp chained
  obtain ⟨hashed, suffixed⟩ := chained_cons.mp rest
  rw [chained_append, chained_cons, and_iff_right prefixed]
  apply and_congr_right
  intro hashed'
  constructor
  · intro suffixed' some
    have same : changed.entryHash = entry.entryHash := by
      obtain ⟨next, later, rfl⟩ := List.exists_cons_of_ne_nil some
      have texts := digest.injective _ _ ((chained_cons.mp suffixed').1.symm.trans
        (chained_cons.mp suffixed).1)
      exact text_prevHash (hashed' ▸ digest.plain _) (hashed ▸ digest.plain _) texts
    exact ⟨same, digest.injective _ _ (hashed'.symm.trans (same.trans hashed))⟩
  · intro kept
    by_cases empty : after = []
    · rw [empty]
      exact chained_nil
    · rw [(kept empty).1]
      exact suffixed

theorem not_chained_moved {left right : List Entry} (parts : before ++ after = left ++ right)
    (moved : left ≠ before) : ¬ Chained sha256 "genesis" (left ++ changed :: right) := by
  intro tampered
  rcases List.append_eq_append_iff.mp parts with ⟨between, rfl, rfl⟩ | ⟨between, rfl, rfl⟩
  · -- The entry after the old place follows on its predecessor's predecessor.
    obtain ⟨next, later, rfl⟩ : ∃ next later, between = next :: later :=
      List.exists_cons_of_ne_nil fun empty => moved (by rw [empty, List.append_nil])
    rw [List.append_assoc, List.cons_append] at tampered
    have hashed := (chained_cons.mp (chained_append.mp tampered).2).1
    have rest := (chained_append.mp chained).2
    have hashed' := (chained_cons.mp (chained_cons.mp rest).2).1
    have back := text_prevHash (plain_of_chained digest (chained_append.mp tampered).1)
      ((chained_cons.mp rest).1 ▸ digest.plain _)
      (digest.injective _ _ (hashed.symm.trans hashed'))
    have shorter : Chained sha256 "genesis" (before ++ [entry]) :=
      chained_append.mpr ⟨(chained_append.mp chained).1,
        chained_cons.mpr ⟨(chained_cons.mp rest).1, chained_nil⟩⟩
    rw [← @lastHash_snoc "genesis" _ before] at back
    exact absurd (lastHash_unique digest shorter back) (List.cons_ne_nil _ _)
  · -- The entry after the new place follows on the one that was put before it.
    obtain ⟨next, later, rfl⟩ : ∃ next later, between = next :: later :=
      List.exists_cons_of_ne_nil fun empty => moved (by rw [empty, List.append_nil])
    obtain ⟨prefixed, own⟩ := chained_append.mp tampered
    obtain ⟨hashed, following⟩ := chained_cons.mp own
    have original := (chained_append.mp (chained_append.mp chained).1).2
    have back := text_prevHash (hashed ▸ digest.plain _) (plain_of_chained digest prefixed)
      (digest.injective _ _ ((chained_cons.mp following).1.symm.trans
        (chained_cons.mp original).1))
    have longer : Chained sha256 "genesis" (left ++ [changed]) :=
      chained_append.mpr ⟨prefixed, chained_cons.mpr ⟨hashed, chained_nil⟩⟩
    rw [← @lastHash_snoc "genesis" _ left] at back
    exact absurd (lastHash_unique digest longer back.symm) (List.cons_ne_nil _ _)

theorem chained_without_iff : Chained sha256 "genesis" (before ++ after) ↔ after = [] := by
  obtain ⟨prefixed, rest⟩ := chained_append.mp chained
  constructor
  · intro shorter
    by_contra some
    obtain ⟨next, later, rfl⟩ := List.exists_cons_of_ne_nil some
    have hashed := (chained_cons.mp (chained_append.mp shorter).2).1
    have hashed' := (chained_cons.mp (chained_cons.mp rest).2).1
    have back := text_prevHash (plain_of_chained digest prefixed)
      ((chained_cons.mp rest).1 ▸ digest.plain _)
      (digest.injective _ _ (hashed.symm.trans hashed'))
    have own : Chained sha256 "genesis" (before ++ [entry]) :=
      chained_append.mpr ⟨prefixed, chained_cons.mpr ⟨(chained_cons.mp rest).1, chained_nil⟩⟩
    rw [← @lastHash_snoc "genesis" _ before] at back
    exact absurd (lastHash_unique digest own back) (List.cons_ne_nil _ _)
  · rintro rfl
    simpa using prefixed

omit chained in
/-- In a valid log a change of one row passes verification exactly when it is `Unseen`, and the
loss of one exactly when it was the last. -/
theorem tampering_detected_iff (limit : Nat) (ordered : Ordered (before ++ entry :: after))
    (fits : (before ++ entry :: after).length ≤ limit)
    (valid : (verifyChain sha256 (before ++ entry :: after) limit).1 = true) :
    (∀ changed, changed ≠ entry → (∀ other ∈ before ++ after, other.id ≠ changed.id) →
      ((verifyChain sha256 (insertById changed (before ++ after)) limit).1 = false ↔
        ¬ Unseen sha256 before after entry changed)) ∧
      ((verifyChain sha256 (before ++ after) limit).1 = false ↔ after ≠ []) := by
  have chained := (verifyChain_fst _ limit fits).mp valid
  have shorter : (before ++ after).length ≤ limit := by
    simp only [List.length_append, List.length_cons] at fits ⊢
    omega
  constructor
  · intro changed _ apart
    have kept : Ordered (before ++ after) :=
      ordered.sublist ((List.sublist_cons_self entry after).append_left before)
    obtain ⟨left, right, parts, inserted, smaller, larger⟩ := insertById_split kept apart
    have same : (left ++ changed :: right).length ≤ limit := by
      have lengths := congrArg List.length parts
      simp only [List.length_append, List.length_cons] at fits lengths ⊢
      omega
    rw [inserted, ← Bool.not_eq_true, verifyChain_fst _ limit same, not_iff_not]
    by_cases place : left = before
    · subst place
      obtain rfl : after = right := List.append_cancel_left parts
      rw [chained_replaced_iff digest chained]
      exact ⟨fun both => ⟨smaller, larger, both.1, both.2⟩,
        fun unseen => ⟨unseen.hashed, unseen.followed⟩⟩
    · constructor
      · exact fun tampered => absurd tampered (not_chained_moved digest chained parts place)
      · intro unseen
        -- The row keeps its place only if as many rows as before are below it.
        rcases List.append_eq_append_iff.mp parts with ⟨between, rfl, rfl⟩ | ⟨between, rfl, rfl⟩
        · obtain ⟨next, later, rfl⟩ : ∃ next later, between = next :: later :=
            List.exists_cons_of_ne_nil fun empty => place (by rw [empty, List.append_nil])
          have up := smaller next (by simp)
          have down := unseen.below next (by simp)
          omega
        · obtain ⟨next, later, rfl⟩ : ∃ next later, between = next :: later :=
            List.exists_cons_of_ne_nil fun empty => place (by rw [empty, List.append_nil])
          have up := larger next (by simp)
          have down := unseen.above next (by simp)
          omega
  · rw [← Bool.not_eq_true, verifyChain_fst _ limit shorter, chained_without_iff digest chained]

end Tampering

section Samples

def escape (letter : Char) : Char × Char := if letter = '|' then ('1', '1') else ('0', letter)

theorem escape_injective : Function.Injective escape := by
  intro first second same
  simp only [escape] at same
  split_ifs at same with bar bar'
  · exact bar.trans bar'.symm
  · cases same
  · cases same
  · exact congrArg Prod.snd same

theorem escape_plain (letter : Char) : (escape letter).1 ≠ '|' ∧ (escape letter).2 ≠ '|' := by
  unfold escape
  split_ifs with bar
  · decide
  · exact ⟨by simp, bar⟩

def escaped (letters : List Char) : List Char :=
  letters.flatMap fun letter => [(escape letter).1, (escape letter).2]

theorem escaped_injective : Function.Injective escaped := by
  intro first second same
  induction first generalizing second with
  | nil =>
    cases second with
    | nil => rfl
    | cons letter second => cases same
  | cons letter first ih =>
    cases second with
    | nil => cases same
    | cons letter' second =>
      obtain ⟨left, tail⟩ := List.cons.inj same
      obtain ⟨right, rests⟩ := List.cons.inj tail
      rw [escape_injective (Prod.ext left right), ih rests]

def sampleDigest (text : String) : String := String.ofList ('#' :: escaped text.toList)

theorem sampleDigest_digest : Digest sampleDigest where
  injective first second same := by
    have letters := String.ofList_injective same
    exact String.toList_inj.mp (escaped_injective (List.cons.inj letters).2)
  plain text := by
    rw [sampleDigest, String.toList_ofList, List.mem_cons, escaped, List.mem_flatMap]
    rintro (hash | ⟨letter, _, member⟩)
    · cases hash
    · rcases List.mem_cons.mp member with left | member
      · exact (escape_plain letter).1 left.symm
      · exact (escape_plain letter).2 (List.mem_singleton.mp member).symm
  not_genesis text same := by
    have letters := congrArg String.toList same
    rw [sampleDigest, String.toList_ofList] at letters
    exact absurd (List.cons.inj letters).1 (by decide)

def sampleEntry (id : Nat) (prevHash actorId action : String) : Entry :=
  let bare : Entry := ⟨id, "auth", actorId, none, action, none, prevHash, "", "t"⟩
  { bare with entryHash := bare.expected sampleDigest prevHash }

def firstEntry : Entry := sampleEntry 1 "genesis" "u" "in|x"

def secondEntry : Entry := sampleEntry 2 firstEntry.entryHash "u" "out"

theorem samples_ordered : Ordered ([] ++ firstEntry :: [secondEntry]) := by
  unfold Ordered
  decide +kernel

def shiftedEntry : Entry := { firstEntry with actorId := "u|in", action := "x" }

def retargetedEntry : Entry := { firstEntry with targetId := some "other" }

theorem shifted_unseen : ((verifyChain sampleDigest
    (insertById shiftedEntry ([] ++ [secondEntry])) 10).1 = false ↔
      ¬ Unseen sampleDigest [] [secondEntry] firstEntry shiftedEntry) ∧
    (verifyChain sampleDigest ([] ++ [secondEntry]) 10).1 = false :=
  have detected := @tampering_detected_iff sampleDigest [] [secondEntry] firstEntry
    sampleDigest_digest 10 samples_ordered (by decide) (by decide +kernel)
  ⟨detected.1 shiftedEntry (by decide +kernel) (by decide +kernel),
    detected.2.mpr (by decide +kernel)⟩

/-- The target of an event is not hashed, and no entry follows on the last. -/
theorem change_passes : ¬ ∀ sha256 : String → String, Digest sha256 →
    ∀ (before after : List Entry) (entry : Entry) (limit : Nat),
      Ordered (before ++ entry :: after) → (before ++ entry :: after).length ≤ limit →
      (verifyChain sha256 (before ++ entry :: after) limit).1 = true →
      (∀ changed, changed ≠ entry → (∀ other ∈ before ++ after, other.id ≠ changed.id) →
        (verifyChain sha256 (insertById changed (before ++ after)) limit).1 = false) ∧
      (verifyChain sha256 (before ++ after) limit).1 = false := by
  intro detected
  have kept : (verifyChain sampleDigest (insertById retargetedEntry ([] ++ [secondEntry])) 10).1 =
      true := by
    decide +kernel
  have lost := (detected sampleDigest sampleDigest_digest [] [secondEntry] firstEntry 10
    samples_ordered (by decide) (by decide +kernel)).1 retargetedEntry (by decide +kernel)
    (by decide +kernel)
  exact absurd (kept.symm.trans lost) (by decide)

end Samples
end Hartos.AuditLog
