import Hartos.UserFileQuotas

/-!
Operations made for one purpose leave the claims of the others, but for those that the
collection finds to have run out.
-/
namespace Hartos.UserFiles
open KeyedTable StepSystem

def Event.concerns (store : Store) : Event → PurposeName → Bool
  | .offer call _, name => decide (call.purpose = name)
  | .putFile _ _ _ purpose _ _ _, name => decide (purpose = name)
  | .delete _ purpose, name => purpose.all fun given => decide (given = name)
  | .bind _ _ purpose, name => purpose.all fun given => decide (given = name)
  | .markConsumed _ _, _ => true
  | .commitFinish xid _, name => (store.parts.get? xid).any fun part => part.offeredFor name
  | _, _ => false

def Event.collects : Event → Option Time
  | .offer _ found => some found.now
  | .putFile _ _ _ _ _ _ found => some found.now
  | .gc now _ => some now
  | _ => none

/-- What an operation leaves alone: the claims of other purposes that have not run out, and, if
it runs the collection, every file that has such a claim. -/
structure Spares (host : Host) (store : Store) (event : Event) : Prop where
  claims : ∀ name, event.concerns store name = false → ∀ xid claim,
    store.claimOf xid name = some claim →
    (step host store event).claimOf xid name = some claim ∨
      ∃ now, event.collects = some now ∧ store.claimExpired host now xid claim = true
  files : ∀ now, event.collects = some now → ∀ xid record name claim,
    store.inbox.get? xid = some record → record.claims.get? name = some claim →
    store.claimExpired host now xid claim = false →
    (step host store event).inFiles record.file = store.inFiles record.file

theorem claimOf_same {before after : Store} (same : SameFiles before after) (xid : Xid)
    (name : PurposeName) : after.claimOf xid name = before.claimOf xid name := by
  rw [Store.claimOf, Store.claimOf, same.1]

structure Changes (own : PurposeName → Bool) (before after : Store) : Prop where
  claims : ∀ xid name, own name = false → after.claimOf xid name = before.claimOf xid name
  files : ∀ xid record, before.inbox.get? xid = some record →
    after.inFiles record.file = before.inFiles record.file

section Spared

variable {host : Host} {store : Store}

theorem changes_same {own : PurposeName → Bool} {before after : Store}
    (same : SameFiles before after) : Changes own before after where
  claims xid name _ := claimOf_same same xid name
  files _ record _ := congrFun same.2 record.file

variable (now : Time) (old : FileName → Bool) {record : InRecord} {event : Event}

theorem changes_claim {kind : UploadPurpose} {sent : Offered} {info : Meta} {now : Time}
    {after : Store} (found : store.inbox.get? record.xid = some record)
    (done : store.claim host record kind sent info now = .ok after) :
    Changes (fun name => decide (sent.purpose = name)) store after where
  claims xid name other :=
    claimOf_claim_other found done xid name (Ne.symm (of_decide_eq_false other))
  files := by
    obtain ⟨rfl, -⟩ := claim_ok done
    intro xid other _
    rfl

theorem sameFiles_offerFresh (xid : Xid) (size chunkSize : Nat) (kind : UploadPurpose)
    (sent : Offered) (info : Meta) (found : Setting) :
    SameFiles store (store.offerFresh host xid size chunkSize kind sent info found).2 := by
  rw [Store.offerFresh]
  split
  · exact ⟨rfl, rfl⟩
  · split
    · exact ⟨rfl, rfl⟩
    · exact ⟨rfl, rfl⟩

theorem sameFiles_offerResume (part : Part) (chunkSize : Nat) (kind : UploadPurpose)
    (sent : Offered) (info : Meta) (found : Setting) :
    SameFiles store (store.offerResume host part chunkSize kind sent info found).2 := by
  rw [Store.offerResume]
  split
  · exact ⟨rfl, rfl⟩
  · dsimp only
    split
    · exact ⟨rfl, rfl⟩
    · exact ⟨rfl, rfl⟩

section

variable (sound : Sound host store)
include sound

theorem offerSwept_changes (xid : Xid) (size chunkSize : Nat) (kind : UploadPurpose)
    (sent : Offered) (info : Meta) (found : Setting) :
    Changes (fun name => decide (sent.purpose = name)) store
      (store.offerSwept host xid size chunkSize kind sent info found).2 := by
  rw [Store.offerSwept]
  split
  next record here =>
    replace here := onDisk_self sound.filed here
    split
    · exact changes_same ⟨rfl, rfl⟩
    next done => exact changes_claim here done
  next =>
    split
    · exact changes_same ⟨rfl, rfl⟩
    · split
      · exact changes_same (@sameFiles_offerFresh host (store.dropPart xid) xid size chunkSize kind
          sent info found)
      · exact changes_same (sameFiles_offerResume _ chunkSize kind sent info found)

-- Bytes that are not held are written under a name of their own.
theorem putSwept_changes (data : Bytes) (kind : UploadPurpose) (sent : Offered) (info : Meta)
    (found : Setting) :
    Changes (fun name => decide (sent.purpose = name)) store
      (store.putSwept host data kind sent info found).2 := by
  rw [Store.putSwept]
  split
  next record here =>
    replace here := onDisk_self sound.filed here
    split
    · exact changes_same ⟨rfl, rfl⟩
    next done => exact changes_claim here done
  next absent =>
    rw [onDisk_eq sound.filed] at absent
    split
    · exact changes_same ⟨rfl, rfl⟩
    · constructor
      · intro xid name other
        apply claimOf_fileAway_other _ _ _ _ _ _ sound.filed
        intro _ last member
        rw [List.mem_singleton.mp member]
        exact Ne.symm (of_decide_eq_false other)
      · intro xid record here
        apply if_neg
        rintro ⟨-, same⟩
        have named := (sound.filed xid record here).1
        rw [same, filing_fresh _ _ _ _ _ sound.filed absent,
          (Store.putClaims_file found.now [sent] _ _).2.1] at named
        change host.sha256 data = xid at named
        rw [named, here] at absent
        cases absent

/-- A claim that has not run out stays through the collection, and so does its file. -/
theorem collection_spares {xid : Xid} {record : InRecord} {name : PurposeName} {claim : Claim}
    (found : store.inbox.get? xid = some record) (held : record.claims.get? name = some claim)
    (live : store.claimExpired host now xid claim = false) :
    (∃ kept, (store.gcUser host now old).inbox.get? xid = some kept ∧ kept.file = record.file) ∧
      (store.gcUser host now old).inFiles record.file = store.inFiles record.file := by
  have stays := claimOf_gcUser now old sound.filed xid name
  have before : store.claimOf xid name = some claim := by
    rw [Store.claimOf, found]
    exact held
  rw [before, Option.filter_some, live, Store.claimOf] at stays
  obtain ⟨kept, here, -⟩ := Option.bind_eq_some_iff.mp stays
  have file : kept.file = record.file := by
    rw [get?_gcUser, found] at here
    rw [Store.collected_some here]
  refine ⟨⟨kept, here, file⟩, ?_⟩
  rw [← file]
  exact inFiles_gcUser now old here

theorem claim_spared {xid : Xid} {name : PurposeName} {claim : Claim}
    (held : store.claimOf xid name = some claim) :
    (store.gcUser host now old).claimOf xid name = some claim ∨
      store.claimExpired host now xid claim = true := by
  rw [claimOf_gcUser now old sound.filed, held, Option.filter_some]
  cases live : store.claimExpired host now xid claim with
  | true => exact Or.inr rfl
  | false => exact Or.inl rfl

end

/-- An operation that is refused, or that collects before it changes anything. -/
theorem spares_collecting {now : Time} (old : FileName → Bool) (sound : Sound host store)
    (collects : event.collects = some now)
    (after : step host store event = store ∨
      Changes (event.concerns store) (store.gcUser host now old) (step host store event)) :
    Spares host store event := by
  rcases after with same | changes
  · constructor
    · intro name _ xid claim held
      left
      rw [same]
      exact held
    · intro at_ _ xid record name claim _ _ _
      rw [same]
  · constructor
    · intro name other xid claim held
      rw [changes.claims xid name other]
      rcases claim_spared now old sound held with stays | expired
      · exact Or.inl stays
      · exact Or.inr ⟨now, collects, expired⟩
    · intro at_ here xid record name claim found held live
      cases Option.some.inj (collects.symm.trans here)
      obtain ⟨⟨kept, stays, file⟩, whole⟩ := collection_spares now old sound found held live
      rw [← whole, ← file]
      exact changes.files xid kept stays

theorem spares_offer (sound : Sound host store) (call : OfferCall) (found : Setting) :
    Spares host store (.offer call found) := by
  apply spares_collecting found.old sound rfl
  change (store.offer host call found).2 = store ∨
    Changes (fun name => decide (call.purpose = name)) _ (store.offer host call found).2
  rw [Store.offer]
  split
  · exact Or.inl rfl
  · split
    · exact Or.inl rfl
    next kind taken =>
      split
      · exact Or.inl rfl
      · split
        · exact Or.inl rfl
        · right
          have swept := sound_gcUser found.now found.old sound
          rw [← (taken_registered taken).2]
          exact offerSwept_changes swept _ _ _ kind ⟨kind.name, call.name, call.mime⟩ _ found

theorem spares_putFile (sound : Sound host store) (data : Bytes) (name mime : String)
    (purpose : PurposeName) (info : Meta) (freeBefore : Int) (found : Setting) :
    Spares host store (.putFile data name mime purpose info freeBefore found) := by
  apply spares_collecting found.old sound rfl
  change (store.putFile host data name mime purpose info freeBefore found).2 = store ∨
    Changes (fun other => decide (purpose = other)) _
      (store.putFile host data name mime purpose info freeBefore found).2
  rw [Store.putFile]
  split
  · exact Or.inl rfl
  next kind taken =>
    split
    · exact Or.inl rfl
    · split
      · exact Or.inl rfl
      · split
        · exact Or.inl rfl
        · right
          have swept := sound_gcUser found.now found.old sound
          rw [← (taken_registered taken).2]
          exact putSwept_changes swept data kind ⟨kind.name, name, mime⟩ _ found

theorem spares_gc (sound : Sound host store) (now : Time) (old : FileName → Bool) :
    Spares host store (.gc now old) where
  claims name _ xid claim held := by
    rcases claim_spared now old sound held with stays | expired
    · exact Or.inl stays
    · exact Or.inr ⟨now, rfl, expired⟩
  files at_ collects xid record name claim found held live := by
    cases Option.some.inj collects
    exact (collection_spares now old sound found held live).2

theorem spares_still (still : event.collects = none)
    (claims : ∀ xid name, event.concerns store name = false →
      (step host store event).claimOf xid name = store.claimOf xid name) :
    Spares host store event where
  claims name other xid claim held := Or.inl ((claims xid name other).trans held)
  files now collects := by
    rw [still] at collects
    cases collects

theorem spares_same (still : event.collects = none)
    (same : SameFiles store (step host store event)) :
    Spares host store event :=
  spares_still still fun xid name _ => claimOf_same same xid name

-- A commit gives claims to the purposes that the upload was offered for.
theorem spares_commitFinish (ready : Ready host store) (sound : Sound host store) (xid : Xid)
    (now : Time) :
    Spares host store (.commitFinish xid now) := by
  apply spares_still rfl
  intro other name elsewhere
  change (store.commitFinish host xid now).2.claimOf other name = _
  change ((store.parts.get? xid).any fun part => part.offeredFor name) = false at elsewhere
  rw [Store.commitFinish]
  split
  next intact hashed =>
    obtain ⟨part, here, -⟩ := ready.committing xid (.hashed intact) hashed
    rw [here, Option.any_some, offeredFor_eq] at elsewhere
    rw [here]
    dsimp only
    split
    · apply claimOf_fileAway_other xid part.size part.info part.claims.rows part.bytes now
        sound.filed
      intro _ sent member same
      rw [List.any_eq_false] at elsewhere
      exact elsewhere sent member (decide_eq_true same.symm)
    · rfl
  next => rfl

theorem held_alone {name other : PurposeName} (alone : ¬record.claims.rows.length > 1)
    (held : record.heldFor name = true) (different : other ≠ name) :
    record.claims.get? other = none := by
  obtain ⟨claim, here⟩ := Option.isSome_iff_exists.mp held
  rw [Table.get?_none, Table.keys]
  intro member
  obtain ⟨last, there, named⟩ := List.mem_map.mp member
  have first := record.claims.get?_mem name claim here
  have key := record.claims.get?_key name claim here
  obtain ⟨only, is⟩ := List.length_eq_one_iff.mp
    (Nat.le_antisymm (Nat.not_lt.mp alone) (List.length_pos_of_mem first))
  rw [is] at first there
  rw [List.mem_singleton.mp there, ← List.mem_singleton.mp first, key] at named
  exact different named.symm

theorem spares_delete (xid : Xid) (purpose : Option PurposeName) :
    Spares host store (.delete xid purpose) := by
  apply spares_still rfl
  intro other name elsewhere
  change (store.delete host xid purpose).2.claimOf other name = _
  rw [Store.delete]
  split
  · rfl
  · split
    · rfl
    · split
      · rfl
      next record here =>
        replace here := get?_self here
        cases purpose with
        | none => cases elsewhere
        | some given =>
          have different := Ne.symm (of_decide_eq_false elsewhere)
          dsimp only
          split
          · rfl
          next held =>
            split
            · apply claimOf_setRecord_other { record with claims := record.claims.erase given }
                record here
              rw [Table.get?_erase, if_neg different]
            next alone =>
              have gone := held_alone alone (by simpa using held) different
              rw [Store.claimOf, Store.claimOf, Store.dropFile, Table.get?_erase]
              split
              next same => rw [same, here, Option.bind_some, gone, Option.bind_none]
              next => rfl

theorem claimOf_bindOne (sound : Sound host store) (xid : Xid) (turn : Turn)
    (given : PurposeName) (other : Xid) (name : PurposeName) (different : given ≠ name) :
    (store.bindOne host xid turn (some given)).2.claimOf other name =
      store.claimOf other name := by
  rw [Store.bindOne]
  split
  · rfl
  next record onDisk =>
    replace onDisk := onDisk_self sound.filed onDisk
    split
    · rfl
    next claim here =>
      have named := record.claims.get?_key _ claim here
      split
      · rfl
      · apply claimOf_setRecord_other
          { record with claims := record.claims.set (claim.boundTo turn) } record onDisk
        rw [Table.get?_set]
        apply if_neg
        intro same
        exact different (named.symm.trans same)

theorem claimOf_bindAll (turn : Turn) (given : PurposeName) (other : Xid) (name : PurposeName)
    (different : given ≠ name) (xids : List Xid) (sound : Sound host store) :
    (Store.bindAll host turn (some given) xids store).2.claimOf other name =
      store.claimOf other name := by
  induction xids generalizing store with
  | nil => rfl
  | cons xid rest ih =>
    have first := claimOf_bindOne sound xid turn given other name different
    exact (ih (sound_bindOne sound xid turn (some given))).trans first

theorem spares_bind (sound : Sound host store) (xids : List Xid) (turn : Turn)
    (purpose : Option PurposeName) : Spares host store (.bind xids turn purpose) := by
  apply spares_still rfl
  intro other name elsewhere
  change (store.bind host xids turn purpose).2.claimOf other name = _
  cases purpose with
  | none => cases elsewhere
  | some given =>
    rw [Store.bind]
    split
    · rfl
    · exact claimOf_bindAll turn given other name (of_decide_eq_false elsewhere) _ sound

theorem spares_step (ready : Ready host store) (sound : Sound host store) (event : Event) :
    Spares host store event := by
  cases event with
  | offer call found => exact spares_offer sound call found
  | putChunk xid i data digest now stopped =>
    exact spares_same rfl (putChunk_tends ready xid i data digest now stopped).lighter.files
  | commitStart xid => exact spares_same rfl (commitStart_tends ready xid).lighter.files
  | commitHash xid => exact spares_same rfl (commitHash_tends ready xid).lighter.files
  | commitFinish xid now => exact spares_commitFinish ready sound xid now
  | commitRelease xid => exact spares_same rfl (commitRelease_tends ready xid).lighter.files
  | abort xid => exact spares_same rfl (abort_tends ready xid).lighter.files
  | putFile data name mime purpose info freeBefore found =>
    exact spares_putFile sound data name mime purpose info freeBefore found
  | delete xid purpose => exact spares_delete xid purpose
  | bind xids turn purpose => exact spares_bind sound xids turn purpose
  | markConsumed xids now =>
    apply spares_still rfl
    intro other name elsewhere
    cases elsewhere
  | gc now old => exact spares_gc sound now old

end Spared

theorem sound_empty (host : Host) : Sound host Store.empty where
  filed _ _ found := by cases found
  within _ limit _ := Int.natCast_nonneg limit

structure Kept (host : Host) (store : Store) : Prop where
  total : store.usage none ≤ host.policy.userQuota
  purposes : ∀ kind ∈ host.purposes.rows, store.usage (some kind.name) ≤ kind.quota
  digests : ∀ xid record, store.inbox.get? xid = some record →
    ∃ data, store.inFiles record.file = some data ∧ host.sha256 data = xid

theorem kept_of_sound {host : Host} {store : Store} (sound : Sound host store) :
    Kept host store where
  total := sound.within none host.policy.userQuota rfl
  purposes kind member := sound.within (some kind.name) kind.quota
    (limit_registered (host.purposes.mem_get? kind member))
  digests xid record found := by
    obtain ⟨-, data, here, named, -⟩ := sound.filed xid record found
    exact ⟨data, here, named⟩

/-- Files of one digest have one size. Then the quotas hold in every run, every file is what its
digest says, and an operation spares the claims of purposes that it is not made for unless the
collection finds that they have run out. -/
theorem user_files_kept (host : Host)
    (sizes : ∀ left right, host.sha256 left = host.sha256 right → left.length = right.length)
    (run : List Event) :
    Always (step host) (Kept host) Store.empty run ∧
      Along (step host) (Spares host) Store.empty run := by
  have all := along_of_forall (step host) (fun _ => True) run (fun _ _ => trivial) Store.empty
  have start : Ready host Store.empty ∧ Sound host Store.empty := ⟨ready_empty, sound_empty host⟩
  have kept (store : Store) (event : Event) (held : Ready host store ∧ Sound host store) :
      Ready host (step host store event) ∧ Sound host (step host store event) :=
    ⟨(serve_serves event held.1).ready, sound_step sizes event held.1 held.2⟩
  constructor
  · apply always_of_invariant (step host) _ (Kept host) (fun _ _ => True)
    · exact fun store event held _ => kept store event held
    · exact fun store held => kept_of_sound held.2
    · exact start
    · exact all
  · apply along_of_invariant (step host) _ (fun _ _ => True) (Spares host)
    · exact fun store event held _ => kept store event held
    · exact fun store event held _ => spares_step held.1 held.2 event
    · exact start
    · exact all

def desktop : Host where
  purposes := standardPurposes
  policy := standardPolicy
  sha256 data := String.ofList (data.map fun byte => Char.ofNat byte.toNat)

def foundAt (now : Time) : Setting := ⟨now, fun _ => false, 2 ^ 40, false⟩

def clipEvent : Event :=
  .putFile [104, 105] "clip.mp4" "video/mp4" reelSource {} (2 ^ 40) (foundAt 0)

def attachmentEvent : Event :=
  .putFile [104, 105] "clip.mp4" "video/mp4" chatAttachment {} (2 ^ 40)
    (foundAt (hours 72 + seconds 1))

theorem clip_kept :
    Always (step desktop) (Kept desktop) Store.empty [clipEvent, attachmentEvent] ∧
      Along (step desktop) (Spares desktop) Store.empty [clipEvent, attachmentEvent] := by
  apply user_files_kept desktop
  intro left right same
  have lists := congrArg String.toList same
  change (String.ofList _).toList = (String.ofList _).toList at lists
  rw [String.toList_ofList, String.toList_ofList] at lists
  have lengths := congrArg List.length lists
  rwa [List.length_map, List.length_map] at lengths

/-- The clip is the reel's no more, though the file was sent for the chat. -/
theorem attachment_drops_clip :
    ((step desktop Store.empty clipEvent).claimOf "hi" reelSource).isSome = true ∧
      (step desktop (step desktop Store.empty clipEvent) attachmentEvent).claimOf "hi" reelSource =
        none ∧
      attachmentEvent.concerns (step desktop Store.empty clipEvent) reelSource = false := by
  decide +kernel

end Hartos.UserFiles
