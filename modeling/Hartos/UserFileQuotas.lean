import Hartos.UploadedChunks

/-!
What the store of a user's files keeps in every run of its operations: the quotas, the digests
of the files, and every purpose's claims.
-/
namespace Hartos.UserFiles
open KeyedTable StepSystem

def Filed (host : Host) (inbox : Table InRecord.xid) (inFiles : FileName → Option Bytes) : Prop :=
  ∀ xid record, inbox.get? xid = some record → record.file.xid = xid ∧
    ∃ data, inFiles record.file = some data ∧ host.sha256 data = xid ∧ data.length = record.size

def Host.limit (host : Host) : Option PurposeName → Option Nat
  | none => some host.policy.userQuota
  | some purpose => (host.purposes.get? purpose).map UploadPurpose.quota

def Within (host : Host) (store : Store) : Prop :=
  ∀ purpose limit, host.limit purpose = some limit → store.usage purpose ≤ limit

structure Sound (host : Host) (store : Store) : Prop where
  filed : Filed host store.inbox store.inFiles
  within : Within host store

def Store.claimOf (store : Store) (xid : Xid) (purpose : PurposeName) : Option Claim :=
  (store.inbox.get? xid).bind fun record => record.claims.get? purpose

variable (now : Time) (size : Nat) (claims : List Offered) (part : Part)
  (purpose : Option PurposeName) {host : Host} {store : Store}
variable (seq : Nat) (record : InRecord)

theorem inCounts_nonneg : 0 ≤ record.counts purpose :=
  counted_nonneg _ _

theorem outCounts_nonneg (record : OutRecord) : 0 ≤ record.counts purpose :=
  counted_nonneg _ _

theorem counted_joined_le (held : PurposeName → Bool) (new : PurposeName)
    (purpose : Option PurposeName) :
    (if purpose.all fun name => decide (new = name) || held name then (size : Int) else 0) ≤
      (if purpose.all held then (size : Int) else 0) +
        if purpose = some new ∧ held new = false then (size : Int) else 0 := by
  cases purpose with
  | none =>
    rw [Option.all_none, Option.all_none, if_pos rfl]
    split <;> omega
  | some name =>
    rw [Option.all_some, Option.all_some]
    cases here : held name with
    | true =>
      rw [Bool.or_true, if_pos rfl]
      split <;> omega
    | false =>
      by_cases same : new = name
      · subst same
        rw [decide_eq_true rfl, Bool.or_false, if_pos rfl, if_neg Bool.false_ne_true,
          if_pos ⟨rfl, here⟩]
        omega
      · rw [decide_eq_false same, Bool.or_false, if_neg Bool.false_ne_true]
        split <;> omega

theorem inCounts_le {left right : InRecord} (size : left.size = right.size)
    (held : ∀ name, left.heldFor name = true → right.heldFor name = true)
    (purpose : Option PurposeName) : left.counts purpose ≤ right.counts purpose := by
  cases purpose with
  | none =>
    change (left.size : Int) ≤ right.size
    rw [size]
  | some name =>
    rw [InRecord.counts, Option.all_some]
    split
    next has =>
      rw [InRecord.counts, Option.all_some, if_pos (held name has), size]
    next => exact inCounts_nonneg (some name) right

def charge (size : Nat) (claims : List Offered) (purpose : Option PurposeName) : Int :=
  if purpose.all fun name => claims.any fun sent => decide (sent.purpose = name) then size else 0

theorem charge_none : charge size claims none = size := rfl

theorem charge_nonneg : 0 ≤ charge size claims purpose :=
  counted_nonneg _ _

theorem offeredFor_eq (name : PurposeName) :
    part.offeredFor name = part.claims.rows.any fun sent => decide (sent.purpose = name) := by
  apply Bool.eq_iff_iff.mpr
  rw [Part.offeredFor, List.any_eq_true]
  constructor
  · intro found
    obtain ⟨sent, same⟩ := Option.isSome_iff_exists.mp found
    exact ⟨sent, part.claims.get?_mem name sent same,
      decide_eq_true (part.claims.get?_key name sent same)⟩
  · rintro ⟨sent, member, named⟩
    rw [← of_decide_eq_true named, part.claims.mem_get? sent member]
    rfl

theorem partCounts_eq : part.counts purpose = charge part.size part.claims.rows purpose := by
  rw [Part.counts, charge]
  have same : part.offeredFor =
      fun name => part.claims.rows.any fun sent => decide (sent.purpose = name) :=
    funext (offeredFor_eq part)
  rw [same]

namespace Store

theorem usage_setRecord (store : Store) (record old : InRecord)
    (found : store.inbox.get? record.xid = some old) (purpose : Option PurposeName) :
    (store.setRecord record).usage purpose =
      store.usage purpose + record.counts purpose - old.counts purpose := by
  have before := store.inbox.weightAt_some (InRecord.counts purpose) record.xid old found
  rw [usage, usage, setRecord, Table.total_set, before]
  dsimp only
  omega

end Store

theorem onDisk_eq (filed : Filed host store.inbox store.inFiles) (xid : Xid) :
    store.onDisk xid = store.inbox.get? xid := by
  rw [Store.onDisk]
  cases found : store.inbox.get? xid with
  | none => rfl
  | some record =>
    obtain ⟨-, data, here, -, -⟩ := filed xid record found
    rw [Option.filter_some, here]
    rfl

theorem onDisk_self (filed : Filed host store.inbox store.inFiles) {xid : Xid} {record : InRecord}
    (here : store.onDisk xid = some record) : store.inbox.get? record.xid = some record := by
  rw [onDisk_eq filed] at here
  exact get?_self here

theorem filed_set {inbox : Table InRecord.xid} {inFiles : FileName → Option Bytes}
    (filed : Filed host inbox inFiles) (record old : InRecord)
    (found : inbox.get? record.xid = some old) (file : record.file = old.file)
    (size : record.size = old.size) : Filed host (inbox.set record) inFiles := by
  intro xid other here
  rw [Table.get?_set] at here
  split at here
  next same =>
    cases Option.some.inj here
    rw [file, size, ← same]
    exact filed record.xid old found
  next => exact filed xid other here

theorem filed_dropFile (filed : Filed host store.inbox store.inFiles) (record : InRecord)
    (found : store.inbox.get? record.xid = some record) :
    Filed host (store.dropFile record).inbox (store.dropFile record).inFiles := by
  intro xid other here
  change (store.inbox.erase record.xid).get? xid = some other at here
  rw [Table.get?_erase] at here
  split at here
  next => cases here
  next different =>
    obtain ⟨named, data, exists_, digest⟩ := filed xid other here
    refine ⟨named, data, ?_, digest⟩
    have elsewhere : other.file ≠ record.file := by
      intro same
      apply different
      rw [← named, same]
      exact (filed record.xid record found).1
    change (if other.file = record.file then none else store.inFiles other.file) = some data
    rw [if_neg elsewhere]
    exact exists_

namespace Store
variable (now : Time) (claims : List Offered) (seq : Nat) (record : InRecord) (name : PurposeName)

theorem putClaim_other (now : Time) (record : InRecord) (sent : Offered) (name : PurposeName)
    (other : name ≠ sent.purpose) :
    (putClaim seq now record sent).claims.get? name = record.claims.get? name := by
  rw [putClaim, Table.get?_set]
  exact if_neg (Ne.symm other)

theorem heldFor_putClaim (now : Time) (record : InRecord) (sent : Offered) (name : PurposeName) :
    (putClaim seq now record sent).heldFor name =
      (decide (sent.purpose = name) || record.heldFor name) := by
  by_cases same : name = sent.purpose
  · subst same
    rw [InRecord.heldFor, putClaim, Table.get?_set, if_pos rfl, decide_eq_true rfl]
    rfl
  · rw [InRecord.heldFor, putClaim_other seq now record sent name same,
      decide_eq_false (Ne.symm same)]
    rfl

theorem putClaims_file :
    (putClaims now seq record claims).2.xid = record.xid ∧
      (putClaims now seq record claims).2.file = record.file ∧
      (putClaims now seq record claims).2.size = record.size := by
  induction claims generalizing seq record with
  | nil => exact ⟨rfl, rfl, rfl⟩
  | cons sent rest ih => exact ih (seq + 1) (putClaim (seq + 1) now record sent)

theorem putClaims_other (others : ∀ sent ∈ claims, name ≠ sent.purpose) :
    (putClaims now seq record claims).2.claims.get? name = record.claims.get? name := by
  induction claims generalizing seq record with
  | nil => rfl
  | cons sent rest ih =>
    rw [putClaims, ih (seq + 1) _ fun later member =>
      others later (List.mem_cons_of_mem sent member)]
    exact putClaim_other (seq + 1) now record sent name (others sent List.mem_cons_self)

theorem heldFor_putClaims :
    (putClaims now seq record claims).2.heldFor name =
      ((claims.any fun sent => decide (sent.purpose = name)) || record.heldFor name) := by
  induction claims generalizing seq record with
  | nil => rfl
  | cons sent rest ih =>
    rw [putClaims, ih, heldFor_putClaim, List.any_cons, ← Bool.or_assoc]
    congr 1
    exact Bool.or_comm _ _

end Store

/-- New claims on a file take no more than their charge. -/
theorem inCounts_putClaims (purpose : Option PurposeName) :
    (Store.putClaims now seq record claims).2.counts purpose ≤
      record.counts purpose + charge record.size claims purpose := by
  have size := (Store.putClaims_file now claims seq record).2.2
  have before := inCounts_nonneg purpose record
  have charged := charge_nonneg record.size claims purpose
  cases purpose with
  | none =>
    rw [InRecord.counts, size]
    change (record.size : Int) ≤ record.size + record.size
    omega
  | some name =>
    rw [InRecord.counts, size, Option.all_some, Store.heldFor_putClaims]
    split
    next has =>
      rcases Bool.or_eq_true_iff.mp has with sent | held
      · have whole : charge record.size claims (some name) = record.size := by
          rw [charge, Option.all_some, if_pos sent]
        omega
      · have whole : record.counts (some name) = record.size := by
          rw [InRecord.counts, Option.all_some, if_pos held]
        omega
    next => omega

section Collection

variable {host : Host} {store : Store} (now : Time) (old : FileName → Bool)

theorem get?_gcUser (xid : Xid) :
    (store.gcUser host now old).inbox.get? xid =
      (store.inbox.get? xid).bind (store.collected host now) :=
  Table.get?_filterMapRows store.inbox (store.collected host now)
    (fun _ _ => Store.collected_xid) xid

theorem heldFor_unexpired {record : InRecord} {name : PurposeName}
    (held : ({ record with claims := store.unexpired host now record } : InRecord).heldFor name =
      true) : record.heldFor name = true := by
  rw [InRecord.heldFor, Store.unexpired, Table.get?_keepRows] at held
  rw [InRecord.heldFor]
  cases found : record.claims.get? name with
  | none =>
    rw [found] at held
    cases held
  | some => rfl

theorem usage_gcUser_le (purpose : Option PurposeName) :
    (store.gcUser host now old).usage purpose ≤ store.usage purpose := by
  apply Int.add_le_add
  · apply Int.add_le_add
    · apply store.inbox.total_filterMapRows_le (store.collected host now)
        (fun _ _ => Store.collected_xid)
      · exact inCounts_nonneg purpose
      · intro record kept stays
        rw [Store.collected_some stays]
        apply inCounts_le
        · rfl
        · intro name held
          exact heldFor_unexpired now held
    · exact store.outbox.total_keepRows_le _ _ (outCounts_nonneg purpose)
  · exact store.parts.total_keepRows_le _ _ (partCounts_nonneg purpose)

theorem inFiles_gcUser {xid : Xid} {kept : InRecord}
    (stays : (store.gcUser host now old).inbox.get? xid = some kept) :
    (store.gcUser host now old).inFiles kept.file = store.inFiles kept.file := by
  apply if_pos
  apply List.any_eq_true.mpr
  exact ⟨kept, Table.get?_mem _ xid kept stays, decide_eq_true rfl⟩

theorem filed_gcUser (filed : Filed host store.inbox store.inFiles) :
    Filed host (store.gcUser host now old).inbox (store.gcUser host now old).inFiles := by
  intro xid kept here
  rw [inFiles_gcUser now old here]
  rw [get?_gcUser] at here
  obtain ⟨record, found, stays⟩ := Option.bind_eq_some_iff.mp here
  rw [Store.collected_some stays]
  exact filed xid record found

theorem sound_gcUser (sound : Sound host store) : Sound host (store.gcUser host now old) where
  filed := filed_gcUser now old sound.filed
  within purpose limit bound :=
    Int.le_trans (usage_gcUser_le now old purpose) (sound.within purpose limit bound)

theorem claimOf_gcUser (filed : Filed host store.inbox store.inFiles) (xid : Xid)
    (purpose : PurposeName) :
    (store.gcUser host now old).claimOf xid purpose =
      (store.claimOf xid purpose).filter fun claim => !store.claimExpired host now xid claim := by
  rw [Store.claimOf, Store.claimOf, get?_gcUser]
  cases found : store.inbox.get? xid with
  | none => rfl
  | some record =>
    obtain ⟨-, data, here, -⟩ := filed xid record found
    have named := store.inbox.get?_key xid record found
    have left : (store.unexpired host now record).get? purpose =
        (record.claims.get? purpose).filter fun claim =>
          !store.claimExpired host now xid claim := by
      rw [Store.unexpired, Table.get?_keepRows, named]
    rw [Option.bind_some, Option.bind_some, ← left, Store.collected, here, if_neg (by simp)]
    split
    next empty =>
      rw [Option.bind_none, Table.get?, empty]
      rfl
    next => rfl

end Collection

theorem inCounts_putClaims_new (fresh : ∀ name, record.heldFor name = false)
    (purpose : Option PurposeName) :
    (Store.putClaims now seq record claims).2.counts purpose =
      charge record.size claims purpose := by
  have size := (Store.putClaims_file now claims seq record).2.2
  rw [InRecord.counts, charge, size]
  congr 3
  funext name
  rw [Store.heldFor_putClaims, fresh, Bool.or_false]

section Filing

variable {host : Host} {store : Store} (xid : Xid) (size : Nat) (info : Meta)
  (claims : List Offered) (data : Bytes) (now : Time)

section

variable (filed : Filed host store.inbox store.inFiles)
include filed

/-- Bytes that are held keep their record, and others get one. -/
theorem filing_fresh (absent : store.inbox.get? xid = none) :
    (store.filing host xid size info claims now).2 =
      (Store.putClaims now store.seq
        { Store.newRecord host xid size claims with info := Meta.update {} info } claims).2 := by
  rw [Store.filing, onDisk_eq filed, absent]
  rfl

theorem filing_held (record : InRecord) (found : store.inbox.get? xid = some record) :
    (store.filing host xid size info claims now).2 =
      (Store.putClaims now store.seq { record with info := record.info.update info } claims).2 := by
  rw [Store.filing, onDisk_eq filed, found]
  rfl

theorem filing_xid : (store.filing host xid size info claims now).2.xid = xid := by
  cases found : store.inbox.get? xid with
  | none =>
    rw [filing_fresh xid size info claims now filed found]
    exact (Store.putClaims_file now claims _ _).1
  | some record =>
    rw [filing_held xid size info claims now filed record found]
    exact (Store.putClaims_file now claims _ _).1.trans (store.inbox.get?_key xid record found)

/-- What is filed takes no more than its charge; bytes that are held have one size. -/
theorem usage_fileAway_le
    (sizes : ∀ record, store.inbox.get? xid = some record → record.size = size)
    (purpose : Option PurposeName) :
    (store.fileAway host xid size info claims data now).usage purpose ≤
      store.usage purpose + charge size claims purpose := by
  have inbox : (store.inbox.set (store.filing host xid size info claims now).2).total
        (InRecord.counts purpose) ≤
      store.inbox.total (InRecord.counts purpose) + charge size claims purpose := by
    rw [Table.total_set, filing_xid xid size info claims now filed]
    cases found : store.inbox.get? xid with
    | none =>
      rw [Table.weightAt_none _ _ _ found, filing_fresh xid size info claims now filed found,
        inCounts_putClaims_new now claims _ _ (fun _ => rfl)]
      change _ + charge size claims purpose - 0 ≤ _
      omega
    | some record =>
      rw [Table.weightAt_some _ _ _ _ found,
        filing_held xid size info claims now filed record found]
      have claimed := inCounts_putClaims now claims store.seq
        { record with info := record.info.update info } purpose
      change _ ≤ record.counts purpose + charge record.size claims purpose at claimed
      have charged : charge record.size claims purpose = charge size claims purpose := by
        rw [sizes record found]
      omega
  rw [Store.usage, Store.usage]
  change _ + store.outbox.total _ + store.parts.total _ ≤ _
  exact Int.le_trans (Int.add_le_add_right (Int.add_le_add_right inbox _) _) (by omega)

theorem filed_fileAway (digest : host.sha256 data = xid) (length : data.length = size) :
    Filed host (store.fileAway host xid size info claims data now).inbox
      (store.fileAway host xid size info claims data now).inFiles := by
  intro other record here
  change (store.inbox.set (store.filing host xid size info claims now).2).get? other = _ at here
  rw [Table.get?_set, filing_xid xid size info claims now filed] at here
  change _ ∧ ∃ bytes, (if (store.onDisk xid).isNone ∧
    record.file = (store.filing host xid size info claims now).2.file then some data
    else store.inFiles record.file) = some bytes ∧ _
  rw [onDisk_eq filed]
  split at here
  next same =>
    subst same
    cases Option.some.inj here
    cases found : store.inbox.get? xid with
    | none =>
      rw [filing_fresh xid size info claims now filed found]
      obtain ⟨-, file, kept⟩ := Store.putClaims_file now claims store.seq
        { Store.newRecord host xid size claims with info := Meta.update {} info }
      rw [file, kept]
      exact ⟨rfl, data, if_pos ⟨rfl, rfl⟩, digest, length⟩
    | some old =>
      rw [filing_held xid size info claims now filed old found]
      obtain ⟨-, file, kept⟩ := Store.putClaims_file now claims store.seq
        { old with info := old.info.update info }
      rw [file, kept, if_neg (fun both => Bool.noConfusion both.1)]
      exact filed xid old found
  next different =>
    obtain ⟨named, bytes, kept, whole⟩ := filed other record here
    refine ⟨named, bytes, ?_, whole⟩
    rw [if_neg]
    · exact kept
    · rintro ⟨absent, same⟩
      apply different
      rw [← named, same, filing_fresh xid size info claims now filed
        (Option.isNone_iff_eq_none.mp absent), (Store.putClaims_file now claims _ _).2.1]
      rfl

theorem claimOf_fileAway_other (other : Xid) (name : PurposeName)
    (elsewhere : other = xid → ∀ sent ∈ claims, name ≠ sent.purpose) :
    (store.fileAway host xid size info claims data now).claimOf other name =
      store.claimOf other name := by
  rw [Store.claimOf, Store.claimOf]
  change ((store.inbox.set (store.filing host xid size info claims now).2).get? other).bind _ = _
  rw [Table.get?_set, filing_xid xid size info claims now filed]
  split
  next same =>
    have others := elsewhere same.symm
    subst same
    cases found : store.inbox.get? xid with
    | none =>
      rw [Option.bind_some, filing_fresh xid size info claims now filed found]
      exact Store.putClaims_other now claims _ _ name others
    | some record =>
      rw [Option.bind_some, filing_held xid size info claims now filed record found]
      exact Store.putClaims_other now claims _ _ name others
  next => rfl

end

end Filing

section Quotas

variable {host : Host} {before after : Store}

theorem within_of_le (within : Within host before)
    (less : ∀ purpose, after.usage purpose ≤ before.usage purpose) : Within host after :=
  fun purpose limit bound => Int.le_trans (less purpose) (within purpose limit bound)

variable {kind : UploadPurpose}

theorem limit_registered (registered : host.purposes.get? kind.name = some kind) :
    host.limit (some kind.name) = some kind.quota := by
  rw [Host.limit, registered]
  rfl

theorem within_charged {size toWrite : Nat} {free : Int} {sent : Offered}
    (registered : host.purposes.get? kind.name = some kind) (within : Within host before)
    (fits : before.room host size kind toWrite free = none)
    (grows : ∀ purpose, after.usage purpose ≤ before.usage purpose + charge size [sent] purpose)
    (named : sent.purpose = kind.name) : Within host after := by
  have quotas : ¬(before.usage none + size > host.policy.userQuota ∨
      before.usage (some kind.name) + size > kind.quota) := by
    intro exceeds
    rw [Store.room, if_pos exceeds] at fits
    cases fits
  intro purpose limit bound
  have grown := grows purpose
  cases purpose with
  | none =>
    cases Option.some.inj bound
    rw [charge_none] at grown
    omega
  | some name =>
    by_cases same : kind.name = name
    · subst same
      rw [limit_registered registered] at bound
      cases Option.some.inj bound
      have charged : charge size [sent] (some kind.name) = size := by
        rw [charge, Option.all_some, List.any_cons, decide_eq_true named]
        rfl
      omega
    · have free : charge size [sent] (some name) = 0 := by
        rw [charge, Option.all_some, List.any_cons, named, decide_eq_false same]
        rfl
      have held := within (some name) limit bound
      omega

/-- Bytes that are held take from the quota of a purpose that they were not held for. -/
theorem within_joined {size : Nat} {held : Bool}
    (registered : host.purposes.get? kind.name = some kind) (within : Within host before)
    (fits : held = false → before.usage (some kind.name) + size ≤ kind.quota)
    (grows : ∀ purpose, after.usage purpose ≤ before.usage purpose +
      if purpose = some kind.name ∧ held = false then (size : Int) else 0) : Within host after := by
  intro purpose limit bound
  have grown := grows purpose
  split at grown
  next joins =>
    obtain ⟨rfl, new⟩ := joins
    rw [limit_registered registered] at bound
    cases Option.some.inj bound
    have room := fits new
    omega
  next =>
    have held := within purpose limit bound
    omega

end Quotas

theorem sound_lighter {before after : Store} (sound : Sound host before)
    (lighter : Lighter before after) : Sound host after where
  filed := by
    rw [lighter.files.1, lighter.files.2]
    exact sound.filed
  within := within_of_le sound.within lighter.usage

section Claims

variable {host : Host} {store : Store}

theorem sound_setRecord (sound : Sound host store) (record old : InRecord)
    (found : store.inbox.get? record.xid = some old) (file : record.file = old.file)
    (size : record.size = old.size) (within : Within host (store.setRecord record)) :
    Sound host (store.setRecord record) where
  filed := filed_set sound.filed record old found file size
  within := within

/-- A record whose claims are all of purposes it was held for. -/
theorem sound_setClaims (sound : Sound host store) (record : InRecord)
    (claims : Table Claim.purpose) (found : store.inbox.get? record.xid = some record)
    (held : ∀ name, (claims.get? name).isSome = true → record.heldFor name = true) :
    Sound host (store.setRecord { record with claims := claims }) := by
  apply sound_setRecord sound { record with claims := claims } record found rfl rfl
  apply within_of_le sound.within
  intro purpose
  rw [Store.usage_setRecord store { record with claims := claims } record found]
  have less : ({ record with claims := claims } : InRecord).counts purpose ≤
      record.counts purpose := by
    apply inCounts_le
    · rfl
    · exact held
  omega

theorem claimOf_setRecord_other (record old : InRecord)
    (found : store.inbox.get? record.xid = some old) (xid : Xid) (name : PurposeName)
    (same : record.claims.get? name = old.claims.get? name) :
    (store.setRecord record).claimOf xid name = store.claimOf xid name := by
  rw [Store.claimOf, Store.claimOf, Store.setRecord, Table.get?_set]
  split
  next here =>
    rw [← here, found, Option.bind_some, Option.bind_some, same]
  next => rfl

theorem taken_registered {name mime : String} {purpose : PurposeName} {kind : UploadPurpose}
    (taken : host.taken name mime purpose = .ok kind) :
    host.purposes.get? kind.name = some kind ∧ kind.name = purpose := by
  rw [Host.taken] at taken
  cases found : host.purposes.get? purpose with
  | none =>
    rw [found] at taken
    cases taken
  | some registered =>
    rw [found] at taken
    change (if _ then _ else if _ then _ else _) = _ at taken
    split at taken
    · cases taken
    · split at taken
      · cases taken
      · cases taken
        have named := host.purposes.get?_key purpose kind found
        rw [named]
        exact ⟨found, rfl⟩

variable (seq : Nat) (now : Time) (record : InRecord) (sent : Offered)

theorem heldFor_refreshed (info : Meta) (name : PurposeName) :
    (Store.refreshed seq now record sent info).heldFor name =
      (decide (sent.purpose = name) || record.heldFor name) :=
  Store.heldFor_putClaim seq now record sent name

/-- A claim takes from the quota of its purpose, and only if it is new. -/
theorem counts_refreshed_le (info : Meta) (purpose : Option PurposeName) :
    (Store.refreshed seq now record sent info).counts purpose ≤ record.counts purpose +
      if purpose = some sent.purpose ∧ record.heldFor sent.purpose = false then
        (record.size : Int) else 0 := by
  have held := heldFor_refreshed seq now record sent info
  rw [InRecord.counts, InRecord.counts, funext held]
  exact counted_joined_le record.size record.heldFor sent.purpose purpose

theorem sound_claim (sound : Sound host store) {record : InRecord} {kind : UploadPurpose}
    {sent : Offered} {info : Meta} {now : Time} {after : Store}
    (registered : host.purposes.get? kind.name = some kind) (named : sent.purpose = kind.name)
    (found : store.inbox.get? record.xid = some record)
    (done : store.claim host record kind sent info now = .ok after) : Sound host after := by
  obtain ⟨rfl, fits⟩ := claim_ok done
  have numbered : Sound host { store with seq := store.seq + 1 } :=
    ⟨sound.filed, sound.within⟩
  apply sound_setRecord numbered (Store.refreshed (store.seq + 1) now record sent info) record found
    rfl rfl
  apply within_joined registered sound.within fits
  intro purpose
  have charged := counts_refreshed_le (store.seq + 1) now record sent info purpose
  rw [named] at charged
  have usage := Store.usage_setRecord { store with seq := store.seq + 1 }
    (Store.refreshed (store.seq + 1) now record sent info) record found purpose
  change _ = store.usage purpose + _ - _ at usage
  omega

theorem claimOf_claim_other {record : InRecord} {kind : UploadPurpose} {sent : Offered}
    {info : Meta} {now : Time} {after : Store}
    (found : store.inbox.get? record.xid = some record)
    (done : store.claim host record kind sent info now = .ok after) (xid : Xid)
    (name : PurposeName) (other : name ≠ sent.purpose) :
    after.claimOf xid name = store.claimOf xid name := by
  obtain ⟨rfl, -⟩ := claim_ok done
  apply claimOf_setRecord_other (Store.refreshed (store.seq + 1) now record sent info) record found
  exact Store.putClaim_other (store.seq + 1) now record sent name other

end Claims

section Offers

variable {host : Host} {store : Store}

theorem counts_offered_le (part : Part) (sent : Offered) (info : Meta) (now : Time)
    (purpose : Option PurposeName) :
    (part.offered sent info now).counts purpose ≤ part.counts purpose +
      if purpose = some sent.purpose ∧ part.offeredFor sent.purpose = false then
        (part.size : Int) else 0 := by
  have joined (name : PurposeName) : (part.offered sent info now).offeredFor name =
      (decide (sent.purpose = name) || part.offeredFor name) := by
    rw [Part.offeredFor, Part.offered, Table.get?_set]
    by_cases same : sent.purpose = name
    · rw [if_pos same, decide_eq_true same]
      rfl
    · rw [if_neg same, decide_eq_false same]
      rfl
  rw [Part.counts, Part.counts, funext joined]
  exact counted_joined_le part.size part.offeredFor sent.purpose purpose

section

variable (sound : Sound host store)
include sound

theorem sound_offerFresh (xid : Xid) (size chunkSize : Nat) (kind : UploadPurpose) (sent : Offered)
    (info : Meta) (found : Setting) (registered : host.purposes.get? kind.name = some kind)
    (named : sent.purpose = kind.name) (absent : store.parts.get? xid = none) :
    Sound host (store.offerFresh host xid size chunkSize kind sent info found).2 := by
  rw [Store.offerFresh]
  split
  · exact sound
  next room =>
    split
    · exact sound
    · have fits : store.room host size kind size found.free = none := by
        rw [Store.entry] at room
        split at room
        · cases room
        · exact room
      have grows (purpose : Option PurposeName) :
          (store.savePart ((Part.start xid size chunkSize found.now).offered sent info
            found.now)).usage purpose ≤ store.usage purpose + charge size [sent] purpose := by
        rw [Store.usage_savePart, partCounts_eq]
        change store.usage purpose + charge size [sent] purpose - store.parts.weightAt _ xid ≤ _
        rw [Table.weightAt_none _ _ _ absent]
        omega
      exact ⟨sound.filed, within_charged registered sound.within fits grows named⟩

theorem sound_offerResume (part : Part) (chunkSize : Nat) (kind : UploadPurpose) (sent : Offered)
    (info : Meta) (found : Setting) (registered : host.purposes.get? kind.name = some kind)
    (named : sent.purpose = kind.name) (here : store.parts.get? part.xid = some part) :
    Sound host (store.offerResume host part chunkSize kind sent info found).2 := by
  obtain ⟨xid, size, claims⟩ := resumed_claims part chunkSize
  rw [Store.offerResume]
  split
  · exact sound
  next fits =>
    have room (new : part.offeredFor kind.name = false) :
        store.usage (some kind.name) + part.size ≤ kind.quota := by
      rw [new] at fits
      exact Int.not_lt.mp fun exceeds => fits (by simpa using exceeds)
    dsimp only
    split
    · exact sound
    · refine ⟨sound.filed, ?_⟩
      apply within_joined registered sound.within room
      intro purpose
      have charged := counts_offered_le (part.resumed chunkSize) sent info found.now purpose
      have offered : (part.resumed chunkSize).offeredFor = part.offeredFor := by
        funext name
        rw [Part.offeredFor, claims, Part.offeredFor]
      have counts : (part.resumed chunkSize).counts purpose = part.counts purpose := by
        rw [Part.counts, Part.counts, offered, size]
      rw [counts, offered, size, named] at charged
      rw [Store.usage_savePart]
      change store.usage purpose + _ - store.parts.weightAt _ (part.resumed chunkSize).xid ≤ _
      rw [xid, Table.weightAt_some _ _ _ _ here]
      omega

theorem sound_offerSwept (xid : Xid) (size chunkSize : Nat) (kind : UploadPurpose) (sent : Offered)
    (info : Meta) (found : Setting) (registered : host.purposes.get? kind.name = some kind)
    (named : sent.purpose = kind.name) :
    Sound host (store.offerSwept host xid size chunkSize kind sent info found).2 := by
  rw [Store.offerSwept]
  split
  next record here =>
    replace here := onDisk_self sound.filed here
    split
    · exact sound
    next done => exact sound_claim sound registered named here done
  next =>
    split
    · exact sound
    · split
      · apply sound_offerFresh (sound_lighter sound (lighter_dropPart store xid))
        · exact registered
        · exact named
        · exact (store.parts.get?_erase xid xid).trans (if_pos rfl)
      next part here =>
        have there := (Option.filter_eq_some_iff.mp here).1
        exact sound_offerResume sound part chunkSize kind sent info found registered named
          (get?_self there)

theorem sound_offer (call : OfferCall) (found : Setting) :
    Sound host (store.offer host call found).2 := by
  rw [Store.offer]
  split
  · exact sound
  · split
    · exact sound
    next kind taken =>
      split
      · exact sound
      · split
        · exact sound
        · exact sound_offerSwept (sound_gcUser found.now found.old sound) _ _ _ kind _ _ found
            (taken_registered taken).1 rfl

end

end Offers

section Commits

variable {host : Host} {store : Store}

/-- Bytes that are filed were all there, and of the size that was offered. -/
theorem sound_commitFinish
    (sizes : ∀ left right, host.sha256 left = host.sha256 right → left.length = right.length)
    (ready : Ready host store) (sound : Sound host store) (xid : Xid) (now : Time) :
    Sound host (store.commitFinish host xid now).2 := by
  rw [Store.commitFinish]
  split
  next intact hashed =>
    obtain ⟨part, here, -, digest⟩ := ready.committing xid (.hashed intact) hashed
    have finished := sound_lighter sound (lighter_setPhase store xid (some .filed))
    rw [here]
    dsimp only
    split
    next whole =>
      obtain ⟨length, named⟩ := digest whole
      have held (record : InRecord) (found : store.inbox.get? xid = some record) :
          record.size = part.size := by
        obtain ⟨-, data, -, same, size⟩ := sound.filed xid record found
        rw [← size, ← length]
        exact sizes data part.bytes (same.trans named.symm)
      constructor
      · exact filed_fileAway xid part.size part.info part.claims.rows part.bytes now finished.filed
          named length
      · apply within_of_le finished.within
        intro purpose
        have filed := usage_fileAway_le xid part.size part.info part.claims.rows part.bytes now
          finished.filed held purpose
        rw [← partCounts_eq] at filed
        rw [Store.usage_dropPart]
        change _ - store.parts.weightAt _ xid ≤ _
        rw [Table.weightAt_some _ _ _ _ here]
        omega
    next =>
      have kept : (store.setPhase xid (some .filed)).parts.get? (part.reset now).xid = some part :=
        get?_self here
      exact sound_lighter finished (lighter_savePart kept fun _ => rfl)
  next => exact sound

end Commits

section Turns

variable {host : Host} {store : Store}

section

variable (sound : Sound host store)
include sound

variable (xid : Xid) (data : Bytes)

theorem sound_putSwept (kind : UploadPurpose) (sent : Offered) (info : Meta) (found : Setting)
    (registered : host.purposes.get? kind.name = some kind) (named : sent.purpose = kind.name) :
    Sound host (store.putSwept host data kind sent info found).2 := by
  rw [Store.putSwept]
  split
  next record here =>
    replace here := onDisk_self sound.filed here
    split
    · exact sound
    next done => exact sound_claim sound registered named here done
  next absent =>
    rw [onDisk_eq sound.filed] at absent
    split
    · exact sound
    next room =>
      have new (record : InRecord) (held : store.inbox.get? (host.sha256 data) = some record) :
          record.size = data.length := by
        rw [absent] at held
        cases held
      have grows := usage_fileAway_le (host.sha256 data) data.length info [sent] data found.now
        sound.filed new
      exact ⟨filed_fileAway _ data.length info [sent] data found.now sound.filed rfl rfl,
        within_charged registered sound.within room grows named⟩

theorem sound_putFile (name mime : String) (purpose : PurposeName) (info : Meta) (freeBefore : Int)
    (found : Setting) :
    Sound host (store.putFile host data name mime purpose info freeBefore found).2 := by
  rw [Store.putFile]
  split
  · exact sound
  next kind taken =>
    split
    · exact sound
    · split
      · exact sound
      · split
        · exact sound
        · exact sound_putSwept (sound_gcUser found.now found.old sound) data kind _ _ found
            (taken_registered taken).1 rfl

theorem sound_dropFile (record : InRecord) (found : store.inbox.get? record.xid = some record) :
    Sound host (store.dropFile record) where
  filed := filed_dropFile sound.filed record found
  within := by
    apply within_of_le sound.within
    intro purpose
    have dropped := inCounts_nonneg purpose record
    rw [Store.usage, Store.usage, Store.dropFile, Table.total_erase,
      Table.weightAt_some _ _ _ _ found]
    dsimp only
    omega

theorem sound_delete (purpose : Option PurposeName) :
    Sound host (store.delete host xid purpose).2 := by
  rw [Store.delete]
  split
  · exact sound
  · split
    · exact sound
    · split
      · exact sound
      next record here =>
        replace here := get?_self here
        split
        · exact sound_dropFile sound record here
        next name _ =>
          split
          · exact sound
          · split
            · apply sound_setClaims sound record (record.claims.erase name) here
              intro other held
              rw [Table.get?_erase] at held
              split at held
              · cases held
              · exact held
            · exact sound_dropFile sound record here

theorem sound_bindOne (turn : Turn) (purpose : Option PurposeName) :
    Sound host (store.bindOne host xid turn purpose).2 := by
  rw [Store.bindOne]
  split
  · exact sound
  next record onDisk =>
    replace onDisk := onDisk_self sound.filed onDisk
    split
    · exact sound
    next claim here =>
      split
      · exact sound
      · apply sound_setClaims sound record (record.claims.set (claim.boundTo turn)) onDisk
        intro other held
        rw [Table.get?_set] at held
        split at held
        next same =>
          have named := record.claims.get?_key _ claim here
          rw [InRecord.heldFor, ← same]
          change (record.claims.get? claim.purpose).isSome = true
          rw [named, here]
          rfl
        next => exact held

end

theorem sound_bindAll (turn : Turn) (purpose : Option PurposeName) (xids : List Xid)
    (sound : Sound host store) : Sound host (Store.bindAll host turn purpose xids store).2 := by
  induction xids generalizing store with
  | nil => exact sound
  | cons xid rest ih => exact ih (sound_bindOne sound xid turn purpose)

theorem sound_consumeOne (sound : Sound host store) (now : Time) (xid : Xid) :
    Sound host (store.consumeOne now xid) := by
  rw [Store.consumeOne]
  split
  · exact sound
  next record here =>
    have found : store.inbox.get? xid = some record := by
      split at here
      · exact here
      · cases here
    replace found := get?_self found
    apply sound_setClaims sound record _ found
    intro name held
    rw [Table.get?_mapRows, Option.isSome_map] at held
    exact held

theorem sound_markConsumed (now : Time) (xids : List Xid) (sound : Sound host store) :
    Sound host (store.markConsumed xids now) := by
  induction xids generalizing store with
  | nil => exact sound
  | cons xid rest ih => exact ih (sound_consumeOne sound now xid)

end Turns

/-- Every operation keeps the files, the commits that go on and the quotas. -/
theorem sound_step
    (sizes : ∀ left right, host.sha256 left = host.sha256 right → left.length = right.length)
    (event : Event) (ready : Ready host store) (sound : Sound host store) :
    Sound host (step host store event) := by
  cases event with
  | offer call found => exact sound_offer sound call found
  | putChunk xid i data digest now stopped =>
    exact sound_lighter sound (putChunk_tends ready xid i data digest now stopped).lighter
  | commitStart xid => exact sound_lighter sound (commitStart_tends ready xid).lighter
  | commitHash xid => exact sound_lighter sound (commitHash_tends ready xid).lighter
  | commitFinish xid now => exact sound_commitFinish sizes ready sound xid now
  | commitRelease xid => exact sound_lighter sound (commitRelease_tends ready xid).lighter
  | abort xid => exact sound_lighter sound (abort_tends ready xid).lighter
  | putFile data name mime purpose info freeBefore found =>
    exact sound_putFile sound data name mime purpose info freeBefore found
  | delete xid purpose => exact sound_delete sound xid purpose
  | bind xids turn purpose =>
    change Sound host (store.bind host xids turn purpose).2
    rw [Store.bind]
    split
    · exact sound
    · exact sound_bindAll turn purpose _ sound
  | markConsumed xids now => exact sound_markConsumed now xids sound
  | gc now old => exact sound_gcUser now old sound

end Hartos.UserFiles
