import Hartos.KeyedTotals
import Hartos.Task

/-!
The store of a user's files: uploads in chunks and in one piece, the claims that the purposes
have on a file, their quotas and the collection of what has run out. Every operation holds the
user's lock, but for the hashing of a commit; files are written and removed as asked, and a disk
that is full says so.
-/
namespace Hartos.UserFiles
open KeyedTable

abbrev Xid := String
abbrev PurposeName := String
abbrev Bytes := List UInt8

structure UploadPurpose where
  name : PurposeName
  types : List (String × String)
  maxFile : Nat
  quota : Nat
  afterUse : Option Time
  unused : Option Time
  newestOnly : Bool := false
  deriving DecidableEq

structure Policy where
  maxFile : Nat
  maxActiveUploads : Nat
  uploadIdle : Time
  userQuota : Nat
  freeMargin : Int
  chunkSize : Nat
  minChunkSize : Nat
  maxChunkSize : Nat
  maxInflight : Nat
  partTtl : Time
  outboxAfterFetch : Time
  outboxMax : Time
  chunkPos : 0 < chunkSize
  minChunkPos : 0 < minChunkSize

structure Host where
  purposes : Table UploadPurpose.name
  policy : Policy
  sha256 : Bytes → Xid

def reelSource : PurposeName := "reel_source"
def logo : PurposeName := "logo"
def songAudio : PurposeName := "song_audio"
def chatAttachment : PurposeName := "chat_attachment"

def hours (n : Int) : Time := seconds (n * 3600)

def registered : List UploadPurpose :=
  [{ name := reelSource
     types := [("video/mp4", ".mp4"), ("video/quicktime", ".mov"), ("video/3gpp", ".3gp")]
     maxFile := 2 ^ 30, quota := 5 * 2 ^ 30
     afterUse := some (hours 24), unused := some (hours 72) },
   { name := logo
     types := [("image/png", ".png"), ("image/jpeg", ".jpg"), ("image/webp", ".webp")]
     maxFile := 50 * 2 ^ 20, quota := 200 * 2 ^ 20, afterUse := none, unused := none
     newestOnly := true },
   { name := songAudio
     types :=
       [("audio/mpeg", ".mp3"), ("audio/mp4", ".m4a"), ("audio/aac", ".aac"),
        ("audio/ogg", ".ogg"), ("audio/wav", ".wav"), ("audio/x-wav", ".wav")]
     maxFile := 200 * 2 ^ 20, quota := 2 ^ 30
     afterUse := some (hours 24), unused := some (hours 72) },
   { name := chatAttachment
     types :=
       [("image/png", ".png"), ("image/jpeg", ".jpg"), ("image/webp", ".webp"),
        ("image/gif", ".gif"), ("image/heic", ".heic"), ("image/heif", ".heif"),
        ("application/pdf", ".pdf"), ("text/plain", ".txt"), ("text/csv", ".csv"),
        ("text/markdown", ".md"), ("application/msword", ".doc"),
        ("application/vnd.openxmlformats-officedocument.wordprocessingml.document", ".docx"),
        ("application/vnd.ms-excel", ".xls"),
        ("application/vnd.openxmlformats-officedocument.spreadsheetml.sheet", ".xlsx"),
        ("application/vnd.ms-powerpoint", ".ppt"),
        ("application/vnd.openxmlformats-officedocument.presentationml.presentation", ".pptx"),
        ("audio/mpeg", ".mp3"), ("audio/mp4", ".m4a"), ("audio/aac", ".aac"),
        ("audio/ogg", ".ogg"), ("audio/wav", ".wav"), ("audio/x-wav", ".wav"),
        ("audio/webm", ".weba"), ("audio/amr", ".amr"), ("audio/3gpp", ".3gp"),
        ("audio/opus", ".opus"), ("video/mp4", ".mp4"), ("video/quicktime", ".mov"),
        ("video/3gpp", ".3gp"), ("video/webm", ".webm"), ("video/x-matroska", ".mkv")]
     maxFile := 50 * 2 ^ 20, quota := 500 * 2 ^ 20, afterUse := none, unused := none }]

def standardPurposes : Table UploadPurpose.name where
  rows := registered
  unique := by decide

def standardPolicy : Policy where
  maxFile := 2 ^ 30
  maxActiveUploads := 2
  uploadIdle := seconds 600
  userQuota := 5 * 2 ^ 30
  freeMargin := 2 ^ 31
  chunkSize := 2 ^ 20
  minChunkSize := 64 * 2 ^ 10
  maxChunkSize := 4 * 2 ^ 20
  maxInflight := 3
  partTtl := hours 48
  outboxAfterFetch := hours 48
  outboxMax := hours (7 * 24)
  chunkPos := by decide
  minChunkPos := by decide

def Host.extension (host : Host) (mime : String) : String :=
  ((host.purposes.rows.flatMap UploadPurpose.types).reverse.lookup mime).getD ""

structure Meta where
  capturedAt : Option Int := none
  durationMs : Option Int := none
  deriving DecidableEq

def Meta.update (kept sent : Meta) : Meta :=
  ⟨sent.capturedAt <|> kept.capturedAt, sent.durationMs <|> kept.durationMs⟩

structure Claim where
  purpose : PurposeName
  name : String
  mime : String
  seq : Nat
  createdAt : Time
  promptId : Option String
  requestId : Option String
  consumedAt : Option Time
  deriving DecidableEq

structure Turn where
  promptId : Option String
  requestId : Option String
  deriving DecidableEq

def Claim.turn (claim : Claim) : Turn := ⟨claim.promptId, claim.requestId⟩

def Claim.boundTo (claim : Claim) (turn : Turn) : Claim :=
  { claim with promptId := turn.promptId, requestId := turn.requestId, consumedAt := none }

structure FileName where
  xid : Xid
  ext : String
  deriving DecidableEq

structure InRecord where
  xid : Xid
  file : FileName
  size : Nat
  info : Meta
  claims : Table Claim.purpose
  deriving DecidableEq

structure OutRecord where
  xid : Xid
  file : FileName
  size : Nat
  purpose : PurposeName
  createdAt : Time
  fetchedAt : Option Time
  deriving DecidableEq

structure Offered where
  purpose : PurposeName
  name : String
  mime : String
  deriving DecidableEq

/-- The bytes of a file that is written in places; a byte that was never written is `none`. -/
abbrev Data := List (Option UInt8)

def nChunks (size chunkSize : Nat) : Nat := (size + chunkSize - 1) / chunkSize

structure Part where
  xid : Xid
  size : Nat
  chunkSize : Nat
  marks : List Bool
  info : Meta
  claims : Table Offered.purpose
  touchedAt : Time
  data : Data
  marked : marks.length = nChunks size chunkSize
  deriving DecidableEq

variable (purpose : Option PurposeName) (marks : List Bool) (part : Part)

def Part.bytes : Bytes := part.data.map fun byte => byte.getD 0

/-- Where the commit of an upload stands: its file is being hashed, it was hashed, or all that is
left is to say that the commit is over. -/
inductive Phase where
  | started
  | hashed (intact : Bool)
  | filed
  deriving DecidableEq

structure Store where
  inbox : Table InRecord.xid
  outbox : Table OutRecord.xid
  seq : Nat
  parts : Table Part.xid
  inFiles : FileName → Option Bytes
  outFiles : FileName → Option Bytes
  committing : Xid → Option Phase

def Store.empty : Store where
  inbox := Table.empty InRecord.xid
  outbox := Table.empty OutRecord.xid
  seq := 0
  parts := Table.empty Part.xid
  inFiles := fun _ => none
  outFiles := fun _ => none
  committing := fun _ => none

inductive Refusal where
  | badOffer | badName | badMime | tooLarge | quota | noSpace | busy
  | chunkCorrupt | unknownXid | outOfRange | notFound
  deriving DecidableEq

def addMissing (ranges : List (Nat × Nat)) (mark : Bool × Nat) : List (Nat × Nat) :=
  if mark.1 then ranges
  else
    match ranges with
    | (first, last) :: rest =>
        if last + 1 = mark.2 then (first, mark.2) :: rest else (mark.2, mark.2) :: ranges
    | [] => [(mark.2, mark.2)]

def missing : List (Nat × Nat) := (marks.zipIdx.foldl addMissing []).reverse

def doneBytes (chunkSize size : Nat) : Nat :=
  marks.zipIdx.foldl (fun total mark =>
    if mark.1 then total + min chunkSize (size - mark.2 * chunkSize) else total) 0

def addSpan (chunkSize size : Nat) (found : List (Nat × Nat)) (mark : Bool × Nat) :
    List (Nat × Nat) :=
  if mark.1 then
    let start := mark.2 * chunkSize
    let stop := min ((mark.2 + 1) * chunkSize) size
    match found with
    | (first, last) :: rest =>
        if last = start then (first, stop) :: rest else (start, stop) :: found
    | [] => [(start, stop)]
  else found

def spans (chunkSize size : Nat) : List (Nat × Nat) :=
  (marks.zipIdx.foldl (addSpan chunkSize size) []).reverse

def isCovered (found : List (Nat × Nat)) (start stop : Nat) : Bool :=
  match found.dropWhile fun span => span.2 ≤ start with
  | span :: _ => decide (span.1 ≤ start ∧ stop ≤ span.2)
  | [] => false

def remap (oldSize newSize size : Nat) : List Bool :=
  (List.range (nChunks size newSize)).map fun chunk =>
    isCovered (spans marks oldSize size) (chunk * newSize) (min ((chunk + 1) * newSize) size)

def writeAt (data : Data) (offset : Nat) (bytes : Bytes) : Data :=
  data.take offset ++ List.replicate (offset - data.length) none ++ bytes.map some ++
    data.drop (offset + bytes.length)

def InRecord.heldFor (record : InRecord) (purpose : PurposeName) : Bool :=
  (record.claims.get? purpose).isSome

def Part.offeredFor (purpose : PurposeName) : Bool :=
  (part.claims.get? purpose).isSome

def InRecord.counts (record : InRecord) : Int :=
  if purpose.all record.heldFor then record.size else 0

def OutRecord.counts (record : OutRecord) : Int :=
  if purpose.all fun name => decide (record.purpose = name) then record.size else 0

def Part.counts : Int :=
  if purpose.all part.offeredFor then part.size else 0

namespace Store
variable (host : Host) (store : Store) (now : Time)

def usage (purpose : Option PurposeName) : Int :=
  store.inbox.total (InRecord.counts purpose) + store.outbox.total (OutRecord.counts purpose) +
    store.parts.total (Part.counts purpose)

def onDisk (xid : Xid) : Option InRecord :=
  (store.inbox.get? xid).filter fun record => (store.inFiles record.file).isSome

def newest (purpose : PurposeName) : Option Xid :=
  let held := store.inbox.rows.filterMap fun record =>
    if (store.inFiles record.file).isSome then
      (record.claims.get? purpose).map fun claim => (record.xid, claim.seq)
    else none
  (held.foldl (fun best row => match best with
    | none => some row
    | some first => if first.2 ≤ row.2 then some row else some first) none).map Prod.fst

def claimExpired (xid : Xid) (claim : Claim) : Bool :=
  match host.purposes.get? claim.purpose with
  | none => decide (now - claim.createdAt > host.policy.partTtl)
  | some kind =>
      if kind.newestOnly then decide (store.newest kind.name ≠ some xid)
      else
        match claim.consumedAt with
        | some used => kind.afterUse.any fun after => decide (now - used > after)
        | none => kind.unused.any fun after => decide (now - claim.createdAt > after)

def outboundExpired (record : OutRecord) : Bool :=
  decide (now - record.createdAt > host.policy.outboxMax) ||
    record.fetchedAt.any fun fetched => decide (now - fetched > host.policy.outboxAfterFetch)

def unexpired (record : InRecord) : Table Claim.purpose :=
  record.claims.keepRows fun claim => !store.claimExpired host now record.xid claim

def collected (record : InRecord) : Option InRecord :=
  if (store.inFiles record.file).isNone then none
  else if (store.unexpired host now record).rows = [] then none
  else some { record with claims := store.unexpired host now record }

variable {host : Host} {store : Store} {now : Time} {record kept : InRecord}

-- A record that stays keeps its file and the claims that have not run out.
theorem collected_some (stays : store.collected host now record = some kept) :
    kept = { record with claims := store.unexpired host now record } := by
  rw [collected] at stays
  split at stays
  · cases stays
  · split at stays
    · cases stays
    · exact (Option.some.inj stays).symm

theorem collected_xid (stays : store.collected host now record = some kept) :
    kept.xid = record.xid := by
  rw [collected_some stays]

def outCollected (host : Host) (store : Store) (now : Time) (record : OutRecord) : Bool :=
  (store.outFiles record.file).isSome && !outboundExpired host now record

def partStays (host : Host) (store : Store) (now : Time) (part : Part) : Bool :=
  (store.committing part.xid).isSome || decide (now - part.touchedAt ≤ host.policy.partTtl)

/-- `_gc_user`; `old` says of the files that no record names which are swept. -/
def gcUser (host : Host) (store : Store) (now : Time) (old : FileName → Bool) : Store :=
  let inbox := store.inbox.filterMapRows (store.collected host now) fun _ _ stays =>
    collected_xid stays
  let outbox := store.outbox.keepRows (store.outCollected host now)
  { store with
    inbox := inbox
    outbox := outbox
    parts := store.parts.keepRows (store.partStays host now)
    inFiles := fun file =>
      if inbox.rows.any fun record => decide (record.file = file) then store.inFiles file
      -- The file of a record goes with it, and one that no record named when it is old.
      else if store.inbox.rows.any fun record => decide (record.file = file) then none
      else if old file then none
      else store.inFiles file
    outFiles := fun file =>
      if outbox.rows.any fun record => decide (record.file = file) then store.outFiles file
      else if store.outbox.rows.any fun record => decide (record.file = file) then none
      else if old file then none
      else store.outFiles file }

end Store

def isXid (text : String) : Bool :=
  decide (text.length = 64) &&
    text.toList.all fun c => c.isDigit || decide ('a' ≤ c ∧ c ≤ 'f')

def isFileName (name : String) : Bool :=
  decide (0 < name.length ∧ name.length ≤ 255 ∧ name ≠ "." ∧ name ≠ "..") &&
    name.toList.all fun c => decide (c ≠ '/' ∧ c ≠ '\\' ∧ 32 ≤ c.toNat)

def inboundMeta (sent : Meta) : Meta :=
  ⟨sent.capturedAt.filter fun ms => decide (0 < ms),
    sent.durationMs.filter fun ms => decide (0 ≤ ms)⟩

namespace Host

def largest (host : Host) (kind : UploadPurpose) : Nat := min host.policy.maxFile kind.maxFile

/-- `_chunk_size`: one outside the policy is the caller's error. -/
def chunkSize (host : Host) : Option Int → Option Nat
  | none => some host.policy.chunkSize
  | some value =>
      if host.policy.minChunkSize ≤ value ∧ value ≤ host.policy.maxChunkSize then
        some value.toNat
      else none

def taken (host : Host) (name mime : String) (purpose : PurposeName) :
    Except Refusal UploadPurpose :=
  match host.purposes.get? purpose with
  | none => .error .badOffer
  | some kind =>
      if !isFileName name then .error .badName
      else if (kind.types.lookup mime).isNone then .error .badMime
      else .ok kind

end Host

structure OfferCall where
  name : String
  size : Int
  sha256 : Xid
  mime : String
  purpose : PurposeName
  info : Meta
  chunkSize : Option Int

/-- What a call finds: the time, the files that are old enough to be swept, the free disk, and
whether the disk fills up under what the call writes. -/
structure Setting where
  now : Time
  old : FileName → Bool
  free : Int
  full : Bool

inductive Answer where
  | refused (reason : Refusal) (xid : Option Xid) (chunk : Option Int)
  | accept (xid : Xid) (chunkSize n : Nat) (missing : List (Nat × Nat)) (maxInflight : Nat)
  | held (xid : Xid)
  | ack (xid : Xid) (chunk : Int)
  | done (xid : Xid)
  | corrupt (xid : Xid) (missing : List (Nat × Nat))
  | aborted (xid : Xid)
  | deleted (was : Bool)
  | bound (claims : List (Xid × Claim))
  | valueError
  | nothing
  deriving DecidableEq

namespace Part

def start (xid : Xid) (size chunkSize : Nat) (now : Time) : Part where
  xid := xid
  size := size
  chunkSize := chunkSize
  marks := List.replicate (nChunks size chunkSize) false
  info := {}
  claims := Table.empty Offered.purpose
  touchedAt := now
  data := []
  marked := List.length_replicate

def resumed (part : Part) (chunkSize : Nat) : Part :=
  if part.chunkSize = chunkSize then part
  else
    { part with
      chunkSize := chunkSize
      marks := remap part.marks part.chunkSize chunkSize part.size
      marked := by rw [remap, List.length_map, List.length_range] }

def offered (part : Part) (purpose : Offered) (info : Meta) (now : Time) : Part :=
  { part with
    claims := part.claims.set purpose, touchedAt := now, info := part.info.update info }

def isDone (part : Part) (chunk : Nat) : Bool := part.marks.getD chunk false

def written (part : Part) (chunk : Nat) (bytes : Bytes) : Part :=
  { part with data := writeAt part.data (chunk * part.chunkSize) bytes }

def done (part : Part) (chunk : Nat) : Part :=
  { part with
    marks := part.marks.set chunk true
    marked := by rw [List.length_set, part.marked] }

def touched (part : Part) (now : Time) : Part := { part with touchedAt := now }

def reset (part : Part) (now : Time) : Part :=
  { part with
    data := []
    marks := List.replicate (nChunks part.size part.chunkSize) false
    touchedAt := now
    marked := List.length_replicate }

end Part

namespace Store

/-- `_put_claim`: a purpose's claim as sent now, with the turn it was bound to. -/
def putClaim (seq : Nat) (now : Time) (record : InRecord) (purpose : Offered) : InRecord :=
  let old := record.claims.get? purpose.purpose
  { record with
    claims := record.claims.set
      { purpose := purpose.purpose, name := purpose.name, mime := purpose.mime, seq := seq
        createdAt := now, promptId := old.bind Claim.promptId
        requestId := old.bind Claim.requestId, consumedAt := none } }

def refreshed (seq : Nat) (now : Time) (record : InRecord) (purpose : Offered) (info : Meta) :
    InRecord :=
  { putClaim seq now record purpose with info := record.info.update info }

variable (host : Host) (store : Store) (xid : Xid)

def setRecord (record : InRecord) : Store :=
  { store with inbox := store.inbox.set record }

def putClaims (now : Time) : Nat → InRecord → List Offered → Nat × InRecord
  | seq, record, [] => (seq, record)
  | seq, record, purpose :: rest =>
      putClaims now (seq + 1) (putClaim (seq + 1) now record purpose) rest

/-- `_claim`: a file that is held is recorded as sent for a purpose. -/
def claim (record : InRecord) (kind : UploadPurpose) (purpose : Offered) (info : Meta)
    (now : Time) : Except Refusal Store :=
  if !record.heldFor kind.name && decide (record.size > host.largest kind) then .error .tooLarge
  else if !record.heldFor kind.name &&
      decide (store.usage (some kind.name) + record.size > kind.quota) then .error .quota
  else
    .ok ({ store with seq := store.seq + 1 }.setRecord
      (refreshed (store.seq + 1) now record purpose info))

def room (size : Nat) (kind : UploadPurpose) (toWrite : Nat) (free : Int) : Option Refusal :=
  if store.usage none + size > host.policy.userQuota ∨
      store.usage (some kind.name) + size > kind.quota then
    some .quota
  else if free - toWrite < host.policy.freeMargin then some .noSpace
  else none

def entry (size : Nat) (kind : UploadPurpose) (found : Setting) : Option Refusal :=
  let active := store.parts.rows.filter fun part =>
    decide (found.now - part.touchedAt < host.policy.uploadIdle)
  if active.length ≥ host.policy.maxActiveUploads then some .busy
  else store.room host size kind size found.free

def dropPart : Store := { store with parts := store.parts.erase xid }

def savePart (part : Part) : Store := { store with parts := store.parts.set part }

def accepted (part : Part) : Answer :=
  .accept part.xid part.chunkSize part.marks.length (missing part.marks) host.policy.maxInflight

def offerFresh (size chunkSize : Nat) (kind : UploadPurpose) (purpose : Offered) (info : Meta)
    (found : Setting) : Answer × Store :=
  match store.entry host size kind found with
  | some refusal => (.refused refusal (some xid) none, store)
  | none =>
      if found.full then (.refused .noSpace (some xid) none, store)
      else
        let part := (Part.start xid size chunkSize found.now).offered purpose info found.now
        (accepted host part, store.savePart part)

def offerResume (part : Part) (chunkSize : Nat) (kind : UploadPurpose) (purpose : Offered)
    (info : Meta) (found : Setting) : Answer × Store :=
  if !part.offeredFor kind.name &&
      decide (store.usage (some kind.name) + part.size > kind.quota) then
    (.refused .quota (some part.xid) none, store)
  else
    let part := part.resumed chunkSize
    let still := part.size - doneBytes part.marks chunkSize part.size
    if found.free - still < host.policy.freeMargin ∨ found.full then
      (.refused .noSpace (some part.xid) none, store)
    else
      let part := part.offered purpose info found.now
      (accepted host part, store.savePart part)

def offerSwept (size chunkSize : Nat) (kind : UploadPurpose) (purpose : Offered) (info : Meta)
    (found : Setting) : Answer × Store :=
  match store.onDisk xid with
  | some record =>
      match store.claim host record kind purpose info found.now with
      | .error refusal => (.refused refusal (some xid) none, store)
      | .ok store => (.held xid, store)
  | none =>
      if (store.committing xid).isSome then (.refused .busy (some xid) none, store)
      else
        -- An upload of another size is dropped, whatever it was offered for.
        match (store.parts.get? xid).filter fun part => decide (part.size = size) with
        | none => (store.dropPart xid).offerFresh host xid size chunkSize kind purpose info found
        | some part => store.offerResume host part chunkSize kind purpose info found

def offer (call : OfferCall) (found : Setting) : Answer × Store :=
  let xid := if isXid call.sha256 then some call.sha256 else none
  if !isXid call.sha256 || decide (call.size ≤ 0) then (.refused .badOffer xid none, store)
  else
    match host.taken call.name call.mime call.purpose with
    | .error refusal => (.refused refusal xid none, store)
    | .ok kind =>
        if call.size > host.largest kind then (.refused .tooLarge xid none, store)
        else
          match host.chunkSize call.chunkSize with
          | none => (.valueError, store)
          | some chunkSize =>
              (store.gcUser host found.now found.old).offerSwept host call.sha256 call.size.toNat
                chunkSize kind ⟨kind.name, call.name, call.mime⟩ (inboundMeta call.info) found

/-- `put_chunk`; `stopped` says how many of the bytes were written if the disk was full. -/
def putChunk (i : Int) (data : Option Bytes) (digest : Xid) (now : Time) (stopped : Option Nat) :
    Answer × Store :=
  if !isXid xid then (.refused .unknownXid none (some i), store)
  else
    match store.parts.get? xid with
    | none =>
        -- A late duplicate.
        if (store.onDisk xid).isSome then (.ack xid i, store)
        else (.refused .unknownXid (some xid) (some i), store)
    | some part =>
        if i < 0 ∨ part.marks.length ≤ i then (.refused .outOfRange (some xid) (some i), store)
        else
          match data with
          | none => (.refused .chunkCorrupt (some xid) (some i), store)
          | some payload =>
              let chunk := i.toNat
              if host.sha256 payload ≠ digest ∨
                  payload.length ≠ min part.chunkSize (part.size - chunk * part.chunkSize) then
                (.refused .chunkCorrupt (some xid) (some i), store)
              else
                match stopped with
                | some count =>
                    (.refused .noSpace (some xid) (some i),
                      if part.isDone chunk then store
                      else store.savePart (part.written chunk (payload.take count)))
                | none =>
                    let part :=
                      if part.isDone chunk then part else (part.written chunk payload).done chunk
                    (.ack xid i, store.savePart (part.touched now))

def newRecord (size : Nat) (claims : List Offered) : InRecord where
  xid := xid
  file := ⟨xid, (claims.head?.map fun first => host.extension first.mime).getD ""⟩
  size := size
  info := {}
  claims := Table.empty Claim.purpose

def filing (size : Nat) (info : Meta) (claims : List Offered) (now : Time) : Nat × InRecord :=
  let record := (store.onDisk xid).getD (newRecord host xid size claims)
  putClaims now store.seq { record with info := record.info.update info } claims

def fileAway (size : Nat) (info : Meta) (claims : List Offered) (data : Bytes) (now : Time) :
    Store :=
  let filed := store.filing host xid size info claims now
  { store with
    seq := filed.1
    inbox := store.inbox.set filed.2
    -- Bytes that are held are not written again.
    inFiles := fun file =>
      if (store.onDisk xid).isNone ∧ file = filed.2.file then some data else store.inFiles file }

def setPhase (phase : Option Phase) : Store :=
  { store with committing := fun other => if other = xid then phase else store.committing other }

/-- `commit`, up to where it gives the lock away to hash the file. -/
def commitStart : Answer × Store :=
  if !isXid xid then (.refused .unknownXid none none, store)
  else
    match store.parts.get? xid with
    | none =>
        if (store.onDisk xid).isSome then (.done xid, store)
        else (.refused .unknownXid (some xid) none, store)
    | some part =>
        if (store.committing xid).isSome then (.refused .busy (some xid) none, store)
        else
          match missing part.marks with
          | [] => (.nothing, store.setPhase xid (some .started))
          | ranges => (.corrupt xid ranges, store)

def commitHash : Store :=
  match store.committing xid with
  | some .started =>
      let intact := (store.parts.get? xid).any fun part =>
        decide (part.bytes.length = part.size ∧ host.sha256 part.bytes = xid)
      store.setPhase xid (some (.hashed intact))
  | _ => store

def commitFinish (now : Time) : Answer × Store :=
  match store.committing xid with
  | some (.hashed intact) =>
      let finished := store.setPhase xid (some .filed)
      match store.parts.get? xid with
      | none => (.refused .unknownXid (some xid) none, finished)
      | some part =>
          if intact then
            (.done xid, (finished.fileAway host xid part.size part.info part.claims.rows part.bytes
              now).dropPart xid)
          else (.corrupt xid [(0, part.marks.length - 1)], finished.savePart (part.reset now))
  | _ => (.nothing, store)

def commitRelease : Store :=
  match store.committing xid with
  | some .filed => store.setPhase xid none
  | _ => store

def abort : Answer × Store :=
  if !isXid xid then (.refused .unknownXid none none, store)
  else if (store.committing xid).isSome then (.refused .busy (some xid) none, store)
  else (.aborted xid, store.dropPart xid)

def putSwept (data : Bytes) (kind : UploadPurpose) (sent : Offered) (info : Meta)
    (found : Setting) : Answer × Store :=
  let xid := host.sha256 data
  match store.onDisk xid with
  | some record =>
      match store.claim host record kind sent info found.now with
      | .error refusal => (.refused refusal (some xid) none, store)
      | .ok store => (.done xid, store)
  | none =>
      -- The bytes are on the disk already.
      match store.room host data.length kind 0 found.free with
      | some refusal => (.refused refusal (some xid) none, store)
      | none => (.done xid, store.fileAway host xid data.length info [sent] data found.now)

/-- `put_file`; the disk is looked at before the file is received and after. -/
def putFile (data : Bytes) (name mime : String) (purpose : PurposeName) (info : Meta)
    (freeBefore : Int) (found : Setting) : Answer × Store :=
  match host.taken name mime purpose with
  | .error refusal => (.refused refusal none none, store)
  | .ok kind =>
      if freeBefore < host.policy.freeMargin ∨ found.full then (.refused .noSpace none none, store)
      else if data.length > host.largest kind then (.refused .tooLarge none none, store)
      else if data = [] then (.refused .badOffer none none, store)
      else
        (store.gcUser host found.now found.old).putSwept host data kind ⟨kind.name, name, mime⟩
          (inboundMeta info) found

def dropFile (record : InRecord) : Store :=
  { store with
    inbox := store.inbox.erase record.xid
    inFiles := fun file => if file = record.file then none else store.inFiles file }

def knownPurpose (purpose : Option PurposeName) : Bool :=
  purpose.all fun name => (host.purposes.get? name).isSome

def delete (purpose : Option PurposeName) : Answer × Store :=
  if !knownPurpose host purpose then (.valueError, store)
  else if !isXid xid then (.deleted false, store)
  else
    match store.inbox.get? xid with
    | none => (.deleted false, store)
    | some record =>
        let there := (store.inFiles record.file).isSome
        match purpose with
        | none => (.deleted there, store.dropFile record)
        | some name =>
            if !record.heldFor name then (.deleted false, store)
            else if record.claims.rows.length > 1 then
              (.deleted there,
                store.setRecord { record with claims := record.claims.erase name })
            else (.deleted there, store.dropFile record)

def precedes (left right : PurposeName) : Bool :=
  let place (name : PurposeName) := host.purposes.keys.idxOf name
  decide (place left < place right) || (decide (place left = place right) && decide (left < right))

def bareClaim (record : InRecord) : PurposeName :=
  if record.heldFor chatAttachment then chatAttachment
  else
    (record.claims.keys.foldl (fun best name =>
      match best with
      | none => some name
      | some first => if precedes host name first then some name else some first) none).getD ""

def bindOne (turn : Turn) (purpose : Option PurposeName) : Option Claim × Store :=
  match store.onDisk xid with
  | none => (none, store)
  | some record =>
      match record.claims.get? (purpose.getD (bareClaim host record)) with
      | none => (none, store)
      | some claim =>
          if purpose.isNone ∧ claim.turn ≠ ⟨none, none⟩ ∧ claim.turn ≠ turn then
            (none, store)
          else
            (some (claim.boundTo turn),
              store.setRecord { record with claims := record.claims.set (claim.boundTo turn) })

def bindAll (host : Host) (turn : Turn) (purpose : Option PurposeName) :
    List Xid → Store → List (Xid × Claim) × Store
  | [], store => ([], store)
  | xid :: rest, store =>
      let first := store.bindOne host xid turn purpose
      let others := bindAll host turn purpose rest first.2
      (first.1.toList.map (fun claim => (xid, claim)) ++ others.1, others.2)

def bind (xids : List Xid) (turn : Turn) (purpose : Option PurposeName) : Answer × Store :=
  if !knownPurpose host purpose then (.valueError, store)
  else
    let bound := bindAll host turn purpose (xids.filter isXid).eraseDups store
    (.bound bound.1, bound.2)

def consumeOne (now : Time) (store : Store) (xid : Xid) : Store :=
  match if isXid xid then store.inbox.get? xid else none with
  | none => store
  | some record =>
      store.setRecord
        { record with
          claims := record.claims.mapRows (fun claim => { claim with consumedAt := some now })
            fun _ => rfl }

def markConsumed (xids : List Xid) (now : Time) : Store :=
  xids.foldl (consumeOne now) store

end Store

inductive Event where
  | offer (call : OfferCall) (found : Setting)
  | putChunk (xid : Xid) (i : Int) (data : Option Bytes) (digest : Xid) (now : Time)
      (stopped : Option Nat)
  | commitStart (xid : Xid)
  | commitHash (xid : Xid)
  | commitFinish (xid : Xid) (now : Time)
  | commitRelease (xid : Xid)
  | abort (xid : Xid)
  | putFile (data : Bytes) (name mime : String) (purpose : PurposeName) (info : Meta)
      (freeBefore : Int) (found : Setting)
  | delete (xid : Xid) (purpose : Option PurposeName)
  | bind (xids : List Xid) (turn : Turn) (purpose : Option PurposeName)
  | markConsumed (xids : List Xid) (now : Time)
  | gc (now : Time) (old : FileName → Bool)

def serve (host : Host) (store : Store) : Event → Answer × Store
  | .offer call found => store.offer host call found
  | .putChunk xid i data digest now stopped => store.putChunk host xid i data digest now stopped
  | .commitStart xid => store.commitStart xid
  | .commitHash xid => (.nothing, store.commitHash host xid)
  | .commitFinish xid now => store.commitFinish host xid now
  | .commitRelease xid => (.nothing, store.commitRelease xid)
  | .abort xid => store.abort xid
  | .putFile data name mime purpose info freeBefore found =>
      store.putFile host data name mime purpose info freeBefore found
  | .delete xid purpose => store.delete host xid purpose
  | .bind xids turn purpose => store.bind host xids turn purpose
  | .markConsumed xids now => (.nothing, store.markConsumed xids now)
  | .gc now old => (.nothing, store.gcUser host now old)

def step (host : Host) (store : Store) (event : Event) : Store := (serve host store event).2

end Hartos.UserFiles
