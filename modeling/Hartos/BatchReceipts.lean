import Hartos.RaisingRuns
import Hartos.SyncBatch

/-!
What the sender may conclude from a receipt. Within a request nothing gives the transaction
back, so what the session has written stays in it as long as it is not broken and the database has
not aborted the transaction; a broken session never gets to the answer.
-/
namespace Hartos.SyncBatch
open RaisingRuns

structure Grows (first last : Session) : Prop where
  broken : first.broken = true → last.broken = true
  aborted : first.aborted = true → last.aborted = true
  effects : last.broken = false → last.aborted = false → ∀ effect ∈ first.effects, effect ∈ last.effects
  blocked : ∀ id ∈ first.blocked, id ∈ last.blocked
  found : ∀ lookup ∈ first.found, lookup ∈ last.found

theorem grows_lasting : Lasting Grows where
  refl _ := ⟨id, id, fun _ _ _ member => member, fun _ member => member, fun _ member => member⟩
  trans one two :=
    { broken := two.broken ∘ one.broken
      aborted := two.aborted ∘ one.aborted
      effects := fun whole alive effect member => by
        have before : _ = false := Bool.eq_false_iff.mpr fun lost =>
          absurd (two.broken lost) (by rw [whole]; decide)
        have lives : _ = false := Bool.eq_false_iff.mpr fun dead =>
          absurd (two.aborted dead) (by rw [alive]; decide)
        exact two.effects whole alive effect (one.effects before lives effect member)
      blocked := fun id member => two.blocked id (one.blocked id member)
      found := fun lookup member => two.found lookup (one.found lookup member) }

theorem grows_lost (session : Session) : Grows session session.lost :=
  ⟨fun _ => rfl, id, fun whole => (nomatch whole), fun _ member => member, fun _ member => member⟩

def Kept (effect : Effect) (session : Session) : Prop :=
  session.broken = false → session.aborted = false → effect ∈ session.effects

variable (lookup : Lookup) (node : Node) (result : Result) (effect : Effect) (first last : Session)

theorem kept_stable (grows : Grows first last) (kept : Kept effect first) : Kept effect last := by
  intro whole alive
  apply grows.effects whole alive effect
  apply kept
  · exact Bool.eq_false_iff.mpr fun lost => absurd (grows.broken lost) (by rw [whole]; decide)
  · exact Bool.eq_false_iff.mpr fun dead => absurd (grows.aborted dead) (by rw [alive]; decide)

abbrev Always : Session → Prop := fun _ => True

theorem grows_sent (session : Session) (replies : List Reply) :
    Grows session { session with replies := replies } :=
  ⟨id, id, fun _ _ _ member => member, fun _ member => member, fun _ member => member⟩

/-- One case for each thing the database may say to a statement. -/
theorem send_settled (pending : List Effect) :
    Holds Grows (fun session => session.pending = pending) send fun _ session =>
      session.broken = false ∧ session.pending = pending := by
  intro session settled
  unfold send
  by_cases broken : session.broken = true
  · rw [if_pos broken]
    exact grows_lasting.refl session
  rw [if_neg broken]
  have whole := Bool.eq_false_iff.mpr broken
  have read := grows_sent session session.replies.tail
  dsimp only
  split
  · exact read
  cases session.replies.head?.getD .absent with
  | fails => exact read
  | poisons =>
    exact ⟨read.broken, fun _ => rfl, (fun _ alive => nomatch alive), read.blocked, read.found⟩
  | aborts => exact grows_lasting.trans read (grows_lost _)
  | absent => exact ⟨read, whole, settled⟩
  | present mark => exact ⟨read, whole, settled⟩

theorem send_holds : Holds Grows Always send fun _ _ => True := by
  intro session _
  have ends := send_settled session.pending session rfl
  cases ran : send session with
  | ok value last =>
    rw [ran] at ends
    exact ⟨ends.1, trivial⟩
  | error error last =>
    rw [ran] at ends
    exact ends

theorem flush_holds : Holds Grows Always flush fun _ session =>
    session.broken = false ∧ session.pending = [] := by
  intro session _
  unfold flush
  by_cases broken : session.broken = true
  · rw [if_pos broken]
    exact grows_lasting.refl session
  have whole := Bool.eq_false_iff.mpr broken
  rw [if_neg broken]
  by_cases nothing : session.pending = []
  · rw [if_pos nothing]
    exact ⟨grows_lasting.refl session, whole, nothing⟩
  rw [if_neg nothing]
  have read := grows_sent session session.replies.tail
  dsimp only
  split
  · exact grows_lasting.trans read (grows_lost _)
  · refine ⟨⟨id, id, fun _ _ effect member => ?_, fun _ member => member, fun _ member => member⟩,
      whole, rfl⟩
    simpa [Session.effects] using member

theorem execute_holds : Holds Grows Always (execute lookup) fun row session =>
    ∀ mark, row = some mark → (lookup, mark) ∈ session.found := by
  refine holds_bind grows_lasting send_holds fun row session _ => ?_
  refine ⟨⟨id, id, fun _ _ _ member => member, fun _ member => member,
    fun _ member => List.mem_append_left _ member⟩, ?_⟩
  rintro mark rfl
  simp

theorem query_holds : Holds Grows Always (query lookup) fun row session =>
    ∀ mark, row = some mark → (lookup, mark) ∈ session.found :=
  holds_bind grows_lasting flush_holds fun _ =>
    holds_consequence (execute_holds lookup) (fun _ _ => trivial) fun _ _ => id

theorem add_holds : Holds Grows Always (add effect) fun _ => Kept effect := by
  intro session _
  refine ⟨⟨id, id, fun _ _ other member => ?_, fun _ member => member, fun _ member => member⟩,
    fun _ _ => ?_⟩
  · simp only [Session.effects, List.mem_append] at member ⊢
    tauto
  · simp [Session.effects]

theorem executeWrite_holds : Holds Grows Always (executeWrite effect) fun _ => Kept effect := by
  refine holds_bind grows_lasting send_holds fun _ session _ => ?_
  refine ⟨⟨id, id, fun _ _ other member => ?_, fun _ member => member, fun _ member => member⟩,
    fun _ _ => ?_⟩
  · simp only [Session.effects, List.mem_append] at member ⊢
    tauto
  · simp [Session.effects]

theorem keeps {Value : Type} (effect : Effect) {run : Run Value} {after : Value → Session → Prop}
    (held : Holds Grows Always run after) :
    Holds Grows (Kept effect) run fun _ => Kept effect :=
  holds_consequence (holds_frame held (kept_stable effect)) (fun _ kept => ⟨trivial, kept⟩)
    fun _ _ both => both.2

def Item.ignored (item : Item) : Prop :=
  let payload := item.payload
  match item.op with
  | "sync_post" => payload.type ≠ "new_post" ∨ payload.originNode = "" ∨ payload.postId = ""
  | "register_agent" => payload.type ≠ "agent" ∨ payload.agentId = "" ∨ payload.username = ""
  | "sync_user" => payload.userId = "" ∨ payload.username = ""
  | "revoke_token" => payload.jti = ""
  | "sync_blocklist" => payload.jtis = []
  | _ => item.row.key = ""

def Item.tokens (item : Item) : List String :=
  if item.op = "revoke_token" then [item.payload.jti] else item.payload.jtis

def Accounted (node : Node) (item : Item) (done : Done) (session : Session) : Prop :=
  match done with
  | .applied => Kept item.effect session
  | .blocked => ∀ id ∈ item.tokens, id ∈ session.blocked
  | .repeated => (⟨"sync_queue", item.id⟩, true) ∈ session.found
  | .unknown => OP_DISPATCH node item.op = none
  | .acknowledged => item.op ∈ acknowledgeOnly
  | .incomplete => item.ignored
  | .known => item.op = "sync_post" ∧ ∃ mark, (item.row, mark) ∈ session.found
  | .banned => item.op = "sync_post" ∧ (⟨"peer_nodes", item.payload.originNode⟩, true) ∈ session.found
  | .stale => item.op = "sync_resonance" ∧ (item.row, true) ∈ session.found
  | .swallowed => item.op ∈ ["sync_post", "revoke_token", "sync_blocklist"]

theorem accounted_stable (item : Item) (done : Done) (first last : Session)
    (grows : Grows first last) (accounted : Accounted node item done first) :
    Accounted node item done last := by
  cases done with
  | applied => exact kept_stable item.effect first last grows accounted
  | blocked => exact fun id token => grows.blocked id (accounted id token)
  | repeated => exact grows.found _ accounted
  | known => exact ⟨accounted.1, accounted.2.imp fun _ row => grows.found _ row⟩
  | banned => exact ⟨accounted.1, grows.found _ accounted.2⟩
  | stale => exact ⟨accounted.1, grows.found _ accounted.2⟩
  | unknown | acknowledged | incomplete | swallowed => exact accounted

def Accounts (node : Node) (item : Item) (run : Run Done) : Prop :=
  Holds Grows Always run (Accounted node item)

section Handlers
variable (node : Node) (item : Item)

theorem refuses (error : String) : Accounts node item (throw error) :=
  holds_throw grows_lasting error _ _

theorem answers (done : Done) (reason : ∀ session, Accounted node item done session) :
    Accounts node item (pure done) :=
  holds_consequence (holds_pure grows_lasting done (Accounted node item))
    (fun session _ => reason session) fun _ _ => id

theorem answers_applied {before : Session → Prop} (kept : ∀ session, before session → Kept item.effect session) :
    Holds Grows before (pure .applied : Run Done) (Accounted node item) :=
  holds_consequence (holds_pure grows_lasting .applied (Accounted node item)) kept fun _ _ => id

theorem swallow_accounts {run : Run Done} (tried : Accounts node item run)
    (listed : item.op ∈ ["sync_post", "revoke_token", "sync_blocklist"]) :
    Accounts node item (swallow run) :=
  holds_tryCatch grows_lasting tried fun _ => answers node item .swallowed fun _ => listed

theorem senderBanned_holds (originNode : String) : Holds Grows Always (senderBanned originNode)
    fun banned session => banned = true → (⟨"peer_nodes", originNode⟩, true) ∈ session.found := by
  unfold senderBanned
  by_cases unnamed : originNode = ""
  · rw [if_pos unnamed]
    exact holds_consequence (holds_pure grows_lasting false _) (fun _ _ same => nomatch same)
      fun _ _ => id
  · rw [if_neg unnamed]
    refine holds_bind grows_lasting (query_holds _) fun peer => ?_
    refine holds_consequence (holds_pure grows_lasting _ _) (fun session rows => ?_) fun _ _ => id
    intro same
    exact rows true (by simpa using same)

variable (due : Bool) (available : Bool)

theorem enforceCeiling_holds : Holds Grows Always (enforceCeiling due) fun _ => Always := by
  have done : Holds Grows Always (pure () : Run Unit) fun _ => Always :=
    holds_pure grows_lasting () fun _ => Always
  unfold enforceCeiling
  split_ifs
  · refine holds_tryCatch grows_lasting ?_ fun _ => done
    exact holds_bind grows_lasting (query_holds _) fun _ =>
      holds_consequence done (fun _ _ => trivial) fun _ _ => id
  · exact done

theorem receiveInbox_accounts (op : item.op = "sync_post") :
    Accounts node item (receiveInbox due item) := by
  unfold receiveInbox
  by_cases malformed : item.payload.malformed = true
  · rw [if_pos malformed]
    exact refuses node item _
  rw [if_neg malformed]
  by_cases kind : item.payload.type ≠ "new_post"
  · rw [if_pos kind]
    exact answers node item .incomplete fun _ => by
      simpa [Accounted, Item.ignored, op] using Or.inl kind
  rw [if_neg kind]
  refine holds_bind grows_lasting (senderBanned_holds _) fun banned => ?_
  by_cases isBanned : banned = true
  · rw [if_pos isBanned]
    exact holds_consequence (holds_pure grows_lasting Done.banned (Accounted node item))
      (fun _ found => ⟨op, found isBanned⟩) fun _ _ => id
  rw [if_neg isBanned]
  by_cases incomplete : item.payload.originNode = "" ∨ item.payload.postId = ""
  · rw [if_pos incomplete]
    exact holds_consequence (answers node item .incomplete fun _ => by
      simpa [Accounted, Item.ignored, op] using Or.inr incomplete) (fun _ _ => trivial) fun _ _ => id
  rw [if_neg incomplete]
  refine holds_bind grows_lasting (holds_consequence (query_holds item.row) (fun _ _ => trivial)
    fun _ _ => id) fun existing => ?_
  by_cases known : existing.isSome = true
  · obtain ⟨mark, rfl⟩ := Option.isSome_iff_exists.mp known
    exact holds_consequence (holds_pure grows_lasting Done.known (Accounted node item))
      (fun _ found => ⟨op, mark, found mark rfl⟩) fun _ _ => id
  rw [if_neg known]
  refine holds_bind grows_lasting (holds_consequence (add_holds item.effect) (fun _ _ => trivial)
    fun _ _ => id) fun _ => ?_
  refine holds_bind grows_lasting (keeps item.effect flush_holds) fun _ => ?_
  exact holds_bind grows_lasting (keeps item.effect (enforceCeiling_holds due)) fun _ =>
    answers_applied node item fun _ kept => kept

theorem syncSkills_holds (skills : List String) :
    Holds Grows Always (syncSkills item skills) fun _ => Always := by
  induction skills with
  | nil => exact holds_pure grows_lasting () fun _ => Always
  | cons skill rest ih =>
    refine holds_bind grows_lasting (query_holds _) fun _ => ?_
    refine holds_bind grows_lasting (holds_consequence (add_holds _) (fun _ _ => trivial)
      fun _ _ => id) fun _ => ?_
    exact holds_consequence ih (fun _ _ => trivial) fun _ _ => id

theorem upsertAgent_holds : Holds Grows Always (upsertAgent item) fun _ => Kept item.effect := by
  refine holds_bind grows_lasting (query_holds _) fun existing => ?_
  refine holds_bind grows_lasting (holds_consequence (add_holds item.effect) (fun _ _ => trivial)
    fun _ _ => id) fun _ => ?_
  by_cases there : existing.isSome = true
  · rw [if_pos there]
    exact holds_pure grows_lasting () fun _ => Kept item.effect
  · rw [if_neg there]
    exact keeps item.effect flush_holds

theorem handleSyncAgent_accounts (op : item.op = "register_agent") :
    Accounts node item (handleSyncAgent item) := by
  unfold handleSyncAgent
  split_ifs with malformed kind incomplete
  · exact refuses node item _
  · exact answers node item .incomplete fun _ => by
      simpa [Accounted, Item.ignored, op] using Or.inl kind
  · exact answers node item .incomplete fun _ => by
      simpa [Accounted, Item.ignored, op] using Or.inr incomplete
  refine holds_bind grows_lasting (upsertAgent_holds item) fun _ => ?_
  have skills : Holds Grows Always (tryCatch (syncSkills item item.payload.skills) fun _ => pure ())
      fun _ => Always :=
    holds_tryCatch grows_lasting (syncSkills_holds item item.payload.skills) fun _ =>
      holds_pure grows_lasting () fun _ => Always
  exact holds_bind grows_lasting (keeps item.effect skills) fun _ =>
    answers_applied node item fun _ kept => kept

theorem applySyncedRow_accounts (key : String) (lastWriteWins : Bool)
    (rule : key = "" → item.ignored) (wallet : lastWriteWins = true → item.op = "sync_resonance") :
    Accounts node item (applySyncedRow key lastWriteWins item) := by
  unfold applySyncedRow
  split_ifs with malformed incomplete
  · exact refuses node item _
  · exact answers node item .incomplete fun _ => rule incomplete
  refine holds_bind grows_lasting (query_holds item.row) fun row => ?_
  by_cases stale : lastWriteWins = true ∧ row = some true
  · rw [if_pos stale]
    exact holds_consequence (holds_pure grows_lasting Done.stale (Accounted node item))
      (fun _ found => ⟨wallet stale.1, found true stale.2⟩) fun _ _ => id
  rw [if_neg stale]
  refine holds_bind grows_lasting (holds_consequence (add_holds item.effect) (fun _ _ => trivial)
    fun _ _ => id) fun _ => ?_
  exact holds_bind grows_lasting (keeps item.effect flush_holds) fun _ =>
    answers_applied node item fun _ kept => kept

theorem handleSyncFriendship_accounts (op : item.op = "sync_friendship") :
    Accounts node item (handleSyncFriendship item) := by
  unfold handleSyncFriendship
  split_ifs with malformed incomplete
  · exact refuses node item _
  · exact answers node item .incomplete fun _ => by
      simpa [Accounted, Item.ignored, Item.row, rowOf, op] using incomplete
  refine holds_bind grows_lasting (execute_holds _) fun _ => ?_
  refine holds_bind grows_lasting (holds_consequence (executeWrite_holds item.effect)
    (fun _ _ => trivial) fun _ _ => id) fun _ => ?_
  exact answers_applied node item fun _ kept => kept

theorem handleSyncUser_accounts (op : item.op = "sync_user") :
    Accounts node item (handleSyncUser item) := by
  unfold handleSyncUser
  split_ifs with malformed incomplete
  · exact refuses node item _
  · exact answers node item .incomplete fun _ => by
      simpa [Accounted, Item.ignored, op] using incomplete
  refine holds_bind grows_lasting (query_holds _) fun _ => ?_
  refine holds_bind grows_lasting (holds_consequence (add_holds item.effect) (fun _ _ => trivial)
    fun _ _ => id) fun _ => ?_
  exact answers_applied node item fun _ kept => kept

theorem blockTokens_accounts (ids : List String) (own : item.tokens = ids)
    (listed : item.op ∈ ["sync_post", "revoke_token", "sync_blocklist"]) :
    Accounts node item (blockTokens available ids) := by
  refine swallow_accounts node item ?_ listed
  by_cases reachable : available = true
  · rw [if_pos reachable]
    intro session _
    refine ⟨⟨id, id, fun _ _ _ member => member, fun _ member => List.mem_append_left _ member,
      fun _ member => member⟩, ?_⟩
    intro id token
    exact List.mem_append_right _ (own ▸ token)
  · rw [if_neg reachable]
    exact refuses node item _

theorem handleRevokeToken_accounts (op : item.op = "revoke_token") :
    Accounts node item (handleRevokeToken available item) := by
  unfold handleRevokeToken
  split_ifs with malformed incomplete
  · exact refuses node item _
  · exact answers node item .incomplete fun _ => by
      simpa [Accounted, Item.ignored, op] using incomplete
  · exact blockTokens_accounts node item available _ (by simp [Item.tokens, op]) (by simp [op])

theorem handleSyncBlocklist_accounts (op : item.op = "sync_blocklist") :
    Accounts node item (handleSyncBlocklist available item) := by
  unfold handleSyncBlocklist
  split_ifs with malformed incomplete
  · exact refuses node item _
  · exact answers node item .incomplete fun _ => by
      simpa [Accounted, Item.ignored, op] using incomplete
  · exact blockTokens_accounts node item available _ (by simp [Item.tokens, op]) (by simp [op])

theorem dispatch_accounts : Accounts node item (dispatch node item) := by
  obtain ⟨id, op, payload⟩ := item
  unfold dispatch
  cases found : OP_DISPATCH node op with
  | none => exact answers node _ .unknown fun _ => found
  | some handler =>
    simp only [OP_DISPATCH] at found
    split at found
    · obtain rfl := Option.some.inj found
      exact swallow_accounts node _ (receiveInbox_accounts node _ node.ceilingDue rfl) (by simp)
    · obtain rfl := Option.some.inj found
      exact handleSyncAgent_accounts node _ rfl
    · obtain rfl := Option.some.inj found
      exact applySyncedRow_accounts node _ _ false (fun none => none) (by simp)
    · obtain rfl := Option.some.inj found
      exact applySyncedRow_accounts node _ _ false (fun none => none) (by simp)
    · obtain rfl := Option.some.inj found
      exact applySyncedRow_accounts node _ _ false (fun none => none) (by simp)
    · obtain rfl := Option.some.inj found
      exact applySyncedRow_accounts node _ _ payload.stamped (fun none => none)
        fun _ => rfl
    · obtain rfl := Option.some.inj found
      exact handleSyncFriendship_accounts node _ rfl
    · obtain rfl := Option.some.inj found
      exact handleSyncUser_accounts node _ rfl
    · obtain rfl := Option.some.inj found
      exact handleRevokeToken_accounts node _ node.blocklist rfl
    · obtain rfl := Option.some.inj found
      exact handleSyncBlocklist_accounts node _ node.blocklist rfl
    · split_ifs at found with listed
      obtain rfl := Option.some.inj found
      exact answers node _ .acknowledged fun _ => listed

theorem attempt_holds : Holds Grows Always (attempt node item) fun outcome session =>
    ∀ done, outcome = .ok done → Accounted node item done session := by
  refine holds_tryCatch grows_lasting ?_ fun error => ?_
  · refine holds_bind grows_lasting (dispatch_accounts node item) fun done => ?_
    refine holds_consequence (holds_pure grows_lasting (Except.ok done) fun outcome session =>
      ∀ done, outcome = .ok done → Accounted node item done session) ?_ fun _ _ => id
    intro session accounted other same
    exact Except.ok.inj same ▸ accounted
  · exact holds_consequence (holds_pure grows_lasting (Except.error error) fun outcome session =>
      ∀ done, outcome = .ok done → Accounted node item done session)
      (fun _ _ _ same => nomatch same) fun _ _ => id

theorem receiveItem_holds : Holds Grows Always (receiveItem node item) fun outcome session =>
    ∀ done, outcome = .ok done → Accounted node item done session := by
  unfold receiveItem
  split_ifs
  · exact attempt_holds node item
  refine holds_bind grows_lasting (query_holds _) fun existing => ?_
  by_cases repeated : existing = some true
  · rw [if_pos repeated]
    refine holds_consequence (holds_pure grows_lasting (Except.ok Done.repeated)
      fun outcome session => ∀ done, outcome = .ok done → Accounted node item done session)
      ?_ fun _ _ => id
    intro session found done same
    exact Except.ok.inj same ▸ found true repeated
  · rw [if_neg repeated]
    exact holds_consequence (attempt_holds node item) (fun _ _ => trivial) fun _ _ => id

end Handlers

def processedOf (trace : List (Item × Except String Done)) : List String :=
  trace.filterMap fun entry => entry.2.toOption.map fun _ => entry.1.id

def errorsOf (trace : List (Item × Except String Done)) : List (String × String) :=
  trace.filterMap fun entry => match entry.2 with
    | .ok _ => none
    | .error error => some (entry.1.id, error)

structure Traced (node : Node) (result : Result) (session : Session) : Prop where
  processed : result.processed = processedOf result.trace
  errors : result.errors = errorsOf result.trace
  accounted : ∀ item done, (item, .ok done) ∈ result.trace → Accounted node item done session

theorem traced_stable (grows : Grows first last) (traced : Traced node result first) :
    Traced node result last :=
  ⟨traced.processed, traced.errors, fun item done member =>
    accounted_stable node item done first last grows (traced.accounted item done member)⟩

theorem traced_take {node : Node} {result : Result} {session : Session} {item : Item}
    {outcome : Except String Done} (traced : Traced node result session)
    (accounted : ∀ done, outcome = .ok done → Accounted node item done session) :
    Traced node (result.take item outcome) session := by
  cases outcome with
  | ok done =>
    constructor
    · simp [Result.take, traced.processed, processedOf, List.filterMap_append, Except.toOption]
    · simp [Result.take, traced.errors, errorsOf, List.filterMap_append]
    · intro other dealt member
      rcases List.mem_append.mp member with old | new
      · exact traced.accounted other dealt old
      · obtain ⟨rfl, same⟩ := Prod.mk.inj (List.mem_singleton.mp new)
        exact accounted dealt same.symm
  | error error =>
    constructor
    · simp [Result.take, traced.processed, processedOf, List.filterMap_append, Except.toOption]
    · simp [Result.take, traced.errors, errorsOf, List.filterMap_append]
    · intro other dealt member
      rcases List.mem_append.mp member with old | new
      · exact traced.accounted other dealt old
      · exact absurd (Prod.mk.inj (List.mem_singleton.mp new)).2 (by simp)

theorem trace_take (item : Item) (outcome : Except String Done) :
    (result.take item outcome).trace = result.trace ++ [(item, outcome)] := by
  cases outcome <;> rfl

theorem receiveItems_holds (items : List Item) (result : Result) :
    Holds Grows (Traced node result) (receiveItems node items result) fun final session =>
      Traced node final session ∧
        final.trace.map Prod.fst = result.trace.map Prod.fst ++ items := by
  induction items generalizing result with
  | nil =>
    exact holds_consequence (holds_pure grows_lasting result fun final session =>
      Traced node final session ∧ final.trace.map Prod.fst = result.trace.map Prod.fst ++ [])
      (fun _ traced => ⟨traced, (List.append_nil _).symm⟩) fun _ _ => id
  | cons item rest ih =>
    have received := holds_frame (receiveItem_holds node item) (traced_stable node result)
    refine holds_bind grows_lasting (holds_consequence received (fun _ traced => ⟨trivial, traced⟩)
      fun _ _ => id) fun outcome => ?_
    refine holds_consequence (ih (result.take item outcome))
      (fun session both => traced_take both.2 both.1) fun final session both => ⟨both.1, ?_⟩
    rw [both.2, trace_take, List.map_append, List.append_assoc]
    rfl

/-- The request was answered: every item has its outcome, and if the transaction was not aborted,
everything is committed, and every item the sender will not send again is one of those the receiver
may forget. -/
structure Answered (node : Node) (items : List Item) (result : Result) (session : Session) :
    Prop where
  everyItem : result.trace.map Prod.fst = items
  processed : result.processed = processedOf result.trace
  errors : result.errors = errorsOf result.trace
  written : session.aborted = false →
    ∀ item, (item, .ok .applied) ∈ result.trace → item.effect ∈ session.flushed
  accounted : ∀ item done, (item, .ok done) ∈ result.trace → Accounted node item done session

theorem commit_holds : Holds Grows Always commit fun _ session =>
    session.broken = false ∧ (session.aborted = false → session.effects = session.flushed) := by
  refine holds_bind grows_lasting flush_holds fun _ session settled => ?_
  unfold endTransaction
  split
  next rolledBack =>
    refine ⟨⟨id, id, fun _ alive => ?_, fun _ member => member, fun _ member => member⟩,
      settled.1, fun alive => ?_⟩
    · exact absurd (rolledBack.1.symm.trans alive) (by decide)
    · exact absurd (rolledBack.1.symm.trans alive) (by decide)
  next =>
    have sent := send_settled [] session settled.2
    cases ran : send session with
    | error error last =>
      rw [ran] at sent
      exact sent
    | ok value last =>
      rw [ran] at sent
      obtain ⟨grows, whole, nothing⟩ := sent
      exact ⟨grows, whole, fun _ => by rw [Session.effects, nothing, List.append_nil]⟩

theorem answered_hierarchySync (node : Node) (items : List Item) (start last : Session)
    (result : Result) (answer : hierarchySync node items start = .ok result last) :
    Answered node items result last := by
  have whole : Holds Grows Always (hierarchySync node items) fun result session =>
      (Traced node result session ∧ result.trace.map Prod.fst = items) ∧
        session.broken = false ∧ (session.aborted = false → session.effects = session.flushed) := by
    have received := receiveItems_holds node items ⟨[], [], []⟩
    have kept (result : Result) : ∀ first last, Grows first last →
        (Traced node result first ∧ result.trace.map Prod.fst = items) →
        Traced node result last ∧ result.trace.map Prod.fst = items := fun first last grows both =>
      ⟨traced_stable node result first last grows both.1, both.2⟩
    refine holds_bind grows_lasting (holds_consequence received
      (fun _ _ => ⟨rfl, rfl, fun _ _ member => nomatch member⟩) fun _ _ => id) fun result => ?_
    refine holds_bind grows_lasting (holds_consequence (holds_frame commit_holds (kept result))
      (fun _ both => ⟨trivial, both⟩) fun _ _ => id) fun _ => ?_
    refine holds_consequence (holds_pure grows_lasting result fun result session =>
      (Traced node result session ∧ result.trace.map Prod.fst = items) ∧ session.broken = false ∧
        (session.aborted = false → session.effects = session.flushed)) ?_ fun _ _ => id
    rintro session ⟨committed, both⟩
    exact ⟨both, committed⟩
  have ends := whole start trivial
  rw [answer] at ends
  obtain ⟨_, ⟨traced, every⟩, unbroken, flushed⟩ := ends
  exact
    { everyItem := every
      processed := traced.processed
      errors := traced.errors
      written := fun alive item member =>
        flushed alive ▸ traced.accounted item .applied member unbroken alive
      accounted := traced.accounted }

def emptyPayload : Payload :=
  ⟨false, "", "", "", "", "", [], "", "", false, "", "", []⟩

def openSession (replies : List Reply) : Session := ⟨[], [], [], false, false, replies, []⟩

def newAccount : Item :=
  ⟨"i1", "sync_user", { emptyPayload with userId := "u1", username := "ann" }⟩

def laterOperation : Item := ⟨"i2", "future_op", emptyPayload⟩

def newAgent : Item :=
  ⟨"i3", "register_agent",
    { emptyPayload with type := "agent", agentId := "a1", username := "bot" }⟩

/-- The lookup of the agent fails; the other two items stand. -/
theorem answered_mixedBatch :
    Answered ⟨false, true⟩ [newAccount, laterOperation, newAgent]
      ⟨["i1", "i2"], [("i3", "statement failed")],
        [(newAccount, .ok .applied), (laterOperation, .ok .unknown),
          (newAgent, .error "statement failed")]⟩
      { openSession [] with flushed := [newAccount.effect] } :=
  answered_hierarchySync ⟨false, true⟩ [newAccount, laterOperation, newAgent]
    (openSession [.absent, .absent, .absent, .absent, .absent, .fails]) _ _ (by decide +kernel)

def newCommunity : Item := ⟨"i4", "sync_community", { emptyPayload with rowId := "c1" }⟩

def newFriendship : Item := ⟨"i5", "sync_friendship", { emptyPayload with rowId := "f1" }⟩

/-- The statement of the friendship aborts the transaction, and the community goes with it. -/
example : hierarchySync ⟨false, true⟩ [newCommunity, newFriendship]
    (openSession [.absent, .absent, .absent, .absent, .absent, .poisons]) =
      .ok ⟨["i4"], [("i5", "statement failed")],
        [(newCommunity, .ok .applied), (newFriendship, .error "statement failed")]⟩
        { openSession [] with aborted := true } := by
  decide +kernel

theorem unknown_operation_processed :
    ¬ ∀ (node : Node) (items : List Item) (start last : Session) (result : Result),
      hierarchySync node items start = .ok result last →
      ∀ item done, (item, .ok done) ∈ result.trace →
        done = .repeated ∨ item.op ∈ acknowledgeOnly ∨ item.effect ∈ last.flushed ∨
          (item.op ∈ ["revoke_token", "sync_blocklist"] ∧ ∀ id ∈ item.tokens, id ∈ last.blocked) := by
  intro claimed
  have wrong := claimed ⟨false, true⟩ [laterOperation] (openSession []) (openSession [])
    ⟨["i2"], [], [(laterOperation, .ok .unknown)]⟩ (by decide +kernel) laterOperation .unknown
    (List.mem_singleton.mpr rfl)
  simp [acknowledgeOnly, openSession, laterOperation] at wrong

end Hartos.SyncBatch
