import Mathlib.Data.List.Basic
import Mathlib.Logic.Function.Basic

/-!
A directory of ledger files. Every ledger has one file, one temporary file while
it saves, and one mark while it holds work in progress; all three are named after
its key, made path-safe. What a file holds is left open: the names alone decide
which ledgers share it.
-/
namespace Hartos.JsonBackend

def replaceDots : List Char → List Char
  | [] => []
  | '.' :: '.' :: rest => '_' :: replaceDots rest
  | c :: rest => c :: replaceDots rest

def replaceChar (found : Char) (text : List Char) : List Char :=
  text.map fun c => if c = found then '_' else c

def sanitize (text : List Char) : List Char :=
  replaceChar '\\' (replaceChar '/' (replaceDots text))

def safeKey (key : String) : String := String.ofList (sanitize key.toList)

def getPath (key : String) : String := safeKey key ++ ".json"

def stem (name : String) : String :=
  let ending := name.toList.reverse.takeWhile (· ≠ '.')
  match name.toList.reverse.dropWhile (· ≠ '.') with
  | _ :: front => if ending = [] ∨ front = [] then name else String.ofList front.reverse
  | [] => name

def markPath (key : String) : String := stem (getPath key)

def tmpPath (key : String) : String := stem (getPath key) ++ ".tmp"

structure LedgerName where
  agentId : String
  sessionId : String
  deriving DecidableEq

def LedgerName.key (name : LedgerName) : String :=
  "ledger_" ++ name.agentId ++ "_" ++ name.sessionId

inductive Contents (Data : Type) where
  | data (value : Data)
  | garbled
  deriving DecidableEq

structure Directory (Data : Type) where
  files : String → Option (Contents Data)
  marks : String → Bool

inductive SaveFault where
  | opening (left : Bool)
  | writing (left : Bool)
  | replacing (left : Bool)
  deriving DecidableEq

inductive Call (Data : Type) where
  | save (data : Data) (fault : Option SaveFault)
  | load (readable : Bool)
  | fileExists
  | delete (unlinks clears : Bool)
  | setMark (on written : Bool)

inductive Answer (Data : Type) where
  | done (ok : Bool)
  | loaded (data : Option Data)
  deriving DecidableEq

variable {Data : Type}

namespace Directory
variable (dir : Directory Data)

def put (name : String) (contents : Option (Contents Data)) : Directory Data :=
  { dir with files := Function.update dir.files name contents }

def mark (name : String) (on : Bool) : Directory Data :=
  { dir with marks := Function.update dir.marks name on }

def cleanUp (key : String) (left : Bool) : Directory Data :=
  if left then dir else dir.put (tmpPath key) none

def load (key : String) (readable : Bool) : Option Data :=
  match dir.files (getPath key) with
  | some (.data value) => if readable then some value else none
  | _ => none

def save (key : String) (data : Data) : Option SaveFault → Bool × Directory Data
  | none => (true, (dir.put (tmpPath key) none).put (getPath key) (some (.data data)))
  | some (.opening left) => (false, dir.cleanUp key left)
  | some (.writing left) => (false, (dir.put (tmpPath key) (some .garbled)).cleanUp key left)
  | some (.replacing left) =>
      (false, (dir.put (tmpPath key) (some (.data data))).cleanUp key left)

def delete (key : String) (unlinks clears : Bool) : Bool × Directory Data :=
  if unlinks then
    let gone := dir.put (getPath key) none
    (true, if clears then gone.mark (markPath key) false else gone)
  else (false, dir)

def perform (key : String) (dir : Directory Data) : Call Data → Answer Data × Directory Data
  | .save data fault => (.done (dir.save key data fault).1, (dir.save key data fault).2)
  | .load readable => (.loaded (dir.load key readable), dir)
  | .fileExists => (.done (dir.files (getPath key)).isSome, dir)
  | .delete unlinks clears =>
      (.done (dir.delete key unlinks clears).1, (dir.delete key unlinks clears).2)
  | .setMark on written => (.done written, if written then dir.mark (markPath key) on else dir)

def performAll (key : String) (dir : Directory Data) : List (Call Data) →
    List (Answer Data) × Directory Data
  | [] => ([], dir)
  | call :: rest =>
      let first := dir.perform key call
      let later := performAll key first.2 rest
      (first.1 :: later.1, later.2)

end Directory

def pieces : List Char → List (List Char)
  | [] => [[]]
  | '.' :: '.' :: rest => [] :: pieces rest
  | c :: rest =>
      if c = '_' ∨ c = '/' ∨ c = '\\' then [] :: pieces rest
      else (pieces rest).modifyHead (c :: ·)

def LedgerName.pieces (name : LedgerName) : List (List Char) :=
  JsonBackend.pieces name.agentId.toList ++ JsonBackend.pieces name.sessionId.toList

theorem sanitize_pair (rest : List Char) :
    sanitize ('.' :: '.' :: rest) = '_' :: sanitize rest := by
  simp [sanitize, replaceDots, replaceChar]

theorem sanitize_cons (c : Char) (rest : List Char)
    (single : ∀ tail, c = '.' → rest = '.' :: tail → False) :
    sanitize (c :: rest) =
      (if c = '_' ∨ c = '/' ∨ c = '\\' then '_' else c) :: sanitize rest := by
  rw [sanitize, replaceDots.eq_3 c rest single]
  by_cases slash : c = '/'
  · simp [replaceChar, slash, sanitize]
  · by_cases back : c = '\\' <;> by_cases under : c = '_' <;>
      simp [replaceChar, slash, back, under, sanitize]

theorem sanitize_splits (text : List Char) : (sanitize text).splitOn '_' = pieces text := by
  fun_induction pieces text with
  | case1 => simp [sanitize, replaceChar, replaceDots]
  | case2 rest ih => rw [sanitize_pair, List.splitOn_cons_eq_if_modifyHead,
        if_pos (beq_self_eq_true '_'), ih]
  | case3 c rest single special ih =>
    rw [sanitize_cons c rest single, if_pos special, List.splitOn_cons_eq_if_modifyHead,
      if_pos (beq_self_eq_true '_'), ih]
  | case4 c rest single plain ih =>
    have other : ¬ c = '_' := fun same => plain (.inl same)
    rw [sanitize_cons c rest single, if_neg plain, List.splitOn_cons_eq_if_modifyHead,
      if_neg (by simpa using other), ih]

theorem sanitize_eq_iff (left right : List Char) :
    sanitize left = sanitize right ↔ pieces left = pieces right := by
  constructor
  · intro same
    rw [← sanitize_splits, same, sanitize_splits]
  · intro same
    calc sanitize left
        = List.intercalate ['_'] ((sanitize left).splitOn '_') := by
          rw [List.intercalate_splitOn]
      _ = List.intercalate ['_'] ((sanitize right).splitOn '_') := by
          rw [sanitize_splits, same, ← sanitize_splits]
      _ = sanitize right := List.intercalate_splitOn '_'

theorem pieces_joined (front back : List Char) :
    pieces (front ++ '_' :: back) = pieces front ++ pieces back := by
  fun_induction pieces front with
  | case1 => simp [pieces]
  | case2 rest ih => simp [pieces, ih]
  | case3 c rest single special ih =>
    have apart : ∀ tail, c = '.' → rest ++ '_' :: back = '.' :: tail → False := by
      rintro tail rfl
      simp at special
    rw [List.cons_append, pieces.eq_3 _ _ apart, if_pos special, ih, List.cons_append]
  | case4 c rest single plain ih =>
    have apart : ∀ tail, c = '.' → rest ++ '_' :: back = '.' :: tail → False := by
      intro tail dot starts
      cases rest with
      | nil => simp at starts
      | cons next more =>
        simp only [List.cons_append, List.cons.injEq] at starts
        exact single more dot (by rw [starts.1])
    have nonempty : pieces rest ≠ [] := by
      rw [← sanitize_splits]
      exact List.splitOn_ne_nil '_' _
    rw [List.cons_append, pieces.eq_3 _ _ apart, if_neg plain, ih]
    cases split : pieces rest with
    | nil => exact absurd split nonempty
    | cons first more => simp

variable (one other : LedgerName) (name : LedgerName)

theorem key_pieces : pieces name.key.toList = pieces "ledger".toList ++ name.pieces := by
  have spelled : name.key.toList =
      "ledger".toList ++ '_' :: (name.agentId.toList ++ '_' :: name.sessionId.toList) := by
    simp [LedgerName.key]
  rw [spelled, pieces_joined, pieces_joined, LedgerName.pieces]

theorem safeKey_eq_iff : safeKey one.key = safeKey other.key ↔ one.pieces = other.pieces := by
  rw [safeKey, safeKey, String.ofList_inj, sanitize_eq_iff, key_pieces, key_pieces,
    List.append_cancel_left_eq]

theorem safeKey_nonempty : (safeKey name.key).toList ≠ [] := by
  simp [safeKey, LedgerName.key, sanitize, replaceDots, replaceChar]

theorem stem_json (front : String) (nonempty : front.toList ≠ []) :
    stem (front ++ ".json") = front := by
  simp [stem, nonempty]

theorem markPath_eq : markPath name.key = safeKey name.key :=
  stem_json _ (safeKey_nonempty name)

theorem append_left_inj (left right ending : String) :
    left ++ ending = right ++ ending ↔ left = right := by
  rw [← String.toList_inj, String.toList_append, String.toList_append,
    List.append_cancel_right_eq, String.toList_inj]

theorem getPath_eq_iff : getPath one.key = getPath other.key ↔ one.pieces = other.pieces := by
  rw [getPath, getPath, append_left_inj, safeKey_eq_iff]

theorem markPath_eq_iff : markPath one.key = markPath other.key ↔ one.pieces = other.pieces := by
  rw [markPath_eq, markPath_eq, safeKey_eq_iff]

theorem tmpPath_ne_getPath (one other : String) : tmpPath one ≠ getPath other := by
  intro same
  have last := congrArg (fun name => name.toList.getLast?) same
  simp [tmpPath, getPath] at last

namespace Directory
variable (dir : Directory Data) (name : String) (contents : Option (Contents Data))

@[simp] theorem put_marks : (dir.put name contents).marks = dir.marks := rfl

@[simp] theorem put_same : (dir.put name contents).files name = contents := by
  simp [put]

theorem put_other (name other : String) (contents : Option (Contents Data))
    (differ : other ≠ name) :
    (dir.put name contents).files other = dir.files other := by
  simp [put, differ]

@[simp] theorem mark_files (on : Bool) : (dir.mark name on).files = dir.files := rfl

theorem mark_other (name other : String) (on : Bool) (differ : other ≠ name) :
    (dir.mark name on).marks other = dir.marks other := by
  simp [mark, differ]

theorem cleanUp_other (key name : String) (left : Bool) (differ : name ≠ tmpPath key) :
    (dir.cleanUp key left).files name = dir.files name := by
  cases left with
  | true => rfl
  | false => exact put_other _ _ _ _ differ

@[simp] theorem cleanUp_marks (key : String) (left : Bool) :
    (dir.cleanUp key left).marks = dir.marks := by
  cases left <;> rfl

theorem perform_files (key name : String) (dir : Directory Data) (call : Call Data)
    (notPath : name ≠ getPath key) (notTmp : name ≠ tmpPath key) :
    (dir.perform key call).2.files name = dir.files name := by
  cases call with
  | save data fault =>
    cases fault with
    | none => simp only [perform, save, put_other _ _ _ _ notPath, put_other _ _ _ _ notTmp]
    | some fault =>
      cases fault <;>
        simp only [perform, save, cleanUp_other _ _ _ _ notTmp, put_other _ _ _ _ notTmp]
  | load readable => rfl
  | fileExists => rfl
  | delete unlinks clears =>
    cases unlinks <;> cases clears <;>
      simp [perform, delete, put_other _ _ _ _ notPath]
  | setMark on written => cases written <;> rfl

theorem perform_marks (key name : String) (dir : Directory Data) (call : Call Data)
    (notMark : name ≠ markPath key) :
    (dir.perform key call).2.marks name = dir.marks name := by
  cases call with
  | save data fault =>
    cases fault with
    | none => rfl
    | some fault => cases fault <;> simp [perform, save]
  | load readable => rfl
  | fileExists => rfl
  | delete unlinks clears =>
    cases unlinks <;> cases clears <;> simp [perform, delete, mark_other _ _ _ _ notMark]
  | setMark on written =>
    cases written <;> simp [perform, mark_other _ _ _ _ notMark]

theorem perform_reads (key : String) (left right : Directory Data) (call : Call Data)
    (same : left.files (getPath key) = right.files (getPath key)) :
    (left.perform key call).1 = (right.perform key call).1 ∧
      (left.perform key call).2.files (getPath key) =
        (right.perform key call).2.files (getPath key) := by
  have apart : getPath key ≠ tmpPath key := fun same => tmpPath_ne_getPath key key same.symm
  cases call with
  | save data fault =>
    cases fault with
    | none => simp [perform, save, put]
    | some fault =>
      cases fault <;>
        simp [perform, save, cleanUp_other _ _ _ _ apart, put_other _ _ _ _ apart, same]
  | load readable => simp [perform, load, same]
  | fileExists => simp [perform, same]
  | delete unlinks clears =>
    cases unlinks <;> cases clears <;> simp [perform, delete, put, same]
  | setMark on written => cases written <;> simp [perform, same]

theorem performAll_files (key name : String) (calls : List (Call Data)) (dir : Directory Data)
    (notPath : name ≠ getPath key) (notTmp : name ≠ tmpPath key) :
    (dir.performAll key calls).2.files name = dir.files name := by
  induction calls generalizing dir with
  | nil => rfl
  | cons call rest ih =>
    rw [performAll, ih, perform_files key name dir call notPath notTmp]

theorem performAll_marks (key name : String) (calls : List (Call Data)) (dir : Directory Data)
    (notMark : name ≠ markPath key) :
    (dir.performAll key calls).2.marks name = dir.marks name := by
  induction calls generalizing dir with
  | nil => rfl
  | cons call rest ih => rw [performAll, ih, perform_marks key name dir call notMark]

theorem performAll_reads (key : String) (calls : List (Call Data)) (left right : Directory Data)
    (same : left.files (getPath key) = right.files (getPath key)) :
    (left.performAll key calls).1 = (right.performAll key calls).1 := by
  induction calls generalizing left right with
  | nil => rfl
  | cons call rest ih =>
    have step := perform_reads key left right call same
    simp only [performAll, step.1, ih _ _ step.2]

end Directory

/-- Two ledgers keep apart: their names differ, and whatever one does, in whatever
order and with whatever faults, the other's file and mark stay as they are and
decide nothing that the first is told. -/
structure Separate (Data : Type) (one other : LedgerName) : Prop where
  paths : getPath one.key ≠ getPath other.key
  marks : markPath one.key ≠ markPath other.key
  fileKept : ∀ (calls : List (Call Data)) (dir : Directory Data),
    (dir.performAll one.key calls).2.files (getPath other.key) = dir.files (getPath other.key)
  markKept : ∀ (calls : List (Call Data)) (dir : Directory Data),
    (dir.performAll one.key calls).2.marks (markPath other.key) = dir.marks (markPath other.key)
  unread : ∀ (calls : List (Call Data)) (left right : Directory Data),
    (∀ name, name ≠ getPath other.key → left.files name = right.files name) →
    (left.performAll one.key calls).1 = (right.performAll one.key calls).1

/-- Whether two ledgers keep apart is decided by their ids cut at every underscore,
slash, backslash and pair of dots: where the cuts fall between the two ids is lost. -/
theorem separate_iff (Data : Type) (one other : LedgerName) :
    Separate Data one other ↔ one.pieces ≠ other.pieces := by
  constructor
  · intro separate same
    exact separate.paths ((getPath_eq_iff one other).mpr same)
  · intro differ
    have paths : getPath one.key ≠ getPath other.key :=
      fun same => differ ((getPath_eq_iff one other).mp same)
    have marks : markPath one.key ≠ markPath other.key :=
      fun same => differ ((markPath_eq_iff one other).mp same)
    have notTmp : getPath other.key ≠ tmpPath one.key :=
      fun same => tmpPath_ne_getPath one.key other.key same.symm
    constructor
    · exact paths
    · exact marks
    · intro calls dir
      exact Directory.performAll_files _ _ calls dir paths.symm notTmp
    · intro calls dir
      exact Directory.performAll_marks _ _ calls dir marks.symm
    · intro calls left right same
      exact Directory.performAll_reads _ calls left right (same _ paths)

def sharing : LedgerName × LedgerName := (⟨"a_b", "c"⟩, ⟨"a", "b_c"⟩)

def emptyDirectory : Directory Nat := ⟨fun _ => none, fun _ => false⟩

/-- Two ledgers whose ids differ: what the one saves is what the other loads, and
the other's mark goes on with the one's. -/
theorem one_file_for_two : sharing.1 ≠ sharing.2 ∧
    getPath sharing.1.key = getPath sharing.2.key ∧
    ((emptyDirectory.perform sharing.1.key (.save 7 none)).2.load sharing.2.key true) = some 7 ∧
    ((emptyDirectory.perform sharing.1.key (.setMark true true)).2.marks
      (markPath sharing.2.key)) = true ∧
    ¬ Separate Nat sharing.1 sharing.2 := by
  have differ : sharing.1 ≠ sharing.2 := by decide
  have paths : getPath sharing.1.key = getPath sharing.2.key := by decide +kernel
  have marks : markPath sharing.1.key = markPath sharing.2.key := by decide +kernel
  have loaded : (emptyDirectory.perform sharing.1.key (.save 7 none)).2.load sharing.2.key true
      = some 7 := by
    simp [Directory.load, Directory.perform, Directory.save, Directory.put, paths]
  have marked : (emptyDirectory.perform sharing.1.key (.setMark true true)).2.marks
      (markPath sharing.2.key) = true := by
    simp [Directory.perform, Directory.mark, marks]
  exact ⟨differ, paths, loaded, marked, fun separate => separate.paths paths⟩

end Hartos.JsonBackend
