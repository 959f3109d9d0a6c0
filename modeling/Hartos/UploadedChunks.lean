import Hartos.StepSystem
import Hartos.UserFiles

/-!
The chunks of an upload: what its marks say of the bytes that were written, when it goes on in
chunks of another size, and which ranges are told to be missing.
-/
namespace Hartos.UserFiles
open KeyedTable StepSystem

def Covers (found : List (Nat × Nat)) (byte : Nat) : Prop :=
  ∃ span ∈ found, span.1 ≤ byte ∧ byte < span.2

structure Spread (found : List (Nat × Nat)) : Prop where
  nonempty : ∀ span ∈ found, span.1 < span.2
  apart : found.Pairwise fun first second => first.2 < second.1

variable (store : Store) (xid : Xid) (span : Nat × Nat) (rest : List (Nat × Nat))
  {chunkSize size chunk : Nat} {found : List (Nat × Nat)} {part : Part} (marks : List Bool)

theorem covers_cons (byte : Nat) :
    Covers (span :: rest) byte ↔ (span.1 ≤ byte ∧ byte < span.2) ∨ Covers rest byte :=
  List.exists_mem_cons_iff _ span rest

theorem covers_reverse (found : List (Nat × Nat)) (byte : Nat) :
    Covers found.reverse byte ↔ Covers found byte := by
  rw [Covers, Covers]
  simp only [List.mem_reverse]

theorem isCovered_cons (start stop : Nat) :
    isCovered (span :: rest) start stop =
      if span.2 ≤ start then isCovered rest start stop
      else decide (span.1 ≤ start ∧ stop ≤ span.2) := by
  rw [isCovered, List.dropWhile_cons]
  by_cases before : span.2 ≤ start
  · rw [if_pos before, if_pos (decide_eq_true before), isCovered]
  · rw [if_neg before, if_neg (fun same => before (of_decide_eq_true same))]

/-- A range is in one span when each of its bytes is in some. -/
theorem isCovered_iff (spread : Spread found) {start stop : Nat} (nonempty : start < stop) :
    isCovered found start stop = true ↔
      ∀ byte, start ≤ byte → byte < stop → Covers found byte := by
  induction found with
  | nil =>
    constructor
    · intro covered
      cases covered
    · intro all
      obtain ⟨span, member, -⟩ := all start (Nat.le_refl start) nonempty
      cases member
  | cons span rest ih =>
    obtain ⟨gaps, others⟩ := List.pairwise_cons.mp spread.apart
    have tail : Spread rest :=
      ⟨fun later member => spread.nonempty later (List.mem_cons_of_mem span member), others⟩
    rw [isCovered_cons]
    split
    next before =>
      rw [ih tail]
      apply forall_congr'
      intro byte
      apply imp_congr_right
      intro lower
      rw [covers_cons]
      apply imp_congr_right
      intro _
      constructor
      · exact Or.inr
      · rintro (here | later)
        · omega
        · exact later
    next after =>
      rw [decide_eq_true_iff]
      constructor
      · intro inside byte lower upper
        rw [covers_cons]
        omega
      · intro all
        have elsewhere (byte : Nat) (low : byte ≤ span.2) : ¬Covers rest byte := by
          rintro ⟨later, member, from_, -⟩
          have gap := gaps later member
          omega
        have first := (covers_cons span rest start).mp (all start (Nat.le_refl start) nonempty)
        have from_ := (first.resolve_right (elsewhere start (by omega))).1
        -- The byte after the span would be in a later one, which does not touch it.
        by_contra short
        have next := (covers_cons span rest span.2).mp (all span.2 (by omega) (by omega))
        have inside := next.resolve_right (elsewhere span.2 (Nat.le_refl _))
        omega

def InChunk (chunkSize size chunk byte : Nat) : Prop :=
  chunk * chunkSize ≤ byte ∧ byte < min ((chunk + 1) * chunkSize) size

/-- What the fold over the marks keeps: it has the latest span first, and all end by `stop`. -/
structure Folded (found : List (Nat × Nat)) (stop : Nat) : Prop where
  nonempty : ∀ span ∈ found, span.1 < span.2
  apart : found.Pairwise fun later earlier => earlier.2 < later.1
  ends : ∀ span ∈ found, span.2 ≤ stop

theorem Folded.mono {stop later : Nat} (folded : Folded found stop) (order : stop ≤ later) :
    Folded found later :=
  ⟨folded.nonempty, folded.apart, fun span member => (folded.ends span member).trans order⟩

theorem addSpan_false (chunkSize size : Nat) (found : List (Nat × Nat)) (chunk : Nat) :
    addSpan chunkSize size found (false, chunk) = found := rfl

/-- A chunk that was written is a span of its own, or goes on with the last one. -/
theorem addSpan_cases (chunkSize size chunk : Nat) (found : List (Nat × Nat)) :
    (∃ first rest, found = (first, chunk * chunkSize) :: rest ∧
      addSpan chunkSize size found (true, chunk) =
        (first, min ((chunk + 1) * chunkSize) size) :: rest) ∨
    (∀ span, found.head? = some span → span.2 ≠ chunk * chunkSize) ∧
      addSpan chunkSize size found (true, chunk) =
        (chunk * chunkSize, min ((chunk + 1) * chunkSize) size) :: found := by
  cases found with
  | nil =>
    right
    refine ⟨?_, rfl⟩
    intro span none
    cases none
  | cons span rest =>
    by_cases touches : span.2 = chunk * chunkSize
    · left
      refine ⟨span.1, rest, ?_, if_pos touches⟩
      rw [← touches]
    · right
      refine ⟨?_, if_neg touches⟩
      intro head here
      cases Option.some.inj here
      exact touches

theorem addSpan_true (folded : Folded found (chunk * chunkSize))
    (inside : chunk * chunkSize < min ((chunk + 1) * chunkSize) size) :
    Folded (addSpan chunkSize size found (true, chunk)) (min ((chunk + 1) * chunkSize) size) ∧
      ∀ byte, Covers (addSpan chunkSize size found (true, chunk)) byte ↔
        Covers found byte ∨ InChunk chunkSize size chunk byte := by
  generalize finish : min ((chunk + 1) * chunkSize) size = stop at inside ⊢
  rcases addSpan_cases chunkSize size chunk found with ⟨first, rest, is, added⟩ | ⟨apart, added⟩
  · rw [added, finish]
    subst is
    have last := folded.nonempty _ List.mem_cons_self
    obtain ⟨gaps, others⟩ := List.pairwise_cons.mp folded.apart
    constructor
    · constructor
      · intro span member
        rcases List.mem_cons.mp member with rfl | later
        · exact last.trans inside
        · exact folded.nonempty span (List.mem_cons_of_mem _ later)
      · exact List.pairwise_cons.mpr ⟨gaps, others⟩
      · intro span member
        rcases List.mem_cons.mp member with rfl | later
        · exact Nat.le_refl stop
        · have before := folded.ends span (List.mem_cons_of_mem _ later)
          omega
    · intro byte
      rw [covers_cons, covers_cons, InChunk, finish]
      rw [or_right_comm]
      apply or_congr_left
      omega
  · rw [added, finish]
    constructor
    · constructor
      · intro span member
        rcases List.mem_cons.mp member with rfl | earlier
        · exact inside
        · exact folded.nonempty span earlier
      · apply List.pairwise_cons.mpr
        refine ⟨?_, folded.apart⟩
        intro span member
        cases found with
        | nil => cases member
        | cons head rest =>
          have ends := folded.ends head List.mem_cons_self
          have gap := apart head rfl
          rcases List.mem_cons.mp member with rfl | earlier
          · omega
          · have order := (List.pairwise_cons.mp folded.apart).1 span earlier
            have length := folded.nonempty head List.mem_cons_self
            omega
      · intro span member
        rcases List.mem_cons.mp member with rfl | earlier
        · exact Nat.le_refl stop
        · have before := folded.ends span earlier
          omega
    · intro byte
      rw [covers_cons, InChunk, finish]
      exact Or.comm

theorem chunk_nonempty (inside : chunk < nChunks size chunkSize) (positive : 0 < chunkSize) :
    chunk * chunkSize < min ((chunk + 1) * chunkSize) size := by
  rw [nChunks, Nat.lt_div_iff_mul_lt positive] at inside
  rw [Nat.succ_mul]
  omega

/-- The fold covers what was found before and the chunks that are marked. -/
theorem foldl_addSpan {chunkSize size from_ : Nat} (positive : 0 < chunkSize)
    (few : from_ + marks.length ≤ nChunks size chunkSize) {found : List (Nat × Nat)}
    (folded : Folded found (from_ * chunkSize)) :
    ∃ stop, Folded ((marks.zipIdx from_).foldl (addSpan chunkSize size) found) stop ∧
      ∀ byte, Covers ((marks.zipIdx from_).foldl (addSpan chunkSize size) found) byte ↔
        Covers found byte ∨
          ∃ chunk, (true, chunk) ∈ marks.zipIdx from_ ∧ InChunk chunkSize size chunk byte := by
  induction marks generalizing from_ found with
  | nil =>
    refine ⟨_, folded, ?_⟩
    intro byte
    symm
    apply or_iff_left
    rintro ⟨chunk, member, -⟩
    cases member
  | cons mark rest ih =>
    rw [List.length_cons] at few
    have inside : from_ < nChunks size chunkSize := by omega
    have fewer : from_ + 1 + rest.length ≤ nChunks size chunkSize := by omega
    rw [List.zipIdx_cons, List.foldl_cons]
    cases mark with
    | false =>
      have next : Folded found ((from_ + 1) * chunkSize) :=
        folded.mono (Nat.mul_le_mul_right chunkSize (Nat.le_succ from_))
      obtain ⟨stop, result, covers⟩ := ih fewer next
      refine ⟨stop, result, ?_⟩
      intro byte
      rw [addSpan_false, covers]
      apply or_congr_right
      apply exists_congr
      intro chunk
      apply and_congr_left
      intro _
      rw [List.mem_cons]
      symm
      apply or_iff_right
      intro same
      cases same
    | true =>
      obtain ⟨next, adds⟩ := addSpan_true folded (chunk_nonempty inside positive)
      obtain ⟨stop, result, covers⟩ := ih fewer (next.mono (Nat.min_le_left _ _))
      refine ⟨stop, result, ?_⟩
      intro byte
      rw [covers, adds, or_assoc]
      apply or_congr_right
      constructor
      · rintro (here | ⟨chunk, member, here⟩)
        · exact ⟨from_, List.mem_cons_self, here⟩
        · exact ⟨chunk, List.mem_cons_of_mem _ member, here⟩
      · rintro ⟨chunk, member, here⟩
        rcases List.mem_cons.mp member with same | later
        · cases same
          exact Or.inl here
        · exact Or.inr ⟨chunk, later, here⟩

theorem spans_spec {chunkSize size : Nat} (positive : 0 < chunkSize)
    (few : marks.length ≤ nChunks size chunkSize) :
    Spread (spans marks chunkSize size) ∧ ∀ byte, Covers (spans marks chunkSize size) byte ↔
      ∃ chunk, marks[chunk]? = some true ∧ InChunk chunkSize size chunk byte := by
  have start : Folded [] (0 * chunkSize) := by
    constructor
    · intro span member
      cases member
    · exact List.Pairwise.nil
    · intro span member
      cases member
  have all : 0 + marks.length ≤ nChunks size chunkSize := by omega
  obtain ⟨stop, folded, covers⟩ := foldl_addSpan marks positive all start
  constructor
  · constructor
    · intro span member
      exact folded.nonempty span (List.mem_reverse.mp member)
    · exact List.pairwise_reverse.mpr folded.apart
  · intro byte
    rw [spans, covers_reverse, covers]
    have nothing : ¬Covers [] byte := by
      rintro ⟨span, member, -⟩
      cases member
    rw [or_iff_right nothing]
    simp only [List.mk_mem_zipIdx_iff_getElem?]

def Recorded (marks : List Bool) (chunkSize size byte : Nat) : Prop :=
  ∃ chunk, marks[chunk]? = some true ∧ InChunk chunkSize size chunk byte

/-- A new chunk is marked when all its bytes are in marked chunks, and only then. -/
theorem remap_exact {oldSize newSize size : Nat} (old : 0 < oldSize) (new : 0 < newSize)
    (few : marks.length ≤ nChunks size oldSize) (chunk : Nat) :
    (remap marks oldSize newSize size)[chunk]? = some true ↔
      chunk < nChunks size newSize ∧
        ∀ byte, InChunk newSize size chunk byte → Recorded marks oldSize size byte := by
  obtain ⟨spread, covers⟩ := spans_spec marks old few
  rw [remap, List.getElem?_map]
  by_cases inside : chunk < nChunks size newSize
  · rw [List.getElem?_range inside, Option.map_some, Option.some.injEq,
      isCovered_iff spread (chunk_nonempty inside new)]
    constructor
    · intro all
      refine ⟨inside, ?_⟩
      rintro byte ⟨lower, upper⟩
      exact (covers byte).mp (all byte lower upper)
    · rintro ⟨-, all⟩ byte lower upper
      exact (covers byte).mpr (all byte ⟨lower, upper⟩)
  · rw [List.getElem?_eq_none (by rw [List.length_range]; omega)]
    constructor
    · intro none
      cases none
    · rintro ⟨less, -⟩
      exact absurd less inside

theorem recorded_of_remap {marks : List Bool} {oldSize newSize size : Nat} (old : 0 < oldSize)
    (new : 0 < newSize) (few : marks.length ≤ nChunks size oldSize) {byte : Nat}
    (recorded : Recorded (remap marks oldSize newSize size) newSize size byte) :
    Recorded marks oldSize size byte := by
  obtain ⟨chunk, marked, inside⟩ := recorded
  exact ((remap_exact marks old new few chunk).mp marked).2 byte inside

/-- Nothing is lost when the old chunks fall into whole new ones. -/
theorem remap_recorded {marks : List Bool} {oldSize newSize size : Nat} (old : 0 < oldSize)
    (divides : newSize ∣ oldSize) (few : marks.length ≤ nChunks size oldSize) {byte : Nat}
    (recorded : Recorded marks oldSize size byte) :
    Recorded (remap marks oldSize newSize size) newSize size byte := by
  obtain ⟨chunk, marked, lower, upper⟩ := recorded
  obtain ⟨factor, rfl⟩ := divides
  have new : 0 < newSize := Nat.pos_of_mul_pos_right old
  have regroup (count : Nat) : count * factor * newSize = count * (newSize * factor) := by
    rw [Nat.mul_assoc, Nat.mul_comm factor]
  have own : InChunk newSize size (byte / newSize) byte := by
    constructor
    · exact Nat.div_mul_le_self byte newSize
    · apply lt_min
      · rw [Nat.mul_comm]
        exact Nat.lt_mul_div_succ byte new
      · omega
  refine ⟨byte / newSize, ?_, own⟩
  apply (remap_exact marks old new few _).mpr
  constructor
  · rw [nChunks, Nat.lt_div_iff_mul_lt new]
    have short := own.1
    omega
  · -- All the chunk that the byte is in lies in the old one.
    rintro other ⟨from_, before⟩
    refine ⟨chunk, marked, ?_, ?_⟩
    · have first : chunk * factor ≤ byte / newSize := by
        rw [Nat.le_div_iff_mul_le new]
        calc
          chunk * factor * newSize = chunk * (newSize * factor) := regroup chunk
          _ ≤ byte := lower
      calc
        chunk * (newSize * factor) = chunk * factor * newSize := (regroup chunk).symm
        _ ≤ byte / newSize * newSize := Nat.mul_le_mul_right newSize first
        _ ≤ other := from_
    · have last : byte / newSize + 1 ≤ (chunk + 1) * factor := by
        rw [Nat.succ_le_iff, Nat.div_lt_iff_lt_mul new]
        calc
          byte < (chunk + 1) * (newSize * factor) := lt_of_lt_of_le upper (Nat.min_le_left _ _)
          _ = (chunk + 1) * factor * newSize := (regroup (chunk + 1)).symm
      apply lt_min
      · calc
          other < (byte / newSize + 1) * newSize := lt_of_lt_of_le before (Nat.min_le_left _ _)
          _ ≤ (chunk + 1) * factor * newSize := Nat.mul_le_mul_right newSize last
          _ = (chunk + 1) * (newSize * factor) := regroup (chunk + 1)
      · exact lt_of_lt_of_le before (Nat.min_le_right _ _)

structure Gaps (ranges : List (Nat × Nat)) (marks : List Bool) : Prop where
  ordered : ∀ range ∈ ranges, range.1 ≤ range.2
  apart : ranges.Pairwise fun first second => first.2 + 1 < second.1
  cover : ∀ chunk, (∃ range ∈ ranges, range.1 ≤ chunk ∧ chunk ≤ range.2) ↔
    marks[chunk]? = some false

def toSpan (range : Nat × Nat) : Nat × Nat := (range.1, range.2 + 1)

/-- A chunk that is missing is a span of one chunk among the marks turned over. -/
theorem addMissing_toSpan (ranges : List (Nat × Nat)) (mark : Bool) {n i : Nat} (inside : i < n) :
    (addMissing ranges (mark, i)).map toSpan = addSpan 1 n (ranges.map toSpan) (!mark, i) := by
  have stop : min ((i + 1) * 1) n = i + 1 := by omega
  cases mark with
  | true => rfl
  | false =>
    cases ranges with
    | nil =>
      change [toSpan (i, i)] = [(i * 1, min ((i + 1) * 1) n)]
      rw [stop, Nat.mul_one]
      rfl
    | cons range rest =>
      rw [List.map_cons]
      by_cases touches : range.2 + 1 = i
      · have left : addMissing (range :: rest) (false, i) = (range.1, i) :: rest :=
          if_pos touches
        have right : addSpan 1 n (toSpan range :: rest.map toSpan) (true, i) =
            (range.1, min ((i + 1) * 1) n) :: rest.map toSpan :=
          if_pos (touches.trans (Nat.mul_one i).symm)
        rw [left, Bool.not_false, right, stop]
        rfl
      · have left : addMissing (range :: rest) (false, i) = (i, i) :: range :: rest :=
          if_neg touches
        have right : addSpan 1 n (toSpan range :: rest.map toSpan) (true, i) =
            (i * 1, min ((i + 1) * 1) n) :: toSpan range :: rest.map toSpan :=
          if_neg fun (same : range.2 + 1 = i * 1) => touches (same.trans (Nat.mul_one i))
        rw [left, Bool.not_false, right, stop, Nat.mul_one]
        rfl

theorem foldl_addMissing_toSpan {from_ n : Nat} (few : from_ + marks.length ≤ n)
    (ranges : List (Nat × Nat)) :
    ((marks.zipIdx from_).foldl addMissing ranges).map toSpan =
      ((marks.map not).zipIdx from_).foldl (addSpan 1 n) (ranges.map toSpan) := by
  induction marks generalizing from_ ranges with
  | nil => rfl
  | cons mark rest ih =>
    rw [List.length_cons] at few
    have inside : from_ < n := by omega
    have fewer : from_ + 1 + rest.length ≤ n := by omega
    rw [List.map_cons, List.zipIdx_cons, List.zipIdx_cons, List.foldl_cons, List.foldl_cons,
      ih fewer, addMissing_toSpan ranges mark inside]

theorem missing_toSpan : (missing marks).map toSpan = spans (marks.map not) 1 marks.length := by
  have all : 0 + marks.length ≤ marks.length := by omega
  rw [missing, List.map_reverse, foldl_addMissing_toSpan marks all]
  rfl

theorem missing_gaps : Gaps (missing marks) marks := by
  have chunks : (marks.map not).length ≤ nChunks marks.length 1 := by
    rw [List.length_map, nChunks, Nat.div_one, Nat.add_sub_cancel]
  obtain ⟨spread, covers⟩ := spans_spec (marks.map not) Nat.one_pos chunks
  rw [← missing_toSpan] at spread covers
  constructor
  · intro range member
    exact Nat.lt_succ_iff.mp (spread.nonempty _ (List.mem_map_of_mem member))
  · exact List.pairwise_map.mp spread.apart
  · intro chunk
    have same : (∃ range ∈ missing marks, range.1 ≤ chunk ∧ chunk ≤ range.2) ↔
        Covers ((missing marks).map toSpan) chunk := by
      rw [Covers]
      simp only [List.mem_map, exists_exists_and_eq_and, toSpan, Nat.lt_succ_iff]
    rw [same, covers]
    have own (other : Nat) : InChunk 1 marks.length other chunk ↔
        other = chunk ∧ chunk < marks.length := by
      rw [InChunk]
      omega
    simp only [own]
    constructor
    · rintro ⟨other, marked, rfl, -⟩
      rw [List.getElem?_map] at marked
      obtain ⟨mark, is, turned⟩ := Option.map_eq_some_iff.mp marked
      rw [is, ← Bool.not_not mark, turned]
      rfl
    · intro is
      refine ⟨chunk, ?_, rfl, ?_⟩
      · rw [List.getElem?_map, is]
        rfl
      · exact (List.getElem?_eq_some_iff.mp is).1

theorem getElem?_writeAt (data : Data) (offset : Nat) (bytes : Bytes) (byte : Nat) :
    (writeAt data offset bytes)[byte]? =
      if byte < offset then (data.take offset ++ List.replicate (offset - data.length) none)[byte]?
      else if byte < offset + bytes.length then bytes[byte - offset]?.map some
      else data[byte]? := by
  have head : (data.take offset ++ List.replicate (offset - data.length) none).length = offset := by
    rw [List.length_append, List.length_take, List.length_replicate]
    omega
  rw [writeAt, List.append_assoc, List.getElem?_append, head]
  split
  · rfl
  next here =>
    rw [List.getElem?_append, List.length_map, List.getElem?_map, List.getElem?_drop]
    split
    next inside => rw [if_pos (by omega)]
    next beyond =>
      rw [if_neg (by omega)]
      congr 1
      omega

def Part.Written (part : Part) (byte : Nat) : Prop :=
  ∃ value, part.data[byte]? = some (some value)

theorem written_written {byte : Nat} (was : part.Written byte) (chunk : Nat) (bytes : Bytes) :
    (part.written chunk bytes).Written byte := by
  obtain ⟨value, is⟩ := was
  have inside := (List.getElem?_eq_some_iff.mp is).1
  change ∃ value, (writeAt part.data (chunk * part.chunkSize) bytes)[byte]? = some (some value)
  rw [getElem?_writeAt]
  split
  next before =>
    have first : byte < (part.data.take (chunk * part.chunkSize)).length := by
      rw [List.length_take]
      omega
    rw [List.getElem?_append_left first, List.getElem?_take_of_lt before]
    exact ⟨value, is⟩
  next =>
    split
    · rw [List.getElem?_eq_getElem (by omega)]
      exact ⟨_, rfl⟩
    · exact ⟨value, is⟩

theorem written_here (part : Part) (chunk : Nat) (bytes : Bytes) {byte : Nat}
    (lower : chunk * part.chunkSize ≤ byte)
    (upper : byte < chunk * part.chunkSize + bytes.length) :
    (part.written chunk bytes).Written byte := by
  change ∃ value, (writeAt part.data (chunk * part.chunkSize) bytes)[byte]? = some (some value)
  rw [getElem?_writeAt, if_neg (by omega), if_pos upper, List.getElem?_eq_getElem (by omega)]
  exact ⟨_, rfl⟩

structure Part.Kept (part : Part) : Prop where
  sized : 0 < part.size
  positive : 0 < part.chunkSize
  written : ∀ byte, Recorded part.marks part.chunkSize part.size byte → part.Written byte

theorem recorded_unmarked {n chunkSize size byte : Nat} :
    ¬Recorded (List.replicate n false) chunkSize size byte := by
  rintro ⟨chunk, marked, -⟩
  cases List.eq_of_mem_replicate (List.mem_of_getElem? marked)

theorem kept_start {size chunkSize : Nat} (sized : 0 < size) (positive : 0 < chunkSize)
    (now : Time) :
    (Part.start xid size chunkSize now).Kept where
  sized := sized
  positive := positive
  written _ recorded := absurd recorded recorded_unmarked

namespace Part.Kept
variable {part : Part}

section

variable (kept : part.Kept)
include kept

theorem offered (sent : Offered) (info : Meta) (now : Time) : (part.offered sent info now).Kept :=
  ⟨kept.sized, kept.positive, kept.written⟩

theorem touched (now : Time) : (part.touched now).Kept :=
  ⟨kept.sized, kept.positive, kept.written⟩

theorem reset (now : Time) : (part.reset now).Kept where
  sized := kept.sized
  positive := kept.positive
  written _ recorded := absurd recorded recorded_unmarked

theorem resumed {chunkSize : Nat} (positive : 0 < chunkSize) : (part.resumed chunkSize).Kept := by
  rw [Part.resumed]
  split
  · exact kept
  · constructor
    · exact kept.sized
    · exact positive
    · intro byte recorded
      exact kept.written byte
        (recorded_of_remap kept.positive positive (Nat.le_of_eq part.marked) recorded)

theorem partly (chunk : Nat) (bytes : Bytes) :
    (part.written chunk bytes).Kept where
  sized := kept.sized
  positive := kept.positive
  written byte recorded := written_written (kept.written byte recorded) chunk bytes

theorem done {chunk : Nat} {bytes : Bytes}
    (whole : bytes.length = min part.chunkSize (part.size - chunk * part.chunkSize)) :
    ((part.written chunk bytes).done chunk).Kept where
  sized := kept.sized
  positive := kept.positive
  written := by
    rintro byte ⟨other, marked, inside⟩
    by_cases same : other = chunk
    · subst same
      obtain ⟨lower, upper⟩ := inside
      change byte < min ((other + 1) * part.chunkSize) part.size at upper
      rw [Nat.succ_mul] at upper
      apply written_here part other bytes lower
      omega
    · apply written_written
      apply kept.written byte
      refine ⟨other, ?_, inside⟩
      change (part.marks.set chunk true)[other]? = some true at marked
      rw [List.getElem?_set_ne (Ne.symm same)] at marked
      exact marked

end

end Part.Kept

theorem inChunk_unique {chunkSize size left right byte : Nat}
    (first : InChunk chunkSize size left byte) (second : InChunk chunkSize size right byte) :
    left = right := by
  have up := first.1.trans_lt (second.2.trans_le (Nat.min_le_left _ _))
  have down := second.1.trans_lt (first.2.trans_le (Nat.min_le_left _ _))
  have most := Nat.lt_of_mul_lt_mul_right up
  have least := Nat.lt_of_mul_lt_mul_right down
  omega

/-- An upload that goes on keeps the chunks whose bytes are in marked chunks, and no other. -/
theorem resumed_marks (kept : part.Kept) {chunkSize : Nat} (positive : 0 < chunkSize)
    (chunk : Nat) :
    (part.resumed chunkSize).marks[chunk]? = some true ↔
      chunk < nChunks part.size chunkSize ∧ ∀ byte, InChunk chunkSize part.size chunk byte →
        Recorded part.marks part.chunkSize part.size byte := by
  rw [Part.resumed]
  split
  next same =>
    subst same
    constructor
    · intro marked
      refine ⟨?_, fun byte inside => ⟨chunk, marked, inside⟩⟩
      rw [← part.marked]
      exact (List.getElem?_eq_some_iff.mp marked).1
    · rintro ⟨few, all⟩
      have start : InChunk part.chunkSize part.size chunk (chunk * part.chunkSize) :=
        ⟨Nat.le_refl _, chunk_nonempty few positive⟩
      obtain ⟨other, marked, here⟩ := all _ start
      rw [inChunk_unique start here]
      exact marked
  next => exact remap_exact part.marks kept.positive positive (Nat.le_of_eq part.marked) chunk

def Part.Whole (part : Part) : Prop := ∀ mark ∈ part.marks, mark = true

def Reached (host : Host) (xid : Xid) (found : Option Part) : Phase → Prop
  | .started => ∃ part, found = some part ∧ part.Whole
  | .hashed intact => ∃ part, found = some part ∧ part.Whole ∧
      (intact = true → part.bytes.length = part.size ∧ host.sha256 part.bytes = xid)
  | .filed => True

def Committing (host : Host) (parts : Table Part.xid) (committing : Xid → Option Phase) : Prop :=
  ∀ xid phase, committing xid = some phase → Reached host xid (parts.get? xid) phase

section Phases

variable {host : Host} {store : Store}

theorem committing_gcUser (now : Time) (old : FileName → Bool)
    (going : Committing host store.parts store.committing) :
    Committing host (store.gcUser host now old).parts (store.gcUser host now old).committing := by
  intro xid phase found
  have same : (store.gcUser host now old).parts.get? xid = store.parts.get? xid := by
    change (store.parts.keepRows (store.partStays host now)).get? xid = _
    rw [Table.get?_keepRows]
    cases part : store.parts.get? xid with
    | none => rfl
    | some part' =>
      have named := store.parts.get?_key xid part' part
      have stays : store.partStays host now part' = true := by
        have busy : (store.committing xid).isSome = true := by
          change store.committing xid = some phase at found
          rw [found]
          rfl
        rw [Store.partStays, named, busy]
        rfl
      rw [Option.filter_some, if_pos stays]
  rw [same]
  exact going xid phase found

section

variable (going : Committing host store.parts store.committing)
include going

theorem committing_savePart (part : Part)
    (ready : ∀ phase, store.committing part.xid = some phase →
      Reached host part.xid (some part) phase) :
    Committing host (store.savePart part).parts (store.savePart part).committing := by
  intro xid phase found
  change Reached host xid ((store.parts.set part).get? xid) phase
  rw [Table.get?_set]
  split
  next same =>
    subst same
    exact ready phase found
  next => exact going xid phase found

theorem committing_dropPart (xid : Xid)
    (ready : ∀ phase, store.committing xid = some phase → phase = .filed) :
    Committing host (store.dropPart xid).parts (store.dropPart xid).committing := by
  intro other phase found
  change Reached host other ((store.parts.erase xid).get? other) phase
  rw [Table.get?_erase]
  split
  next same =>
    subst same
    rw [ready phase found]
    trivial
  next => exact going other phase found

theorem committing_setPhase (xid : Xid) (phase : Option Phase)
    (ready : ∀ next, phase = some next → Reached host xid (store.parts.get? xid) next) :
    Committing host (store.setPhase xid phase).parts (store.setPhase xid phase).committing := by
  intro other next found
  change (if other = xid then phase else store.committing other) = some next at found
  split at found
  next same =>
    subst same
    exact ready next found
  next => exact going other next found

end

variable {xid : Xid} {part : Part} {phase : Phase}

theorem not_whole {chunk : Nat} (inside : chunk < part.marks.length)
    (undone : part.isDone chunk = false) : ¬part.Whole := by
  intro whole
  rw [Part.isDone, List.getD_eq_getElem?_getD, List.getElem?_eq_getElem inside] at undone
  change part.marks[chunk] = false at undone
  have marked := whole _ (List.getElem_mem inside)
  rw [undone] at marked
  cases marked

/-- Only a commit that is over leaves an upload that has chunks missing. -/
theorem filed_of_not_whole (reached : Reached host xid (some part) phase) (open_ : ¬part.Whole) :
    phase = .filed := by
  cases phase with
  | started =>
    obtain ⟨same, is, whole⟩ := reached
    cases Option.some.inj is
    exact absurd whole open_
  | hashed intact =>
    obtain ⟨same, is, whole, -⟩ := reached
    cases Option.some.inj is
    exact absurd whole open_
  | filed => rfl

theorem reached_touched (now : Time) (reached : Reached host xid (some part) phase) :
    Reached host xid (some (part.touched now)) phase := by
  cases phase with
  | started =>
    obtain ⟨same, is, whole⟩ := reached
    cases Option.some.inj is
    exact ⟨_, rfl, whole⟩
  | hashed intact =>
    obtain ⟨same, is, whole, digest⟩ := reached
    cases Option.some.inj is
    exact ⟨_, rfl, whole, digest⟩
  | filed => trivial

end Phases

theorem whole_of_missing (nothing : missing part.marks = []) : part.Whole := by
  have gaps := missing_gaps part.marks
  rw [nothing] at gaps
  intro mark member
  obtain ⟨chunk, is⟩ := List.mem_iff_getElem?.mp member
  cases mark with
  | true => rfl
  | false =>
    obtain ⟨range, none, -⟩ := (gaps.cover chunk).mpr is
    cases none

structure Ready (host : Host) (store : Store) : Prop where
  kept : ∀ part ∈ store.parts.rows, part.Kept
  committing : Committing host store.parts store.committing

section Ready

variable {host : Host} {store : Store}

theorem ready_empty : Ready host Store.empty where
  kept _ member := nomatch member
  committing _ _ found := nomatch found

theorem ready_same {before after : Store} (ready : Ready host before)
    (parts : after.parts = before.parts) (phases : after.committing = before.committing) :
    Ready host after := by
  constructor
  · rw [parts]
    exact ready.kept
  · rw [parts, phases]
    exact ready.committing

section

variable (ready : Ready host store)
include ready

theorem ready_savePart {part : Part} (kept : part.Kept)
    (reached : ∀ phase, store.committing part.xid = some phase →
      Reached host part.xid (some part) phase) : Ready host (store.savePart part) where
  kept other member := by
    rcases (Table.mem_set store.parts part other).mp member with rfl | ⟨there, -⟩
    · exact kept
    · exact ready.kept other there
  committing := committing_savePart ready.committing part reached

theorem ready_dropPart (xid : Xid)
    (idle : ∀ phase, store.committing xid = some phase → phase = .filed) :
    Ready host (store.dropPart xid) where
  kept other member := ready.kept other ((Table.mem_erase store.parts xid other).mp member).1
  committing := committing_dropPart ready.committing xid idle

theorem ready_setPhase (xid : Xid) (phase : Option Phase)
    (reached : ∀ next, phase = some next → Reached host xid (store.parts.get? xid) next) :
    Ready host (store.setPhase xid phase) where
  kept := ready.kept
  committing := committing_setPhase ready.committing xid phase reached

theorem ready_gcUser (now : Time) (old : FileName → Bool) :
    Ready host (store.gcUser host now old) where
  kept part member := ready.kept part (List.mem_of_mem_filter member)
  committing := committing_gcUser now old ready.committing

end

end Ready

theorem resumed_claims (part : Part) (chunkSize : Nat) :
    (part.resumed chunkSize).xid = part.xid ∧ (part.resumed chunkSize).size = part.size ∧
      (part.resumed chunkSize).claims = part.claims := by
  rw [Part.resumed]
  split
  · exact ⟨rfl, rfl, rfl⟩
  · exact ⟨rfl, rfl, rfl⟩

def Answer.missing : Answer → Option (Xid × List (Nat × Nat))
  | .accept xid _ _ ranges _ => some (xid, ranges)
  | .corrupt xid ranges => some (xid, ranges)
  | _ => none

def Tells (answer : Answer) (after : Store) : Prop :=
  ∀ xid ranges, answer.missing = some (xid, ranges) →
    ∃ part, after.parts.get? xid = some part ∧ Gaps ranges part.marks

structure Resumes (found : Option Part) (chunkSize : Nat) (after : Part) : Prop where
  agreed : after.chunkSize = chunkSize
  exactly : ∀ chunk, after.marks[chunk]? = some true ↔
    chunk < nChunks after.size chunkSize ∧ ∀ byte, InChunk chunkSize after.size chunk byte →
      ∃ before, found = some before ∧ before.size = after.size ∧
        Recorded before.marks before.chunkSize before.size byte
  lossless : ∀ before, found = some before → before.size = after.size →
    chunkSize ∣ before.chunkSize →
    ∀ byte, Recorded before.marks before.chunkSize before.size byte →
      Recorded after.marks chunkSize after.size byte

def Agrees (found : Xid → Option Part) (answer : Answer) (after : Store) : Prop :=
  ∀ xid chunkSize n ranges most, answer = .accept xid chunkSize n ranges most →
    ∃ part, after.parts.get? xid = some part ∧ n = part.marks.length ∧
      Resumes (found xid) chunkSize part

structure Serves (host : Host) (result : Answer × Store) : Prop where
  ready : Ready host result.2
  tells : Tells result.1 result.2

section Offers

variable {host : Host} {store : Store}
variable {found : Xid → Option Part} {answer : Answer} {after : Store} {part : Part}

theorem serves_quiet (ready : Ready host after) (quiet : answer.missing = none) :
    Serves host (answer, after) where
  ready := ready
  tells xid ranges told := by
    rw [quiet] at told
    cases told

theorem agrees_quiet (quiet : answer.missing = none) : Agrees found answer after := by
  rintro xid chunkSize n ranges most rfl
  cases quiet

theorem serves_accepted (ready : Ready host (store.savePart part)) :
    Serves host (Store.accepted host part, store.savePart part) where
  ready := ready
  tells := by
    rintro xid ranges told
    cases told
    exact ⟨part, Table.get?_set_self store.parts part, missing_gaps part.marks⟩

theorem agrees_accepted (resumes : Resumes (found part.xid) part.chunkSize part) :
    Agrees found (Store.accepted host part) (store.savePart part) := by
  rintro xid chunkSize n ranges most same
  cases same
  exact ⟨part, Table.get?_set_self store.parts part, rfl, resumes⟩

theorem resumes_start {found : Option Part} (xid : Xid) {size chunkSize : Nat}
    (positive : 0 < chunkSize)
    (absent : found.filter (fun part => decide (part.size = size)) = none) (sent : Offered)
    (info : Meta) (now : Time) :
    Resumes found chunkSize ((Part.start xid size chunkSize now).offered sent info now) := by
  have other (before : Part) (is : found = some before) : before.size ≠ size := by
    intro same
    rw [is, Option.filter_some, decide_eq_true same] at absent
    cases absent
  constructor
  · rfl
  · intro chunk
    constructor
    · intro marked
      cases List.eq_of_mem_replicate (List.mem_of_getElem? marked)
    · rintro ⟨few, all⟩
      obtain ⟨before, is, same, -⟩ := all _ ⟨Nat.le_refl _, chunk_nonempty few positive⟩
      exact absurd same (other before is)
  · intro before is same
    exact absurd same (other before is)

theorem resumes_resumed (kept : part.Kept) {chunkSize : Nat} (positive : 0 < chunkSize)
    (sent : Offered) (info : Meta) (now : Time) :
    Resumes (some part) chunkSize ((part.resumed chunkSize).offered sent info now) := by
  have size := (resumed_claims part chunkSize).2.1
  constructor
  · rw [Part.resumed]
    split
    next same => exact same
    next => rfl
  · intro chunk
    change (part.resumed chunkSize).marks[chunk]? = some true ↔
      chunk < nChunks (part.resumed chunkSize).size chunkSize ∧
        ∀ byte, InChunk chunkSize (part.resumed chunkSize).size chunk byte →
          ∃ before, some part = some before ∧ before.size = (part.resumed chunkSize).size ∧
            Recorded before.marks before.chunkSize before.size byte
    rw [resumed_marks kept positive, size]
    apply and_congr_right
    intro _
    apply forall_congr'
    intro byte
    apply imp_congr_right
    intro _
    constructor
    · intro recorded
      exact ⟨part, rfl, rfl, recorded⟩
    · rintro ⟨before, is, -, recorded⟩
      cases is
      exact recorded
  · intro before is _ divides byte recorded
    cases is
    change Recorded (part.resumed chunkSize).marks chunkSize (part.resumed chunkSize).size byte
    rw [size, Part.resumed]
    split
    next same =>
      rw [← same]
      exact recorded
    next => exact remap_recorded kept.positive divides (Nat.le_of_eq part.marked) recorded

theorem offerFresh_serves (ready : Ready host store) (xid : Xid) {size chunkSize : Nat}
    (sized : 0 < size) (positive : 0 < chunkSize) (kind : UploadPurpose) (sent : Offered)
    (info : Meta) (setting : Setting) {found : Xid → Option Part}
    (absent : (found xid).filter (fun part => decide (part.size = size)) = none)
    (idle : store.committing xid = none) :
    let result := store.offerFresh host xid size chunkSize kind sent info setting
    Serves host result ∧ Agrees found result.1 result.2 := by
  intro result
  subst result
  rw [Store.offerFresh]
  split
  · exact ⟨serves_quiet ready rfl, agrees_quiet rfl⟩
  · split
    · exact ⟨serves_quiet ready rfl, agrees_quiet rfl⟩
    · constructor
      · apply serves_accepted
        apply ready_savePart ready
        · exact (kept_start xid sized positive setting.now).offered sent info setting.now
        · intro phase going
          change store.committing xid = some phase at going
          rw [idle] at going
          cases going
      · exact agrees_accepted (resumes_start xid positive absent sent info setting.now)

theorem offerResume_serves (ready : Ready host store) {part : Part} {chunkSize : Nat}
    (positive : 0 < chunkSize) (kind : UploadPurpose) (sent : Offered) (info : Meta)
    (setting : Setting) (here : store.parts.get? part.xid = some part)
    (idle : store.committing part.xid = none) :
    let result := store.offerResume host part chunkSize kind sent info setting
    Serves host result ∧ Agrees store.parts.get? result.1 result.2 := by
  have kept := ready.kept part (store.parts.get?_mem part.xid part here)
  have xid := (resumed_claims part chunkSize).1
  intro result
  subst result
  rw [Store.offerResume]
  split
  · exact ⟨serves_quiet ready rfl, agrees_quiet rfl⟩
  · dsimp only
    split
    · exact ⟨serves_quiet ready rfl, agrees_quiet rfl⟩
    · constructor
      · apply serves_accepted
        apply ready_savePart ready
        · exact (kept.resumed positive).offered sent info setting.now
        · intro phase going
          change store.committing (part.resumed chunkSize).xid = some phase at going
          rw [xid, idle] at going
          cases going
      · apply agrees_accepted
        have resumes := resumes_resumed kept positive sent info setting.now
        change Resumes (store.parts.get? (part.resumed chunkSize).xid) _ _
        rw [xid, here, resumes.agreed]
        exact resumes

/-- A claim that is recorded changes the record of its file alone. -/
theorem claim_ok {record : InRecord} {kind : UploadPurpose} {sent : Offered} {info : Meta}
    {now : Time} {after : Store} (done : store.claim host record kind sent info now = .ok after) :
    after = { store with seq := store.seq + 1 }.setRecord
        (Store.refreshed (store.seq + 1) now record sent info) ∧
      (record.heldFor kind.name = false →
        store.usage (some kind.name) + record.size ≤ kind.quota) := by
  rw [Store.claim] at done
  split at done
  · cases done
  next =>
    split at done
    · cases done
    next fits =>
      constructor
      · exact (Except.ok.inj done).symm
      · intro new
        rw [new] at fits
        exact Int.not_lt.mp fun exceeds => fits (by simpa using exceeds)

theorem ready_claim (ready : Ready host store) {record : InRecord} {kind : UploadPurpose}
    {sent : Offered} {info : Meta} {now : Time} {after : Store}
    (done : store.claim host record kind sent info now = .ok after) : Ready host after := by
  obtain ⟨rfl, -⟩ := claim_ok done
  exact ready_same ready rfl rfl

theorem offerSwept_serves (ready : Ready host store) (xid : Xid) {size chunkSize : Nat}
    (sized : 0 < size) (positive : 0 < chunkSize) (kind : UploadPurpose) (sent : Offered)
    (info : Meta) (setting : Setting) :
    let result := store.offerSwept host xid size chunkSize kind sent info setting
    Serves host result ∧ Agrees store.parts.get? result.1 result.2 := by
  intro result
  subst result
  rw [Store.offerSwept]
  split
  · split
    · exact ⟨serves_quiet ready rfl, agrees_quiet rfl⟩
    next done => exact ⟨serves_quiet (ready_claim ready done) rfl, agrees_quiet rfl⟩
  · split
    · exact ⟨serves_quiet ready rfl, agrees_quiet rfl⟩
    next busy =>
      have idle : store.committing xid = none := by simpa using busy
      split
      next absent =>
        have dropped : Ready host (store.dropPart xid) := by
          apply ready_dropPart ready
          intro phase going
          rw [idle] at going
          cases going
        exact offerFresh_serves dropped xid sized positive kind sent info setting absent idle
      next part here =>
        have there := (Option.filter_eq_some_iff.mp here).1
        have key := store.parts.get?_key xid part there
        rw [← key] at there idle
        exact offerResume_serves ready positive kind sent info setting there idle

theorem chunkSize_pos {call : Option Int} {chunkSize : Nat}
    (agreed : host.chunkSize call = some chunkSize) : 0 < chunkSize := by
  have smallest := host.policy.minChunkPos
  cases call with
  | none =>
    cases Option.some.inj agreed
    exact host.policy.chunkPos
  | some value =>
    rw [Host.chunkSize] at agreed
    split at agreed
    next bounds =>
      cases Option.some.inj agreed
      omega
    next => cases agreed

theorem offer_serves (ready : Ready host store) (call : OfferCall) (setting : Setting) :
    let result := store.offer host call setting
    Serves host result ∧
      Agrees (store.gcUser host setting.now setting.old).parts.get? result.1 result.2 := by
  intro result
  subst result
  rw [Store.offer]
  split
  · exact ⟨serves_quiet ready rfl, agrees_quiet rfl⟩
  next named =>
    have sized : 0 < call.size.toNat := by
      by_contra empty
      apply named
      rw [decide_eq_true (by omega : call.size ≤ 0), Bool.or_true]
    split
    · exact ⟨serves_quiet ready rfl, agrees_quiet rfl⟩
    · split
      · exact ⟨serves_quiet ready rfl, agrees_quiet rfl⟩
      · split
        · exact ⟨serves_quiet ready rfl, agrees_quiet rfl⟩
        next agreed =>
          have swept := ready_gcUser ready setting.now setting.old
          exact offerSwept_serves swept call.sha256 sized (chunkSize_pos agreed) _ _ _ setting

end Offers

theorem counted_nonneg (counted : Bool) (size : Nat) :
    (0 : Int) ≤ if counted then (size : Int) else 0 := by
  split
  · exact Int.natCast_nonneg size
  · exact Int.le_refl 0

theorem partCounts_nonneg (purpose : Option PurposeName) (part : Part) : 0 ≤ part.counts purpose :=
  counted_nonneg _ _

namespace Store
variable (store : Store) (xid : Xid) (purpose : Option PurposeName)

theorem usage_savePart (part : Part) (purpose : Option PurposeName) :
    (store.savePart part).usage purpose = store.usage purpose + part.counts purpose -
      store.parts.weightAt (Part.counts purpose) part.xid := by
  rw [usage, usage, savePart, Table.total_set]
  dsimp only
  omega

theorem usage_dropPart :
    (store.dropPart xid).usage purpose =
      store.usage purpose - store.parts.weightAt (Part.counts purpose) xid := by
  rw [usage, usage, dropPart, Table.total_erase]
  dsimp only
  omega

theorem partWeight_nonneg : 0 ≤ store.parts.weightAt (Part.counts purpose) xid := by
  rw [Table.weightAt]
  split
  · exact Int.le_refl 0
  · exact partCounts_nonneg purpose _

end Store

def SameFiles (before after : Store) : Prop :=
  after.inbox = before.inbox ∧ after.inFiles = before.inFiles

structure Lighter (before after : Store) : Prop where
  files : SameFiles before after
  usage : ∀ purpose, after.usage purpose ≤ before.usage purpose

theorem lighter_setPhase (phase : Option Phase) : Lighter store (store.setPhase xid phase) :=
  ⟨⟨rfl, rfl⟩, fun _ => Int.le_refl _⟩

theorem lighter_dropPart : Lighter store (store.dropPart xid) where
  files := ⟨rfl, rfl⟩
  usage purpose := by
    rw [Store.usage_dropPart]
    have dropped := store.partWeight_nonneg xid purpose
    omega

theorem lighter_savePart {store : Store} {part old : Part}
    (found : store.parts.get? part.xid = some old)
    (counts : ∀ purpose, part.counts purpose = old.counts purpose) :
    Lighter store (store.savePart part) where
  files := ⟨rfl, rfl⟩
  usage purpose := by
    rw [Store.usage_savePart, Table.weightAt_some _ _ _ _ found, counts]
    omega

theorem get?_self {Row : Type} {key : Row → Xid} {table : Table key} {xid : Xid} {row : Row}
    (here : table.get? xid = some row) : table.get? (key row) = some row := by
  rw [table.get?_key xid row here]
  exact here

section Commits

variable {host : Host} {store : Store}

structure Tends (host : Host) (store : Store) (result : Answer × Store) : Prop
    extends Serves host result where
  lighter : Lighter store result.2

theorem tends_quiet {answer : Answer} {after : Store} (ready : Ready host after)
    (lighter : Lighter store after) (quiet : answer.missing = none) :
    Tends host store (answer, after) :=
  ⟨serves_quiet ready quiet, lighter⟩

theorem tends_still {answer : Answer} (ready : Ready host store) (quiet : answer.missing = none) :
    Tends host store (answer, store) :=
  tends_quiet ready ⟨⟨rfl, rfl⟩, fun _ => Int.le_refl _⟩ quiet

section

variable (ready : Ready host store) (xid : Xid)
include ready

theorem putChunk_tends (i : Int) (data : Option Bytes) (digest : Xid) (now : Time)
    (stopped : Option Nat) :
    Tends host store (store.putChunk host xid i data digest now stopped) := by
  rw [Store.putChunk]
  split
  · exact tends_still ready rfl
  · split
    · split
      · exact tends_still ready rfl
      · exact tends_still ready rfl
    next part here =>
      have kept := ready.kept part (store.parts.get?_mem xid part here)
      replace here := get?_self here
      have reached (phase : Phase) (going : store.committing part.xid = some phase) :
          Reached host part.xid (some part) phase := by
        rw [← here]
        exact ready.committing part.xid phase going
      split
      · exact tends_still ready rfl
      next inside =>
        have within : i.toNat < part.marks.length := by omega
        split
        · exact tends_still ready rfl
        next payload =>
          dsimp only
          split
          · exact tends_still ready rfl
          next fits =>
            have whole : payload.length =
                min part.chunkSize (part.size - i.toNat * part.chunkSize) := by
              by_contra short
              exact fits (Or.inr short)
            -- A chunk that is not marked yet belongs to no commit.
            have open_ (undone : part.isDone i.toNat = false) (other : Part) (phase : Phase)
                (going : store.committing part.xid = some phase) :
                Reached host part.xid (some other) phase := by
              rw [filed_of_not_whole (reached phase going) (not_whole within undone)]
              trivial
            split
            next count =>
              split
              · exact tends_still ready rfl
              next undone =>
                have saved := ready_savePart ready (kept.partly i.toNat (payload.take count))
                  (open_ (Bool.eq_false_iff.mpr undone) _)
                exact tends_quiet saved (lighter_savePart here fun _ => rfl) rfl
            next =>
              cases done : part.isDone i.toNat with
              | true =>
                have saved := ready_savePart ready (kept.touched now)
                  fun phase going => reached_touched now (reached phase going)
                exact tends_quiet saved (lighter_savePart here fun _ => rfl) rfl
              | false =>
                have saved := ready_savePart ready ((kept.done whole).touched now)
                  (open_ done _)
                exact tends_quiet saved (lighter_savePart here fun _ => rfl) rfl

theorem abort_tends : Tends host store (store.abort xid) := by
  rw [Store.abort]
  split
  · exact tends_still ready rfl
  · split
    · exact tends_still ready rfl
    next idle =>
      have dropped : Ready host (store.dropPart xid) := by
        apply ready_dropPart ready
        intro phase going
        rw [going] at idle
        cases idle rfl
      exact tends_quiet dropped (lighter_dropPart store xid) rfl

theorem commitStart_tends : Tends host store (store.commitStart xid) := by
  rw [Store.commitStart]
  split
  · exact tends_still ready rfl
  · split
    · split
      · exact tends_still ready rfl
      · exact tends_still ready rfl
    next part here =>
      split
      · exact tends_still ready rfl
      · split
        next nothing =>
          have started : Ready host (store.setPhase xid (some .started)) := by
            apply ready_setPhase ready
            intro phase same
            cases Option.some.inj same
            exact ⟨part, here, whole_of_missing nothing⟩
          exact tends_quiet started (lighter_setPhase store xid _) rfl
        next =>
          refine ⟨⟨ready, ?_⟩, ⟨rfl, rfl⟩, fun _ => Int.le_refl _⟩
          intro told ranges same
          cases same
          exact ⟨part, here, missing_gaps part.marks⟩

theorem commitHash_tends : Tends host store (.nothing, store.commitHash host xid) := by
  rw [Store.commitHash]
  split
  next started =>
    obtain ⟨part, here, whole⟩ := ready.committing xid .started started
    refine tends_quiet (ready_setPhase ready xid _ ?_) (lighter_setPhase store xid _) rfl
    intro phase hashed
    cases Option.some.inj hashed
    refine ⟨part, here, whole, ?_⟩
    intro intact
    rw [here] at intact
    exact of_decide_eq_true intact
  next => exact tends_still ready rfl

theorem commitRelease_tends : Tends host store (.nothing, store.commitRelease xid) := by
  rw [Store.commitRelease]
  split
  next =>
    refine tends_quiet (ready_setPhase ready xid _ ?_) (lighter_setPhase store xid _) rfl
    intro phase none
    cases none
  next => exact tends_still ready rfl

end

theorem reset_gaps {part : Part} (kept : part.Kept) (now : Time) :
    Gaps [(0, part.marks.length - 1)] (part.reset now).marks := by
  have some_ : 0 < nChunks part.size part.chunkSize := by
    rw [nChunks, Nat.div_pos_iff]
    have sized := kept.sized
    have positive := kept.positive
    omega
  constructor
  · intro range member
    rw [List.mem_singleton.mp member]
    exact Nat.zero_le _
  · exact List.pairwise_singleton _ _
  · intro chunk
    change _ ↔ (List.replicate (nChunks part.size part.chunkSize) false)[chunk]? = some false
    rw [List.getElem?_replicate, part.marked]
    constructor
    · rintro ⟨range, member, -, last⟩
      rw [List.mem_singleton.mp member] at last
      rw [if_pos (by omega)]
    · intro inside
      refine ⟨_, List.mem_singleton_self _, Nat.zero_le _, ?_⟩
      split at inside
      · omega
      · cases inside

theorem commitFinish_serves (ready : Ready host store) (xid : Xid) (now : Time) :
    Serves host (store.commitFinish host xid now) := by
  rw [Store.commitFinish]
  split
  next intact hashed =>
    have finished : Ready host (store.setPhase xid (some .filed)) := by
      apply ready_setPhase ready
      intro phase filed
      cases Option.some.inj filed
      trivial
    have isFiled (phase : Phase)
        (going : (store.setPhase xid (some .filed)).committing xid = some phase) :
        phase = .filed := by
      change (if xid = xid then _ else _) = some phase at going
      rw [if_pos rfl] at going
      exact (Option.some.inj going).symm
    split
    · exact serves_quiet finished rfl
    next part here =>
      have kept := ready.kept part (store.parts.get?_mem xid part here)
      have key := store.parts.get?_key xid part here
      split
      · have filed : Ready host ((store.setPhase xid (some .filed)).fileAway host xid part.size
            part.info part.claims.rows part.bytes now) := ready_same finished rfl rfl
        exact serves_quiet (ready_dropPart filed xid isFiled) rfl
      · constructor
        · apply ready_savePart finished (kept.reset now)
          intro phase going
          change (store.setPhase xid (some .filed)).committing part.xid = some phase at going
          rw [key] at going
          rw [isFiled phase going]
          trivial
        · intro told ranges same
          cases same
          refine ⟨part.reset now, ?_, reset_gaps kept now⟩
          rw [← key]
          exact Table.get?_set_self _ (part.reset now)
  next => exact serves_quiet ready rfl

end Commits

section Others

variable {host : Host} {store : Store}

theorem putFile_serves (ready : Ready host store) (data : Bytes) (name mime : String)
    (purpose : PurposeName) (info : Meta) (freeBefore : Int) (setting : Setting) :
    Serves host (store.putFile host data name mime purpose info freeBefore setting) := by
  rw [Store.putFile]
  split
  · exact serves_quiet ready rfl
  · split
    · exact serves_quiet ready rfl
    · split
      · exact serves_quiet ready rfl
      · split
        · exact serves_quiet ready rfl
        · have swept := ready_gcUser ready setting.now setting.old
          rw [Store.putSwept]
          split
          · split
            · exact serves_quiet swept rfl
            next done => exact serves_quiet (ready_claim swept done) rfl
          · split
            · exact serves_quiet swept rfl
            · exact serves_quiet (ready_same swept rfl rfl) rfl

theorem delete_serves (ready : Ready host store) (xid : Xid) (purpose : Option PurposeName) :
    Serves host (store.delete host xid purpose) := by
  rw [Store.delete]
  split
  · exact serves_quiet ready rfl
  · split
    · exact serves_quiet ready rfl
    · split
      · exact serves_quiet ready rfl
      · split
        · exact serves_quiet (ready_same ready rfl rfl) rfl
        · split
          · exact serves_quiet ready rfl
          · split
            · exact serves_quiet (ready_same ready rfl rfl) rfl
            · exact serves_quiet (ready_same ready rfl rfl) rfl

theorem ready_bindOne (ready : Ready host store) (xid : Xid) (turn : Turn)
    (purpose : Option PurposeName) : Ready host (store.bindOne host xid turn purpose).2 := by
  rw [Store.bindOne]
  split
  · exact ready
  · split
    · exact ready
    · split
      · exact ready
      · exact ready_same ready rfl rfl

theorem ready_bindAll (turn : Turn) (purpose : Option PurposeName) (xids : List Xid)
    (ready : Ready host store) : Ready host (Store.bindAll host turn purpose xids store).2 := by
  induction xids generalizing store with
  | nil => exact ready
  | cons xid rest ih => exact ih (ready_bindOne ready xid turn purpose)

theorem bind_serves (ready : Ready host store) (xids : List Xid) (turn : Turn)
    (purpose : Option PurposeName) : Serves host (store.bind host xids turn purpose) := by
  rw [Store.bind]
  split
  · exact serves_quiet ready rfl
  · exact serves_quiet (ready_bindAll turn purpose _ ready) rfl

theorem ready_markConsumed (now : Time) (xids : List Xid) (ready : Ready host store) :
    Ready host (store.markConsumed xids now) := by
  induction xids generalizing store with
  | nil => exact ready
  | cons xid rest ih =>
    apply ih
    rw [Store.consumeOne]
    split
    · exact ready
    · exact ready_same ready rfl rfl

theorem serve_serves (event : Event) (ready : Ready host store) :
    Serves host (serve host store event) := by
  cases event with
  | offer call setting => exact (offer_serves ready call setting).1
  | putChunk xid i data digest now stopped =>
    exact (putChunk_tends ready xid i data digest now stopped).toServes
  | commitStart xid => exact (commitStart_tends ready xid).toServes
  | commitHash xid => exact (commitHash_tends ready xid).toServes
  | commitFinish xid now => exact commitFinish_serves ready xid now
  | commitRelease xid => exact (commitRelease_tends ready xid).toServes
  | abort xid => exact (abort_tends ready xid).toServes
  | putFile data name mime purpose info freeBefore setting =>
    exact putFile_serves ready data name mime purpose info freeBefore setting
  | delete xid purpose => exact delete_serves ready xid purpose
  | bind xids turn purpose => exact bind_serves ready xids turn purpose
  | markConsumed xids now => exact serves_quiet (ready_markConsumed now xids ready) rfl
  | gc now old => exact serves_quiet (ready_gcUser ready now old) rfl

end Others

structure Filled (store : Store) : Prop where
  recorded : ∀ xid part, store.parts.get? xid = some part →
    ∀ chunk, part.marks[chunk]? = some true →
    ∀ byte, InChunk part.chunkSize part.size chunk byte → part.Written byte
  hashed : ∀ xid, store.committing xid = some .started →
    ∃ part, store.parts.get? xid = some part ∧ ∀ byte < part.size, part.Written byte

def Reports (host : Host) (store : Store) (event : Event) : Prop :=
  Tells (serve host store event).1 (step host store event) ∧
    ∀ call setting, event = .offer call setting →
      Agrees (store.gcUser host setting.now setting.old).parts.get? (serve host store event).1
        (step host store event)

theorem whole_written (kept : part.Kept) (whole : part.Whole) {byte : Nat}
    (inside : byte < part.size) : part.Written byte := by
  apply kept.written
  have few : byte / part.chunkSize < part.marks.length := by
    rw [part.marked, nChunks, Nat.lt_div_iff_mul_lt kept.positive]
    have start := Nat.div_mul_le_self byte part.chunkSize
    have positive := kept.positive
    omega
  refine ⟨byte / part.chunkSize, ?_, ?_, ?_⟩
  · rw [List.getElem?_eq_getElem few, whole _ (List.getElem_mem few)]
  · exact Nat.div_mul_le_self byte part.chunkSize
  · apply lt_min
    · rw [Nat.mul_comm]
      exact Nat.lt_mul_div_succ byte kept.positive
    · exact inside

theorem ready_filled {host : Host} {store : Store} (ready : Ready host store) : Filled store where
  recorded xid part here chunk marked byte inside :=
    (ready.kept part (store.parts.get?_mem xid part here)).written byte ⟨chunk, marked, inside⟩
  hashed xid started := by
    obtain ⟨part, here, whole⟩ := ready.committing xid .started started
    have kept := ready.kept part (store.parts.get?_mem xid part here)
    exact ⟨part, here, fun byte inside => whole_written kept whole inside⟩

/-- In every run a chunk is marked only when all its bytes are written, an upload that goes on in
other chunks neither rounds up nor loses what falls into whole chunks, the ranges that are told to
be missing are the ones that are, and a commit hashes a file of which every byte was written. -/
theorem chunks_kept (host : Host) (run : List Event) :
    Always (step host) Filled Store.empty run ∧
      Along (step host) (Reports host) Store.empty run := by
  have kept (store : Store) (event : Event) (ready : Ready host store) :
      Ready host (step host store event) := (serve_serves event ready).ready
  have allowed := along_of_forall (step host) (fun _ => True) run (fun _ _ => trivial) Store.empty
  constructor
  · exact always_of_invariant (step host) (Ready host) Filled (fun _ _ => True)
      (fun store event ready _ => kept store event ready) (fun store => ready_filled) run
      Store.empty ready_empty allowed
  · apply along_of_invariant (step host) (Ready host) (fun _ _ => True) (Reports host)
      (fun store event ready _ => kept store event ready) _ run Store.empty ready_empty allowed
    intro store event ready _
    refine ⟨(serve_serves event ready).tells, ?_⟩
    rintro call setting rfl
    exact (offer_serves ready call setting).2

end Hartos.UserFiles
