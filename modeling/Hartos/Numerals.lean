import Hartos.PaymentLedger

/-!
Values as they come out of JSON or from a caller, with what `int()` and truth make of
them. `decimal` gives the values of the decimal digits.
-/
namespace Hartos

inductive Datum where
  | null
  | flag (value : Bool)
  | whole (value : Int)
  | real (value : Rat)
  | infinite (negative : Bool)
  | notANumber
  | text (value : String)
  | list (items : List Datum)
  | dict (fields : List (String × Datum))

inductive Raised where
  | typeError | valueError | overflowError | attributeError | keyError
  deriving DecidableEq

def asciiDigit (letter : Char) : Option Nat :=
  if letter.isDigit then some (letter.toNat - '0'.toNat) else none

/-- Digits with single underscores between them; `closed` tells that a digit came last. -/
def digitsValue (decimal : Char → Option Nat) (total : Nat) (closed : Bool) :
    List Char → Option Nat
  | [] => if closed then some total else none
  | letter :: rest =>
      if letter = '_' then if closed then digitsValue decimal total false rest else none
      else (decimal letter).bind fun digit => digitsValue decimal (10 * total + digit) true rest

def maxDigits : Nat := 4300

def naturalOf (decimal : Char → Option Nat) (letters : List Char) : Option Nat :=
  if letters.countP (fun letter => (decimal letter).isSome) > maxDigits then none
  else digitsValue decimal 0 false letters

def intOfText (decimal : Char → Option Nat) (text : String) : Option Int :=
  match (Ap2.strip text).toList with
  | '-' :: digits => (naturalOf decimal digits).map fun (value : Nat) => -(value : Int)
  | '+' :: digits => (naturalOf decimal digits).map fun (value : Nat) => (value : Int)
  | digits => (naturalOf decimal digits).map fun (value : Nat) => (value : Int)

def truncate (value : Rat) : Int := value.num.tdiv value.den

namespace Datum

def truthy : Datum → Bool
  | .null => false
  | .flag value => value
  | .whole value => decide (value ≠ 0)
  | .real value => decide (value ≠ 0)
  | .infinite _ => true
  | .notANumber => true
  | .text value => decide (value ≠ "")
  | .list items => !items.isEmpty
  | .dict fields => !fields.isEmpty

def isInfinite : Datum → Bool
  | .infinite _ => true
  | _ => false

def int (decimal : Char → Option Nat) : Datum → Except Raised Int
  | .flag value => .ok (if value then 1 else 0)
  | .whole value => .ok value
  | .real value => .ok (truncate value)
  | .infinite _ => .error .overflowError
  | .notANumber => .error .valueError
  | .text value =>
      match intOfText decimal value with
      | some value => .ok value
      | none => .error .valueError
  | .null | .list _ | .dict _ => .error .typeError

def fields : Datum → List (String × Datum)
  | .dict fields => fields
  | _ => []

def field (value : Datum) (name : String) : Datum := (value.fields.lookup name).getD .null

end Datum

def ReadsDigits (decimal : Char → Option Nat) : Prop :=
  ∀ letter : Char, letter.isDigit = true → decimal letter = some (letter.toNat - '0'.toNat)

def Writable (value : Int) : Prop := (Nat.toDigits 10 value.natAbs).length ≤ maxDigits

instance (value : Int) : Decidable (Writable value) := inferInstanceAs (Decidable (_ ≤ _))

section Written
variable {decimal : Char → Option Nat}

theorem asciiDigit_reads : ReadsDigits asciiDigit := fun letter digit => by
  rw [asciiDigit, if_pos digit]

theorem digitsValue_digits (reads : ReadsDigits decimal) {letters : List Char}
    (digits : ∀ letter ∈ letters, letter.isDigit = true) (total : Nat) (closed : Bool)
    (some : closed = true ∨ letters ≠ []) :
    digitsValue decimal total closed letters = .some (Nat.ofDigitChars 10 letters total) := by
  induction letters generalizing total closed with
  | nil =>
    rw [digitsValue, if_pos (some.resolve_right fun empty => empty rfl)]
    rfl
  | cons letter rest ih =>
    obtain ⟨digit, others⟩ := List.forall_mem_cons.mp digits
    have plain : letter ≠ '_' := by
      rintro rfl
      cases digit
    rw [digitsValue, if_neg plain, reads letter digit, Option.bind_some, Nat.ofDigitChars_cons]
    exact ih others _ true (Or.inl rfl)

theorem naturalOf_digits (reads : ReadsDigits decimal) (value : Nat)
    (short : (Nat.toDigits 10 value).length ≤ maxDigits) :
    naturalOf decimal (Nat.toDigits 10 value) = some value := by
  have digits : ∀ letter ∈ Nat.toDigits 10 value, letter.isDigit = true :=
    fun letter member => Nat.isDigit_of_mem_toDigits (by decide) (by decide) member
  have few : (Nat.toDigits 10 value).countP (fun letter => (decimal letter).isSome) ≤ maxDigits :=
    Nat.le_trans List.countP_le_length short
  rw [naturalOf, if_neg (Nat.not_lt.mpr few),
    digitsValue_digits reads digits 0 false (Or.inr Nat.toDigits_ne_nil),
    Nat.ofDigitChars_ten_toDigits]

theorem strip_plain {text : String} (plain : ∀ letter ∈ text.toList, isSpace letter = false) :
    Ap2.strip text = text := by
  have kept (letters : List Char) (none : ∀ letter ∈ letters, isSpace letter = false) :
      letters.dropWhile isSpace = letters := by
    cases letters with
    | nil => rfl
    | cons letter rest =>
      rw [List.dropWhile_cons_of_neg]
      rw [none letter List.mem_cons_self]
      exact Bool.false_ne_true
  have turned : ∀ letter ∈ text.toList.reverse, isSpace letter = false :=
    fun letter member => plain letter (List.mem_reverse.mp member)
  rw [Ap2.strip, kept _ plain, kept _ turned, List.reverse_reverse, String.ofList_toList]

theorem plain_of_digit {letter : Char} (digit : letter.isDigit = true) :
    isSpace letter = false := by
  apply decide_eq_false
  intro space
  simp only [Char.isDigit, Bool.and_eq_true, decide_eq_true_eq, UInt32.le_iff_toNat_le] at digit
  have low : 48 ≤ letter.toNat := digit.1
  have high : letter.toNat ≤ 57 := digit.2
  revert space
  simp
  omega

theorem plain_of_digits (value : Nat) :
    ∀ letter ∈ Nat.toDigits 10 value, isSpace letter = false :=
  fun _ member => plain_of_digit (Nat.isDigit_of_mem_toDigits (by decide) (by decide) member)

theorem intOfText_toString (reads : ReadsDigits decimal) (value : Int)
    (writable : Writable value) : intOfText decimal (toString value) = some value := by
  cases value with
  | ofNat value =>
    have spelled : (toString (Int.ofNat value)).toList = Nat.toDigits 10 value := Nat.toList_repr
    have plain := plain_of_digits value
    rw [← spelled] at plain
    rw [intOfText, strip_plain plain, spelled]
    split
    next digits same =>
      have digit := Nat.isDigit_of_mem_toDigits (b := 10) (n := value) (by decide) (by decide)
        (same ▸ List.mem_cons_self)
      cases digit
    next digits same =>
      have digit := Nat.isDigit_of_mem_toDigits (b := 10) (n := value) (by decide) (by decide)
        (same ▸ List.mem_cons_self)
      cases digit
    next => rw [naturalOf_digits reads value writable]; rfl
  | negSucc value =>
    have spelled : (toString (Int.negSucc value)).toList =
        '-' :: Nat.toDigits 10 (value + 1) := by
      rw [← Nat.toList_repr]
      exact String.toList_append
    have plain : ∀ letter ∈ (toString (Int.negSucc value)).toList,
        isSpace letter = false := by
      rw [spelled]
      exact List.forall_mem_cons.mpr ⟨by decide, plain_of_digits (value + 1)⟩
    rw [intOfText, strip_plain plain, spelled]
    change (naturalOf decimal (Nat.toDigits 10 (value + 1))).map _ = _
    rw [naturalOf_digits reads (value + 1) writable]
    rfl

end Written

end Hartos
