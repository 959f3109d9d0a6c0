import Mathlib.Data.List.Basic
import Mathlib.Logic.Function.Basic

/-!
The text that `json.dumps` makes of strings, numbers and arrays, with every character
outside ASCII escaped. Each piece of it can be told from what follows, so a text has one
reading.
-/
namespace JsonText

universe u
variable {Value : Type u}

def Marked (code : Value → List Char) : Prop :=
  ∀ first second rest other, code first ++ rest = code second ++ other →
    first = second ∧ rest = other

def hex4 (value : Nat) : List Char :=
  [Nat.digitChar (value / 4096 % 16), Nat.digitChar (value / 256 % 16),
    Nat.digitChar (value / 16 % 16), Nat.digitChar (value % 16)]

def shortEscape : Char → Option Char
  | '"' => some '"'
  | '\\' => some '\\'
  | '\n' => some 'n'
  | '\r' => some 'r'
  | '\t' => some 't'
  | '\x0c' => some 'f'
  | '\x08' => some 'b'
  | _ => none

def escape (letter : Char) : List Char :=
  match shortEscape letter with
  | some short => ['\\', short]
  | none =>
      if 32 ≤ letter.toNat ∧ letter.toNat ≤ 126 then [letter]
      else if letter.toNat < 65536 then '\\' :: 'u' :: hex4 letter.toNat
      else
        '\\' :: 'u' :: (hex4 (55296 + (letter.toNat - 65536) / 1024) ++
          '\\' :: 'u' :: hex4 (56320 + (letter.toNat - 65536) % 1024))

def quoted (text : String) : List Char := '"' :: (text.toList.flatMap escape ++ ['"'])

def digitValue (digit : Char) : Nat :=
  if digit.isDigit then digit.toNat - 48 else digit.toNat - 87

def hexValue (a b c d : Char) : Nat :=
  4096 * digitValue a + 256 * digitValue b + 16 * digitValue c + digitValue d

def shortMeaning : Char → Option Char
  | '"' => some '"'
  | '\\' => some '\\'
  | 'n' => some '\n'
  | 'r' => some '\r'
  | 't' => some '\t'
  | 'f' => some '\x0c'
  | 'b' => some '\x08'
  | _ => none

def secondHalf (high : Nat) : List Char → Option (Char × List Char)
  | '\\' :: 'u' :: a :: b :: c :: d :: rest =>
      some (Char.ofNat (65536 + (high - 55296) * 1024 + (hexValue a b c d - 56320)), rest)
  | _ => none

def unescape : List Char → Option (Char × List Char)
  | '\\' :: 'u' :: a :: b :: c :: d :: rest =>
      if 55296 ≤ hexValue a b c d ∧ hexValue a b c d < 56320 then
        secondHalf (hexValue a b c d) rest
      else some (Char.ofNat (hexValue a b c d), rest)
  | '\\' :: short :: rest => (shortMeaning short).map fun letter => (letter, rest)
  | letter :: rest => some (letter, rest)
  | [] => none

variable {value : Nat} {letter : Char}

theorem digitValue_digitChar (small : value < 16) : digitValue (Nat.digitChar value) = value := by
  have all : ∀ value < 16, digitValue (Nat.digitChar value) = value := by decide
  exact all value small

theorem hexValue_hex4 (small : value < 65536) :
    hexValue (Nat.digitChar (value / 4096 % 16)) (Nat.digitChar (value / 256 % 16))
      (Nat.digitChar (value / 16 % 16)) (Nat.digitChar (value % 16)) = value := by
  have digit (number : Nat) : digitValue (Nat.digitChar (number % 16)) = number % 16 :=
    digitValue_digitChar (Nat.mod_lt number (by decide))
  rw [hexValue, digit, digit, digit, digit]
  omega

theorem unescape_hex4 (small : value < 65536) (plain : ¬ (55296 ≤ value ∧ value < 56320))
    (rest : List Char) :
    unescape ('\\' :: 'u' :: (hex4 value ++ rest)) = some (Char.ofNat value, rest) := by
  show unescape ('\\' :: 'u' :: _ :: _ :: _ :: _ :: rest) = _
  rw [unescape, hexValue_hex4 small, if_neg plain]

theorem unescape_halves {high low : Nat} (highRange : 55296 ≤ high ∧ high < 56320)
    (lowRange : low < 65536) (rest : List Char) :
    unescape ('\\' :: 'u' :: (hex4 high ++ '\\' :: 'u' :: (hex4 low ++ rest))) =
      some (Char.ofNat (65536 + (high - 55296) * 1024 + (low - 56320)), rest) := by
  show unescape ('\\' :: 'u' :: _ :: _ :: _ :: _ :: '\\' :: 'u' :: _ :: _ :: _ :: _ :: rest) = _
  rw [unescape, hexValue_hex4 (by omega), if_pos highRange, secondHalf, hexValue_hex4 lowRange]

theorem unescape_short {letter sign : Char} (short : shortEscape letter = some sign)
    (rest : List Char) : unescape ('\\' :: sign :: rest) = some (letter, rest) := by
  rw [shortEscape.eq_def] at short
  split at short
  case h_8 => cases short
  all_goals
    cases short
    rfl

theorem unescape_plain (plain : letter ≠ '\\') (rest : List Char) :
    unescape (letter :: rest) = some (letter, rest) := by
  rw [unescape]
  · intro a b c d rest same
    exact absurd same plain
  · intro short rest same
    exact absurd same plain

theorem unescape_escape (letter : Char) (rest : List Char) :
    unescape (escape letter ++ rest) = some (letter, rest) := by
  rw [escape]
  cases short : shortEscape letter with
  | some sign => exact unescape_short short rest
  | none =>
    dsimp only
    split
    · apply unescape_plain
      rintro rfl
      cases short
    · have valid : letter.toNat < 55296 ∨ (57343 < letter.toNat ∧ letter.toNat < 1114112) :=
        letter.valid
      split
      case isTrue small =>
        rw [List.cons_append, List.cons_append, unescape_hex4 small (by omega),
          Char.ofNat_toNat]
      case isFalse large =>
        have whole : 65536 + (55296 + (letter.toNat - 65536) / 1024 - 55296) * 1024 +
            (56320 + (letter.toNat - 65536) % 1024 - 56320) = letter.toNat := by
          omega
        have halves := @unescape_halves (55296 + (letter.toNat - 65536) / 1024)
          (56320 + (letter.toNat - 65536) % 1024) (by omega) (by omega) rest
        rw [whole, Char.ofNat_toNat] at halves
        exact halves

theorem escape_marked : Marked escape := by
  intro first second rest other same
  have both := congrArg unescape same
  rw [unescape_escape, unescape_escape] at both
  exact Prod.ext_iff.mp (Option.some.inj both)

/-- No escape begins with the quotation mark that ends a string. -/
theorem escape_head (letter : Char) (rest other : List Char) :
    escape letter ++ rest ≠ '"' :: other := by
  intro same
  have read := unescape_escape letter rest
  rw [same, unescape_plain (by decide)] at read
  obtain ⟨quote, _⟩ := Prod.ext_iff.mp (Option.some.inj read)
  cases (show '"' = letter from quote)
  cases same

theorem escapes_marked (first second : List Char) (rest other : List Char)
    (same : first.flatMap escape ++ '"' :: rest = second.flatMap escape ++ '"' :: other) :
    first = second ∧ rest = other := by
  induction first generalizing second with
  | nil =>
    cases second with
    | nil => exact ⟨rfl, (List.cons.inj same).2⟩
    | cons letter letters =>
      rw [List.flatMap_cons, List.append_assoc] at same
      exact absurd same.symm (escape_head letter _ rest)
  | cons letter letters ih =>
    rw [List.flatMap_cons, List.append_assoc] at same
    cases second with
    | nil => exact absurd same (escape_head letter _ other)
    | cons letter' letters' =>
      rw [List.flatMap_cons, List.append_assoc] at same
      obtain ⟨heads, tails⟩ := escape_marked letter letter' _ _ same
      obtain ⟨lettersSame, rests⟩ := ih letters' tails
      exact ⟨by rw [heads, lettersSame], rests⟩

theorem quoted_marked : Marked quoted := by
  intro first second rest other same
  rw [quoted, quoted, List.cons_append, List.cons_append, List.append_assoc,
    List.append_assoc] at same
  obtain ⟨letters, rests⟩ := escapes_marked _ _ rest other (List.cons.inj same).2
  exact ⟨String.toList_inj.mp letters, rests⟩

def intText : Int → List Char
  | .ofNat value => Nat.toDigits 10 value
  | .negSucc value => '-' :: Nat.toDigits 10 (value + 1)

theorem toDigits_injective {first second : Nat}
    (same : Nat.toDigits 10 first = Nat.toDigits 10 second) : first = second := by
  have read := congrArg (fun digits => Nat.ofDigitChars 10 digits 0) same
  rwa [Nat.ofDigitChars_ten_toDigits, Nat.ofDigitChars_ten_toDigits] at read

theorem digit_of_toDigits (member : letter ∈ Nat.toDigits 10 value) : letter.isDigit = true :=
  Nat.isDigit_of_mem_toDigits (by decide) (by decide) member

theorem intText_injective : Function.Injective intText := by
  intro first second same
  cases first with
  | ofNat value =>
    cases second with
    | ofNat value' => exact congrArg Int.ofNat (toDigits_injective same)
    | negSucc value' =>
      have digit := @digit_of_toDigits value '-'
        ((show Nat.toDigits 10 value = _ from same) ▸ List.mem_cons_self)
      cases digit
  | negSucc value =>
    cases second with
    | ofNat value' =>
      have digit := @digit_of_toDigits value' '-'
        ((show _ = Nat.toDigits 10 value' from same) ▸ List.mem_cons_self)
      cases digit
    | negSucc value' =>
      have digits := toDigits_injective (List.cons.inj same).2
      exact congrArg Int.negSucc (Nat.succ.inj digits)

/-- Texts that a sign cannot occur in end where it stands. -/
theorem append_sign (sign : Char) (first second rest other : List Char)
    (firstFree : sign ∉ first) (secondFree : sign ∉ second)
    (same : first ++ sign :: rest = second ++ sign :: other) : first = second ∧ rest = other := by
  induction first generalizing second with
  | nil =>
    cases second with
    | nil => exact ⟨rfl, (List.cons.inj same).2⟩
    | cons letter letters =>
      exact absurd ((List.cons.inj same).1 ▸ List.mem_cons_self) secondFree
  | cons letter letters ih =>
    cases second with
    | nil => exact absurd ((List.cons.inj same).1 ▸ List.mem_cons_self) firstFree
    | cons letter' letters' =>
      obtain ⟨heads, tails⟩ := List.cons.inj same
      obtain ⟨lettersSame, rests⟩ := ih letters'
        (fun member => firstFree (List.mem_cons_of_mem _ member))
        (fun member => secondFree (List.mem_cons_of_mem _ member)) tails
      exact ⟨by rw [heads, lettersSame], rests⟩

theorem comma_not_mem_intText (value : Int) : ',' ∉ intText value := by
  intro member
  cases value with
  | ofNat value => cases digit_of_toDigits member
  | negSucc value =>
    rcases List.mem_cons.mp member with dash | digit
    · cases dash
    · cases digit_of_toDigits digit

def arrayTail (code : Value → List Char) : List Value → List Char
  | [] => [']']
  | value :: rest => ',' :: ' ' :: (code value ++ arrayTail code rest)

def array (code : Value → List Char) : List Value → List Char
  | [] => ['[', ']']
  | value :: rest => '[' :: (code value ++ arrayTail code rest)

theorem arrayTail_marked {code : Value → List Char} (marked : Marked code) :
    Marked (arrayTail code) := by
  intro first
  induction first with
  | nil =>
    intro second rest other same
    cases second with
    | nil => exact ⟨rfl, (List.cons.inj same).2⟩
    | cons => cases (List.cons.inj same).1
  | cons value values ih =>
    intro second rest other same
    cases second with
    | nil => cases (List.cons.inj same).1
    | cons value' values' =>
      have inner : (code value ++ arrayTail code values) ++ rest =
          (code value' ++ arrayTail code values') ++ other :=
        (List.cons.inj (List.cons.inj same).2).2
      rw [List.append_assoc, List.append_assoc] at inner
      obtain ⟨heads, tails⟩ := marked value value' _ _ inner
      obtain ⟨valuesSame, rests⟩ := ih values' rest other tails
      exact ⟨by rw [heads, valuesSame], rests⟩

theorem array_marked {code : Value → List Char} (marked : Marked code)
    (opens : ∀ value rest other, code value ++ rest ≠ ']' :: other) : Marked (array code) := by
  intro first second rest other same
  cases first with
  | nil =>
    cases second with
    | nil => exact ⟨rfl, (List.cons.inj (List.cons.inj same).2).2⟩
    | cons value values =>
      have inner : ']' :: rest = (code value ++ arrayTail code values) ++ other :=
        (List.cons.inj same).2
      rw [List.append_assoc] at inner
      exact absurd inner.symm (opens value _ rest)
  | cons value values =>
    cases second with
    | nil =>
      have inner : (code value ++ arrayTail code values) ++ rest = ']' :: other :=
        (List.cons.inj same).2
      rw [List.append_assoc] at inner
      exact absurd inner (opens value _ other)
    | cons value' values' =>
      have inner : (code value ++ arrayTail code values) ++ rest =
          (code value' ++ arrayTail code values') ++ other := (List.cons.inj same).2
      rw [List.append_assoc, List.append_assoc] at inner
      obtain ⟨heads, tails⟩ := marked value value' _ _ inner
      obtain ⟨valuesSame, rests⟩ := arrayTail_marked marked values values' rest other tails
      exact ⟨by rw [heads, valuesSame], rests⟩

end JsonText
