import Hartos.JsonText
import Hartos.MandateRecords
import Hartos.Numerals
import Mathlib.Data.List.Sort
import Mathlib.Data.Prod.Lex
import Mathlib.Data.String.Basic

/-!
The hash of a cart, and the check of a live cart against the one a person approved. A cart
is a dict as it comes from a caller; `str`, `repr`, the case of letters and how a decimal
number is read off a text are Python's own and come from outside, as does the digest.
-/
namespace Hartos.Ap2

inductive Decimal where
  | finite (negative : Bool) (coefficient : Nat) (exponent : Int)
  | infinite (negative : Bool)
  | nan (negative : Bool) (payload : String)
  | signalling
  deriving DecidableEq

inductive Price where
  | cents (negative : Bool) (amount : Nat)
  | nan (negative : Bool) (payload : String)
  deriving DecidableEq

/-- Why a cart has no hash: `MandateError`s, and what escapes them. -/
inductive CartFault where
  | malformedLine (error : Raised)
  | linePrice (value : Datum)
  | notPrice (value : Datum)
  | raised (error : Raised)

structure CartHost where
  str : Datum → String
  -- The text of the error that a cart is refused with.
  describe : CartFault → String
  decimal : String → Option Decimal
  digit : Char → Option Nat
  upper : String → String
  sha256 : String → String

def roundedCents (coefficient : Nat) (exponent : Int) : Nat :=
  if -2 ≤ exponent then coefficient * 10 ^ (exponent + 2).toNat
  else
    let unit := 10 ^ (-(exponent + 2)).toNat
    let cents := coefficient / unit
    let rest := coefficient % unit
    if 2 * rest < unit then cents
    else if 2 * rest > unit then cents + 1
    else if cents % 2 = 0 then cents else cents + 1

/-- The last 28 digits of the payload of a NaN, without zeros before them. -/
def fixNan (payload : String) : String :=
  if payload.length ≤ 28 then payload
  else String.ofList ((payload.toList.drop (payload.length - 28)).dropWhile (· = '0'))

/-- `quantize(Decimal('0.01'))`, of at most 28 digits. -/
def Decimal.quantize : Decimal → Option Price
  | .finite negative coefficient exponent =>
      let amount := roundedCents coefficient exponent
      if amount < 10 ^ 28 then some (.cents negative amount) else none
  | .nan negative payload => some (.nan negative (fixNan payload))
  | .infinite _ | .signalling => none

def signText (negative : Bool) : List Char := if negative then ['-'] else []

def Price.text : Price → String
  | .cents negative amount =>
      String.ofList (signText negative ++ Nat.toDigits 10 (amount / 100) ++
        ['.', Nat.digitChar (amount / 10 % 10), Nat.digitChar (amount % 10)])
  | .nan negative payload =>
      String.ofList (signText negative ++ 'N' :: 'a' :: 'N' :: payload.toList)

def money (host : CartHost) (value : Datum) : Except Datum Price :=
  let amount := match value with
    | .dict _ => value.field "amount"
    | other => other
  match (host.decimal (host.str amount)).bind Decimal.quantize with
  | some price => .ok price
  | none => .error amount

def item (line : Datum) (name : String) : Except Raised Datum :=
  match line with
  | .dict fields =>
      match fields.lookup name with
      | some value => .ok value
      | none => .error .keyError
  | _ => .error .typeError

structure PayableLine where
  sku : String
  qty : Int
  price : Price
  deriving DecidableEq

structure Payable where
  lines : List PayableLine
  total : Price
  currency : String
  deriving DecidableEq

def iterated : Datum → Except Raised (List Datum)
  | .list items => .ok items
  | .dict fields => .ok (fields.map fun field => .text field.1)
  | .text text => .ok (text.toList.map fun letter => .text (String.ofList [letter]))
  | _ => .error .typeError

def lineFault (error : Raised) : CartFault :=
  match error with
  | .keyError | .typeError | .valueError => .malformedLine error
  | .overflowError | .attributeError => .raised error

def payableLine (host : CartHost) (line : Datum) : Except CartFault PayableLine := do
  let sku ← (item line "sku_id").mapError lineFault
  let qty ← (item line "qty").bind (Datum.int host.digit) |>.mapError lineFault
  let value ← (item line "unit_price").mapError lineFault
  let price ← (money host value).mapError .linePrice
  return { sku := host.str sku, qty := qty, price := price }

def cartLines (cart : Datum) : Except Raised (List Datum) :=
  let lines := cart.field "lines"
  if lines.truthy then iterated lines else .ok []

def payable (host : CartHost) (cart : Datum) : Except CartFault Payable := do
  match cart with
  | .dict _ =>
      let listed ← (cartLines cart).mapError lineFault
      let lines ← listed.mapM (payableLine host)
      let total ← (money host (cart.field "total")).mapError .notPrice
      let currency := cart.field "currency"
      return {
        lines := lines
        total := total
        currency := host.upper (if currency.truthy then host.str currency else "") }
  | _ => throw (.raised .attributeError)

structure CartRow where
  sku : String
  qty : Int
  price : String
  deriving DecidableEq

def CartRow.before (first second : CartRow) : Prop :=
  first.sku < second.sku ∨ (first.sku = second.sku ∧
    (first.qty < second.qty ∨ (first.qty = second.qty ∧ first.price ≤ second.price)))

instance : DecidableRel CartRow.before :=
  fun _ _ => inferInstanceAs (Decidable (_ ∨ (_ ∧ (_ ∨ (_ ∧ _)))))

def PayableLine.row (line : PayableLine) : CartRow := ⟨line.sku, line.qty, line.price.text⟩

def Payable.rows (content : Payable) : List CartRow :=
  (content.lines.map PayableLine.row).insertionSort CartRow.before

def rowText (row : CartRow) : List Char :=
  '[' :: (JsonText.quoted row.sku ++ ',' :: ' ' :: (JsonText.intText row.qty ++
    ',' :: ' ' :: (JsonText.quoted row.price ++ [']'])))

def currencyLabel : List Char := "\x7b\"currency\": ".toList

def linesLabel : List Char := ", \"lines\": ".toList

def totalLabel : List Char := ", \"total\": ".toList

def Payable.json (content : Payable) : String :=
  String.ofList (currencyLabel ++ (JsonText.quoted content.currency ++
    (linesLabel ++ (JsonText.array rowText content.rows ++
      (totalLabel ++ (JsonText.quoted content.total.text ++ ['\x7d']))))))

def canonicalCartHash (host : CartHost) (cart : Datum) : Except CartFault String :=
  match payable host cart with
  | .error fault => .error fault
  | .ok content =>
      if ∀ line ∈ content.lines, Writable line.qty then .ok (host.sha256 content.json)
      else .error (.raised .valueError)

inductive CheckoutError where
  | paymentsPaused
  | raised (error : Raised)
  deriving DecidableEq

/-- `verify_for_checkout`: expiry first, then every check, and the payment last. -/
def verifyForCheckout (host : MandateHost) (carts : CartHost) (store : MandateStore)
    (mandateId : MandateId) (userId : String) (currentCart : Datum) (now : Time)
    (keyReads : Bool) : Except CheckoutError (Bool × String) × MandateStore :=
  match store.getMandate mandateId with
  | none => (.ok (false, "mandate not found"), store)
  | some _ =>
      if store.ready keyReads then
        let current := store.withKey.expireIfDue host mandateId now
        match current.getMandate mandateId with
        | none => (.ok (false, "mandate not found"), current)
        | some mandate =>
            if mandate.intact host = false then
              (.ok (false, "mandate signature invalid"), current)
            else if mandate.userId ≠ userId then
              (.ok (false, "mandate belongs to another user"), current)
            else if mandate.status ≠ .approved then
              (.ok (false, s!"mandate is {mandate.status.value}, not approved"), current)
            else
              match canonicalCartHash carts currentCart with
              | .error (.raised error) => (.error (.raised error), current)
              | .error fault => (.ok (false, s!"cart unreadable: {carts.describe fault}"), current)
              | .ok liveHash =>
                  if liveHash ≠ mandate.cartHash then
                    (.ok (false, "cart changed since it was approved"), current)
                  else
                    match current.ledger.getPayment mandate.paymentId with
                    | none => (.ok (false, "payment is not authorized"), current)
                    | some payment =>
                        if payment.status ≠ .authorized then
                          (.ok (false, "payment is not authorized"), current)
                        else if mandate.paymentMatches host payment = false then
                          (.ok (false, "payment amount differs from what was approved"), current)
                        else (.ok (true, "ok"), current)
      else (.error .paymentsPaused, store)

structure SameContent (first second : Payable) : Prop where
  lines : first.lines.Perm second.lines
  total : first.total = second.total
  currency : first.currency = second.currency

theorem signText_append (first second : Bool) {rest other : List Char}
    (restPlain : rest.head? ≠ some '-') (otherPlain : other.head? ≠ some '-')
    (same : signText first ++ rest = signText second ++ other) : first = second ∧ rest = other := by
  cases first with
  | false =>
    cases second with
    | false => exact ⟨rfl, same⟩
    | true => exact absurd (congrArg List.head? same) restPlain
  | true =>
    cases second with
    | false => exact absurd (congrArg List.head? same).symm otherPlain
    | true => exact ⟨rfl, (List.cons.inj same).2⟩

theorem digit_ne {letter : Char} {value : Nat} (member : letter ∈ Nat.toDigits 10 value)
    {other : Char} (plain : other.isDigit = false) : letter ≠ other := by
  rintro rfl
  rw [JsonText.digit_of_toDigits member] at plain
  cases plain

theorem digitChar_injective {first second : Nat} (firstSmall : first < 10)
    (secondSmall : second < 10) (same : Nat.digitChar first = Nat.digitChar second) :
    first = second := by
  rw [← JsonText.digitValue_digitChar (Nat.lt_trans firstSmall (by decide)),
    ← JsonText.digitValue_digitChar (Nat.lt_trans secondSmall (by decide)), same]

theorem cents_injective {first second : Nat} (same :
    Nat.toDigits 10 (first / 100) ++ '.' :: [Nat.digitChar (first / 10 % 10),
      Nat.digitChar (first % 10)] =
    Nat.toDigits 10 (second / 100) ++ '.' :: [Nat.digitChar (second / 10 % 10),
      Nat.digitChar (second % 10)]) : first = second := by
  have free (value : Nat) : '.' ∉ Nat.toDigits 10 value :=
    fun member => digit_ne member rfl rfl
  obtain ⟨whole, rest⟩ := JsonText.append_sign '.' _ _ _ _ (free _) (free _) same
  obtain ⟨tens, ones⟩ := List.cons.inj rest
  have wholes := JsonText.toDigits_injective whole
  have tensSame := digitChar_injective (Nat.mod_lt _ (by decide)) (Nat.mod_lt _ (by decide)) tens
  have onesSame := digitChar_injective (Nat.mod_lt _ (by decide)) (Nat.mod_lt _ (by decide))
    (List.cons.inj ones).1
  omega

variable (value : Nat) (rest : List Char) {host : CartHost} {cart : Datum} {hash : String}
  (first second : Payable)

theorem head_digits :
    ∃ letter, (Nat.toDigits 10 value ++ rest).head? = some letter ∧ letter.isDigit = true := by
  cases digits : Nat.toDigits 10 value with
  | nil => exact absurd digits Nat.toDigits_ne_nil
  | cons letter letters =>
    exact ⟨letter, rfl, JsonText.digit_of_toDigits (digits ▸ List.mem_cons_self)⟩

theorem head_digits_ne {other : Char} (plain : other.isDigit = false) :
    (Nat.toDigits 10 value ++ rest).head? ≠ some other := by
  obtain ⟨letter, head, digit⟩ := head_digits value rest
  rw [head]
  intro same
  rw [Option.some.inj same, plain] at digit
  cases digit

theorem nan_head {payload : String} : ('N' :: 'a' :: 'N' :: payload.toList).head? ≠ some '-' :=
  fun same => absurd (Option.some.inj same) (by decide)

theorem Price.text_injective : Function.Injective Price.text := by
  intro first second same
  cases first with
  | cents negative amount =>
    cases second with
    | cents negative' amount' =>
      have letters := String.ofList_injective same
      rw [List.append_assoc, List.append_assoc] at letters
      obtain ⟨signs, amounts⟩ := signText_append negative negative'
        (head_digits_ne _ _ rfl) (head_digits_ne _ _ rfl) letters
      rw [signs, cents_injective amounts]
    | nan negative' payload =>
      have letters := String.ofList_injective same
      rw [List.append_assoc] at letters
      obtain ⟨_, amounts⟩ := signText_append negative negative'
        (head_digits_ne _ _ rfl) nan_head letters
      exact absurd (congrArg List.head? amounts) (head_digits_ne _ _ rfl)
  | nan negative payload =>
    cases second with
    | cents negative' amount' =>
      have letters := String.ofList_injective same
      rw [List.append_assoc] at letters
      obtain ⟨_, amounts⟩ := signText_append negative negative'
        nan_head (head_digits_ne _ _ rfl) letters
      exact absurd (congrArg List.head? amounts).symm (head_digits_ne _ _ rfl)
    | nan negative' payload' =>
      have letters := String.ofList_injective same
      obtain ⟨signs, payloads⟩ := signText_append negative negative'
        nan_head nan_head letters
      rw [signs, String.toList_inj.mp (List.append_cancel_left
        (show ['N', 'a', 'N'] ++ _ = ['N', 'a', 'N'] ++ _ from payloads))]

theorem PayableLine.row_injective : Function.Injective PayableLine.row := by
  intro first second same
  obtain ⟨sku, qty, price⟩ := CartRow.mk.inj same
  cases first
  cases sku
  cases qty
  cases Price.text_injective price
  rfl

theorem rowText_append (row : CartRow) (rest : List Char) :
    rowText row ++ rest = '[' :: (JsonText.quoted row.sku ++ ',' :: ' ' ::
      (JsonText.intText row.qty ++ ',' :: ' ' :: (JsonText.quoted row.price ++ ']' :: rest))) := by
  simp [rowText, List.append_assoc]

theorem rowText_marked : JsonText.Marked rowText := by
  intro first second rest other same
  rw [rowText_append, rowText_append] at same
  obtain ⟨sku, afterSku⟩ := JsonText.quoted_marked _ _ _ _ (List.cons.inj same).2
  obtain ⟨digits, afterQty⟩ := JsonText.append_sign ',' _ _ _ _
    (JsonText.comma_not_mem_intText _) (JsonText.comma_not_mem_intText _)
    (List.cons.inj (List.cons.inj afterSku).2).2
  obtain ⟨price, afterPrice⟩ := JsonText.quoted_marked _ _ _ _ (List.cons.inj afterQty).2
  have qty := JsonText.intText_injective digits
  refine ⟨?_, (List.cons.inj afterPrice).2⟩
  cases first
  cases sku
  cases qty
  cases price
  rfl

theorem rowText_opens (row : CartRow) (rest other : List Char) :
    rowText row ++ rest ≠ ']' :: other := by
  intro same
  cases (List.cons.inj same).1

/-- The text tells the currency, the sorted lines and the total apart. -/
theorem json_eq_iff : first.json = second.json ↔
    first.currency = second.currency ∧ first.rows = second.rows ∧ first.total = second.total := by
  constructor
  · intro same
    have letters := List.append_cancel_left (String.ofList_injective same)
    obtain ⟨currency, afterCurrency⟩ := JsonText.quoted_marked _ _ _ _ letters
    obtain ⟨rows, afterRows⟩ := JsonText.array_marked rowText_marked rowText_opens _ _ _ _
      (List.append_cancel_left afterCurrency)
    obtain ⟨total, _⟩ := JsonText.quoted_marked _ _ _ _ (List.append_cancel_left afterRows)
    exact ⟨currency, rows, Price.text_injective total⟩
  · rintro ⟨currency, rows, total⟩
    rw [Payable.json, Payable.json, currency, rows, total]

def CartRow.key (row : CartRow) : Lex (String × Lex (Int × String)) :=
  toLex (row.sku, toLex (row.qty, row.price))

theorem before_iff (first second : CartRow) :
    CartRow.before first second ↔ first.key ≤ second.key := by
  rw [CartRow.before, CartRow.key, CartRow.key, Prod.Lex.toLex_le_toLex,
    Prod.Lex.toLex_le_toLex]

instance : Std.Total CartRow.before where
  total first second := by
    rw [before_iff, before_iff]
    exact le_total _ _

instance : IsTrans CartRow CartRow.before where
  trans first second third := by
    rw [before_iff, before_iff, before_iff]
    exact le_trans

instance : Std.Antisymm CartRow.before where
  antisymm first second := by
    rw [before_iff, before_iff]
    intro le ge
    have keys := toLex_inj.mp (le_antisymm le ge)
    obtain ⟨sku, others⟩ := Prod.ext_iff.mp keys
    obtain ⟨qty, price⟩ := Prod.ext_iff.mp (toLex_inj.mp others)
    cases first
    cases second
    cases (show _ = _ from sku)
    cases (show _ = _ from qty)
    cases (show _ = _ from price)
    rfl

theorem rows_eq_iff : first.rows = second.rows ↔ first.lines.Perm second.lines := by
  have sorted (content : Payable) : content.rows.Perm (content.lines.map PayableLine.row) :=
    List.perm_insertionSort CartRow.before _
  have ordered (content : Payable) : content.rows.Pairwise CartRow.before :=
    List.pairwise_insertionSort CartRow.before _
  rw [← List.map_perm_map_iff PayableLine.row_injective]
  constructor
  · intro same
    exact (sorted first).symm.trans (same ▸ sorted second)
  · intro perm
    exact ((sorted first).trans (perm.trans (sorted second).symm)).eq_of_pairwise'
      (ordered first) (ordered second)

theorem json_eq_iff_same : first.json = second.json ↔ SameContent first second := by
  rw [json_eq_iff, rows_eq_iff]
  exact ⟨fun same => ⟨same.2.1, same.2.2, same.1⟩,
    fun same => ⟨same.currency, same.lines, same.total⟩⟩

def SamePayable (host : CartHost) (first second : Datum) : Prop :=
  ∃ content content', payable host first = .ok content ∧ payable host second = .ok content' ∧
    SameContent content content'

theorem canonicalCartHash_ok (hashed : canonicalCartHash host cart = .ok hash) :
    ∃ content, payable host cart = .ok content ∧ host.sha256 content.json = hash := by
  rw [canonicalCartHash] at hashed
  split at hashed
  · cases hashed
  case h_2 content read =>
    split at hashed
    · exact ⟨content, read, Except.ok.inj hashed⟩
    · cases hashed

theorem hash_eq_iff (injective : Function.Injective host.sha256) {first second : Datum}
    {hash hash' : String} (hashed : canonicalCartHash host first = .ok hash)
    (hashed' : canonicalCartHash host second = .ok hash') :
    hash = hash' ↔ SamePayable host first second := by
  obtain ⟨content, read, rfl⟩ := canonicalCartHash_ok hashed
  obtain ⟨content', read', rfl⟩ := canonicalCartHash_ok hashed'
  rw [injective.eq_iff, json_eq_iff_same]
  constructor
  · exact fun same => ⟨content, content', read, read', same⟩
  · rintro ⟨other, other', found, found', same⟩
    cases Except.ok.inj (read.symm.trans found)
    cases Except.ok.inj (read'.symm.trans found')
    exact same

theorem expired_cartHash (host : MandateHost) (expiry : Expiry) (mandate : CartMandate) :
    (MandateStore.expired host expiry mandate).cartHash = mandate.cartHash := by
  rw [MandateStore.expired]
  cases expiry with
  | stays => rfl
  | consumed | released | expired =>
    rw [if_neg (by decide)]
    split
    · rfl
    · rfl

theorem verify_hash {host : MandateHost} {carts : CartHost} {store : MandateStore}
    {mandateId : MandateId} {mandate : CartMandate}
    (found : store.getMandate mandateId = some mandate) {userId reason : String} {live : Datum}
    {now : Time} {keyReads : Bool}
    (verified : (verifyForCheckout host carts store mandateId userId live now keyReads).1 =
      .ok (true, reason)) : canonicalCartHash carts live = .ok mandate.cartHash := by
  have current : (store.withKey.expireIfDue host mandateId now).getMandate mandateId =
      some (MandateStore.clocked host store.ledger now mandate) := by
    rw [MandateStore.expireIfDue_getMandate, if_pos rfl]
    exact congrArg (Option.map (MandateStore.clocked host store.ledger now)) found
  have kept : (MandateStore.clocked host store.ledger now mandate).cartHash = mandate.cartHash :=
    expired_cartHash host _ mandate
  rw [verifyForCheckout, found] at verified
  dsimp only at verified
  split at verified
  · rw [current] at verified
    dsimp only at verified
    split at verified
    · cases verified
    split at verified
    · cases verified
    split at verified
    · cases verified
    split at verified
    · cases verified
    · cases verified
    case h_3 liveHash hashed =>
      split at verified
      · cases verified
      case isFalse same =>
        rw [hashed, Decidable.not_not.mp same, kept]
  · cases verified

def quantity (decimal : Char → Option Nat) : Datum → Option Rat
  | .flag value => some (if value then 1 else 0)
  | .whole value => some value
  | .real value => some value
  | .text value => (intOfText decimal value).map fun value => (value : Rat)
  | .null | .infinite _ | .notANumber | .list _ | .dict _ => none

structure BoughtLine where
  sku : String
  quantity : Rat
  price : Price
  deriving DecidableEq

structure Bought where
  lines : List BoughtLine
  total : Price
  currency : String

def boughtLine (host : CartHost) (line : Datum) : Option BoughtLine := do
  let read ← (payableLine host line).toOption
  let qty ← (item line "qty").toOption
  let quantity ← quantity host.digit qty
  return { sku := read.sku, quantity := quantity, price := read.price }

def bought (host : CartHost) (cart : Datum) : Option Bought := do
  let read ← (payable host cart).toOption
  let listed ← (cartLines cart).toOption
  let lines ← listed.mapM (boughtLine host)
  return { lines := lines, total := read.total, currency := read.currency }

def Price.unsigned : Price → Price
  | .cents negative amount => .cents (if amount = 0 then false else negative) amount
  | .nan negative payload => .nan negative payload

def BoughtLine.unsigned (line : BoughtLine) : BoughtLine :=
  { line with price := line.price.unsigned }

def BoughtLine.cut (line : BoughtLine) : PayableLine :=
  { sku := line.sku, qty := truncate line.quantity, price := line.price }

def Bought.cut (content : Bought) : Payable :=
  { lines := content.lines.map BoughtLine.cut, total := content.total, currency := content.currency }

structure Bought.Same (first second : Bought) : Prop where
  lines : (first.lines.map BoughtLine.unsigned).Perm (second.lines.map BoughtLine.unsigned)
  total : first.total.unsigned = second.total.unsigned
  currency : first.currency = second.currency

def SameBought (host : CartHost) (first second : Datum) : Prop :=
  ∃ content content', bought host first = some content ∧ bought host second = some content' ∧
    content.Same content'

/-- Alike once the fractions of the quantities are cut off, and not alike with them. -/
structure Bought.FractionsApart (first second : Bought) : Prop where
  alike : SameContent first.cut second.cut
  apart : ¬ (first.lines.map BoughtLine.unsigned).Perm (second.lines.map BoughtLine.unsigned)

/-- Alike as money, and not in how the zeros are signed. -/
structure Bought.SignsApart (first second : Bought) : Prop where
  alike : first.Same second
  apart : ¬ SameContent first.cut second.cut

structure BoughtLine.Plain (line : BoughtLine) : Prop where
  whole : line.quantity = truncate line.quantity
  signed : line.price.unsigned = line.price

structure Bought.Plain (content : Bought) : Prop where
  lines : ∀ line ∈ content.lines, line.Plain
  total : content.total.unsigned = content.total

theorem truncate_int (value : Int) : truncate (value : Rat) = value := by
  rw [truncate, Rat.num_intCast, Rat.den_intCast]
  exact Int.tdiv_one value

theorem quantity_of_int {decimal : Char → Option Nat} {value : Datum} {qty : Int}
    (read : value.int decimal = .ok qty) :
    ∃ number, quantity decimal value = some number ∧ truncate number = qty := by
  cases value with
  | flag value =>
    refine ⟨_, rfl, ?_⟩
    rw [← Except.ok.inj read]
    cases value with
    | false => exact truncate_int 0
    | true => exact truncate_int 1
  | whole value => exact ⟨value, rfl, (truncate_int value).trans (Except.ok.inj read)⟩
  | real value => exact ⟨value, rfl, Except.ok.inj read⟩
  | text value =>
    rw [Datum.int] at read
    split at read
    case h_1 number found =>
      refine ⟨number, ?_, (truncate_int number).trans (Except.ok.inj read)⟩
      rw [quantity, found]
      rfl
    case h_2 => cases read
  | null | infinite | notANumber | list | dict => cases read

theorem except_bind_ok {Fault Middle Value : Type} {first : Except Fault Middle}
    {next : Middle → Except Fault Value} {value : Value} (done : first >>= next = .ok value) :
    ∃ middle, first = .ok middle ∧ next middle = .ok value := by
  cases first with
  | error fault => cases done
  | ok middle => exact ⟨middle, rfl, done⟩

theorem mapError_ok {Fault Other Value : Type} {read : Except Fault Value} {wrap : Fault → Other}
    {value : Value} (done : read.mapError wrap = .ok value) : read = .ok value := by
  cases read with
  | error fault => cases done
  | ok found => exact congrArg Except.ok (Except.ok.inj done)

theorem boughtLine_of_payable {line : Datum} {read : PayableLine}
    (accepted : payableLine host line = .ok read) :
    ∃ wanted, boughtLine host line = some wanted ∧ wanted.cut = read := by
  obtain ⟨sku, _, afterSku⟩ := except_bind_ok accepted
  obtain ⟨qty, whole, afterQty⟩ := except_bind_ok afterSku
  obtain ⟨value, _, afterValue⟩ := except_bind_ok afterQty
  obtain ⟨price, _, done⟩ := except_bind_ok afterValue
  obtain ⟨asked, found, reads⟩ := except_bind_ok (mapError_ok whole)
  obtain ⟨number, numbered, cut⟩ := quantity_of_int reads
  refine ⟨⟨read.sku, number, read.price⟩, ?_, ?_⟩
  · rw [boughtLine, accepted, found]
    change (quantity host.digit asked >>= _) = _
    rw [numbered]
    rfl
  · cases Except.ok.inj done
    rw [BoughtLine.cut, cut]

theorem boughtLines_of_payable {listed : List Datum} {read : List PayableLine}
    (accepted : listed.mapM (payableLine host) = .ok read) :
    ∃ lines, listed.mapM (boughtLine host) = some lines ∧ lines.map BoughtLine.cut = read := by
  induction listed generalizing read with
  | nil => exact ⟨[], rfl, Except.ok.inj accepted⟩
  | cons line rest ih =>
    rw [List.mapM_cons] at accepted
    obtain ⟨first, one, afterOne⟩ := except_bind_ok accepted
    obtain ⟨others, more, done⟩ := except_bind_ok afterOne
    obtain ⟨wanted, found, cut⟩ := boughtLine_of_payable one
    obtain ⟨lines, found', cuts⟩ := ih more
    refine ⟨wanted :: lines, ?_, ?_⟩
    · rw [List.mapM_cons, found, found']
      rfl
    · rw [List.map_cons, cut, cuts]
      exact Except.ok.inj done

/-- What the hash is taken of is what is bought, with its fractions cut off. -/
theorem bought_of_payable {content : Payable} (accepted : payable host cart = .ok content) :
    ∃ wanted, bought host cart = some wanted ∧ wanted.cut = content := by
  cases cart with
  | dict fields =>
    have read := accepted
    obtain ⟨listed, found, afterListed⟩ := except_bind_ok read
    obtain ⟨lines, mapped, afterLines⟩ := except_bind_ok afterListed
    obtain ⟨total, _, done⟩ := except_bind_ok afterLines
    obtain ⟨wanted, foundLines, cuts⟩ := boughtLines_of_payable mapped
    refine ⟨⟨wanted, content.total, content.currency⟩, ?_, ?_⟩
    · rw [bought, accepted, mapError_ok found]
      change (listed.mapM (boughtLine host) >>= _) = _
      rw [foundLines]
      rfl
    · rw [Bought.cut, cuts, ← Except.ok.inj done]
  | null | flag | whole | real | infinite | notANumber | text | list => cases accepted

theorem same_iff_of_plain {first second : Bought} (plain : first.Plain) (plain' : second.Plain) :
    first.Same second ↔ SameContent first.cut second.cut := by
  -- a plain line is given by what is left of it when its fraction is cut off
  let wholeLine (line : PayableLine) : BoughtLine := ⟨line.sku, line.qty, line.price⟩
  have injective : Function.Injective wholeLine := by
    rintro ⟨sku, qty, price⟩ ⟨sku', qty', price'⟩ same
    obtain ⟨skus, quantities, prices⟩ := BoughtLine.mk.inj same
    cases skus
    cases prices
    cases Rat.intCast_inj.mp quantities
    rfl
  have restored (content : Bought) (plain : content.Plain) :
      content.lines.map BoughtLine.unsigned = content.cut.lines.map wholeLine := by
    rw [Bought.cut, List.map_map]
    apply List.map_congr_left
    intro line member
    obtain ⟨whole, signed⟩ := plain.lines line member
    change BoughtLine.mk line.sku line.quantity line.price.unsigned =
      BoughtLine.mk line.sku ((truncate line.quantity : Int) : Rat) line.price
    rw [signed, ← whole]
  constructor
  · intro same
    have lines := same.lines
    rw [restored first plain, restored second plain', List.map_perm_map_iff injective] at lines
    exact ⟨lines, plain.total.symm.trans (same.total.trans plain'.total), same.currency⟩
  · intro same
    refine ⟨?_, congrArg Price.unsigned same.total, same.currency⟩
    rw [restored first plain, restored second plain']
    exact same.lines.map wholeLine

/-- What is claimed of an approved cart and a live one. -/
structure HashTells (carts : CartHost) (approved live : Datum) (hash hash' : String) : Prop where
  tells : hash = hash' ↔ SameBought carts approved live
  checkout : ∀ host store mandateId mandate userId now keyReads reason,
    MandateStore.getMandate store mandateId = some mandate → mandate.cartHash = hash →
      (verifyForCheckout host carts store mandateId userId live now keyReads).1 =
        .ok (true, reason) → SameBought carts approved live

/-- The hash tells two carts apart and lets no other cart be checked out, exactly unless they are
alike but for the fractions of their quantities, or but for the signs of zeros; carts with whole
quantities and no signed zero are always told apart. -/
theorem cart_hash_tells_iff (carts : CartHost) (injective : Function.Injective carts.sha256)
    (approved live : Datum) (hash hash' : String)
    (hashed : canonicalCartHash carts approved = .ok hash)
    (hashed' : canonicalCartHash carts live = .ok hash') :
    ∃ content content', bought carts approved = some content ∧ bought carts live = some content' ∧
      (HashTells carts approved live hash hash' ↔
        ¬ content.FractionsApart content' ∧ ¬ content.SignsApart content') ∧
      (content.Plain → content'.Plain → HashTells carts approved live hash hash') := by
  obtain ⟨read, accepted, _⟩ := canonicalCartHash_ok hashed
  obtain ⟨read', accepted', _⟩ := canonicalCartHash_ok hashed'
  obtain ⟨content, found, rfl⟩ := bought_of_payable accepted
  obtain ⟨content', found', rfl⟩ := bought_of_payable accepted'
  have alike : hash = hash' ↔ SameContent content.cut content'.cut := by
    rw [hash_eq_iff injective hashed hashed']
    constructor
    · rintro ⟨other, other', there, there', same⟩
      cases Except.ok.inj (accepted.symm.trans there)
      cases Except.ok.inj (accepted'.symm.trans there')
      exact same
    · exact fun same => ⟨_, _, accepted, accepted', same⟩
  have same : SameBought carts approved live ↔ content.Same content' := by
    constructor
    · rintro ⟨other, other', there, there', same⟩
      cases Option.some.inj (found.symm.trans there)
      cases Option.some.inj (found'.symm.trans there')
      exact same
    · exact fun same => ⟨_, _, found, found', same⟩
  have told (tells : SameContent content.cut content'.cut ↔ content.Same content') :
      HashTells carts approved live hash hash' := by
    refine ⟨by rw [alike, same, tells], ?_⟩
    intro host store mandateId mandate userId now keyReads reason present own verified
    have lived := verify_hash present verified
    rw [own] at lived
    rw [same, ← tells, ← alike]
    exact Except.ok.inj (lived.symm.trans hashed')
  refine ⟨content, content', found, found', ?_, fun plain plain' =>
    told (same_iff_of_plain plain plain').symm⟩
  constructor
  · intro tells
    have both : SameContent content.cut content'.cut ↔ content.Same content' :=
      alike.symm.trans (tells.tells.trans same)
    exact ⟨fun fractions => fractions.apart (both.mp fractions.alike).lines,
      fun signs => signs.apart (both.mpr signs.alike)⟩
  · rintro ⟨noFractions, noSigns⟩
    apply told
    constructor
    · intro cut
      by_contra unlike
      refine noFractions ⟨cut, fun lines => unlike ⟨lines, ?_, cut.currency⟩⟩
      exact congrArg Price.unsigned cut.total
    · intro money
      by_contra unlike
      exact noSigns ⟨money, unlike⟩

def plainHost : CartHost where
  str
    | .text text => text
    | .whole value => String.ofList (JsonText.intText value)
    | _ => "None"
  describe _ := "malformed cart line"
  decimal text :=
    (intOfText asciiDigit text).map fun value => .finite (decide (value < 0)) value.natAbs 0
  digit := asciiDigit
  upper := String.toUpper
  sha256 := id

def sampleLine (sku : String) (qty : Datum) (price : Int) : Datum :=
  .dict [("sku_id", .text sku), ("qty", qty), ("unit_price", .whole price)]

def sampleCart (lines : List Datum) (total : Int) (currency : String) : Datum :=
  .dict [("lines", .list lines), ("total", .whole total), ("currency", .text currency)]

def teaThenCup : Datum :=
  sampleCart [sampleLine "tea" (.whole 2) 40, sampleLine "cup" (.text "1") 15] 95 "INR"

def cupThenTea : Datum :=
  sampleCart [sampleLine "cup" (.whole 1) 15, sampleLine "tea" (.whole 2) 40] 95 "inr"

def teaCupText : String :=
  "\x7b\"currency\": \"INR\", \"lines\": [[\"cup\", 1, \"15.00\"], [\"tea\", 2, \"40.00\"]], " ++
    "\"total\": \"95.00\"\x7d"

theorem hash_of_toOption (found : (canonicalCartHash host cart).toOption = some hash) :
    canonicalCartHash host cart = .ok hash := by
  cases read : canonicalCartHash host cart with
  | error fault => rw [read] at found; cases found
  | ok value => rw [read] at found; rw [Option.some.inj found]

theorem teaThenCup_hash : canonicalCartHash plainHost teaThenCup = .ok teaCupText :=
  hash_of_toOption (by decide +kernel)

theorem cupThenTea_hash : canonicalCartHash plainHost cupThenTea = .ok teaCupText :=
  hash_of_toOption (by decide +kernel)

instance (line : BoughtLine) : Decidable line.Plain :=
  decidable_of_iff (line.quantity = truncate line.quantity ∧ line.price.unsigned = line.price)
    ⟨fun plain => ⟨plain.1, plain.2⟩, fun plain => ⟨plain.1, plain.2⟩⟩

instance (content : Bought) : Decidable content.Plain :=
  decidable_of_iff ((∀ line ∈ content.lines, line.Plain) ∧ content.total.unsigned = content.total)
    ⟨fun plain => ⟨plain.1, plain.2⟩, fun plain => ⟨plain.1, plain.2⟩⟩

theorem plain_of_bought {content : Bought} (found : bought host cart = some content)
    (plain : (bought host cart).all fun content => decide content.Plain) : content.Plain := by
  rw [found] at plain
  exact of_decide_eq_true plain

theorem reordered_cart_hash : SameBought plainHost teaThenCup cupThenTea := by
  obtain ⟨content, content', found, found', -, told⟩ :=
    cart_hash_tells_iff plainHost Function.injective_id teaThenCup cupThenTea teaCupText teaCupText
      teaThenCup_hash cupThenTea_hash
  have plain := plain_of_bought found (by decide +kernel)
  have plain' := plain_of_bought found' (by decide +kernel)
  exact (told plain plain').tells.mp rfl

def oneTea : Datum := sampleCart [sampleLine "tea" (.whole 1) 40] 40 "INR"

def teaAndHalf : Datum := sampleCart [sampleLine "tea" (.real (3 / 2)) 40] 40 "INR"

def oneTeaText : String :=
  "\x7b\"currency\": \"INR\", \"lines\": [[\"tea\", 1, \"40.00\"]], \"total\": \"40.00\"\x7d"

/-- One and a half is hashed as one. -/
theorem fraction_hashes_alike :
    canonicalCartHash plainHost oneTea = .ok oneTeaText ∧
      canonicalCartHash plainHost teaAndHalf = .ok oneTeaText ∧
      ¬ SameBought plainHost oneTea teaAndHalf := by
  constructor
  · exact hash_of_toOption (by decide +kernel)
  constructor
  · exact hash_of_toOption (by decide +kernel)
  · rintro ⟨content, content', found, found', same⟩
    have one : (bought plainHost oneTea).map Bought.lines = some [⟨"tea", 1, .cents false 4000⟩] := by
      decide +kernel
    have half : (bought plainHost teaAndHalf).map Bought.lines =
        some [⟨"tea", 3 / 2, .cents false 4000⟩] := by decide +kernel
    have lines := same.lines
    rw [found] at one
    rw [found'] at half
    rw [Option.some.inj one, Option.some.inj half] at lines
    revert lines
    decide +kernel

end Hartos.Ap2
