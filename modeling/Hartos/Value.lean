import Mathlib.Logic.Basic

/-!
The JSON values a task carries: results, delegation results and the free-form
part of its context. Numbers are whole; no ledger code computes with them.
White space is what `str.strip` takes off.
-/
namespace Hartos

inductive Value where
  | null
  | bool (flag : Bool)
  | number (n : Int)
  | text (s : String)
  | list (items : List Value)
  | dict (fields : List (String × Value))

namespace Value

def truthy : Value → Bool
  | .null => false
  | .bool flag => flag
  | .number n => n ≠ 0
  | .text s => s ≠ ""
  | .list items => !items.isEmpty
  | .dict fields => !fields.isEmpty

mutual
def same : Value → Value → Bool
  | .null, .null => true
  | .bool a, .bool b => a == b
  | .number a, .number b => a == b
  | .text a, .text b => a == b
  | .list a, .list b => sameItems a b
  | .dict a, .dict b => sameFields a b
  | _, _ => false

def sameItems : List Value → List Value → Bool
  | [], [] => true
  | a :: as, b :: bs => same a b && sameItems as bs
  | _, _ => false

def sameFields : List (String × Value) → List (String × Value) → Bool
  | [], [] => true
  | (j, a) :: as, (k, b) :: bs => j == k && (same a b && sameFields as bs)
  | _, _ => false
end

mutual
theorem same_iff : (a b : Value) → same a b = true ↔ a = b
  | .null, b => by cases b <;> simp [same]
  | .bool _, b => by cases b <;> simp [same]
  | .number _, b => by cases b <;> simp [same]
  | .text _, b => by cases b <;> simp [same]
  | .list items, b => by
      cases b with
      | list other => simp [same, sameItems_iff items other]
      | _ => simp [same]
  | .dict fields, b => by
      cases b with
      | dict other => simp [same, sameFields_iff fields other]
      | _ => simp [same]

theorem sameItems_iff : (a b : List Value) → sameItems a b = true ↔ a = b
  | [], b => by cases b <;> simp [sameItems]
  | first :: rest, b => by
      cases b with
      | nil => simp [sameItems]
      | cons head tail => simp [sameItems, same_iff first head, sameItems_iff rest tail]

theorem sameFields_iff : (a b : List (String × Value)) → sameFields a b = true ↔ a = b
  | [], b => by cases b <;> simp [sameFields]
  | (name, first) :: rest, b => by
      cases b with
      | nil => simp [sameFields]
      | cons head tail =>
        obtain ⟨other, value⟩ := head
        simp [sameFields, same_iff first value, sameFields_iff rest tail, and_assoc]
end

instance : DecidableEq Value := fun a b => decidable_of_iff (same a b = true) (same_iff a b)

end Value

def isSpace (letter : Char) : Bool :=
  letter.toNat ∈ [0x9, 0xA, 0xB, 0xC, 0xD, 0x1C, 0x1D, 0x1E, 0x1F, 0x20, 0x85, 0xA0, 0x1680, 0x2000,
    0x2001, 0x2002, 0x2003, 0x2004, 0x2005, 0x2006, 0x2007, 0x2008, 0x2009, 0x200A, 0x2028, 0x2029,
    0x202F, 0x205F, 0x3000]

end Hartos
