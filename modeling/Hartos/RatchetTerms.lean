import Hartos.Ratchet
import Mathlib.Data.Sym.Sym2

/-!
The primitives as terms: a key is the way it was made.
-/
namespace Hartos.Ratchet.Terms

inductive Priv
  | drawn (count : Nat)
  | boot (raw party : String)
  deriving DecidableEq

inductive Term
  | zero
  | digest (raw : String)
  | agreed (parties : Sym2 Priv)
  | root (root dh : Term)
  | opened (root dh : Term)
  | next (chain : Term)
  | message (chain : Term)
  deriving DecidableEq

structure Sealed where
  key : Term
  nonce : Nat
  plaintext : String
  aad : Priv × Nat
  deriving DecidableEq

def terms : Crypto Term Priv Priv Sealed where
  zero := .zero
  publicKey priv := priv
  exchange priv pub := .agreed s(priv, pub)
  kdfRoot root dh := (.root root dh, .opened root dh)
  kdfChain chain := (.next chain, .message chain)
  gcmEncrypt := Sealed.mk
  gcmDecrypt key nonce cipher aad :=
    if cipher.key = key ∧ cipher.nonce = nonce ∧ cipher.aad = aad then some cipher.plaintext
    else none
  generate := .drawn
  sha256 := .digest
  bootKey secret party :=
    match secret with
    | .digest raw => .boot raw party
    | _ => .boot "" party

def depth : Term → Nat
  | .root root _ => depth root + 1
  | _ => 0

theorem terms_ideal : Ideal terms depth where
  exchange_comm _ _ := congrArg Term.agreed Sym2.eq_swap
  decrypt_encrypt _ _ _ _ := if_pos ⟨rfl, rfl, rfl⟩
  decrypt_other _ _ _ _ _ _ different := if_neg fun same => different same.1
  publicKey_inj _ _ same := same
  generate_inj _ _ same := Priv.drawn.inj same
  generate_ne_boot _ _ _ same := nomatch same
  boot_inj _ _ _ _ same := Priv.boot.inj same
  sha256_inj _ _ same := Term.digest.inj same
  chainKey_inj _ _ same := Term.next.inj same
  chainKey_ne_zero _ same := nomatch same
  messageKey_inj _ _ same := Term.message.inj same
  rootKey_inj _ _ _ _ same := Term.root.inj same
  rootChain_inj _ _ _ _ same := Term.opened.inj same
  rootChain_ne_zero _ _ same := nomatch same
  rootChain_ne_next _ _ _ same := nomatch same
  rank_sha256 _ := rfl
  rank_root _ _ := rfl

end Hartos.Ratchet.Terms
