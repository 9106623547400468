/-! # Lone surrogates in text

An escape in a JSON or YAML document may name a code point between `0xD800` and `0xDFFF`,
a surrogate, with no partner next to it. Such a text is still text to the program: it is
measured, compared and written back, and a writer that escapes characters gives the
surrogate back as the escape it came from.
-/

namespace Weave.Text

def standInOffset : Nat := 0xD0000

def isSurrogateCode (n : Nat) : Bool :=
  0xD800 ≤ n && n ≤ 0xDFFF

def ofCode (n : Nat) : Char :=
  if isSurrogateCode n then Char.ofNat (n + standInOffset) else Char.ofNat n

def surrogate? (c : Char) : Option Nat :=
  if isSurrogateCode (c.toNat - standInOffset) && c.toNat ≥ standInOffset then
    some (c.toNat - standInOffset)
  else none

def isStandIn (c : Char) : Bool :=
  (surrogate? c).isSome

theorem toNat_ofCode_standIn {n : Nat} (h : isSurrogateCode n = true) :
    (ofCode n).toNat = n + standInOffset := by
  simp only [isSurrogateCode, Bool.and_eq_true, decide_eq_true_eq] at h
  have hv : (n + standInOffset).isValidChar := by
    right
    simp only [standInOffset]
    omega
  simp only [ofCode, isSurrogateCode, h.1, h.2, decide_true, Bool.and_self, ↓reduceIte]
  show (if hc : (n + standInOffset).isValidChar then Char.ofNatAux (n + standInOffset) hc
    else '\x00').toNat = n + standInOffset
  rw [dif_pos hv]
  rfl

theorem surrogate?_ofCode {n : Nat} (h : isSurrogateCode n = true) :
    surrogate? (ofCode n) = some n := by
  have ht := toNat_ofCode_standIn h
  simp only [isSurrogateCode, Bool.and_eq_true, decide_eq_true_eq] at h
  simp only [surrogate?, ht, Nat.add_sub_cancel, isSurrogateCode, h.1, h.2, decide_true,
    Bool.and_self, Nat.le_add_left, ↓reduceIte]

end Weave.Text
