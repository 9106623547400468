import Mathlib
import Weave.Data.Json.Read
import Weave.Data.Json.Write
import Weave.Proofs.RegistryStore

/-! # Reading back a written document

`Json.writeAt` writes a value in ASCII and `Json.parse` reads a value back; reading what was
written gives the value again, up to one change. A text is written character by character,
the stand-in of a lone surrogate as the escape of that surrogate, so the stand-in of a high
surrogate directly followed by the stand-in of a low one is written as the two escapes of a
surrogate pair, which the reader joins into the one character the pair encodes
(`joinPairs`). Every other character reads back as itself.
-/

namespace Weave.Json

open Weave.Text

set_option autoImplicit false

section
attribute [local simp] readValue readItems readEntries readString writeAt
end

/-! ## The code a character is written by -/

def codeOf (c : Char) : Nat :=
  (surrogate? c).getD c.toNat

def isHighStandIn (c : Char) : Bool :=
  (surrogate? c).any (· ≤ 0xDBFF)

def isLowStandIn (c : Char) : Bool :=
  (surrogate? c).any (0xDC00 ≤ ·)

theorem toNat_valid (c : Char) : c.toNat < 0xD800 ∨ (0xDFFF < c.toNat ∧ c.toNat < 0x110000) :=
  c.valid

theorem surrogate?_eq_some {c : Char} {n : Nat} (h : surrogate? c = some n) :
    isSurrogateCode n = true ∧ c.toNat = n + standInOffset := by
  unfold surrogate? at h
  split at h
  · rename_i hc
    obtain rfl := Option.some.inj h
    simp only [Bool.and_eq_true, decide_eq_true_eq] at hc
    exact ⟨hc.1, by omega⟩
  · cases h

theorem codeOf_of_surrogate? {c : Char} (h : surrogate? c = none) : codeOf c = c.toNat := by
  simp [codeOf, h]

theorem ofCode_codeOf (c : Char) : ofCode (codeOf c) = c := by
  cases h : surrogate? c with
  | none =>
    have hNot : isSurrogateCode c.toNat = false := by
      have := toNat_valid c
      simp only [isSurrogateCode, Bool.and_eq_false_iff, decide_eq_false_iff_not]
      omega
    simp [codeOf, h, ofCode, hNot, Char.ofNat_toNat]
  | some n =>
    obtain ⟨hSur, hc⟩ := surrogate?_eq_some h
    simp only [codeOf, h, Option.getD_some, ofCode, hSur, if_true, ← hc, Char.ofNat_toNat]

theorem surrogate?_of_codeOf {c : Char} (h : 0xD800 ≤ codeOf c ∧ codeOf c ≤ 0xDFFF) :
    surrogate? c = some (codeOf c) := by
  cases hs : surrogate? c with
  | none =>
    rw [codeOf_of_surrogate? hs] at h
    have := toNat_valid c
    omega
  | some n => simp [codeOf, hs]

theorem isHighStandIn_iff (c : Char) :
    isHighStandIn c = true ↔ 0xD800 ≤ codeOf c ∧ codeOf c ≤ 0xDBFF := by
  cases hs : surrogate? c with
  | none =>
    have := toNat_valid c
    simp only [isHighStandIn, hs, Option.any_none, Bool.false_eq_true, false_iff,
      codeOf_of_surrogate? hs]
    omega
  | some n =>
    have := (surrogate?_eq_some hs).1
    simp only [isSurrogateCode, Bool.and_eq_true, decide_eq_true_eq] at this
    simp only [isHighStandIn, hs, Option.any_some, decide_eq_true_eq, codeOf, Option.getD_some]
    omega

theorem isLowStandIn_iff (c : Char) :
    isLowStandIn c = true ↔ 0xDC00 ≤ codeOf c ∧ codeOf c ≤ 0xDFFF := by
  cases hs : surrogate? c with
  | none =>
    have := toNat_valid c
    simp only [isLowStandIn, hs, Option.any_none, Bool.false_eq_true, false_iff,
      codeOf_of_surrogate? hs]
    omega
  | some n =>
    have := (surrogate?_eq_some hs).1
    simp only [isSurrogateCode, Bool.and_eq_true, decide_eq_true_eq] at this
    simp only [isLowStandIn, hs, Option.any_some, decide_eq_true_eq, codeOf, Option.getD_some]
    omega

/-! ## Joined pairs -/

def pairChar (hi lo : Nat) : Char :=
  Char.ofNat (0x10000 + (hi - 0xD800) * 0x400 + (lo - 0xDC00))

/-- The characters a written text reads back as: the stand-in of a high surrogate directly
followed by the stand-in of a low one becomes the character the pair encodes. -/
def joinPairs : List Char → List Char
  | c :: d :: rest =>
    if isHighStandIn c && isLowStandIn d then pairChar (codeOf c) (codeOf d) :: joinPairs rest
    else c :: joinPairs (d :: rest)
  | cs => cs

def joinText (s : String) : String :=
  String.ofList (joinPairs s.toList)

/-- Whether a text holds the stand-in of a high surrogate directly followed by the stand-in
of a low one, which it would not read back as. -/
def holdsSplitPair : List Char → Bool
  | c :: d :: rest => (isHighStandIn c && isLowStandIn d) || holdsSplitPair (d :: rest)
  | _ => false

theorem joinPairs_of_holdsSplitPair {cs : List Char} (h : holdsSplitPair cs = false) :
    joinPairs cs = cs := by
  induction cs with
  | nil => rfl
  | cons c tl ih =>
    cases tl with
    | nil => rfl
    | cons d rest =>
      simp only [holdsSplitPair, Bool.or_eq_false_iff] at h
      simp [joinPairs, h.1, ih h.2]

theorem joinText_of_holdsSplitPair {s : String} (h : holdsSplitPair s.toList = false) :
    joinText s = s := by
  rw [joinText, joinPairs_of_holdsSplitPair h, String.ofList_toList]

/-! ## Four hexadecimal digits -/

def unitEscape (n : Nat) : List Char :=
  '\\' :: 'u' :: (hex4Text n).toList

theorem unitPrefix_toList : ("\\u" : String).toList = ['\\', 'u'] := by
  decide

theorem unitEscape_eq_toList (n : Nat) : unitEscape n = ("\\u" ++ hex4Text n).toList := by
  rw [String.toList_append, unitPrefix_toList]
  rfl

theorem hex4Text_toList {n : Nat} (h : n < 0x10000) :
    (hex4Text n).toList = [Nat.digitChar (n / 4096), Nat.digitChar (n / 256 % 16),
      Nat.digitChar (n / 16 % 16), Nat.digitChar (n % 16)] := by
  have h16 : 1 < 16 := by decide
  have hZero : Nat.digitChar 0 = '0' := rfl
  simp only [hex4Text, String.toList_ofList]
  rcases (show n < 16 ∨ (16 ≤ n ∧ n < 256) ∨ (256 ≤ n ∧ n < 4096) ∨ 4096 ≤ n by omega) with
    hn | ⟨hn, hn'⟩ | ⟨hn, hn'⟩ | hn
  · rw [Nat.toDigits_of_lt_base hn]
    simp [show n / 4096 = 0 by omega, show n / 256 % 16 = 0 by omega,
      show n / 16 % 16 = 0 by omega, Nat.mod_eq_of_lt hn, hZero]
  · rw [Nat.toDigits_eq_if h16, if_neg (by omega), Nat.toDigits_of_lt_base (by omega)]
    simp [show n / 4096 = 0 by omega, show n / 256 % 16 = 0 by omega,
      show n / 16 % 16 = n / 16 by omega, hZero]
  · rw [Nat.toDigits_eq_if h16, if_neg (by omega), Nat.toDigits_eq_if h16, if_neg (by omega),
      Nat.toDigits_of_lt_base (by omega)]
    simp [show n / 4096 = 0 by omega, show n / 16 / 16 = n / 256 by omega,
      show n / 256 % 16 = n / 256 by omega, hZero]
  · rw [Nat.toDigits_eq_if h16, if_neg (by omega), Nat.toDigits_eq_if h16, if_neg (by omega),
      Nat.toDigits_eq_if h16, if_neg (by omega), Nat.toDigits_of_lt_base (by omega)]
    simp [show n / 16 / 16 = n / 256 by omega, show n / 256 / 16 = n / 4096 by omega]

theorem hexValue_digitChar : ∀ k, k < 16 → hexValue (Nat.digitChar k) = some k := by
  decide

theorem hex4_digitChars {n : Nat} (h : n < 0x10000) :
    hex4 (Nat.digitChar (n / 4096)) (Nat.digitChar (n / 256 % 16)) (Nat.digitChar (n / 16 % 16))
      (Nat.digitChar (n % 16)) = some n := by
  simp only [hex4, hexValue_digitChar _ (show n / 4096 < 16 by omega),
    hexValue_digitChar _ (show n / 256 % 16 < 16 by omega),
    hexValue_digitChar _ (show n / 16 % 16 < 16 by omega),
    hexValue_digitChar _ (show n % 16 < 16 by omega), Option.pure_def, Option.bind_eq_bind,
    Option.bind_some, Option.some.injEq]
  omega

theorem unitEscape_eq {n : Nat} (h : n < 0x10000) : ∃ a b c d,
    unitEscape n = ['\\', 'u', a, b, c, d] ∧ hex4 a b c d = some n :=
  ⟨_, _, _, _, by rw [unitEscape, hex4Text_toList h], hex4_digitChars h⟩

/-! ## Reading the characters of a text -/

/-- Whether a text starts with the escape of a low surrogate. -/
def LowEscapeAt (cs : List Char) : Prop :=
  ∃ e f g h more lo, cs = '\\' :: 'u' :: e :: f :: g :: h :: more ∧ hex4 e f g h = some lo ∧
    0xDC00 ≤ lo ∧ lo ≤ 0xDFFF

variable (acc : List Char)

theorem readString_close (rest : List Char) :
    readString acc ('"' :: rest) = some (String.ofList acc.reverse, rest) := by
  rw [readString.eq_def]
  rfl

theorem readString_plain {c : Char} (rest : List Char) (hQuote : c ≠ '"') (hSlash : c ≠ '\\')
    (hPrint : 0x20 ≤ c.toNat) : readString acc (c :: rest) = readString (c :: acc) rest := by
  rw [readString.eq_5 acc c rest hQuote (fun _ _ _ _ _ h _ => hSlash h) (fun _ _ h _ => hSlash h),
    if_neg (by omega)]

theorem readString_escaped {e c : Char} (rest : List Char) (hEsc : escaped e = some c)
    (hU : e ≠ 'u') : readString acc ('\\' :: e :: rest) = readString (c :: acc) rest := by
  rw [readString.eq_4 acc e rest (fun _ _ _ _ _ h _ => hU h), hEsc]

theorem readString_unit {n : Nat} (rest : List Char) (hn : n < 0x10000)
    (hNotHigh : ¬(0xD800 ≤ n ∧ n ≤ 0xDBFF)) :
    readString acc (unitEscape n ++ rest) = readString (charOfCode n :: acc) rest := by
  obtain ⟨a, b, c, d, hEsc, hHex⟩ := unitEscape_eq hn
  rw [hEsc, List.cons_append, List.cons_append, List.cons_append, List.cons_append,
    List.cons_append, List.cons_append, List.nil_append, readString.eq_3, hHex]
  simp only [Bool.and_eq_true, decide_eq_true_eq]
  rw [if_neg hNotHigh]

theorem readString_loneHigh {n : Nat} (rest : List Char) (hHigh : 0xD800 ≤ n ∧ n ≤ 0xDBFF)
    (hRest : ¬LowEscapeAt rest) :
    readString acc (unitEscape n ++ rest) = readString (charOfCode n :: acc) rest := by
  obtain ⟨a, b, c, d, hEsc, hHex⟩ := unitEscape_eq (show n < 0x10000 by omega)
  rw [hEsc, List.cons_append, List.cons_append, List.cons_append, List.cons_append,
    List.cons_append, List.cons_append, List.nil_append, readString.eq_3, hHex]
  simp only [Bool.and_eq_true, decide_eq_true_eq]
  rw [if_pos hHigh]
  split
  · next e f g h more =>
    split
    · next lo hLo => rw [if_neg fun hLow => hRest ⟨e, f, g, h, more, lo, rfl, hLo, hLow⟩]
    · rfl
  · rfl

theorem readString_pair {hi lo : Nat} (rest : List Char) (hHigh : 0xD800 ≤ hi ∧ hi ≤ 0xDBFF)
    (hLow : 0xDC00 ≤ lo ∧ lo ≤ 0xDFFF) :
    readString acc (unitEscape hi ++ unitEscape lo ++ rest) =
      readString (pairChar hi lo :: acc) rest := by
  obtain ⟨a, b, c, d, hEsc, hHex⟩ := unitEscape_eq (show hi < 0x10000 by omega)
  obtain ⟨e, f, g, h, hEsc', hHex'⟩ := unitEscape_eq (show lo < 0x10000 by omega)
  rw [hEsc, hEsc']
  simp only [List.cons_append, List.nil_append]
  rw [readString.eq_3, hHex]
  simp only [Bool.and_eq_true, decide_eq_true_eq]
  rw [if_pos hHigh]
  simp only [hHex']
  rw [if_pos hLow]
  rfl

/-! ## The escape of a character -/

theorem escapeChar_of_ne {c : Char} (h1 : c ≠ '"') (h2 : c ≠ '\\') (h3 : c ≠ '\n')
    (h4 : c ≠ '\r') (h5 : c ≠ '\t') (h6 : c ≠ '\x08') (h7 : c ≠ '\x0c') :
    escapeChar c =
      if 0x20 ≤ codeOf c && codeOf c < 0x7f then String.singleton c
      else if codeOf c < 0x10000 then "\\u" ++ hex4Text (codeOf c)
      else
        "\\u" ++ hex4Text (0xd800 + (codeOf c - 0x10000) / 0x400) ++ "\\u" ++
          hex4Text (0xdc00 + (codeOf c - 0x10000) % 0x400) := by
  delta escapeChar
  split
  · exact absurd rfl h1
  · exact absurd rfl h2
  · exact absurd rfl h3
  · exact absurd rfl h4
  · exact absurd rfl h5
  · exact absurd rfl h6
  · exact absurd rfl h7
  · rfl

theorem escapeChar_cases (x : Char) :
    (∃ e, (escapeChar x).toList = ['\\', e] ∧ e ≠ 'u' ∧ escaped e = some x) ∨
    ((escapeChar x).toList = [x] ∧ x ≠ '"' ∧ x ≠ '\\' ∧ 0x20 ≤ x.toNat ∧ x.toNat < 0x7f) ∨
    (codeOf x < 0x10000 ∧ (escapeChar x).toList = unitEscape (codeOf x)) ∨
    (0x10000 ≤ codeOf x ∧ codeOf x = x.toNat ∧ (escapeChar x).toList =
      unitEscape (0xD800 + (x.toNat - 0x10000) / 0x400) ++
        unitEscape (0xDC00 + (x.toNat - 0x10000) % 0x400)) := by
  by_cases h1 : x = '"'
  · exact .inl ⟨'"', by subst h1; decide, by decide, by subst h1; decide⟩
  by_cases h2 : x = '\\'
  · exact .inl ⟨'\\', by subst h2; decide, by decide, by subst h2; decide⟩
  by_cases h3 : x = '\n'
  · exact .inl ⟨'n', by subst h3; decide, by decide, by subst h3; decide⟩
  by_cases h4 : x = '\r'
  · exact .inl ⟨'r', by subst h4; decide, by decide, by subst h4; decide⟩
  by_cases h5 : x = '\t'
  · exact .inl ⟨'t', by subst h5; decide, by decide, by subst h5; decide⟩
  by_cases h6 : x = '\x08'
  · exact .inl ⟨'b', by subst h6; decide, by decide, by subst h6; decide⟩
  by_cases h7 : x = '\x0c'
  · exact .inl ⟨'f', by subst h7; decide, by decide, by subst h7; decide⟩
  rw [escapeChar_of_ne h1 h2 h3 h4 h5 h6 h7]
  have hScalar : ¬(0xD800 ≤ codeOf x ∧ codeOf x ≤ 0xDFFF) → codeOf x = x.toNat := by
    intro hNot
    cases hs : surrogate? x with
    | none => exact codeOf_of_surrogate? hs
    | some n =>
      have := (surrogate?_eq_some hs).1
      simp only [isSurrogateCode, Bool.and_eq_true, decide_eq_true_eq] at this
      simp [codeOf, hs] at hNot
      omega
  split
  · rename_i hPrint
    simp only [Bool.and_eq_true, decide_eq_true_eq] at hPrint
    have hx := hScalar (by omega)
    exact .inr (.inl ⟨String.toList_singleton x, h1, h2, by omega, by omega⟩)
  · split
    · exact .inr (.inr (.inl ⟨‹_›, (unitEscape_eq_toList _).symm⟩))
    · have hx := hScalar (by omega)
      refine .inr (.inr (.inr ⟨by omega, hx, ?_⟩))
      rw [unitEscape_eq_toList, unitEscape_eq_toList, hx, ← String.toList_append,
        String.append_assoc]

theorem readString_escapeChar (x : Char) (tail : List Char)
    (hTail : isHighStandIn x = true → ¬LowEscapeAt tail) :
    readString acc ((escapeChar x).toList ++ tail) = readString (x :: acc) tail := by
  rcases escapeChar_cases x with ⟨e, hEsc, hU, hE⟩ | ⟨hEsc, h1, h2, hPrint, -⟩ | ⟨hLt, hEsc⟩ |
    ⟨hBig, hCode, hEsc⟩
  · rw [hEsc, List.cons_append, List.cons_append, List.nil_append, readString_escaped acc _ hE hU]
  · rw [hEsc, List.cons_append, List.nil_append, readString_plain acc _ h1 h2 hPrint]
  · rw [hEsc]
    by_cases hHigh : 0xD800 ≤ codeOf x ∧ codeOf x ≤ 0xDBFF
    · rw [readString_loneHigh acc _ hHigh (hTail ((isHighStandIn_iff x).2 hHigh)), charOfCode,
        ofCode_codeOf]
    · rw [readString_unit acc _ hLt hHigh, charOfCode, ofCode_codeOf]
  · have hValid := toNat_valid x
    have hx : pairChar (0xD800 + (x.toNat - 0x10000) / 0x400)
        (0xDC00 + (x.toNat - 0x10000) % 0x400) = x := by
      rw [pairChar]
      exact (congrArg Char.ofNat (by omega)).trans (Char.ofNat_toNat x)
    rw [hEsc, readString_pair acc _ (by omega) (by omega), hx]

theorem readString_escapePair {x y : Char} (tail : List Char) (hx : isHighStandIn x = true)
    (hy : isLowStandIn y = true) :
    readString acc ((escapeChar x).toList ++ ((escapeChar y).toList ++ tail)) =
      readString (pairChar (codeOf x) (codeOf y) :: acc) tail := by
  have hxCode := (isHighStandIn_iff x).1 hx
  have hyCode := (isLowStandIn_iff y).1 hy
  have hUnit : ∀ z : Char, 0xD800 ≤ codeOf z ∧ codeOf z ≤ 0xDFFF →
      (escapeChar z).toList = unitEscape (codeOf z) := by
    intro z hz
    have hs := surrogate?_of_codeOf hz
    have hValid := (surrogate?_eq_some hs).2
    rcases escapeChar_cases z with ⟨e, -, -, hE⟩ | ⟨-, -, -, -, hLt⟩ | ⟨-, hEsc⟩ | ⟨hBig, -⟩
    · have : z.toNat < 0x80 := by
        revert hE
        unfold escaped
        split <;> intro h <;> cases h <;> decide
      simp [standInOffset] at hValid
      omega
    · simp [standInOffset] at hValid
      omega
    · exact hEsc
    · omega
  rw [hUnit x (by omega), hUnit y (by omega), ← List.append_assoc,
    readString_pair acc _ (by omega) (by omega)]

theorem isLowStandIn_of_lowEscapeAt {y : Char} {tail : List Char}
    (h : LowEscapeAt ((escapeChar y).toList ++ tail)) : isLowStandIn y = true := by
  obtain ⟨e, f, g, k, more, lo, hShape, hHex, hLow⟩ := h
  rcases escapeChar_cases y with ⟨e', hEsc, hU, -⟩ | ⟨hEsc, -, hSlash, -, -⟩ | ⟨hLt, hEsc⟩ |
    ⟨hBig, -, hEsc⟩
  · rw [hEsc] at hShape
    simp only [List.cons_append, List.nil_append, List.cons.injEq] at hShape
    exact absurd hShape.2.1 hU
  · rw [hEsc] at hShape
    simp only [List.cons_append, List.nil_append, List.cons.injEq] at hShape
    exact absurd hShape.1 hSlash
  · obtain ⟨a, b, c, d, hEsc', hHex'⟩ := unitEscape_eq hLt
    rw [hEsc, hEsc'] at hShape
    simp only [List.cons_append, List.nil_append, List.cons.injEq] at hShape
    obtain ⟨-, -, rfl, rfl, rfl, rfl, -⟩ := hShape
    rw [hHex'] at hHex
    obtain rfl := Option.some.inj hHex
    exact (isLowStandIn_iff y).2 hLow
  · obtain ⟨a, b, c, d, hEsc', hHex'⟩ :=
      unitEscape_eq (show 0xD800 + (y.toNat - 0x10000) / 0x400 < 0x10000 by
        have := toNat_valid y
        omega)
    rw [hEsc, hEsc'] at hShape
    simp only [List.cons_append, List.nil_append, List.cons.injEq] at hShape
    obtain ⟨-, -, rfl, rfl, rfl, rfl, -⟩ := hShape
    rw [hHex'] at hHex
    obtain rfl := Option.some.inj hHex
    have := toNat_valid y
    omega

theorem readString_escapes (cs rest : List Char) :
    readString acc ((cs.flatMap fun c => (escapeChar c).toList) ++ '"' :: rest) =
      some (String.ofList (acc.reverse ++ joinPairs cs), rest) := by
  induction cs using joinPairs.induct generalizing acc with
  | case1 c d more hPair ih =>
    simp only [Bool.and_eq_true] at hPair
    simp only [List.flatMap_cons, List.append_assoc]
    rw [readString_escapePair acc _ hPair.1 hPair.2, ih]
    simp [joinPairs, hPair.1, hPair.2]
  | case2 c d more hPair ih =>
    rw [List.flatMap_cons, List.append_assoc, readString_escapeChar acc c _ ?_, ih]
    · simp [joinPairs, hPair]
    · intro hHigh hLow
      rw [List.flatMap_cons, List.append_assoc] at hLow
      exact hPair (by simp [hHigh, isLowStandIn_of_lowEscapeAt hLow])
  | case3 cs hShort =>
    match cs, hShort with
    | [], _ => simp [readString_close, joinPairs]
    | [c], _ =>
      rw [List.flatMap_cons, List.flatMap_nil, List.append_nil, readString_escapeChar acc c _ ?_,
        readString_close]
      · simp [joinPairs]
      · rintro - ⟨e, f, g, h, more, lo, hShape, -⟩
        simp at hShape
    | _ :: _ :: _, h => exact absurd rfl (h _ _ _)

theorem quote_toList (s : String) :
    (quote s).toList = '"' :: (s.toList.flatMap fun c => (escapeChar c).toList) ++ ['"'] := by
  simp [quote, String.toList_join, List.flatMap_map]

/-! ## Blanks, and what may follow a value -/

def Ends (rest : List Char) : Prop :=
  ∀ c ∈ rest.head?, c = ',' ∨ c = ']' ∨ c = '}' ∨ isBlank c = true

theorem Ends.cases {rest : List Char} (h : Ends rest) :
    rest = [] ∨ ∃ c r, rest = c :: r ∧ c.isDigit = false ∧
      (c = ',' ∨ c = ']' ∨ c = '}' ∨ isBlank c = true) := by
  rcases rest with _ | ⟨c, r⟩
  · exact .inl rfl
  · refine .inr ⟨c, r, rfl, ?_, h c rfl⟩
    have hc := h c rfl
    simp only [isBlank, Bool.or_eq_true, beq_iff_eq] at hc
    rcases hc with rfl | rfl | rfl | ((rfl | rfl) | rfl) | rfl <;> decide

theorem ends_nil : Ends [] := by
  intro c hc
  cases hc

theorem ends_blanks {pre : List Char} (hPre : ∀ c ∈ pre, isBlank c = true) {c : Char}
    (hc : c = ',' ∨ c = ']' ∨ c = '}') (r : List Char) : Ends (pre ++ c :: r) := by
  intro d hd
  cases pre with
  | nil =>
    obtain rfl := Option.some.inj hd
    rcases hc with h | h | h <;> simp [h]
  | cons b bs =>
    obtain rfl := Option.some.inj hd
    exact .inr (.inr (.inr (hPre b List.mem_cons_self)))

theorem ends_cons {c : Char} (hc : c = ',' ∨ c = ']' ∨ c = '}') (r : List Char) :
    Ends (c :: r) := by
  intro d hd
  obtain rfl := Option.some.inj hd
  rcases hc with h | h | h <;> simp [h]

theorem dropWhile_blanks {pre : List Char} (hPre : ∀ c ∈ pre, isBlank c = true) {c : Char}
    (hc : isBlank c = false) (cs : List Char) : (pre ++ c :: cs).dropWhile isBlank = c :: cs := by
  rw [List.dropWhile_append_of_pos hPre, List.dropWhile_cons_of_neg (by simp [hc])]

theorem isBlank_of_isDigit {c : Char} (h : c.isDigit = true) : isBlank c = false := by
  cases hb : isBlank c
  · rfl
  · simp only [isBlank, Bool.or_eq_true, beq_iff_eq] at hb
    rcases hb with ((rfl | rfl) | rfl) | rfl <;> simp at h

def isPlainChar (c : Char) : Bool :=
  c == '\n' || (0x20 ≤ c.toNat && c.toNat < 0x7f)

/-- What a text written at `depth` is: it starts with a character that is no blank and closes
no container, it is made of plain characters, and reading it, after any blanks and with fuel
at least its length, gives back `w` and stops where the text ends. -/
structure ReadsBack (depth : Nat) (text : List Char) (w : Value) : Prop where
  head : ∃ c cs, text = c :: cs ∧ isBlank c = false ∧ c ≠ ']' ∧ c ≠ '}'
  plain : ∀ c ∈ text, isPlainChar c = true
  reads : ∀ fuel pre rest, text.length ≤ fuel → (∀ c ∈ pre, isBlank c = true) → Ends rest →
    readValue fuel depth (pre ++ text ++ rest) = .ok (w, rest)

theorem exists_succ_of_length_le {text : List Char} {fuel : Nat} (hText : text ≠ [])
    (h : text.length ≤ fuel) : ∃ f, fuel = f + 1 := by
  have := List.length_pos_iff.2 hText
  exact ⟨fuel - 1, by omega⟩

/-! ## Scalars -/

theorem readsBack_null (depth : Nat) (layout : Layout) (level : Nat) :
    ReadsBack depth (writeAt layout level .null).toList .null := by
  have hText : (writeAt layout level .null).toList = ['n', 'u', 'l', 'l'] := by
    rw [writeAt]
    simp
  rw [hText]
  refine ⟨⟨'n', _, rfl, by decide, by decide, by decide⟩, by simp [isPlainChar], ?_⟩
  intro fuel pre rest hFuel hPre _
  obtain ⟨f, rfl⟩ := exists_succ_of_length_le (List.cons_ne_nil _ _) hFuel
  have h := dropWhile_blanks hPre (show isBlank 'n' = false by decide) ('u' :: 'l' :: 'l' :: rest)
  rw [readValue.eq_def]
  simp only [List.append_assoc, List.cons_append, List.nil_append, h]

theorem readsBack_bool (depth : Nat) (layout : Layout) (level : Nat) (b : Bool) :
    ReadsBack depth (writeAt layout level (.bool b)).toList (.bool b) := by
  cases b with
  | true =>
    have hText : (writeAt layout level (.bool true)).toList = ['t', 'r', 'u', 'e'] := by
      rw [writeAt]
      simp
    rw [hText]
    refine ⟨⟨'t', _, rfl, by decide, by decide, by decide⟩, by simp [isPlainChar], ?_⟩
    intro fuel pre rest hFuel hPre _
    obtain ⟨f, rfl⟩ := exists_succ_of_length_le (List.cons_ne_nil _ _) hFuel
    have h := dropWhile_blanks hPre (show isBlank 't' = false by decide) ('r' :: 'u' :: 'e' :: rest)
    rw [readValue.eq_def]
    simp only [List.append_assoc, List.cons_append, List.nil_append, h]
  | false =>
    have hText : (writeAt layout level (.bool false)).toList = ['f', 'a', 'l', 's', 'e'] := by
      rw [writeAt]
      simp
    rw [hText]
    refine ⟨⟨'f', _, rfl, by decide, by decide, by decide⟩, by simp [isPlainChar], ?_⟩
    intro fuel pre rest hFuel hPre _
    obtain ⟨f, rfl⟩ := exists_succ_of_length_le (List.cons_ne_nil _ _) hFuel
    have h := dropWhile_blanks hPre (show isBlank 'f' = false by decide) ('a' :: 'l' :: 's' :: 'e' :: rest)
    rw [readValue.eq_def]
    simp only [List.append_assoc, List.cons_append, List.nil_append, h]

theorem escapeChar_plain (x : Char) : ∀ c ∈ (escapeChar x).toList, isPlainChar c = true := by
  have hUnit : ∀ n, n < 0x10000 → ∀ c ∈ unitEscape n, isPlainChar c = true := by
    intro n hn c hc
    have hDigit : ∀ k, k < 16 → isPlainChar (Nat.digitChar k) = true := by decide
    rw [unitEscape, hex4Text_toList hn] at hc
    simp only [List.mem_cons, List.not_mem_nil, or_false] at hc
    rcases hc with rfl | rfl | rfl | rfl | rfl | rfl
    · decide
    · decide
    all_goals exact hDigit _ (by omega)
  rcases escapeChar_cases x with ⟨e, hEsc, -, hE⟩ | ⟨hEsc, -, -, hLo, hHi⟩ | ⟨hLt, hEsc⟩ |
    ⟨hBig, hCode, hEsc⟩
  · have he : isPlainChar e = true := by
      revert hE
      unfold escaped
      split <;> intro h <;> first | decide | cases h
    rw [hEsc]
    intro c hc
    simp only [List.mem_cons, List.not_mem_nil, or_false] at hc
    rcases hc with rfl | rfl
    · decide
    · exact he
  · rw [hEsc]
    intro c hc
    simp only [List.mem_cons, List.not_mem_nil, or_false] at hc
    subst hc
    simp [isPlainChar, hLo, hHi]
  · rw [hEsc]
    exact hUnit _ hLt
  · have := toNat_valid x
    rw [hEsc]
    intro c hc
    rcases List.mem_append.1 hc with hc | hc
    · exact hUnit _ (by omega) c hc
    · exact hUnit _ (by omega) c hc

theorem readValue_quote {fuel depth : Nat} {cs rest : List Char}
    (h : cs.dropWhile isBlank = '"' :: rest) :
    readValue (fuel + 1) depth cs = (stringOr (readString [] rest)).map fun p => (.str p.1, p.2) := by
  rw [readValue.eq_def]
  simp only [h]

theorem readsBack_quote (depth : Nat) (s : String) :
    ReadsBack depth (quote s).toList (.str (joinText s)) where
  head := ⟨'"', _, quote_toList s, by decide, by decide, by decide⟩
  plain c hc := by
    rw [quote_toList] at hc
    rcases List.mem_cons.1 hc with rfl | hc
    · decide
    rcases List.mem_append.1 hc with hc | hc
    · obtain ⟨x, -, hx⟩ := List.mem_flatMap.1 hc
      exact escapeChar_plain x c hx
    · rw [List.mem_singleton.1 hc]
      decide
  reads fuel pre rest hFuel hPre _ := by
    obtain ⟨f, rfl⟩ := exists_succ_of_length_le (by simp [quote_toList]) hFuel
    rw [quote_toList]
    simp only [List.append_assoc, List.cons_append, List.nil_append]
    rw [readValue_quote (dropWhile_blanks hPre (show isBlank '"' = false by decide) _),
      readString_escapes]
    rfl

/-! ## Integers -/

theorem digitsValue_eq_ofDigitChars (ds : List Char) :
    digitsValue ds = Nat.ofDigitChars 10 ds 0 := by
  simp only [digitsValue, Nat.ofDigitChars, Nat.mul_comm]

theorem toDigits_head_ne_zero {m : Nat} (hm : m ≠ 0) : (Nat.toDigits 10 m).head? ≠ some '0' := by
  induction m using Nat.strong_induction_on with
  | _ m ih =>
    rw [Nat.toDigits_eq_if (by decide)]
    split
    · have h : ∀ k, k < 10 → Nat.digitChar k = '0' → k = 0 := by decide
      simpa using fun hk => hm (h m ‹_› hk)
    · have hNe : Nat.toDigits 10 (m / 10) ≠ [] := Nat.toDigits_ne_nil
      rw [List.head?_append_of_ne_nil _ hNe]
      exact ih (m / 10) (by omega) (by omega)

theorem readNumber_toDigits (negative : Bool) (m : Nat) (rest : List Char)
    (hm : (Nat.toDigits 10 m).length ≤ maxTextDigits) (hrest : Ends rest) :
    readNumber negative (Nat.toDigits 10 m ++ rest) =
      .ok (.int (if negative then -(m : Int) else m), rest) := by
  have hDigit : ∀ c ∈ Nat.toDigits 10 m, c.isDigit = true :=
    fun c hc => Nat.isDigit_of_mem_toDigits (by decide) (by decide) hc
  have hLead : ((Nat.toDigits 10 m).isEmpty ||
      (decide ((Nat.toDigits 10 m).length > 1) && (Nat.toDigits 10 m).head? == some '0')) =
        false := by
    rcases Nat.eq_zero_or_pos m with rfl | hPos
    · decide
    · simp [Nat.toDigits_ne_nil, toDigits_head_ne_zero (Nat.pos_iff_ne_zero.1 hPos)]
  have hValue : digitsValue (Nat.toDigits 10 m) = m := by
    rw [digitsValue_eq_ofDigitChars, Nat.ofDigitChars_ten_toDigits]
  have hRest : rest.takeWhile Char.isDigit = [] ∧ rest.dropWhile Char.isDigit = rest := by
    rcases hrest.cases with rfl | ⟨c, r, rfl, hc, -⟩ <;> simp [*]
  have hTake : (Nat.toDigits 10 m ++ rest).takeWhile Char.isDigit = Nat.toDigits 10 m := by
    rw [List.takeWhile_append_of_pos hDigit, hRest.1, List.append_nil]
  have hDrop : (Nat.toDigits 10 m ++ rest).dropWhile Char.isDigit = rest := by
    rw [List.dropWhile_append_of_pos hDigit, hRest.2]
  unfold readNumber
  simp only [hTake, hDrop, hLead, Bool.false_eq_true, if_false]
  rcases hrest.cases with rfl | ⟨c, r, rfl, -, hc⟩
  · simp [hValue, Nat.not_lt.2 hm]
  · simp only [isBlank, Bool.or_eq_true, beq_iff_eq] at hc
    rcases hc with rfl | rfl | rfl | ((rfl | rfl) | rfl) | rfl <;> simp [hValue, Nat.not_lt.2 hm]

theorem readValue_digit {fuel depth : Nat} {cs r : List Char} {c : Char}
    (h : cs.dropWhile isBlank = c :: r) (hc : c.isDigit = true) :
    readValue (fuel + 1) depth cs = readNumber false (c :: r) := by
  rw [readValue.eq_def]
  simp only [h]
  split <;> simp_all

theorem readValue_minus {fuel depth : Nat} {cs r : List Char} {c : Char}
    (h : cs.dropWhile isBlank = '-' :: c :: r) (hc : c.isDigit = true) :
    readValue (fuel + 1) depth cs = readNumber true (c :: r) := by
  rw [readValue.eq_def]
  simp only [h]
  split <;> first | rfl | (simp_all; done) | grind

theorem toString_ofNat_toList (m : Nat) : (toString (Int.ofNat m)).toList = Nat.toDigits 10 m :=
  Nat.toList_repr

theorem toString_negSucc_toList (m : Nat) :
    (toString (Int.negSucc m)).toList = '-' :: Nat.toDigits 10 (m + 1) := by
  show ("-" ++ Nat.repr (m + 1)).toList = _
  simp [Nat.toList_repr]

theorem readsBack_int (depth : Nat) (n : Int)
    (hDigits : (Nat.toDigits 10 n.natAbs).length ≤ maxTextDigits) :
    ReadsBack depth (toString n).toList (.int n) := by
  have hDigitPlain : ∀ m, ∀ c ∈ Nat.toDigits 10 m, isPlainChar c = true := by
    intro m c hc
    have hd := Nat.isDigit_of_mem_toDigits (by decide) (by decide) hc
    simp only [Char.isDigit, Bool.and_eq_true, decide_eq_true_eq] at hd
    simp only [isPlainChar, Bool.or_eq_true, beq_iff_eq, Bool.and_eq_true, decide_eq_true_eq]
    exact .inr ⟨le_trans (by decide) hd.1, lt_of_le_of_lt hd.2 (by decide)⟩
  cases n with
  | ofNat m =>
    rw [toString_ofNat_toList]
    obtain ⟨d, ds, hds⟩ :=
      List.exists_cons_of_ne_nil (Nat.toDigits_ne_nil : Nat.toDigits 10 m ≠ [])
    have hd : d.isDigit = true := Nat.isDigit_of_mem_toDigits (by decide : 0 < 10) (by decide)
      (hds ▸ List.mem_cons_self : d ∈ Nat.toDigits 10 m)
    refine ⟨⟨d, ds, hds, isBlank_of_isDigit hd, ?_, ?_⟩, hDigitPlain m, ?_⟩
    · rintro rfl
      simp at hd
    · rintro rfl
      simp at hd
    · intro fuel pre rest hFuel hPre hRest
      obtain ⟨f, rfl⟩ := exists_succ_of_length_le (Nat.toDigits_ne_nil) hFuel
      have hRead := readNumber_toDigits false m rest hDigits hRest
      rw [hds, List.cons_append] at hRead
      rw [hds, List.append_assoc, List.cons_append,
        readValue_digit (dropWhile_blanks hPre (isBlank_of_isDigit hd) _) hd, hRead]
      rfl
  | negSucc m =>
    rw [toString_negSucc_toList]
    obtain ⟨d, ds, hds⟩ :=
      List.exists_cons_of_ne_nil (Nat.toDigits_ne_nil : Nat.toDigits 10 (m + 1) ≠ [])
    have hd : d.isDigit = true := Nat.isDigit_of_mem_toDigits (by decide : 0 < 10) (by decide)
      (hds ▸ List.mem_cons_self : d ∈ Nat.toDigits 10 (m + 1))
    refine ⟨⟨'-', _, rfl, by decide, by decide, by decide⟩, ?_, ?_⟩
    · intro c hc
      rcases List.mem_cons.1 hc with rfl | hc
      · decide
      · exact hDigitPlain _ c hc
    · intro fuel pre rest hFuel hPre hRest
      obtain ⟨f, rfl⟩ := exists_succ_of_length_le (List.cons_ne_nil _ _) hFuel
      have hRead := readNumber_toDigits true (m + 1) rest hDigits hRest
      rw [hds, List.cons_append] at hRead
      rw [hds, List.append_assoc, List.cons_append, List.cons_append,
        readValue_minus (dropWhile_blanks hPre (show isBlank '-' = false by decide) _) hd, hRead]
      rfl

/-! ## Containers -/

/-- The blanks after the opening bracket of a container written at `level`. -/
def Layout.opening : Layout → Nat → String
  | .oneLine, _ => ""
  | .indented step, level => "\n" ++ String.ofList (List.replicate (step * (level + 1)) ' ')

/-- The blanks after each comma between two parts of a container written at `level`. -/
def Layout.between : Layout → Nat → String
  | .oneLine, _ => " "
  | .indented step, level => "\n" ++ String.ofList (List.replicate (step * (level + 1)) ' ')

/-- The blanks before the closing bracket of a container written at `level`. -/
def Layout.closing : Layout → Nat → String
  | .oneLine, _ => ""
  | .indented step, level => "\n" ++ String.ofList (List.replicate (step * level) ' ')

theorem Layout.gaps_spaces (layout : Layout) (level : Nat) :
    ∀ c ∈ (layout.opening level).toList ++ (layout.between level).toList ++
      (layout.closing level).toList, c = ' ' ∨ c = '\n' := by
  intro c hc
  cases layout <;>
    simp only [Layout.opening, Layout.between, Layout.closing, String.toList_append,
      String.toList_ofList, List.mem_append, List.mem_replicate] at hc <;>
    simp at hc <;> tauto

theorem space_blank_plain {c : Char} (h : c = ' ' ∨ c = '\n') :
    isBlank c = true ∧ isPlainChar c = true := by
  rcases h with rfl | rfl <;> decide

theorem writeAt_list_nil (layout : Layout) (level : Nat) :
    (writeAt layout level (.list [])).toList = ['[', ']'] := by
  rw [writeAt]
  simp

theorem writeAt_list (layout : Layout) (level : Nat) (x : Value) (xs : List Value) :
    (writeAt layout level (.list (x :: xs))).toList = '[' :: (layout.opening level).toList ++
      (',' :: (layout.between level).toList).intercalate
        ((x :: xs).map fun v => (writeAt layout (level + 1) v).toList) ++
      (layout.closing level).toList ++ [']'] := by
  have h : writeAt layout level (.list (x :: xs)) = "[" ++ layout.opening level ++
      ("," ++ layout.between level).intercalate ((x :: xs).map (writeAt layout (level + 1))) ++
        layout.closing level ++ "]" := by
    rw [writeAt.eq_def]
    cases layout <;> simp [Layout.opening, Layout.between, Layout.closing]
  rw [h]
  simp [String.toList_intercalate, List.map_map, Function.comp_def]

theorem writeAt_dict_nil (layout : Layout) (level : Nat) :
    (writeAt layout level (.dict [])).toList = ['{', '}'] := by
  rw [writeAt]
  simp

def entryText (t : String × List Char) : List Char :=
  (quote t.1).toList ++ ':' :: ' ' :: t.2

theorem writeAt_dict (layout : Layout) (level : Nat) (e : Value × Value)
    (es : List (Value × Value)) :
    (writeAt layout level (.dict (e :: es))).toList = '{' :: (layout.opening level).toList ++
      (',' :: (layout.between level).toList).intercalate (((e :: es).map fun p =>
        (keyText p.1, (writeAt layout (level + 1) p.2).toList)).map entryText) ++
      (layout.closing level).toList ++ ['}'] := by
  have h : writeAt layout level (.dict (e :: es)) = "\x7b" ++ layout.opening level ++
      ("," ++ layout.between level).intercalate ((e :: es).map fun p =>
        quote (keyText p.1) ++ ": " ++ writeAt layout (level + 1) p.2) ++
        layout.closing level ++ "\x7d" := by
    rw [writeAt.eq_def]
    cases layout <;> simp [Layout.opening, Layout.between, Layout.closing, List.map_attach_eq_pmap]
  have hOpen : ("\x7b" : String).toList = ['{'] := by simp
  have hClose : ("\x7d" : String).toList = ['}'] := by simp
  have hComma : ("," : String).toList = [','] := by simp
  have hColon : (": " : String).toList = [':', ' '] := by simp
  rw [h]
  simp only [String.toList_append, String.toList_intercalate, List.map_map, Function.comp_def,
    entryText, hOpen, hClose, hComma, hColon, List.cons_append, List.nil_append,
    List.append_assoc]

theorem forall_mem_intercalate {P : Char → Prop} {sep : List Char} (hSep : ∀ c ∈ sep, P c) :
    ∀ parts : List (List Char), (∀ l ∈ parts, ∀ c ∈ l, P c) → ∀ c ∈ sep.intercalate parts, P c
  | [], _ => by simp
  | [l], h => by simpa using h l List.mem_cons_self
  | l :: l' :: ls, h => by
    rw [List.intercalate_cons_cons]
    intro c hc
    rcases List.mem_append.1 hc with hc | hc
    · rcases List.mem_append.1 hc with hc | hc
      · exact h l List.mem_cons_self c hc
      · exact hSep c hc
    · exact forall_mem_intercalate hSep (l' :: ls)
        (fun m hm => h m (List.mem_cons_of_mem _ hm)) c hc

theorem readValue_emptyList {fuel depth : Nat} {cs rest rest' : List Char}
    (h : cs.dropWhile isBlank = '[' :: rest) (hRoom : depth < maxNesting)
    (hClose : rest.dropWhile isBlank = ']' :: rest') :
    readValue (fuel + 1) depth cs = .ok (.list [], rest') := by
  rw [readValue.eq_def]
  simp only [h]
  rw [if_neg (by omega), hClose]
  rfl

theorem readValue_items {fuel depth : Nat} {cs rest : List Char}
    (h : cs.dropWhile isBlank = '[' :: rest) (hRoom : depth < maxNesting)
    (hItem : ∀ r, rest.dropWhile isBlank ≠ ']' :: r) :
    readValue (fuel + 1) depth cs = readItems fuel (depth + 1) [] (rest.dropWhile isBlank) := by
  rw [readValue.eq_def]
  simp only [h]
  rw [if_neg (by omega)]

theorem readValue_emptyDict {fuel depth : Nat} {cs rest rest' : List Char}
    (h : cs.dropWhile isBlank = '{' :: rest) (hRoom : depth < maxNesting)
    (hClose : rest.dropWhile isBlank = '}' :: rest') :
    readValue (fuel + 1) depth cs = .ok (.dict [], rest') := by
  rw [readValue.eq_def]
  simp only [h]
  rw [if_neg (by omega), hClose]
  rfl

theorem readValue_entries {fuel depth : Nat} {cs rest r : List Char}
    (h : cs.dropWhile isBlank = '{' :: rest) (hRoom : depth < maxNesting)
    (hEntry : rest.dropWhile isBlank = '"' :: r) :
    readValue (fuel + 1) depth cs = readEntries fuel (depth + 1) [] ('"' :: r) := by
  rw [readValue.eq_def]
  simp only [h]
  rw [if_neg (by omega), hEntry]
  rfl

theorem readItems_next {fuel depth : Nat} {acc : List Value} {cs r r' : List Char} {v : Value}
    (hValue : readValue fuel depth cs = .ok (v, r)) (hComma : r.dropWhile isBlank = ',' :: r') :
    readItems (fuel + 1) depth acc cs = readItems fuel depth (v :: acc) r' := by
  rw [readItems.eq_def]
  simp only [hValue, bind, Except.bind, hComma]

theorem readItems_last {fuel depth : Nat} {acc : List Value} {cs r r' : List Char} {v : Value}
    (hValue : readValue fuel depth cs = .ok (v, r)) (hClose : r.dropWhile isBlank = ']' :: r') :
    readItems (fuel + 1) depth acc cs = .ok (.list (v :: acc).reverse, r') := by
  rw [readItems.eq_def]
  simp only [hValue, bind, Except.bind, hClose]

section Entries

variable {fuel depth : Nat} {acc : List (Value × Value)} {cs rest rest' rest'' r r' : List Char}
  {k : String} {v : Value}

theorem readEntries_next (hQuote : cs.dropWhile isBlank = '"' :: rest)
    (hKey : readString [] rest = some (k, rest')) (hColon : rest'.dropWhile isBlank = ':' :: rest'')
    (hValue : readValue fuel depth rest'' = .ok (v, r)) (hComma : r.dropWhile isBlank = ',' :: r') :
    readEntries (fuel + 1) depth acc cs = readEntries fuel depth (Value.store acc (.str k) v) r' := by
  rw [readEntries.eq_def]
  simp only [hQuote, hKey, stringOr, bind, Except.bind, hColon, hValue, hComma]

theorem readEntries_last (hQuote : cs.dropWhile isBlank = '"' :: rest)
    (hKey : readString [] rest = some (k, rest')) (hColon : rest'.dropWhile isBlank = ':' :: rest'')
    (hValue : readValue fuel depth rest'' = .ok (v, r)) (hClose : r.dropWhile isBlank = '}' :: r') :
    readEntries (fuel + 1) depth acc cs = .ok (.dict (Value.store acc (.str k) v), r') := by
  rw [readEntries.eq_def]
  simp only [hQuote, hKey, stringOr, bind, Except.bind, hColon, hValue, hClose]

end Entries

theorem length_intercalate_cons_cons (sep p p' : List Char) (ps : List (List Char)) :
    (sep.intercalate (p :: p' :: ps)).length =
      p.length + sep.length + (sep.intercalate (p' :: ps)).length := by
  rw [List.intercalate_cons_cons, List.length_append, List.length_append]

theorem readItems_parts {depth : Nat} {gap close : List Char}
    (hGap : ∀ c ∈ gap, isBlank c = true) (hClose : ∀ c ∈ close, isBlank c = true)
    {parts : List (List Char)} {values : List Value}
    (hParts : List.Forall₂ (ReadsBack depth) parts values) (hNe : parts ≠ []) :
    ∀ (fuel : Nat) (acc : List Value) (pre rest : List Char),
      ((',' :: gap).intercalate parts).length < fuel → (∀ c ∈ pre, isBlank c = true) →
      readItems fuel depth acc (pre ++ (',' :: gap).intercalate parts ++ close ++ ']' :: rest) =
        .ok (.list (acc.reverse ++ values), rest) := by
  induction hParts with
  | nil => exact absurd rfl hNe
  | @cons p v ps vs hpv hRest ih =>
    intro fuel acc pre rest hFuel hPre
    obtain ⟨f, rfl⟩ : ∃ f, fuel = f + 1 := ⟨fuel - 1, by omega⟩
    cases hRest with
    | nil =>
      rw [List.intercalate_singleton] at hFuel ⊢
      have hValue := hpv.reads f pre (close ++ ']' :: rest) (by omega) hPre
        (ends_blanks hClose (by simp) rest)
      rw [List.append_assoc, List.append_assoc, ← List.append_assoc pre,
        readItems_last hValue (dropWhile_blanks hClose (by decide) rest)]
      simp
    | @cons p' v' ps' vs' hpv' hRest' =>
      rw [length_intercalate_cons_cons] at hFuel
      have hValue := hpv.reads f pre
        ((',' :: gap) ++ ((',' :: gap).intercalate (p' :: ps') ++ (close ++ ']' :: rest)))
        (by omega) hPre (ends_blanks (by simp : ∀ c ∈ ([] : List Char), isBlank c = true)
          (by simp) _)
      simp only [List.append_assoc] at hValue ih
      rw [List.intercalate_cons_cons]
      simp only [List.append_assoc]
      rw [readItems_next hValue (List.dropWhile_cons_of_neg (by decide))]
      show readItems f depth (v :: acc) (gap ++ _) = _
      rw [ih (List.cons_ne_nil _ _) f (v :: acc) gap rest
        (by simp only [List.length_cons] at hFuel; omega) hGap]
      simp

theorem Forall₂.plain {depth : Nat} {parts : List (List Char)} {values : List Value}
    (h : List.Forall₂ (ReadsBack depth) parts values) :
    ∀ p ∈ parts, ∀ c ∈ p, isPlainChar c = true := by
  induction h with
  | nil => simp
  | cons hpv _ ih =>
    intro p hp
    rcases List.mem_cons.1 hp with rfl | hp
    · exact hpv.plain
    · exact ih p hp

theorem intercalate_cons_eq_append (sep p : List Char) (ps : List (List Char)) :
    ∃ tail, sep.intercalate (p :: ps) = p ++ tail := by
  cases ps with
  | nil => exact ⟨[], by simp⟩
  | cons p' ps => exact ⟨_, by rw [List.intercalate_cons_cons, List.append_assoc]⟩

theorem dropWhile_opening {opening body rest : List Char} (hOpen : ∀ c ∈ opening, isBlank c = true)
    {c : Char} {cs : List Char} (hBody : body = c :: cs) (hc : isBlank c = false) :
    (opening ++ body ++ rest).dropWhile isBlank = body ++ rest := by
  rw [List.append_assoc, List.dropWhile_append_of_pos hOpen, hBody, List.cons_append,
    List.dropWhile_cons_of_neg (by simp [hc])]

theorem readsBack_list {depth : Nat} (hRoom : depth < maxNesting) {opening gap closing : List Char}
    (hSpaces : ∀ c ∈ opening ++ gap ++ closing, c = ' ' ∨ c = '\n') {parts : List (List Char)}
    {values : List Value} (hParts : List.Forall₂ (ReadsBack (depth + 1)) parts values)
    (hNe : parts ≠ []) :
    ReadsBack depth ('[' :: opening ++ (',' :: gap).intercalate parts ++ closing ++ [']'])
      (.list values) := by
  have hOpening : ∀ c ∈ opening, isBlank c = true :=
    fun c hc => (space_blank_plain (hSpaces c (by simp [hc]))).1
  have hGap : ∀ c ∈ gap, isBlank c = true :=
    fun c hc => (space_blank_plain (hSpaces c (by simp [hc]))).1
  have hClosing : ∀ c ∈ closing, isBlank c = true :=
    fun c hc => (space_blank_plain (hSpaces c (by simp [hc]))).1
  have hSep : ∀ c ∈ ',' :: gap, isPlainChar c = true := by
    intro c hc
    rcases List.mem_cons.1 hc with rfl | hc
    · decide
    · exact (space_blank_plain (hSpaces c (by simp [hc]))).2
  obtain ⟨p, ps, rfl⟩ := List.exists_cons_of_ne_nil hNe
  obtain ⟨c, cs, hp, hc, hcClose, -⟩ : ∃ c cs, p = c :: cs ∧ isBlank c = false ∧ c ≠ ']' ∧
      c ≠ '}' := by
    cases hParts with
    | cons hpv _ => exact hpv.head
  obtain ⟨tail, hTail⟩ := intercalate_cons_eq_append (',' :: gap) p ps
  refine ⟨⟨'[', _, rfl, by decide, by decide, by decide⟩, ?_, ?_⟩
  · intro d hd
    simp only [List.cons_append, List.mem_cons, List.mem_append, List.not_mem_nil,
      or_false] at hd
    rcases hd with rfl | ((hd | hd) | hd) | rfl
    · decide
    · exact (space_blank_plain (hSpaces d (by simp [hd]))).2
    · exact forall_mem_intercalate hSep _ (Forall₂.plain hParts) d hd
    · exact (space_blank_plain (hSpaces d (by simp [hd]))).2
    · decide
  · intro fuel pre rest hFuel hPre _
    obtain ⟨f, rfl⟩ := exists_succ_of_length_le (List.cons_ne_nil _ _) hFuel
    have hText : pre ++ ('[' :: opening ++ (',' :: gap).intercalate (p :: ps) ++ closing ++
        [']']) ++ rest = pre ++ '[' :: (opening ++ (',' :: gap).intercalate (p :: ps) ++
          (closing ++ ']' :: rest)) := by
      simp
    have hFirst : (opening ++ (',' :: gap).intercalate (p :: ps) ++
        (closing ++ ']' :: rest)).dropWhile isBlank =
          (',' :: gap).intercalate (p :: ps) ++ (closing ++ ']' :: rest) :=
      dropWhile_opening hOpening (hTail.trans (by rw [hp, List.cons_append])) hc
    have hItems : readItems f (depth + 1) [] ([] ++ (',' :: gap).intercalate (p :: ps) ++
        closing ++ ']' :: rest) = .ok (.list ([].reverse ++ values), rest) :=
      readItems_parts hGap hClosing hParts (List.cons_ne_nil _ _) f [] [] rest
        (by simp at hFuel; omega) (by simp)
    rw [hText, readValue_items (dropWhile_blanks hPre (show isBlank '[' = false by decide) _) hRoom
      (by rw [hFirst, hTail, hp]; simp [hcClose]), hFirst]
    simpa using hItems

/-- One entry of a mapping, written as the text of its key and the text of its value, reads
back as the entry `e`: the key as the text the key's text reads back as, and the value as what
the value's text reads back as. -/
def EntryReadsBack (depth : Nat) (t : String × List Char) (e : Value × Value) : Prop :=
  e.1 = .str (joinText t.1) ∧ ReadsBack depth t.2 e.2

theorem store_fresh {acc : List (Value × Value)} {k : String} (v : Value)
    (h : .str k ∉ acc.map Prod.fst) : Value.store acc (.str k) v = acc ++ [(.str k, v)] := by
  have hNone : (acc.any fun e => Value.sameKey e.1 (.str k)) = false := by
    rw [List.any_eq_false]
    intro e he hSame
    rw [Value.sameKey_str_iff] at hSame
    exact h (List.mem_map.2 ⟨e, he, hSame⟩)
  simp [Value.store, hNone]

theorem entryText_reads {depth : Nat} {t : String × List Char} {e : Value × Value}
    (ht : EntryReadsBack depth t e) {pre after : List Char} (hPre : ∀ c ∈ pre, isBlank c = true)
    (hAfter : Ends after) (f : Nat) (hFuel : t.2.length ≤ f) :
    ∃ rest rest' rest'', (pre ++ entryText t ++ after).dropWhile isBlank = '"' :: rest ∧
      readString [] rest = some (joinText t.1, rest') ∧
      rest'.dropWhile isBlank = ':' :: rest'' ∧ readValue f depth rest'' = .ok (e.2, after) := by
  have hText : pre ++ entryText t ++ after = pre ++ '"' ::
      ((t.1.toList.flatMap fun c => (escapeChar c).toList) ++ '"' :: ':' :: ' ' :: (t.2 ++ after)) := by
    simp [entryText, quote_toList]
  have hValue := ht.2.reads f [' '] after hFuel (by simp [isBlank]) hAfter
  refine ⟨_, _, _, by rw [hText, dropWhile_blanks hPre (show isBlank '"' = false by decide)],
    by rw [readString_escapes]; rfl, List.dropWhile_cons_of_neg (by decide), ?_⟩
  simpa using hValue

theorem length_entryText (t : String × List Char) : t.2.length + 2 ≤ (entryText t).length := by
  simp [entryText]

theorem readEntries_parts {depth : Nat} {gap close : List Char}
    (hGap : ∀ c ∈ gap, isBlank c = true) (hClose : ∀ c ∈ close, isBlank c = true)
    {texts : List (String × List Char)} {entries : List (Value × Value)}
    (hTexts : List.Forall₂ (EntryReadsBack depth) texts entries) (hNe : texts ≠ []) :
    ∀ (fuel : Nat) (acc : List (Value × Value)) (pre rest : List Char),
      ((acc ++ entries).map Prod.fst).Nodup →
      ((',' :: gap).intercalate (texts.map entryText)).length < fuel →
      (∀ c ∈ pre, isBlank c = true) →
      readEntries fuel depth acc
          (pre ++ (',' :: gap).intercalate (texts.map entryText) ++ close ++ '}' :: rest) =
        .ok (.dict (acc ++ entries), rest) := by
  induction hTexts with
  | nil => exact absurd rfl hNe
  | @cons t e ts es ht hRest ih =>
    intro fuel acc pre rest hKeys hFuel hPre
    obtain ⟨f, rfl⟩ : ∃ f, fuel = f + 1 := ⟨fuel - 1, by omega⟩
    have hFresh : .str (joinText t.1) ∉ acc.map Prod.fst := by
      rw [List.map_append, List.map_cons, List.nodup_append] at hKeys
      intro hMem
      exact hKeys.2.2 _ hMem _ List.mem_cons_self (by rw [ht.1])
    have hStore : Value.store acc (.str (joinText t.1)) e.2 = acc ++ [e] := by
      rw [store_fresh e.2 hFresh, ← ht.1]
    have hLength := length_entryText t
    cases hRest with
    | nil =>
      simp only [List.map_cons, List.map_nil, List.intercalate_singleton] at hFuel ⊢
      obtain ⟨r, r', r'', h1, h2, h3, h4⟩ := entryText_reads ht hPre
        (ends_blanks hClose (show '}' = ',' ∨ '}' = ']' ∨ '}' = '}' by simp) rest) f (by omega)
      rw [List.append_assoc, readEntries_last h1 h2 h3 h4 (dropWhile_blanks hClose (by decide) rest),
        hStore]
    | @cons t' e' ts' es' ht' hRest' =>
      simp only [List.map_cons] at hFuel ⊢
      rw [length_intercalate_cons_cons] at hFuel
      obtain ⟨r, r', r'', h1, h2, h3, h4⟩ := entryText_reads ht hPre
        (ends_cons (show ',' = ',' ∨ ',' = ']' ∨ ',' = '}' by simp)
          ((gap ++ (',' :: gap).intercalate (entryText t' :: ts'.map entryText)) ++
            (close ++ '}' :: rest))) f
        (by simp only [List.length_cons] at hFuel; omega)
      rw [List.intercalate_cons_cons]
      have hSplit : pre ++ (entryText t ++ (',' :: gap) ++
          (',' :: gap).intercalate (entryText t' :: ts'.map entryText)) ++ close ++ '}' :: rest =
          pre ++ entryText t ++ (',' :: ((gap ++ (',' :: gap).intercalate
            (entryText t' :: ts'.map entryText)) ++ (close ++ '}' :: rest))) := by
        simp
      rw [hSplit, readEntries_next h1 h2 h3 h4 (List.dropWhile_cons_of_neg (by decide)), hStore]
      have hKeys' : (((acc ++ [e]) ++ e' :: es').map Prod.fst).Nodup := by
        simpa using hKeys
      have hRest := ih (List.cons_ne_nil _ _) f (acc ++ [e]) gap rest hKeys'
        (by simp only [List.length_cons, List.map_cons] at hFuel ⊢; omega) hGap
      simp only [List.map_cons, List.append_assoc] at hRest
      rw [List.append_assoc, hRest]
      simp

theorem EntryReadsBack.plain {depth : Nat} {texts : List (String × List Char)}
    {entries : List (Value × Value)} (h : List.Forall₂ (EntryReadsBack depth) texts entries) :
    ∀ p ∈ texts.map entryText, ∀ c ∈ p, isPlainChar c = true := by
  induction h with
  | nil => simp
  | @cons t e ts es ht _ ih =>
    intro p hp c hc
    rcases List.mem_cons.1 hp with rfl | hp
    · simp only [entryText, List.mem_append, List.mem_cons] at hc
      rcases hc with hc | rfl | rfl | hc
      · exact (readsBack_quote 0 t.1).plain c hc
      · decide
      · decide
      · exact ht.2.plain c hc
    · exact ih p hp c hc

theorem readsBack_dict {depth : Nat} (hRoom : depth < maxNesting) {opening gap closing : List Char}
    (hSpaces : ∀ c ∈ opening ++ gap ++ closing, c = ' ' ∨ c = '\n')
    {texts : List (String × List Char)} {entries : List (Value × Value)}
    (hTexts : List.Forall₂ (EntryReadsBack (depth + 1)) texts entries) (hNe : texts ≠ [])
    (hKeys : (entries.map Prod.fst).Nodup) :
    ReadsBack depth ('{' :: opening ++ (',' :: gap).intercalate (texts.map entryText) ++
      closing ++ ['}']) (.dict entries) := by
  have hOpening : ∀ c ∈ opening, isBlank c = true :=
    fun c hc => (space_blank_plain (hSpaces c (by simp [hc]))).1
  have hGap : ∀ c ∈ gap, isBlank c = true :=
    fun c hc => (space_blank_plain (hSpaces c (by simp [hc]))).1
  have hClosing : ∀ c ∈ closing, isBlank c = true :=
    fun c hc => (space_blank_plain (hSpaces c (by simp [hc]))).1
  have hSep : ∀ c ∈ ',' :: gap, isPlainChar c = true := by
    intro c hc
    rcases List.mem_cons.1 hc with rfl | hc
    · decide
    · exact (space_blank_plain (hSpaces c (by simp [hc]))).2
  obtain ⟨t, ts, rfl⟩ := List.exists_cons_of_ne_nil hNe
  obtain ⟨tail, hTail⟩ := intercalate_cons_eq_append (',' :: gap) (entryText t) (ts.map entryText)
  have hFirst : entryText t = '"' :: ((t.1.toList.flatMap fun c => (escapeChar c).toList) ++
      '"' :: ':' :: ' ' :: t.2) := by
    simp [entryText, quote_toList]
  refine ⟨⟨'{', _, rfl, by decide, by decide, by decide⟩, ?_, ?_⟩
  · intro d hd
    simp only [List.cons_append, List.mem_cons, List.mem_append, List.not_mem_nil,
      or_false] at hd
    rcases hd with rfl | ((hd | hd) | hd) | rfl
    · decide
    · exact (space_blank_plain (hSpaces d (by simp [hd]))).2
    · exact forall_mem_intercalate hSep _ (EntryReadsBack.plain hTexts) d hd
    · exact (space_blank_plain (hSpaces d (by simp [hd]))).2
    · decide
  · intro fuel pre rest hFuel hPre _
    obtain ⟨f, rfl⟩ := exists_succ_of_length_le (List.cons_ne_nil _ _) hFuel
    have hText : pre ++ ('{' :: opening ++ (',' :: gap).intercalate ((t :: ts).map entryText) ++
        closing ++ ['}']) ++ rest = pre ++ '{' :: (opening ++
          (',' :: gap).intercalate ((t :: ts).map entryText) ++ (closing ++ '}' :: rest)) := by
      simp
    have hOpen : (opening ++ (',' :: gap).intercalate ((t :: ts).map entryText) ++
        (closing ++ '}' :: rest)).dropWhile isBlank =
          (',' :: gap).intercalate ((t :: ts).map entryText) ++ (closing ++ '}' :: rest) :=
      dropWhile_opening hOpening (hTail.trans (by rw [hFirst, List.cons_append]))
        (show isBlank '"' = false by decide)
    have hEntries : readEntries f (depth + 1) [] ([] ++
        (',' :: gap).intercalate ((t :: ts).map entryText) ++ closing ++ '}' :: rest) =
          .ok (.dict ([] ++ entries), rest) :=
      readEntries_parts hGap hClosing hTexts (List.cons_ne_nil _ _) f [] [] rest (by simpa using hKeys)
        (by simp at hFuel ⊢; omega) (by simp)
    have hQuote : (',' :: gap).intercalate ((t :: ts).map entryText) ++ (closing ++ '}' :: rest) =
        '"' :: ((t.1.toList.flatMap fun c => (escapeChar c).toList) ++ '"' :: ':' :: ' ' :: t.2 ++
          tail ++ (closing ++ '}' :: rest)) := by
      rw [List.map_cons, hTail, hFirst]
      simp
    rw [hText, readValue_entries (dropWhile_blanks hPre (show isBlank '{' = false by decide) _) hRoom
      (hOpen.trans hQuote), ← hQuote]
    simpa using hEntries

theorem readsBack_emptyList {depth : Nat} (hRoom : depth < maxNesting) :
    ReadsBack depth ['[', ']'] (.list []) := by
  refine ⟨⟨'[', _, rfl, by decide, by decide, by decide⟩, by simp [isPlainChar], ?_⟩
  intro fuel pre rest hFuel hPre _
  obtain ⟨f, rfl⟩ := exists_succ_of_length_le (List.cons_ne_nil _ _) hFuel
  have hText : pre ++ ['[', ']'] ++ rest = pre ++ '[' :: ']' :: rest := by simp
  rw [hText, readValue_emptyList (dropWhile_blanks hPre (show isBlank '[' = false by decide) _)
    hRoom (List.dropWhile_cons_of_neg (by decide))]

theorem readsBack_emptyDict {depth : Nat} (hRoom : depth < maxNesting) :
    ReadsBack depth ['{', '}'] (.dict []) := by
  refine ⟨⟨'{', _, rfl, by decide, by decide, by decide⟩, by simp [isPlainChar], ?_⟩
  intro fuel pre rest hFuel hPre _
  obtain ⟨f, rfl⟩ := exists_succ_of_length_le (List.cons_ne_nil _ _) hFuel
  have hText : pre ++ ['{', '}'] ++ rest = pre ++ '{' :: '}' :: rest := by simp
  rw [hText, readValue_emptyDict (dropWhile_blanks hPre (show isBlank '{' = false by decide) _)
    hRoom (List.dropWhile_cons_of_neg (by decide))]

/-! ## Every readable value -/

/-- The value a written value reads back as: texts with their split pairs joined, keys as the
texts they are written by, everything else as it was. -/
def readBack : Value → Value
  | .str s => .str (joinText s)
  | .list items => .list (items.attach.map fun ⟨v, _⟩ => readBack v)
  | .dict entries =>
    .dict (entries.attach.map fun ⟨(k, v), _⟩ => (.str (joinText (keyText k)), readBack v))
  | v => v
termination_by v => sizeOf v
decreasing_by
  all_goals simp_wf
  · have := List.sizeOf_lt_of_mem ‹_›
    omega
  · have h := List.sizeOf_lt_of_mem ‹_›
    simp at h
    omega

theorem readBack_null : readBack .null = .null := by
  rw [readBack] <;> simp

theorem readBack_bool (b : Bool) : readBack (.bool b) = .bool b := by
  rw [readBack] <;> simp

theorem readBack_int (n : Int) : readBack (.int n) = .int n := by
  rw [readBack] <;> simp

theorem readBack_str (s : String) : readBack (.str s) = .str (joinText s) := by
  rw [readBack]

theorem readBack_list (items : List Value) : readBack (.list items) = .list (items.map readBack) := by
  rw [readBack]
  simp

theorem readBack_dict (entries : List (Value × Value)) :
    readBack (.dict entries) =
      .dict (entries.map fun e => (.str (joinText (keyText e.1)), readBack e.2)) := by
  rw [readBack]
  simp [List.map_attach_eq_pmap]

/-- The values whose written form reads back, standing inside `depth` containers: texts,
integers of at most `maxTextDigits` digits, `null`, the booleans, and lists and mappings inside
fewer than `maxNesting` containers, the keys of a mapping apart once read back. -/
inductive Readable : Nat → Value → Prop
  | null (depth : Nat) : Readable depth .null
  | bool (depth : Nat) (b : Bool) : Readable depth (.bool b)
  | str (depth : Nat) (s : String) : Readable depth (.str s)
  | int (depth : Nat) (n : Int) (digits : (Nat.toDigits 10 n.natAbs).length ≤ maxTextDigits) :
      Readable depth (.int n)
  | list (depth : Nat) (items : List Value) (room : depth < maxNesting)
      (each : ∀ v ∈ items, Readable (depth + 1) v) : Readable depth (.list items)
  | dict (depth : Nat) (entries : List (Value × Value)) (room : depth < maxNesting)
      (apart : (entries.map fun e => joinText (keyText e.1)).Nodup)
      (each : ∀ e ∈ entries, Readable (depth + 1) e.2) : Readable depth (.dict entries)

theorem writeAt_str (layout : Layout) (level : Nat) (s : String) :
    writeAt layout level (.str s) = quote s := by
  rw [writeAt]

theorem writeAt_int (layout : Layout) (level : Nat) (n : Int) :
    writeAt layout level (.int n) = toString n := by
  rw [writeAt]

theorem readsBack_writeAt {depth : Nat} {v : Value} (hv : Readable depth v) (layout : Layout)
    (level : Nat) : ReadsBack depth (writeAt layout level v).toList (readBack v) := by
  induction hv generalizing level with
  | null depth =>
    rw [readBack_null]
    exact readsBack_null depth layout level
  | bool depth b =>
    rw [readBack_bool]
    exact readsBack_bool depth layout level b
  | str depth s =>
    rw [writeAt_str, readBack_str]
    exact readsBack_quote depth s
  | int depth n hDigits =>
    rw [writeAt_int, readBack_int]
    exact readsBack_int depth n hDigits
  | list depth items hRoom _ ih =>
    cases items with
    | nil =>
      rw [writeAt_list_nil, readBack_list]
      exact readsBack_emptyList hRoom
    | cons x xs =>
      rw [writeAt_list, readBack_list]
      refine readsBack_list hRoom (Layout.gaps_spaces layout level) ?_ (by simp)
      rw [List.forall₂_map_left_iff, List.forall₂_map_right_iff, List.forall₂_same]
      exact fun v hv => ih v hv (level + 1)
  | dict depth entries hRoom hApart _ ih =>
    cases entries with
    | nil =>
      rw [writeAt_dict_nil, readBack_dict]
      exact readsBack_emptyDict hRoom
    | cons e es =>
      rw [writeAt_dict, readBack_dict]
      refine readsBack_dict hRoom (Layout.gaps_spaces layout level) ?_ (by simp) ?_
      · rw [List.forall₂_map_left_iff, List.forall₂_map_right_iff, List.forall₂_same]
        exact fun p hp => ⟨rfl, ih p hp (level + 1)⟩
      · have hKeys := hApart.map (fun _ _ h => Value.str.inj h)
        simpa [List.map_map, Function.comp_def] using hKeys

theorem parse_write {v : Value} (hv : Readable 0 v) (layout : Layout) :
    parse (write layout v) = .ok (some (readBack v)) := by
  have hRead := (readsBack_writeAt hv layout 0).reads
    (2 * (writeAt layout 0 v).toList.length + 2) [] [] (by omega) (by simp) ends_nil
  simp only [List.nil_append, List.append_nil] at hRead
  simp only [parse, write, hRead]
  rfl

theorem write_plain {v : Value} (hv : Readable 0 v) (layout : Layout) :
    ∀ c ∈ (write layout v).toList, isPlainChar c = true :=
  (readsBack_writeAt hv layout 0).plain

end Weave.Json
