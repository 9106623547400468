import Weave.Text.Cjk.Multibyte
import Weave.Text.Cjk.Ksc5601

/-! # Korean encodings

* EUC-KR gives KS X 1001 by row and cell in lead and trail from `0xA1`, less `0x80`. The
  Hangul filler `0xA4D4` opens a make-up sequence of eight bytes, four pairs each led by
  `0xA4`: the filler, a leading consonant, a vowel and a trailing consonant (or the filler
  again for none), which together are one syllable.
* Code page 949 gives KS X 1001 the same way and the remaining syllables in its extension.
* Johab packs a syllable into two bytes from `0x84` to `0xD3`: five bits each for the
  leading consonant, the vowel and the trailing consonant, where a filler stands for a
  missing part; a lone consonant or vowel is its compatibility jamo. From `0xD8` it gives
  the rest of KS X 1001, two rows to each lead.
-/

namespace Weave.Cjk

def ksx1001Char? (lead trail : UInt8) : Option Char :=
  ksx1001.get? (lead ^^^ 0x80).toNat (trail ^^^ 0x80).toNat

def syllable (leading vowel trailing : Nat) : Char :=
  Char.ofNat (0xAC00 + leading * 588 + vowel * 28 + trailing)

def makeupLeading : List (Option Nat) :=
  [some 0, some 1, none, some 2, none, none, some 3, some 4, some 5, none, none, none, none,
   none, none, none, some 6, some 7, some 8, none, some 9, some 10, some 11, some 12, some 13,
   some 14, some 15, some 16, some 17, some 18]

def makeupTrailing : List (Option Nat) :=
  [some 1, some 2, some 3, some 4, some 5, some 6, some 7, none, some 8, some 9, some 10,
   some 11, some 12, some 13, some 14, some 15, some 16, some 17, none, some 18, some 19,
   some 20, some 21, some 22, none, some 23, some 24, some 25, some 26, some 27]

def makeupPart (table : List (Option Nat)) (b : UInt8) : Option Nat :=
  if 0xA1 ≤ b && b ≤ 0xBE then (table.getD (b.toNat - 0xA1) none) else none

def makeup (bytes : List UInt8) : Option Char := do
  let b (i : Nat) : UInt8 := bytes.getD i 0
  if b 2 != 0xA4 || b 4 != 0xA4 || b 6 != 0xA4 then none
  let leading ← makeupPart makeupLeading (b 3)
  let vowel ← if 0xBF ≤ b 5 && b 5 ≤ 0xD3 then some ((b 5).toNat - 0xBF) else none
  let trailing ← if b 7 == 0xD4 then some 0 else makeupPart makeupTrailing (b 7)
  some (syllable leading vowel trailing)

/-- Reads one sequence of EUC-KR. -/
def readEucKr : List UInt8 → Step Unit
  | [] => .cut
  | c :: rest =>
    if c < 0x80 then .chars [asciiChar c] 1 ()
    else match rest with
      | [] => .cut
      | d :: _ =>
        if c == 0xA4 && d == 0xD4 then
          if rest.length < 7 then .cut
          else match makeup (c :: rest) with
            | some s => .chars [s] 8 ()
            | none => .invalid 1
        else match ksx1001Char? c d with
          | some ch => .chars [ch] 2 ()
          | none => .invalid 1

def cp949Char? (lead trail : UInt8) : Option Char :=
  match ksx1001Char? lead trail with
  | some c => some c
  | none => cp949Ext.get? lead.toNat trail.toNat

def readCp949 : List UInt8 → Step Unit
  | [] => .cut
  | c :: rest =>
    if c < 0x80 then .chars [asciiChar c] 1 ()
    else pairStep (fun l t => (cp949Char? l t).map ([·])) c rest

/-- How a five-bit field of a Johab syllable reads: a part by its number, the filler, or
nothing. -/
inductive JamoField where
  | part (n : Nat)
  | filler
  | none

def johabLeading (bits : Nat) : JamoField :=
  if bits == 1 then .filler else if 2 ≤ bits && bits ≤ 20 then .part (bits - 2) else .none

def johabVowel (bits : Nat) : JamoField :=
  if bits == 2 then .filler
  else if 3 ≤ bits && bits ≤ 7 then .part (bits - 3)
  else if 10 ≤ bits && bits ≤ 15 then .part (bits - 5)
  else if 18 ≤ bits && bits ≤ 23 then .part (bits - 7)
  else if 26 ≤ bits && bits ≤ 29 then .part (bits - 9)
  else .none

def johabTrailing (bits : Nat) : JamoField :=
  if bits == 1 then .filler
  else if 2 ≤ bits && bits ≤ 17 then .part (bits - 1)
  else if 19 ≤ bits && bits ≤ 29 then .part (bits - 2)
  else .none

def jamoLeading : List Nat :=
  [0x31, 0x32, 0x34, 0x37, 0x38, 0x39, 0x41, 0x42, 0x43, 0x45, 0x46, 0x47, 0x48, 0x49, 0x4A,
   0x4B, 0x4C, 0x4D, 0x4E]

def jamoTrailing : List Nat :=
  [0x31, 0x32, 0x33, 0x34, 0x35, 0x36, 0x37, 0x39, 0x3A, 0x3B, 0x3C, 0x3D, 0x3E, 0x3F, 0x40,
   0x41, 0x42, 0x44, 0x45, 0x46, 0x47, 0x48, 0x4A, 0x4B, 0x4C, 0x4D, 0x4E]

/-- The character of a Johab syllable code, lead below `0xD8`. -/
def johabSyllable? (lead trail : Nat) : Option Char :=
  let jamo (n : Nat) : Option Char := some (Char.ofNat (0x3100 + n))
  match johabLeading ((lead / 4) % 32), johabVowel ((lead * 8 + trail / 32) % 32),
      johabTrailing (trail % 32) with
  | .filler, .filler, .filler => some '\u3000'
  | .filler, .filler, .part t => jamo (jamoTrailing.getD (t - 1) 0)
  | .filler, .part v, .filler => jamo (0x4F + v)
  | .part l, .filler, .filler => jamo (jamoLeading.getD l 0)
  | .part l, .part v, .filler => some (syllable l v 0)
  | .part l, .part v, .part t => some (syllable l v t)
  | _, _, _ => none

/-- The character of a Johab code of the rest of KS X 1001, lead from `0xD8`. -/
def johabSymbol? (lead trail : Nat) : Option Char :=
  if lead == 0xDF || lead > 0xF9 || trail < 0x31 || (0x80 ≤ trail && trail < 0x91) ||
      trail % 128 == 0x7F || (lead == 0xDA && 0xA1 ≤ trail && trail ≤ 0xD3) then none
  else
    let t1 := (if lead < 0xE0 then 2 * lead + 256 - 2 * 0xD9 else 2 * lead - 0x197) % 256
    let t2 := if trail < 0x91 then trail - 0x31 else trail - 0x43
    let row := (t1 + (if t2 < 0x5E then 0 else 1) + 0x21) % 256
    let cell := (if t2 < 0x5E then t2 else t2 - 0x5E) + 0x21
    ksx1001.get? row cell

def readJohab : List UInt8 → Step Unit
  | [] => .cut
  | c :: rest =>
    if c < 0x80 then .chars [asciiChar c] 1 ()
    else pairStep (fun l t =>
      ((if l < 0xD8 then johabSyllable? l.toNat t.toNat else johabSymbol? l.toNat t.toNat).map
        ([·]))) c rest

end Weave.Cjk
