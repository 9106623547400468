import Weave.Text.Cjk.Multibyte
import Weave.Text.Cjk.Gb2312
import Weave.Text.Cjk.Ksc5601
import Weave.Text.Cjk.Japanese

/-! # ISO-2022 encodings

An ISO-2022 encoding is seven-bit text in which escape sequences designate character sets
to the registers G0, G1 and G2; printable bytes read in the set of G0, or of G1 after a
shift out (`SO`) until a shift in (`SI`) or a line feed. Each encoding designates only some
sets, and the Japanese ones have no shifts, so that `SO` and `SI` are plain controls. A
set of two bytes reads two printable bytes at a time.
-/

namespace Weave.Cjk

/-- The ISO-2022 encodings. -/
inductive Iso2022 where
  | jp
  | jp1
  | jp2
  | jp2004
  | jp3
  | jpExt
  | kr
deriving DecidableEq, Repr

/-- The character sets an ISO-2022 encoding may designate. -/
inductive Charset where
  | ascii
  | latin1
  | greek
  | jisRoman
  | jisKana
  | jisx0208
  | jisx0212
  | gb2312
  | ksx1001
  | jisx0213Plane1 (older : Bool)
  | jisx0213Plane2
deriving DecidableEq, Repr

namespace Iso2022

def noShift : Iso2022 → Bool
  | .kr => false
  | _ => true

def usesG2 : Iso2022 → Bool
  | .jp2 => true
  | _ => false

def passesRevision : Iso2022 → Bool
  | .kr => false
  | _ => true

/-- The set an encoding designates by the final byte of an escape sequence, of two bytes
when `double`. -/
def charset? (v : Iso2022) (final : UInt8) (double : Bool) : Option Charset :=
  if !double && final == 0x42 then some .ascii
  else
    let jis : List (UInt8 × Bool × Charset) := [(0x42, true, .jisx0208), (0x40, true, .jisx0208),
      (0x4A, false, .jisRoman)]
    let jis1 := jis ++ [(0x44, true, .jisx0212)]
    let sets : List (UInt8 × Bool × Charset) := match v with
      | .jp => jis
      | .jp1 => jis1
      | .jp2 => jis1 ++ [(0x43, true, .ksx1001), (0x41, true, .gb2312), (0x41, false, .latin1),
          (0x46, false, .greek)]
      | .jp2004 => [(0x51, true, .jisx0213Plane1 false), (0x42, true, .jisx0208),
          (0x50, true, .jisx0213Plane2)]
      | .jp3 => [(0x4F, true, .jisx0213Plane1 true), (0x42, true, .jisx0208),
          (0x50, true, .jisx0213Plane2)]
      | .jpExt => jis1 ++ [(0x49, false, .jisKana)]
      | .kr => [(0x43, true, .ksx1001)]
    (sets.find? fun (f, d, _) => f == final && d == double).map fun (_, _, c) => c

end Iso2022

namespace Charset

def width : Charset → Nat
  | .ascii | .latin1 | .greek | .jisRoman | .jisKana => 1
  | _ => 2

def single? : Charset → UInt8 → Option Char
  | .ascii, c => some (asciiChar c)
  | .jisRoman, c =>
    if c == 0x5C then some '¥' else if c == 0x7E then some '‾' else some (asciiChar c)
  | .jisKana, c => halfwidthKana? (c ^^^ 0x80)
  | _, _ => none

/-- The characters of two bytes from `0x20` in a set of two bytes, by row and cell. -/
def pair? (cs : Charset) (row cell : Nat) : Option (List Char) :=
  let one (c : Option Char) : Option (List Char) := c.map ([·])
  match cs with
  | .jisx0208 => if row == 0x21 && cell == 0x40 then some ['＼'] else jisx0208Chars? row cell
  | .jisx0212 => jisx0212Chars? row cell
  | .gb2312 => one (Cjk.gb2312.get? row cell)
  | .ksx1001 => one (Cjk.ksx1001.get? row cell)
  | .jisx0213Plane1 older =>
    if row == 0x22 && cell == 0x32 then some ['~'] else jisx0213Plane1Chars? older row cell
  | .jisx0213Plane2 => one (jisx0213Plane2Char? false row cell)
  | _ => none

end Charset

/-- The upper half of ISO 8859-7 by a byte from `0xA0`, as the ISO-2022 encodings read it:
the characters kept from ISO 8859-1, the Greek letters and signs `0x2D0` above their
bytes, and three punctuation marks. -/
def greekUpper? (c : Nat) : Option Char :=
  if c < 0xC0 && Nat.testBit 0x288F3BC9 (c - 0xA0) then some (Char.ofNat c)
  else if 0xB4 ≤ c && c ≤ 0xFE && (c ≥ 0xD4 || Nat.testBit 0xBFFFFD77 (c - 0xB4)) then
    some (Char.ofNat (0x2D0 + c))
  else if c == 0xA1 then some '‘'
  else if c == 0xA2 then some '’'
  else if c == 0xAF then some '―'
  else none

/-- The state of an ISO-2022 decoder: the sets designated to G0, G1 and G2, whether G1 is
shifted in, and whether the bytes after an escape that started no sequence are being
written as they are. -/
structure Iso2022State where
  g0 : Charset := .ascii
  g1 : Charset := .ascii
  g2 : Charset := .ascii
  shifted : Bool := false
  passing : Bool := false
deriving DecidableEq, Repr

namespace Iso2022State

def designate (s : Iso2022State) : Nat → Charset → Iso2022State
  | 0, c => { s with g0 := c }
  | 1, c => { s with g1 := c }
  | _, c => { s with g2 := c }

end Iso2022State

def endsEscape (b : UInt8) : Bool :=
  (0x41 ≤ b && b ≤ 0x5A) || b == 0x40

def startsEscape (b : UInt8) : Bool :=
  b == 0x28 || b == 0x29 || b == 0x24 || b == 0x2E || b == 0x26

/-- How an escape sequence at the head of the bytes reads. -/
inductive EscapeScan where
  | length (n : Nat)
  | cut
  | unterminated

/-- Looks for the end of an escape sequence from its byte `i`; `revision` when `&@` is
passed over. -/
def scanEscape (revision : Bool) (bytes : List UInt8) (i : Nat) : EscapeScan :=
  if i < 16 then
    if i ≥ bytes.length then .cut
    else
      let b := bytes.getD i 0
      if endsEscape b then .length (i + 1)
      else if revision && i + 1 < bytes.length && b == 0x26 && bytes.getD (i + 1) 0 == 0x40 then
        scanEscape revision bytes (i + 3)
      else scanEscape revision bytes (i + 1)
  else .unterminated
termination_by 16 - i

/-- The register and the set an escape sequence of `n` bytes designates, if the encoding
has it. -/
def designation? (v : Iso2022) (bytes : List UInt8) (n : Nat) : Option (Nat × Charset) := do
  let b (i : Nat) : UInt8 := bytes.getD i 0
  let (register, final, double) ← match n with
    | 3 =>
      if b 1 == 0x24 then some (0, b 2, true)
      else if b 1 == 0x28 then some (0, b 2, false)
      else if b 1 == 0x29 then some (1, b 2, false)
      else if v.usesG2 && b 1 == 0x2E then some (2, b 2, false)
      else none
    | 4 =>
      if b 1 != 0x24 then none
      else if b 2 == 0x28 then some (0, b 3, true)
      else if b 2 == 0x29 then some (1, b 3, true)
      else none
    | 6 =>
      if v.passesRevision && b 3 == 0x1B && b 4 == 0x24 && b 5 == 0x42 then some (0, 0x42, true)
      else none
    | _ => none
  let cs ← v.charset? final double
  pure (register, cs)

def shiftedToG2 (g2 : Charset) (b : UInt8) : Option (Option Char) :=
  match g2 with
  | .latin1 => some (if b < 0x80 then some (Char.ofNat (b.toNat + 0x80)) else none)
  | .greek =>
    let c := (b ^^^ 0x80).toNat
    some (if c < 0xA0 then some (Char.ofNat c) else greekUpper? c)
  | .ascii => some (if b < 0x80 then some (asciiChar b) else none)
  | _ => none

/-- Reads one sequence of an ISO-2022 encoding. -/
def readIso2022 (v : Iso2022) (s : Iso2022State) : List UInt8 → Step Iso2022State
  | [] => .cut
  | c :: rest =>
    if s.passing then .chars [Char.ofNat c.toNat] 1 { s with passing := !endsEscape c }
    else if c == 0x1B then
      match rest with
      | [] => .cut
      | d :: rest' =>
        if startsEscape d then
          match scanEscape v.passesRevision (c :: rest) 1 with
          | .cut => .cut
          | .unterminated => .invalid 1
          | .length n =>
            match designation? v (c :: rest) n with
            | some (register, cs) => .chars [] n (s.designate register cs)
            | none => .invalid n
        else if v.usesG2 && d == 0x4E then
          match rest' with
          | [] => .cut
          | e :: _ =>
            match shiftedToG2 s.g2 e with
            | some (some ch) => .chars [ch] 3 s
            | some none => .invalid 3
            | none => .internal
        else .chars ['\x1b'] 1 { s with passing := true }
    else if c == 0x0F && !v.noShift then .chars [] 1 { s with shifted := false }
    else if c == 0x0E && !v.noShift then .chars [] 1 { s with shifted := true }
    else if c == 0x0A then .chars ['\n'] 1 { s with shifted := false }
    else if c < 0x20 then .chars [asciiChar c] 1 s
    else if c ≥ 0x80 then .invalid 1
    else
      let cs := if s.shifted then s.g1 else s.g0
      if cs.width == 1 then
        match cs.single? c with
        | some ch => .chars [ch] 1 s
        | none => .invalid 1
      else match rest with
        | [] => .cut
        | d :: _ =>
          match cs.pair? c.toNat d.toNat with
          | some chs => .chars chs 2 s
          | none => .invalid 2

end Weave.Cjk
