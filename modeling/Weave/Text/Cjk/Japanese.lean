import Weave.Text.Cjk.Multibyte
import Weave.Text.Cjk.Jis0208
import Weave.Text.Cjk.Jis0212
import Weave.Text.Cjk.Jis0213
import Weave.Text.Cjk.Cp932

/-! # Japanese encodings

The Japanese encodings write JIS X 0208, and some JIS X 0212 or JIS X 0213, in two ways.
-/

namespace Weave.Cjk

def halfwidthKana? (b : UInt8) : Option Char :=
  if 0xA1 ≤ b && b ≤ 0xDF then some (Char.ofNat (0xFEC0 + b.toNat)) else none

def isShiftTrail (t : Nat) : Bool :=
  !(t < 0x40 || (0x7E < t && t < 0x80) || t > 0xFC)

def unfold (lead trail : Nat) : Nat × Nat :=
  let c1 := if lead < 0xE0 then lead - 0x81 else lead - 0xC1
  let c2 := if trail < 0x80 then trail - 0x40 else trail - 0x41
  (2 * c1 + (if c2 < 0x5E then 0 else 1), (if c2 < 0x5E then c2 else c2 - 0x5E) + 0x21)

def shiftJisChar? (lead trail : UInt8) : Option Char :=
  if isShiftTrail trail.toNat then
    let (row, cell) := unfold lead.toNat trail.toNat
    jisx0208.get? (row + 0x21) cell
  else none

def isShiftLead (b : UInt8) : Bool :=
  (0x81 ≤ b && b ≤ 0x9F) || (0xE0 ≤ b && b ≤ 0xEA)

def readShiftJis : List UInt8 → Step Unit
  | [] => .cut
  | c :: rest =>
    if c < 0x80 then .chars [asciiChar c] 1 ()
    else if let some k := halfwidthKana? c then .chars [k] 1 ()
    else if isShiftLead c then pairStep (fun l t => (shiftJisChar? l t).map ([·])) c rest
    else .invalid 1

/-- The character of a two-byte code of code page 932. -/
def cp932Char? (lead trail : UInt8) : Option Char :=
  match cp932Ext.get? lead.toNat trail.toNat with
  | some c => some c
  | none =>
    let l := lead.toNat
    let t := trail.toNat
    if isShiftLead lead then shiftJisChar? lead trail
    else if 0xF0 ≤ l && l ≤ 0xF9 then
      if (0x40 ≤ t && t ≤ 0x7E) || (0x80 ≤ t && t ≤ 0xFC) then
        some (Char.ofNat (0xE000 + 188 * (l - 0xF0) + (if t < 0x80 then t - 0x40 else t - 0x41)))
      else none
    else none

def readCp932 : List UInt8 → Step Unit
  | [] => .cut
  | c :: rest =>
    if c ≤ 0x80 then .chars [asciiChar c] 1 ()
    else if c == 0xA0 then .chars ['\uF8F0'] 1 ()
    else if let some k := halfwidthKana? c then .chars [k] 1 ()
    else if c ≥ 0xFD then .chars [Char.ofNat (0xF8F1 + c.toNat - 0xFD)] 1 ()
    else pairStep (fun l t => (cp932Char? l t).map ([·])) c rest

/-- Reads one sequence of an EUC form, with the characters of a code of the first set by
its row and cell, and of the second. -/
def readEuc (first second : Nat → Nat → Option (List Char)) : List UInt8 → Step Unit
  | [] => .cut
  | c :: rest =>
    if c < 0x80 then .chars [asciiChar c] 1 ()
    else if c == 0x8E then pairStep (fun _ t => (halfwidthKana? t).map ([·])) c rest
    else if c == 0x8F then
      match rest with
      | a :: b :: _ =>
        match second (flipByte a) (flipByte b) with
        | some cs => .chars cs 3 ()
        | none => .invalid 1
      | _ => .cut
    else pairStep (fun l t => first (flipByte l) (flipByte t)) c rest
where
  flipByte (b : UInt8) : Nat := (b ^^^ 0x80).toNat

def jisx0208Chars? (row cell : Nat) : Option (List Char) :=
  (jisx0208.get? row cell).map ([·])

def jisx0212Chars? (row cell : Nat) : Option (List Char) :=
  (jisx0212.get? row cell).map ([·])

def readEucJp : List UInt8 → Step Unit :=
  readEuc jisx0208Chars? jisx0212Chars?

/-- The characters of a code of plane 1 of JIS X 0213, in the 2000 edition when `older`. -/
def jisx0213Plane1Chars? (older : Bool) (row cell : Nat) : Option (List Char) :=
  let code := row * 256 + cell
  if older && jisx0213Added2004.contains code then none
  else match jisx0208.get? row cell with
    | some c => some [c]
    | none =>
      match jisx0213Plane1.get? row cell with
      | some c => some [c]
      | none => (jisx0213Pairs.find? (·.1 == code)).map fun (_, a, b) => [Char.ofNat a, Char.ofNat b]

def jisx0213Plane2Char? (older : Bool) (row cell : Nat) : Option Char :=
  if older && row * 256 + cell == jisx0213Changed2004.1 then some jisx0213Changed2004.2
  else jisx0213Plane2.get? row cell

def lacksIn2000 (older : Bool) (row cell : Nat) : Bool :=
  older && jisx0213Added2004.contains (row * 256 + cell)

def readEucJis2004 (older : Bool) : List UInt8 → Step Unit
  | c :: d :: rest =>
    if lacksIn2000 older (c ^^^ 0x80).toNat (d ^^^ 0x80).toNat then .invalid 2
    else readEuc (jisx0213Plane1Chars? older) plane2 (c :: d :: rest)
  | bytes => readEuc (jisx0213Plane1Chars? older) plane2 bytes
where
  plane2 (row cell : Nat) : Option (List Char) :=
    match jisx0213Plane2Char? older row cell with
    | some c => some [c]
    | none => jisx0212Chars? row cell

/-- Reads a two-byte code of Shift_JIS-2004, or of its 2000 edition when `older`. -/
def shiftJis2004Pair (older : Bool) (lead trail : UInt8) : Step Unit :=
  if !isShiftTrail trail.toNat then .invalid 1
  else
    let (row, cell) := unfold lead.toNat trail.toNat
    let found (cs : Option (List Char)) : Step Unit :=
      match cs with
      | some cs => .chars cs 2 ()
      | none => .invalid 1
    if row < 0x5E then
      let r := row + 0x21
      if lacksIn2000 older r cell then .invalid 2
      else if r == 0x21 && cell == 0x40 then found (some ['\\'])
      else if r == 0x22 && cell == 0x32 then found (some ['~'])
      else found (jisx0213Plane1Chars? older r cell)
    else
      let r := if row ≥ 0x67 then row + 0x07 else if row ≥ 0x63 || row == 0x5F then row - 0x37
        else row - 0x3D
      found ((jisx0213Plane2Char? older r cell).map ([·]))

/-- Reads one sequence of Shift_JIS-2004, or of its 2000 edition when `older`. -/
def readShiftJis2004 (older : Bool) : List UInt8 → Step Unit
  | [] => .cut
  | c :: rest =>
    if c == 0x5C then .chars ['¥'] 1 ()
    else if c == 0x7E then .chars ['‾'] 1 ()
    else if c < 0x80 then .chars [asciiChar c] 1 ()
    else if let some k := halfwidthKana? c then .chars [k] 1 ()
    else if (0x81 ≤ c && c ≤ 0x9F) || (0xE0 ≤ c && c ≤ 0xFC) then
      match rest with
      | [] => .cut
      | d :: _ => shiftJis2004Pair older c d
    else .invalid 1

end Weave.Cjk
