import Weave.Text.Cjk.Multibyte
import Weave.Text.Cjk.Gb2312
import Weave.Text.Cjk.GbkExt
import Weave.Text.Cjk.Gb18030
import Weave.Text.Cjk.Big5
import Weave.Text.Cjk.Hkscs
import Weave.Text.Surrogate

/-! # Chinese encodings

Each encoding reads an ASCII byte as its character and a byte from `0x80` as the lead of a
longer sequence; a lead whose sequence the encoding does not define is illegal by itself.
-/

namespace Weave.Cjk

def flip (b : UInt8) : Nat :=
  (b ^^^ 0x80).toNat

def gb2312Char? (lead trail : UInt8) : Option Char :=
  gb2312.get? (flip lead) (flip trail)

def gbkChar? (lead trail : UInt8) : Option Char :=
  if lead == 0xA1 && trail == 0xAA then some '—'
  else if lead == 0xA8 && trail == 0x44 then some '―'
  else if lead == 0xA1 && trail == 0xA4 then some '·'
  else match gb2312Char? lead trail with
    | some c => some c
    | none => gbkExt.get? lead.toNat trail.toNat

def readPairs (lookup : UInt8 → UInt8 → Option (List Char)) : List UInt8 → Step Unit
  | [] => .cut
  | b :: rest => if b < 0x80 then .chars [asciiChar b] 1 () else pairStep lookup b rest

def single (lookup : UInt8 → UInt8 → Option Char) (lead trail : UInt8) : Option (List Char) :=
  (lookup lead trail).map ([·])

def readGb2312 : List UInt8 → Step Unit :=
  readPairs (single gb2312Char?)

def readGbk : List UInt8 → Step Unit :=
  readPairs (single gbkChar?)

def gb18030Bmp (n : Nat) : Nat :=
  let (start, first) := (gb18030Ranges.filter (·.1 ≤ n)).getLast?.getD (0, 0x80)
  first + (n - start)

/-- Reads a four-byte sequence of GB 18030 from its four bytes. -/
def readGb18030Four (a b c d : UInt8) : Step Unit :=
  if a < 0x81 || a > 0xFE || c < 0x81 || c > 0xFE || d < 0x30 || d > 0x39 then .invalid 1
  else
    let i := a.toNat - 0x81
    let number (j : Nat) : Nat :=
      (j * 10 + (b.toNat - 0x30)) * 1260 + (c.toNat - 0x81) * 10 + (d.toNat - 0x30)
    if i < 4 then
      if number i < 39420 then .chars [Text.ofCode (gb18030Bmp (number i))] 4 () else .invalid 1
    else if i ≥ 15 then
      if 0x10000 + number (i - 15) ≤ 0x10FFFF then
        .chars [Char.ofNat (0x10000 + number (i - 15))] 4 ()
      else .invalid 1
    else .invalid 1

/-- Reads one sequence of GB 18030. -/
def readGb18030 : List UInt8 → Step Unit
  | [] => .cut
  | a :: rest =>
    if a < 0x80 then .chars [asciiChar a] 1 ()
    else match rest with
      | [] => .cut
      | b :: rest' =>
        if 0x30 ≤ b && b ≤ 0x39 then
          match rest' with
          | c :: d :: _ => readGb18030Four a b c d
          | _ => .cut
        else match gbkChar? a b with
          | some ch => .chars [ch] 2 ()
          | none =>
            match gb18030Ext.get? a.toNat b.toNat with
            | some ch => .chars [ch] 2 ()
            | none => .invalid 1

/-- Reads one sequence of HZ, `gb` when shifted into GB 2312. -/
def readHz (gb : Bool) : List UInt8 → Step Bool
  | [] => .cut
  | c :: rest =>
    if c == 0x7E then
      match rest with
      | [] => .cut
      | d :: _ =>
        if d == 0x7E && !gb then .chars ['~'] 2 gb
        else if d == 0x7B && !gb then .chars [] 2 true
        else if d == 0x0A && !gb then .chars [] 2 gb
        else if d == 0x7D && gb then .chars [] 2 false
        else .invalid 1
    else if c ≥ 0x80 then .invalid 1
    else if !gb then .chars [asciiChar c] 1 gb
    else match rest with
      | [] => .cut
      | d :: _ =>
        match gb2312.get? c.toNat d.toNat with
        | some ch => .chars [ch] 2 gb
        | none => .invalid 1

def big5Char? (lead trail : UInt8) : Option Char :=
  big5.get? lead.toNat trail.toNat

def cp950Char? (lead trail : UInt8) : Option Char :=
  match cp950Ext.get? lead.toNat trail.toNat with
  | some c => some c
  | none => big5Char? lead trail

def hkscsChars? (lead trail : UInt8) : Option (List Char) :=
  let code := lead.toNat * 256 + trail.toNat
  match hkscsExt.get? lead.toNat trail.toNat with
  | some c => some [c]
  | none =>
    match hkscsPairs.find? (·.1 == code) with
    | some (_, a, b) => some [Char.ofNat a, Char.ofNat b]
    | none => if hkscsRemoved.contains code then none else single big5Char? lead trail

def readBig5 : List UInt8 → Step Unit :=
  readPairs (single big5Char?)

def readCp950 : List UInt8 → Step Unit :=
  readPairs (single cp950Char?)

def readHkscs : List UInt8 → Step Unit :=
  readPairs hkscsChars?

end Weave.Cjk
