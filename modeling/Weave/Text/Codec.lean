import Weave.Fault
import Weave.Text.CodePage
import Weave.Text.Surrogate
import Weave.Text.Decode.Failure
import Weave.Text.Decode.Escape
import Weave.Text.Decode.Utf7
import Weave.Text.Decode.Punycode
import Weave.Text.Decode.Idna
import Weave.Text.Cjk.Encoding

/-! # Text encodings

Sources are bytes read in a named text encoding. A name is looked up after folding it:
letters lowered, and each run of other characters than letters, digits and points made
one underscore between the kept parts. The encodings known are UTF-8 (also with a byte
order mark to skip), Latin-1, ASCII, UTF-16 and UTF-32 (each with a byte order mark, or
little- or big-endian without one), the single-byte code pages of `CodePage.all`,
`charmap`, which without a map of its own reads bytes as Latin-1 does, and `undefined`,
which decodes nothing. Names of byte-to-byte transforms are known but are no
text encodings.
-/

namespace Weave

/-- The text encodings known. -/
inductive Codec where
  | utf8
  | utf8Sig
  | latin1
  | ascii
  | codePage (page : CodePage)
  | utf16
  | utf16le
  | utf16be
  | utf32
  | utf32le
  | utf32be
  | undefined
  | escape
  | rawEscape
  | utf7
  | punycode
  | idna
  | cjk (e : Cjk.Encoding)
deriving DecidableEq, Repr

namespace Codec

def foldName (name : String) : String :=
  let step (acc : List Char × Bool) (c : Char) : List Char × Bool :=
    let (out, punct) := acc
    if c.isAlphanum && c.toNat < 128 || c == '.' then
      let out := if punct && !out.isEmpty then '_' :: out else out
      (c.toLower :: out, false)
    else (out, true)
  String.ofList (name.toList.foldl step ([], false)).1.reverse

/-- The encodings with their names: the first names the encoding itself, the others are
its aliases. -/
def byName : List (List String × Codec) :=
  [(["utf_8", "cp65001", "u8", "utf", "utf8", "utf8_ucs2", "utf8_ucs4"], .utf8),
   (["utf_8_sig"], .utf8Sig),
   (["latin_1", "8859", "cp819", "csisolatin1", "ibm819", "iso8859", "iso8859_1", "iso_8859_1",
     "iso_8859_1_1987", "iso_ir_100", "l1", "latin", "latin1"], .latin1),
   (["charmap"], .latin1),
   (["ascii", "646", "ansi_x3.4_1968", "ansi_x3.4_1986", "ansi_x3_4_1968", "cp367", "csascii",
     "ibm367", "iso646_us", "iso_646.irv_1991", "iso_ir_6", "us", "us_ascii"], .ascii),
   (["utf_16", "u16", "utf16"], .utf16),
   (["utf_16_le", "unicodelittleunmarked", "utf_16le"], .utf16le),
   (["utf_16_be", "unicodebigunmarked", "utf_16be"], .utf16be),
   (["utf_32", "u32", "utf32"], .utf32),
   (["utf_32_le", "utf_32le"], .utf32le),
   (["utf_32_be", "utf_32be"], .utf32be),
   (["undefined"], .undefined),
   (["unicode_escape"], .escape),
   (["raw_unicode_escape"], .rawEscape),
   (["utf_7", "u7", "unicode_1_1_utf_7", "utf7"], .utf7),
   (["punycode"], .punycode),
   (["idna"], .idna)] ++
  CodePage.all.map (fun p => (p.names, .codePage p)) ++
  Cjk.Encoding.all.map fun e => (e.names, .cjk e)

def byteTransforms : List (List String) :=
  [["base64_codec", "base64", "base_64"], ["bz2_codec", "bz2"], ["hex_codec", "hex"],
   ["quopri_codec", "quopri", "quoted_printable", "quotedprintable"], ["rot_13", "rot13"],
   ["uu_codec", "uu"], ["zlib_codec", "zip", "zlib"]]

def names (folded : String) (names : List String) : Bool :=
  names.tail.contains folded || names.tail.contains (folded.replace "." "_") ||
    (names.head? == some folded && !folded.contains '.')

def lookup (name : String) : Except Fault Codec :=
  let folded := foldName name
  match byName.find? fun e => names folded e.1 with
  | some (_, c) => .ok c
  | none =>
    if byteTransforms.any (names folded) then .error (.notTextEncoding name)
    else .error (.unknownEncoding name)

end Codec

/-- Characters an encoding cannot write: the encoding's name in reports, the first of
them, the positions from and up to, and why. -/
structure EncodeError where
  codec : String
  char : Char
  start : Nat
  stop : Nat
  reason : String
deriving Repr

/-- The words of an encoding report; the character is named by its code, a stand-in by its
surrogate's: `\x` and two digits up to `0xff`, `\u` and four in the basic plane, `\U` and
eight beyond. -/
def EncodeError.message (e : EncodeError) : String :=
  if e.stop == e.start + 1 then
    let n := (Text.surrogate? e.char).getD e.char.toNat
    let (mark, width) := if n ≤ 0xff then ("\\x", 2) else if n ≤ 0xffff then ("\\u", 4) else ("\\U", 8)
    let digits := Nat.toDigits 16 n
    "'" ++ e.codec ++ "' codec can't encode character '" ++ mark ++
      String.ofList (List.replicate (width - digits.length) '0' ++ digits) ++ "' in position " ++
      toString e.start ++ ": " ++ e.reason
  else
    "'" ++ e.codec ++ "' codec can't encode characters in position " ++ toString e.start ++ "-" ++
      toString (e.stop - 1) ++ ": " ++ e.reason

def asciiRefusal? (s : String) : Option EncodeError :=
  let cs := s.toList
  match cs.findIdx? (·.toNat ≥ 128) with
  | none => none
  | some i =>
    let run := (cs.drop i).takeWhile (·.toNat ≥ 128)
    some ⟨"ascii", run.headD ' ', i, i + run.length, "ordinal not in range(128)"⟩

def utf8Refusal? (s : String) : Option EncodeError :=
  let cs := s.toList
  match cs.findIdx? Text.isStandIn with
  | none => none
  | some i =>
    let run := (cs.drop i).takeWhile Text.isStandIn
    some ⟨"utf-8", run.headD ' ', i, i + run.length, "surrogates not allowed"⟩

def escapesByte (c : Char) : Bool :=
  match Text.surrogate? c with
  | some n => 0xDC80 ≤ n && n ≤ 0xDCFF
  | none => false

/-- The characters of a path that the file system encoding cannot write, if it has some:
that encoding is UTF-8 with the stand-ins that escape bytes written as those bytes. The
report starts at the first other stand-in and runs to the end of the stand-ins after it. -/
def pathRefusal? (s : String) : Option EncodeError :=
  let cs := s.toList
  match cs.findIdx? fun c => Text.isStandIn c && !escapesByte c with
  | none => none
  | some i =>
    let run := (cs.drop i).takeWhile Text.isStandIn
    some ⟨"utf-8", run.headD ' ', i, i + run.length, "surrogates not allowed"⟩

namespace Utf8

def isContinuation (b : UInt8) : Bool := 0x80 ≤ b && b ≤ 0xBF

/-- How a sequence at the head of the bytes reads: a character with its length, an
unfinished sequence, or an error with how many bytes it covers and why. -/
inductive Step where
  | char (c : Char) (length : Nat)
  | unfinished
  | invalid (length : Nat) (reason : String)

def bits (b : UInt8) (mask : UInt8) : Nat := (b &&& mask).toNat

/-- Reads the sequence at the head of the bytes. -/
def step : List UInt8 → Step
  | [] => .unfinished
  | b :: rest =>
    let cont1 := .invalid 1 "invalid continuation byte"
    if b < 0x80 then .char (Char.ofNat b.toNat) 1
    else if b < 0xC2 then .invalid 1 "invalid start byte"
    else if b < 0xE0 then
      match rest with
      | [] => .unfinished
      | c :: _ =>
        if isContinuation c then .char (Char.ofNat (bits b 0x1F * 64 + bits c 0x3F)) 2
        else cont1
    else if b < 0xF0 then
      let secondOk (c : UInt8) : Bool :=
        isContinuation c && !(b == 0xE0 && c < 0xA0) && !(b == 0xED && c ≥ 0xA0)
      match rest with
      | [] => .unfinished
      | [c] => if secondOk c then .unfinished else cont1
      | c :: d :: _ =>
        if !secondOk c then cont1
        else if !isContinuation d then .invalid 2 "invalid continuation byte"
        else .char (Char.ofNat (bits b 0x0F * 4096 + bits c 0x3F * 64 + bits d 0x3F)) 3
    else if b < 0xF5 then
      let secondOk (c : UInt8) : Bool :=
        isContinuation c && !(b == 0xF0 && c < 0x90) && !(b == 0xF4 && c ≥ 0x90)
      match rest with
      | [] => .unfinished
      | [c] => if secondOk c then .unfinished else cont1
      | [c, d] =>
        if !secondOk c then cont1
        else if !isContinuation d then .invalid 2 "invalid continuation byte"
        else .unfinished
      | c :: d :: e :: _ =>
        if !secondOk c then cont1
        else if !isContinuation d then .invalid 2 "invalid continuation byte"
        else if !isContinuation e then .invalid 3 "invalid continuation byte"
        else .char (Char.ofNat (bits b 0x07 * 262144 + bits c 0x3F * 4096 + bits d 0x3F * 64 +
          bits e 0x3F)) 4
    else .invalid 1 "invalid start byte"

/-- Decodes UTF-8 bytes, `pos` of them used already; `final` when no bytes follow. An
unfinished sequence at the end is kept for the next call unless the call is final; so is
a lead byte of a surrogate with one byte after it. -/
def decodeFrom (final : Bool) (acc : List Char) (pos : Nat) (bytes : List UInt8) : Decoding :=
  match _h : bytes with
  | [] => .ok (acc.reverse, pos)
  | b :: _ =>
    match step bytes with
    | .char c n =>
      if _hn : 0 < n then
        decodeFrom final (c :: acc) (pos + n) (bytes.drop n)
      else .ok (acc.reverse, pos)
    | .unfinished =>
      if final then
        .error (.invalid ⟨"utf-8", b, pos, pos + bytes.length, "unexpected end of data"⟩)
      else .ok (acc.reverse, pos)
    | .invalid n reason =>
      let second := bytes.getD 1 0
      if !final && n == 1 && b == 0xED && bytes.length == 2 && 0xA0 ≤ second && second ≤ 0xBF then
        .ok (acc.reverse, pos)
      else .error (.invalid ⟨"utf-8", b, pos, pos + n, reason⟩)
termination_by bytes.length
decreasing_by simp [_h]; omega

end Utf8

namespace Utf16

def unit (little : Bool) (a b : UInt8) : Nat :=
  if little then b.toNat * 256 + a.toNat else a.toNat * 256 + b.toNat

/-- Decodes UTF-16 bytes of one byte order; `final` when no bytes follow. -/
def decodeFrom (name : String) (little final : Bool) (acc : List Char) (pos : Nat) :
    List UInt8 → Decoding
  | [] => .ok (acc.reverse, pos)
  | [b] =>
    if final then .error (.invalid ⟨name, b, pos, pos + 1, "truncated data"⟩)
    else .ok (acc.reverse, pos)
  | a :: b :: rest =>
    let u := unit little a b
    if u < 0xD800 || u > 0xDFFF then
      decodeFrom name little final (Char.ofNat u :: acc) (pos + 2) rest
    else if u ≥ 0xDC00 then
      .error (.invalid ⟨name, a, pos, pos + 2, "illegal encoding"⟩)
    else
      match rest with
      | c :: d :: rest' =>
        let v := unit little c d
        if 0xDC00 ≤ v && v ≤ 0xDFFF then
          decodeFrom name little final
            (Char.ofNat (0x10000 + (u - 0xD800) * 1024 + (v - 0xDC00)) :: acc) (pos + 4) rest'
        else .error (.invalid ⟨name, a, pos, pos + 2, "illegal UTF-16 surrogate"⟩)
      | _ =>
        if final then .error (.invalid ⟨name, a, pos, pos + 2 + rest.length, "unexpected end of data"⟩)
        else .ok (acc.reverse, pos)

def orderName (little : Bool) : String := if little then "utf-16-le" else "utf-16-be"

end Utf16

namespace Utf32

def unit (little : Bool) (a b c d : UInt8) : Nat :=
  if little then ((d.toNat * 256 + c.toNat) * 256 + b.toNat) * 256 + a.toNat
  else ((a.toNat * 256 + b.toNat) * 256 + c.toNat) * 256 + d.toNat

/-- Decodes UTF-32 bytes of one byte order; `final` when no bytes follow. Surrogates and
numbers past the last code point are errors; so are bytes short of a unit at the end. -/
def decodeFrom (name : String) (little final : Bool) (acc : List Char) (pos : Nat) :
    List UInt8 → Decoding
  | a :: b :: c :: d :: rest =>
    let u := unit little a b c d
    if 0xD800 ≤ u && u ≤ 0xDFFF then
      .error (.invalid ⟨name, a, pos, pos + 4,
        "code point in surrogate code point range(0xd800, 0xe000)"⟩)
    else if u ≥ 0x110000 then
      .error (.invalid ⟨name, a, pos, pos + 4, "code point not in range(0x110000)"⟩)
    else decodeFrom name little final (Char.ofNat u :: acc) (pos + 4) rest
  | [] => .ok (acc.reverse, pos)
  | b :: rest =>
    if final then .error (.invalid ⟨name, b, pos, pos + 1 + rest.length, "truncated data"⟩)
    else .ok (acc.reverse, pos)

def orderName (little : Bool) : String := if little then "utf-32-le" else "utf-32-be"

end Utf32

/-- Decodes bytes that each stand for one character: the character of a byte, or none. -/
def decodeBytewise (name reason : String) (charOf : UInt8 → Option Char) (bytes : List UInt8) :
    Decoding :=
  let rec go (acc : List Char) (pos : Nat) : List UInt8 → Decoding
    | [] => .ok (acc.reverse, pos)
    | b :: rest =>
      match charOf b with
      | some c => go (c :: acc) (pos + 1) rest
      | none => .error (.invalid ⟨name, b, pos, pos + 1, reason⟩)
  go [] 0 bytes

/-- The state of an incremental decoder. -/
inductive Decoder where
  | utf8
  | utf8Sig (first : Bool)
  | latin1
  | ascii
  | codePage (page : CodePage)
  | utf16 (order : Option Bool)
  | utf16Fixed (little : Bool)
  | utf32 (order : Option Bool)
  | utf32Fixed (little : Bool)
  | undefined
  | escape
  | rawEscape
  | utf7
  | punycode
  | idna
  | cjk (e : Cjk.Encoding) (shift : Cjk.Shift)
deriving DecidableEq, Repr

namespace Decoder

/-- A fresh decoder for an encoding. -/
def ofCodec : Codec → Decoder
  | .utf8 => .utf8
  | .utf8Sig => .utf8Sig true
  | .latin1 => .latin1
  | .ascii => .ascii
  | .codePage page => .codePage page
  | .utf16 => .utf16 none
  | .utf16le => .utf16Fixed true
  | .utf16be => .utf16Fixed false
  | .utf32 => .utf32 none
  | .utf32le => .utf32Fixed true
  | .utf32be => .utf32Fixed false
  | .undefined => .undefined
  | .escape => .escape
  | .rawEscape => .rawEscape
  | .utf7 => .utf7
  | .punycode => .punycode
  | .idna => .idna
  | .cjk e => .cjk e e.start

def utf8Mark : List UInt8 := [0xEF, 0xBB, 0xBF]

/-- One decoding call: the characters, how many bytes were used, and the decoder after. -/
def feed (d : Decoder) (bytes : List UInt8) (final : Bool) :
    Except DecodeFailure (List Char × Nat × Decoder) :=
  match d with
  | .utf8 => (Utf8.decodeFrom final [] 0 bytes).map fun (cs, n) => (cs, n, .utf8)
  | .utf8Sig first =>
    if first && bytes.length < 3 && utf8Mark.take bytes.length == bytes then
      .ok ([], 0, .utf8Sig true)
    else if first && bytes.take 3 == utf8Mark then
      (Utf8.decodeFrom final [] 0 (bytes.drop 3)).map fun (cs, n) => (cs, n + 3, .utf8Sig false)
    else (Utf8.decodeFrom final [] 0 bytes).map fun (cs, n) => (cs, n, .utf8Sig false)
  | .latin1 => (decodeBytewise "latin-1" "" (fun b => some (Char.ofNat b.toNat)) bytes).map
      fun (cs, n) => (cs, n, .latin1)
  | .ascii =>
    (decodeBytewise "ascii" "ordinal not in range(128)"
      (fun b => if b < 0x80 then some (Char.ofNat b.toNat) else none) bytes).map
      fun (cs, n) => (cs, n, .ascii)
  | .codePage page =>
    let lower := page.lower.map (·.toList.toArray)
    let upper := page.upper.toList.toArray
    (decodeBytewise "charmap" "character maps to <undefined>" (CodePage.charOf lower upper) bytes).map
      fun (cs, n) => (cs, n, .codePage page)
  | .utf16Fixed little =>
    (Utf16.decodeFrom (Utf16.orderName little) little final [] 0 bytes).map
      fun (cs, n) => (cs, n, .utf16Fixed little)
  | .utf16 (some little) =>
    (Utf16.decodeFrom (Utf16.orderName little) little final [] 0 bytes).map
      fun (cs, n) => (cs, n, .utf16 (some little))
  | .utf16 none =>
    match bytes with
    | 0xFF :: 0xFE :: rest =>
      (Utf16.decodeFrom "utf-16-le" true final [] 2 rest).map fun (cs, n) => (cs, n, .utf16 (some true))
    | 0xFE :: 0xFF :: rest =>
      (Utf16.decodeFrom "utf-16-be" false final [] 2 rest).map fun (cs, n) => (cs, n, .utf16 (some false))
    | _ =>
      match Utf16.decodeFrom "utf-16-le" true final [] 0 bytes with
      | .error e => .error e
      | .ok (cs, n) =>
        if n ≥ 2 then .error (.refused "UTF-16 stream does not start with BOM")
        else .ok (cs, n, .utf16 none)
  | .utf32Fixed little =>
    (Utf32.decodeFrom (Utf32.orderName little) little final [] 0 bytes).map
      fun (cs, n) => (cs, n, .utf32Fixed little)
  | .utf32 (some little) =>
    (Utf32.decodeFrom (Utf32.orderName little) little final [] 0 bytes).map
      fun (cs, n) => (cs, n, .utf32 (some little))
  | .utf32 none =>
    match bytes with
    | 0xFF :: 0xFE :: 0 :: 0 :: rest =>
      (Utf32.decodeFrom "utf-32-le" true final [] 4 rest).map fun (cs, n) => (cs, n, .utf32 (some true))
    | 0 :: 0 :: 0xFE :: 0xFF :: rest =>
      (Utf32.decodeFrom "utf-32-be" false final [] 4 rest).map fun (cs, n) => (cs, n, .utf32 (some false))
    | _ =>
      match Utf32.decodeFrom "utf-32-le" true final [] 0 bytes with
      | .error e => .error e
      | .ok (cs, n) =>
        if n ≥ 4 then .error (.refused "UTF-32 stream does not start with BOM")
        else .ok (cs, n, .utf32 none)
  | .undefined => .error (.refused "undefined encoding")
  | .escape => (Escape.decode final bytes).map fun (cs, n) => (cs, n, .escape)
  | .rawEscape => (Escape.decodeRaw final bytes).map fun (cs, n) => (cs, n, .rawEscape)
  | .utf7 => (Utf7.decode final bytes).map fun (cs, n) => (cs, n, .utf7)
  | .punycode => (Punycode.decode bytes).map fun (cs, n) => (cs, n, .punycode)
  | .idna => (Idna.decode final bytes).map fun (cs, n) => (cs, n, .idna)
  | .cjk e shift => (e.decode shift final bytes).map fun (cs, n, shift) => (cs, n, .cjk e shift)

end Decoder

end Weave
