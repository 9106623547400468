/-! # Why bytes give no text

A decoder refuses bytes in one of two ways. A *decoding error* names the bytes: the
encoding's name in reports, the first of the bytes, the positions from and up to where
they stand, counted from the start of the bytes given to the decoding call, and why; it
reads "'utf-8' codec can't decode byte 0xff in position 3: invalid start byte", or with
a range of positions when more than one byte is named. A *refusal* names no bytes, only a
reason: a UTF-16 text without a byte order mark, the encoding that decodes nothing, or a
label that a name encoding cannot read. A decoder may also fail inside, when its state
allows no reading at all, as a single shift to a register that holds no set of single
bytes.
-/

namespace Weave

/-- Bytes a decoder cannot decode: the encoding's name in reports, the first byte, the
positions from and up to, and why. -/
structure DecodeError where
  codec : String
  byte : UInt8
  start : Nat
  stop : Nat
  reason : String
deriving Repr

def hexByte (b : UInt8) : String :=
  let digits := Nat.toDigits 16 b.toNat
  String.ofList (List.replicate (2 - digits.length) '0' ++ digits)

def DecodeError.message (e : DecodeError) : String :=
  if e.stop == e.start + 1 then
    "'" ++ e.codec ++ "' codec can't decode byte 0x" ++ hexByte e.byte ++ " in position " ++
      toString e.start ++ ": " ++ e.reason
  else
    "'" ++ e.codec ++ "' codec can't decode bytes in position " ++ toString e.start ++ "-" ++
      toString (e.stop - 1) ++ ": " ++ e.reason

/-- Why bytes give no text. -/
inductive DecodeFailure where
  | invalid (e : DecodeError)
  | refused (reason : String)
  | internal
deriving Repr

abbrev Decoding := Except DecodeFailure (List Char × Nat)

def DecodeError.over (codec : String) (bytes : List UInt8) (start stop : Nat) (reason : String) :
    DecodeError :=
  ⟨codec, bytes.getD start 0, start, stop, reason⟩

end Weave
