import Weave.Text.Codec

/-! # Reading a text file in chunks

A text file is read in calls for 8192 characters each, until a call gives none. A call
hands out characters decoded before, then reads chunks of bytes until it has enough or
the file ends. A chunk is at least 8192 bytes, more when the characters still wanted,
times the bytes per character of the last chunk, are more; the end of the file shows as
an empty chunk, decoded as the final call. Where the chunks fall decides where a report
of bytes that cannot be decoded counts its positions from, so the text read is the same
for every split but the reports are not.
-/

namespace Weave

def chunkSize : Nat := 8192

/-- A text file being read. -/
structure TextStream where
  decoder : Decoder
  rest : List UInt8
  pending : List UInt8
  ratio : Float
  buffered : Nat
  decoded : List (List Char)

namespace TextStream

def start (c : Codec) (bytes : List UInt8) : TextStream :=
  ⟨Decoder.ofCodec c, bytes, [], 0, 0, []⟩

/-- Reads and decodes one chunk for a call that still wants `wanted` characters; `false`
when the file has ended and the final decoding gave nothing. -/
def readChunk (s : TextStream) (wanted : Nat) : Except DecodeFailure (TextStream × Bool) := do
  let factor : Float := if s.ratio < 1 then 1 else s.ratio
  let hint := (factor * Float.ofNat wanted).toUInt64.toNat
  let size := max chunkSize hint
  let chunk := s.rest.take size
  let eof := chunk.isEmpty
  let input := s.pending ++ chunk
  let (cs, used, d) ← s.decoder.feed input eof
  let n := cs.length
  let ratio := if n > 0 then Float.ofNat chunk.length / Float.ofNat n else 0
  let s' : TextStream := ⟨d, s.rest.drop size, input.drop used, ratio, s.buffered + n, cs :: s.decoded⟩
  return (s', !eof || n > 0)

def read (s : TextStream) (n : Nat) : Except DecodeFailure (TextStream × Nat) :=
  let first := min n s.buffered
  go (s.rest.length + 3) { s with buffered := s.buffered - first } (n - first)
where
  go : Nat → TextStream → Nat → Except DecodeFailure (TextStream × Nat)
    | 0, s, remaining => .ok (s, n - remaining)
    | fuel + 1, s, remaining =>
      if remaining == 0 then .ok (s, n)
      else do
        let (s', more) ← s.readChunk remaining
        if !more then return (s', n - remaining)
        let got := min remaining s'.buffered
        go fuel { s' with buffered := s'.buffered - got } (remaining - got)

def readAll (s : TextStream) : Except DecodeFailure String :=
  go (s.rest.length + 3) s
where
  go : Nat → TextStream → Except DecodeFailure String
    | 0, s => .ok (String.ofList s.decoded.reverse.flatten)
    | fuel + 1, s => do
      let (s', got) ← s.read chunkSize
      if got == 0 then return String.ofList s'.decoded.reverse.flatten
      go fuel s'

end TextStream

def readText (c : Codec) (bytes : List UInt8) : Except DecodeFailure String :=
  (TextStream.start c bytes).readAll

end Weave
