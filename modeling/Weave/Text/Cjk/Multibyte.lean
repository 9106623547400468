import Weave.Text.Decode.Failure

/-! # Decoding multibyte encodings

A multibyte encoding is decoded one sequence at a time. A *step* looks at the bytes from
the current position and either reads a sequence into characters, says that the bytes
end before the sequence does, or finds the first bytes illegal. Some encodings keep a state
from one sequence to the next, such as the character set shifted in.
-/

namespace Weave.Cjk

/-- What a step makes of the bytes from the current position. -/
inductive Step (σ : Type) where
  | chars (cs : List Char) (length : Nat) (state : σ)
  | cut
  | invalid (length : Nat)
  | internal

def maxPending : Nat := 8

def asciiChar (b : UInt8) : Char :=
  Char.ofNat b.toNat

/-- Decodes bytes with a step, `pos` of them used and `acc` the characters so far, the last
first; the characters, the bytes used and the state after. -/
def decodeSteps {σ : Type} (codec : String) (step : σ → List UInt8 → Step σ) (final : Bool)
    (state : σ) (acc : List Char) (pos : Nat) (bytes : List UInt8) :
    Except DecodeFailure (List Char × Nat × σ) :=
  match _h : bytes with
  | [] => .ok (acc.reverse, pos, state)
  | b :: _ =>
    match step state bytes with
    | .chars cs n state' =>
      if _hn : 0 < n then
        decodeSteps codec step final state' (cs.reverse ++ acc) (pos + n) (bytes.drop n)
      else .ok (acc.reverse, pos, state)
    | .cut =>
      if final then
        .error (.invalid ⟨codec, b, pos, pos + bytes.length, "incomplete multibyte sequence"⟩)
      else if bytes.length > maxPending then .error (.refused "pending buffer overflow")
      else .ok (acc.reverse, pos, state)
    | .invalid n => .error (.invalid ⟨codec, b, pos, pos + n, "illegal multibyte sequence"⟩)
    | .internal => .error .internal
termination_by bytes.length
decreasing_by simp [_h]; omega

def stateless (read : List UInt8 → Step Unit) : Unit → List UInt8 → Step Unit :=
  fun _ bytes => read bytes

def pairStep (lookup : UInt8 → UInt8 → Option (List Char)) (lead : UInt8) (rest : List UInt8) :
    Step Unit :=
  match rest with
  | [] => .cut
  | trail :: _ =>
    match lookup lead trail with
    | some cs => .chars cs 2 ()
    | none => .invalid 1

end Weave.Cjk
