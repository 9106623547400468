import Weave.Yaml.Construct

/-! # Loading a YAML text

A YAML text is first checked for characters that may not stand in it, then read as a
stream of at most one document, whose node is read into a value with the standard tags.
An empty stream is null. A text that is no YAML gives the worded report of what is wrong
and where; a scalar that its type cannot read gives the fault of that reading.
-/

namespace Weave.Yaml

/-- Whether a character may stand in a YAML text: tab, line feed, carriage return, the
printable ASCII characters, next line, and the rest of Unicode apart from the C1
controls, the surrogates (held as their stand-ins) and the two non-characters at the end of
the basic plane. -/
def isAcceptable (c : Char) : Bool :=
  let n := (Text.surrogate? c).getD c.toNat
  n == 0x09 || n == 0x0A || n == 0x0D || (0x20 ≤ n && n ≤ 0x7E) || n == 0x85 ||
    (0xA0 ≤ n && n ≤ 0xD7FF) || (0xE000 ≤ n && n ≤ 0xFFFD) || (0x10000 ≤ n && n ≤ 0x10FFFF)

def firstUnacceptable (cs : List Char) : Option (Char × Nat) :=
  (cs.zipIdx.find? fun (c, _) => !isAcceptable c)

/-- Reads a YAML text into a value. -/
def load (text : String) : Except LoadError Value :=
  let cs := text.toList
  match firstUnacceptable cs with
  | some (c, i) =>
    .error (.rejected ((YamlError.unacceptable ((Text.surrogate? c).getD c.toNat) i).message #[]))
  | none =>
    let parser := Parser.start text
    let buffer := parser.scanner.buffer
    match Events.composeSingle.run ⟨parser, none, [], 0⟩ with
    | .error (.fault f) _ => .error (.scalar f)
    | .error e _ => .error (.rejected (e.message buffer))
    | .ok none _ => .ok .null
    | .ok (some n) s =>
      match construct s.made n with
      | .ok v => .ok v
      | .error (.yaml (.fault f)) => .error (.scalar f)
      | .error (.yaml e) => .error (.rejected (e.message buffer))
      | .error (.value f) => .error (.scalar f)

end Weave.Yaml
