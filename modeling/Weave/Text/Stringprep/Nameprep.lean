import Weave.Text.Stringprep.Normalize
import Weave.Text.Stringprep.Tables
import Weave.Text.Lower
import Weave.Text.Surrogate

/-! # Preparing names

A name is prepared for the domain name system (RFC 3491) in four steps: characters of table
B.1 are dropped and the others case-folded by table B.2; the text is put in normal form KC;
prohibited characters are refused; and a text with a right-to-left character must hold no
left-to-right one and must start and end with right-to-left characters.
-/

namespace Weave.Text.Stringprep

/-- Why a name cannot be prepared. -/
inductive PrepError where
  | prohibited (c : Char)
  | mixedDirections
  | unanchoredDirection
deriving DecidableEq, Repr

def foldB3 (c : Char) : List Char :=
  (foldingExceptions.get? c).getD (lowerAfter [] [c])

def foldB2 (c : Char) : List Char :=
  let folded := foldB3 c
  let normal := normalizeKC folded
  let again := normalizeKC (normal.flatMap foldB3)
  if normal != again then again else folded

def codeOf (c : Char) : Nat :=
  (surrogate? c).getD c.toNat

/-- Whether a character may not stand in a prepared name: a space other than the ASCII
one, a control character from `0x80`, a private use character, a noncharacter, a
surrogate, or one of the characters of tables C.6 to C.9 (tables C.1.2 to C.9). -/
def isProhibited (c : Char) : Bool :=
  let n := codeOf c
  (inRanges spaceRanges n && n != 0x20) ||
  (n ≥ 0x80 && (inRanges controlRanges n || otherControls.contains n)) ||
  inRanges privateUseRanges n ||
  (0xFDD0 ≤ n && n < 0xFDF0) || n % 0x10000 == 0xFFFE || n % 0x10000 == 0xFFFF ||
  isSurrogateCode n ||
  (0xFFF9 ≤ n && n ≤ 0xFFFD) ||
  (0x2FF0 ≤ n && n ≤ 0x2FFB) ||
  [0x340, 0x341, 0x200E, 0x200F].contains n || (0x202A ≤ n && n ≤ 0x202E) ||
    (0x206A ≤ n && n ≤ 0x206F) ||
  n == 0xE0001 || (0xE0020 ≤ n && n ≤ 0xE007F)

def isRightToLeft (c : Char) : Bool :=
  inRanges rightToLeftRanges (codeOf c)

def isLeftToRight (c : Char) : Bool :=
  inRanges leftToRightRanges (codeOf c)

/-- A name prepared for the domain name system. -/
def nameprep (label : List Char) : Except PrepError (List Char) := do
  let mapped := (label.filter fun c => !mappedToNothing.contains (codeOf c)).flatMap foldB2
  let normal := normalizeKC mapped
  if let some c := normal.find? isProhibited then throw (.prohibited c)
  if normal.any isRightToLeft then
    if normal.any isLeftToRight then throw .mixedDirections
    if !(normal.head?.any isRightToLeft && normal.getLast?.any isRightToLeft) then
      throw .unanchoredDirection
  pure normal

end Weave.Text.Stringprep
