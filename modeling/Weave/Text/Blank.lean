/-! # Blank characters

A character is blank when it separates words of text: the five ASCII controls from tab
to carriage return, the four information separators, the spaces of the Unicode space
separator category, the next-line control and the line and paragraph separators. There
are 29 of them. Removing every blank from two texts is how lines are compared when only
their visible content matters.
-/

namespace Weave.Text

/-- The 29 blank characters of Unicode 14: `\t` to `\r`, `\x1c` to `\x1f`, the space,
`\x85`, the no-break space, the ogham space mark, the spaces U+2000 to U+200A,
the line and paragraph separators, and the narrow no-break, mathematical and
ideographic spaces. -/
def isBlank (c : Char) : Bool :=
  let n := c.toNat
  (9 ≤ n && n ≤ 13) || (0x1c ≤ n && n ≤ 0x20) || n == 0x85 || n == 0xa0 || n == 0x1680 ||
    (0x2000 ≤ n && n ≤ 0x200a) || n == 0x2028 || n == 0x2029 || n == 0x202f ||
    n == 0x205f || n == 0x3000

theorem isBlank_of_isWhitespace {c : Char} (h : c.isWhitespace = true) : isBlank c = true := by
  simp only [Char.isWhitespace, Bool.or_eq_true, decide_eq_true_eq] at h
  rcases h with ((rfl | rfl) | rfl) | rfl <;> decide

def visible (s : String) : List Char :=
  s.toList.filter (fun c => !isBlank c)

def trimBlanksLeft (s : String) : String :=
  String.ofList (s.toList.dropWhile isBlank)

def trimBlanksRight (s : String) : String :=
  String.ofList (s.toList.reverse.dropWhile isBlank).reverse

def trimBlanks (s : String) : String :=
  trimBlanksRight (trimBlanksLeft s)

def words (s : String) : List String :=
  ((s.toList.splitOnP isBlank).filter (fun w => !w.isEmpty)).map String.ofList

theorem visible_append (s t : String) : visible (s ++ t) = visible s ++ visible t := by
  simp [visible, List.filter_append]

/-- The characters `cs` with their line ends made line feeds, after the characters `acc`
already done, last first: a carriage return becomes a line feed, and a line feed right after
one (`afterReturn`) is the end of the same line and is dropped. -/
def newlinesAfter (acc : List Char) (afterReturn : Bool) : List Char → List Char
  | [] => acc.reverse
  | c :: rest =>
    if c = '\r' then newlinesAfter ('\n' :: acc) true rest
    else if c = '\n' && afterReturn then newlinesAfter acc false rest
    else newlinesAfter (c :: acc) false rest

def universalNewlines (s : String) : String :=
  String.ofList (newlinesAfter [] false s.toList)

end Weave.Text
