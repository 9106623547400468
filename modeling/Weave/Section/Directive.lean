import Weave.Text.Blank
import Weave.Text.Word

/-! # Commented-out directives

A comment line that holds a commented-out preprocessor directive, such as
`// #region Helpers`, is left out of the prose. A line is such a directive for a list of
keywords when it is blanks, `//`, blanks, `#` and one of the keywords, followed by a word
boundary: the keyword's last character (the `#` for the empty keyword) and the character
after it, or the end of the line, differ in being word characters. The keywords are
alternatives of which an empty list offers one, the empty keyword.
-/

namespace Weave

open Weave.Text

def defaultDirectives : List String :=
  ["if", "else", "elif", "endif", "define", "undef", "warning", "error", "line", "region",
    "endregion", "pragma", "nullable"]

def boundaryAfter (before : Char) (rest : List Char) : Bool :=
  isWordChar before != (rest.head?.map isWordChar).getD false

def keywordOpens (rest : List Char) (keyword : String) : Bool :=
  let k := keyword.toList
  k.isPrefixOf rest && boundaryAfter (k.getLastD '#') (rest.drop k.length)

def alternatives (keywords : List String) : List String :=
  if keywords.isEmpty then [""] else keywords

def isDirectiveLine (keywords : List String) (text : String) : Bool :=
  match text.toList.dropWhile isBlank with
  | '/' :: '/' :: rest =>
    match rest.dropWhile isBlank with
    | '#' :: after => (alternatives keywords).any (keywordOpens after)
    | _ => false
  | _ => false

end Weave
