import Weave.Cli.Spec
import Weave.Data.Literal
import Weave.Text.Digit

/-! # Reading a command line

Words are first sorted into options (`O`), arguments (`A`) and the separator `--` (`-`,
after which every word is an argument). A word is an option when it names one exactly,
names one before `=`, or is the start of exactly one long name, or, for a single dash,
starts with a short name whose value follows it; a word starting with a dash that names
no option is still an option, one that is then left over, unless it looks like a
negative number (a dash and decimal digits of any script, with at most one point, a line
feed allowed at the end) or holds a blank. A start that fits several long names is
refused.
-/

namespace Weave.Cli

/-- A value a command line leaves for an argument. -/
inductive ArgValue where
  | flag (b : Bool)
  | text (s : Option String)
  | texts (l : Option (List String))
deriving DecidableEq, Repr

abbrev Namespace := List (String × ArgValue)

/-- How reading a command line ends early: an exit code and what was written to the
output and error streams. -/
structure Exit where
  code : Nat
  stdout : String
  stderr : String
deriving Repr

/-- A command line that was read: the command chosen and the values. -/
structure Invocation where
  command : String
  values : Namespace
deriving Repr

/-- A word read as an option: the argument it names, if any, the option name, and the
value written in the word. -/
structure OptionHit where
  argument : Option Argument
  name : String
  explicit : Option String

def refuse (p : Program) (parser : Parser) (message : String) : Exit :=
  ⟨2, "", usage p parser ++ "\n" ++ parser.prog ++ ": error: " ++ message ++ "\n"⟩

def refuseArgument (p : Program) (parser : Parser) (a : Argument) (message : String) : Exit :=
  let name := if a.isOption then "/".intercalate a.names else a.dest
  refuse p parser ("argument " ++ name ++ ": " ++ message)

def optionNames (parser : Parser) : List (String × Argument) :=
  parser.arguments.flatMap fun a => a.names.map fun n => (n, a)

def partitionAt (s : String) : String × Option String :=
  match s.splitOn "=" with
  | [] | [_] => (s, none)
  | first :: rest => (first, some ("=".intercalate rest))

/-- Whether a word looks like a negative number: a dash and decimal digits of any script,
or a dash, digits, a point and at least one digit; one line feed may end the word. -/
def looksNegative (s : String) : Bool :=
  let cs := s.toList
  let cs := if cs.getLast? == some '\n' then cs.dropLast else cs
  match cs with
  | '-' :: rest =>
    let ds := rest.takeWhile Text.isDecimalDigit
    let after := rest.dropWhile Text.isDecimalDigit
    (!ds.isEmpty && after.isEmpty) ||
      (match after with
       | '.' :: frac => !frac.isEmpty && frac.all Text.isDecimalDigit
       | _ => false)
  | _ => false

/-- The options a word may stand for by a start of their names. -/
def optionTuples (parser : Parser) (word : String) : List OptionHit :=
  let names := optionNames parser
  match word.toList with
  | '-' :: '-' :: _ =>
    let (start, value) := partitionAt word
    names.filterMap fun (n, a) =>
      if n.startsWith start then some ⟨some a, n, value⟩ else none
  | '-' :: c :: rest =>
    let short := String.ofList ['-', c]
    names.filterMap fun (n, a) =>
      if n == short then some ⟨some a, n, some (String.ofList rest)⟩
      else if n.startsWith word then some ⟨some a, n, none⟩
      else none
  | _ => []

/-- Reads a word as an option, `none` for an argument. -/
def readOption (p : Program) (parser : Parser) (word : String) : Except Exit (Option OptionHit) :=
  let names := optionNames parser
  if word.isEmpty || !word.startsWith "-" then .ok none
  else match names.find? (·.1 == word) with
  | some (n, a) => .ok (some ⟨some a, n, none⟩)
  | none =>
    if word.length == 1 then .ok none
    else
      let (before, value) := partitionAt word
      match value, names.find? (·.1 == before) with
      | some v, some (n, a) => .ok (some ⟨some a, n, some v⟩)
      | _, _ =>
        match optionTuples parser word with
        | [hit] => .ok (some hit)
        | _ :: _ :: _ =>
          .error (refuse p parser ("ambiguous option: " ++ word ++ " could match " ++
            ", ".intercalate ((optionTuples parser word).map (·.name))))
        | [] =>
          if looksNegative word then .ok none
          else if word.contains ' ' then .ok none
          else .ok (some ⟨none, word, none⟩)

/-- The kinds of the words: `O` for an option, `A` for an argument, `-` for the
separator; and the options read. -/
def sortWords (p : Program) (parser : Parser) :
    List String → Bool → Except Exit (List Char × List (Option OptionHit))
  | [], _ => .ok ([], [])
  | w :: ws, afterSeparator => do
    if afterSeparator then
      let (k, hs) ← sortWords p parser ws true
      return ('A' :: k, none :: hs)
    if w == "--" then
      let (k, hs) ← sortWords p parser ws true
      return ('-' :: k, none :: hs)
    let hit ← readOption p parser w
    let (k, hs) ← sortWords p parser ws false
    return ((if hit.isSome then 'O' else 'A') :: k, hit :: hs)

/-- The counts of words an argument can take at the head of the kinds, the largest first. -/
def takeCounts (a : Argument) (kinds : List Char) : List Nat :=
  let downTo (hi lo : Nat) : List Nat := (List.range (hi + 1 - lo)).map fun i => hi - i
  if a.isOption then
    match a.arity with
    | .flag => [0]
    | _ => if kinds.head? == some 'A' then [1] else []
  else
    let dashes := (kinds.takeWhile (· == '-')).length
    let afterDashes := kinds.drop dashes
    match a.arity with
    | .one =>
      if afterDashes.head? == some 'A' then
        let trailing := (afterDashes.drop 1 |>.takeWhile (· == '-')).length
        downTo (dashes + 1 + trailing) (dashes + 1)
      else []
    | .many => downTo (kinds.takeWhile (fun c => c == 'A' || c == '-')).length 0
    | .command =>
      if afterDashes.head? == some 'A' then downTo kinds.length (dashes + 1) else []
    | .flag => [0]

def matchRun : List Argument → List Char → Option (List Nat)
  | [], _ => some []
  | a :: as, kinds =>
    (takeCounts a kinds).firstM fun n => (matchRun as (kinds.drop n)).map (n :: ·)

def matchPartial (args : List Argument) (kinds : List Char) : List Nat :=
  let tries := (List.range args.length).reverse.map fun i => args.take (i + 1)
  match tries.firstM (fun run => matchRun run kinds) with
  | some counts => counts
  | none => []

def dropSeparator (ws : List String) : List String :=
  match ws.idxOf? "--" with
  | some i => ws.eraseIdx i
  | none => ws

/-- The state of reading a command line. -/
structure ReadState where
  values : Namespace
  seen : List String
  extras : List String
  positionals : List Argument
  commandExtras : List String

def ReadState.set (s : ReadState) (dest : String) (v : ArgValue) : ReadState :=
  { s with values := (s.values.filter (·.1 != dest)) ++ [(dest, v)], seen := s.seen ++ [dest] }

abbrev CommandRunner := String → List String → Except Exit (Namespace × List String)

/-- Takes an argument with its words. -/
def takeArgument (p : Program) (parser : Parser) (run : CommandRunner) (s : ReadState)
    (a : Argument) (words : List String) : Except Exit ReadState :=
  if a.isHelp then .error ⟨0, helpText p parser, ""⟩
  else if a.isOption then
    match a.arity, dropSeparator words with
    | .flag, _ => .ok (s.set a.dest (.flag true))
    | _, w :: _ => .ok (s.set a.dest (.text (some w)))
    | _, [] => .ok (s.set a.dest (.text none))
  else
    match a.arity with
    | .one => .ok (s.set a.dest (.text (dropSeparator words).head?))
    | .many => .ok (s.set a.dest (.texts (some (dropSeparator words))))
    | .command =>
      match words with
      | name :: rest =>
        if p.commandNames.contains name then do
          let (values, left) ← run name rest
          let s := s.set a.dest (.text (some name))
          return values.foldl (fun s (k, v) => { s.set k v with seen := s.seen })
            { s with commandExtras := s.commandExtras ++ left }
        else .error (refuseArgument p parser a ("invalid choice: " ++ quoteText name ++
          " (choose from " ++ ", ".intercalate (p.commandNames.map quoteText) ++ ")"))
      | [] => .ok s
    | .flag => .ok s

/-- Takes as many positional arguments as match at `start`; the state and where they
stopped. -/
def takePositionals (p : Program) (parser : Parser) (run : CommandRunner) (words : List String)
    (kinds : List Char) (s : ReadState) (start : Nat) : Except Exit (ReadState × Nat) := do
  let counts := matchPartial s.positionals (kinds.drop start)
  let mut s := s
  let mut at_ := start
  for (a, n) in s.positionals.zip counts do
    s ← takeArgument p parser run s a ((words.drop at_).take n)
    at_ := at_ + n
  return ({ s with positionals := s.positionals.drop counts.length }, at_)

/-- Takes the option at `start` with its value; the state and where it stopped. -/
def takeOption (p : Program) (parser : Parser) (run : CommandRunner) (words : List String)
    (kinds : List Char) (hits : List (Option OptionHit)) (s : ReadState) (start : Nat) :
    Except Exit (ReadState × Nat) :=
  match hits.getD start none with
  | none => .ok (s, start + 1)
  | some hit =>
    let finish (s : ReadState) (stop : Nat) (taken : List (Argument × List String)) :
        Except Exit (ReadState × Nat) := do
      let mut s := s
      for (a, ws) in taken do
        s ← takeArgument p parser run s a ws
      return (s, stop)
    let rec chain : Nat → Argument → String → Option String →
        List (Argument × List String) → Except Exit (ReadState × Nat)
      | 0, _, _, _, _ => .ok (s, start + 1)
      | fuel + 1, a, name, explicit, taken =>
        match explicit with
        | some value =>
          let counts := takeCounts a ['A']
          let count := counts.head?.getD 0
          if counts.isEmpty then
            .error (refuseArgument p parser a "expected one argument")
          else if count == 0 && !name.startsWith "--" && !value.isEmpty then
            let taken := taken ++ [(a, [])]
            let next := String.ofList ['-', value.toList.headD ' ']
            match (optionNames parser).find? (·.1 == next) with
            | some (_, b) =>
              let rest := String.ofList (value.toList.drop 1)
              chain fuel b next (if rest.isEmpty then none else some rest) taken
            | none =>
              .error (refuseArgument p parser a ("ignored explicit argument " ++ quoteText value))
          else if count == 1 then finish s (start + 1) (taken ++ [(a, [value])])
          else .error (refuseArgument p parser a ("ignored explicit argument " ++ quoteText value))
        | none =>
          match takeCounts a (kinds.drop (start + 1)) with
          | n :: _ => finish s (start + 1 + n) (taken ++ [(a, (words.drop (start + 1)).take n)])
          | [] => .error (refuseArgument p parser a "expected one argument")
    match hit.argument with
    | none => .ok ({ s with extras := s.extras ++ [(words.getD start "")] }, start + 1)
    | some a => chain ((words.getD start "").length + 2) a hit.name hit.explicit []

def defaults (parser : Parser) : Namespace :=
  parser.arguments.filterMap fun a =>
    if a.isHelp then none
    else some (a.dest, match a.arity with
      | .flag => .flag false
      | .many => .texts none
      | _ => .text none)

/-- Reads the words for a parser: its values and the words it left. -/
def readKnown (p : Program) (parser : Parser) (run : CommandRunner) (words : List String) :
    Except Exit (Namespace × List String) := do
  let (kinds, hits) ← sortWords p parser words false
  let optionAt := (List.range words.length).filter fun i => (hits.getD i none).isSome
  let last := optionAt.getLast?
  let init : ReadState := ⟨defaults parser, [], [], parser.arguments.filter (!·.isOption), []⟩
  let rec loop : Nat → ReadState → Nat → Except Exit (ReadState × Nat)
    | 0, s, start => .ok (s, start)
    | fuel + 1, s, start =>
      match last with
      | none => .ok (s, start)
      | some lastAt =>
        if start > lastAt then .ok (s, start)
        else do
          let next := (optionAt.find? (· ≥ start)).getD start
          let mut s := s
          let mut start := start
          if start != next then
            let (s', stop) ← takePositionals p parser run words kinds s start
            s := s'
            if stop > start then
              return ← loop fuel s stop
            start := stop
          if !optionAt.contains start then
            s := { s with extras := s.extras ++ (words.drop start).take (next - start) }
            start := next
          let (s', stop) ← takeOption p parser run words kinds hits s start
          loop fuel s' stop
  let (s, start) ← loop (words.length + 2) init 0
  let (s, stop) ← takePositionals p parser run words kinds s start
  let s := { s with extras := s.extras ++ words.drop stop }
  let missing := parser.arguments.filter fun a => a.required && !s.seen.contains a.dest
  if !missing.isEmpty then
    throw (refuse p parser ("the following arguments are required: " ++
      ", ".intercalate (missing.map (·.dest))))
  return (s.values, s.extras ++ s.commandExtras)

/-- Reads a command line of the program. -/
def readCommandLine (p : Program) (argv : List String) : Except Exit Invocation := do
  let run : CommandRunner := fun name rest =>
    match p.commands.find? (·.name == name) with
    | some c => readKnown p c.parser (fun _ _ => .ok ([], [])) rest
    | none => .ok ([], rest)
  let (values, left) ← readKnown p p.main run argv
  if !left.isEmpty then
    throw (refuse p p.main ("unrecognized arguments: " ++ " ".intercalate left))
  let command := match values.lookup "command" with
    | some (.text (some c)) => c
    | _ => ""
  return ⟨command, values⟩

end Weave.Cli
