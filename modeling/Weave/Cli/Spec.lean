import Weave.Text.Blank

/-! # Command-line grammar

A command line is read by a parser: options, each with its names, and positional
arguments, each taking one word, any number of words, or a command name with all the
words after it. Every parser has a help option first. The program's main parser takes a
command, and each command has a parser of its own.
-/

namespace Weave.Cli

/-- How many words an argument takes. -/
inductive Arity where
  | flag
  | one
  | many
  | command
deriving DecidableEq, Repr

/-- An argument of a parser: an option when it has names, else a positional argument. -/
structure Argument where
  names : List String
  dest : String
  arity : Arity
  help : String
deriving Repr

namespace Argument

def isOption (a : Argument) : Bool := !a.names.isEmpty

def helpOption : Argument :=
  ⟨["-h", "--help"], "help", .flag, "show this help message and exit"⟩

def isHelp (a : Argument) : Bool := a.dest == "help" && a.isOption

def required (a : Argument) : Bool := !a.isOption

end Argument

/-- A parser: the program name it reports, a description, and its arguments, the help
option first. -/
structure Parser where
  prog : String
  description : Option String
  arguments : List Argument
deriving Repr

/-- A command: its name, its help, and its parser. -/
structure Command where
  name : String
  help : String
  parser : Parser
deriving Repr

/-- A program: the main parser and the commands its command argument chooses from. -/
structure Program where
  main : Parser
  commands : List Command
deriving Repr

def commonOptions : List Argument := [
  ⟨["--config", "-c"], "config", .one, "Path to config file (default: docpair.yaml)"⟩,
  ⟨["--root"], "root", .one,
    "Root directory for relative paths (default: config root or current directory)"⟩,
  ⟨["--verbose", "-v"], "verbose", .flag, "Enable debug logging"⟩]

/-- The command line of the program. -/
def program : Program where
  main := ⟨"docpair",
    some "Split annotated source files into comment/code sections and index their types",
    [Argument.helpOption, ⟨[], "command", .command, ""⟩]⟩
  commands := [
    ⟨"build", "Parse sources and write the sections and types indexes",
      ⟨"docpair build", none,
        [Argument.helpOption,
         ⟨[], "paths", .many, "Source files or directories (default: root)"⟩,
         ⟨["--skip-errors"], "skip_errors", .flag,
          "Skip files that fail to parse instead of aborting"⟩] ++ commonOptions⟩⟩,
    ⟨"parse", "Print one file's sections and types as JSON",
      ⟨"docpair parse", none,
        [Argument.helpOption, ⟨[], "file", .one, "Source file"⟩] ++ commonOptions⟩⟩,
    ⟨"types", "Query the types index",
      ⟨"docpair types", none,
        [Argument.helpOption,
         ⟨["--file"], "file", .one, "Only types declared in this relative path"⟩,
         ⟨["--name"], "name", .one, "Only types with this name"⟩] ++ commonOptions⟩⟩]

def lineWidth : Nat := 78

def Program.commandNames (p : Program) : List String :=
  p.commands.map Command.name

def Argument.metavar (p : Program) (a : Argument) : String :=
  if a.isOption then a.dest.toUpper
  else if a.arity == .command then "\x7b" ++ ",".intercalate p.commandNames ++ "\x7d"
  else a.dest

def Argument.usageParts (p : Program) (a : Argument) : List String :=
  match a.names, a.arity with
  | n :: _, .flag => ["[" ++ n ++ "]"]
  | n :: _, _ => ["[" ++ n ++ " " ++ a.metavar p ++ "]"]
  | [], .one => [a.metavar p]
  | [], .many => ["[" ++ a.metavar p ++ " ...]"]
  | [], _ => [a.metavar p, "..."]

def Argument.invocation (p : Program) (a : Argument) : String :=
  if !a.isOption then a.metavar p
  else if a.arity == .flag then ", ".intercalate a.names
  else ", ".intercalate (a.names.map fun n => n ++ " " ++ a.metavar p)

/-- Lays parts out in lines of at most `lineWidth` characters, each line after `indent`;
the first line starts `first` characters in. -/
def layoutParts (indent : String) (first : Nat) (parts : List String) : List String :=
  let step (acc : List (List String) × List String × Nat) (part : String) :=
    let (lines, line, len) := acc
    if len + 1 + part.length > lineWidth && !line.isEmpty then
      (lines ++ [line], [part], indent.length - 1 + part.length + 1)
    else (lines, line ++ [part], len + part.length + 1)
  let (lines, line, _) := parts.foldl step ([], [], first - 1)
  let all := if line.isEmpty then lines else lines ++ [line]
  all.map fun l => indent ++ " ".intercalate l

/-- The usage text of a parser, without its final line end. -/
def usage (p : Program) (parser : Parser) : String :=
  let prefix_ := "usage: "
  let optionals := parser.arguments.filter Argument.isOption
  let positionals := parser.arguments.filter (!·.isOption)
  let optParts := optionals.flatMap (·.usageParts p)
  let posParts := positionals.flatMap (·.usageParts p)
  let full := " ".intercalate (parser.prog :: optParts ++ posParts)
  if prefix_.length + full.length ≤ lineWidth then prefix_ ++ full
  else if 4 * (prefix_.length + parser.prog.length) ≤ 3 * lineWidth then
    let indent := String.ofList (List.replicate (prefix_.length + parser.prog.length + 1) ' ')
    let lines :=
      if !optParts.isEmpty then
        let first := layoutParts indent prefix_.length (parser.prog :: optParts)
        let first := match first with
          | l :: rest => String.ofList (l.toList.drop indent.length) :: rest
          | [] => []
        first ++ layoutParts indent indent.length posParts
      else
        match layoutParts indent prefix_.length (parser.prog :: posParts) with
        | l :: rest => String.ofList (l.toList.drop indent.length) :: rest
        | [] => []
    prefix_ ++ "\n".intercalate lines
  else
    let indent := String.ofList (List.replicate prefix_.length ' ')
    let both := layoutParts indent indent.length (optParts ++ posParts)
    let lines := if both.length > 1 then
        layoutParts indent indent.length optParts ++ layoutParts indent indent.length posParts
      else both
    prefix_ ++ "\n".intercalate (parser.prog :: lines)

/-- Wraps a text at blanks into lines of at most `width` characters. -/
def wrapWords (width : Nat) (text : String) : List String :=
  let words := Text.words text
  let step (acc : List String × String) (w : String) :=
    let (lines, line) := acc
    if line.isEmpty then (lines, w)
    else if line.length + 1 + w.length ≤ width then (lines, line ++ " " ++ w)
    else (lines ++ [line], w)
  let (lines, line) := words.foldl step ([], "")
  if line.isEmpty then lines else lines ++ [line]

def spaces (n : Nat) : String := String.ofList (List.replicate n ' ')

/-- The help line or lines of an argument, its head indented by `indent`. -/
def helpEntry (helpPosition indent : Nat) (head help : String) : String :=
  let helpWidth := max (lineWidth - helpPosition) 11
  let headWidth := helpPosition - indent - 2
  let lines := wrapWords helpWidth help
  match lines with
  | [] => spaces indent ++ head ++ "\n"
  | first :: rest =>
    let start := if head.length ≤ headWidth then
        spaces indent ++ head ++ spaces (headWidth - head.length) ++ "  " ++ first ++ "\n"
      else spaces indent ++ head ++ "\n" ++ spaces helpPosition ++ first ++ "\n"
    start ++ String.join (rest.map fun l => spaces helpPosition ++ l ++ "\n")

/-- The full help text of a parser. -/
def helpText (p : Program) (parser : Parser) : String :=
  let optionals := parser.arguments.filter Argument.isOption
  let positionals := parser.arguments.filter (!·.isOption)
  let commandHeads : List (String × String) :=
    if positionals.any (·.arity == .command) then p.commands.map fun c => (c.name, c.help) else []
  let widths := parser.arguments.map (fun a => (a.invocation p).length + 2) ++
    commandHeads.map fun (n, _) => n.length + 4
  let helpPosition := min (widths.foldl max 0 + 2) 24
  let entry (a : Argument) : String :=
    helpEntry helpPosition 2 (a.invocation p) a.help ++
      (if a.arity == .command then
        String.join (commandHeads.map fun (n, h) => helpEntry helpPosition 4 n h)
      else "")
  let section_ (title : String) (args : List Argument) : String :=
    if args.isEmpty then "" else title ++ ":\n" ++ String.join (args.map entry)
  let parts := [usage p parser ++ "\n"] ++
    (match parser.description with
      | some d => ["\n".intercalate (wrapWords lineWidth d) ++ "\n"]
      | none => []) ++
    [section_ "positional arguments" positionals, section_ "options" optionals]
  "\n".intercalate (parts.filter (!·.isEmpty))

end Weave.Cli
