import Weave.Fault

/-! # Log records

Steps of a run report what they do as log records: a level, the part of the program
that speaks, and a message. A command-line run shows the records at or above a chosen
level, one line each.
-/

namespace Weave

/-- The levels of log records, from the least to the most severe. -/
inductive LogLevel where
  | debug
  | info
  | warning
  | error
  | critical
deriving DecidableEq, Repr

namespace LogLevel

def name : LogLevel → String
  | debug => "DEBUG"
  | info => "INFO"
  | warning => "WARNING"
  | error => "ERROR"
  | critical => "CRITICAL"

def rank : LogLevel → Nat
  | debug => 10
  | info => 20
  | warning => 30
  | error => 40
  | critical => 50

def ofName (s : String) : LogLevel :=
  match s with
  | "DEBUG" => debug
  | "INFO" => info
  | "ERROR" => error
  | "CRITICAL" => critical
  | _ => warning

end LogLevel

/-- A log record. -/
structure LogRecord where
  level : LogLevel
  source : String
  message : String
deriving Repr

def pipelineSource : String := "scripts.docpair.pipeline"

def sourcesSource : String := "scripts.docpair.sources"

def LogRecord.line (r : LogRecord) : String :=
  r.level.name ++ " " ++ r.source ++ ": " ++ r.message

def shownLines (threshold : LogLevel) (rs : List LogRecord) : List String :=
  (rs.filter fun r => r.level.rank ≥ threshold.rank).map LogRecord.line

end Weave
