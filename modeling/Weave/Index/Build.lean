import Weave.Run.Pipeline

/-! # Index documents

A run gives two documents: the sections index, with each parsed file's size, line count,
page and sections and the failures of the run; and the types index, with the registry.
Both carry the schema version and the time they were made.
-/

namespace Weave

def schemaVersion : String := "1.0"

def ParsedFile.entry (p : ParsedFile) : Except Fault Value := do
  let page ← outputPath p.relPath
  return .dict [(.str "size", .str p.size), (.str "line_count", .int p.lines.length),
    (.str "output_path", .str page), (.str "sections", .list (p.sections.map Section.toValue))]

def sectionsIndex (generated : String) (r : RunResult) : Except Fault Value := do
  let entries ← r.files.mapM fun p => do return (p.relPath, ← p.entry)
  let files := entries.foldl (fun acc (k, v) => Value.store acc (.str k) v) []
  return .dict [(.str "schema_version", .str schemaVersion), (.str "generated", .str generated),
    (.str "file_count", .int r.files.length), (.str "files", .dict files),
    (.str "failures", .list (r.failures.map ParseFailure.toValue))]

def typesIndex (generated : String) (reg : Registry) : Value :=
  .dict [(.str "schema_version", .str schemaVersion), (.str "generated", .str generated),
    (.str "type_count", .int reg.size), (.str "types", reg.toValue)]

end Weave
