import Weave.Config.Basic
import Weave.Yaml.Mark

/-! # Reading settings from a YAML file

A settings file is optional: a missing file, a blank one, and one whose document is
empty or false give the defaults. Otherwise the YAML reader given reads its document,
which must be a mapping; each field it names replaces the default, the version read as
text, and the output fields come from the `output` mapping. The settings read are
validated against the file.
-/

namespace Weave

def settingsFileName : String := "docpair.yaml"

namespace Settings

/-- Settings from the document of a settings file. -/
def ofDocument (file : String) (entries : List (Value × Value)) : Except Fault Settings := do
  let get (k : String) (d : Value) : Value := (Value.field? entries k).getD d
  let defaults : Settings := {}
  let output ← match (get "output" (.dict [])).view with
    | .dict es => pure es
    | _ => throw (.configInvalid "'output' must be a mapping" file)
  let outputField (k : String) (d : Value) : Value := (Value.field? output k).getD d
  let version ← (get "version" defaults.version).shown
  let s : Settings := {
    version := .str version
    root := get "root" defaults.root
    extensions := get "extensions" defaults.extensions
    skipDirs := get "skip_dirs" defaults.skipDirs
    encoding := get "encoding" defaults.encoding
    onError := get "on_error" defaults.onError
    logLevel := get "log_level" defaults.logLevel
    directives := get "directives" defaults.directives
    output := {
      indexDir := outputField "index_dir" defaults.output.indexDir
      sectionsFile := outputField "sections_file" defaults.output.sectionsFile
      typesFile := outputField "types_file" defaults.output.typesFile } }
  s.validate file
  return s

/-- Settings from the text of a settings file, `none` when there is no file, whose YAML is
read by `read`. -/
def load (read : String → Except Yaml.LoadError Value) (file : String) (content : Option String) :
    Except Fault Settings :=
  match content with
  | none => .ok {}
  | some raw =>
    let text := Text.universalNewlines raw
    if (Text.trimBlanks text).isEmpty then .ok {}
    else
      match read text with
      | .error (.rejected m) => .error (.configInvalid ("Invalid YAML: " ++ m) file)
      | .error (.scalar f) => .error f
      | .ok doc =>
        if !doc.truthy then .ok {}
        else match doc.view with
          | .dict entries => ofDocument file entries
          | _ => .error (.configInvalid "Top-level docpair config must be a mapping" file)

end Settings

end Weave
