import Weave.Registry.Basic
import Weave.Data.Items
import Weave.Data.Json.Read
import Weave.Text.Blank

/-! # Reading a saved types index

A types index is a JSON mapping whose `types` entry lists declaration mappings. A missing
file, a text that is no JSON, and the JSON null give no registry; a fault met while
reading the JSON stands; any other document must be a mapping, and the declarations under `types` (none when it is absent) are added
to an empty registry in order.
-/

namespace Weave

namespace Registry

/-- The registry of a saved types index, `none` when there is no file. -/
def ofIndex (content : Option String) : Except Fault (Option Registry) :=
  match content with
  | none => .ok none
  | some text => do
    match ← Json.parse (Text.universalNewlines text) with
    | none | some .null => .ok none
    | some (.dict es) => do
      let entries ← ((Value.field? es "types").getD (.list [])).items
      return some (← ofValues entries)
    | some v => .error (.noAttribute v.typeName "get")

end Registry

end Weave
