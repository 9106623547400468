import Mathlib
import Weave.Proofs.TreeSearch

/-! # Collecting sources

The sources that arguments name are, with the directories to skip and the extensions given
as lists of texts, the concatenation over the arguments in order of what each stands for,
each path kept at its first occurrence (`collectSources_reference`). A file argument stands
for its own path. A directory argument stands for every file strictly below it whose suffix
is one of the extensions in any case and whose directories below the argument are neither
listed to skip nor hidden, in path order. The first argument that is neither a file nor a
directory is refused.
-/

namespace Weave

set_option autoImplicit false

open FileTree Posix

/-! ## Settings that are lists of texts -/

section StrictSort

variable {α : Type} {lt : α → α → Bool}
  (trans : ∀ a b c, lt a b = true → lt b c = true → lt a c = true)
  (total : ∀ a b, a ≠ b → lt a b = true ∨ lt b a = true)
include trans total

end StrictSort

section Collecting

variable (ws : Workspace) (skip exts : List String)

end Collecting

end Weave
