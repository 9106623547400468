import Mathlib
import Weave.Proofs.PageLinks
import Weave.Run.Sources

/-! # Searching a directory of a file tree

A file tree as a file system holds one (`FileTree.WellFormed`) keeps every entry at the path
of its names, each path once, and the directory of every entry. The children of a directory
are then the entries one name below it, each with its own name, and every directory on the
way down to an entry is itself an entry.
-/

namespace Weave

set_option autoImplicit false

namespace FileTree

open Posix

/-! ## Paths of proper names -/

section Names

variable {ns ds : List String}

theorem pathOf_eq (ns : List String) :
    pathOf ns = String.ofList (List.replicate 1 '/') ++ "/".intercalate ns := rfl

theorem nonemptyNames_pathOf (hns : ∀ n ∈ ns, Proper n) : nonemptyNames (pathOf ns) = ns := by
  rw [pathOf_eq]
  exact nonemptyNames_of_proper 1 hns

theorem pathOf_inj {ns' : List String} (hns : ∀ n ∈ ns, Proper n) (hns' : ∀ n ∈ ns', Proper n)
    (h : pathOf ns = pathOf ns') : ns = ns' := by
  rw [← nonemptyNames_pathOf hns, h, nonemptyNames_pathOf hns']

theorem parentOf_pathOf (hns : ∀ n ∈ ns, Proper n) : parentOf (pathOf ns) = pathOf ns.dropLast := by
  rw [parentOf, nonemptyNames_pathOf hns]
  rfl

theorem pathOf_ne_root (hns : ∀ n ∈ ns, Proper n) (hne : ns ≠ []) : pathOf ns ≠ "/" := by
  intro h
  have hNames := nonemptyNames_pathOf hns
  rw [h, show nonemptyNames "/" = [] from rfl] at hNames
  exact hne hNames.symm

end Names

/-! ## Well-formed trees -/

/-- A file tree as a file system holds one: every entry stands at the path of a nonempty list
of proper names, no path stands twice, and the directory of every entry is there. -/
structure WellFormed (t : FileTree) : Prop where
  named : ∀ q ∈ t.entries, ∃ ns, q.1 = pathOf ns ∧ ns ≠ [] ∧ ∀ n ∈ ns, Proper n
  unique : (t.entries.map Prod.fst).Nodup
  parent : ∀ q ∈ t.entries, t.isDir (parentOf q.1) = true

section WellFormed

variable {t : FileTree} (ht : t.WellFormed)
include ht

theorem WellFormed.eq_of_key {q q' : String × Entry} (hq : q ∈ t.entries) (hq' : q' ∈ t.entries)
    (hKey : q.1 = q'.1) : q = q' :=
  List.inj_on_of_nodup_map ht.unique hq hq' hKey

theorem WellFormed.ne_root {q : String × Entry} (hq : q ∈ t.entries) : q.1 ≠ "/" := by
  obtain ⟨ns, hq1, hne, hns⟩ := ht.named q hq
  rw [hq1]
  exact pathOf_ne_root hns hne

theorem WellFormed.find?_eq {p : String} {e : Entry} (h : (p, e) ∈ t.entries) :
    t.find? p = some e := by
  have hRoot : p ≠ "/" := ht.ne_root h
  obtain ⟨q, hFind⟩ : ∃ q, t.entries.find? (·.1 == p) = some q :=
    Option.isSome_iff_exists.1 (List.find?_isSome.2 ⟨(p, e), h, by simp⟩)
  have hq : q = (p, e) :=
    ht.eq_of_key (List.mem_of_find?_eq_some hFind) h (by simpa using List.find?_some hFind)
  simp [find?, hRoot, hFind, hq]

theorem WellFormed.isDir_iff {p : String} :
    t.isDir p = true ↔ p = "/" ∨ (p, .dir) ∈ t.entries := by
  constructor
  · intro h
    unfold isDir find? at h
    split at h
    · rename_i hRoot
      exact .inl (by simpa using hRoot)
    · right
      obtain ⟨a, ha⟩ : ∃ a, t.entries.find? (·.1 == p) = some (a, .dir) := by simpa using h
      have hKey : a = p := by simpa using List.find?_some ha
      rw [← hKey]
      exact List.mem_of_find?_eq_some ha
  · rintro (rfl | h)
    · rfl
    · simp [isDir, ht.find?_eq h]

end WellFormed

/-! ## Children and ancestors -/

section Children

variable {t : FileTree} (ht : t.WellFormed)
include ht

theorem WellFormed.parent_entry {ns : List String} {e : Entry} (h : (pathOf ns, e) ∈ t.entries)
    (hns : ∀ n ∈ ns, Proper n) (hne : ns.dropLast ≠ []) : (pathOf ns.dropLast, .dir) ∈ t.entries := by
  have hDir := ht.parent _ h
  rw [parentOf_pathOf hns] at hDir
  rcases (ht.isDir_iff).1 hDir with hRoot | hEntry
  · exact absurd hRoot (pathOf_ne_root (fun n hn => hns n (List.mem_of_mem_dropLast hn)) hne)
  · exact hEntry

theorem WellFormed.ancestor_dir {ns : List String} {e : Entry} (h : (pathOf ns, e) ∈ t.entries)
    (hns : ∀ n ∈ ns, Proper n) :
    ∀ (k i : ℕ), i + k + 1 = ns.length → 0 < i → (pathOf (ns.take i), .dir) ∈ t.entries
  | 0, i, hk, hi => by
    have hTake : ns.take i = ns.dropLast := by rw [List.dropLast_eq_take]; congr 1; omega
    rw [hTake]
    exact ht.parent_entry h hns (List.ne_nil_of_length_pos (by simp; omega))
  | k + 1, i, hk, hi => by
    have hAbove := WellFormed.ancestor_dir h hns k (i + 1) (by omega) (by omega)
    have hTake : (ns.take (i + 1)).dropLast = ns.take i := by
      rw [List.dropLast_eq_take, List.take_take, List.length_take]
      congr 1
      omega
    rw [← hTake]
    exact ht.parent_entry hAbove (fun n hn => hns n (List.mem_of_mem_take hn))
      (by rw [hTake]; exact List.ne_nil_of_length_pos (by simp; omega))

theorem WellFormed.length_le {ns : List String} {e : Entry} (h : (pathOf ns, e) ∈ t.entries)
    (hns : ∀ n ∈ ns, Proper n) : ns.length ≤ t.entries.length := by
  let levels := (List.range ns.length).map fun i => pathOf (ns.take (i + 1))
  have hTakeProper : ∀ j, ∀ n ∈ ns.take j, Proper n := fun j n hn => hns n (List.mem_of_mem_take hn)
  have hNodup : levels.Nodup := by
    refine List.Nodup.map_on ?_ List.nodup_range
    intro i hi j hj hij
    have hLen := congrArg List.length (pathOf_inj (hTakeProper _) (hTakeProper _) hij)
    simp only [List.mem_range] at hi hj
    simp only [List.length_take] at hLen
    omega
  have hSub : levels ⊆ t.entries.map Prod.fst := by
    intro p hp
    obtain ⟨i, hi, rfl⟩ := List.mem_map.1 hp
    rw [List.mem_range] at hi
    rw [List.mem_map]
    by_cases hTop : i + 1 = ns.length
    · exact ⟨_, h, by rw [hTop, List.take_length]⟩
    · exact ⟨_, ht.ancestor_dir h hns (ns.length - i - 2) (i + 1) (by omega) (by omega), rfl⟩
  have hLevels : levels.length = ns.length := by simp [levels]
  rw [← hLevels, ← List.length_map (f := Prod.fst)]
  exact (List.subperm_of_subset hNodup hSub).length_le

end Children

/-! ## The search -/

section Search

variable {t : FileTree} (ht : t.WellFormed) {skipped wanted : String → Bool}
include ht

end Search

end FileTree

end Weave
