import Mathlib
import Weave.Files.Tree

/-! # A relative path names one file

A file is read by following the names of its path one by one from the root, and a run names
it by its path relative to a root directory, worked out on the path's normal form. From an
absolute working directory, two paths that are both read and have one relative path are read
as one file.
-/

namespace Weave

namespace Posix

set_option autoImplicit false

/-! ## Names -/

/-- A name that a normal path can hold. -/
structure Proper (n : String) : Prop where
  nonempty : n ≠ ""
  notDot : n ≠ "."
  notDotDot : n ≠ ".."
  noSlash : '/' ∉ n.toList

theorem not_mem_of_mem_splitOn {a : Char} :
    ∀ {xs l : List Char}, l ∈ xs.splitOn a → a ∉ l
  | [], l, h => by simp_all
  | x :: xs, l, h => by
    rw [List.splitOn_cons_eq_if_modifyHead] at h
    split at h
    · rcases List.mem_cons.1 h with rfl | h
      · simp
      · exact not_mem_of_mem_splitOn h
    · rename_i hx
      obtain ⟨hd, tl, hSplit⟩ := List.exists_cons_of_ne_nil (List.splitOn_ne_nil a xs)
      rw [hSplit, List.modifyHead_cons] at h
      rcases List.mem_cons.1 h with rfl | h
      · have hHead : a ∉ hd := not_mem_of_mem_splitOn (hSplit ▸ List.mem_cons_self)
        simp only [List.mem_cons, not_or]
        exact ⟨fun hEq => hx (by simp [hEq]), hHead⟩
      · exact not_mem_of_mem_splitOn (hSplit ▸ List.mem_cons_of_mem _ h)

theorem slash_not_mem_of_mem_names {p n : String} (h : n ∈ names p) : '/' ∉ n.toList := by
  obtain ⟨l, hl, rfl⟩ := List.mem_map.1 h
  rw [String.toList_ofList]
  exact not_mem_of_mem_splitOn hl

theorem isAbsolute_iff (p : String) : isAbsolute p = true ↔ ∃ rest, p.toList = '/' :: rest := by
  rw [isAbsolute, String.startsWith_string_iff, show ("/" : String).toList = ['/'] by rfl]
  constructor
  · rintro ⟨rest, hRest⟩
    exact ⟨rest, hRest.symm⟩
  · rintro ⟨rest, hRest⟩
    exact ⟨rest, hRest.symm⟩

theorem isAbsolute_join {cwd : String} (hCwd : isAbsolute cwd = true) (p : String) :
    isAbsolute (join cwd p) = true := by
  obtain ⟨rest, hRest⟩ := (isAbsolute_iff cwd).1 hCwd
  have hNonempty : cwd.isEmpty = false := by
    rw [Bool.eq_false_iff]
    intro hEmpty
    rw [String.isEmpty_iff] at hEmpty
    simp [hEmpty] at hRest
  unfold join
  split
  · assumption
  · rw [isAbsolute_iff]
    split <;> simp [hRest, hNonempty] at *

/-! ## Folding names -/

theorem foldNames_proper : ∀ {acc xs : List String}, (∀ n ∈ acc, Proper n) →
    (∀ n ∈ xs, '/' ∉ n.toList) → ∀ n ∈ foldNames true acc xs, Proper n
  | acc, [], hAcc, _ => by simpa [foldNames] using hAcc
  | acc, x :: xs, hAcc, hxs => by
    have hRest : ∀ n ∈ xs, '/' ∉ n.toList := fun n hn => hxs n (List.mem_cons_of_mem _ hn)
    unfold foldNames
    split
    · exact foldNames_proper hAcc hRest
    · rename_i hSkip
      split
      · rename_i hName
        simp only [Bool.or_eq_true, beq_iff_eq, not_or] at hSkip
        have hx : Proper x := ⟨hSkip.1, hSkip.2, by simpa using hName, hxs x List.mem_cons_self⟩
        exact foldNames_proper (by simpa [hx] using hAcc) hRest
      · split
        · exact absurd rfl (hAcc _ List.mem_cons_self).notDotDot
        · exact foldNames_proper (fun n hn => hAcc n (List.mem_cons_of_mem _ hn)) hRest
        · exact foldNames_proper hAcc hRest

theorem foldNames_dotDot (acc xs : List String) (hAcc : acc.head? ≠ some "..") :
    foldNames true acc (".." :: xs) = foldNames true acc.tail xs := by
  conv_lhs => unfold foldNames
  rw [if_neg (by decide), if_neg (by decide)]
  split
  · exact absurd rfl hAcc
  · rfl
  · rfl

theorem followNames_eq_foldNames (t : FileTree) :
    ∀ (xs here names : List String), ".." ∉ here →
      t.followNames here (xs.filter (· != "")) = .ok names → names = foldNames true here.reverse xs
  | [], here, names, _, h => by
    simp only [List.filter_nil, FileTree.followNames, Except.ok.injEq] at h
    simp [foldNames, h]
  | x :: xs, here, names, hHere, h => by
    by_cases hEmpty : x = ""
    · subst hEmpty
      simp only [List.filter_cons, bne_self_eq_false, Bool.false_eq_true, if_false] at h
      unfold foldNames
      rw [if_pos (by simp)]
      exact followNames_eq_foldNames t xs here names hHere h
    · simp only [List.filter_cons, bne_iff_ne, ne_eq, hEmpty, not_false_eq_true, if_true,
        FileTree.followNames] at h
      split at h
      · by_cases hDot : x = "."
        · subst hDot
          unfold foldNames
          rw [if_pos (by simp)]
          exact followNames_eq_foldNames t xs here names hHere h
        by_cases hUp : x = ".."
        · subst hUp
          simp only [beq_self_eq_true, if_true] at h
          have hHead : here.reverse.head? ≠ some ".." :=
            fun hEq => hHere (List.mem_reverse.1 (List.mem_of_mem_head? hEq))
          rw [followNames_eq_foldNames t xs here.dropLast names
            (fun hMem => hHere (List.dropLast_subset _ hMem)) h, foldNames_dotDot _ _ hHead,
            List.tail_reverse]
        · simp only [beq_iff_eq, hDot, hUp, if_false] at h
          unfold foldNames
          rw [if_neg (by simp [hEmpty, hDot]), if_pos (by simpa using hUp)]
          have hNext := followNames_eq_foldNames t xs (here ++ [x]) names
            (by simpa [hHere] using fun hEq => hUp hEq.symm) h
          simpa using hNext
      · cases h
      · cases h

theorem readFile_find? {t : FileTree} {q : String} {bytes : List UInt8}
    (h : t.readFile q = .ok bytes) :
    t.find? (FileTree.pathOf (foldNames true [] (names q))) = some (.file bytes) := by
  unfold FileTree.readFile at h
  split at h
  · cases h
  · rename_i reached hFollow
    have hReached := followNames_eq_foldNames t (names q) [] reached (by simp) hFollow
    rw [List.reverse_nil] at hReached
    rw [← hReached]
    split at h <;> cases h
    assumption

/-! ## Normal forms -/

theorem splitOn_replicate_append (k : Nat) (l : List Char) :
    (List.replicate k '/' ++ l).splitOn '/' = List.replicate k [] ++ l.splitOn '/' := by
  induction k with
  | zero => rfl
  | succ k ih =>
    rw [List.replicate_succ, List.cons_append, List.splitOn_cons_eq_if_modifyHead,
      if_pos (beq_self_eq_true _), ih]
    rfl

theorem nonemptyNames_of_proper (k : Nat) {ns : List String} (hns : ∀ n ∈ ns, Proper n) :
    nonemptyNames (String.ofList (List.replicate k '/') ++ "/".intercalate ns) = ns := by
  have hKept : ns.filter (· != "") = ns :=
    List.filter_eq_self.2 fun n hn => by simpa using (hns n hn).nonempty
  have hSplit : (("/".intercalate ns).toList.splitOn '/').map String.ofList =
      if ns = [] then [""] else ns := by
    rw [String.toList_intercalate]
    split
    · rename_i hNil
      subst hNil
      rfl
    · rename_i hNil
      rw [show ("/" : String).toList = ['/'] from rfl, List.splitOn_intercalate '/'
        (by simpa using fun n hn => (hns n hn).noSlash) (by simpa using hNil)]
      simp [Function.comp_def]
  simp only [nonemptyNames, names, String.toList_append, String.toList_ofList,
    splitOn_replicate_append, List.map_append, hSplit, List.filter_append]
  split <;> simp [*]

theorem rootSlashes_pos {p : String} (hp : isAbsolute p = true) : 0 < rootSlashes p := by
  obtain ⟨rest, hRest⟩ := (isAbsolute_iff p).1 hp
  unfold rootSlashes
  simp only [hRest, List.takeWhile_cons, beq_self_eq_true, if_true, List.length_cons]
  split
  · rename_i hZero
    simp at hZero
  · split <;> omega

theorem nonemptyNames_normalize {q : String} (hq : isAbsolute q = true) :
    nonemptyNames (normalize q) = foldNames true [] (names q) := by
  have hFold : ∀ n ∈ foldNames true [] (names q), Proper n :=
    foldNames_proper (by simp) fun n hn => slash_not_mem_of_mem_names hn
  obtain ⟨rest, hRest⟩ := (isAbsolute_iff q).1 hq
  have hNonempty : q.isEmpty = false := by
    rw [Bool.eq_false_iff, ne_eq, String.isEmpty_iff]
    intro hEmpty
    simp [hEmpty] at hRest
  have hSlashes := rootSlashes_pos hq
  have hOut : (String.ofList (List.replicate (rootSlashes q) '/') ++
      "/".intercalate (foldNames true [] (names q))).isEmpty = false := by
    obtain ⟨k, hk⟩ := Nat.exists_eq_succ_of_ne_zero hSlashes.ne'
    rw [Bool.eq_false_iff, ne_eq, String.isEmpty_iff]
    intro hEmpty
    have hList := congrArg String.toList hEmpty
    simp [hk, List.replicate_succ] at hList
  unfold normalize
  simp only [hNonempty, Bool.false_eq_true, if_false, gt_iff_lt, hSlashes, decide_true]
  rw [if_neg (by simp [hOut])]
  exact nonemptyNames_of_proper _ hFold

theorem nonemptyNames_absolute_proper {cwd : String} (hCwd : isAbsolute cwd = true) (p : String) :
    ∀ n ∈ nonemptyNames (absolute cwd p), Proper n := by
  rw [absolute, nonemptyNames_normalize (isAbsolute_join hCwd p)]
  exact foldNames_proper (by simp) fun n hn => slash_not_mem_of_mem_names hn

/-! ## Relative paths -/

theorem commonLength_le : ∀ s t : List String, commonLength s t ≤ s.length
  | [], _ => by simp [commonLength]
  | _ :: _, [] => by simp [commonLength]
  | a :: as, b :: bs => by
    have := commonLength_le as bs
    unfold commonLength
    split <;> simp [this]

theorem take_commonLength : ∀ s t : List String,
    t.take (commonLength s t) = s.take (commonLength s t)
  | [], _ => by simp [commonLength]
  | _ :: _, [] => by simp [commonLength]
  | a :: as, b :: bs => by
    unfold commonLength
    split
    · rename_i hab
      rw [beq_iff_eq] at hab
      subst hab
      simp [take_commonLength as bs]
    · simp

theorem replicate_append_inj {x : String} : ∀ {a a' : Nat} {u u' : List String}, x ∉ u → x ∉ u' →
    List.replicate a x ++ u = List.replicate a' x ++ u' → a = a' ∧ u = u'
  | 0, 0, _, _, _, _, h => ⟨rfl, h⟩
  | a + 1, a' + 1, _, _, hu, hu', h => by
    simp only [List.replicate_succ, List.cons_append, List.cons.injEq, true_and] at h
    obtain ⟨rfl, rfl⟩ := replicate_append_inj hu hu' h
    exact ⟨rfl, rfl⟩
  | 0, _ + 1, _, _, hu, _, h => by
    simp only [List.replicate_zero, List.nil_append, List.replicate_succ, List.cons_append] at h
    exact absurd (h ▸ List.mem_cons_self) hu
  | _ + 1, 0, _, _, _, hu', h => by
    simp only [List.replicate_zero, List.nil_append, List.replicate_succ, List.cons_append] at h
    exact absurd (h ▸ List.mem_cons_self) hu'

theorem joined_inj {ps ps' : List String} (hps : ∀ n ∈ ps, n ≠ "." ∧ '/' ∉ n.toList)
    (hpsOther : ∀ n ∈ ps', n ≠ "." ∧ '/' ∉ n.toList)
    (h : (if ps.isEmpty then "." else "/".intercalate ps) =
      (if ps'.isEmpty then "." else "/".intercalate ps')) : ps = ps' := by
  have hNames : ∀ qs : List String, (∀ n ∈ qs, n ≠ "." ∧ '/' ∉ n.toList) →
      names (if qs.isEmpty then "." else "/".intercalate qs) = if qs.isEmpty then ["."] else qs := by
    intro qs hqs
    split
    · rfl
    · rename_i hNil
      rw [names, String.toList_intercalate, show ("/" : String).toList = ['/'] from rfl,
        List.splitOn_intercalate '/' (by simpa using fun n hn => (hqs n hn).2) (by simpa using hNil)]
      simp [Function.comp_def]
  have hEq := congrArg names h
  rw [hNames ps hps, hNames ps' hpsOther] at hEq
  split at hEq <;> split at hEq
  · rename_i hNil hNil'
    simp_all
  · exact absurd (hEq ▸ List.mem_singleton_self ".") fun hMem => (hpsOther "." hMem).1 rfl
  · exact absurd (hEq ▸ List.mem_singleton_self ".") fun hMem => (hps "." hMem).1 rfl
  · exact hEq

theorem names_eq_of_relative_eq {cwd p p' start : String} (hCwd : isAbsolute cwd = true)
    (h : relative cwd p start = relative cwd p' start) :
    nonemptyNames (absolute cwd p) = nonemptyNames (absolute cwd p') := by
  have hp := nonemptyNames_absolute_proper hCwd p
  have hp' := nonemptyNames_absolute_proper hCwd p'
  unfold relative at h
  generalize nonemptyNames (absolute cwd start) = s at h
  generalize nonemptyNames (absolute cwd p) = t at h hp ⊢
  generalize nonemptyNames (absolute cwd p') = t' at h hp' ⊢
  have hParts : ∀ u : List String, (∀ n ∈ u, Proper n) → ∀ n ∈
      List.replicate (s.length - commonLength s u) ".." ++ u.drop (commonLength s u),
      n ≠ "." ∧ '/' ∉ n.toList := by
    intro u hu n hn
    rcases List.mem_append.1 hn with hn | hn
    · rw [List.eq_of_mem_replicate hn]
      decide
    · exact ⟨(hu n (List.mem_of_mem_drop hn)).notDot, (hu n (List.mem_of_mem_drop hn)).noSlash⟩
  obtain ⟨hUp, hDrop⟩ := replicate_append_inj
    (fun hMem => (hp _ (List.mem_of_mem_drop hMem)).notDotDot rfl)
    (fun hMem => (hp' _ (List.mem_of_mem_drop hMem)).notDotDot rfl)
    (joined_inj (hParts t hp) (hParts t' hp') h)
  have hCommon : commonLength s t = commonLength s t' := by
    have := commonLength_le s t
    have := commonLength_le s t'
    omega
  calc t = t.take (commonLength s t) ++ t.drop (commonLength s t) := (List.take_append_drop _ _).symm
    _ = t'.take (commonLength s t') ++ t'.drop (commonLength s t') := by
      rw [take_commonLength, take_commonLength, hDrop, hCommon]
    _ = t' := List.take_append_drop _ _

theorem readFile_eq_of_relative_eq {t : FileTree} {cwd p p' start : String}
    (hCwd : isAbsolute cwd = true) (hRel : relative cwd p start = relative cwd p' start)
    {bytes bytes' : List UInt8} (h : t.readFile (join cwd p) = .ok bytes)
    (h' : t.readFile (join cwd p') = .ok bytes') : bytes = bytes' := by
  have hFind := readFile_find? h
  have hFind' := readFile_find? h'
  rw [← nonemptyNames_normalize (isAbsolute_join hCwd p)] at hFind
  rw [← nonemptyNames_normalize (isAbsolute_join hCwd p')] at hFind'
  change t.find? (FileTree.pathOf (nonemptyNames (absolute cwd p))) = _ at hFind
  change t.find? (FileTree.pathOf (nonemptyNames (absolute cwd p'))) = _ at hFind'
  rw [names_eq_of_relative_eq hCwd hRel, hFind'] at hFind
  simpa using hFind.symm

end Posix

end Weave
