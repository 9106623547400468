import Mathlib
import Weave.Proofs.PathNames
import Weave.Proofs.WalkInvariant
import Weave.Path.Resolver

/-! # A link between two pages leads to the other page

A source's page is its root-relative path with the suffix `.html`, in lower case, and the
link from one page to another climbs one `../` for each directory above the first page, then
names the second page. Followed from the first page (joined to its directory and
normalised), the link names the second page whenever the first source lies below the root.
A source outside the root has a relative path that starts with `..`: its page lies outside
the output root, and no relative link can lead back into it.
-/

namespace Weave

set_option autoImplicit false

namespace Text

/-! ## Lower case across slashes -/

theorem inRanges_mem {rs : Array (Nat × Nat)} {n lo hi : Nat} (h : inRanges rs n lo hi = true) :
    ∃ p ∈ rs.toList, p.1 ≤ n ∧ n ≤ p.2 := by
  fun_induction inRanges rs n lo hi with
  | case1 _ _ _ _ _ _ _ _ ih => exact ih h
  | case2 _ _ _ _ _ _ _ _ _ ih => exact ih h
  | case3 _ _ _ _ a b hMid hLo hHi =>
    exact ⟨(a, b), Array.mem_toList_iff.2 (Array.mem_of_getElem? hMid), by omega, by omega⟩
  | case4 | case5 => cases h

theorem inRanges_eq_false {rs : Array (Nat × Nat)} {n : Nat} (h : ∀ p ∈ rs.toList, ¬(p.1 ≤ n ∧ n ≤ p.2))
    (lo hi : Nat) : inRanges rs n lo hi = false :=
  Bool.eq_false_iff.2 fun hIn =>
    let ⟨p, hp, hn⟩ := inRanges_mem hIn
    h p hp hn

set_option maxRecDepth 4000 in
theorem isCaseIgnorable_slash : isCaseIgnorable '/' = false :=
  inRanges_eq_false (by decide) _ _

set_option maxRecDepth 4000 in
theorem isCased_slash : isCased '/' = false :=
  inRanges_eq_false (by decide) _ _

theorem lowerChar_slash : lowerChar '/' = '/' := by decide

theorem lowerChar_dot : lowerChar '.' = '.' := by decide

set_option maxRecDepth 4000 in
theorem lowerRuns_target : ∀ r ∈ lowerRuns, (97 : Int) ≤ r.first + r.shift := by decide

theorem toNat_ofNat_cases (n : Nat) : (Char.ofNat n).toNat = n ∨ (Char.ofNat n).toNat = 0 := by
  unfold Char.ofNat
  split
  · exact .inl (by simp [Char.toNat, Char.ofNatAux])
  · exact .inr rfl

theorem eq_of_lowerChar_eq {c x : Char} (hx : 0 < x.toNat ∧ x.toNat < 97) (h : lowerChar c = x) :
    c = x := by
  unfold lowerChar at h
  dsimp only at h
  split at h
  · rename_i r hr
    have hMem := List.mem_of_find?_eq_some hr
    have hFirst : r.first ≤ c.toNat := by
      have := List.find?_some hr
      simp only [Bool.and_eq_true, decide_eq_true_eq] at this
      exact this.1.1
    have hTarget := lowerRuns_target r hMem
    rcases toNat_ofNat_cases ((c.toNat : Int) + r.shift).toNat with hv | hv <;> rw [h] at hv <;> omega
  · exact h

theorem lowerAfter_cons (before : List Char) (c : Char) (cs : List Char) :
    lowerAfter before (c :: cs) =
      (if c == 'Σ' then [if endsWord before cs then 'ς' else 'σ']
        else if c == 'İ' then ['i', '̇'] else [lowerChar c]) ++ lowerAfter (c :: before) cs :=
  rfl

theorem eq_of_mem_lowerAfter_cons {before cs : List Char} {c x : Char}
    (hx : 0 < x.toNat ∧ x.toNat < 97)
    (h : x ∈ (if c == 'Σ' then [if endsWord before cs then 'ς' else 'σ']
        else if c == 'İ' then ['i', '̇'] else [lowerChar c])) : x = c := by
  split at h
  · split at h <;> simp at h <;> subst h <;> simp at hx
  · split at h
    · rcases List.mem_pair.1 h with rfl | rfl <;> simp at hx
    · exact (eq_of_lowerChar_eq hx (List.mem_singleton.1 h).symm).symm

theorem mem_of_mem_lowerAfter {x : Char} (hx : 0 < x.toNat ∧ x.toNat < 97) :
    ∀ {before cs : List Char}, x ∈ lowerAfter before cs → x ∈ cs
  | _, [], h => by simp [lowerAfter] at h
  | before, c :: cs, h => by
    rw [lowerAfter_cons, List.mem_append] at h
    rcases h with h | h
    · exact eq_of_mem_lowerAfter_cons hx h ▸ List.mem_cons_self
    · exact List.mem_cons_of_mem c (mem_of_mem_lowerAfter hx h)

theorem lowerAfter_eq_self_of_dots :
    ∀ {before cs : List Char}, (∀ y ∈ lowerAfter before cs, y = '.') → lowerAfter before cs = cs
  | _, [], _ => rfl
  | before, c :: cs, h => by
    rw [lowerAfter_cons] at h ⊢
    have hHere : c = '.' := by
      have hDot := h _ (List.mem_append_left _ (List.head_mem (by split <;> (try split) <;> simp)))
      exact (eq_of_mem_lowerAfter_cons (by decide) (hDot ▸ List.head_mem _)).symm
    subst hHere
    rw [show ('.' == 'Σ') = false by decide, show ('.' == 'İ') = false by decide]
    simp only [Bool.false_eq_true, if_false, lowerChar_dot, List.singleton_append]
    rw [lowerAfter_eq_self_of_dots (fun y hy => h y (List.mem_append_right _ hy))]

theorem casedFirst_append_slash (l rest : List Char) :
    ((l ++ '/' :: rest).dropWhile isCaseIgnorable).head?.any isCased =
      (l.dropWhile isCaseIgnorable).head?.any isCased := by
  induction l with
  | nil => simp [isCaseIgnorable_slash, isCased_slash]
  | cons c l ih =>
    by_cases hc : isCaseIgnorable c = true
    · simpa [List.dropWhile_cons, hc] using ih
    · simp [hc]

theorem endsWord_before_slash (pre before after : List Char) :
    endsWord (pre ++ '/' :: before) after = endsWord pre after := by
  simp only [endsWord, casedFirst_append_slash]

theorem endsWord_after_slash (before l rest : List Char) :
    endsWord before (l ++ '/' :: rest) = endsWord before l := by
  simp only [endsWord, casedFirst_append_slash]

theorem lowerAfter_slash_before (b : List Char) :
    ∀ (cs pre : List Char), lowerAfter (pre ++ '/' :: b) cs = lowerAfter pre cs
  | [], _ => rfl
  | c :: cs, pre => by
    rw [lowerAfter_cons, lowerAfter_cons, endsWord_before_slash,
      show c :: (pre ++ '/' :: b) = (c :: pre) ++ '/' :: b from rfl, lowerAfter_slash_before b cs]

theorem lowerAfter_append_slash (ys : List Char) :
    ∀ (xs before : List Char),
      lowerAfter before (xs ++ '/' :: ys) = lowerAfter before xs ++ '/' :: lowerAfter [] ys
  | [], before => by
    rw [List.nil_append, lowerAfter_cons, ← List.nil_append ('/' :: before), lowerAfter_slash_before]
    simp [lowerChar_slash, lowerAfter]
  | c :: xs, before => by
    rw [List.cons_append, lowerAfter_cons, lowerAfter_cons, endsWord_after_slash,
      lowerAfter_append_slash ys xs, List.append_assoc]

theorem lower_append_slash (a b : String) : lower (a ++ "/" ++ b) = lower a ++ "/" ++ lower b := by
  apply String.ext
  simp [lower, lowerAfter_append_slash]

theorem lower_intercalate : ∀ ns : List String, lower ("/".intercalate ns) = "/".intercalate (ns.map lower)
  | [] => rfl
  | [n] => by simp
  | n :: m :: rest => by
    rw [String.intercalate_cons_cons, lower_append_slash, lower_intercalate (m :: rest)]
    simp

theorem lower_dotDot : lower ".." = ".." := by decide

end Text

namespace Posix

/-! ## Names -/

theorem Proper.lower {n : String} (h : Proper n) : Proper (Text.lower n) := by
  have hDots : ∀ m : String, Text.lower n = m → (∀ y ∈ m.toList, y = '.') → n = m := by
    rintro m rfl hm
    have hSelf := @Text.lowerAfter_eq_self_of_dots [] n.toList (by simpa [Text.lower] using hm)
    exact String.ext (by simpa [Text.lower] using hSelf.symm)
  refine ⟨?_, ?_, ?_, ?_⟩
  · intro hEmpty
    have hLength := Text.lowerAfter_length_le [] n.toList
    have hZero : (Text.lowerAfter [] n.toList).length = 0 := by
      simpa [Text.lower] using congrArg String.length hEmpty
    exact h.nonempty (String.ext (by simp_all))
  · exact fun hDot => h.notDot (hDots "." hDot (by rw [show (".").toList = ['.'] from rfl]; simp))
  · exact fun hDotDot => h.notDotDot
      (hDots ".." hDotDot (by rw [show ("..").toList = ['.', '.'] from rfl]; simp))
  · intro hSlash
    exact h.noSlash (Text.mem_of_mem_lowerAfter (by decide) (by simpa [Text.lower] using hSlash))

def Climbs (ns : List String) : Prop :=
  ∃ up names, ns = List.replicate up ".." ++ names ∧ ∀ n ∈ names, Proper n

theorem Climbs.name {ns : List String} (h : Climbs ns) :
    ∀ n ∈ ns, n ≠ "" ∧ n ≠ "." ∧ '/' ∉ n.toList := by
  obtain ⟨up, names, rfl, hNames⟩ := h
  intro n hn
  rcases List.mem_append.1 hn with hn | hn
  · rw [List.eq_of_mem_replicate hn]
    decide
  · exact ⟨(hNames n hn).nonempty, (hNames n hn).notDot, (hNames n hn).noSlash⟩

theorem Climbs.map_lower {ns : List String} (h : Climbs ns) : Climbs (ns.map Text.lower) := by
  obtain ⟨up, names, rfl, hNames⟩ := h
  refine ⟨up, names.map Text.lower, by simp [Text.lower_dotDot], ?_⟩
  simp only [List.mem_map]
  rintro _ ⟨n, hn, rfl⟩
  exact (hNames n hn).lower

theorem Climbs.replaceLast {ns : List String} (h : Climbs ns) (hne : ns ≠ []) {m : String}
    (hm : Proper m) : Climbs (ns.dropLast ++ [m]) := by
  obtain ⟨up, names, rfl, hNames⟩ := h
  rcases names.eq_nil_or_concat with rfl | ⟨front, last, rfl⟩
  · obtain ⟨k, rfl⟩ := Nat.exists_eq_succ_of_ne_zero (by simpa using hne)
    refine ⟨k, [m], ?_, by simpa using hm⟩
    rw [List.append_nil, List.replicate_succ', List.dropLast_concat]
  · simp only [List.concat_eq_append] at hNames ⊢
    refine ⟨up, front ++ [m], ?_, ?_⟩
    · rw [← List.append_assoc, List.dropLast_concat, List.append_assoc]
    · intro n hn
      rcases List.mem_append.1 hn with hn | hn
      · exact hNames n (List.mem_append_left _ hn)
      · rw [List.mem_singleton.1 hn]
        exact hm

/-! ## Texts of names -/

theorem names_intercalate {ns : List String} (hSlash : ∀ n ∈ ns, '/' ∉ n.toList) (hne : ns ≠ []) :
    names ("/".intercalate ns) = ns := by
  rw [names, String.toList_intercalate, show ("/" : String).toList = ['/'] from rfl,
    List.splitOn_intercalate '/' (by simpa using hSlash) (by simpa using hne)]
  simp [Function.comp_def]

theorem intercalate_toList_head {n : String} {c : Char} {cs : List Char} (hn : n.toList = c :: cs)
    (rest : List String) : ∃ t, ("/".intercalate (n :: rest)).toList = c :: t := by
  cases rest with
  | nil => exact ⟨cs, by simp [hn]⟩
  | cons m rest =>
    refine ⟨cs ++ '/' :: ("/".intercalate (m :: rest)).toList, ?_⟩
    rw [String.intercalate_cons_of_ne_nil (by simp)]
    simp [hn]

theorem intercalate_getLast? {ns : List String} {n : String} (hn : n ≠ "") :
    ("/".intercalate (ns ++ [n])).toList.getLast? = n.toList.getLast? := by
  cases ns with
  | nil => simp
  | cons m ms =>
    rw [String.intercalate_append_of_ne_nil (by simp) (by simp), String.intercalate_singleton,
      String.toList_append, List.getLast?_append_of_ne_nil _ (by simpa using hn)]

theorem intercalate_toList_last {ns : List String} (hne : ns ≠ []) (hLast : ns.getLast hne ≠ "") :
    ∃ init c, ("/".intercalate ns).toList = init ++ [c] ∧ c ∈ (ns.getLast hne).toList := by
  obtain ⟨c, hc⟩ := Option.ne_none_iff_exists'.1
    (by simpa [List.getLast?_eq_none_iff] using hLast : (ns.getLast hne).toList.getLast? ≠ none)
  have hEnd := @intercalate_getLast? ns.dropLast (ns.getLast hne) hLast
  rw [List.dropLast_append_getLast hne, hc] at hEnd
  obtain ⟨init, hInit⟩ := List.getLast?_eq_some_iff.1 hEnd
  exact ⟨init, c, hInit, List.mem_of_getLast? hc⟩

theorem intercalate_ne_empty {ns : List String} (hne : ns ≠ []) (hLast : ns.getLast hne ≠ "") :
    "/".intercalate ns ≠ "" := by
  obtain ⟨init, c, hText, -⟩ := intercalate_toList_last hne hLast
  intro hEmpty
  simp [hEmpty] at hText

theorem rootSlashes_intercalate {n : String} {rest : List String} (hn : n ≠ "")
    (hSlash : '/' ∉ n.toList) : rootSlashes ("/".intercalate (n :: rest)) = 0 := by
  obtain ⟨c, cs, hc⟩ := List.exists_cons_of_ne_nil (by simpa using hn : n.toList ≠ [])
  obtain ⟨t, ht⟩ := intercalate_toList_head hc rest
  have hFirst : c ≠ '/' := fun h => hSlash (by rw [hc, h]; exact List.mem_cons_self)
  simp [rootSlashes, ht, hFirst]

theorem ofText_intercalate {ns : List String} (hns : ∀ n ∈ ns, n ≠ "" ∧ n ≠ "." ∧ '/' ∉ n.toList)
    (hne : ns ≠ []) : PurePath.ofText ("/".intercalate ns) = ⟨"", ns⟩ := by
  obtain ⟨n, rest, rfl⟩ := List.exists_cons_of_ne_nil hne
  have hFirst := hns n List.mem_cons_self
  have hNames := names_intercalate (fun m hm => (hns m hm).2.2) hne
  simp only [PurePath.ofText, rootSlashes_intercalate hFirst.1 hFirst.2.2, List.replicate_zero,
    String.ofList_nil, hNames, PurePath.mk.injEq, true_and]
  exact List.filter_eq_self.2 fun m hm => by simp [(hns m hm).1, (hns m hm).2.1]

theorem toText_of_names {ns : List String} (hne : ns ≠ []) (hLast : ns.getLast hne ≠ "") :
    PurePath.toText ⟨"", ns⟩ = "/".intercalate ns := by
  simp [PurePath.toText, intercalate_ne_empty hne hLast]

theorem withSuffix_names {ns : List String} (hne : ns ≠ []) (hLast : ns.getLast hne ≠ "")
    (hSlash : '/' ∉ (ns.getLast hne).toList) :
    ∃ m, Proper m ∧ PurePath.withSuffix ⟨"", ns⟩ ".html" = some ⟨"", ns.dropLast ++ [m]⟩ := by
  have hName : PurePath.name ⟨"", ns⟩ = ns.getLast hne := by
    simp [PurePath.name, List.getLastD_eq_getLast?, List.getLast?_eq_some_getLast hne]
  have hNonempty : (ns.getLast hne).isEmpty = false := by simpa using hLast
  refine ⟨_, ?_, by simp only [PurePath.withSuffix, hName, hNonempty]; rfl⟩
  have hHtml : (".html" : String).toList = ['.', 'h', 't', 'm', 'l'] := rfl
  have hLength : ∀ t : String, String.ofList (List.take ((ns.getLast hne).length -
      (PurePath.suffixOf (ns.getLast hne)).length) (ns.getLast hne).toList) ++ ".html" = t →
      5 ≤ t.toList.length := by
    rintro t rfl
    simp [hHtml]
  refine ⟨fun h => by simpa using hLength _ h, fun h => ?_, fun h => ?_, ?_⟩
  · have := hLength _ h
    rw [show (".").toList = ['.'] from rfl] at this
    simp at this
  · have := hLength _ h
    rw [show ("..").toList = ['.', '.'] from rfl] at this
    simp at this
  · simp only [String.toList_append, String.toList_ofList, List.mem_append, not_or]
    exact ⟨fun h => hSlash (List.mem_of_mem_take h), by decide⟩

/-! ## Directories and joins -/

/-- The directory of a path text: what comes before its last slash, without the slashes
that end it, unless nothing else is left. -/
def dirname (p : String) : String :=
  let head := (p.toList.reverse.dropWhile (· != '/')).reverse
  String.ofList (if head.all (· == '/') then head else head.rdropWhile (· == '/'))

def resolveLink (page href : String) : String :=
  normalize (join (dirname page) href)

theorem dirname_intercalate {ds : List String} {last : String}
    (hds : ∀ d ∈ ds, d ≠ "" ∧ '/' ∉ d.toList) (hLast : '/' ∉ last.toList) :
    dirname ("/".intercalate (ds ++ [last])) = "/".intercalate ds := by
  have hNoSlash : ∀ c ∈ last.toList.reverse, (c != '/') = true := fun c hc => by
    have : c ≠ '/' := fun h => hLast (h ▸ List.mem_reverse.1 hc)
    simpa using this
  by_cases hEmpty : ds = []
  · subst hEmpty
    have hDrop : last.toList.reverse.dropWhile (· != '/') = [] := List.dropWhile_eq_nil_iff.2 hNoSlash
    simp [dirname, hDrop]
  · have hd := hds _ (List.getLast_mem hEmpty)
    obtain ⟨init, c, hInit, hcMem⟩ := intercalate_toList_last hEmpty hd.1
    have hc : c ≠ '/' := fun h => hd.2 (h ▸ hcMem)
    have hText : ("/".intercalate (ds ++ [last])).toList = init ++ [c] ++ '/' :: last.toList := by
      rw [String.intercalate_append_of_ne_nil hEmpty (by simp), String.intercalate_singleton]
      simp [hInit]
    have hDrop : (init ++ [c] ++ '/' :: last.toList).reverse.dropWhile (· != '/') =
        '/' :: c :: init.reverse := by
      simp only [List.reverse_append, List.reverse_cons, List.append_assoc]
      rw [List.dropWhile_append_of_pos hNoSlash]
      simp
    have hHead : ('/' :: c :: init.reverse).reverse = init ++ [c] ++ ['/'] := by simp
    have hKeep : (init ++ [c]).rdropWhile (· == '/') = init ++ [c] :=
      List.rdropWhile_eq_self_iff.2 fun _ => by simpa using hc
    simp only [dirname, hText, hDrop, hHead]
    rw [if_neg (by simp [hc]), List.rdropWhile_concat_pos (· == '/') (init ++ [c]) '/' (by decide), hKeep, ← hInit,
      String.ofList_toList]

theorem join_up_intercalate (us : List String) (hus : us ≠ []) :
    ∀ k, String.join (List.replicate k "../") ++ "/".intercalate us =
      "/".intercalate (List.replicate k ".." ++ us)
  | 0 => by simp
  | k + 1 => by
    simp only [List.replicate_succ, String.join_cons, List.cons_append]
    rw [String.append_assoc, join_up_intercalate us hus k,
      String.intercalate_cons_of_ne_nil (by simp [hus])]
    rfl

theorem join_climb {ds us : List String} (hds : ∀ d ∈ ds, Proper d) (hus : Climbs us) (hne : us ≠ []) :
    join ("/".intercalate ds) (String.join (List.replicate ds.length "../") ++ "/".intercalate us) =
      "/".intercalate (ds ++ (List.replicate ds.length ".." ++ us)) := by
  rw [join_up_intercalate us hne]
  have hRelative : isAbsolute ("/".intercalate (List.replicate ds.length ".." ++ us)) = false := by
    obtain ⟨n, rest, hCons⟩ := List.exists_cons_of_ne_nil (by simp [hne] :
      List.replicate ds.length ".." ++ us ≠ [])
    have hn : n ≠ "" ∧ '/' ∉ n.toList := by
      have hMem : n ∈ List.replicate ds.length ".." ++ us := hCons ▸ List.mem_cons_self
      rcases List.mem_append.1 hMem with hMem | hMem
      · rw [List.eq_of_mem_replicate hMem]
        decide
      · exact ⟨(hus.name n hMem).1, (hus.name n hMem).2.2⟩
    obtain ⟨c, cs, hc⟩ := List.exists_cons_of_ne_nil (by simpa using hn.1 : n.toList ≠ [])
    obtain ⟨t, ht⟩ := intercalate_toList_head hc rest
    rw [Bool.eq_false_iff, ne_eq, isAbsolute_iff, hCons, ht]
    rintro ⟨rest', hRest⟩
    exact hn.2 (by rw [hc, (List.cons.inj hRest).1]; exact List.mem_cons_self)
  by_cases hEmpty : ds = []
  · subst hEmpty
    simp [join]
  · have hd := hds _ (List.getLast_mem hEmpty)
    obtain ⟨init, c, hInit, hcMem⟩ := intercalate_toList_last hEmpty hd.nonempty
    have hc : c ≠ '/' := fun h => hd.noSlash (h ▸ hcMem)
    have hEnd : ("/".intercalate ds).endsWith "/" = false := by
      simp [← String.endsWith_toSlice, hInit, Ne.symm hc]
    have hNonempty : ("/".intercalate ds).isEmpty = false := by
      simpa using intercalate_ne_empty hEmpty hd.nonempty
    rw [join, if_neg (by simp [hRelative]), if_neg (by simp [hNonempty, hEnd]),
      @String.intercalate_append_of_ne_nil ds (List.replicate ds.length ".." ++ us) "/" hEmpty
        (by simp [hne])]

/-! ## Normal forms of climbs -/

theorem foldNames_proper_append {rooted : Bool} {rest : List String} :
    ∀ {xs acc : List String}, (∀ n ∈ xs, Proper n) →
      foldNames rooted acc (xs ++ rest) = foldNames rooted (xs.reverse ++ acc) rest
  | [], _, _ => rfl
  | x :: xs, acc, hxs => by
    have hx := hxs x List.mem_cons_self
    rw [List.cons_append]
    conv_lhs => unfold foldNames
    rw [if_neg (by simp [hx.nonempty, hx.notDot]), if_pos (by simpa using hx.notDotDot),
      foldNames_proper_append fun n hn => hxs n (.tail _ hn)]
    simp

theorem foldNames_dotDot_pop {rooted : Bool} {y : String} {acc rest : List String} (hy : y ≠ "..") :
    foldNames rooted (y :: acc) (".." :: rest) = foldNames rooted acc rest := by
  conv_lhs => unfold foldNames
  rw [if_neg (by decide), if_neg (by simp)]
  split
  · rename_i heq
    exact absurd (List.cons.inj heq).1 hy
  · rename_i heq
    rw [(List.cons.inj heq).2]
  · rename_i heq
    exact absurd heq (List.cons_ne_nil _ _)

theorem foldNames_pop {rooted : Bool} {rest : List String} :
    ∀ {ys acc : List String}, (∀ n ∈ ys, Proper n) →
      foldNames rooted (ys ++ acc) (List.replicate ys.length ".." ++ rest) = foldNames rooted acc rest
  | [], _, _ => rfl
  | y :: ys, acc, hys => by
    have hy := hys y List.mem_cons_self
    rw [List.length_cons, List.replicate_succ, List.cons_append, List.cons_append,
      foldNames_dotDot_pop hy.notDotDot]
    exact foldNames_pop fun n hn => hys n (.tail _ hn)

theorem foldNames_climb {rest : List String} :
    ∀ (up a : Nat), foldNames false (List.replicate a "..") (List.replicate up ".." ++ rest) =
      foldNames false (List.replicate (a + up) "..") rest
  | 0, a => rfl
  | up + 1, a => by
    have hPush : foldNames false (List.replicate a "..") (".." :: (List.replicate up ".." ++ rest)) =
        foldNames false (List.replicate (a + 1) "..") (List.replicate up ".." ++ rest) := by
      cases a with
      | zero => simp [foldNames]
      | succ a => simp [foldNames, List.replicate_succ]
    rw [List.replicate_succ, List.cons_append, hPush, foldNames_climb up (a + 1), Nat.add_right_comm,
      Nat.add_assoc]

theorem foldNames_climbs {us : List String} (hus : Climbs us) : foldNames false [] us = us := by
  obtain ⟨up, names, rfl, hNames⟩ := hus
  have hStart := @foldNames_climb names up 0
  rw [List.replicate_zero, Nat.zero_add] at hStart
  rw [hStart, ← List.append_nil names, foldNames_proper_append hNames]
  simp [foldNames]

theorem normalize_climb {ds us : List String} (hds : ∀ d ∈ ds, Proper d) (hus : Climbs us)
    (hne : us ≠ []) : normalize ("/".intercalate (ds ++ (List.replicate ds.length ".." ++ us))) =
      "/".intercalate us := by
  have hNames : ∀ n ∈ ds ++ (List.replicate ds.length ".." ++ us), n ≠ "" ∧ n ≠ "." ∧ '/' ∉ n.toList := by
    intro n hn
    rcases List.mem_append.1 hn with hn | hn
    · exact ⟨(hds n hn).nonempty, (hds n hn).notDot, (hds n hn).noSlash⟩
    · rcases List.mem_append.1 hn with hn | hn
      · rw [List.eq_of_mem_replicate hn]
        decide
      · exact hus.name n hn
  have hLne : ds ++ (List.replicate ds.length ".." ++ us) ≠ [] := by simp [hne]
  have hFold : foldNames false [] (ds ++ (List.replicate ds.length ".." ++ us)) = us := by
    have hPop := @foldNames_pop false us ds.reverse [] (by simpa using hds)
    rw [List.length_reverse] at hPop
    rw [foldNames_proper_append hds, hPop, foldNames_climbs hus]
  have hLast : ∀ {ns : List String} (h : ns ≠ []), (∀ n ∈ ns, n ≠ "" ∧ n ≠ "." ∧ '/' ∉ n.toList) →
      ns.getLast h ≠ "" := fun h hns => (hns _ (List.getLast_mem h)).1
  obtain ⟨n, rest, hCons⟩ := List.exists_cons_of_ne_nil hLne
  have hn := hNames n (hCons ▸ List.mem_cons_self)
  have hRoot : rootSlashes ("/".intercalate (ds ++ (List.replicate ds.length ".." ++ us))) = 0 := by
    rw [hCons]
    exact rootSlashes_intercalate hn.1 hn.2.2
  have hEmpty : ("/".intercalate (ds ++ (List.replicate ds.length ".." ++ us))).isEmpty = false := by
    simpa using intercalate_ne_empty hLne (hLast hLne hNames)
  have hBody : ("/".intercalate us).isEmpty = false := by
    simpa using intercalate_ne_empty hne (hLast hne hus.name)
  rw [normalize, if_neg (by simp [hEmpty])]
  simp only [hRoot, names_intercalate (fun m hm => (hNames m hm).2.2) hLne, gt_iff_lt,
    lt_self_iff_false, decide_false, hFold, List.replicate_zero, String.ofList_nil,
    String.empty_append, hBody, Bool.false_eq_true, if_false]

theorem Climbs.proper_of_dotDot_not_mem {ns : List String} (h : Climbs ns) (hns : ".." ∉ ns) :
    ∀ n ∈ ns, Proper n := by
  obtain ⟨up, names, rfl, hNames⟩ := h
  cases up with
  | zero => simpa using hNames
  | succ up => simp at hns

theorem resolveLink_climb {ds us : List String} {last : String} (hds : ∀ d ∈ ds, Proper d)
    (hLast : Proper last) (hus : Climbs us) (hne : us ≠ []) :
    resolveLink ("/".intercalate (ds ++ [last]))
      (String.join (List.replicate ds.length "../") ++ "/".intercalate us) = "/".intercalate us := by
  rw [resolveLink, dirname_intercalate (fun d hd => ⟨(hds d hd).nonempty, (hds d hd).noSlash⟩)
    hLast.noSlash, join_climb hds hus hne, normalize_climb hds hus hne]

/-! ## Relative paths -/

theorem relative_climbs {cwd : String} (hCwd : isAbsolute cwd = true) (p start : String) :
    ∃ ns, Climbs ns ∧ relative cwd p start = if ns = [] then "." else "/".intercalate ns := by
  have hProper := nonemptyNames_absolute_proper hCwd p
  set s := nonemptyNames (absolute cwd start)
  set t := nonemptyNames (absolute cwd p)
  refine ⟨List.replicate (s.length - commonLength s t) ".." ++ t.drop (commonLength s t),
    ⟨_, _, rfl, fun n hn => hProper n (List.mem_of_mem_drop hn)⟩, ?_⟩
  simp only [relative, List.isEmpty_iff]
  rfl

end Posix

open Posix

theorem Resolver.relative_file_climbs {cwd : String} (hCwd : isAbsolute cwd = true) (r : Resolver)
    {p rel : String} (h : r.relative cwd p = .ok rel) (hName : (PurePath.ofText rel).name ≠ "") :
    ∃ ns, Climbs ns ∧ ns ≠ [] ∧ rel = "/".intercalate ns := by
  unfold Resolver.relative at h
  split at h
  · cases h
  · replace h := Except.ok.inj h
    obtain ⟨ns, hns, hRel⟩ := Posix.relative_climbs hCwd p r.root
    subst h
    by_cases hEmpty : ns = []
    · rw [hRel, if_pos hEmpty] at hName
      exact absurd (by decide) hName
    · exact ⟨ns, hns, hEmpty, by rw [hRel, if_neg hEmpty]⟩

theorem pathToRoot_intercalate {ns : List String}
    (hns : ∀ n ∈ ns, n ≠ "" ∧ n ≠ "." ∧ '/' ∉ n.toList) (hne : ns ≠ []) :
    pathToRoot ("/".intercalate ns) = String.join (List.replicate (ns.length - 1) "../") := by
  simp [pathToRoot, ofText_intercalate hns hne, PurePath.depth]

theorem outputPath_climbs {ns : List String} (hns : Climbs ns) (hne : ns ≠ []) :
    ∃ m, Proper m ∧
      outputPath ("/".intercalate ns) = .ok ("/".intercalate ((ns.dropLast ++ [m]).map Text.lower)) := by
  have hNames := hns.name
  obtain ⟨hLast, -, hSlash⟩ := hNames _ (List.getLast_mem hne)
  obtain ⟨m, hm, hSuffix⟩ := withSuffix_names hne hLast hSlash
  refine ⟨m, hm, ?_⟩
  simp only [outputPath, ofText_intercalate hNames hne, hSuffix,
    @toText_of_names (ns.dropLast ++ [m]) (by simp) (by simpa using hm.nonempty),
    Text.lower_intercalate]

/-- The link from the page of a file below the root to the page of any other file, followed
from the first page, leads to the second. -/
theorem link_resolves_to_page {cwd : String} (hCwd : isAbsolute cwd = true) (r : Resolver)
    {p q fromRel toRel : String} (hFrom : r.relative cwd p = .ok fromRel)
    (hTo : r.relative cwd q = .ok toRel) (hFromName : (PurePath.ofText fromRel).name ≠ "")
    (hToName : (PurePath.ofText toRel).name ≠ "") (hBelow : ".." ∉ names fromRel) :
    ∃ page href, outputPath fromRel = .ok page ∧ link fromRel toRel = .ok href ∧
      outputPath toRel = .ok (resolveLink page href) := by
  obtain ⟨fs, hfs, hfsne, rfl⟩ := r.relative_file_climbs hCwd hFrom hFromName
  obtain ⟨ts, hts, htsne, rfl⟩ := r.relative_file_climbs hCwd hTo hToName
  have hProper : ∀ n ∈ fs, Proper n := by
    rw [names_intercalate (fun n hn => (hfs.name n hn).2.2) hfsne] at hBelow
    exact hfs.proper_of_dotDot_not_mem hBelow
  obtain ⟨mf, hmf, hPageF⟩ := outputPath_climbs hfs hfsne
  obtain ⟨mt, hmt, hPageT⟩ := outputPath_climbs hts htsne
  have hDirs : ∀ d ∈ fs.dropLast.map Text.lower, Proper d := by
    simp only [List.mem_map]
    rintro _ ⟨d, hd, rfl⟩
    exact (hProper d (List.dropLast_subset _ hd)).lower
  have hLength : (fs.dropLast.map Text.lower).length = fs.length - 1 := by simp
  have hPageF' : outputPath ("/".intercalate fs) =
      .ok ("/".intercalate (fs.dropLast.map Text.lower ++ [Text.lower mf])) := by
    rw [hPageF, List.map_append, List.map_singleton]
  refine ⟨_, String.join (List.replicate (fs.length - 1) "../") ++
    "/".intercalate ((ts.dropLast ++ [mt]).map Text.lower), hPageF', ?_, ?_⟩
  · rw [link, hPageT, pathToRoot_intercalate hfs.name hfsne]
    rfl
  · rw [hPageT, ← hLength, resolveLink_climb hDirs hmf.lower (hts.replaceLast htsne hmt).map_lower
      (by simp)]

/-- A file two directories below the root links to a file outside it. -/
theorem link_resolves_to_page_nested :
    ∃ page href, outputPath "src/Shapes/Circle.cs" = .ok page ∧
      link "src/Shapes/Circle.cs" "../lib/X.cs" = .ok href ∧
      outputPath "../lib/X.cs" = .ok (resolveLink page href) :=
  link_resolves_to_page (by decide +kernel) ⟨"/w/"⟩
    (show Resolver.relative ⟨"/w/"⟩ "/w" "src/Shapes/Circle.cs" = .ok "src/Shapes/Circle.cs" from
      eq_ok_of_toOption (by decide +kernel))
    (show Resolver.relative ⟨"/w/"⟩ "/w" "/lib/X.cs" = .ok "../lib/X.cs" from
      eq_ok_of_toOption (by decide +kernel))
    (by decide +kernel) (by decide +kernel) (by decide +kernel)

/-- From a file outside the root, the link to a file beside it climbs one directory too many:
followed from the first page it leads to `../../../y.html`, not to `../y.html`. -/
theorem link_from_outside_root_misses :
    Resolver.relative ⟨"/w/src/"⟩ "/w" "/w/X.cs" = .ok "../X.cs" ∧
      Resolver.relative ⟨"/w/src/"⟩ "/w" "/w/Y.cs" = .ok "../Y.cs" ∧
      outputPath "../X.cs" = .ok "../x.html" ∧ link "../X.cs" "../Y.cs" = .ok "../../y.html" ∧
      outputPath "../Y.cs" = .ok "../y.html" ∧
      resolveLink "../x.html" "../../y.html" = "../../../y.html" :=
  ⟨eq_ok_of_toOption (by decide +kernel), eq_ok_of_toOption (by decide +kernel),
    eq_ok_of_toOption (by decide +kernel), eq_ok_of_toOption (by decide +kernel),
    eq_ok_of_toOption (by decide +kernel), by decide +kernel⟩

end Weave
