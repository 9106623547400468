import Mathlib
import Weave.Registry.Basic

/-! # The registry as an ordered store

Under keys made of texts, every operation of a registry agrees with one list, its
declarations in the order they were added. Adding under a taken key is refused with the
line of the declaration there, before the kind is read; adding under a free key with a
kind that is no keyword is refused; any other add puts the declaration at the end.
Extending adds a front part of the declarations given. A lookup finds the one declaration
under a key, the names are those of the list each once, and a walk gives the list as it
was at the walk's first step, whatever is added while it runs.
-/

namespace Weave

namespace Value

theorem sameKey_str_iff (a : Value) (s : String) : a.sameKey (.str s) = true ↔ a = .str s := by
  cases a <;> simp [sameKey, numeric?]

/-- A part of a key is the same part as a text exactly when it is that text: a text is
no NaN, so the NaN clause of `samePart` never applies. -/
@[simp] theorem samePart_str_iff (a : Value) (s : String) :
    a.samePart (.str s) = true ↔ a = .str s := by
  simp [samePart, isNaN, sameKey_str_iff]

end Value

namespace DeclKind

theorem ofKeyword?_eq_some_iff (s : String) (k : DeclKind) :
    ofKeyword? s = some k ↔ s = k.keyword := by
  constructor
  · intro h
    unfold ofKeyword? at h
    split at h <;> cases h <;> rfl
  · rintro rfl
    exact ofKeyword?_keyword k

theorem ofValue_keyword (k : DeclKind) : ofValue (.str k.keyword) = .ok k := by
  simp [ofValue, ofKeyword?_keyword]

theorem ofValue_of_not_keyword (v : Value) (h : ∀ k : DeclKind, v ≠ .str k.keyword) :
    ofValue v = .error (.notDeclKind v) := by
  cases v with
  | str s =>
    cases hk : ofKeyword? s with
    | none => simp [ofValue, hk]
    | some k => exact absurd (congrArg Value.str ((ofKeyword?_eq_some_iff s k).1 hk)) (h k)
  | _ => rfl

end DeclKind

namespace Registry

variable (r : Registry) (n f : String)

theorem eq_of_key {d e : Declaration} (hd : d ∈ r.entries) (he : e ∈ r.entries)
    (hdKey : d.name = .str n ∧ d.file = .str f) (heKey : e.name = .str n ∧ e.file = .str f) :
    d = e := by
  have hSame : ∀ a b : Declaration, a.name = .str n ∧ a.file = .str f →
      b.name = .str n ∧ b.file = .str f → a.clashes b = true := by
    rintro a b ⟨han, haf⟩ ⟨hbn, hbf⟩
    simp [Declaration.clashes, han, haf, hbn, hbf]
  let R := fun a b : Declaration =>
    (a.name = .str n ∧ a.file = .str f) → (b.name = .str n ∧ b.file = .str f) → a = b
  have hR : r.entries.Pairwise R :=
    r.keys_distinct.imp fun hab ha hb => by simp [hSame _ _ ha hb] at hab
  have hFlip : r.entries.Pairwise (flip R) :=
    r.keys_distinct.imp fun hab hb ha => by simp [hSame _ _ ha hb] at hab
  exact List.Pairwise.forall_of_forall_of_flip (fun _ _ _ _ => rfl) hR hFlip hd he hdKey heKey

theorem get?_str : r.get? (.str n) (.str f) =
    .ok (r.entries.find? fun d => d.name.samePart (.str n) && d.file.samePart (.str f)) :=
  rfl

theorem get?_spec : ∃ o, r.get? (.str n) (.str f) = .ok o ∧
    ∀ d, o = some d ↔ d ∈ r.entries ∧ d.name = .str n ∧ d.file = .str f := by
  refine ⟨_, get?_str r n f, fun d => ⟨fun h => ?_, fun hMem => ?_⟩⟩
  · have hKey := List.find?_some h
    simp only [Bool.and_eq_true, Value.samePart_str_iff] at hKey
    exact ⟨List.mem_of_find?_eq_some h, hKey⟩
  · obtain ⟨hd, hKey⟩ := hMem
    obtain ⟨e, he⟩ : ∃ e, (r.entries.find? fun d =>
        d.name.samePart (.str n) && d.file.samePart (.str f)) = some e := by
      refine Option.isSome_iff_exists.1 (List.find?_isSome.2 ⟨d, hd, ?_⟩)
      simpa using hKey
    have heKey := List.find?_some he
    simp only [Bool.and_eq_true, Value.samePart_str_iff] at heKey
    rw [he, eq_of_key r n f (List.mem_of_find?_eq_some he) hd heKey hKey]

theorem get?_of_key {d : Declaration} (hd : d ∈ r.entries)
    (hKey : d.name = .str n ∧ d.file = .str f) : r.get? (.str n) (.str f) = .ok (some d) := by
  obtain ⟨o, hGet, hSpec⟩ := get?_spec r n f
  rw [hGet, (hSpec d).2 ⟨hd, hKey⟩]

theorem get?_of_free (hFree : ∀ d ∈ r.entries, ¬(d.name = .str n ∧ d.file = .str f)) :
    r.get? (.str n) (.str f) = .ok none := by
  obtain ⟨o, hGet, hSpec⟩ := get?_spec r n f
  cases o with
  | none => exact hGet
  | some d => exact absurd ((hSpec d).1 rfl).2 (hFree d ((hSpec d).1 rfl).1)

theorem contains_spec : ∃ b, r.contains (.str n) (.str f) = .ok b ∧
    (b = true ↔ ∃ d ∈ r.entries, d.name = .str n ∧ d.file = .str f) := by
  obtain ⟨o, hGet, hSpec⟩ := get?_spec r n f
  refine ⟨o.isSome, by rw [contains, hGet]; rfl, ?_⟩
  rw [Option.isSome_iff_exists]
  constructor
  · rintro ⟨d, hd⟩
    exact ⟨d, (hSpec d).1 hd⟩
  · rintro ⟨d, hd, hKey⟩
    exact ⟨d, (hSpec d).2 ⟨hd, hKey⟩⟩

theorem add_of_taken (line kind : Value) {d : Declaration} (hd : d ∈ r.entries)
    (hKey : d.name = .str n ∧ d.file = .str f) :
    r.add (.str n) (.str f) line kind = .error (.duplicateType (.str n) (.str f) d.line line) := by
  rw [add, get?_of_key r n f hd hKey]
  rfl

theorem add_of_not_keyword (line kind : Value)
    (hFree : ∀ d ∈ r.entries, ¬(d.name = .str n ∧ d.file = .str f))
    (hKind : ∀ k : DeclKind, kind ≠ .str k.keyword) :
    r.add (.str n) (.str f) line kind = .error (.notDeclKind kind) := by
  rw [add, get?_of_free r n f hFree, DeclKind.ofValue_of_not_keyword kind hKind]
  rfl

theorem insert_of_fresh {d : Declaration} (hKey : keyFault? d.name d.file = none)
    (hFresh : (r.entries.any fun e => e.clashes d) = false) :
    r.insert d = .ok ⟨r.entries ++ [d], pairwise_push r.keys_distinct hFresh⟩ := by
  unfold insert
  split
  · simp_all
  · split
    · simp_all
    · rfl

theorem entries_of_insert {d : Declaration} {r' : Registry} (h : r.insert d = .ok r') :
    r'.entries = r.entries ++ [d] := by
  unfold insert at h
  split at h
  · cases h
  · split at h
    · split at h <;> cases h
    · cases h
      rfl

theorem add_of_free (line : Value) (k : DeclKind)
    (hFree : ∀ d ∈ r.entries, ¬(d.name = .str n ∧ d.file = .str f)) :
    ∃ r', r.add (.str n) (.str f) line (.str k.keyword) = .ok (r', ⟨.str n, k, .str f, line⟩) ∧
      r'.entries = r.entries ++ [⟨.str n, k, .str f, line⟩] := by
  have hFresh : (r.entries.any fun e => e.clashes ⟨.str n, k, .str f, line⟩) = false := by
    rw [List.any_eq_false]
    intro e he hClash
    simp only [Declaration.clashes, Bool.and_eq_true, Value.samePart_str_iff] at hClash
    exact hFree e he hClash
  refine ⟨⟨r.entries ++ [_], pairwise_push r.keys_distinct hFresh⟩, ?_, rfl⟩
  rw [add, get?_of_free r n f hFree, DeclKind.ofValue_keyword]
  simp only [bind, Except.bind, pure, Except.pure]
  rw [insert_of_fresh r (keyFault?_str n f) hFresh]

theorem extend_spec (ds : List Declaration) :
    ∃ pre, pre <+: ds ∧ (r.extend ds).1.entries = r.entries ++ pre ∧
      ((r.extend ds).2 = none → pre = ds) := by
  induction ds generalizing r with
  | nil => exact ⟨[], List.prefix_refl _, by simp [extend], fun _ => rfl⟩
  | cons d ds ih =>
    cases hIns : r.insert d with
    | error e => exact ⟨[], List.nil_prefix, by simp [extend, hIns], by simp [extend, hIns]⟩
    | ok r' =>
      obtain ⟨pre, hPre, hEntries, hAll⟩ := ih r'
      have hStep : r.extend (d :: ds) = r'.extend ds := by simp [extend, hIns]
      refine ⟨d :: pre, List.cons_prefix_cons.2 ⟨rfl, hPre⟩, ?_, ?_⟩
      · rw [hStep, hEntries, entries_of_insert r hIns, List.append_assoc]
        rfl
      · intro h
        rw [hAll (hStep ▸ h)]

theorem inFile_spec (file : String) : (r.inFile (.str file)).Sublist r.entries ∧
    ∀ d ∈ r.entries, d ∈ r.inFile (.str file) ↔ d.file = .str file := by
  refine ⟨List.filter_sublist, fun d hd => ?_⟩
  simp [inFile, List.mem_filter, hd, Value.sameKey_str_iff]

theorem str_mem_foldl_names (ds : List Declaration) (acc : List Value) :
    .str n ∈ ds.foldl (fun acc d => if acc.any (·.samePart d.name) then acc else acc ++ [d.name])
      acc ↔ .str n ∈ acc ∨ ∃ d ∈ ds, d.name = .str n := by
  induction ds generalizing acc with
  | nil => simp
  | cons d ds ih =>
    rw [List.foldl_cons, ih]
    simp only [List.mem_cons, or_and_right, exists_or, exists_eq_left]
    by_cases hAny : acc.any (·.samePart d.name) = true
    · have hKept : d.name = .str n → .str n ∈ acc := by
        intro hName
        obtain ⟨a, ha, hSame⟩ := List.any_eq_true.1 hAny
        rw [hName, Value.samePart_str_iff] at hSame
        exact hSame ▸ ha
      rw [if_pos hAny]
      constructor
      · rintro (h | h)
        · exact Or.inl h
        · exact Or.inr (Or.inr h)
      · rintro (h | h | h)
        · exact Or.inl h
        · exact Or.inl (hKept h)
        · exact Or.inr h
    · rw [if_neg hAny, List.mem_append, List.mem_singleton, or_assoc, @eq_comm _ (Value.str n)]

theorem foldl_names_pairwise (ds : List Declaration) (acc : List Value)
    (hAcc : acc.Pairwise fun a b => a.samePart b = false) :
    (ds.foldl (fun acc d => if acc.any (·.samePart d.name) then acc else acc ++ [d.name])
      acc).Pairwise fun a b => a.samePart b = false := by
  induction ds generalizing acc with
  | nil => exact hAcc
  | cons d ds ih =>
    rw [List.foldl_cons]
    apply ih
    split
    · exact hAcc
    · rename_i hAny
      rw [List.pairwise_append]
      refine ⟨hAcc, List.pairwise_singleton _ _, fun a ha b hb => ?_⟩
      rw [List.mem_singleton] at hb
      subst hb
      simpa using List.any_eq_false.1 (Bool.eq_false_iff.2 hAny) a ha

theorem nameSet_spec : (∀ n : String, .str n ∈ r.nameSet ↔ ∃ d ∈ r.entries, d.name = .str n) ∧
    r.nameSet.Pairwise fun a b => a.samePart b = false := by
  refine ⟨fun n => ?_, foldl_names_pairwise r.entries [] List.Pairwise.nil⟩
  have hGather := str_mem_foldl_names n r.entries []
  rw [or_iff_right List.not_mem_nil] at hGather
  exact hGather

theorem Walk.run_copied (ds : List Declaration) (rs : List Registry) :
    (⟨some ds⟩ : Walk).run rs = (List.range rs.length).map fun i => ds[i]? := by
  induction rs generalizing ds with
  | nil => rfl
  | cons r rs ih =>
    rw [List.length_cons, List.range_succ_eq_map, List.map_cons, List.map_map]
    cases ds with
    | nil => simp [Walk.run, Walk.next, ih, Function.comp_def]
    | cons d ds => simp [Walk.run, Walk.next, ih, Function.comp_def]

theorem Walk.run_start (rs : List Registry) :
    Walk.start.run (r :: rs) = (List.range (rs.length + 1)).map fun i => r.entries[i]? := by
  have hFirst : Walk.start.run (r :: rs) = (⟨some r.entries⟩ : Walk).run (r :: rs) := rfl
  rw [hFirst, Walk.run_copied]
  rfl

/-- The laws of a registry as a store under text keys: each operation stated against the
list of its declarations. -/
structure StoreLaws : Prop where
  add_taken : ∀ (n f : String) (line kind : Value) (d : Declaration), d ∈ r.entries →
    d.name = .str n ∧ d.file = .str f →
    r.add (.str n) (.str f) line kind = .error (.duplicateType (.str n) (.str f) d.line line)
  add_not_keyword : ∀ (n f : String) (line kind : Value),
    (∀ d ∈ r.entries, ¬(d.name = .str n ∧ d.file = .str f)) →
    (∀ k : DeclKind, kind ≠ .str k.keyword) →
    r.add (.str n) (.str f) line kind = .error (.notDeclKind kind)
  add_free : ∀ (n f : String) (line : Value) (k : DeclKind),
    (∀ d ∈ r.entries, ¬(d.name = .str n ∧ d.file = .str f)) →
    ∃ r', r.add (.str n) (.str f) line (.str k.keyword) = .ok (r', ⟨.str n, k, .str f, line⟩) ∧
      r'.entries = r.entries ++ [⟨.str n, k, .str f, line⟩]
  extend : ∀ ds : List Declaration, ∃ pre, pre <+: ds ∧
    (r.extend ds).1.entries = r.entries ++ pre ∧ ((r.extend ds).2 = none → pre = ds)
  get : ∀ n f : String, ∃ o, r.get? (.str n) (.str f) = .ok o ∧
    ∀ d, o = some d ↔ d ∈ r.entries ∧ d.name = .str n ∧ d.file = .str f
  contains : ∀ n f : String, ∃ b, r.contains (.str n) (.str f) = .ok b ∧
    (b = true ↔ ∃ d ∈ r.entries, d.name = .str n ∧ d.file = .str f)
  inFile : ∀ f : String, (r.inFile (.str f)).Sublist r.entries ∧
    ∀ d ∈ r.entries, d ∈ r.inFile (.str f) ↔ d.file = .str f
  names : (∀ n : String, .str n ∈ r.nameSet ↔ ∃ d ∈ r.entries, d.name = .str n) ∧
    r.nameSet.Pairwise fun a b => a.samePart b = false
  size : r.size = r.entries.length
  toValue : r.toValue = .list (r.entries.map Declaration.toValue)
  walk : ∀ rs : List Registry,
    Walk.start.run (r :: rs) = (List.range (rs.length + 1)).map fun i => r.entries[i]?

/-- Every registry keeps the laws of an insertion-ordered store with one declaration under
each key. -/
theorem storeLaws : r.StoreLaws where
  add_taken n f line kind _ hd hKey := add_of_taken r n f line kind hd hKey
  add_not_keyword n f line kind hFree hKind := add_of_not_keyword r n f line kind hFree hKind
  add_free n f line k hFree := add_of_free r n f line k hFree
  extend := extend_spec r
  get := get?_spec r
  contains := contains_spec r
  inFile := inFile_spec r
  names := nameSet_spec r
  size := rfl
  toValue := rfl
  walk := Walk.run_start r

end Registry

end Weave
