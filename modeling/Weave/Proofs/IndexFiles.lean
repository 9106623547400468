import Mathlib
import Weave.Proofs.RunOrder
import Weave.Proofs.FirstRefusal
import Weave.Proofs.JsonReadBack
import Weave.Index.Build

/-! # The files of the sections index

A run that skips failures lists each file it parsed, and the sections index keys each
file's entry by the file's relative path. Nothing checks that those paths are distinct. Two
paths with one relative path were read as one file and parse alike, and the second merge of
that file is refused as soon as the file declares something, its first declaration being
there already. A file that declares nothing merges again and is listed twice. So a relative
path repeats in a run only for one parse of a file with no declarations (`ListsOnce`); the
index holds that file's entry once, and counts more files than it has keys exactly when a
path repeats.
-/

namespace Weave

set_option autoImplicit false

/-! ## Folds that keep an invariant -/

theorem foldlM_invariant {ε α σ : Type} {step : σ → α → Except ε σ} (I : σ → Prop)
    (hStep : ∀ s a s', I s → step s a = .ok s' → I s') :
    ∀ (l : List α) (s s' : σ), I s → l.foldlM step s = .ok s' → I s'
  | [], s, s', hs, h => by
    cases h
    exact hs
  | a :: l, s, s', hs, h => by
    rw [List.foldlM_cons] at h
    obtain ⟨t, hFirst, hRest⟩ := Except.exists_of_bind_eq_ok h
    exact foldlM_invariant I hStep l t s' (hStep s a t hs hFirst) hRest

/-! ## Merging a file again -/

namespace Registry

theorem extend_of_mem_head {r : Registry} {d : Declaration} {ds : List Declaration}
    (hd : d ∈ r.entries) (hKey : (∃ n, d.name = .str n) ∧ ∃ f, d.file = .str f) :
    ∃ e, r.extend (d :: ds) = (r, some e) := by
  obtain ⟨⟨n, hn⟩, f, hf⟩ := hKey
  obtain ⟨name, kind, file, line⟩ := d
  simp only at hn hf
  subst hn hf
  have hTaken := @insert_of_key_taken r n f kind line _ hd ⟨rfl, rfl⟩
  exact ⟨.duplicateType (.str n) (.str f) line line, by simp only [extend, hTaken]⟩

theorem clashes_of_other_file {e d : Declaration} {f : String}
    (hd : (∃ n, d.name = .str n) ∧ d.file = .str f) (he : e.file ≠ .str f) : e.clashes d = false := by
  obtain ⟨⟨n, hn⟩, hf⟩ := hd
  obtain ⟨name, kind, file, line⟩ := d
  simp only at hn hf
  subst hn hf
  cases hClash : e.clashes ⟨.str n, kind, .str f, line⟩
  · rfl
  · exact absurd ((clashes_str_iff e).1 hClash).2 he

theorem admitsAll_of_no_clash :
    ∀ {es ds : List Declaration}, (∀ d ∈ ds, keyFault? d.name d.file = none) →
      ds.Pairwise (fun a b => a.clashes b = false) → (∀ e ∈ es, ∀ d ∈ ds, e.clashes d = false) →
      AdmitsAll es ds
  | _, [], _, _, _ => trivial
  | es, d :: ds, hKey, hDistinct, hFresh => by
    obtain ⟨hHead, hTail⟩ := List.pairwise_cons.1 hDistinct
    refine ⟨⟨hKey d List.mem_cons_self, fun e he => hFresh e he d List.mem_cons_self⟩,
      admitsAll_of_no_clash (fun d' hd' => hKey d' (.tail _ hd')) hTail fun e he d' hd' => ?_⟩
    rcases List.mem_append.1 he with he | he
    · exact hFresh e he d' (.tail _ hd')
    · rw [List.mem_singleton.1 he]
      exact hHead d' hd'

theorem inFile_append_own {r : Registry} {ds : List Declaration} {f : String}
    (hOwn : ∀ d ∈ ds, d.file = .str f) :
    (r.entries ++ ds).filter (fun d => d.file.sameKey (.str f)) = r.inFile (.str f) ++ ds := by
  have hAll : ds.filter (fun d => d.file.sameKey (.str f)) = ds :=
    List.filter_eq_self.2 fun d hd => by simp [hOwn d hd, Value.sameKey_str_iff]
  rw [List.filter_append, hAll]
  rfl

end Registry

section Run

variable (ws : Workspace) (resolver : Resolver) (encoding : Value) (keywords : List String)

theorem pathOutcome_keys_distinct {path : String} {file : ParsedFile} {ds : List Declaration}
    (h : pathOutcome ws resolver encoding keywords path = .parsed file ds) :
    ds.Pairwise fun a b => a.clashes b = false := by
  obtain ⟨staging, record, hFile⟩ := parseFile_of_pathOutcome ws resolver encoding keywords h
  rw [pathOutcome_of_ok ws resolver encoding keywords hFile] at h
  cases h
  exact staging.keys_distinct

theorem pathOutcome_same_file (hCwd : Posix.isAbsolute ws.cwd = true) {p q : String}
    {f g : ParsedFile} {ds es : List Declaration}
    (hp : pathOutcome ws resolver encoding keywords p = .parsed f ds)
    (hq : pathOutcome ws resolver encoding keywords q = .parsed g es) (hRel : f.relPath = g.relPath) :
    f = g ∧ ds = es := by
  by_cases hSame : pathOutcome ws resolver encoding keywords p = pathOutcome ws resolver encoding keywords q
  · rw [hp, hq] at hSame
    obtain ⟨rfl, rfl⟩ := PathOutcome.parsed.inj hSame
    exact ⟨rfl, rfl⟩
  · exact absurd hRel (pathOutcome_apart ws resolver encoding keywords hCwd hSame f ds g es hp hq)

/-- What a run that skips failures keeps from a fresh registry on: each file listed is what a
path came to, with the declarations the run holds in that file; each declaration is made in
a file listed; and a relative path is listed twice only for one parse of a file that
declares nothing. -/
structure ListsOnce (r : RunResult) : Prop where
  files : ∀ f ∈ r.files, ∃ p,
    pathOutcome ws resolver encoding keywords p = .parsed f (r.registry.inFile (.str f.relPath))
  entries : ∀ d ∈ r.registry.entries, ∃ f ∈ r.files, d.file = .str f.relPath
  repeats : r.files.Pairwise fun f g => f.relPath = g.relPath →
    f = g ∧ ∃ p, pathOutcome ws resolver encoding keywords p = .parsed f []

theorem listsOnce_fresh : ListsOnce ws resolver encoding keywords ⟨Registry.empty, [], []⟩ :=
  ⟨by simp, by simp [Registry.empty], List.Pairwise.nil⟩

variable {ws resolver encoding keywords}

theorem ListsOnce.merge_listed (hCwd : Posix.isAbsolute ws.cwd = true) {r : RunResult}
    (hr : ListsOnce ws resolver encoding keywords r) {p : String} {file : ParsedFile}
    {ds : List Declaration} (hp : pathOutcome ws resolver encoding keywords p = .parsed file ds)
    {g : ParsedFile} (hg : g ∈ r.files) (hRel : g.relPath = file.relPath) {r' : RunResult}
    (h : r.merge (.parsed file ds) = .ok r') : ListsOnce ws resolver encoding keywords r' := by
  obtain ⟨q, hq⟩ := hr.files g hg
  obtain ⟨hSame, hDecls⟩ := pathOutcome_same_file ws resolver encoding keywords hCwd hp hq hRel.symm
  subst hSame hDecls
  rw [RunResult.merge_parsed] at h
  cases h
  cases hds : r.registry.inFile (.str file.relPath) with
  | nil =>
    simp only [Registry.extend, Option.isSome_none, Bool.false_eq_true, if_false,
      Option.map_none, Option.toList_none, List.append_nil]
    rw [hds] at hp
    refine ⟨fun f hf => ?_, fun d hd => ?_, ?_⟩
    · rcases List.mem_append.1 hf with hf | hf
      · exact hr.files f hf
      · rw [List.mem_singleton.1 hf, hds]
        exact ⟨p, hp⟩
    · obtain ⟨f, hf, hfd⟩ := hr.entries d hd
      exact ⟨f, List.mem_append_left _ hf, hfd⟩
    · refine List.pairwise_append.2 ⟨hr.repeats, List.pairwise_singleton _ _, ?_⟩
      intro f hf f' hf' hfRel
      rw [List.mem_singleton.1 hf'] at hfRel ⊢
      obtain ⟨q', hq'⟩ := hr.files f hf
      obtain ⟨rfl, -⟩ := pathOutcome_same_file ws resolver encoding keywords hCwd hq' hp hfRel
      exact ⟨rfl, p, hp⟩
  | cons d rest =>
    have hd : d ∈ r.registry.entries :=
      (List.mem_filter.1 (show d ∈ r.registry.inFile (.str file.relPath) by simp [hds])).1
    have hOwn := pathOutcome_own ws resolver encoding keywords q file _ hq d (by simp [hds])
    obtain ⟨e, he⟩ := @Registry.extend_of_mem_head r.registry d rest hd ⟨hOwn.1, _, hOwn.2⟩
    simp only [he, Option.isSome_some, if_true, List.append_nil]
    exact ⟨hr.files, hr.entries, hr.repeats⟩

theorem ListsOnce.merge_new {r : RunResult} (hr : ListsOnce ws resolver encoding keywords r)
    {p : String} {file : ParsedFile} {ds : List Declaration}
    (hp : pathOutcome ws resolver encoding keywords p = .parsed file ds)
    (hNew : ∀ g ∈ r.files, g.relPath ≠ file.relPath) {r' : RunResult}
    (h : r.merge (.parsed file ds) = .ok r') : ListsOnce ws resolver encoding keywords r' := by
  have hOwn := pathOutcome_own ws resolver encoding keywords p file ds hp
  have hOther : ∀ e ∈ r.registry.entries, e.file ≠ .str file.relPath := by
    intro e he heFile
    obtain ⟨g, hg, hgFile⟩ := hr.entries e he
    exact hNew g hg (Value.str.inj (hgFile.symm.trans heFile))
  have hKeys : ∀ d ∈ ds, keyFault? d.name d.file = none := fun d hd => by
    obtain ⟨⟨n, hn⟩, hf⟩ := hOwn d hd
    rw [hn, hf, keyFault?_str]
  obtain ⟨hNone, hEntries⟩ := Registry.extend_of_admitsAll (Registry.admitsAll_of_no_clash hKeys
    (pathOutcome_keys_distinct ws resolver encoding keywords hp)
    fun e he d hd => Registry.clashes_of_other_file (hOwn d hd) (hOther e he))
  rw [RunResult.merge_parsed, hNone] at h
  cases h
  simp only [Option.isSome_none, Bool.false_eq_true, if_false, Option.map_none, Option.toList_none,
    List.append_nil]
  have hInFile : (r.registry.extend ds).1.inFile (.str file.relPath) = ds := by
    have hNone : r.registry.inFile (.str file.relPath) = [] :=
      List.filter_eq_nil_iff.2 fun e he => by simpa [Value.sameKey_str_iff] using hOther e he
    rw [Registry.inFile, hEntries, Registry.inFile_append_own (fun d hd => (hOwn d hd).2), hNone,
      List.nil_append]
  refine ⟨fun f hf => ?_, fun d hd => ?_, ?_⟩
  · rcases List.mem_append.1 hf with hf | hf
    · obtain ⟨q, hq⟩ := hr.files f hf
      refine ⟨q, ?_⟩
      rw [Registry.inFile_of_append_other hEntries (fun d hd => (hOwn d hd).2) (Ne.symm (hNew f hf))]
      exact hq
    · rw [List.mem_singleton.1 hf, hInFile]
      exact ⟨p, hp⟩
  · rw [hEntries] at hd
    rcases List.mem_append.1 hd with hd | hd
    · obtain ⟨f, hf, hfd⟩ := hr.entries d hd
      exact ⟨f, List.mem_append_left _ hf, hfd⟩
    · exact ⟨file, List.mem_append_right _ List.mem_cons_self, (hOwn d hd).2⟩
  · refine List.pairwise_append.2 ⟨hr.repeats, List.pairwise_singleton _ _, ?_⟩
    intro f hf f' hf' hfRel
    rw [List.mem_singleton.1 hf'] at hfRel
    exact absurd hfRel (hNew f hf)

theorem ListsOnce.merge (hCwd : Posix.isAbsolute ws.cwd = true) {r r' : RunResult}
    (hr : ListsOnce ws resolver encoding keywords r) (p : String)
    (h : r.merge (pathOutcome ws resolver encoding keywords p) = .ok r') :
    ListsOnce ws resolver encoding keywords r' := by
  cases hp : pathOutcome ws resolver encoding keywords p with
  | stop e =>
    rw [hp, RunResult.merge_stop] at h
    cases h
  | failed fl =>
    rw [hp, RunResult.merge_failed] at h
    cases h
    exact ⟨hr.files, hr.entries, hr.repeats⟩
  | parsed file ds =>
    rw [hp] at h
    by_cases hListed : ∃ g ∈ r.files, g.relPath = file.relPath
    · obtain ⟨g, hg, hRel⟩ := hListed
      exact hr.merge_listed hCwd hp hg hRel h
    · exact hr.merge_new hp (fun g hg hRel => hListed ⟨g, hg, hRel⟩) h

theorem parseEach_skip_listsOnce (hCwd : Posix.isAbsolute ws.cwd = true) (paths : List String)
    (logs : List LogRecord) {r : RunResult}
    (h : (parseEach ws resolver .skip encoding keywords logs ⟨Registry.empty, [], []⟩ paths).2 = .ok r) :
    ListsOnce ws resolver encoding keywords r := by
  rw [parseEach_skip_eq_foldlM] at h
  exact foldlM_invariant _ (fun s p s' hs hStep => hs.merge hCwd p hStep) paths _ r
    (listsOnce_fresh ws resolver encoding keywords) h

theorem ListsOnce.repeats_undeclared (hCwd : Posix.isAbsolute ws.cwd = true) {r : RunResult}
    (hr : ListsOnce ws resolver encoding keywords r) :
    r.files.Pairwise fun f g => f.relPath = g.relPath → f = g ∧ r.registry.inFile (.str f.relPath) = [] := by
  refine hr.repeats.imp_of_mem fun {f g} hf _ hRepeat hRel => ?_
  obtain ⟨hfg, p, hp⟩ := hRepeat hRel
  obtain ⟨q, hq⟩ := hr.files f hf
  exact ⟨hfg, (pathOutcome_same_file ws resolver encoding keywords hCwd hp hq rfl).2.symm⟩

end Run

theorem parseFiles_skip_eq {ws : Workspace} {paths : List String} {root : String} {encoding : Value}
    {keywords : List String} {registry : Registry} {resolver : Resolver}
    (hMake : Resolver.make ws.cwd root = .ok resolver) :
    (parseFiles ws paths root (.str "skip") encoding keywords registry).2 =
      (parseEach ws resolver .skip encoding keywords [] ⟨registry, [], []⟩ paths).2 := by
  have hPolicy : ErrorPolicy.ofValue (.str "skip") = .ok .skip := rfl
  rw [parseFiles, hPolicy, hMake]
  dsimp only
  split
  · rename_i logs r hEach
    rw [hEach]
  · rfl

theorem parseFiles_skip_run {ws : Workspace} {paths : List String} {root : String} {encoding : Value}
    {keywords : List String} {registry : Registry} {r : RunResult}
    (h : (parseFiles ws paths root (.str "skip") encoding keywords registry).2 = .ok r) :
    ∃ resolver, (parseEach ws resolver .skip encoding keywords [] ⟨registry, [], []⟩ paths).2 =
      .ok r := by
  cases hMake : Resolver.make ws.cwd root with
  | error e =>
    rw [parseFiles, hMake] at h
    split at h <;> simp_all
  | ok resolver => exact ⟨resolver, (parseFiles_skip_eq hMake).symm.trans h⟩

/-! ## The files object of the sections index -/

namespace Value

theorem store_keys_of_mem {acc : List (Value × Value)} {k : String} (hk : .str k ∈ acc.map Prod.fst)
    (v : Value) : (store acc (.str k) v).map Prod.fst = acc.map Prod.fst := by
  have hAny : (acc.any fun e => sameKey e.1 (.str k)) = true := by
    obtain ⟨e, he, heKey⟩ := List.mem_map.1 hk
    exact List.any_eq_true.2 ⟨e, he, (sameKey_str_iff _ _).2 heKey⟩
  rw [store, if_pos hAny, List.map_map]
  congr 1
  funext e
  simp only [Function.comp_apply]
  split <;> rfl

theorem mem_store_self (acc : List (Value × Value)) (k : String) (v : Value) :
    (.str k, v) ∈ store acc (.str k) v := by
  by_cases hk : .str k ∈ acc.map Prod.fst
  · obtain ⟨e, he, heKey⟩ := List.mem_map.1 hk
    have hSame : sameKey e.1 (.str k) = true := (sameKey_str_iff _ _).2 heKey
    rw [store, if_pos (List.any_eq_true.2 ⟨e, he, hSame⟩)]
    exact List.mem_map.2 ⟨e, he, by rw [if_pos hSame, heKey]⟩
  · rw [Json.store_fresh v hk]
    exact List.mem_append_right _ List.mem_cons_self

theorem mem_store_of_ne {acc : List (Value × Value)} {k' v' : Value} (h : (k', v') ∈ acc) {k : String}
    (hk : k' ≠ .str k) (v : Value) : (k', v') ∈ store acc (.str k) v := by
  have hOther : sameKey k' (.str k) = false := by
    cases hSame : sameKey k' (.str k)
    · rfl
    · exact absurd ((sameKey_str_iff _ _).1 hSame) hk
  unfold store
  split
  · exact List.mem_map.2 ⟨(k', v'), h, by simp only [hOther, Bool.false_eq_true, if_false]⟩
  · exact List.mem_append_left _ h

end Value

theorem foldl_store_keys :
    ∀ (l : List (String × Value)) (acc : List (Value × Value)), (acc.map Prod.fst).Nodup →
      ((l.foldl (fun acc e => Value.store acc (.str e.1) e.2) acc).map Prod.fst).Nodup ∧
      ∀ k, k ∈ (l.foldl (fun acc e => Value.store acc (.str e.1) e.2) acc).map Prod.fst ↔
        k ∈ acc.map Prod.fst ∨ ∃ e ∈ l, k = .str e.1
  | [], acc, h => ⟨h, fun k => by simp⟩
  | e :: l, acc, h => by
    have hStore : ((Value.store acc (.str e.1) e.2).map Prod.fst).Nodup ∧
        ∀ k, k ∈ (Value.store acc (.str e.1) e.2).map Prod.fst ↔
          k ∈ acc.map Prod.fst ∨ k = .str e.1 := by
      by_cases hk : .str e.1 ∈ acc.map Prod.fst
      · rw [Value.store_keys_of_mem hk]
        exact ⟨h, fun k => ⟨.inl, fun hk' => hk'.elim id fun hEq => hEq ▸ hk⟩⟩
      · rw [Json.store_fresh e.2 hk, List.map_append, List.map_singleton, ← List.concat_eq_append]
        exact ⟨h.concat hk, fun k => by simp⟩
    obtain ⟨hNodup, hMem⟩ := foldl_store_keys l _ hStore.1
    refine ⟨hNodup, fun k => ?_⟩
    rw [List.foldl_cons, hMem, hStore.2]
    simp only [List.mem_cons, exists_eq_or_imp, or_assoc]

theorem mem_foldl_store {k : String} {v : Value} :
    ∀ (l : List (String × Value)) (acc : List (Value × Value)), (∀ e ∈ l, e.1 = k → e.2 = v) →
      ((.str k, v) ∈ acc ∨ (k, v) ∈ l) →
      (.str k, v) ∈ l.foldl (fun acc e => Value.store acc (.str e.1) e.2) acc
  | [], acc, _, h => by simpa using h
  | e :: l, acc, hAgree, h => by
    rw [List.foldl_cons]
    refine mem_foldl_store l _ (fun e' he' => hAgree e' (.tail _ he')) ?_
    by_cases hk : e.1 = k
    · left
      have hv := hAgree e List.mem_cons_self hk
      obtain ⟨k₀, v₀⟩ := e
      simp only at hk hv
      subst hk hv
      exact Value.mem_store_self acc k₀ v₀
    · rcases h with h | h
      · exact .inl (Value.mem_store_of_ne h (fun hEq => hk (Value.str.inj hEq).symm) e.2)
      · rcases List.mem_cons.1 h with h | h
        · exact absurd (by rw [← h]) hk
        · exact .inr h

theorem mapM_fileEntries :
    ∀ {files : List ParsedFile} {entries : List (String × Value)},
      files.mapM (fun p => do return (p.relPath, ← p.entry)) = .ok entries →
      entries.map Prod.fst = files.map (·.relPath) ∧
        (∀ f ∈ files, ∃ v, f.entry = .ok v ∧ (f.relPath, v) ∈ entries) ∧
        ∀ e ∈ entries, ∃ f ∈ files, f.relPath = e.1 ∧ f.entry = .ok e.2
  | [], entries, h => by
    cases h
    simp
  | f :: files, entries, h => by
    rw [List.mapM_cons] at h
    obtain ⟨e, hEntry, h⟩ := Except.exists_of_bind_eq_ok h
    obtain ⟨es, hRest, h⟩ := Except.exists_of_bind_eq_ok h
    cases h
    obtain ⟨v, hv, rfl⟩ : ∃ v, f.entry = .ok v ∧ e = (f.relPath, v) := by
      cases hf : f.entry with
      | error err =>
        rw [hf] at hEntry
        cases hEntry
      | ok v =>
        rw [hf] at hEntry
        cases hEntry
        exact ⟨v, rfl, rfl⟩
    obtain ⟨hKeys, hFiles, hFrom⟩ := mapM_fileEntries hRest
    refine ⟨by simp [hKeys], ?_, ?_⟩
    · intro g hg
      rcases List.mem_cons.1 hg with rfl | hg
      · exact ⟨v, hv, List.mem_cons_self⟩
      · obtain ⟨w, hw, hMem⟩ := hFiles g hg
        exact ⟨w, hw, .tail _ hMem⟩
    · intro e he
      rcases List.mem_cons.1 he with rfl | he
      · exact ⟨f, List.mem_cons_self, rfl, hv⟩
      · obtain ⟨g, hg, hRel, hEntry⟩ := hFrom e he
        exact ⟨g, .tail _ hg, hRel, hEntry⟩

theorem eq_of_pairwise_relPath :
    ∀ {l : List ParsedFile}, l.Pairwise (fun f g => f.relPath = g.relPath → f = g) →
      ∀ f ∈ l, ∀ g ∈ l, f.relPath = g.relPath → f = g
  | [], _ => by simp
  | a :: l, h => by
    rw [List.pairwise_cons] at h
    intro f hf g hg hRel
    rcases List.mem_cons.1 hf with hfa | hf <;> rcases List.mem_cons.1 hg with hga | hg
    · rw [hfa, hga]
    · rw [hfa] at hRel ⊢
      exact h.1 g hg hRel
    · rw [hga] at hRel ⊢
      exact (h.1 f hf hRel.symm).symm
    · exact eq_of_pairwise_relPath h.2 f hf g hg hRel

theorem sectionsIndex_files {generated : String} {r : RunResult} {doc : Value}
    (h : sectionsIndex generated r = .ok doc) :
    ∃ es files, doc = .dict es ∧ Value.field? es "file_count" = some (.int r.files.length) ∧
      Value.field? es "files" = some (.dict files) ∧ (files.map Prod.fst).Nodup ∧
      (∀ k, k ∈ files.map Prod.fst ↔ ∃ f ∈ r.files, k = .str f.relPath) ∧
      (r.files.Pairwise (fun f g => f.relPath = g.relPath → f = g) →
        ∀ f ∈ r.files, ∃ v, f.entry = .ok v ∧ (.str f.relPath, v) ∈ files) := by
  unfold sectionsIndex at h
  obtain ⟨entries, hEntries, h⟩ := Except.exists_of_bind_eq_ok h
  cases h
  obtain ⟨hKeys, hFiles, hFrom⟩ := mapM_fileEntries hEntries
  obtain ⟨hNodup, hMem⟩ := foldl_store_keys entries [] List.nodup_nil
  refine ⟨_, entries.foldl (fun acc e => Value.store acc (.str e.1) e.2) [], rfl, rfl, rfl, hNodup,
    fun k => ?_, fun hOne f hf => ?_⟩
  · rw [hMem]
    constructor
    · rintro (hk | ⟨e, he, rfl⟩)
      · simp at hk
      · obtain ⟨f, hf, hRel, -⟩ := hFrom e he
        exact ⟨f, hf, by rw [hRel]⟩
    · rintro ⟨f, hf, rfl⟩
      obtain ⟨v, -, hv⟩ := hFiles f hf
      exact .inr ⟨_, hv, rfl⟩
  · obtain ⟨v, hv, hIn⟩ := hFiles f hf
    refine ⟨v, hv, mem_foldl_store entries [] (fun e he hRel => ?_) (.inr hIn)⟩
    obtain ⟨g, hg, hgRel, hgEntry⟩ := hFrom e he
    have hgf := eq_of_pairwise_relPath hOne g hg f hf (hgRel.trans hRel)
    rw [hgf, hv] at hgEntry
    exact (Except.ok.inj hgEntry).symm

theorem keys_length_eq_iff {keys : List Value} {files : List ParsedFile} (hNodup : keys.Nodup)
    (hMem : ∀ k, k ∈ keys ↔ ∃ f ∈ files, k = .str f.relPath) :
    keys.length = files.length ↔ (files.map (·.relPath)).Nodup := by
  have hPaths : files.map (fun f => Value.str f.relPath) = (files.map (·.relPath)).map Value.str := by
    simp
  have hStrNodup : (files.map fun f => Value.str f.relPath).Nodup ↔ (files.map (·.relPath)).Nodup := by
    rw [hPaths]
    exact List.nodup_map_iff fun a b hab => Value.str.inj hab
  have hSub : keys ⊆ files.map fun f => Value.str f.relPath := fun k hk => by
    obtain ⟨f, hf, rfl⟩ := (hMem k).1 hk
    exact List.mem_map_of_mem hf
  have hSup : (files.map fun f => Value.str f.relPath) ⊆ keys := fun k hk => by
    obtain ⟨f, hf, rfl⟩ := List.mem_map.1 hk
    exact (hMem _).2 ⟨f, hf, rfl⟩
  rw [← hStrNodup, ← List.length_map (fun f : ParsedFile => Value.str f.relPath)]
  constructor
  · intro hLength
    exact ((List.subperm_of_subset hNodup hSub).perm_of_length_le hLength.ge).nodup_iff.1 hNodup
  · intro hStr
    exact le_antisymm (List.subperm_of_subset hNodup hSub).length_le
      (List.subperm_of_subset hStr hSup).length_le

/-! ## A run and its sections index -/

/-- From an absolute working directory, a run that skips failures lists a relative path twice
only for one file that declares nothing in the run. Its sections index counts every file
listed and keys the files' entries by their relative paths, each file's entry under its own:
it has as many keys as it counts files exactly when no relative path repeats. -/
theorem parseFiles_skip_index_files {ws : Workspace} (hCwd : Posix.isAbsolute ws.cwd = true)
    {paths : List String} {root : String} {encoding : Value} {keywords : List String}
    {r : RunResult}
    (hRun : (parseFiles ws paths root (.str "skip") encoding keywords Registry.empty).2 = .ok r)
    {generated : String} {doc : Value} (hDoc : sectionsIndex generated r = .ok doc) :
    r.files.Pairwise (fun f g => f.relPath = g.relPath → f = g ∧ r.registry.inFile (.str f.relPath) = []) ∧
      ∃ es files, doc = .dict es ∧ Value.field? es "file_count" = some (.int r.files.length) ∧
        Value.field? es "files" = some (.dict files) ∧
        (files.length = r.files.length ↔ (r.files.map (·.relPath)).Nodup) ∧
        ∀ f ∈ r.files, ∃ v, f.entry = .ok v ∧ (.str f.relPath, v) ∈ files := by
  obtain ⟨resolver, hEach⟩ := parseFiles_skip_run hRun
  have hRepeats := (parseEach_skip_listsOnce hCwd paths [] hEach).repeats_undeclared hCwd
  obtain ⟨es, files, rfl, hCount, hFiles, hNodup, hKeys, hEntries⟩ := sectionsIndex_files hDoc
  refine ⟨hRepeats, es, files, rfl, hCount, hFiles, ?_, hEntries (hRepeats.imp fun h hRel => (h hRel).1)⟩
  rw [← List.length_map Prod.fst]
  exact keys_length_eq_iff hNodup hKeys

theorem sectionsIndex_of_entries {generated : String} {r : RunResult}
    (h : ∀ f ∈ r.files, ∃ v, f.entry = .ok v) : ∃ doc, sectionsIndex generated r = .ok doc := by
  have hMapM : ∀ files : List ParsedFile, (∀ f ∈ files, ∃ v, f.entry = .ok v) →
      ∃ entries, files.mapM (fun p => do return (p.relPath, ← p.entry)) = .ok entries := by
    intro files hFiles
    induction files with
    | nil => exact ⟨[], rfl⟩
    | cons f files ih =>
      obtain ⟨v, hv⟩ := hFiles f List.mem_cons_self
      obtain ⟨entries, hEntries⟩ := ih fun g hg => hFiles g (.tail _ hg)
      exact ⟨_, by rw [List.mapM_cons, hv, hEntries]; rfl⟩
  obtain ⟨entries, hEntries⟩ := hMapM r.files h
  exact ⟨_, by rw [sectionsIndex, hEntries]; rfl⟩

theorem parseFiles_skip_repeat {ws : Workspace} {path root : String} {encoding : Value}
    {keywords : List String} {resolver : Resolver} (hMake : Resolver.make ws.cwd root = .ok resolver)
    {file : ParsedFile} (hp : pathOutcome ws resolver encoding keywords path = .parsed file []) :
    (parseFiles ws [path, path] root (.str "skip") encoding keywords Registry.empty).2 =
      .ok ⟨Registry.empty, [file, file], []⟩ := by
  rw [parseFiles_skip_eq hMake, parseEach_skip_eq_foldlM]
  simp only [List.foldlM_cons, List.foldlM_nil, hp, RunResult.merge_parsed]
  rfl

/-- A workspace whose one source file declares nothing. -/
def undeclaredWorkspace : Workspace :=
  ⟨⟨[("/w", .dir), ("/w/a.cs", .file "int x;\n".toUTF8.toList)], by decide +kernel⟩, "/w"⟩

theorem parseFiles_undeclared_twice :
    ∃ file : ParsedFile, file.relPath = "a.cs" ∧
      (parseFiles undeclaredWorkspace ["a.cs", "a.cs"] "." (.str "skip") .null [] Registry.empty).2 =
        .ok ⟨Registry.empty, [file, file], []⟩ := by
  have hPath : pathFault? (shownPath "a.cs") = none := by
    simp only [pathFault?_eq_none_iff]
    decide +kernel
  have hParsed : (parseFile undeclaredWorkspace "a.cs"
      Registry.empty ⟨"/w/"⟩ .null []).toOption.map (fun out => (out.1.relPath, out.2.1.entries.isEmpty)) =
      some ("a.cs", true) := by
    unfold parseFile
    simp only [hPath]
    decide +kernel
  cases hFile : parseFile undeclaredWorkspace "a.cs"
      Registry.empty ⟨"/w/"⟩ .null [] with
  | error e =>
    rw [hFile] at hParsed
    cases hParsed
  | ok out =>
    obtain ⟨file, staging, record⟩ := out
    rw [hFile] at hParsed
    simp only [Except.toOption, Option.map_some, Option.some.injEq, Prod.mk.injEq,
      List.isEmpty_iff] at hParsed
    have hOutcome := pathOutcome_of_ok _ _ _ _ hFile
    rw [hParsed.2] at hOutcome
    refine ⟨file, hParsed.1, parseFiles_skip_repeat ?_ hOutcome⟩
    exact eq_ok_of_toOption (by decide +kernel)

theorem entry_of_relPath_a_cs {file : ParsedFile} (hRel : file.relPath = "a.cs") :
    ∃ v, file.entry = .ok v := by
  have hPage : outputPath "a.cs" = .ok "a.html" := eq_ok_of_toOption (by decide +kernel)
  exact ⟨_, by rw [ParsedFile.entry, hRel, hPage]; rfl⟩

/-- The run over `a.cs` twice and its index satisfy `parseFiles_skip_index_files`. -/
theorem parseFiles_skip_index_files_twice :
    Posix.isAbsolute "/w" = true ∧ ∃ r doc,
      (parseFiles undeclaredWorkspace ["a.cs", "a.cs"] "." (.str "skip") .null [] Registry.empty).2 =
        .ok r ∧ sectionsIndex "t" r = .ok doc ∧
      r.files.Pairwise (fun f g => f.relPath = g.relPath → f = g ∧ r.registry.inFile (.str f.relPath) = []) ∧
      ∃ es files, doc = .dict es ∧ Value.field? es "file_count" = some (.int r.files.length) ∧
        Value.field? es "files" = some (.dict files) ∧
        (files.length = r.files.length ↔ (r.files.map (·.relPath)).Nodup) ∧
        ∀ f ∈ r.files, ∃ v, f.entry = .ok v ∧ (.str f.relPath, v) ∈ files := by
  have hCwd : Posix.isAbsolute "/w" = true := (Posix.isAbsolute_iff "/w").2 ⟨['w'], rfl⟩
  obtain ⟨file, hRel, hRun⟩ := parseFiles_undeclared_twice
  obtain ⟨doc, hDoc⟩ := @sectionsIndex_of_entries "t" ⟨Registry.empty, [file, file], []⟩
    (by simp [entry_of_relPath_a_cs hRel])
  exact ⟨hCwd, _, doc, hRun, hDoc,
    @parseFiles_skip_index_files undeclaredWorkspace hCwd _ _ _ _ _ hRun _ _ hDoc⟩

/-- The file `a.cs`, declaring nothing, given twice: listed twice under one relative path, and
counted twice by an index with one key. -/
theorem parseFiles_skip_lists_path_twice :
    ∃ r doc es files,
      (parseFiles undeclaredWorkspace ["a.cs", "a.cs"] "." (.str "skip") .null [] Registry.empty).2 =
        .ok r ∧
      r.files.map (·.relPath) = ["a.cs", "a.cs"] ∧ sectionsIndex "t" r = .ok doc ∧ doc = .dict es ∧
      Value.field? es "file_count" = some (.int 2) ∧ Value.field? es "files" = some (.dict files) ∧
      files.map Prod.fst = [.str "a.cs"] := by
  obtain ⟨file, hRel, hRun⟩ := parseFiles_undeclared_twice
  obtain ⟨doc, hDoc⟩ := @sectionsIndex_of_entries "t" ⟨Registry.empty, [file, file], []⟩
    (by simp [entry_of_relPath_a_cs hRel])
  obtain ⟨es, files, hEs, hCount, hFiles, hNodup, hKeys, -⟩ := sectionsIndex_files hDoc
  refine ⟨_, doc, es, files, hRun, by simp [hRel], hDoc, hEs, by rw [hCount]; rfl, hFiles, ?_⟩
  have hOne : ∀ k, k ∈ files.map Prod.fst ↔ k ∈ [Value.str "a.cs"] := fun k => by
    rw [hKeys]
    simp [hRel]
  exact ((List.perm_ext_iff_of_nodup hNodup (List.nodup_singleton _)).2 hOne).eq_singleton

end Weave
