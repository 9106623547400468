import Mathlib
import Weave.Proofs.PathNames
import Weave.Proofs.RunAccounting

/-! # A run that skips failures does not depend on the order of its paths

Each path of a run is parsed into a registry of its own, whatever came before it; only the
merge into the run's registry sees the other files. A file's declarations carry its path
relative to the root, so two files with different relative paths never clash, and two paths
with one relative path that both parse were read as one file (`readFile_eq_of_relative_eq`)
and parse alike. Merges of different files commute, and so a run over any permutation of the
paths ends with the same files, the same failures and the same declarations, in another
order; or both runs stop at a fault.
-/

namespace Weave

set_option autoImplicit false

/-! ## Folds whose steps commute -/

/-- Two outcomes agree under `E`: both hold values related by `E`, or both fail. -/
inductive Except.Agree {ε σ : Type} (E : σ → σ → Prop) : Except ε σ → Except ε σ → Prop
  | ok {a b : σ} : E a b → Except.Agree E (.ok a) (.ok b)
  | error (e e' : ε) : Except.Agree E (.error e) (.error e')

namespace Except.Agree

variable {ε σ : Type} {E : σ → σ → Prop}

theorem ok_ok {a b : σ} : Except.Agree E (.ok a : Except ε σ) (.ok b) ↔ E a b :=
  ⟨fun h => by cases h; assumption, .ok⟩

theorem refl (hE : Equivalence E) : ∀ x : Except ε σ, Except.Agree E x x
  | .ok a => .ok (hE.refl a)
  | .error e => .error e e

theorem trans (hE : Equivalence E) {x y z : Except ε σ} (hxy : Except.Agree E x y)
    (hyz : Except.Agree E y z) : Except.Agree E x z := by
  cases hxy with
  | ok hab =>
    cases hyz with
    | ok hbc => exact .ok (hE.trans hab hbc)
  | error e _ =>
    cases hyz with
    | error _ e'' => exact .error e e''

theorem bind {x y : Except ε σ} (h : Except.Agree E x y) {f g : σ → Except ε σ}
    (hfg : ∀ a b, E a b → Except.Agree E (f a) (g b)) : Except.Agree E (x >>= f) (y >>= g) := by
  cases h with
  | ok hab => exact hfg _ _ hab
  | error e e' => exact .error e e'

end Except.Agree

section Fold

variable {ε α σ : Type} {E : σ → σ → Prop} (step : σ → α → Except ε σ)

theorem foldlM_agree (hCongr : ∀ a s t, E s t → Except.Agree E (step s a) (step t a)) :
    ∀ (l : List α) (s t : σ), E s t → Except.Agree E (l.foldlM step s) (l.foldlM step t)
  | [], _, _, hst => .ok hst
  | a :: l, s, t, hst => by
    simp only [List.foldlM_cons]
    exact (hCongr a s t hst).bind fun s' t' h' => foldlM_agree hCongr l s' t' h'

theorem foldlM_agree_of_perm (hE : Equivalence E)
    (hCongr : ∀ a s t, E s t → Except.Agree E (step s a) (step t a))
    (hSwap : ∀ a b s, Except.Agree E (step s a >>= (step · b)) (step s b >>= (step · a)))
    {l l' : List α} (hPerm : l.Perm l') :
    ∀ s t, E s t → Except.Agree E (l.foldlM step s) (l'.foldlM step t) := by
  induction hPerm with
  | nil => exact fun _ _ hst => .ok hst
  | cons a _ ih =>
    intro s t hst
    simp only [List.foldlM_cons]
    exact (hCongr a s t hst).bind ih
  | swap a b l =>
    intro s t hst
    simp only [List.foldlM_cons, ← bind_assoc]
    have hFirst : Except.Agree E (step s b >>= (step · a)) (step t a >>= (step · b)) :=
      (hSwap b a s).trans hE ((hCongr a s t hst).bind fun s' t' h' => hCongr b s' t' h')
    exact hFirst.bind fun s' t' h' => foldlM_agree step hCongr l s' t' h'
  | trans _ _ ih₁ ih₂ =>
    intro s t hst
    exact (ih₁ s s (hE.refl s)).trans hE (ih₂ s t hst)

end Fold

theorem Except.exists_of_bind_eq_ok {ε α β : Type} {x : Except ε α} {f : α → Except ε β} {b : β}
    (h : x >>= f = .ok b) : ∃ a, x = .ok a ∧ f a = .ok b := by
  cases x with
  | error e => cases h
  | ok a => exact ⟨a, rfl, h⟩

/-! ## Merging the declarations of one file -/

namespace Registry

theorem mem_inFile_str {r : Registry} {d : Declaration} {f : String} :
    d ∈ r.inFile (.str f) ↔ d ∈ r.entries ∧ d.file = .str f := by
  simp [inFile, Value.sameKey_str_iff]

theorem clashes_str_iff (e : Declaration) {n f : String} {kind : DeclKind} {line : Value} :
    e.clashes ⟨.str n, kind, .str f, line⟩ = true ↔ e.name = .str n ∧ e.file = .str f := by
  simp [Declaration.clashes]

theorem insert_of_key_taken {r : Registry} {n f : String} {kind : DeclKind} {line : Value}
    {e : Declaration} (he : e ∈ r.entries) (heKey : e.name = .str n ∧ e.file = .str f) :
    r.insert ⟨.str n, kind, .str f, line⟩ =
      .error (.duplicateType (.str n) (.str f) e.line line) := by
  have hClash : e.clashes ⟨.str n, kind, .str f, line⟩ = true := (clashes_str_iff e).2 heKey
  unfold insert
  split
  · rename_i hKey
    rw [keyFault?_str] at hKey
    cases hKey
  · split
    · split
      · rename_i old hFind
        have hFound := List.find?_some hFind
        rw [eq_of_key r n f (List.mem_of_find?_eq_some hFind) he ((clashes_str_iff old).1 hFound)
          heKey]
      · rename_i hNone
        exact absurd hClash (by simpa using List.find?_eq_none.1 hNone e he)
    · rename_i hAny
      exact absurd hClash (by simpa using List.any_eq_false.1 hAny e he)

theorem extend_of_inFile {f : String} :
    ∀ {ds : List Declaration}, (∀ d ∈ ds, (∃ n, d.name = .str n) ∧ d.file = .str f) →
    ∀ {R₁ R₂ : Registry}, (R₁.inFile (.str f)).Perm (R₂.inFile (.str f)) →
    ∃ pre, pre <+: ds ∧ (R₁.extend ds).1.entries = R₁.entries ++ pre ∧
      (R₂.extend ds).1.entries = R₂.entries ++ pre ∧ (R₁.extend ds).2 = (R₂.extend ds).2
  | [], _, _, _, _ => ⟨[], List.nil_prefix, by simp [extend], by simp [extend], rfl⟩
  | d :: ds, hOwn, R₁, R₂, hPerm => by
    obtain ⟨⟨n, hn⟩, hf⟩ := hOwn d List.mem_cons_self
    obtain ⟨name, kind, file, line⟩ := d
    simp only at hn hf
    subst hn hf
    by_cases hTaken : ∃ e ∈ R₁.inFile (.str f), e.name = .str n
    · obtain ⟨e, he, heName⟩ := hTaken
      have he₂ := hPerm.subset he
      rw [mem_inFile_str] at he he₂
      have h₁ : R₁.insert ⟨.str n, kind, .str f, line⟩ = _ :=
        insert_of_key_taken he.1 ⟨heName, he.2⟩
      have h₂ : R₂.insert ⟨.str n, kind, .str f, line⟩ = _ :=
        insert_of_key_taken he₂.1 ⟨heName, he₂.2⟩
      exact ⟨[], List.nil_prefix, by simp [extend, h₁], by simp [extend, h₂],
        by simp [extend, h₁, h₂]⟩
    · have hFresh : ∀ R : Registry, (R.inFile (.str f)).Perm (R₁.inFile (.str f)) →
          (R.entries.any fun e => e.clashes ⟨.str n, kind, .str f, line⟩) = false := by
        intro R hR
        rw [List.any_eq_false]
        intro e he hClash
        have hKey := (clashes_str_iff e).1 hClash
        exact hTaken ⟨e, hR.subset (mem_inFile_str.2 ⟨he, hKey.2⟩), hKey.1⟩
      have hFresh₁ := hFresh R₁ (List.Perm.refl _)
      have hFresh₂ := hFresh R₂ hPerm.symm
      have hAppend : ∀ (R : Registry) (h : (R.entries.any fun e =>
          e.clashes ⟨.str n, kind, .str f, line⟩) = false),
          (⟨R.entries ++ [⟨.str n, kind, .str f, line⟩], pairwise_push R.keys_distinct h⟩ :
            Registry).inFile (.str f) = R.inFile (.str f) ++ [⟨.str n, kind, .str f, line⟩] := by
        intro R h
        simp [inFile, List.filter_append, Value.sameKey_str_iff]
      have hPerm' : ((⟨R₁.entries ++ [⟨.str n, kind, .str f, line⟩],
          pairwise_push R₁.keys_distinct hFresh₁⟩ : Registry).inFile (.str f)).Perm
          ((⟨R₂.entries ++ [⟨.str n, kind, .str f, line⟩],
            pairwise_push R₂.keys_distinct hFresh₂⟩ : Registry).inFile (.str f)) := by
        rw [hAppend R₁ hFresh₁, hAppend R₂ hFresh₂]
        exact hPerm.append_right _
      obtain ⟨pre, hPre, h₁, h₂, hFault⟩ := extend_of_inFile (fun d hd => hOwn d (.tail _ hd)) hPerm'
      refine ⟨⟨.str n, kind, .str f, line⟩ :: pre, List.cons_prefix_cons.2 ⟨rfl, hPre⟩, ?_, ?_, ?_⟩
      · simp [extend, insert_of_fresh R₁ (keyFault?_str n f) hFresh₁, h₁]
      · simp [extend, insert_of_fresh R₂ (keyFault?_str n f) hFresh₂, h₂]
      · simpa [extend, insert_of_fresh R₁ (keyFault?_str n f) hFresh₁,
          insert_of_fresh R₂ (keyFault?_str n f) hFresh₂] using hFault

theorem inFile_of_append_other {r r' : Registry} {pre : List Declaration} {f g : String}
    (h : r'.entries = r.entries ++ pre) (hPre : ∀ d ∈ pre, d.file = .str f) (hfg : f ≠ g) :
    r'.inFile (.str g) = r.inFile (.str g) := by
  have hOther : pre.filter (fun d => d.file.sameKey (.str g)) = [] :=
    List.filter_eq_nil_iff.2 fun d hd => by simp [hPre d hd, Value.sameKey_str_iff, hfg]
  simp only [inFile, h, List.filter_append, hOther, List.append_nil]

end Registry

/-! ## A run as a fold over its paths -/

/-- Where a run records a fault met at a path: under the file the fault names, or else under
the path relative to the root. -/
def failureRel (ws : Workspace) (resolver : Resolver) (path : String) (e : Fault) : String :=
  if e.file.truthy then e.file.display
  else (resolver.relative ws.cwd (shownPath path)).toOption.getD ""

/-- What one path comes to in a run, before anything is merged: a fault that stops the run, a
documented failure, or the file parsed with the declarations it makes. -/
inductive PathOutcome where
  | stop (e : Fault)
  | failed (f : ParseFailure)
  | parsed (file : ParsedFile) (declarations : List Declaration)

def PathOutcome.Own (o : PathOutcome) : Prop :=
  ∀ file ds, o = .parsed file ds → ∀ d ∈ ds, (∃ n, d.name = .str n) ∧ d.file = .str file.relPath

/-- A path's outcome recorded in the result of a run that skips failures: the declarations
merged before a refusal stay, and a refused file is recorded as a failure. -/
def RunResult.merge (r : RunResult) : PathOutcome → Except Fault RunResult
  | .stop e => .error e
  | .failed f => .ok { r with failures := r.failures ++ [f] }
  | .parsed file ds =>
    .ok ⟨(r.registry.extend ds).1,
      r.files ++ (if (r.registry.extend ds).2.isSome then [] else [file]),
      r.failures ++ ((r.registry.extend ds).2.map fun e => ⟨file.relPath, e⟩).toList⟩

namespace RunResult

variable (r : RunResult)

@[simp] theorem merge_stop (e : Fault) : r.merge (.stop e) = .error e := rfl

@[simp] theorem merge_failed (f : ParseFailure) :
    r.merge (.failed f) = .ok { r with failures := r.failures ++ [f] } := rfl

theorem merge_parsed (file : ParsedFile) (ds : List Declaration) :
    r.merge (.parsed file ds) = .ok ⟨(r.registry.extend ds).1,
      r.files ++ (if (r.registry.extend ds).2.isSome then [] else [file]),
      r.failures ++ ((r.registry.extend ds).2.map fun e => ⟨file.relPath, e⟩).toList⟩ := rfl

end RunResult

section Run

variable (ws : Workspace) (resolver : Resolver) (encoding : Value) (keywords : List String)

/-- What a path comes to, parsed into a registry of its own. -/
def pathOutcome (path : String) : PathOutcome :=
  match parseFile ws path Registry.empty resolver encoding keywords with
  | .error e => if e.category?.isSome then .failed ⟨failureRel ws resolver path e, e⟩ else .stop e
  | .ok (parsed, staging, _) => .parsed parsed staging.entries

theorem pathOutcome_of_error {path : String} {e : Fault}
    (h : parseFile ws path Registry.empty resolver encoding keywords = .error e) :
    pathOutcome ws resolver encoding keywords path =
      if e.category?.isSome then .failed ⟨failureRel ws resolver path e, e⟩ else .stop e := by
  rw [pathOutcome, h]

theorem pathOutcome_of_ok {path : String} {parsed : ParsedFile} {staging : Registry}
    {record : LogRecord}
    (h : parseFile ws path Registry.empty resolver encoding keywords = .ok (parsed, staging, record)) :
    pathOutcome ws resolver encoding keywords path = .parsed parsed staging.entries := by
  rw [pathOutcome, h]

theorem parseFile_yields (path : String) (R : Registry) :
    Yields (fun out : ParsedFile × Registry × LogRecord =>
        pathFault? (shownPath path) = none ∧
        (∃ bytes, ws.tree.readFile (Posix.join ws.cwd (shownPath path)) = .ok bytes) ∧
        out.1.relPath = Posix.relative ws.cwd (shownPath path) resolver.root ∧
        ∃ ds, out.2.1.entries = R.entries ++ ds ∧ ∀ d ∈ ds, (∃ n, d.name = .str n) ∧
          d.file = .str (Posix.relative ws.cwd (shownPath path) resolver.root))
      (fun _ => True) (parseFile ws path R resolver encoding keywords) := by
  rw [parseFile, relative_shownPath]
  refine Yields.bind (Yields.ok rfl) ?_
  rintro _ rfl
  cases hName : encodingName encoding with
  | error e => exact Yields.error trivial
  | ok name =>
  refine Yields.bind (Yields.ok rfl) ?_
  rintro _ rfl
  cases hPath : pathFault? (shownPath path) with
  | some e => exact Yields.throw_bind trivial
  | none =>
  simp only
  cases hBytes : ws.tree.readFile (Posix.join ws.cwd (shownPath path)) with
  | error f =>
    obtain ⟨why, rfl⟩ := FileTree.readFile_error hBytes
    exact Yields.throw_bind trivial
  | ok bytes =>
  simp only [pure_bind]
  cases hCodec : codecOfName name with
  | error e => exact Yields.error trivial
  | ok codec =>
  apply Yields.ok_bind
  cases hText : readText codec bytes with
  | error f => cases f <;> exact Yields.throw_bind trivial
  | ok text =>
  simp only
  cases hLex : Token.lex text with
  | error e => exact Yields.error trivial
  | ok tokens =>
  refine Yields.bind (Yields.ok rfl) ?_
  rintro _ rfl
  cases hLines : (classifyLines tokens text R
      (Posix.relative ws.cwd (shownPath path) resolver.root)).lines with
  | error e => exact Yields.error trivial
  | ok lines =>
  refine Yields.bind (Yields.ok rfl) ?_
  rintro _ rfl
  cases hSize : byteSize bytes.length with
  | error e => exact Yields.error trivial
  | ok size =>
  apply Yields.ok_bind
  apply Yields.ok
  dsimp only
  exact ⟨trivial, ⟨bytes, rfl⟩, rfl, classifyLines_registry hLines⟩

theorem parseFile_congr {path path' : String} (R : Registry)
    (hRel : Posix.relative ws.cwd (shownPath path) resolver.root =
      Posix.relative ws.cwd (shownPath path') resolver.root)
    (hFault : pathFault? (shownPath path) = none) (hFault' : pathFault? (shownPath path') = none)
    {bytes : List UInt8} (hRead : ws.tree.readFile (Posix.join ws.cwd (shownPath path)) = .ok bytes)
    (hRead' : ws.tree.readFile (Posix.join ws.cwd (shownPath path')) = .ok bytes) :
    parseFile ws path R resolver encoding keywords = parseFile ws path' R resolver encoding keywords := by
  simp only [parseFile, relative_shownPath, hRel, hFault, hFault', hRead, hRead']

theorem pathOutcome_own (path : String) : (pathOutcome ws resolver encoding keywords path).Own := by
  cases hFile : parseFile ws path Registry.empty resolver encoding keywords with
  | error e =>
    rw [pathOutcome_of_error ws resolver encoding keywords hFile]
    intro file ds h
    split at h <;> cases h
  | ok out =>
    obtain ⟨parsed, staging, record⟩ := out
    rw [pathOutcome_of_ok ws resolver encoding keywords hFile]
    rintro file ds ⟨⟩
    obtain ⟨-, -, hRel, ds, hEntries, hOwn⟩ :=
      (parseFile_yields ws resolver encoding keywords path Registry.empty).1 _ hFile
    dsimp only at hRel hEntries
    intro d hd
    rw [hRel]
    exact hOwn d (by simpa [hEntries, Registry.empty] using hd)

theorem parseEach_skip_eq_foldlM : ∀ (paths : List String) (logs : List LogRecord)
    (result : RunResult),
    (parseEach ws resolver .skip encoding keywords logs result paths).2 =
      paths.foldlM (fun r p => r.merge (pathOutcome ws resolver encoding keywords p)) result
  | [], _, _ => rfl
  | p :: ps, logs, result => by
    rw [parseEach.eq_def, List.foldlM_cons]
    cases hFile : parseFile ws p Registry.empty resolver encoding keywords with
    | error e =>
      rw [pathOutcome_of_error ws resolver encoding keywords hFile]
      by_cases hDoc : e.category?.isSome = true
      · simp only [hFile, hDoc, if_true, RunResult.merge_failed]
        rw [parseEach_skip_eq_foldlM ps]
        rfl
      · simp only [hFile, hDoc, Bool.false_eq_true, if_false, RunResult.merge_stop]
        rfl
    | ok out =>
      obtain ⟨parsed, staging, record⟩ := out
      rw [pathOutcome_of_ok ws resolver encoding keywords hFile]
      obtain ⟨-, -, hRelPath, ds, hStaging, hOwnDs⟩ :=
        (parseFile_yields ws resolver encoding keywords p Registry.empty).1 _ hFile
      dsimp only at hRelPath hStaging
      have hOwn : ∀ d ∈ staging.entries, (∃ n, d.name = .str n) ∧
          d.file = .str (Posix.relative ws.cwd (shownPath p) resolver.root) := by
        simpa [hStaging, Registry.empty] using hOwnDs
      rcases hExtend : result.registry.extend staging.entries with ⟨registry, _ | e⟩
      · simp only [hFile, hExtend, RunResult.merge_parsed, Option.isSome_none, Bool.false_eq_true,
          if_false, Option.map_none, Option.toList_none, List.append_nil]
        rw [parseEach_skip_eq_foldlM ps]
        rfl
      · have hOwnE := (Registry.extend_fault hOwn (congrArg Prod.snd hExtend)).2
        simp only [hFile, hExtend, RunResult.merge_parsed, Option.isSome_some, if_true,
          List.append_nil,
          Option.map_some, Option.toList_some,
          failure_relPath (relative_shownPath resolver ws.cwd p) hOwnE, ← hRelPath]
        rw [parseEach_skip_eq_foldlM ps]
        rfl

end Run

/-! ## The order of the paths -/

/-- Two results of runs hold the same files, the same failures and the same declarations, in
any order. -/
structure RunResult.SameUpToOrder (r r' : RunResult) : Prop where
  files : r.files.Perm r'.files
  failures : r.failures.Perm r'.failures
  entries : r.registry.entries.Perm r'.registry.entries

/-- Two outcomes that are not two files parsed under one relative path. -/
def PathOutcome.Apart (o₁ o₂ : PathOutcome) : Prop :=
  ∀ file₁ ds₁ file₂ ds₂, o₁ = .parsed file₁ ds₁ → o₂ = .parsed file₂ ds₂ →
    file₁.relPath ≠ file₂.relPath

namespace RunResult

theorem sameUpToOrder_equivalence : Equivalence SameUpToOrder where
  refl _ := ⟨.refl _, .refl _, .refl _⟩
  symm h := ⟨h.files.symm, h.failures.symm, h.entries.symm⟩
  trans h h' := ⟨h.files.trans h'.files, h.failures.trans h'.failures, h.entries.trans h'.entries⟩

theorem perm_append_swap {α : Type} (l a b : List α) : (l ++ a ++ b).Perm (l ++ b ++ a) := by
  simpa only [List.append_assoc] using List.perm_append_comm.append_left l

theorem merge_congr {o : PathOutcome} (ho : o.Own) {r r' : RunResult} (h : r.SameUpToOrder r') :
    Except.Agree SameUpToOrder (r.merge o) (r'.merge o) := by
  cases o with
  | stop e => exact .error e e
  | failed f => exact .ok ⟨h.files, h.failures.append_right _, h.entries⟩
  | parsed file ds =>
    obtain ⟨pre, -, h₁, h₂, hFault⟩ :=
      Registry.extend_of_inFile (ho file ds rfl) (h.entries.filter _)
    rw [merge_parsed, merge_parsed, hFault, Except.Agree.ok_ok]
    refine ⟨h.files.append_right _, h.failures.append_right _, ?_⟩
    rw [h₁, h₂]
    exact h.entries.append_right _

theorem bind_merge_stop (x : Except Fault RunResult) (e : Fault) :
    ∃ e', (x >>= (·.merge (.stop e))) = .error e' := by
  cases x <;> exact ⟨_, rfl⟩

theorem merge_swap_parsed {file₁ file₂ : ParsedFile} {ds₁ ds₂ : List Declaration}
    (h₁ : (PathOutcome.parsed file₁ ds₁).Own) (h₂ : (PathOutcome.parsed file₂ ds₂).Own)
    (hApart : file₁.relPath ≠ file₂.relPath) (r : RunResult) :
    Except.Agree SameUpToOrder (r.merge (.parsed file₁ ds₁) >>= (·.merge (.parsed file₂ ds₂)))
      (r.merge (.parsed file₂ ds₂) >>= (·.merge (.parsed file₁ ds₁))) := by
  obtain ⟨pre₁, hPre₁, hEntries₁, -⟩ := Registry.extend_spec r.registry ds₁
  obtain ⟨pre₂, hPre₂, hEntries₂, -⟩ := Registry.extend_spec r.registry ds₂
  have hIn₁ : ((r.registry.extend ds₂).1.inFile (.str file₁.relPath)).Perm
      (r.registry.inFile (.str file₁.relPath)) := by
    rw [Registry.inFile_of_append_other hEntries₂
      (fun d hd => (h₂ file₂ ds₂ rfl d (hPre₂.subset hd)).2) (Ne.symm hApart)]
  have hIn₂ : ((r.registry.extend ds₁).1.inFile (.str file₂.relPath)).Perm
      (r.registry.inFile (.str file₂.relPath)) := by
    rw [Registry.inFile_of_append_other hEntries₁
      (fun d hd => (h₁ file₁ ds₁ rfl d (hPre₁.subset hd)).2) hApart]
  obtain ⟨post₁, -, hAfter₁, hAlone₁, hFault₁⟩ := Registry.extend_of_inFile (h₁ file₁ ds₁ rfl) hIn₁
  obtain ⟨post₂, -, hAfter₂, hAlone₂, hFault₂⟩ := Registry.extend_of_inFile (h₂ file₂ ds₂ rfl) hIn₂
  simp only [merge_parsed, bind, Except.bind]
  rw [hFault₁, hFault₂, Except.Agree.ok_ok]
  refine ⟨perm_append_swap _ _ _, perm_append_swap _ _ _, ?_⟩
  rw [hAfter₁, hAfter₂, hAlone₁, hAlone₂]
  exact perm_append_swap _ _ _

theorem merge_swap {o₁ o₂ : PathOutcome} (h₁ : o₁.Own) (h₂ : o₂.Own) (hApart : o₁.Apart o₂)
    (r : RunResult) :
    Except.Agree SameUpToOrder (r.merge o₁ >>= (·.merge o₂)) (r.merge o₂ >>= (·.merge o₁)) := by
  cases o₁ with
  | stop e =>
    obtain ⟨e', he'⟩ := bind_merge_stop (r.merge o₂) e
    rw [he']
    exact .error e e'
  | failed f₁ =>
    cases o₂ with
    | stop e =>
      obtain ⟨e', he'⟩ := bind_merge_stop (r.merge (.failed f₁)) e
      rw [he']
      exact .error e' e
    | failed f₂ => exact .ok ⟨.refl _, perm_append_swap _ _ _, .refl _⟩
    | parsed file ds =>
      simp only [merge_failed, merge_parsed]
      exact .ok ⟨.refl _, perm_append_swap _ _ _, .refl _⟩
  | parsed file₁ ds₁ =>
    cases o₂ with
    | stop e =>
      obtain ⟨e', he'⟩ := bind_merge_stop (r.merge (.parsed file₁ ds₁)) e
      rw [he']
      exact .error e' e
    | failed f =>
      simp only [merge_failed, merge_parsed]
      exact .ok ⟨.refl _, perm_append_swap _ _ _, .refl _⟩
    | parsed file₂ ds₂ => exact merge_swap_parsed h₁ h₂ (hApart file₁ ds₁ file₂ ds₂ rfl rfl) r

end RunResult

section Run

variable (ws : Workspace) (resolver : Resolver) (encoding : Value) (keywords : List String)

theorem parseFile_of_pathOutcome {path : String} {file : ParsedFile} {ds : List Declaration}
    (h : pathOutcome ws resolver encoding keywords path = .parsed file ds) :
    ∃ staging record, parseFile ws path Registry.empty resolver encoding keywords =
      .ok (file, staging, record) := by
  cases hFile : parseFile ws path Registry.empty resolver encoding keywords with
  | error e =>
    rw [pathOutcome_of_error ws resolver encoding keywords hFile] at h
    split at h <;> cases h
  | ok out =>
    obtain ⟨parsed, staging, record⟩ := out
    rw [pathOutcome_of_ok ws resolver encoding keywords hFile] at h
    cases h
    exact ⟨staging, record, rfl⟩

theorem pathOutcome_apart (hCwd : Posix.isAbsolute ws.cwd = true) {p q : String}
    (hNe : pathOutcome ws resolver encoding keywords p ≠ pathOutcome ws resolver encoding keywords q) :
    (pathOutcome ws resolver encoding keywords p).Apart (pathOutcome ws resolver encoding keywords q) := by
  intro file₁ ds₁ file₂ ds₂ hp hq hRel
  obtain ⟨staging₁, record₁, hFile₁⟩ := parseFile_of_pathOutcome ws resolver encoding keywords hp
  obtain ⟨staging₂, record₂, hFile₂⟩ := parseFile_of_pathOutcome ws resolver encoding keywords hq
  obtain ⟨hFault₁, ⟨bytes₁, hRead₁⟩, hRel₁, -⟩ :=
    (parseFile_yields ws resolver encoding keywords p Registry.empty).1 _ hFile₁
  obtain ⟨hFault₂, ⟨bytes₂, hRead₂⟩, hRel₂, -⟩ :=
    (parseFile_yields ws resolver encoding keywords q Registry.empty).1 _ hFile₂
  dsimp only at hRel₁ hRel₂
  have hSameRel : Posix.relative ws.cwd (shownPath p) resolver.root =
      Posix.relative ws.cwd (shownPath q) resolver.root := by
    rw [← hRel₁, ← hRel₂, hRel]
  have hBytes := Posix.readFile_eq_of_relative_eq hCwd hSameRel hRead₁ hRead₂
  subst hBytes
  have hParse := parseFile_congr ws resolver encoding keywords Registry.empty hSameRel hFault₁
    hFault₂ hRead₁ hRead₂
  apply hNe
  rw [pathOutcome_of_ok ws resolver encoding keywords (hParse.trans hFile₂),
    pathOutcome_of_ok ws resolver encoding keywords hFile₂]

theorem pathOutcome_swap (hCwd : Posix.isAbsolute ws.cwd = true) (p q : String) (r : RunResult) :
    Except.Agree RunResult.SameUpToOrder
      (r.merge (pathOutcome ws resolver encoding keywords p) >>=
        (·.merge (pathOutcome ws resolver encoding keywords q)))
      (r.merge (pathOutcome ws resolver encoding keywords q) >>=
        (·.merge (pathOutcome ws resolver encoding keywords p))) := by
  rcases Classical.em (pathOutcome ws resolver encoding keywords p =
      pathOutcome ws resolver encoding keywords q) with hSame | hSame
  · rw [hSame]
    exact Except.Agree.refl RunResult.sameUpToOrder_equivalence _
  · exact RunResult.merge_swap (pathOutcome_own ws resolver encoding keywords p)
      (pathOutcome_own ws resolver encoding keywords q)
      (pathOutcome_apart ws resolver encoding keywords hCwd hSame) r

end Run

/-- A run that skips failures does not depend on the order of its paths: from an absolute
working directory and any result to start from, the runs over two permutations of the paths
both stop at a fault, or both end with the same files, the same failures and the same
declarations, in some order. -/
theorem parseEach_skip_orderFree {ws : Workspace} (hCwd : Posix.isAbsolute ws.cwd = true)
    (resolver : Resolver) (encoding : Value) (keywords : List String)
    {paths paths' : List String} (hPerm : paths.Perm paths') (logs logs' : List LogRecord)
    (result : RunResult) :
    Except.Agree RunResult.SameUpToOrder
      (parseEach ws resolver .skip encoding keywords logs result paths).2
      (parseEach ws resolver .skip encoding keywords logs' result paths').2 := by
  rw [parseEach_skip_eq_foldlM, parseEach_skip_eq_foldlM]
  refine foldlM_agree_of_perm (fun r p => r.merge (pathOutcome ws resolver encoding keywords p))
    RunResult.sameUpToOrder_equivalence ?_ ?_ hPerm result result
    (RunResult.sameUpToOrder_equivalence.refl result)
  · intro p s t h
    exact RunResult.merge_congr (pathOutcome_own ws resolver encoding keywords p) h
  · intro p q s
    exact pathOutcome_swap ws resolver encoding keywords hCwd p q s

/-- A workspace of two source files, each declaring one class. -/
def twoClassWorkspace : Workspace :=
  ⟨⟨[("/w/a.cs", .file "class A\n".toUTF8.toList), ("/w/b.cs", .file "class B\n".toUTF8.toList)],
    by decide +kernel⟩, "/w"⟩

/-- A run over `a.cs`, `b.cs` and `a.cs` again, and over `a.cs` twice and then `b.cs`. -/
theorem parseEach_skip_orderFree_repeated :
    Posix.isAbsolute "/w" = true ∧ ["a.cs", "b.cs", "a.cs"].Perm ["a.cs", "a.cs", "b.cs"] ∧
    Except.Agree RunResult.SameUpToOrder
      (parseEach twoClassWorkspace ⟨"/w/"⟩ .skip .null ["class"] []
        ⟨Registry.empty, [], []⟩ ["a.cs", "b.cs", "a.cs"]).2
      (parseEach twoClassWorkspace ⟨"/w/"⟩ .skip .null ["class"] []
        ⟨Registry.empty, [], []⟩ ["a.cs", "a.cs", "b.cs"]).2 := by
  have hCwd : Posix.isAbsolute "/w" = true := (Posix.isAbsolute_iff "/w").2 ⟨['w'], rfl⟩
  have hPerm : ["a.cs", "b.cs", "a.cs"].Perm ["a.cs", "a.cs", "b.cs"] :=
    (List.Perm.swap "a.cs" "b.cs" []).cons "a.cs"
  exact ⟨hCwd, hPerm, parseEach_skip_orderFree hCwd _ _ _ hPerm _ _ _⟩

end Weave
