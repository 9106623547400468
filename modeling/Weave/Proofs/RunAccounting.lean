import Weave.Run.Pipeline
import Weave.Proofs.ChunkedReading
import Weave.Proofs.LineReading
import Weave.Proofs.FileDeclarations

/-! # Every file of a run is accounted for

A file of a run fails only with a documented fault, reported against its relative path,
once the run can open it at all: its path holds nothing the operating system refuses, the
encoding names a codec, and that codec fails only on bytes that do not decode. The lexer
fails only on a literal left open, the walk of a file's own text only in a declaration,
a file's declarations are its own, and merging them fails only on a name taken. So a run
that skips failures ends with one outcome for each path, parsed or failed, in order; a
run that stops at a failure raises the first of them, and otherwise ends as the other.
-/

namespace Weave

set_option autoImplicit false

/-! ## The faults of one file -/

namespace Token

theorem lexFrom_error {acc : Array Token} {line : Nat} {cs : List Char} {e : Fault}
    (h : lexFrom acc line cs = .error e) : ∃ o l, e = .unterminatedLiteral o l "" := by
  fun_induction lexFrom acc line cs
  case case1 => cases h
  case case4 | case6 | case8 | case10 => exact ⟨_, _, (Except.error.inj h).symm⟩
  all_goals
    rename_i ih
    exact ih h

theorem lex_error {s : String} {e : Fault} (h : lex s = .error e) :
    ∃ o l, e = .unterminatedLiteral o l "" := by
  unfold lex at h
  cases hLex : lexFrom #[] 1 s.toList with
  | ok ts =>
    rw [hLex] at h
    cases h
  | error e' =>
    rw [hLex] at h
    cases h
    exact lexFrom_error hLex

end Token

/-! ## Results and their faults -/

def Yields {ε α : Type} (P : α → Prop) (E : ε → Prop) (x : Except ε α) : Prop :=
  (∀ a, x = .ok a → P a) ∧ ∀ e, x = .error e → E e

namespace Yields

variable {ε α β : Type} {P : α → Prop} {Q : β → Prop} {E : ε → Prop}

theorem ok {a : α} (h : P a) : Yields P E (.ok a) := by
  refine ⟨fun b hb => ?_, fun e he => ?_⟩
  · cases hb
    exact h
  · cases he

theorem error {e : ε} (h : E e) : Yields P E (.error e : Except ε α) := by
  refine ⟨fun a ha => ?_, fun e' he => ?_⟩
  · cases ha
  · cases he
    exact h

theorem bind {x : Except ε α} {f : α → Except ε β} (hx : Yields P E x)
    (hf : ∀ a, P a → Yields Q E (f a)) : Yields Q E (x >>= f) := by
  cases x with
  | ok a => exact hf a (hx.1 a rfl)
  | error e => exact error (hx.2 e rfl)

theorem map {x : Except ε α} {f : α → β} (hx : Yields P E x) (hf : ∀ a, P a → Q (f a)) :
    Yields Q E (x.map f) := by
  cases x with
  | ok a => exact ok (hf a (hx.1 a rfl))
  | error e => exact error (hx.2 e rfl)

theorem mapError {ε' : Type} {E' : ε' → Prop} {x : Except ε α} {g : ε → ε'} (hx : Yields P E x)
    (hg : ∀ e, E e → E' (g e)) : Yields P E' (x.mapError g) := by
  cases x with
  | ok a => exact ok (hx.1 a rfl)
  | error e => exact error (hg e (hx.2 e rfl))

theorem throw_bind {e : ε} {f : α → Except ε β} (h : E e) : Yields Q E (throw e >>= f) :=
  error h

theorem ok_bind {a : α} {f : α → Except ε β} (h : Yields Q E (f a)) :
    Yields Q E (Except.ok a >>= f) :=
  h

end Yields

/-! ## Decoding fails only on bytes -/

def DecodeFailure.IsInvalid (f : DecodeFailure) : Prop :=
  ∃ e, f = .invalid e

def Decoder.FailsOnBytes (D : Decoder → Prop) : Prop :=
  ∀ d, D d → ∀ bytes final, Yields (fun r => D r.2.2) DecodeFailure.IsInvalid (d.feed bytes final)

namespace TextStream

variable {D : Decoder → Prop} (hD : Decoder.FailsOnBytes D)
include hD

theorem readChunk_yields {s : TextStream} (hs : D s.decoder) (wanted : Nat) :
    Yields (fun r => D r.1.decoder) DecodeFailure.IsInvalid (s.readChunk wanted) := by
  unfold readChunk
  apply Yields.bind (hD s.decoder hs _ _)
  rintro ⟨_, _, d⟩ hd
  exact Yields.ok hd

theorem read_go_yields (n : Nat) : ∀ (fuel : Nat) (s : TextStream) (remaining : Nat),
    D s.decoder → Yields (fun r => D r.1.decoder) DecodeFailure.IsInvalid (read.go n fuel s remaining)
  | 0, _, _, hs => Yields.ok hs
  | fuel + 1, s, remaining, hs => by
    unfold read.go
    split
    · exact Yields.ok hs
    · apply Yields.bind (readChunk_yields hD hs remaining)
      rintro ⟨s', more⟩ hs'
      dsimp only
      split
      · exact Yields.ok hs'
      · exact read_go_yields n fuel _ _ hs'

theorem read_yields {s : TextStream} (hs : D s.decoder) (n : Nat) :
    Yields (fun r => D r.1.decoder) DecodeFailure.IsInvalid (s.read n) :=
  read_go_yields hD n _ _ _ hs

theorem readAll_go_yields : ∀ (fuel : Nat) (s : TextStream),
    D s.decoder → Yields (fun _ => True) DecodeFailure.IsInvalid (readAll.go fuel s)
  | 0, _, _ => Yields.ok trivial
  | fuel + 1, s, hs => by
    unfold readAll.go
    apply Yields.bind (read_yields hD hs chunkSize)
    rintro ⟨s', got⟩ hs'
    dsimp only
    split
    · exact Yields.ok trivial
    · exact readAll_go_yields fuel s' hs'

theorem readText_yields {c : Codec} (hc : D (Decoder.ofCodec c)) (bytes : List UInt8) :
    Yields (fun _ => True) DecodeFailure.IsInvalid (readText c bytes) :=
  readAll_go_yields hD _ _ hc

end TextStream

namespace Utf8

theorem decodeFrom_yields (final : Bool) :
    ∀ (acc : List Char) (pos : Nat) (bytes : List UInt8),
      Yields (fun _ => True) DecodeFailure.IsInvalid (decodeFrom final acc pos bytes)
  | acc, pos, [] => by
    rw [decodeFrom.eq_def]
    exact Yields.ok trivial
  | acc, pos, b :: tail => by
    rw [decodeFrom.eq_def]
    dsimp only
    split
    · split
      · exact decodeFrom_yields final _ _ _
      · exact Yields.ok trivial
    · split
      · exact Yields.error ⟨_, rfl⟩
      · exact Yields.ok trivial
    · split
      · exact Yields.ok trivial
      · exact Yields.error ⟨_, rfl⟩
termination_by _ _ bytes => bytes.length
decreasing_by
  simp only [List.length_drop, List.length_cons]
  omega

end Utf8

theorem Decoder.utf8_failsOnBytes : Decoder.FailsOnBytes (· = .utf8) := by
  rintro d rfl bytes final
  exact Yields.map (Utf8.decodeFrom_yields final [] 0 bytes) fun _ _ => rfl

namespace Fault

theorem withFile_of_documented (e : Fault) (h : e.category?.isSome = true) (f : String) :
    (e.withFile f).category?.isSome = true ∧ (e.withFile f).file = .str f := by
  cases e <;> simp_all [category?, withFile, file]

theorem category_of_isDeclaration {e : Fault} (h : e.isDeclaration = true) :
    e.category?.isSome = true := by
  cases e <;> simp_all [isDeclaration, category?]

end Fault

end Weave

namespace Weave

/-! ## One file -/

theorem Posix.PurePath.toText_ne_empty (p : Posix.PurePath) : p.toText ≠ "" := by
  intro hEmpty
  simp only [Posix.PurePath.toText] at hEmpty
  split at hEmpty
  · exact absurd hEmpty (by decide)
  · rename_i hNotBoth
    have hLength := congrArg String.length hEmpty
    simp only [String.length_append, String.length_empty] at hLength
    simp_all [String.isEmpty_iff, ← String.length_eq_zero_iff]

theorem relative_shownPath (r : Resolver) (cwd p : String) :
    r.relative cwd (shownPath p) = .ok (Posix.relative cwd (shownPath p) r.root) := by
  have hNonempty : (shownPath p).isEmpty = false := by
    simpa [String.isEmpty_iff, shownPath] using Posix.PurePath.toText_ne_empty _
  simp [Resolver.relative, hNonempty]

theorem FileTree.readFile_error {t : FileTree} {p : String} {f : Fault}
    (h : t.readFile p = .error f) : ∃ why, f = .refused why p := by
  unfold FileTree.readFile at h
  split at h
  · cases h
    exact ⟨_, rfl⟩
  · split at h <;> cases h
    · exact ⟨_, rfl⟩
    · exact ⟨_, rfl⟩

theorem byteSize_of_lt {n : Nat} (h : n + Binary.twoPow 970 < Binary.twoPow 1024) :
    ∃ s, byteSize n = .ok s := by
  obtain ⟨m, q, hParts⟩ := Binary.intParts?_finite_of_lt h
  rw [byteSize, hParts]
  exact ⟨_, rfl⟩

/-- What a run needs of its settings to read its files as documented: the encoding names a
codec that fails only on bytes that do not decode. -/
structure Readable (encoding : Value) : Prop where
  codec : ∃ name codec, encodingName encoding = .ok name ∧ codecOfName name = .ok codec ∧
    ∀ bytes f, readText codec bytes = .error f → ∃ e, f = .invalid e

theorem FileTree.mem_of_readFile {t : FileTree} {p : String} {bytes : List UInt8}
    (h : t.readFile p = .ok bytes) : ∃ q, (q, Entry.file bytes) ∈ t.entries := by
  obtain ⟨names, hFind⟩ : ∃ names, t.find? (FileTree.pathOf names) = some (.file bytes) := by
    unfold FileTree.readFile at h
    split at h
    · cases h
    · split at h <;> cases h
      exact ⟨_, by assumption⟩
  unfold FileTree.find? at hFind
  split at hFind
  · cases hFind
  · obtain ⟨⟨q, e⟩, hq, hEntry⟩ := Option.map_eq_some_iff.1 hFind
    simp only at hEntry
    exact ⟨q, hEntry ▸ List.mem_of_find?_eq_some hq⟩

theorem FileTree.length_lt_of_readFile {t : FileTree} {p : String} {bytes : List UInt8}
    (h : t.readFile p = .ok bytes) : bytes.length < Binary.twoPow 63 := by
  obtain ⟨q, hq⟩ := FileTree.mem_of_readFile h
  simpa [Entry.fits] using List.all_eq_true.1 t.fits _ hq

theorem Readable.default : Readable .null where
  codec := ⟨none, .utf8, rfl, rfl, fun bytes _ hf =>
    (TextStream.readText_yields Decoder.utf8_failsOnBytes rfl bytes).2 _ hf⟩

/-- A file of a run read into `R`: parsed under the relative path `rel`, having added to `R`
declarations of its own; or failed with a documented fault reported against `rel`. -/
def FileOutcome (rel : String) (R : Registry) :
    Except Fault (ParsedFile × Registry × LogRecord) → Prop :=
  Yields (fun r => r.1.relPath = rel ∧ ∃ ds, r.2.1.entries = R.entries ++ ds ∧
      ∀ d ∈ ds, (∃ n, d.name = .str n) ∧ d.file = .str rel)
    (fun e => e.category?.isSome = true ∧ e.file = .str rel)

theorem pathFault?_eq_none_iff (p : String) :
    pathFault? p = none ↔ pathRefusal? p = none ∧ '\x00' ∉ p.toList := by
  unfold pathFault?
  split <;> simp_all [String.contains_char_eq]

theorem parseFile_outcome {ws : Workspace} {encoding : Value} (hRead : Readable encoding)
    {path : String} (hPath : pathFault? (shownPath path) = none) (R : Registry)
    (resolver : Resolver) (keywords : List String) :
    FileOutcome (Posix.relative ws.cwd (shownPath path) resolver.root) R
      (parseFile ws path R resolver encoding keywords) := by
  obtain ⟨name, codec, hName, hCodec, hDecode⟩ := hRead.codec
  rw [parseFile, relative_shownPath]
  refine Yields.bind (Yields.ok rfl) ?_
  rintro _ rfl
  rw [hName]
  refine Yields.bind (Yields.ok rfl) ?_
  rintro _ rfl
  simp only [hPath]
  cases hBytes : ws.tree.readFile (Posix.join ws.cwd (shownPath path)) with
  | error f =>
    obtain ⟨why, rfl⟩ := FileTree.readFile_error hBytes
    exact Yields.throw_bind ⟨rfl, rfl⟩
  | ok bytes =>
  simp only [hCodec, pure_bind]
  apply Yields.ok_bind
  cases hText : readText codec bytes with
  | error f =>
    obtain ⟨e, rfl⟩ := hDecode bytes f hText
    exact Yields.throw_bind ⟨rfl, rfl⟩
  | ok text =>
  simp only
  cases hLex : Token.lex text with
  | error e =>
    obtain ⟨o, l, rfl⟩ := Token.lex_error hLex
    simp only [Except.mapError, bind, Except.bind]
    exact Yields.error (Fault.withFile_of_documented _ rfl _)
  | ok tokens =>
  refine Yields.bind (Yields.ok rfl) ?_
  rintro _ rfl
  have hWalk := @classifyLines_reads text text tokens (Token.lexes_of_lex hLex) R
    (Posix.relative ws.cwd (shownPath path) resolver.root)
  cases hLines : (classifyLines tokens text R
      (Posix.relative ws.cwd (shownPath path) resolver.root)).lines with
  | error e =>
    rw [hLines] at hWalk
    have hDocumented := Fault.category_of_isDeclaration (hWalk.resolve_left (· rfl))
    exact Yields.error (Fault.withFile_of_documented e hDocumented _)
  | ok lines =>
  refine Yields.bind (Yields.ok rfl) ?_
  rintro _ rfl
  have hLength := FileTree.length_lt_of_readFile hBytes
  have hFits : bytes.length + Binary.twoPow 970 < Binary.twoPow 1024 := by
    simp only [Binary.twoPow, Nat.pow_eq] at hLength ⊢
    omega
  obtain ⟨size, hSize⟩ := byteSize_of_lt hFits
  simp only [hSize]
  apply Yields.ok_bind
  apply Yields.ok
  dsimp only
  exact ⟨rfl, classifyLines_registry hLines⟩

/-! ## Merging and reporting a file -/

theorem Registry.insert_error_of_str {r : Registry} {n f : String} {k : DeclKind} {l : Value}
    {e : Fault} (h : r.insert ⟨.str n, k, .str f, l⟩ = .error e) :
    ∃ first, e = .duplicateType (.str n) (.str f) first l := by
  simp only [Registry.insert, keyFault?_str] at h
  split at h
  · split at h <;> (cases h; exact ⟨_, rfl⟩)
  · cases h

theorem Registry.extend_fault {rel : String} {e : Fault} :
    ∀ {R : Registry} {ds : List Declaration},
      (∀ d ∈ ds, (∃ n, d.name = .str n) ∧ d.file = .str rel) → (R.extend ds).2 = some e →
      e.category?.isSome = true ∧ e.file = .str rel
  | _, [], _, h => nomatch h
  | R, d :: ds, hOwn, h => by
    obtain ⟨⟨n, hName⟩, hFile⟩ := hOwn d (.head _)
    obtain ⟨name, kind, file, line⟩ := d
    simp only at hName hFile
    subst hName hFile
    rw [Registry.extend] at h
    cases hInsert : R.insert ⟨.str n, kind, .str rel, line⟩ with
    | ok R' =>
      rw [hInsert] at h
      exact extend_fault (fun d hd => hOwn d (.tail _ hd)) h
    | error e' =>
      rw [hInsert] at h
      cases h
      obtain ⟨first, rfl⟩ := insert_error_of_str hInsert
      exact ⟨rfl, rfl⟩

theorem failure_relPath {resolver : Resolver} {cwd path rel : String} {e : Fault}
    (hRel : resolver.relative cwd (shownPath path) = .ok rel) (h : e.file = .str rel) :
    (if e.file.truthy then e.file.display
      else (resolver.relative cwd (shownPath path)).toOption.getD "") = rel := by
  rw [h]
  split
  · rfl
  · rw [hRel]
    rfl

theorem Value.field?_store_self (es : List (Value × Value)) (k : String) (v : Value) :
    Value.field? (Value.store es (.str k) v) k = some v := by
  unfold Value.store Value.field?
  split
  · rename_i hAny
    obtain ⟨e, he, hKey⟩ := List.any_eq_true.1 hAny
    obtain ⟨e₀, hFind⟩ : ∃ e₀, es.find? (fun e => Value.sameKey e.1 (.str k)) = some e₀ :=
      Option.isSome_iff_exists.1 (List.find?_isSome.2 ⟨e, he, hKey⟩)
    have hFirst := List.find?_some hFind
    rw [List.find?_map]
    have hSame : ((fun e : Value × Value => Value.sameKey e.1 (.str k)) ∘
        fun e => if Value.sameKey e.1 (.str k) then (e.1, v) else e) =
        fun e => Value.sameKey e.1 (.str k) := by
      funext e
      simp only [Function.comp_apply]
      split <;> rfl
    rw [hSame, hFind]
    simp [hFirst]
  · rename_i hAny
    have hNone : es.find? (fun e => Value.sameKey e.1 (.str k)) = none := by
      rw [List.find?_eq_none]
      intro e he hKey
      exact hAny (List.any_eq_true.2 ⟨e, he, hKey⟩)
    have hSelf : Value.sameKey (.str k) (.str k) = true := (Value.sameKey_str_iff _ _).2 rfl
    rw [List.find?_append, hNone, Option.none_or, List.find?_cons, hSelf]
    rfl

theorem ParseFailure.toValue_file (f : ParseFailure) :
    ∃ es, f.toValue = .dict es ∧ Value.field? es "file" = some (.str f.relPath) :=
  ⟨_, rfl, Value.field?_store_self _ _ _⟩

/-! ## A run over the paths -/

/-- The relative path under which a run reports what it made of a path. -/
def outcomeRelPath : ParsedFile ⊕ ParseFailure → String
  | .inl parsed => parsed.relPath
  | .inr failure => failure.relPath

/-- A run's result after one more path: the file or the failure recorded, and the registry
the merge left. -/
def RunResult.record (r : RunResult) (registry : Registry) : ParsedFile ⊕ ParseFailure → RunResult
  | .inl parsed => { r with registry := registry, files := r.files ++ [parsed] }
  | .inr failure => { r with registry := registry, failures := r.failures ++ [failure] }

/-- How a run that stops at the first failure ends, when the run that skips failures ended
as `r` with the failures `fs`: with the first of them, or as that run. -/
def stoppedAt (r : RunResult) : List ParseFailure → Except Fault RunResult
  | [] => .ok r
  | f :: _ => .error f.fault

section Run

variable {ws : Workspace} {encoding : Value} (hRead : Readable encoding) (resolver : Resolver)
  (keywords : List String)
include hRead

theorem parseEach_step {p : String} (hp : pathFault? (shownPath p) = none)
    (ps : List String) (logs : List LogRecord) (result : RunResult) :
    ∃ (o : ParsedFile ⊕ ParseFailure) (registry : Registry) (logs₁ : List LogRecord),
      resolver.relative ws.cwd (shownPath p) = .ok (outcomeRelPath o) ∧
      parseEach ws resolver .skip encoding keywords logs result (p :: ps) =
        parseEach ws resolver .skip encoding keywords logs₁ (result.record registry o) ps ∧
      (∀ parsed, o = .inl parsed →
        parseEach ws resolver .abort encoding keywords logs result (p :: ps) =
          parseEach ws resolver .abort encoding keywords logs₁ (result.record registry o) ps) ∧
      (∀ f, o = .inr f → f.fault.category?.isSome = true ∧ f.fault.file = .str f.relPath ∧
        (parseEach ws resolver .abort encoding keywords logs result (p :: ps)).2 = .error f.fault) := by
  have hOutcome := @parseFile_outcome ws encoding hRead p hp Registry.empty resolver keywords
  have hRel := relative_shownPath resolver ws.cwd p
  generalize Posix.relative ws.cwd (shownPath p) resolver.root = rel at hOutcome hRel
  cases hFile : parseFile ws p Registry.empty resolver encoding keywords with
  | error e =>
    obtain ⟨hDoc, hOwn⟩ := hOutcome.2 e hFile
    refine ⟨.inr ⟨rel, e⟩, result.registry,
      logs ++ [⟨.warning, pipelineSource, "Skipping " ++ rel ++ ": " ++ e.summary⟩], hRel, ?_, nofun, ?_⟩
    · rw [parseEach.eq_def]
      simp only [hFile, hDoc, if_true, failure_relPath hRel hOwn, RunResult.record]
    · rintro _ ⟨⟩
      refine ⟨hDoc, hOwn, ?_⟩
      rw [parseEach.eq_def]
      simp only [hFile, hDoc, if_true]
  | ok out =>
    obtain ⟨parsed, staging, record⟩ := out
    obtain ⟨hRelPath, ds, hStaging, hOwnDs⟩ := hOutcome.1 _ hFile
    dsimp only at hRelPath hStaging
    have hOwn : ∀ d ∈ staging.entries, (∃ n, d.name = .str n) ∧ d.file = .str rel := by
      rw [hStaging]
      exact hOwnDs
    rcases hExtend : result.registry.extend staging.entries with ⟨registry, _ | e⟩
    · refine ⟨.inl parsed, registry, logs ++ [record, ⟨.info, pipelineSource, parsed.relPath ++ ": " ++
          toString parsed.sections.length ++ " sections, " ++ toString parsed.declarations.length ++
          " types"⟩], by rw [outcomeRelPath, hRelPath, hRel], ?_, ?_, nofun⟩
      · rw [parseEach.eq_def]
        simp only [hFile, hExtend, RunResult.record]
      · rintro _ ⟨⟩
        rw [parseEach.eq_def]
        simp only [hFile, hExtend, RunResult.record]
    · obtain ⟨hDoc, hOwnE⟩ := Registry.extend_fault hOwn (congrArg Prod.snd hExtend)
      refine ⟨.inr ⟨rel, e⟩, registry,
        logs ++ [record] ++ [⟨.warning, pipelineSource, "Skipping " ++ rel ++ ": " ++ e.summary⟩],
        hRel, ?_, nofun, ?_⟩
      · rw [parseEach.eq_def]
        simp only [hFile, hExtend, failure_relPath hRel hOwnE, RunResult.record]
      · rintro _ ⟨⟩
        refine ⟨hDoc, hOwnE, ?_⟩
        rw [parseEach.eq_def]
        simp only [hFile, hExtend]

theorem parseEach_accounts : ∀ (paths : List String),
    (∀ p ∈ paths, pathFault? (shownPath p) = none) →
    ∀ (logs : List LogRecord) (result : RunResult),
    ∃ (outcomes : List (ParsedFile ⊕ ParseFailure)) (logs' : List LogRecord) (r : RunResult),
      parseEach ws resolver .skip encoding keywords logs result paths = (logs', .ok r) ∧
      List.Forall₂ (fun p o => resolver.relative ws.cwd (shownPath p) = .ok (outcomeRelPath o))
        paths outcomes ∧
      (∀ f ∈ outcomes.filterMap Sum.getRight?,
        f.fault.category?.isSome = true ∧ f.fault.file = .str f.relPath) ∧
      r.files = result.files ++ outcomes.filterMap Sum.getLeft? ∧
      r.failures = result.failures ++ outcomes.filterMap Sum.getRight? ∧
      (parseEach ws resolver .abort encoding keywords logs result paths).2 =
        stoppedAt r (outcomes.filterMap Sum.getRight?)
  | [], _, logs, result => ⟨[], logs, result, rfl, .nil, by simp, by simp, by simp, rfl⟩
  | p :: ps, hPaths, logs, result => by
    obtain ⟨o, registry, logs₁, hRel, hSkip, hMerged, hFailed⟩ :=
      parseEach_step hRead resolver keywords (hPaths p (.head _)) ps logs result
    obtain ⟨outs, logs', r, hRun, hRels, hDocs, hFiles, hFailures, hStop⟩ :=
      parseEach_accounts ps (fun q hq => hPaths q (.tail _ hq)) logs₁ (result.record registry o)
    refine ⟨o :: outs, logs', r, hSkip.trans hRun, .cons hRel hRels, ?_⟩
    cases o with
    | inl parsed =>
      simp only [List.filterMap_cons, Sum.getLeft?, Sum.getRight?]
      refine ⟨hDocs, ?_, hFailures, (congrArg Prod.snd (hMerged parsed rfl)).trans hStop⟩
      simp [hFiles, RunResult.record]
    | inr f =>
      obtain ⟨hDoc, hOwn, hStopHere⟩ := hFailed f rfl
      simp only [List.filterMap_cons, Sum.getLeft?, Sum.getRight?, List.mem_cons]
      refine ⟨?_, hFiles, ?_, hStopHere⟩
      · rintro g (rfl | hg)
        · exact ⟨hDoc, hOwn⟩
        · exact hDocs g hg
      · simp [hFailures, RunResult.record]

end Run

/-- What a run over `paths` under `root` accounts for, given the resolver of the root, one
outcome for each path and the result `r` of the run that skips failures. -/
structure RunAccounts (ws : Workspace) (paths : List String) (root : String) (encoding : Value)
    (keywords : List String) (registry : Registry) (resolver : Resolver)
    (outcomes : List (ParsedFile ⊕ ParseFailure)) (r : RunResult) : Prop where
  make : Resolver.make ws.cwd root = .ok resolver
  skip : (parseFiles ws paths root (.str "skip") encoding keywords registry).2 = .ok r
  relPaths : List.Forall₂
    (fun p o => resolver.relative ws.cwd (shownPath p) = .ok (outcomeRelPath o)) paths outcomes
  files : r.files = outcomes.filterMap Sum.getLeft?
  failures : r.failures = outcomes.filterMap Sum.getRight?
  documented : ∀ f ∈ r.failures, f.fault.category?.isSome = true ∧ f.fault.file = .str f.relPath ∧
    ∃ es, f.toValue = .dict es ∧ Value.field? es "file" = some (.str f.relPath)
  ok_iff : r.ok = true ↔ r.failures = []
  abort : (parseFiles ws paths root (.str "abort") encoding keywords registry).2 =
    stoppedAt r r.failures

theorem Resolver.make_of_ne (cwd : String) {root : String} (hRoot : root ≠ "") :
    ∃ resolver, Resolver.make cwd root = .ok resolver := by
  have hEmpty : root.isEmpty = false := by simpa using hRoot
  rw [Resolver.make, if_neg (by simp [hEmpty])]
  exact ⟨_, rfl⟩

theorem parseFiles_accounts {ws : Workspace} {encoding : Value} (hRead : Readable encoding)
    {root : String} (hRoot : root ≠ "") (paths : List String)
    (hPaths : ∀ p ∈ paths, pathFault? (shownPath p) = none) (keywords : List String)
    (registry : Registry) :
    ∃ resolver outcomes r, RunAccounts ws paths root encoding keywords registry resolver outcomes r := by
  obtain ⟨resolver, hMake⟩ := Resolver.make_of_ne ws.cwd hRoot
  obtain ⟨outcomes, logs, r, hSkip, hRels, hDocs, hFiles, hFailures, hStop⟩ :=
    parseEach_accounts hRead resolver keywords paths hPaths [] ⟨registry, [], []⟩
  rw [List.nil_append] at hFiles hFailures
  refine ⟨resolver, outcomes, r, hMake, ?_, hRels, hFiles, hFailures, ?_, ?_, ?_⟩
  · simp only [parseFiles, ErrorPolicy.ofValue, hMake, hSkip]
  · intro f hf
    rw [hFailures] at hf
    exact ⟨(hDocs f hf).1, (hDocs f hf).2, ParseFailure.toValue_file f⟩
  · simp [RunResult.ok]
  · rw [hFailures, ← hStop]
    simp only [parseFiles, ErrorPolicy.ofValue, hMake]
    split
    · rename_i hRun
      rw [hRun]
    · rfl

/-- A run over a file and a path with no file behind it accounts for both. -/
theorem parseFiles_accounts_missing :
    ∃ resolver outcomes r, RunAccounts
      ⟨⟨[("/w/a.cs", .file "class A\n".toUTF8.toList)], by decide +kernel⟩, "/w"⟩
      ["a.cs", "gone.cs"] "." .null ["class"] Registry.empty resolver outcomes r :=
  parseFiles_accounts Readable.default (by decide) ["a.cs", "gone.cs"]
    (by
      simp only [pathFault?_eq_none_iff]
      decide +kernel)
    ["class"] Registry.empty

end Weave
