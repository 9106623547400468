import Mathlib
import Weave.Index.Build
import Weave.Index.Load
import Weave.Proofs.JsonReadBack

/-! # A registry saved and loaded back

A registry is handed on in three ways: as the list of its declaration mappings
(`Registry.toValue`), one mapping per declaration, and as a saved types index
(`typesIndex`, written as an indented JSON document and loaded by `Registry.ofIndex`). For a
registry of declarations with text names and files and integer lines, the first two give the
registry and each declaration back exactly.
-/

namespace Weave

open Weave.Json Weave.Text

set_option autoImplicit false

/-! ## Line ends -/

theorem Text.newlinesAfter_of_no_return (acc cs : List Char) (h : '\r' ∉ cs) :
    newlinesAfter acc false cs = acc.reverse ++ cs := by
  induction cs generalizing acc with
  | nil => simp [newlinesAfter]
  | cons c rest ih =>
    have hc : c ≠ '\r' := fun hc => h (hc ▸ List.mem_cons_self)
    rw [newlinesAfter, if_neg hc, ih (c :: acc) (fun hr => h (List.mem_cons_of_mem _ hr))]
    simp

theorem Text.universalNewlines_of_no_return {s : String} (h : '\r' ∉ s.toList) :
    universalNewlines s = s := by
  rw [universalNewlines, newlinesAfter_of_no_return [] _ h]
  simp

/-! ## Declarations as mappings -/

/-- A declaration as a source gives it: a text name and file and an integer line. -/
structure Declaration.Textual (d : Declaration) : Prop where
  name : ∃ n, d.name = .str n
  file : ∃ f, d.file = .str f
  line : ∃ l, d.line = .int l

theorem Declaration.ofValue_toValue {d : Declaration} (hLine : ∃ l, d.line = .int l) :
    Declaration.ofValue d.toValue = .ok d := by
  obtain ⟨l, hl⟩ := hLine
  obtain ⟨name, kind, file, line⟩ := d
  simp only at hl
  subst hl
  simp [Declaration.ofValue, Declaration.toValue, Value.index, Value.field?, Value.sameKey,
    DeclKind.ofValue_keyword, Value.toInteger, bind, Except.bind, pure, Except.pure]

namespace Registry

theorem keyFault?_of_textual {d : Declaration} (hd : d.Textual) :
    keyFault? d.name d.file = none := by
  obtain ⟨n, hn⟩ := hd.name
  obtain ⟨f, hf⟩ := hd.file
  rw [hn, hf, keyFault?_str]

theorem extendValues_toValue (r : Registry) (ds : List Declaration)
    (hApart : (r.entries ++ ds).Pairwise fun a b => a.clashes b = false)
    (hText : ∀ d ∈ ds, d.Textual) :
    r.extendValues (ds.map Declaration.toValue) = (⟨r.entries ++ ds, hApart⟩, none) := by
  induction ds generalizing r with
  | nil => simp [extendValues]
  | cons d ds ih =>
    have hd := hText d List.mem_cons_self
    have hFresh : (r.entries.any fun e => e.clashes d) = false := by
      rw [List.any_eq_false]
      intro e he hClash
      have := (List.pairwise_append.1 hApart).2.2 e he d List.mem_cons_self
      simp [hClash] at this
    have hApart' : ((r.entries ++ [d]) ++ ds).Pairwise fun a b => a.clashes b = false := by
      simpa using hApart
    rw [List.map_cons, extendValues, Declaration.ofValue_toValue hd.line]
    simp only [bind, Except.bind, insert_of_fresh r (keyFault?_of_textual hd) hFresh]
    rw [ih ⟨r.entries ++ [d], _⟩ hApart' (fun e he => hText e (List.mem_cons_of_mem _ he))]
    simp

theorem ofValues_toValue (ds : List Declaration)
    (hApart : ds.Pairwise fun a b => a.clashes b = false) (hText : ∀ d ∈ ds, d.Textual) :
    ofValues (ds.map Declaration.toValue) = .ok ⟨ds, hApart⟩ := by
  rw [ofValues, extendValues_toValue empty ds (by simpa [empty] using hApart) hText]
  simp [empty]

end Registry

/-! ## The saved index -/

def Declaration.readBack (d : Declaration) : Declaration :=
  ⟨Json.readBack d.name, d.kind, Json.readBack d.file, d.line⟩

theorem Declaration.Textual.readBack {d : Declaration} (hd : d.Textual) : d.readBack.Textual := by
  obtain ⟨n, hn⟩ := hd.name
  obtain ⟨f, hf⟩ := hd.file
  exact ⟨⟨joinText n, by simp [Declaration.readBack, hn, readBack_str]⟩,
    ⟨joinText f, by simp [Declaration.readBack, hf, readBack_str]⟩, hd.line⟩

theorem joinText_keyword (k : DeclKind) : joinText k.keyword = k.keyword := by
  cases k <;> decide

theorem Declaration.readBack_toValue {d : Declaration} (hd : d.Textual) :
    Json.readBack d.toValue = d.readBack.toValue := by
  obtain ⟨l, hl⟩ := hd.line
  have hKeys : joinText "name" = "name" ∧ joinText "kind" = "kind" ∧ joinText "file" = "file" ∧
      joinText "line" = "line" := by
    decide
  simp [Declaration.toValue, Declaration.readBack, readBack_dict, readBack_str, hl, readBack_int,
    keyText, hKeys, joinText_keyword]

theorem readable_toValue {d : Declaration} (hd : d.Textual)
    (hLine : ∀ l : Int, d.line = .int l → (Nat.toDigits 10 l.natAbs).length ≤ maxTextDigits) :
    Readable 2 d.toValue := by
  obtain ⟨n, hn⟩ := hd.name
  obtain ⟨f, hf⟩ := hd.file
  obtain ⟨l, hl⟩ := hd.line
  refine .dict 2 _ (by decide) (by simp only [List.map_cons, List.map_nil, keyText]; decide) ?_
  intro e he
  simp only [hn, hf, hl, List.mem_cons, List.not_mem_nil, or_false] at he
  rcases he with rfl | rfl | rfl | rfl
  · exact .str 3 n
  · exact .str 3 _
  · exact .str 3 f
  · exact .int 3 l (hLine l hl)

/-- What the integers of a registry's saved index ask: its lines and its size have at most
`maxTextDigits` digits. -/
structure Registry.ShortNumbers (R : Registry) : Prop where
  lines : ∀ d ∈ R.entries, ∀ l : Int, d.line = .int l →
    (Nat.toDigits 10 l.natAbs).length ≤ maxTextDigits
  count : (Nat.toDigits 10 R.size).length ≤ maxTextDigits

theorem readable_typesIndex (generated : String) {R : Registry}
    (hText : ∀ d ∈ R.entries, d.Textual) (hShort : R.ShortNumbers) :
    Readable 0 (typesIndex generated R) := by
  refine .dict 0 _ (by decide) (by simp only [List.map_cons, List.map_nil, keyText]; decide) ?_
  intro e he
  simp only [List.mem_cons, List.not_mem_nil, or_false] at he
  rcases he with rfl | rfl | rfl | rfl
  · exact .str 1 _
  · exact .str 1 _
  · exact .int 1 _ (by simpa using hShort.count)
  · refine .list 1 _ (by decide) ?_
    intro v hv
    obtain ⟨d, hd, rfl⟩ := List.mem_map.1 hv
    exact readable_toValue (hText d hd) (hShort.lines d hd)

theorem readBack_typesIndex (generated : String) {R : Registry}
    (hText : ∀ d ∈ R.entries, d.Textual) :
    Json.readBack (typesIndex generated R) =
      .dict [(.str "schema_version", .str schemaVersion), (.str "generated", .str (joinText generated)),
        (.str "type_count", .int R.size),
        (.str "types", .list ((R.entries.map Declaration.readBack).map Declaration.toValue))] := by
  have hKeys : joinText "schema_version" = "schema_version" ∧ joinText "generated" = "generated" ∧
      joinText "type_count" = "type_count" ∧ joinText "types" = "types" ∧
      joinText schemaVersion = schemaVersion := by
    decide
  have hTypes : (R.entries.map Declaration.toValue).map Json.readBack =
      (R.entries.map Declaration.readBack).map Declaration.toValue := by
    simp only [List.map_map]
    exact List.map_congr_left fun d hd => Declaration.readBack_toValue (hText d hd)
  simp [typesIndex, Registry.toValue, readBack_dict, readBack_str, readBack_int, readBack_list,
    keyText, hKeys, hTypes]

namespace Registry

theorem ofIndex_saved (generated : String) (R : Registry) (hText : ∀ d ∈ R.entries, d.Textual)
    (hShort : R.ShortNumbers)
    (hApart : (R.entries.map Declaration.readBack).Pairwise fun a b => a.clashes b = false) :
    ofIndex (some (Json.write (.indented 2) (typesIndex generated R))) =
      .ok (some ⟨R.entries.map Declaration.readBack, hApart⟩) := by
  have hReadable := readable_typesIndex generated hText hShort
  have hNoReturn : '\r' ∉ (Json.write (.indented 2) (typesIndex generated R)).toList := by
    intro h
    have := write_plain hReadable (.indented 2) '\r' h
    simp [isPlainChar] at this
  rw [ofIndex, universalNewlines_of_no_return hNoReturn, parse_write hReadable,
    readBack_typesIndex generated hText]
  have hTextual : ∀ d ∈ R.entries.map Declaration.readBack, d.Textual := by
    intro d hd
    obtain ⟨e, he, rfl⟩ := List.mem_map.1 hd
    exact (hText e he).readBack
  simp only [bind, Except.bind, Value.field?]
  simp only [Value.sameKey]
  simp [Value.items_list, pure, Except.pure]
  rw [← List.map_map, ofValues_toValue _ hApart hTextual]

end Registry

/-! ## Registries given back unchanged -/

def Declaration.Unsplit (d : Declaration) : Prop :=
  ∀ s : String, d.name = .str s ∨ d.file = .str s → holdsSplitPair s.toList = false

theorem Declaration.readBack_of_unsplit {d : Declaration} (hd : d.Textual) (hUnsplit : d.Unsplit) :
    d.readBack = d := by
  obtain ⟨n, hn⟩ := hd.name
  obtain ⟨f, hf⟩ := hd.file
  have hName := joinText_of_holdsSplitPair (hUnsplit n (.inl hn))
  have hFile := joinText_of_holdsSplitPair (hUnsplit f (.inr hf))
  obtain ⟨name, kind, file, line⟩ := d
  simp only at hn hf
  subst hn hf
  simp [Declaration.readBack, readBack_str, hName, hFile]

/-- A registry of declarations with text names and files and integer lines is given back
exactly by the list of its declaration mappings, each declaration by its own mapping, and
by its saved types index when no name or file holds a split surrogate pair and the index's
integers are short enough to read. -/
theorem Registry.handOff_unchanged (R : Registry) (hText : ∀ d ∈ R.entries, d.Textual) :
    Registry.ofValues (R.entries.map Declaration.toValue) = .ok R ∧
    (∀ d ∈ R.entries, Declaration.ofValue d.toValue = .ok d) ∧
    ∀ generated : String, R.ShortNumbers → (∀ d ∈ R.entries, d.Unsplit) →
      Registry.ofIndex (some (Json.write (.indented 2) (typesIndex generated R))) =
        .ok (some R) := by
  refine ⟨Registry.ofValues_toValue R.entries R.keys_distinct hText,
    fun d hd => Declaration.ofValue_toValue (hText d hd).line, ?_⟩
  intro generated hShort hUnsplit
  have hSame : R.entries.map Declaration.readBack = R.entries := by
    conv => rhs; rw [← List.map_id R.entries]
    exact List.map_congr_left fun d hd =>
      Declaration.readBack_of_unsplit (hText d hd) (hUnsplit d hd)
  have hApart : (R.entries.map Declaration.readBack).Pairwise fun a b => a.clashes b = false := by
    rw [hSame]
    exact R.keys_distinct
  rw [Registry.ofIndex_saved generated R hText hShort hApart]
  obtain ⟨entries, hKeys⟩ := R
  simp only at hSame
  simp [hSame]

def sampleRegistry : Registry :=
  ⟨[⟨.str "Sample", .classDecl, .str "Sample.cs", .int 3⟩,
    ⟨.str "Color", .enumDecl, .str "Color.cs", .int 12⟩], by decide⟩

theorem sampleRegistry_handOff_unchanged :
    (∀ d ∈ sampleRegistry.entries, d.Textual) ∧ sampleRegistry.ShortNumbers ∧
    (∀ d ∈ sampleRegistry.entries, d.Unsplit) ∧
    Registry.ofValues (sampleRegistry.entries.map Declaration.toValue) = .ok sampleRegistry ∧
    (∀ d ∈ sampleRegistry.entries, Declaration.ofValue d.toValue = .ok d) ∧
    Registry.ofIndex
      (some (Json.write (.indented 2) (typesIndex "2024-05-01T12:00:00" sampleRegistry))) =
        .ok (some sampleRegistry) := by
  have hText : ∀ d ∈ sampleRegistry.entries, d.Textual := by
    intro d hd
    simp only [sampleRegistry, List.mem_cons, List.not_mem_nil, or_false] at hd
    rcases hd with rfl | rfl <;> exact ⟨⟨_, rfl⟩, ⟨_, rfl⟩, ⟨_, rfl⟩⟩
  have hShort : sampleRegistry.ShortNumbers := by
    refine ⟨fun d hd => ?_, by decide⟩
    simp only [sampleRegistry, List.mem_cons, List.not_mem_nil, or_false] at hd
    rcases hd with rfl | rfl <;> simp only [Value.int.injEq, forall_eq'] <;> decide
  have hUnsplit : ∀ d ∈ sampleRegistry.entries, d.Unsplit := by
    intro d hd
    simp only [sampleRegistry, List.mem_cons, List.not_mem_nil, or_false] at hd
    rcases hd with rfl | rfl <;> rintro s (h | h) <;> obtain rfl := Value.str.inj h <;> decide
  obtain ⟨hList, hEach, hSaved⟩ := Registry.handOff_unchanged sampleRegistry hText
  exact ⟨hText, hShort, hUnsplit, hList, hEach, hSaved _ hShort hUnsplit⟩

/-- A registry whose one class is named by the stand-ins of the surrogate pair of `😀`. -/
def splitPairRegistry : Registry :=
  ⟨[⟨.str (String.ofList [ofCode 0xD83D, ofCode 0xDE00]), .classDecl, .str "A.cs", .int 1⟩],
    List.pairwise_singleton _ _⟩

/-- The saved index of a name holding a split surrogate pair is loaded back with the pair
joined into the one character it encodes, so the registry loaded differs from the one
saved. -/
theorem splitPairRegistry_loaded_joined :
    ∃ R, Registry.ofIndex (some (Json.write (.indented 2)
        (typesIndex "2024-05-01T12:00:00" splitPairRegistry))) = .ok (some R) ∧
      R.entries = [⟨.str (String.singleton (Char.ofNat 0x1F600)), .classDecl, .str "A.cs", .int 1⟩] ∧
      R ≠ splitPairRegistry := by
  have hText : ∀ d ∈ splitPairRegistry.entries, d.Textual := by
    simp only [splitPairRegistry, List.mem_singleton, forall_eq]
    exact ⟨⟨_, rfl⟩, ⟨_, rfl⟩, ⟨_, rfl⟩⟩
  have hShort : splitPairRegistry.ShortNumbers := by
    refine ⟨?_, by decide⟩
    simp only [splitPairRegistry, List.mem_singleton, forall_eq, Value.int.injEq, forall_eq']
    decide
  have hJoined : joinText (String.ofList [ofCode 0xD83D, ofCode 0xDE00]) =
      String.singleton (Char.ofNat 0x1F600) := by
    decide
  have hFile : joinText "A.cs" = "A.cs" := by decide
  refine ⟨_, Registry.ofIndex_saved _ splitPairRegistry hText hShort
    (List.pairwise_singleton _ _), ?_, ?_⟩
  · simp only [splitPairRegistry, List.map_cons, List.map_nil, Declaration.readBack, readBack_str,
      hJoined, hFile]
  · intro h
    have hNames := congrArg (fun R : Registry => R.entries.map Declaration.name) h
    simp only [splitPairRegistry, List.map_cons, List.map_nil, Declaration.readBack, readBack_str,
      hJoined, List.cons.injEq, Value.str.injEq, and_true] at hNames
    exact absurd hNames (by decide)

end Weave
