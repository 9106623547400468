import Weave.Config.Load
import Weave.Proofs.RunAccounting

/-! # How reading and validating settings fail

Validation reads its fields as they come from a document. It writes the error policy and the
log level into its reports, walks through the extensions and the directives, and writes the
first item of each that is not well formed. A report names the settings file. Two other
faults can stop it first: a list field that is no collection cannot be walked through, and
an integer too long to be written in decimal cannot be written into a report
(`Settings.Refusal`). Reading a settings file adds the faults of the YAML reader, the text of
the version, and an `output` field that is no mapping. Settings that are read pass
validation.
-/

namespace Weave

set_option autoImplicit false

namespace Value

theorem shown_error {v : Value} {e : Fault} (h : v.shown = .error e) :
    e = .tooManyDigitsToWrite ∧ v.holdsLongInt = true := by
  unfold shown at h
  split at h
  · cases h
    exact ⟨rfl, ‹_›⟩
  · cases h

theorem items_error {v : Value} {e : Fault} (h : v.items = .error e) : ∃ t, e = .notIterable t := by
  unfold items at h
  split at h <;> cases h
  exact ⟨_, rfl⟩

theorem holdsLongInt_str (s : String) : (Value.str s).holdsLongInt = false := by
  rw [holdsLongInt.eq_def]

theorem shown_str (s : String) : (Value.str s).shown = .ok s := by
  simp [shown, holdsLongInt_str, display]

theorem yields_shown_bind {β : Type} {P : β → Prop} {E : Fault → Prop} (v : Value)
    (f : String → Except Fault β) (hLong : v.holdsLongInt = true → E .tooManyDigitsToWrite)
    (hf : ∀ x, Yields P E (f x)) : Yields P E (v.shown >>= f) := by
  cases hv : v.shown with
  | error e =>
    obtain ⟨rfl, hHolds⟩ := shown_error hv
    exact Yields.error (hLong hHolds)
  | ok x => exact hf x

end Value

namespace Settings

/-- A value that validation writes holds an integer too long to write: the error policy,
the log level, or an item of the extensions or of the directives. -/
def HoldsLongInt (s : Settings) : Prop :=
  s.onError.holdsLongInt = true ∨ s.logLevel.holdsLongInt = true ∨
    (∃ vs, s.extensions.items = .ok vs ∧ ∃ v ∈ vs, v.holdsLongInt = true) ∨
    ∃ vs, s.directives.items = .ok vs ∧ ∃ v ∈ vs, v.holdsLongInt = true

/-- How validating settings against `file` fails. -/
inductive Refusal (s : Settings) (file : String) : Fault → Prop
  | invalid (reason : String) : Refusal s file (.configInvalid reason file)
  | notIterable {t : String}
      (h : s.extensions.items = .error (.notIterable t) ∨ s.directives.items = .error (.notIterable t)) :
      Refusal s file (.notIterable t)
  | tooManyDigits (h : s.HoldsLongInt) : Refusal s file .tooManyDigitsToWrite

def Documented (file : String) (e : Fault) : Prop :=
  (∃ reason, e = .configInvalid reason file) ∨ (∃ t, e = .notIterable t) ∨ e = .tooManyDigitsToWrite

theorem Refusal.documented {s : Settings} {file : String} {e : Fault} (h : s.Refusal file e) :
    Documented file e := by
  cases h with
  | invalid reason => exact .inl ⟨reason, rfl⟩
  | notIterable => exact .inr (.inl ⟨_, rfl⟩)
  | tooManyDigits => exact .inr (.inr rfl)

section Validate

variable (s : Settings) (file : String)

theorem validate_yields : Yields (fun _ => True) (s.Refusal file) (s.validate file) := by
  unfold validate
  dsimp only
  split
  · split
    · exact Value.yields_shown_bind _ _ (fun h => .tooManyDigits (.inl h)) fun _ => Yields.throw_bind (.invalid _)
    refine Value.yields_shown_bind _ _ (fun h => .tooManyDigits (.inr (.inl h))) fun level => ?_
    split
    · exact Yields.throw_bind (.invalid _)
    cases hExt : s.extensions.items with
    | error e =>
      obtain ⟨t, rfl⟩ := Value.items_error hExt
      exact Yields.error (.notIterable (.inl hExt))
    | ok exts =>
    refine Yields.ok_bind ?_
    split
    · rename_i ext hExtFails
      exact Value.yields_shown_bind _ _ (fun h => .tooManyDigits (.inr (.inr (.inl ⟨exts, hExt, ext,
        List.mem_of_find?_eq_some hExtFails, h⟩)))) fun _ => Yields.throw_bind (.invalid _)
    cases hDirs : s.directives.items with
    | error e =>
      obtain ⟨t, rfl⟩ := Value.items_error hDirs
      exact Yields.error (.notIterable (.inr hDirs))
    | ok dirs =>
    refine Yields.ok_bind ?_
    split
    · rename_i dir hDirFails
      exact Value.yields_shown_bind _ _ (fun h => .tooManyDigits (.inr (.inr (.inr ⟨dirs, hDirs, dir,
        List.mem_of_find?_eq_some hDirFails, h⟩)))) fun _ => Yields.error (.invalid _)
    · exact Yields.ok trivial
  · rw [if_pos (show (!false) = true from rfl)]
    exact Value.yields_shown_bind _ _ (fun h => .tooManyDigits (.inl h)) fun _ => Yields.throw_bind (.invalid _)

theorem yields_validate_then : Yields (fun s' : Settings => s'.validate file = .ok ()) (Documented file)
    (s.validate file >>= fun _ => pure s) := by
  cases hv : s.validate file with
  | error e => exact Yields.error ((validate_yields s file).2 e hv).documented
  | ok u => exact Yields.ok hv

end Validate

theorem validate_default (file : String) : ({} : Settings).validate file = .ok () := by
  have hLevel : isLogLevel "WARNING" = true := by decide
  have hExtensions : (firstFailing isExtension [.str ".cs"]).isNone = true := by decide +kernel
  have hDirectives : (firstFailing isDirectiveKeyword (defaultDirectives.map .str)).isNone = true := by
    decide +kernel
  unfold validate
  simp only [Option.isNone_iff_eq_none] at hExtensions hDirectives
  simp [Value.shown_str, Value.items_list, errorPolicies, hLevel, hExtensions, hDirectives, bind,
    Except.bind, pure, Except.pure]

theorem ofDocument_yields (file : String) (entries : List (Value × Value)) :
    Yields (fun s => s.validate file = .ok ()) (Documented file) (ofDocument file entries) := by
  unfold ofDocument
  dsimp only
  split
  · refine Yields.ok_bind ?_
    exact Value.yields_shown_bind _ _ (fun _ => .inr (.inr rfl)) fun _ => yields_validate_then _ file
  · exact Yields.throw_bind (.inl ⟨_, rfl⟩)

theorem load_yields (read : String → Except Yaml.LoadError Value) (file : String)
    (content : Option String) :
    Yields (fun s => s.validate file = .ok ())
      (fun e => Documented file e ∨
        ∃ raw, content = some raw ∧ read (Text.universalNewlines raw) = .error (.scalar e))
      (load read file content) := by
  unfold load
  cases content with
  | none => exact Yields.ok (validate_default file)
  | some raw =>
    dsimp only
    split
    · exact Yields.ok (validate_default file)
    split
    · exact Yields.error (.inl (.inl ⟨_, rfl⟩))
    · rename_i f hf
      exact Yields.error (.inr ⟨raw, rfl, hf⟩)
    split
    · exact Yields.ok (validate_default file)
    split
    · rename_i entries _
      obtain ⟨hOk, hError⟩ := ofDocument_yields file entries
      exact ⟨hOk, fun e he => .inl (hError e he)⟩
    · exact Yields.error (.inl (.inl ⟨_, rfl⟩))

end Settings

/-- Validating settings fails only as `Settings.Refusal` says: with a report against the
file, on a list field that cannot be walked through, or on an integer too long to write.
With a YAML reader that gives a document or a report, settings read from a file pass
validation, and reading fails only with those faults or a report against the file. -/
theorem settings_faults (read : String → Except Yaml.LoadError Value)
    (hRead : ∀ text, (∃ doc, read text = .ok doc) ∨ ∃ report, read text = .error (.rejected report))
    (file : String) :
    (∀ (s : Settings) (e : Fault), s.validate file = .error e → s.Refusal file e) ∧
      (∀ content s, Settings.load read file content = .ok s → s.validate file = .ok ()) ∧
      ∀ content e, Settings.load read file content = .error e → Settings.Documented file e := by
  refine ⟨fun s => (Settings.validate_yields s file).2, fun content => (Settings.load_yields read file content).1,
    fun content e he => ?_⟩
  rcases (Settings.load_yields read file content).2 e he with hDocumented | ⟨raw, -, hScalar⟩
  · exact hDocumented
  · rcases hRead (Text.universalNewlines raw) with ⟨doc, hDoc⟩ | ⟨report, hReport⟩
    · rw [hDoc] at hScalar
      cases hScalar
    · rw [hReport] at hScalar
      cases hScalar

/-- A reader that gives the document of a settings file whose extensions are a number, and
rejects every other text. -/
def numberExtensionsReader (text : String) : Except Yaml.LoadError Value :=
  if text = "extensions: 5\n" then .ok (.dict [(.str "extensions", .int 5)])
  else .error (.rejected "expected the settings of the sample")

theorem settings_faults_number_extensions :
    (∀ text, (∃ doc, numberExtensionsReader text = .ok doc) ∨
      ∃ report, numberExtensionsReader text = .error (.rejected report)) ∧
    (∀ (s : Settings) (e : Fault), s.validate "docpair.yaml" = .error e → s.Refusal "docpair.yaml" e) ∧
      (∀ content s, Settings.load numberExtensionsReader "docpair.yaml" content = .ok s →
        s.validate "docpair.yaml" = .ok ()) ∧
      ∀ content e, Settings.load numberExtensionsReader "docpair.yaml" content = .error e →
        Settings.Documented "docpair.yaml" e := by
  have hRead : ∀ text, (∃ doc, numberExtensionsReader text = .ok doc) ∨
      ∃ report, numberExtensionsReader text = .error (.rejected report) := by
    intro text
    unfold numberExtensionsReader
    split
    · exact .inl ⟨_, rfl⟩
    · exact .inr ⟨_, rfl⟩
  exact ⟨hRead, settings_faults numberExtensionsReader hRead "docpair.yaml"⟩

/-- A settings document whose extensions are a number: walking through them fails, with no
report against the file. -/
theorem ofDocument_extensions_number :
    Settings.ofDocument "docpair.yaml" [(.str "extensions", .int 5)] = .error (.notIterable "int") := by
  have hLevel : isLogLevel "WARNING" = true := by decide
  unfold Settings.ofDocument Settings.validate
  simp [Value.field?, Value.sameKey, Value.shown_str, Value.items, Value.view, errorPolicies, hLevel,
    bind, Except.bind, pure, Except.pure, Value.typeName]

end Weave
