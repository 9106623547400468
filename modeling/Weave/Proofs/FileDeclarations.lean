import Weave.Proofs.WalkInvariant
import Weave.Proofs.RegistryStore

/-! # The declarations a walk adds

The walk reads the declarations of one file, and it changes the registry only where it
adds one: under a text name and that file, at the end. So when the walk of a source
succeeds, its registry is the one it started with followed by declarations of that
file, which is what merging a file's own registry into a run relies on.
-/

namespace Weave

set_option autoImplicit false

namespace Walk

/-- The step `x` leaves the registry and the file as they were, when it succeeds. -/
def Keeps {α : Type} (x : WalkM α) : Prop :=
  ∀ (g : Registry) (f : String), Triple (fun w => w.registry = g ∧ w.file = f) x
    (fun _ w => w.registry = g ∧ w.file = f) (fun _ => True)

theorem keeps_modify {f : Walk → Walk} (h : ∀ w, (f w).registry = w.registry ∧ (f w).file = w.file) :
    Keeps (modify f : WalkM PUnit) :=
  fun _ _ => Triple.modify fun w hw => ⟨(h w).1.trans hw.1, (h w).2.trans hw.2⟩

theorem keeps_nextLine : Keeps nextLine := by
  intro g f w hw
  rw [run_nextLine]
  by_cases hEmpty : w.unread = []
  · rw [if_pos hEmpty]
    trivial
  · rw [if_neg hEmpty]
    by_cases hSame : Text.visible (String.ofList (dropReturn (splitLine w.unread).1)) =
        Text.visible (String.join w.pending.toList)
    · rw [if_pos hSame]
      exact hw
    · rw [if_neg hSame]
      trivial

theorem keeps_gatherPieces : ∀ ps : List (List Char), Keeps (gatherPieces ps)
  | [] => fun _ _ => Triple.pure fun _ hw => hw
  | p :: ps => by
    intro g f
    rw [gatherPieces, pushPending]
    exact Triple.bind (keeps_modify (by exact fun _ => ⟨rfl, rfl⟩) g f) fun _ =>
      (keeps_nextLine g f).bind fun _ => keeps_gatherPieces ps g f

theorem keeps_gatherText (x : List Char) : Keeps (gatherText x) := by
  intro g f
  rw [gatherText, pushPending]
  exact (keeps_gatherPieces _ g f).bind fun _ => keeps_modify (by exact fun _ => ⟨rfl, rfl⟩) g f

theorem keeps_advance (t : Token) : Keeps (advance t) := by
  intro g f
  cases hNewline : t.isNewline with
  | true =>
    rw [advance_newline hNewline]
    exact Triple.bind (keeps_nextLine g f) fun _ => keeps_modify (by exact fun _ => ⟨rfl, rfl⟩) g f
  | false =>
    rw [advance_other hNewline]
    refine Triple.bind ?_ fun _ => keeps_gatherText _ g f
    split
    · exact Triple.pure fun _ hw => hw
    · exact keeps_modify (by exact fun _ => ⟨rfl, rfl⟩) g f

theorem keeps_finish : Keeps finish := by
  intro g f w hw
  rw [run_finish]
  by_cases hDone : w.unread = [] ∧ w.pending = #[]
  · rw [if_pos hDone]
    exact hw
  · rw [if_neg hDone]
    by_cases hSame : Text.visible (String.ofList (dropReturn (splitLine w.unread).1)) =
        Text.visible (String.join w.pending.toList)
    · rw [if_pos hSame]
      by_cases hRest : (splitLine w.unread).2 = []
      · rw [if_pos hRest]
        exact hw
      · rw [if_neg hRest]
        trivial
    · rw [if_neg hSame]
      trivial

/-- The walk reads `file`, and its registry is `R` followed by declarations of that file
under text names. -/
def Extends (R : Registry) (file : String) (w : Walk) : Prop :=
  w.file = file ∧ ∃ ds, w.registry.entries = R.entries ++ ds ∧
    ∀ d ∈ ds, (∃ n, d.name = .str n) ∧ d.file = .str file

variable (R : Registry) (file : String)

theorem Extends.of_keeps {α : Type} {x : WalkM α} (hx : Keeps x) :
    Triple (Extends R file) x (fun _ => Extends R file) (fun _ => True) := by
  intro w hw
  have hKept := hx w.registry w.file w ⟨rfl, rfl⟩
  cases hRun : x.run w with
  | ok a w' =>
    rw [hRun] at hKept
    obtain ⟨hFile, ds, hEntries, hOwn⟩ := hw
    exact ⟨hKept.2.trans hFile, ds, hKept.1 ▸ hEntries, hOwn⟩
  | error e w' => trivial

theorem Extends.register (name : String) (kind : DeclKind) (line : Nat) :
    Triple (Extends R file) (Walk.register name kind line) (fun _ => Extends R file)
      (fun _ => True) := by
  rw [Walk.register]
  split
  · exact Triple.pure fun _ hw => hw
  · intro w hw
    simp only [EStateM.run_bind, EStateM.run_get]
    cases hInsert : w.registry.insert ⟨.str name, kind, .str w.file, .int line⟩ with
    | ok r =>
      obtain ⟨hFile, ds, hEntries, hOwn⟩ := hw
      refine ⟨hFile, ds ++ [⟨.str name, kind, .str w.file, .int line⟩], ?_, ?_⟩
      · show r.entries = _
        rw [Registry.entries_of_insert _ hInsert, hEntries, List.append_assoc]
      · intro d hd
        rcases List.mem_append.1 hd with hd | hd
        · exact hOwn d hd
        · rw [List.mem_singleton] at hd
          exact hd ▸ ⟨⟨name, rfl⟩, congrArg Value.str hFile⟩
    | error e => trivial

theorem Extends.scanInvariant : ScanInvariant (fun w _ => Extends R file w) (fun _ => True) where
  frame := by
    rintro w w' - ⟨hFile, ds, hEntries, hOwn⟩ - - - hRegistry hFile'
    exact ⟨hFile'.trans hFile, ds, hRegistry ▸ hEntries, hOwn⟩
  advance t _ := Extends.of_keeps R file (keeps_advance t)
  register name kind line _ := Extends.register R file name kind line
  declarationFault _ _ := trivial

end Walk

theorem classifyLines_registry {T : List Token} {text : String} {R : Registry} {file : String}
    {L : List SourceLine} (hL : (classifyLines T text R file).lines = .ok L) :
    ∃ ds, (classifyLines T text R file).registry.entries = R.entries ++ ds ∧
      ∀ d ∈ ds, (∃ n, d.name = .str n) ∧ d.file = .str file := by
  have hRun := (Walk.Extends.scanInvariant R file).run
    (Walk.Extends.of_keeps R file Walk.keeps_finish) T (Walk.start text R file)
    ⟨rfl, [], by simp [Walk.start], by simp⟩
  unfold classifyLines at hL ⊢
  cases hWalk : (Walk.run T).run (Walk.start text R file) with
  | ok _ w =>
    rw [hWalk] at hRun
    exact hRun.2
  | error e w =>
    simp only [hWalk] at hL
    cases hL

end Weave
