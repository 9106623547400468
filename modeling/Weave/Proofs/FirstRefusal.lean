import Weave.Proofs.RegistryStore

/-! # Where extending a registry stops

Extending a registry adds declarations one at a time, so a failure leaves behind exactly
the declarations added before it. A declaration is refused after the ones already there
when its name or file cannot stand in a key, or when one of them holds its key
(`Refuses`); otherwise it is admitted (`Admits`). Reading a registry from document
mappings reads each mapping just before adding it, so a mapping that cannot be read stops
the run only after every declaration read before it has been added.
-/

namespace Weave.Registry

set_option autoImplicit false

def Admits (es : List Declaration) (d : Declaration) : Prop :=
  keyFault? d.name d.file = none ∧ ∀ e ∈ es, e.clashes d = false

/-- Adding `d` after the declarations `es` is refused with the fault `f`: the fault of a
key that cannot be looked up, or the duplicate of the first declaration of `es` under the
key, with its line and `d`'s. -/
def Refuses (es : List Declaration) (d : Declaration) (f : Fault) : Prop :=
  keyFault? d.name d.file = some f ∨
    keyFault? d.name d.file = none ∧
      ∃ old, es.find? (·.clashes d) = some old ∧ f = .duplicateType d.name d.file old.line d.line

/-- Each declaration of `ds` can be added after `es` and the declarations of `ds` before
it. -/
def AdmitsAll : List Declaration → List Declaration → Prop
  | _, [] => True
  | es, d :: ds => Admits es d ∧ AdmitsAll (es ++ [d]) ds

@[simp] theorem entries_empty : empty.entries = [] := rfl

@[simp] theorem admitsAll_nil (es : List Declaration) : AdmitsAll es [] := trivial

@[simp] theorem admitsAll_cons (es : List Declaration) (d : Declaration) (ds : List Declaration) :
    AdmitsAll es (d :: ds) ↔ Admits es d ∧ AdmitsAll (es ++ [d]) ds := Iff.rfl

section Step

variable {es : List Declaration} {d : Declaration} {f : Fault}

theorem admits_or_refuses (es : List Declaration) (d : Declaration) :
    Admits es d ∨ ∃ f, Refuses es d f := by
  cases hKey : keyFault? d.name d.file with
  | some f => exact .inr ⟨f, .inl hKey⟩
  | none =>
    cases hFind : es.find? (·.clashes d) with
    | some old => exact .inr ⟨_, .inr ⟨hKey, old, hFind, rfl⟩⟩
    | none => exact .inl ⟨hKey, by simpa using List.find?_eq_none.1 hFind⟩

variable (r : Registry)

theorem insert_of_admits (h : Admits r.entries d) :
    ∃ r', r.insert d = .ok r' ∧ r'.entries = r.entries ++ [d] := by
  obtain ⟨hKey, hFresh⟩ := h
  have hAny : (r.entries.any fun e => e.clashes d) = false :=
    List.any_eq_false.2 fun e he => by simp [hFresh e he]
  exact ⟨_, insert_of_fresh r hKey hAny, rfl⟩

theorem insert_of_refuses (h : Refuses r.entries d f) : r.insert d = .error f := by
  rcases h with hKey | ⟨hKey, old, hFind, rfl⟩
  · simp [insert, hKey]
  · have hAny : (r.entries.any fun e => e.clashes d) = true :=
      List.any_eq_true.2 ⟨old, List.mem_of_find?_eq_some hFind, by simpa using List.find?_some hFind⟩
    unfold insert
    split
    · simp_all
    · split
      · rw [hFind]
      · simp_all

end Step

theorem extend_outcome (r : Registry) (ds : List Declaration) :
    (AdmitsAll r.entries ds ∧ (r.extend ds).2 = none ∧ (r.extend ds).1.entries = r.entries ++ ds) ∨
      ∃ pre d post f, ds = pre ++ d :: post ∧ AdmitsAll r.entries pre ∧
        Refuses (r.entries ++ pre) d f ∧ (r.extend ds).2 = some f ∧
        (r.extend ds).1.entries = r.entries ++ pre := by
  induction ds generalizing r with
  | nil => exact .inl ⟨trivial, rfl, by simp [extend]⟩
  | cons d ds ih =>
    rcases admits_or_refuses r.entries d with hAdmits | ⟨f, hRefuses⟩
    · obtain ⟨r', hInsert, hEntries⟩ := insert_of_admits r hAdmits
      have hStep : r.extend (d :: ds) = r'.extend ds := by simp [extend, hInsert]
      rw [hStep]
      rcases ih r' with ⟨hAll, hNone, hAdded⟩ | ⟨pre, e, post, f, rfl, hAll, hRefuses, hFault, hAdded⟩
      · refine .inl ⟨⟨hAdmits, hEntries ▸ hAll⟩, hNone, ?_⟩
        simp [hAdded, hEntries]
      · refine .inr ⟨d :: pre, e, post, f, rfl, ⟨hAdmits, hEntries ▸ hAll⟩, ?_, hFault, ?_⟩
        · simpa [hEntries] using hRefuses
        · simp [hAdded, hEntries]
    · have hInsert := insert_of_refuses r hRefuses
      exact .inr ⟨[], d, ds, f, rfl, trivial, by simpa using hRefuses, by simp [extend, hInsert],
        by simp [extend, hInsert]⟩

theorem extend_of_admitsAll {r : Registry} {ds : List Declaration} (h : AdmitsAll r.entries ds) :
    (r.extend ds).2 = none ∧ (r.extend ds).1.entries = r.entries ++ ds := by
  induction ds generalizing r with
  | nil => simp [extend]
  | cons d ds ih =>
    obtain ⟨hAdmits, hRest⟩ := h
    obtain ⟨r', hInsert, hEntries⟩ := insert_of_admits r hAdmits
    have hStep : r.extend (d :: ds) = r'.extend ds := by simp [extend, hInsert]
    obtain ⟨hNone, hAdded⟩ := ih (hEntries ▸ hRest)
    rw [hStep]
    exact ⟨hNone, by simp [hAdded, hEntries]⟩

theorem extend_of_refused {r : Registry} {pre post : List Declaration} {d : Declaration} {f : Fault}
    (hPre : AdmitsAll r.entries pre) (hd : Refuses (r.entries ++ pre) d f) :
    (r.extend (pre ++ d :: post)).2 = some f ∧ (r.extend (pre ++ d :: post)).1.entries = r.entries ++ pre := by
  induction pre generalizing r with
  | nil =>
    have hInsert := insert_of_refuses r (by simpa using hd)
    simp [extend, hInsert]
  | cons p pre ih =>
    obtain ⟨hAdmits, hRest⟩ := hPre
    obtain ⟨r', hInsert, hEntries⟩ := insert_of_admits r hAdmits
    have hStep : r.extend ((p :: pre) ++ d :: post) = r'.extend (pre ++ d :: post) := by
      simp [extend, hInsert]
    obtain ⟨hFault, hAdded⟩ := ih (hEntries ▸ hRest) (by simpa [hEntries] using hd)
    rw [hStep]
    exact ⟨hFault, by simp [hAdded, hEntries]⟩

/-! ## Reading declarations from mappings -/

/-- The declarations read from the front of the mappings `vs`, up to the first mapping that
cannot be read, and that mapping's fault. -/
def readFront : List Value → List Declaration × Option Fault
  | [] => ([], none)
  | v :: vs =>
    match Declaration.ofValue v with
    | .ok d => (d :: (readFront vs).1, (readFront vs).2)
    | .error e => ([], some e)

theorem extendValues_eq (r : Registry) (vs : List Value) :
    r.extendValues vs =
      ((r.extend (readFront vs).1).1, (r.extend (readFront vs).1).2.or (readFront vs).2) := by
  induction vs generalizing r with
  | nil => rfl
  | cons v vs ih =>
    cases hRead : Declaration.ofValue v with
    | error e => simp [extendValues, readFront, hRead, bind, Except.bind, extend]
    | ok d =>
      cases hInsert : r.insert d with
      | ok r' => simp [extendValues, readFront, hRead, hInsert, bind, Except.bind, extend, ih]
      | error f => simp [extendValues, readFront, hRead, hInsert, bind, Except.bind, extend]

theorem readFront_of_mapM {vs : List Value} {ds : List Declaration}
    (h : vs.mapM Declaration.ofValue = .ok ds) : readFront vs = (ds, none) := by
  induction vs generalizing ds with
  | nil =>
    simp only [List.mapM_nil, pure, Except.pure, Except.ok.injEq] at h
    simp [readFront, ← h]
  | cons v vs ih =>
    simp only [List.mapM_cons, bind, Except.bind, pure, Except.pure] at h
    cases hRead : Declaration.ofValue v with
    | error e => simp [hRead] at h
    | ok d =>
      cases hRest : vs.mapM Declaration.ofValue with
      | error e => simp [hRead, hRest] at h
      | ok ds' =>
        simp only [hRead, hRest, Except.ok.injEq] at h
        simp [readFront, hRead, ih hRest, ← h]

theorem mapM_of_readFront {vs : List Value} (h : (readFront vs).2 = none) :
    vs.mapM Declaration.ofValue = .ok (readFront vs).1 := by
  induction vs with
  | nil => rfl
  | cons v vs ih =>
    cases hRead : Declaration.ofValue v with
    | error e => simp [readFront, hRead] at h
    | ok d =>
      have hTail : (readFront vs).2 = none := by simpa [readFront, hRead] using h
      simp [List.mapM_cons, bind, Except.bind, pure, Except.pure, readFront, hRead, ih hTail]

theorem readFront_eq_some {vs : List Value} {ds : List Declaration} {e : Fault}
    (h : readFront vs = (ds, some e)) :
    ∃ pre v post, vs = pre ++ v :: post ∧ pre.mapM Declaration.ofValue = .ok ds ∧
      Declaration.ofValue v = .error e := by
  induction vs generalizing ds with
  | nil => simp [readFront] at h
  | cons v vs ih =>
    cases hRead : Declaration.ofValue v with
    | error e' =>
      simp only [readFront, hRead, Prod.mk.injEq, Option.some.injEq] at h
      obtain ⟨rfl, rfl⟩ := h
      exact ⟨[], v, vs, rfl, rfl, hRead⟩
    | ok d =>
      simp only [readFront, hRead, Prod.mk.injEq] at h
      obtain ⟨hds, hFault⟩ := h
      obtain ⟨pre, w, post, rfl, hPre, hw⟩ := ih (Prod.ext rfl hFault)
      refine ⟨v :: pre, w, post, rfl, ?_, hw⟩
      simp [List.mapM_cons, bind, Except.bind, pure, Except.pure, hRead, hPre, ← hds]

theorem readFront_of_unreadable {pre post : List Value} {v : Value} {ds : List Declaration}
    {e : Fault} (hPre : pre.mapM Declaration.ofValue = .ok ds) (hv : Declaration.ofValue v = .error e) :
    readFront (pre ++ v :: post) = (ds, some e) := by
  induction pre generalizing ds with
  | nil =>
    simp only [List.mapM_nil, pure, Except.pure, Except.ok.injEq] at hPre
    simp [readFront, hv, ← hPre]
  | cons u pre ih =>
    simp only [List.mapM_cons, bind, Except.bind, pure, Except.pure] at hPre
    cases hRead : Declaration.ofValue u with
    | error e' => simp [hRead] at hPre
    | ok d =>
      cases hRest : pre.mapM Declaration.ofValue with
      | error e' => simp [hRead, hRest] at hPre
      | ok ds' =>
        simp only [hRead, hRest, Except.ok.injEq] at hPre
        simp [readFront, hRead, ih hRest, ← hPre]

theorem readFront_of_readable {pre post : List Value} {v : Value} {ds : List Declaration}
    {d : Declaration} (hPre : pre.mapM Declaration.ofValue = .ok ds)
    (hv : Declaration.ofValue v = .ok d) :
    ∃ rest, readFront (pre ++ v :: post) = (ds ++ d :: rest, (readFront post).2) := by
  induction pre generalizing ds with
  | nil =>
    simp only [List.mapM_nil, pure, Except.pure, Except.ok.injEq] at hPre
    exact ⟨(readFront post).1, by simp [readFront, hv, ← hPre]⟩
  | cons u pre ih =>
    simp only [List.mapM_cons, bind, Except.bind, pure, Except.pure] at hPre
    cases hRead : Declaration.ofValue u with
    | error e' => simp [hRead] at hPre
    | ok d' =>
      cases hRest : pre.mapM Declaration.ofValue with
      | error e' => simp [hRead, hRest] at hPre
      | ok ds' =>
        simp only [hRead, hRest, Except.ok.injEq] at hPre
        obtain ⟨rest, hFront⟩ := ih hRest
        exact ⟨rest, by simp [readFront, hRead, hFront, ← hPre]⟩

theorem readFront_split {vs : List Value} {pre post : List Declaration} {d : Declaration}
    (h : (readFront vs).1 = pre ++ d :: post) :
    ∃ preV v postV, vs = preV ++ v :: postV ∧ preV.mapM Declaration.ofValue = .ok pre ∧
      Declaration.ofValue v = .ok d := by
  induction vs generalizing pre with
  | nil => simp [readFront] at h
  | cons v vs ih =>
    cases hRead : Declaration.ofValue v with
    | error e => simp [readFront, hRead] at h
    | ok d' =>
      rw [readFront, hRead] at h
      cases pre with
      | nil =>
        obtain ⟨rfl, -⟩ := List.cons.inj h
        exact ⟨[], v, vs, rfl, rfl, hRead⟩
      | cons p pre =>
        obtain ⟨rfl, hTail⟩ := List.cons.inj h
        obtain ⟨preV, w, postV, rfl, hPre, hw⟩ := ih hTail
        refine ⟨v :: preV, w, postV, rfl, ?_, hw⟩
        simp [List.mapM_cons, bind, Except.bind, pure, Except.pure, hRead, hPre]

theorem admitsAll_of_extend {r : Registry} {ds : List Declaration} (h : (r.extend ds).2 = none) :
    AdmitsAll r.entries ds := by
  rcases extend_outcome r ds with ⟨hAll, -⟩ | ⟨_, _, _, _, _, _, _, hFault, _⟩
  · exact hAll
  · simp [hFault] at h

theorem ofValues_eq_ok_iff (vs : List Value) (r : Registry) :
    ofValues vs = .ok r ↔ ∃ ds, vs.mapM Declaration.ofValue = .ok ds ∧ AdmitsAll [] ds ∧
      empty.extend ds = (r, none) := by
  rw [ofValues, extendValues_eq]
  constructor
  · intro h
    cases hExt : (empty.extend (readFront vs).1).2 with
    | some f => simp [hExt] at h
    | none =>
      cases hFront : (readFront vs).2 with
      | some e => simp [hExt, hFront] at h
      | none =>
        simp only [hExt, hFront, Option.or_none, Except.ok.injEq] at h
        refine ⟨_, mapM_of_readFront hFront, admitsAll_of_extend hExt, ?_⟩
        rw [← h, ← hExt]
  · rintro ⟨ds, hRead, -, hExt⟩
    rw [readFront_of_mapM hRead, hExt]
    rfl

theorem ofValues_eq_error_iff (vs : List Value) (e : Fault) :
    ofValues vs = .error e ↔
      ∃ pre v post ds, vs = pre ++ v :: post ∧ pre.mapM Declaration.ofValue = .ok ds ∧
        AdmitsAll [] ds ∧
        (Declaration.ofValue v = .error e ∨ ∃ d, Declaration.ofValue v = .ok d ∧ Refuses ds d e) := by
  rw [ofValues, extendValues_eq]
  constructor
  · intro h
    rcases extend_outcome empty (readFront vs).1 with ⟨hAll, hNone, -⟩ |
      ⟨pre, d, post, f, hFront, hAll, hRefuses, hFault, -⟩
    · cases hRest : (readFront vs).2 with
      | none => simp [hNone, hRest] at h
      | some e' =>
        simp only [hNone, hRest, Option.none_or, Except.error.injEq] at h
        subst h
        obtain ⟨pre, v, post, rfl, hPre, hv⟩ := readFront_eq_some (Prod.ext rfl hRest)
        exact ⟨pre, v, post, _, rfl, hPre, hAll, .inl hv⟩
    · simp only [hFault, Option.some_or, Except.error.injEq] at h
      subst h
      obtain ⟨preV, v, postV, rfl, hPre, hv⟩ := readFront_split hFront
      exact ⟨preV, v, postV, pre, rfl, hPre, hAll, .inr ⟨d, hv, by simpa using hRefuses⟩⟩
  · rintro ⟨pre, v, post, ds, rfl, hPre, hAll, hv | ⟨d, hv, hRefuses⟩⟩
    · rw [readFront_of_unreadable hPre hv, (extend_of_admitsAll hAll).1]
      rfl
    · obtain ⟨rest, hFront⟩ := @readFront_of_readable pre post v ds d hPre hv
      have hStop := @extend_of_refused empty ds rest d e hAll (by simpa using hRefuses)
      rw [hFront, hStop.1]
      rfl

/-- Extending a registry adds the declarations in order up to the first that is refused after
those before it, and stops there with the refusal's fault; reading a registry from mappings
fails exactly at the first mapping that cannot be read or whose declaration is refused, and
otherwise gives the empty registry extended by the declarations read. -/
theorem extend_stops_at_first_refusal :
    (∀ (r : Registry) (ds : List Declaration),
      (AdmitsAll r.entries ds ∧ (r.extend ds).2 = none ∧ (r.extend ds).1.entries = r.entries ++ ds) ∨
        ∃ pre d post f, ds = pre ++ d :: post ∧ AdmitsAll r.entries pre ∧
          Refuses (r.entries ++ pre) d f ∧ (r.extend ds).2 = some f ∧
          (r.extend ds).1.entries = r.entries ++ pre) ∧
    (∀ (vs : List Value) (e : Fault), ofValues vs = .error e ↔
      ∃ pre v post ds, vs = pre ++ v :: post ∧ pre.mapM Declaration.ofValue = .ok ds ∧
        AdmitsAll [] ds ∧
        (Declaration.ofValue v = .error e ∨ ∃ d, Declaration.ofValue v = .ok d ∧ Refuses ds d e)) ∧
    (∀ (vs : List Value) (r : Registry), ofValues vs = .ok r ↔
      ∃ ds, vs.mapM Declaration.ofValue = .ok ds ∧ AdmitsAll [] ds ∧ empty.extend ds = (r, none)) :=
  ⟨extend_outcome, ofValues_eq_error_iff, ofValues_eq_ok_iff⟩

/-- A mapping with every key, a keyword for its kind and an integer line, whose name is a
list: it is read, and the registry it is read into refuses it, since a list cannot stand in
a key. -/
theorem ofValues_list_name_refused :
    Declaration.ofValue (.dict [(.str "name", .list []), (.str "kind", .str "class"),
        (.str "file", .str "a.cs"), (.str "line", .int 1)]) =
      .ok ⟨.list [], .classDecl, .str "a.cs", .int 1⟩ ∧
    ofValues [.dict [(.str "name", .list []), (.str "kind", .str "class"),
        (.str "file", .str "a.cs"), (.str "line", .int 1)]] = .error (.unhashable "list") :=
  ⟨rfl, rfl⟩

end Weave.Registry
