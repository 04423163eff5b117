import DiagnosticFeed.Proofs.Wire.Items
import DiagnosticFeed.QuickFix

/-!
# Which edits are offered

A fix comes with edits in wire coordinates, for any files. What is offered for a document is made of
the edits that qualify: they have a location with a readable start, and the location names one of
the files that stand for the document, or none. They are offered in their order and at their place
in the text as it is now; the others are passed over, and a fix of which no edit qualifies is not
offered at all.
-/

namespace DiagnosticFeed

/-- An edit for one of some files, or for none that it names, with a readable start. -/
def FixEdit.Qualifies (cwd : FilePath) (files : String → Prop) (e : FixEdit) : Prop :=
  ∃ location, e.location = some location ∧ Wire.HasStart location ∧ Wire.InFiles cwd files location

namespace QuickFix

/-- The replacements that edits of a document come to: one for each edit that is taken, where its
location is in the text, in the order of the edits. -/
inductive Realizes (d : Document) (P : FixEdit → Prop) : List FixEdit → List TextEdit → Prop
  | nil : Realizes d P [] []
  | taken (e : FixEdit) (location : Json.Object) (span : Span) (es : List FixEdit)
    (ts : List TextEdit) (qualifies : P e) (place : e.location = some location)
    (located : Wire.locate? (.ofDocument d) location = some span) (rest : Realizes d P es ts) :
    Realizes d P (e :: es) (⟨span, e.newText⟩ :: ts)
  | passed (e : FixEdit) (es : List FixEdit) (ts : List TextEdit) (other : ¬ P e)
    (rest : Realizes d P es ts) : Realizes d P (e :: es) ts

/-- The quick fix for one fix of a diagnostic, if it changes the document. -/
def built? (cwd : FilePath) (r : FixRegistry) (d : Document) (g : Diagnostic) (f : Fix) :
    Option QuickFix :=
  ofCandidate? d.uri
    ⟨g, f, f.edits.map (fate cwd (acceptedPaths cwd r d) (.ofDocument d))⟩

section

variable {cwd : FilePath} {r : FixRegistry} {d : Document} {P Q : FixEdit → Prop}
  {es : List FixEdit} {ts : List TextEdit}

theorem Realizes.congr (h : ∀ e, P e ↔ Q e) (hes : Realizes d P es ts) : Realizes d Q es ts := by
  induction hes with
  | nil => exact .nil
  | taken e location span es ts qualifies place located _ ih =>
    exact .taken e location span es ts ((h e).mp qualifies) place located ih
  | passed e es ts other _ ih => exact .passed e es ts (mt (h e).mpr other) ih

theorem Realizes.within (h : Realizes d P es ts) : ∀ t ∈ ts, t.span.Within d := by
  induction h with
  | nil => nofun
  | taken e location span es ts qualifies place located _ ih =>
    intro t ht
    rcases List.mem_cons.mp ht with rfl | ht
    · exact Wire.within_of_locate? located
    · exact ih t ht
  | passed e es ts other _ ih => exact ih

theorem Realizes.eq_nil_iff (h : Realizes d P es ts) : ts = [] ↔ ∀ e ∈ es, ¬ P e := by
  induction h with
  | nil => simp
  | taken e location span es ts qualifies place located _ ih =>
    exact ⟨nofun, fun hnone ↦ absurd qualifies (hnone e List.mem_cons_self)⟩
  | passed e es ts other _ ih =>
    rw [ih, List.forall_mem_cons]
    exact ⟨fun hes ↦ ⟨other, hes⟩, And.right⟩

/-! ## Edits one by one -/

theorem target_notMem_iff {accepted : List String} {target : Option String} :
    target.filter (fun t ↦ !accepted.contains t) = none ↔ ∀ p, target = some p → p ∈ accepted := by
  cases target with
  | none => simp
  | some p => simp [Option.filter]

/-- **What becomes of an edit**: it is placed if it qualifies, and passed over otherwise. -/
theorem edit?_fate (accepted : List String) (e : FixEdit) :
    (∃ location span, e.Qualifies cwd (· ∈ accepted) ∧ e.location = some location ∧
        Wire.locate? (.ofDocument d) location = some span ∧
        (fate cwd accepted (.ofDocument d) e).edit? = some ⟨span, e.newText⟩) ∨
      ¬ e.Qualifies cwd (· ∈ accepted) ∧ (fate cwd accepted (.ofDocument d) e).edit? = none := by
  rw [fate]
  cases hother : (e.file?.bind (FilePath.normalText? cwd)).filter
      (fun t ↦ !accepted.contains t) with
  | some t =>
    refine .inr ⟨?_, rfl⟩
    rintro ⟨location, hlocation, -, hfiles⟩
    rw [FixEdit.file?, hlocation, Option.bind_some,
      target_notMem_iff.mpr (Wire.inFiles_iff.mp hfiles)] at hother
    cases hother
  | none =>
    cases hlocation : e.location with
    | none =>
      refine .inr ⟨?_, rfl⟩
      rintro ⟨location, hsome, -⟩
      rw [hlocation] at hsome
      cases hsome
    | some location =>
      rw [FixEdit.file?, hlocation, Option.bind_some] at hother
      have hfiles : Wire.InFiles cwd (· ∈ accepted) location :=
        Wire.inFiles_iff.mpr (target_notMem_iff.mp hother)
      cases hspan : Wire.locate? (.ofDocument d) location with
      | none =>
        refine .inr ⟨?_, by rw [Option.bind_some, hspan]; rfl⟩
        rintro ⟨location', hsome, hstart, -⟩
        rw [hlocation] at hsome
        cases hsome
        rw [← Wire.isSome_locate?_iff, hspan] at hstart
        cases hstart
      | some span =>
        have hstart : Wire.HasStart location :=
          Wire.isSome_locate?_iff.mp (Option.isSome_of_eq_some hspan)
        refine .inl ⟨location, span, ⟨location, hlocation, hstart, hfiles⟩, rfl, hspan, ?_⟩
        rw [Option.bind_some, hspan]
        rfl

theorem qualifies_of_edit? {accepted : List String} {e : FixEdit}
    (h : (fate cwd accepted (.ofDocument d) e).edit?.isSome) :
    e.Qualifies cwd (· ∈ accepted) := by
  by_contra hq
  rcases edit?_fate accepted e with ⟨-, -, hqualifies, -⟩ | ⟨-, hnone⟩
  · exact hq hqualifies
  · rw [hnone] at h
    cases h

theorem realizes_fates (accepted : List String) (es : List FixEdit) :
    Realizes d (·.Qualifies cwd (· ∈ accepted)) es
      ((es.map (fate cwd accepted (.ofDocument d))).filterMap EditFate.edit?) := by
  induction es with
  | nil => exact .nil
  | cons e es ih =>
    rw [List.map_cons]
    rcases edit?_fate accepted e with ⟨location, span, hq, hlocation, hspan, hedit⟩ | ⟨hq, hedit⟩
    · rw [List.filterMap_cons_some hedit]
      exact .taken e location span es _ hq hlocation hspan ih
    · rw [List.filterMap_cons_none hedit]
      exact .passed e es _ hq ih

/-! ## Quick fixes -/

theorem offered_eq (cwd : FilePath) (r : FixRegistry) (d : Document) (gs : List Diagnostic) :
    (offered cwd r d gs).1 = (gs.filter (·.source == analyzerSource)).flatMap fun g ↦
      (r.fixesFor g.id).filterMap (built? cwd r d g) := by
  rw [offered, candidates, List.filterMap_flatMap]
  simp only [List.filterMap_map]
  rfl

/-- **A quick fix replaces text in its document only**, by the edits that qualify; without any there
is none. -/
theorem built?_realizes (cwd : FilePath) (r : FixRegistry) (d : Document) (g : Diagnostic)
    (f : Fix) :
    ∃ ts, Realizes d (·.Qualifies cwd (· ∈ acceptedPaths cwd r d)) f.edits ts ∧
      (built? cwd r d g f).map (·.edit) = if ts = [] then none else some [(d.uri, ts)] := by
  refine ⟨_, realizes_fates (acceptedPaths cwd r d) f.edits, ?_⟩
  rw [built?, ofCandidate?]
  dsimp only
  generalize (f.edits.map (fate cwd (acceptedPaths cwd r d) (.ofDocument d))).filterMap
    EditFate.edit? = ts
  cases ts <;> rfl

end

end QuickFix

end DiagnosticFeed
