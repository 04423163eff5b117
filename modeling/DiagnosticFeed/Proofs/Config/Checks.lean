import DiagnosticFeed.Config.Installed
import DiagnosticFeed.Proofs.Config.Workings
import DiagnosticFeed.Proofs.Fallible

/-!
# The checks of the installed library

The installed library makes settings of entries field by field, and its checks keep to the laws.
-/

namespace DiagnosticFeed.Config

open Datum (lookup)

def Workings.installed : Workings where
  int d := (Config.int d).toOption
  bool d := (Config.bool d).toOption
  text d := (Config.text d).toOption
  path d := (Config.path d).toOption
  level d := (choice Log.Level.ofName? d).toOption
  format d := (choice Log.Format.ofName? d).toOption
  nameOf key := (sectionNamed? key).getD key
  arguments := sectionsOf
  environment env := (environmentLayer {} env).toOption.getD []

/-! ## Single settings -/

theorem intBetween_eq_ok_iff {least most n : Int} {d : Datum} :
    intBetween least most d = .ok n ↔ int d = .ok n ∧ least ≤ n ∧ n ≤ most := by
  rw [intBetween]
  cases int d with
  | error e => simp [bind, Except.bind]
  | ok m =>
    have hthrow (e : FieldError) : (throw e : Checked PUnit) = .error e := rfl
    simp only [bind, Except.bind, pure, Except.pure, hthrow, Except.ok.injEq]
    by_cases hlow : m < least
    · have hnot : ¬(m = n ∧ least ≤ n ∧ n ≤ most) := by omega
      simp [hlow, hnot]
    · by_cases hhigh : most < m
      · have hnot : ¬(m = n ∧ least ≤ n ∧ n ≤ most) := by omega
        simp [hlow, hhigh, hnot]
      · have hwithin : m = n → least ≤ n ∧ n ≤ most := by omega
        simpa [hlow, hhigh] using hwithin

theorem wellFormed_of_path {d : Datum} {p : FilePath} (h : path d = .ok p) : p.WellFormed := by
  cases d with
  | text s =>
    cases h
    exact FilePath.wellFormed_ofString s
  | _ => cases h

theorem intBetween_toOption (least most : Int) (d : Datum) :
    (intBetween least most d).toOption = Workings.installed.intBetween least most d := by
  refine Option.ext fun n ↦ ?_
  rw [toOption_eq_some_iff, intBetween_eq_ok_iff, Workings.intBetween, Option.filter_eq_some_iff,
    Workings.installed, toOption_eq_some_iff]
  simp

/-! ## Classes of settings -/

section

variable {α β : Type} {place : List String} {o : Entries} {name : String} {x : α}

theorem app_eq_ok_iff {f : Verdict (α → β)} {a : Verdict α} {b : β} :
    Verdict.app f a = .ok b ↔ ∃ g x, f = .ok g ∧ a = .ok x ∧ g x = b := by
  cases f <;> cases a <;> simp [Verdict.app]

/-- A field for a single setting is checked as it is declared. -/
theorem field_eq_ok_iff {l : Leaf} {get : α → l.Value} {check : Datum → Checked l.Value}
    (hcheck : ∀ d, (check d).toOption = Workings.installed.check l d) :
    field place o l.name l.usual check = .ok (get x) ↔
      (Workings.installed.field l get).IsFrom o x := by
  rw [Workings.isFrom_field, valueAt?_singleton, field]
  cases lookup l.name o with
  | none => simp [Workings.taken]
  | some d =>
    rw [Workings.taken, ← hcheck, toOption_eq_some_iff]
    cases hd : check d <;> simp [hd, Verdict.fault]

theorem section_eq_ok_iff {m : Model β} {usual : β} {get : α → β}
    {check : List String → Entries → Verdict β} (hcheck : ∀ place inner y, check place inner = .ok y ↔ m.Makes inner y) :
    section_ place o name usual check = .ok (get x) ↔ (m.field name usual get).IsFrom o x := by
  rw [section_, Declared.IsFrom, Model.field]
  cases lookup name o with
  | none => simp [eq_comm]
  | some d => cases d <;> simp [hcheck, Verdict.fault]

end

section

variable {place : List String} {o : Entries}

theorem analyzerOf_eq_ok_iff {a : AnalyzerSettings} :
    analyzerOf place o = .ok a ↔ Workings.installed.analyzerModel.Makes o a := by
  have hfields : analyzerOf place o = .ok a ↔
      field place o Leaf.executable.name Leaf.executable.usual executable = .ok a.executable ∧
      field place o Leaf.debounceMs.name Leaf.debounceMs.usual (intBetween 0 10000) =
        .ok a.debounceMs ∧
      field place o Leaf.maxDiagnostics.name Leaf.maxDiagnostics.usual (intBetween 1 10000) =
        .ok a.maxDiagnostics ∧
      field place o Leaf.scratch.name Leaf.scratch.usual path = .ok a.scratch ∧
      field place o Leaf.language.name Leaf.language.usual text = .ok a.language := by
    obtain ⟨executable, debounceMs, maxDiagnostics, scratch, language⟩ := a
    simp only [analyzerOf, app_eq_ok_iff]
    constructor
    · rintro ⟨_, _, ⟨_, _, ⟨_, _, ⟨_, _, ⟨_, _, h, h₁, rfl⟩, h₂, rfl⟩, h₃, rfl⟩, h₄, rfl⟩, h₅, heq⟩
      cases h
      cases heq
      exact ⟨h₁, h₂, h₃, h₄, h₅⟩
    · rintro ⟨h₁, h₂, h₃, h₄, h₅⟩
      exact ⟨_, _, ⟨_, _, ⟨_, _, ⟨_, _, ⟨_, _, rfl, h₁, rfl⟩, h₂, rfl⟩, h₃, rfl⟩, h₄, rfl⟩, h₅, rfl⟩
  rw [hfields, Model.makes_iff_of_open rfl]
  simp only [Workings.analyzerModel, List.forall_mem_cons, List.not_mem_nil,
    IsEmpty.forall_iff, implies_true, and_true]
  exact and_congr (field_eq_ok_iff fun _ ↦ rfl) <|
    and_congr (field_eq_ok_iff (intBetween_toOption 0 10000)) <|
    and_congr (field_eq_ok_iff (intBetween_toOption 1 10000)) <|
    and_congr (field_eq_ok_iff fun _ ↦ rfl) (field_eq_ok_iff fun _ ↦ rfl)

theorem logFileOf_eq_ok_iff {x : Bool × FilePath} :
    logFileOf place o = .ok x ↔ Workings.installed.logFileModel.Makes o x := by
  have hfields : logFileOf place o = .ok x ↔
      field place o Leaf.fileEnabled.name Leaf.fileEnabled.usual bool = .ok x.1 ∧
      field place o Leaf.file.name Leaf.file.usual path = .ok x.2 := by
    obtain ⟨enabled, file⟩ := x
    simp only [logFileOf, app_eq_ok_iff]
    constructor
    · rintro ⟨_, _, ⟨_, _, h, h₁, rfl⟩, h₂, heq⟩
      cases h
      cases heq
      exact ⟨h₁, h₂⟩
    · rintro ⟨h₁, h₂⟩
      exact ⟨_, _, ⟨_, _, rfl, h₁, rfl⟩, h₂, rfl⟩
  rw [hfields, Model.makes_iff_of_open rfl]
  simp only [Workings.logFileModel, List.forall_mem_cons, List.not_mem_nil,
    IsEmpty.forall_iff, implies_true, and_true]
  exact and_congr (field_eq_ok_iff fun _ ↦ rfl) (field_eq_ok_iff fun _ ↦ rfl)

theorem logOf_eq_ok_iff {x : LogSettings} :
    logOf place o = .ok x ↔ Workings.installed.logModel.Makes o x := by
  have hfields : logOf place o = .ok x ↔
      field place o Leaf.level.name Leaf.level.usual (choice Log.Level.ofName?) = .ok x.level ∧
      field place o Leaf.format.name Leaf.format.usual (choice Log.Format.ofName?) =
        .ok x.format ∧
      section_ place o "file" (Leaf.fileEnabled.usual, Leaf.file.usual) logFileOf =
        .ok (x.fileEnabled, x.file) := by
    obtain ⟨level, format, enabled, file⟩ := x
    simp only [logOf, app_eq_ok_iff]
    constructor
    · rintro ⟨_, ⟨_, _⟩, ⟨_, _, ⟨_, _, h, h₁, rfl⟩, h₂, rfl⟩, h₃, heq⟩
      cases h
      cases heq
      exact ⟨h₁, h₂, h₃⟩
    · rintro ⟨h₁, h₂, h₃⟩
      exact ⟨_, _, ⟨_, _, ⟨_, _, rfl, h₁, rfl⟩, h₂, rfl⟩, h₃, rfl⟩
  rw [hfields, Model.makes_iff_of_open rfl]
  simp only [Workings.logModel, List.forall_mem_cons, List.not_mem_nil,
    IsEmpty.forall_iff, implies_true, and_true]
  exact and_congr (field_eq_ok_iff fun _ ↦ rfl) <|
    and_congr (field_eq_ok_iff fun _ ↦ rfl) (section_eq_ok_iff fun _ _ _ ↦ logFileOf_eq_ok_iff)

theorem unknownKeys_eq_nil_iff :
    unknownKeys o = [] ↔ ∀ key, lookup key o ≠ none → key ∈ sectionNames := by
  simp only [unknownKeys, List.filter_eq_nil_iff, List.mem_filterMap, Bool.not_eq_true']
  constructor
  · intro h key hkey
    obtain ⟨d, hd⟩ := Option.ne_none_iff_exists'.1 hkey
    have := h key ⟨_, Datum.mem_of_lookup hd, rfl⟩
    simpa using this
  · rintro h key ⟨e, he, hkey⟩
    have htext : e.1.isText key = true := by
      cases hk : e.1 <;> rw [hk] at hkey <;> cases hkey
      exact Datum.isText_text.2 rfl
    have := h key fun hnone ↦ by
      have := Datum.lookup_eq_none_iff.1 hnone e he
      rw [htext] at this
      cases this
    simpa using this

/-- **All settings are made of entries as they are declared.** -/
theorem settingsOf_eq_ok_iff {s : Settings} :
    settingsOf o = .ok s ↔ Workings.installed.model.Makes o s := by
  have hsections : settingsOf o = .ok s ↔
      (section_ [] o "analyzer" {} analyzerOf = .ok s.analyzer ∧
        section_ [] o "logging" {} logOf = .ok s.log) ∧ unknownKeys o = [] := by
    rw [settingsOf]
    cases section_ [] o "analyzer" {} analyzerOf <;> cases section_ [] o "logging" {} logOf <;>
      cases unknownKeys o <;> simp [Verdict.app]
    obtain ⟨analyzer, log⟩ := s
    simp
  rw [hsections, Workings.model_makes_iff_sections, unknownKeys_eq_nil_iff]
  exact and_congr_left' <| and_congr (section_eq_ok_iff fun _ _ _ ↦ analyzerOf_eq_ok_iff)
    (section_eq_ok_iff fun _ _ _ ↦ logOf_eq_ok_iff)

end

end DiagnosticFeed.Config
