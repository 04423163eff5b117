import DiagnosticFeed.Json.Reader
import DiagnosticFeed.Proofs.Config.Data
import DiagnosticFeed.Proofs.Config.Leaf

/-!
# What the library is relied on for

The library checks data for values of a few kinds, makes a class of settings of a mapping field by
field, takes the entries of the outermost level for sections, and reads variables. How it does so is
its own business: `Workings` are its parts, and what is known of them are laws. With these, settings
are made of entries if and only if every single setting is what the check of its kind makes of the
data at the end of its path, and no name at the outermost level is unknown.
-/

namespace DiagnosticFeed

/-- The sections of settings under their names. -/
def Settings.sections (s : Settings) : Json.Object :=
  [("analyzer", s.analyzer.toJson), ("logging", s.log.toJson)]

namespace Config

open Datum (lookup valueAt? overEntries Passable Once)

/-! ## Classes of settings -/

/-- A field that a class of settings declares. -/
structure Declared (α : Type) where
  name : String
  Value : Type
  usual : Value
  /-- Whether a value is taken from data. -/
  Takes : Datum → Value → Prop
  get : α → Value

/-- Whether a field has the value that entries give for it, or the usual one if they give none. -/
def Declared.IsFrom {α : Type} (f : Declared α) (o : Entries) (x : α) : Prop :=
  match lookup f.name o with
  | none => f.get x = f.usual
  | some d => f.Takes d (f.get x)

/-- A class of settings. -/
structure Model (α : Type) where
  fields : List (Declared α)
  /-- Whether only names of fields may be given. -/
  isClosed : Bool := false

/-- Settings of a class are made of entries, field by field. -/
def Model.Makes {α : Type} (m : Model α) (o : Entries) (x : α) : Prop :=
  (∀ f ∈ m.fields, f.IsFrom o x) ∧
    (m.isClosed = true → ∀ key, lookup key o ≠ none → key ∈ m.fields.map (·.name))

def Model.field {α β : Type} (m : Model β) (name : String) (usual : β) (get : α → β) :
    Declared α where
  name := name
  Value := β
  usual := usual
  Takes d x := ∃ o, d = .map o ∧ m.Makes o x
  get := get

/-- The parts of the library. What a check finds in data, it finds or it does not; how the faults
are told is left open. -/
structure Workings where
  int : Datum → Option Int
  bool : Datum → Option Bool
  text : Datum → Option String
  path : Datum → Option FilePath
  level : Datum → Option Log.Level
  format : Datum → Option Log.Format
  /-- The name that a key of the outermost level is taken for. -/
  nameOf : String → String
  /-- What arguments give for each section. -/
  arguments : Entries → Entries
  /-- What variables give for each section. -/
  environment : Environment → Entries

namespace Workings

variable (k : Workings)

/-- A whole number within bounds. -/
def intBetween (least most : Int) (d : Datum) : Option Int :=
  (k.int d).filter fun n ↦ least ≤ n && n ≤ most

/-- The check for what is given for a single setting. -/
def check : (l : Leaf) → Datum → Option l.Value
  | .executable => fun d ↦ k.text (.text (executableOf d))
  | .debounceMs => k.intBetween 0 10000
  | .maxDiagnostics => k.intBetween 1 10000
  | .scratch | .file => k.path
  | .language => k.text
  | .level => k.level
  | .format => k.format
  | .fileEnabled => k.bool

/-- The value of a setting for which this is given, if anything; there is none if it is not
valid. -/
def taken (l : Leaf) : Option Datum → Option l.Value
  | none => some l.usual
  | some d => k.check l d

def field {α : Type} (l : Leaf) (get : α → l.Value) : Declared α where
  name := l.name
  Value := l.Value
  usual := l.usual
  Takes d v := k.check l d = some v
  get := get

def analyzerModel : Model AnalyzerSettings where
  fields := [k.field .executable (·.executable), k.field .debounceMs (·.debounceMs),
    k.field .maxDiagnostics (·.maxDiagnostics), k.field .scratch (·.scratch),
    k.field .language (·.language)]

/-- Whether there is a log file, and its path. -/
def logFileModel : Model (Bool × FilePath) where
  fields := [k.field .fileEnabled (·.1), k.field .file (·.2)]

def logModel : Model LogSettings where
  fields := [k.field .level (·.level), k.field .format (·.format),
    k.logFileModel.field "file" (Leaf.fileEnabled.usual, Leaf.file.usual)
      fun s ↦ (s.fileEnabled, s.file)]

def model : Model Settings where
  fields := [k.analyzerModel.field "analyzer" {} (·.analyzer), k.logModel.field "logging" {} (·.log)]
  isClosed := true

/-! ## Laws -/

/-- Entries of the outermost level of which none is like a parameter of the library. -/
def IsPlain (o : Entries) : Prop :=
  ∀ e ∈ o, ∃ key, e.1 = .text key ∧ key.toList.head? ≠ some '_'

/-- Entries are the given ones under the names that their keys are taken for. Where several keys are
taken for one section, one of them counts. -/
structure Sorts (o found : Entries) : Prop where
  given : ∀ key d, lookup key found = some d → ∃ key', (.text key', d) ∈ o ∧ k.nameOf key' = key
  kept : ∀ key d, (.text key, d) ∈ o → lookup (k.nameOf key) found ≠ none
  once : ∀ name ∈ sectionNames, Once name found

/-- What the environment gives for a single setting: the text of a variable for it, in whichever
letter case, or nothing if it has none. -/
def IsAmbient (env : Environment) (l : Leaf) : Option Datum → Prop
  | some d => ∃ e ∈ env, Text.lower e.1 = l.variable_ ∧ d = .text e.2
  | none => ∀ e ∈ env, Text.lower e.1 ≠ l.variable_

/-- Sections hold what the environment gives for each single setting, and nothing else. -/
structure Mirrors (env : Environment) (below : Entries) : Prop where
  known : ∀ key, lookup key below ≠ none → key ∈ sectionNames
  passable : ∀ l : Leaf, Passable l.path (.map below)
  ambient : ∀ l : Leaf, IsAmbient env l (valueAt? l.path (.map below))

/-- What is known of the parts: a value in its own form is found as it is, paths are proper, the
names of sections are taken for what they are, and arguments and variables give what they say. -/
structure Lawful : Prop where
  int_int : ∀ n, k.int (.int n) = some n
  bool_bool : ∀ b, k.bool (.bool b) = some b
  text_text : ∀ s, k.text (.text s) = some s
  path_text : ∀ s, k.path (.text s) = some (.ofString s)
  wellFormed_of_path : ∀ {d p}, k.path d = some p → p.WellFormed
  level_name : ∀ x : Log.Level, k.level (.text x.name) = some x
  format_name : ∀ x : Log.Format, k.format (.text x.name) = some x
  nameOf_self : ∀ name ∈ sectionNames, k.nameOf name = name
  arguments : ∀ {o}, IsPlain o → k.Sorts o (k.arguments o)
  environment : ∀ {env}, NamesLeaves env → Mirrors env (k.environment env)

end Workings

/-- A library works in such a way. The mappings that it reads have each key once. All settings that
it builds are made of some entries, and from plain arguments and variables for single settings it
builds those that are made of what the arguments give over what the variables give. What it prints
of settings is JSON in which all of them are told. -/
structure Library.WorksBy (lib : Library) (k : Workings) : Prop where
  distinct_of_read : ∀ {s d}, lib.read s = .ok d → d.Distinct
  makes_of_build : ∀ {disk env o s}, lib.build disk env o = .ok (.ok s) → ∃ o', k.model.Makes o' s
  build : ∀ (disk : Disk) {env o}, Workings.IsPlain o → NamesLeaves env →
    ∃ verdict, lib.build disk env o = .ok verdict ∧ ∀ s, verdict = .ok s ↔
      k.model.Makes (overEntries (k.arguments o) (k.environment env)) s
  parse_dump : ∀ {o s text}, k.model.Makes o s → lib.dump s = .ok text →
    Json.parse (text ++ "\n") = .ok (.obj s.sections)

/-! ## Sections -/

section

variable {α β : Type} {o : Entries} {name : String}

/-- The entries of a section; a section that is not there has none. -/
def entriesIn (name : String) (o : Entries) : Entries :=
  match lookup name o with
  | some (.map inner) => inner
  | _ => []

theorem valueAt?_singleton (name : String) (o : Entries) :
    valueAt? [name] (.map o) = lookup name o := by
  rw [valueAt?]
  cases lookup name o <;> rfl

theorem valueAt?_entriesIn {path : List String} (h : path ≠ [])
    (hmap : ∀ d, lookup name o = some d → ∃ inner, d = .map inner) :
    valueAt? (name :: path) (.map o) = valueAt? path (.map (entriesIn name o)) := by
  rw [valueAt?, entriesIn]
  cases hlookup : lookup name o with
  | none =>
    cases path with
    | nil => exact absurd rfl h
    | cons key path => rfl
  | some d =>
    obtain ⟨inner, rfl⟩ := hmap d hlookup
    rfl

theorem exists_map_of_passable {key key' : String} {path : List String} {d : Datum}
    (h : Passable (key :: key' :: path) (.map o)) (hd : lookup key o = some d) :
    ∃ inner, d = .map inner := by
  obtain ⟨o', heq, hinner⟩ := h
  cases heq
  obtain ⟨inner, rfl, -⟩ := hinner d hd
  exact ⟨inner, rfl⟩

theorem passable_entriesIn {key : String} {path : List String}
    (h : Passable (key :: path) (.map o)) :
    Passable path (.map (entriesIn key o)) := by
  obtain ⟨o', heq, hinner⟩ := h
  cases heq
  rw [entriesIn]
  cases hlookup : lookup key o with
  | none => exact Datum.passable_empty path
  | some d =>
    have hd := hinner d hlookup
    cases d with
    | map inner => exact hd
    | _ => exact Datum.passable_empty path

/-- Nothing makes the settings whose fields all have their usual values. -/
theorem Model.makes_nil {m : Model α} {x : α} :
    m.Makes [] x ↔ ∀ f ∈ m.fields, f.get x = f.usual := by
  simp [Makes, Declared.IsFrom]

theorem Model.makes_iff_of_open {m : Model α} (h : m.isClosed = false) {x : α} :
    m.Makes o x ↔ ∀ f ∈ m.fields, f.IsFrom o x := by
  simp [Makes, h]

theorem Model.isFrom_field {m : Model β} {usual : β} {get : α → β} {x : α}
    (husual : ∀ y, m.Makes [] y ↔ y = usual)
    (hmap : ∀ d, lookup name o = some d → ∃ inner, d = .map inner) :
    (m.field name usual get).IsFrom o x ↔ m.Makes (entriesIn name o) (get x) := by
  rw [Declared.IsFrom, entriesIn, field]
  cases hlookup : lookup name o with
  | none => exact (husual _).symm
  | some d =>
    obtain ⟨inner, rfl⟩ := hmap d hlookup
    simp

/-- What a section is taken from is a mapping, if it is there. -/
theorem Model.exists_map_of_isFrom {m : Model β} {usual : β} {get : α → β} {x : α}
    (h : (m.field name usual get).IsFrom o x) :
    ∀ d, lookup name o = some d → ∃ inner, d = .map inner := by
  intro d hd
  rw [Declared.IsFrom, field, hd] at h
  obtain ⟨inner, rfl, -⟩ := h
  exact ⟨inner, rfl⟩

/-- A section is made of its entries, and of none if it is not there. -/
theorem Model.makes_of_isFrom {m : Model β} {usual : β} {get : α → β} {x : α}
    (husual : ∀ y, m.Makes [] y ↔ y = usual) (h : (m.field name usual get).IsFrom o x) :
    m.Makes (entriesIn name o) (get x) :=
  (isFrom_field husual (exists_map_of_isFrom h)).1 h

end

/-! ## Settings -/

namespace Workings

variable {k : Workings} {o : Entries} {s : Settings}

theorem isFrom_field {α : Type} {l : Leaf} {get : α → l.Value} {x : α} :
    (k.field l get).IsFrom o x ↔ k.taken l (valueAt? [l.name] (.map o)) = some (get x) := by
  rw [Declared.IsFrom, field, valueAt?_singleton]
  cases lookup l.name o with
  | none => exact ⟨fun h ↦ congrArg some h.symm, fun h ↦ (Option.some.inj h).symm⟩
  | some d => rfl

theorem analyzerModel_makes_nil {a : AnalyzerSettings} : k.analyzerModel.Makes [] a ↔ a = {} := by
  obtain ⟨executable, debounceMs, maxDiagnostics, scratch, language⟩ := a
  simp [Model.makes_nil, analyzerModel, field, Leaf.usual, Leaf.get]

theorem logFileModel_makes_nil {x : Bool × FilePath} :
    k.logFileModel.Makes [] x ↔ x = (Leaf.fileEnabled.usual, Leaf.file.usual) := by
  obtain ⟨enabled, file⟩ := x
  simp [Model.makes_nil, logFileModel, field]

theorem logModel_makes_nil {x : LogSettings} : k.logModel.Makes [] x ↔ x = {} := by
  obtain ⟨level, format, enabled, file⟩ := x
  simp [Model.makes_nil, logModel, field, Model.field, Leaf.usual, Leaf.get]

theorem analyzerModel_makes_iff : k.analyzerModel.Makes o s.analyzer ↔
    ∀ l : Leaf, l.sectionName = "analyzer" →
      k.taken l (valueAt? l.place (.map o)) = some (l.get s) := by
  rw [Model.makes_iff_of_open rfl]
  simp only [analyzerModel, List.forall_mem_cons, isFrom_field]
  constructor
  · rintro ⟨h₁, h₂, h₃, h₄, h₅, -⟩ l hl
    cases l <;> first | assumption | exact absurd hl (by decide)
  · intro h
    exact ⟨h .executable rfl, h .debounceMs rfl, h .maxDiagnostics rfl, h .scratch rfl,
      h .language rfl, by simp⟩

theorem logModel_makes_iff (hmap : ∀ d, lookup "file" o = some d → ∃ inner, d = .map inner) :
    k.logModel.Makes o s.log ↔ ∀ l : Leaf, l.sectionName = "logging" →
      k.taken l (valueAt? l.place (.map o)) = some (l.get s) := by
  have hinner : ∀ (l : Leaf) (name : String), l.place = ["file", name] →
      valueAt? l.place (.map o) = valueAt? [name] (.map (entriesIn "file" o)) := by
    intro l name hl
    rw [hl, valueAt?_entriesIn (by simp) hmap]
  have hfile : k.logFileModel.Makes (entriesIn "file" o) (s.log.fileEnabled, s.log.file) ↔
      k.taken .fileEnabled (valueAt? Leaf.fileEnabled.place (.map o)) = some s.log.fileEnabled ∧
        k.taken .file (valueAt? Leaf.file.place (.map o)) = some s.log.file := by
    rw [hinner .fileEnabled _ rfl, hinner .file _ rfl, Model.makes_iff_of_open rfl]
    simp [logFileModel, isFrom_field]
  rw [Model.makes_iff_of_open rfl]
  simp only [logModel, List.forall_mem_cons, isFrom_field,
    Model.isFrom_field (fun _ ↦ logFileModel_makes_nil) hmap, hfile]
  constructor
  · rintro ⟨h₁, h₂, ⟨h₃, h₄⟩, -⟩ l hl
    cases l <;> first | assumption | exact absurd hl (by decide)
  · intro h
    exact ⟨h .level rfl, h .format rfl, ⟨h .fileEnabled rfl, h .file rfl⟩, by simp⟩

theorem model_makes_iff_sections : k.model.Makes o s ↔
    ((k.analyzerModel.field "analyzer" {} Settings.analyzer).IsFrom o s ∧
      (k.logModel.field "logging" {} Settings.log).IsFrom o s) ∧
        ∀ key, lookup key o ≠ none → key ∈ sectionNames := by
  refine and_congr ?_ ⟨fun h ↦ h rfl, fun h _ ↦ h⟩
  simp only [model, List.forall_mem_cons]
  simp

/-- **Settings are made one by one**: they are made of entries if and only if all keys at the
outermost level are names of sections and every single setting is what its check makes of the data
at the end of its path. -/
theorem model_makes_iff (hpass : ∀ l : Leaf, Passable l.path (.map o)) :
    k.model.Makes o s ↔ (∀ key, lookup key o ≠ none → key ∈ sectionNames) ∧
      ∀ l : Leaf, k.taken l (valueAt? l.path (.map o)) = some (l.get s) := by
  have hanalyzer : ∀ d, lookup "analyzer" o = some d → ∃ inner, d = .map inner := by
    intro d hd
    exact exists_map_of_passable (hpass .executable) hd
  have hlogging : ∀ d, lookup "logging" o = some d → ∃ inner, d = .map inner := by
    intro d hd
    exact exists_map_of_passable (hpass .level) hd
  have hfile : ∀ d, lookup "file" (entriesIn "logging" o) = some d → ∃ inner, d = .map inner := by
    intro d hd
    have hinner : Passable ["file", "path"] (.map (entriesIn "logging" o)) :=
      passable_entriesIn (hpass .file)
    exact exists_map_of_passable hinner hd
  have hsections : ∀ l : Leaf, valueAt? l.path (.map o) =
      valueAt? l.place (.map (entriesIn l.sectionName o)) := by
    intro l
    refine valueAt?_entriesIn l.place_ne_nil ?_
    cases l <;> assumption
  rw [model_makes_iff_sections, Model.isFrom_field (fun _ ↦ analyzerModel_makes_nil) hanalyzer,
    Model.isFrom_field (fun _ ↦ logModel_makes_nil) hlogging, analyzerModel_makes_iff,
    logModel_makes_iff hfile, and_comm]
  refine and_congr_right fun _ ↦ ⟨?_, fun h ↦ ⟨?_, ?_⟩⟩
  · rintro ⟨ha, hl⟩ l
    rw [hsections]
    rcases l.sectionName_eq with h | h <;> rw [h]
    · exact ha l h
    · exact hl l h
  · intro l hl
    rw [← hl, ← hsections]
    exact h l
  · intro l hl
    rw [← hl, ← hsections]
    exact h l

/-! ## Sound settings -/

/-- **What a check finds is sound.** -/
theorem Lawful.sound_of_check (hk : k.Lawful) {l : Leaf} {d : Datum} {v : l.Value}
    (h : k.check l d = some v) : l.Sound v := by
  have hbetween : ∀ {least most n : Int}, k.intBetween least most d = some n →
      least ≤ n ∧ n ≤ most := by
    intro least most n hn
    simpa using (Option.filter_eq_some_iff.1 hn).2
  cases l
  case executable =>
    cases Option.some.inj ((hk.text_text _).symm.trans h)
    exact Leaf.sound_executableOf d
  case debounceMs => exact hbetween h
  case maxDiagnostics => exact hbetween h
  case scratch => exact hk.wellFormed_of_path h
  case file => exact hk.wellFormed_of_path h
  all_goals exact trivial

theorem Lawful.sound_of_taken (hk : k.Lawful) {l : Leaf} {given : Option Datum} {v : l.Value}
    (h : k.taken l given = some v) : l.Sound v := by
  cases given with
  | none =>
    cases h
    exact l.sound_usual
  | some d => exact hk.sound_of_check h

/-- **All settings are sound**, whatever entries they are made of. -/
theorem Lawful.sound_of_makes (hk : k.Lawful) (h : k.model.Makes o s) : Sound s := by
  obtain ⟨⟨hanalyzer, hlog⟩, -⟩ := model_makes_iff_sections.1 h
  have hanalyzer := Model.makes_of_isFrom (fun _ ↦ analyzerModel_makes_nil) hanalyzer
  have hlog := Model.makes_of_isFrom (fun _ ↦ logModel_makes_nil) hlog
  have hfile := hlog.1 _ (.tail _ (.tail _ (.head _)))
  intro l
  rcases l.sectionName_eq with hl | hl
  · exact hk.sound_of_taken (analyzerModel_makes_iff.1 hanalyzer l hl)
  · exact hk.sound_of_taken ((logModel_makes_iff (Model.exists_map_of_isFrom hfile)).1 hlog l hl)

/-- **A sound value is found again** in the form in which it is told. -/
theorem Lawful.check_datum (hk : k.Lawful) {l : Leaf} {v : l.Value} (h : l.Sound v) :
    k.check l (l.datum v) = some v := by
  have hbetween : ∀ {least most n : Int}, least ≤ n ∧ n ≤ most →
      k.intBetween least most (.int n) = some n := by
    intro least most n hn
    simp [intBetween, hk.int_int, Option.filter, hn]
  have hpath : ∀ {p : FilePath}, p.WellFormed → k.path (.text p.toText) = some p := by
    intro p hp
    rw [hk.path_text, hp.ofString_toText]
  cases l
  case executable =>
    change k.text (.text (executableOf (.text v))) = some v
    rw [Leaf.executableOf_text h, hk.text_text]
  case debounceMs => exact hbetween h
  case maxDiagnostics => exact hbetween h
  case scratch => exact hpath h
  case file => exact hpath h
  case language => exact hk.text_text v
  case level => exact hk.level_name v
  case format => exact hk.format_name v
  case fileEnabled => exact hk.bool_bool v

end Workings

end Config

end DiagnosticFeed
