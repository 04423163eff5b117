import DiagnosticFeed.Config.Library
import DiagnosticFeed.Proofs.Paths
import DiagnosticFeed.Text.LetterCase

/-!
# Single settings

Settings lie in sections, one of which has a section inside it. Each single setting has a path of
names, a variable that is named after the path, and a value that it has when nothing is given.
-/

namespace DiagnosticFeed.Config

/-- The single settings. -/
inductive Leaf where
  | executable
  | debounceMs
  | maxDiagnostics
  | scratch
  | language
  | level
  | format
  | fileEnabled
  | file
  deriving DecidableEq

namespace Leaf

def all : List Leaf :=
  [executable, debounceMs, maxDiagnostics, scratch, language, level, format, fileEnabled, file]

theorem mem_all (l : Leaf) : l ∈ all := by
  cases l <;> decide

instance (p : Leaf → Prop) [DecidablePred p] : Decidable (∀ l, p l) :=
  decidable_of_iff (∀ l ∈ all, p l) ⟨fun h l ↦ h l l.mem_all, fun h l _ ↦ h l⟩

/-! ## Where they lie -/

/-- The section that a setting lies in. -/
def sectionName : Leaf → String
  | executable | debounceMs | maxDiagnostics | scratch | language => "analyzer"
  | level | format | fileEnabled | file => "logging"

/-- The name of a setting in the innermost section that it lies in. -/
def name : Leaf → String
  | executable => "executable_path"
  | debounceMs => "debounce_ms"
  | maxDiagnostics => "max_diagnostics"
  | scratch => "temp_dir"
  | language => "language_id"
  | level => "level"
  | format => "format"
  | fileEnabled => "enabled"
  | file => "path"

/-- The names that lead to a setting inside its section. -/
def place : Leaf → List String
  | fileEnabled => ["file", fileEnabled.name]
  | file => ["file", file.name]
  | l => [l.name]

def path (l : Leaf) : List String :=
  l.sectionName :: l.place

theorem sectionName_eq (l : Leaf) : l.sectionName = "analyzer" ∨ l.sectionName = "logging" := by
  cases l <;> simp [sectionName]

theorem sectionName_mem (l : Leaf) : l.sectionName ∈ sectionNames := by
  cases l <;> decide

theorem place_ne_nil (l : Leaf) : l.place ≠ [] := by
  cases l <;> simp [place]

/-! ## Their values -/

/-- The values of a setting. -/
abbrev Value : Leaf → Type
  | executable | language => String
  | debounceMs | maxDiagnostics => Int
  | scratch | file => FilePath
  | level => Log.Level
  | format => Log.Format
  | fileEnabled => Bool

def get : (l : Leaf) → Settings → l.Value
  | executable, s => s.analyzer.executable
  | debounceMs, s => s.analyzer.debounceMs
  | maxDiagnostics, s => s.analyzer.maxDiagnostics
  | scratch, s => s.analyzer.scratch
  | language, s => s.analyzer.language
  | level, s => s.log.level
  | format, s => s.log.format
  | fileEnabled, s => s.log.fileEnabled
  | file, s => s.log.file

theorem exists_get (v : (l : Leaf) → l.Value) :
    ∃ settings : Settings, ∀ l, l.get settings = v l := by
  refine ⟨⟨⟨v .executable, v .debounceMs, v .maxDiagnostics, v .scratch, v .language⟩,
    ⟨v .level, v .format, v .fileEnabled, v .file⟩⟩, fun l ↦ ?_⟩
  cases l <;> rfl

/-- The value of a setting for which nothing is given. -/
def usual (l : Leaf) : l.Value :=
  l.get {}

/-- What the values of a setting are like: the name of the executable has no blanks around it and is
not empty, numbers are within their bounds, and paths have proper components only. -/
def Sound : (l : Leaf) → l.Value → Prop
  | executable, name => name ≠ "" ∧ Text.Unpadded name.toList
  | debounceMs, n => 0 ≤ n ∧ n ≤ 10000
  | maxDiagnostics, n => 1 ≤ n ∧ n ≤ 10000
  | scratch, p | file, p => p.WellFormed
  | language, _ | level, _ | format, _ | fileEnabled, _ => True

/-- A value of a setting in the form in which it is told. -/
def datum : (l : Leaf) → l.Value → Datum
  | executable, s | language, s => .text s
  | debounceMs, n | maxDiagnostics, n => .int n
  | scratch, p | file, p => .text p.toText
  | level, x => .text x.name
  | format, x => .text x.name
  | fileEnabled, b => .bool b

theorem sound_usual (l : Leaf) : l.Sound l.usual := by
  cases l
  case executable =>
    refine ⟨by decide, ?_, ?_⟩
    · rintro c ⟨⟩
      rfl
    · rintro c ⟨⟩
      rfl
  case debounceMs => exact ⟨by decide, by decide⟩
  case maxDiagnostics => exact ⟨by decide, by decide⟩
  case scratch => exact (by decide : FilePath.WellFormed ⟨.root, ["tmp", "surge-vscode"]⟩)
  case file => exact (by decide : FilePath.WellFormed ⟨.relative, ["surge-diagnostics.log"]⟩)
  all_goals exact trivial

/-- The name of an executable is what is left of a text once it is trimmed, unless that is
nothing. -/
theorem sound_executableOf (d : Datum) : executable.Sound (executableOf d) := by
  have husual : executable.Sound defaultExecutable := executable.sound_usual
  cases d with
  | text s =>
    rw [executableOf]
    split
    · exact husual
    · next hne =>
      refine ⟨by simpa using hne, ?_⟩
      rw [Text.trimmed, String.toList_ofList]
      exact Text.unpadded_trim s.toList
  | _ => exact husual

/-- Such a name stands for itself. -/
theorem executableOf_text {name : String} (h : executable.Sound name) :
    executableOf (.text name) = name := by
  obtain ⟨hne, hunpadded⟩ := h
  have htrimmed : Text.trimmed name = name := by
    rw [Text.trimmed, Text.trim_eq_self hunpadded, String.ofList_toList]
  rw [executableOf, htrimmed]
  exact if_neg (by simpa using hne)

end Leaf

/-- Settings all of whose values are sound. -/
def Sound (s : Settings) : Prop :=
  ∀ l : Leaf, l.Sound (l.get s)

/-! ## Variables -/

/-- The variable for a single setting, in lower case. -/
def Leaf.variable_ (l : Leaf) : String :=
  "surge_" ++ "__".intercalate l.path

/-- Whether a name is one of a variable for settings, by its start in lower case. -/
def IsOurs (name : String) : Prop :=
  "surge_".toList <+: name.toList

/-- All variables for settings are variables for single settings. -/
def NamesLeaves (env : Environment) : Prop :=
  ∀ e ∈ env, IsOurs (Text.lower e.1) → ∃ l : Leaf, Text.lower e.1 = l.variable_

theorem Leaf.variable_inj {l l' : Leaf} (h : l.variable_ = l'.variable_) : l = l' := by
  have hall : ∀ l l' : Leaf, l.variable_ = l'.variable_ → l = l' := by decide +kernel
  exact hall l l' h

theorem Leaf.isOurs_variable (l : Leaf) : IsOurs l.variable_ := by
  rw [IsOurs, variable_, String.toList_append]
  exact List.prefix_append _ _

end DiagnosticFeed.Config
