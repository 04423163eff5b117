import DiagnosticFeed.Proofs.Config.Installed
import DiagnosticFeed.Proofs.Config.Unforeseen

/-!
# Where single settings come from

A single setting is what the file gives for it, or else what the environment gives, or else the
usual value, also where other settings of its section come from elsewhere. Only the value that
counts is checked.

This is so with any library that keeps to the laws, for files of a usual form, without parameters at
the outermost level and with mappings where sections should be, and for environments in which
variables set single settings only.
-/

namespace DiagnosticFeed.Config

open Datum (lookup valueAt? overEntries Passable Clear Once)

namespace Workings

variable (k : Workings)

def fileValue? (o : Entries) (l : Leaf) : Option Datum :=
  valueAt? l.path (.map (k.arguments o))

/-- What the environment gives for a single setting. -/
def ambient? (env : Environment) (l : Leaf) : Option Datum :=
  valueAt? l.path (.map (k.environment env))

/-- The value of a single setting that counts, if there is one. -/
def given? (o : Entries) (env : Environment) (l : Leaf) : Option Datum :=
  (k.fileValue? o l).or (k.ambient? env l)

/-- A value counts for a single setting: that of the file, or else the text of a variable for it, or
else none. -/
inductive Counts (o : Entries) (env : Environment) (l : Leaf) : Option Datum → Prop
  | file {d : Datum} (h : k.fileValue? o l = some d) : Counts o env l (some d)
  | variable_ {e : String × String} (h : k.fileValue? o l = none) (he : e ∈ env)
      (hname : Text.lower e.1 = l.variable_) : Counts o env l (some (.text e.2))
  | neither (h : k.fileValue? o l = none) (hnone : ∀ e ∈ env, Text.lower e.1 ≠ l.variable_) :
      Counts o env l none

/-- A key of the outermost level that is not taken for the name of a section. -/
def Stranger (o : Entries) (key : String) : Prop :=
  (∃ d, (Datum.text key, d) ∈ o) ∧ k.nameOf key ∉ sectionNames

/-- The usual form of a file: keys are text, none is like a parameter, and what leads to single
settings are mappings. -/
structure Usual (o : Entries) : Prop where
  plain : IsPlain o
  passable : ∀ l : Leaf, Passable l.path (.map (k.arguments o))

variable {k} {o : Entries} {env : Environment}

/-- Under the exact names of sections a file gives what stands there. -/
theorem lookup_arguments_of_exact (hk : k.Lawful) (hplain : IsPlain o)
    (hdistinct : Datum.Distinct (.map o))
    (hexact : ∀ key d, (Datum.text key, d) ∈ o → k.nameOf key ∈ sectionNames → k.nameOf key = key)
    {name : String} (hname : name ∈ sectionNames) :
    lookup name (k.arguments o) = lookup name o := by
  have hsorts := hk.arguments hplain
  cases hfound : lookup name (k.arguments o) with
  | none =>
    cases hgiven : lookup name o with
    | none => rfl
    | some d =>
      have hkept := hsorts.kept _ d (Datum.mem_of_lookup hgiven)
      rw [hk.nameOf_self name hname] at hkept
      exact absurd hfound hkept
  | some d =>
    obtain ⟨key, hmem, rfl⟩ := hsorts.given name d hfound
    rw [hexact key d hmem hname]
    exact (hdistinct.lookup_of_mem hmem).symm

/-- So for each single setting it gives what stands at the end of its path. -/
theorem fileValue?_of_exact (hk : k.Lawful) (hplain : IsPlain o)
    (hdistinct : Datum.Distinct (.map o))
    (hexact : ∀ key d, (Datum.text key, d) ∈ o → k.nameOf key ∈ sectionNames → k.nameOf key = key)
    (l : Leaf) : k.fileValue? o l = valueAt? l.path (.map o) := by
  rw [fileValue?, Leaf.path, valueAt?, valueAt?,
    lookup_arguments_of_exact hk hplain hdistinct hexact l.sectionName_mem]

theorem Lawful.counts_given? (hk : k.Lawful) (hleaves : NamesLeaves env) (l : Leaf) :
    k.Counts o env l (k.given? o env l) := by
  have hambient : IsAmbient env l (k.ambient? env l) := (hk.environment hleaves).ambient l
  rw [given?]
  cases hfile : k.fileValue? o l with
  | some d => exact .file hfile
  | none =>
    rw [Option.none_or]
    cases hgiven : k.ambient? env l with
    | none =>
      rw [hgiven] at hambient
      exact .neither hfile hambient
    | some d =>
      rw [hgiven] at hambient
      obtain ⟨e, he, hname, rfl⟩ := hambient
      exact .variable_ hfile he hname

/-- What leads to single settings in a file are mappings with each key at most once. -/
theorem Usual.clear (husual : k.Usual o) (hk : k.Lawful) (hdistinct : Datum.Distinct (.map o))
    (l : Leaf) : Clear l.path (.map (k.arguments o)) := by
  have hsorts := hk.arguments husual.plain
  refine ⟨_, rfl, hsorts.once _ l.sectionName_mem, fun d hd ↦ ?_⟩
  obtain ⟨key, hmem, -⟩ := hsorts.given _ d hd
  have hinner : d.Distinct := by
    cases hdistinct with
    | leaf hleaf => exact absurd rfl (hleaf o)
    | map hkeys hvalues => exact hvalues _ hmem
  refine hinner.clear ?_
  obtain ⟨o', heq, hpass⟩ := husual.passable l
  cases heq
  exact hpass d hd

theorem Usual.known_iff (husual : k.Usual o) (hk : k.Lawful) (hleaves : NamesLeaves env) :
    (∀ key, lookup key (overEntries (k.arguments o) (k.environment env)) ≠ none →
      key ∈ sectionNames) ↔ ∀ key, ¬k.Stranger o key := by
  have hsorts := hk.arguments husual.plain
  simp only [Ne, Datum.lookup_overEntries_eq_none_iff, not_and_or]
  constructor
  · rintro hknown key ⟨⟨d, hd⟩, hstrange⟩
    exact hstrange (hknown _ (.inl (hsorts.kept key d hd)))
  · rintro hnone key (hkey | hkey)
    · obtain ⟨d, hd⟩ := Option.ne_none_iff_exists'.1 hkey
      obtain ⟨key', hmem, rfl⟩ := hsorts.given key d hd
      by_contra hstrange
      exact hnone key' ⟨⟨d, hmem⟩, hstrange⟩
    · exact (hk.environment hleaves).known key hkey

/-- What is made of a file over the environment is what the checks make of the values that
count. -/
theorem Usual.makes_iff (husual : k.Usual o) (hk : k.Lawful) (hdistinct : Datum.Distinct (.map o))
    (hleaves : NamesLeaves env) (s : Settings) :
    k.model.Makes (overEntries (k.arguments o) (k.environment env)) s ↔
      (∀ key, ¬k.Stranger o key) ∧ ∀ l : Leaf, k.taken l (k.given? o env l) = some (l.get s) := by
  have hmirrors := hk.environment hleaves
  have hmerged : ∀ l : Leaf,
      Passable l.path (.map (overEntries (k.arguments o) (k.environment env))) ∧
        valueAt? l.path (.map (overEntries (k.arguments o) (k.environment env))) =
          k.given? o env l := by
    intro l
    have hclear := husual.clear hk hdistinct l
    have hpass := hmirrors.passable l
    have hleaf : ∀ o', valueAt? l.path (.map (k.environment env)) ≠ some (.map o') := by
      intro o' h
      have hambient := hmirrors.ambient l
      rw [h] at hambient
      obtain ⟨e, -, -, heq⟩ := hambient
      cases heq
    have hmerge := Datum.valueAt?_mergedOver hclear hpass hleaf
    rw [Datum.mergedOver] at hmerge
    exact ⟨Datum.passable_mergedOver hclear hpass, hmerge⟩
  rw [model_makes_iff fun l ↦ (hmerged l).1, husual.known_iff hk hleaves]
  simp only [(hmerged _).2]

end Workings

/-! ## Loading -/

section

variable {lib : Library} {k : Workings} {disk : Disk} {env : Environment} {p : FilePath}
  {s : String} {o : Entries}

theorem entriesOf_of_isPlain (h : Workings.IsPlain o) : entriesOf p (.map o) = .ok o := by
  refine if_pos (List.all_eq_true.2 fun e he ↦ ?_)
  obtain ⟨key, htext, -⟩ := h e he
  rw [htext]
  rfl

end

/-! A file in the working directory, whose value for the quiet period counts. -/

def samplePath : FilePath :=
  ⟨.relative, ["c.yaml"]⟩

def sampleDisk (s : String) : Disk :=
  ⟨⟨.root, ["w"]⟩, [("/w/c.yaml", .text s)], [], []⟩

def sampleText : String :=
  "analyzer: \x7bdebounce_ms: 7\x7d\n"

def sampleEntries : Entries :=
  [(.text "analyzer", .map [(.text "debounce_ms", .int 7)])]

/-- Variables for two settings; that for the quiet period holds no number. -/
def sampleEnvironment : Environment :=
  [("SURGE_ANALYZER__DEBOUNCE_MS", "x"), ("SURGE_ANALYZER__MAX_DIAGNOSTICS", "3")]

theorem read_sampleText : Library.installed.read sampleText = .ok (.map sampleEntries) := by
  have hread : Yaml.read sampleText = .ok (.map sampleEntries) :=
    Datum.eq_ok_of_same (by decide +kernel)
  rw [Library.installed_read, hread]
  rfl

end DiagnosticFeed.Config
