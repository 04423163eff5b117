import DiagnosticFeed.CommandLine.Program
import DiagnosticFeed.Proofs.Config.Precedence

/-!
# The printed configuration

The program prints its configuration as a JSON object in which every single setting is told. Read
back and given as arguments, the object gives the settings that it was printed for: each value that
settings can have is found again in the form in which it is told, and as every setting is given,
none is taken from the environment. This is so with any library that keeps to the laws.
-/

namespace DiagnosticFeed.Config

open Datum (valueAt? Distinct Once Passable)

/-! ## Settings that can be had -/

/-- Settings that can be had: from a file, from the environment alone, or from entries that are
given as arguments. -/
inductive Accepted (lib : Library) (s : Settings) : Prop
  | file {disk : Disk} {env : Environment} {p : FilePath} (h : load lib disk env (some p) = .ok s)
  | environment {disk : Disk} {env : Environment} (h : load lib disk env none = .ok s)
  | arguments {disk : Disk} {env : Environment} {o : Entries}
      (h : lib.build disk env o = .ok (.ok s))

section

variable {lib : Library} {k : Workings} {s : Settings}

theorem Accepted.exists_build (h : Accepted lib s) :
    ∃ disk env o, lib.build disk env o = .ok (.ok s) := by
  cases h with
  | @file disk env p h =>
    have hexists : disk.exists? p = true := by
      by_contra hmissing
      rw [load, loadFile_of_missing (by simpa using hmissing)] at h
      cases h
    rw [load, loadFile_eq hexists] at h
    simp only [bind_eq_ok_iff] at h
    obtain ⟨_, -, _, -, _, -, o, -, verdict, hbuild, h⟩ := h
    exact ⟨disk, env, o, by rw [hbuild, ok_of_mapError h]⟩
  | @environment disk env h =>
    obtain ⟨verdict, hbuild, h⟩ := bind_eq_ok_iff.mp h
    exact ⟨disk, env, [], by rw [hbuild, ok_of_mapError h]⟩
  | @arguments disk env o h => exact ⟨disk, env, o, h⟩

theorem Accepted.exists_makes (hlib : lib.WorksBy k) (h : Accepted lib s) :
    ∃ o, k.model.Makes o s := by
  obtain ⟨disk, env, o, h⟩ := h.exists_build
  exact hlib.makes_of_build h

end

/-! ## Giving them as arguments -/

theorem ofEntries_eq_map (entries : Json.Object) :
    Datum.ofEntries entries = entries.map fun e ↦ (.text e.1, Datum.ofJson e.2) := by
  induction entries with
  | nil => rfl
  | cons e entries ih => rw [Datum.ofEntries, ih, List.map_cons]

theorem distinct_ofJson {depth : Nat} {v : Json.Value} (h : Json.Plain depth v) :
    Distinct (Datum.ofJson v) := by
  induction h with
  | @obj depth entries hkeys _ ih =>
    rw [Datum.ofJson, ofEntries_eq_map]
    refine .map (fun key ↦ ?_) fun e he ↦ ?_
    · have hcount : (entries.map fun e ↦ (Datum.text e.1, Datum.ofJson e.2)).countP
          (·.1.isText key) = (entries.map Prod.fst).count key := by
        rw [List.countP_map, List.count, List.countP_map]
        rfl
      rw [Once, hcount]
      exact List.nodup_iff_count_le_one.mp hkeys key
    · obtain ⟨e', he', rfl⟩ := List.mem_map.mp he
      exact ih e' he'
  | _ => exact .leaf (by simp [Datum.ofJson])

section

variable {lib : Library} {k : Workings} {s : Settings}

theorem mem_sections {e : Datum × Datum} (h : e ∈ Datum.ofEntries s.sections) :
    e = (.text "analyzer", Datum.ofJson s.analyzer.toJson) ∨
      e = (.text "logging", Datum.ofJson s.log.toJson) := by
  rw [ofEntries_eq_map] at h
  simpa [Settings.sections] using h

theorem isPlain_sections : Workings.IsPlain (Datum.ofEntries s.sections) := by
  intro e he
  rcases mem_sections he with rfl | rfl <;> exact ⟨_, rfl, by decide⟩

theorem nameOf_of_mem_sections (hk : k.Lawful) {key : String} {d : Datum}
    (h : (Datum.text key, d) ∈ Datum.ofEntries s.sections) :
    key ∈ sectionNames ∧ k.nameOf key = key := by
  have hmem : key ∈ sectionNames := by
    rcases mem_sections h with heq | heq <;> cases heq <;> decide
  exact ⟨hmem, hk.nameOf_self key hmem⟩

theorem distinct_sections (hsound : Sound s) : Distinct (.map (Datum.ofEntries s.sections)) :=
  distinct_ofJson (plain_toJson hsound)

theorem fileValue?_sections (hk : k.Lawful) (hsound : Sound s) (l : Leaf) :
    k.fileValue? (Datum.ofEntries s.sections) l = some (l.datum (l.get s)) := by
  rw [Workings.fileValue?_of_exact hk isPlain_sections (distinct_sections hsound)
    fun key d h _ ↦ (nameOf_of_mem_sections hk h).2]
  cases l <;> rfl

theorem usual_sections (hk : k.Lawful) (hsound : Sound s) :
    k.Usual (Datum.ofEntries s.sections) where
  plain := isPlain_sections
  passable l := by
    refine ⟨_, rfl, fun d hd ↦ ?_⟩
    rw [Workings.lookup_arguments_of_exact hk isPlain_sections (distinct_sections hsound)
      (fun key d h _ ↦ (nameOf_of_mem_sections hk h).2) l.sectionName_mem] at hd
    cases l <;> cases hd
    case fileEnabled | file =>
      refine ⟨_, rfl, fun inner hinner ↦ ?_⟩
      cases hinner
      exact ⟨_, rfl, fun _ _ ↦ trivial⟩
    all_goals exact ⟨_, rfl, fun _ _ ↦ trivial⟩

/-- **The sections give the settings that they tell**, whatever the environment has for them. -/
theorem build_sections (hk : k.Lawful) (hlib : lib.WorksBy k) (hsound : Sound s)
    {env : Environment} (hleaves : NamesLeaves env) (disk : Disk) :
    lib.build disk env (Datum.ofEntries s.sections) = .ok (.ok s) := by
  obtain ⟨verdict, hbuild, hverdict⟩ := hlib.build disk isPlain_sections hleaves
  have htaken (l : Leaf) :
      k.taken l (k.given? (Datum.ofEntries s.sections) env l) = some (l.get s) := by
    -- What is given as an argument counts before what the environment has.
    rw [Workings.given?, fileValue?_sections hk hsound]
    exact hk.check_datum (hsound l)
  have hknown (key : String) : ¬k.Stranger (Datum.ofEntries s.sections) key := by
    rintro ⟨⟨d, hd⟩, hstrange⟩
    obtain ⟨hmem, hname⟩ := nameOf_of_mem_sections hk hd
    rw [hname] at hstrange
    exact hstrange hmem
  have hmakes := (Workings.Usual.makes_iff (usual_sections hk hsound) hk (distinct_sections hsound)
    hleaves s).mpr ⟨hknown, htaken⟩
  rw [hbuild, (hverdict s).mpr hmakes]

end

/-! ## The configuration that is printed -/

/-- What sound settings are like, setting by setting where there is something to say of them. -/
structure Tidy (s : Settings) : Prop where
  nonblank : Text.isAllBlank s.analyzer.executable = false
  unpadded : Text.Unpadded s.analyzer.executable.toList
  debounceMs : 0 ≤ s.analyzer.debounceMs ∧ s.analyzer.debounceMs ≤ 10000
  maxDiagnostics : 1 ≤ s.analyzer.maxDiagnostics ∧ s.analyzer.maxDiagnostics ≤ 10000

theorem Sound.tidy {s : Settings} (h : Sound s) : Tidy s where
  nonblank := (h .executable).2.isAllBlank (h .executable).1
  unpadded := (h .executable).2
  debounceMs := h .debounceMs
  maxDiagnostics := h .maxDiagnostics

theorem printed_of_dryRun {w : CommandLine.World} {a : CommandLine.Arguments} {s : Settings}
    {text : String} (hgoes : w.outputFault = none) (hformat : a.format.isSome = true)
    (hdry : a.dryRun = true) (h : CommandLine.configuration w a = .ok s)
    (htext : w.library.dump s = .ok text) :
    (CommandLine.run w a).exit = .ok .ok ∧
      (CommandLine.run w a).printed = { stdout := CommandLine.line text } := by
  rw [CommandLine.run, if_pos hformat, CommandLine.Outcome.delivered, hgoes, CommandLine.perform,
    if_pos hdry, CommandLine.tryConfiguration, h]
  simp [htext]

/-- Arguments none of which is given in the form in which it is told. -/
def looseArguments : Entries :=
  [(.text "analyzer", .map [(.text "executable_path", .text "  zig\t"),
      (.text "debounce_ms", .text "0012"), (.text "max_diagnostics", .bool true),
      (.text "temp_dir", .text "a//b/./c")]),
    (.text "logging", .map [(.text "file", .map [(.text "enabled", .int 1)])])]

/-- The settings that they give. -/
def looseSettings : Settings where
  analyzer :=
    { executable := "zig", debounceMs := 12, maxDiagnostics := 1,
      scratch := ⟨.relative, ["a", "b", "c"]⟩ }
  log := { fileEnabled := true }

/-- Variables for two settings, neither of which holds a value for its setting. -/
def invalidVariables : Environment :=
  [("SURGE_ANALYZER__DEBOUNCE_MS", "x"), ("surge_logging__level", "loud")]

end DiagnosticFeed.Config
