import DiagnosticFeed.CommandLine.Program
import DiagnosticFeed.Proofs.Config.Unforeseen

/-!
# A configuration that cannot be had

The commands that need settings answer a configuration that cannot be had with a notice and an exit
code of their own, as far as the failure is foreseen. All other failures come out of the program in
the place of an exit code.
-/

namespace DiagnosticFeed.CommandLine

open Config (Raised Unforeseen)

def Arguments.NeedsSettings (a : Arguments) : Prop :=
  a.dryRun = true ∨ ∃ r, a.command = some (.check r)

section

variable {w : World} {a : Arguments} {config : Option FilePath} {e : Failure}

theorem configuration_eq (hconfig : a.config = config.map some) :
    configuration w a = Config.load w.library w.disk w.environment config := by
  cases config <;> rw [configuration, hconfig] <;> rfl

/-- Nothing else is looked at once settings cannot be had. -/
theorem perform_of_error (hneeds : a.NeedsSettings) (h : configuration w a = .error e) :
    perform w a = misconfigured w a e := by
  rw [perform]
  split
  · rw [tryConfiguration, h]
  · next hdry =>
    obtain ⟨r, hr⟩ := hneeds.resolve_left hdry
    rw [hr]
    simp only [check, h]

/-- Nothing that is told of a configuration is printed, so printing cannot go wrong. -/
theorem delivered_misconfigured : (misconfigured w a e).delivered w = misconfigured w a e := by
  have hempty : (misconfigured w a e).printed.stdout.isEmpty = true := by
    rw [misconfigured]
    split <;> rfl
  rw [Outcome.delivered]
  split
  · rfl
  · exact if_pos hempty

theorem exit_misconfigured_of_isForeseen (h : e.IsForeseen) :
    (misconfigured w a e).exit = .ok .trouble := by
  rw [misconfigured, if_pos (by simpa [Failure.IsForeseen] using h)]
  rfl

theorem exit_misconfigured_of_not_isForeseen (h : ¬e.IsForeseen) :
    (misconfigured w a e).exit = .error e := by
  rw [misconfigured, if_neg (by simpa [Failure.IsForeseen] using h)]
  rfl

/-- **What becomes of a configuration that cannot be had**, whatever library there is. The failure
is foreseen unless it is one of those listed; that the file is missing is told if and only if there
is none, as far as it is not the library that tells this; and the exit code is the one for trouble
if and only if the failure is foreseen, while any other failure takes its place. -/
theorem exit_of_load_eq_error (hconfig : a.config = config.map some)
    (hread : ∀ p ∈ config, w.disk.Readable p) (hneeds : a.NeedsSettings)
    (hload : Config.load w.library w.disk w.environment config = .error e) :
    (e.IsForeseen ↔ ¬Unforeseen w.library w.disk w.environment config e) ∧
      (e.isMissing = true ∧ ¬Raised w.library w.disk w.environment config e ↔
        ∃ p ∈ config, w.disk.exists? p = false) ∧
      ((run w a).exit = .ok .trouble ↔
        a.format.isSome = true ∧ ¬Unforeseen w.library w.disk w.environment config e) ∧
      (a.format.isSome = true → Unforeseen w.library w.disk w.environment config e →
        (run w a).exit = .error e) := by
  have hforeseen : e.IsForeseen ↔ ¬Unforeseen w.library w.disk w.environment config e := by
    simp [Config.unforeseen_iff hread, hload]
  have hrun : a.format.isSome = true → run w a = misconfigured w a e := by
    intro hformat
    rw [run, if_pos hformat, perform_of_error hneeds ((configuration_eq hconfig).trans hload),
      delivered_misconfigured]
  refine ⟨hforeseen, Config.isMissing_iff hread hload, ⟨fun htrouble ↦ ?_, ?_⟩, ?_⟩
  · cases hformat : a.format.isSome with
    | false =>
      rw [run, if_neg (by simp [hformat])] at htrouble
      cases htrouble
    | true =>
      refine ⟨rfl, fun hlisted ↦ ?_⟩
      rw [hrun hformat, exit_misconfigured_of_not_isForeseen hlisted.not_isForeseen] at htrouble
      cases htrouble
  · rintro ⟨hformat, hnot⟩
    rw [hrun hformat]
    exact exit_misconfigured_of_isForeseen (hforeseen.2 hnot)
  · intro hformat hlisted
    rw [hrun hformat]
    exact exit_misconfigured_of_not_isForeseen hlisted.not_isForeseen

end

/-! A variable for the quiet period that holds no number, while there is no file. -/

def wordForNumber : World where
  disk := ⟨⟨.root, ["w"]⟩, [], [], []⟩
  environment := [("SURGE_ANALYZER__DEBOUNCE_MS", "x")]

def notANumber : Failure :=
  .invalidFields [⟨["analyzer", "debounce_ms"], .unparsableInteger⟩]

/-- It comes out of the program in the place of an exit code. -/
theorem exit_wordForNumber :
    Config.load .installed wordForNumber.disk wordForNumber.environment none = .error notANumber ∧
      (run wordForNumber { dryRun := true }).exit = .error notANumber := by
  have hload : Config.load .installed wordForNumber.disk wordForNumber.environment none =
    .error notANumber := by rfl
  have hnone : ({ dryRun := true } : Arguments).config = Option.map some none := rfl
  obtain ⟨-, -, -, hexit⟩ := exit_of_load_eq_error (w := wordForNumber) hnone (by simp) (.inl rfl)
    hload
  exact ⟨hload, hexit rfl (.fields rfl)⟩

/-- So not every failure to have settings is foreseen, nor does each lead to the exit code for
trouble. -/
theorem not_isForeseen_and_trouble :
    ¬ ∀ (w : World) (a : Arguments) (config : Option FilePath) (e : Failure),
      a.config = config.map some → a.format.isSome = true →
      (∀ p ∈ config, w.disk.Readable p) → a.NeedsSettings →
      Config.load w.library w.disk w.environment config = .error e →
        e.IsForeseen ∧ (run w a).exit = .ok .trouble := by
  intro htold
  have hload : Config.load .installed wordForNumber.disk wordForNumber.environment none =
    .error notANumber := by rfl
  obtain ⟨hforeseen, -⟩ := htold wordForNumber { dryRun := true } none notANumber rfl rfl (by simp)
    (.inl rfl) hload
  exact Config.Unforeseen.not_isForeseen (.fields rfl :
    Unforeseen .installed wordForNumber.disk wordForNumber.environment none notANumber) hforeseen

end DiagnosticFeed.CommandLine
