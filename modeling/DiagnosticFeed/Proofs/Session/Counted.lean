import DiagnosticFeed.Proofs.Metrics.Ledgers
import DiagnosticFeed.Proofs.Session.Books

/-!
# Counting in binary64 numbers

A session counts in whole numbers, where the counters of `Metrics.Metric` add binary64 numbers. Up
to `2 ^ 53` that is the same. All that a session ever adds to one of its counters is a natural
number, so there is a ledger of binary64 numbers to which the same was added in the same order, and
this has the same total under every label set whose total is not larger.

The runs in flight are not among the counters: they also become fewer.
-/

namespace DiagnosticFeed

namespace Ledger

/-- To a ledger of binary64 numbers the same was added as to one of whole numbers. -/
inductive Mirrors : Ledger Float → Ledger Int → Prop
  | nil : Mirrors [] []
  | add {l : Ledger Float} {exact : Ledger Int} (h : Mirrors l exact) (labels : Labels) (n : Nat) :
    Mirrors (l.add labels (Decimal.ofRatio n 1)) (exact.add labels n)

section

variable {l : Ledger Float} {exact : Ledger Int}

theorem Mirrors.held (h : Mirrors l exact) : ∃ counts : Ledger Nat,
    Keyed.Held l counts ∧ ∀ labels, exact.total labels = counts.total labels := by
  induction h with
  | nil => exact ⟨[], .nil, fun _ ↦ rfl⟩
  | add h labels n ih =>
    obtain ⟨counts, hheld, htotal⟩ := ih
    refine ⟨counts.add labels n, hheld.bump labels ⟨Decimal.zero_le_ofRatio n,
      Decimal.value?_ofRatio⟩, fun labels' ↦ ?_⟩
    rw [total_add, total_add, htotal, htotal]
    split
    · exact (Nat.cast_add _ _).symm
    · rfl

/-- **Up to `2 ^ 53`, both ledgers have the same totals.** -/
theorem Mirrors.value?_total (h : Mirrors l exact) {labels : Labels}
    (hle : exact.total labels ≤ 2 ^ 53) :
    Decimal.value? (l.total labels) = some (exact.total labels : ℚ) := by
  obtain ⟨counts, hheld, htotal⟩ := h.held
  rw [htotal] at hle ⊢
  exact (hheld.getD labels).value (by exact_mod_cast hle)

end

/-- Some ledger of binary64 numbers mirrors a ledger. -/
def Mirrored (exact : Ledger Int) : Prop :=
  ∃ l, Mirrors l exact

theorem Mirrored.add {exact : Ledger Int} (h : exact.Mirrored) (labels : Labels) (n : Nat) :
    (exact.add labels n).Mirrored :=
  h.imp' _ fun _ h ↦ h.add labels n

end Ledger

/-- All counters can be mirrored in binary64 numbers. -/
structure Metrics.Mirrored (m : Metrics Int) : Prop where
  runs : m.runs.Mirrored
  discarded : m.discarded.Mirrored
  failures : m.failures.Mirrored
  published : m.published.Mirrored

namespace Metrics.Mirrored

variable {m : Metrics Int} (h : m.Mirrored)
include h

/-- Times, and the runs in flight, are no counters. -/
theorem aside (startedAt : Option Time) (inFlight : Ledger Int)
    (durations : Keyed Labels (List Float)) :
    ({ m with startedAt, inFlight, durations } : Metrics Int).Mirrored :=
  ⟨h.runs, h.discarded, h.failures, h.published⟩

theorem fail (word : String) : (m.fail word).Mirrored :=
  { h with failures := h.failures.add _ 1 }

theorem publish (count : Nat) :
    ({ m with published := m.published.add [] (count : Int) } : Metrics Int).Mirrored :=
  { h with published := h.published.add _ count }

theorem discard : ({ m with discarded := m.discarded.add [] 1 } : Metrics Int).Mirrored :=
  { h with discarded := h.discarded.add _ 1 }

theorem start :
    ({ m with runs := m.runs.add [] 1, inFlight := m.inFlight.add [] 1 } : Metrics Int).Mirrored :=
  { h with runs := h.runs.add _ 1 }

end Metrics.Mirrored

namespace Session

/-! ## What is added in one step -/

section

variable {s : Session} (a : Attempt) (d : Document) (b : Begun) (t : Target)
  (snap : Option FilePath) (o : Except Failure (Option Answer)) (p : FilePath) (text : String)
  (bound : Option String)

theorem metrics_foldl_log (ns : List Log.Notice) :
    (ns.foldl (fun (s : Session) n ↦ s.log bound n) s).bench.metrics = s.bench.metrics := by
  induction ns generalizing s with
  | nil => rfl
  | cons n ns ih => exact ih

theorem mirrored_refuse {bench : Bench} (h : bench.metrics.Mirrored) (directory : Option String)
    (e : Failure) : (bench.refuse bound directory e).2.metrics.Mirrored := by
  rw [Bench.refuse]
  cases Client.refusal directory e with
  | executableMissing =>
    cases htold : bench.client.told <;> simp only [Bench.missExecutable, htold] <;> exact h.fail _
  | directoryMissing => exact h.fail _
  | other => exact h.fail _
  | unforeseen => exact h

theorem mirrored_takeUp {bench : Bench} (h : bench.metrics.Mirrored) (directory : Option String)
    (run : Run) (failure : Option Failure) :
    (bench.takeUp bound directory run failure).2.metrics.Mirrored := by
  cases failure with
  | none => exact h.start
  | some e => exact mirrored_refuse bound h directory e

theorem mirrored_finish (h : s.bench.metrics.Mirrored) (begun : Option Begun) (r : Result) :
    (s.finish a begun r).bench.metrics.Mirrored := by
  cases begun with
  | none => exact h
  | some b => exact h.aside _ _ _

theorem mirrored_noteAnswer (h : s.bench.metrics.Mirrored) (answer : Answer) :
    (s.noteAnswer bound answer).bench.metrics.Mirrored := by
  rw [noteAnswer]
  split <;> split <;> first | exact h | exact h.fail _

theorem mirrored_publish (h : s.bench.metrics.Mirrored) (version : Int) (stdout : String) :
    (s.publish bound d version t stdout).1.bench.metrics.Mirrored := by
  rw [publish]
  cases (Wire.intake s.cwd (s.registry.invalidate d.uri) s.nextDiagnostic d t stdout).failure <;>
    exact h.publish _

theorem mirrored_conclude (h : s.bench.metrics.Mirrored) :
    (s.conclude a d b t o).bench.metrics.Mirrored := by
  match o with
  | .error e => exact mirrored_finish a h _ _
  | .ok none => exact mirrored_finish a h _ _
  | .ok (some answer) =>
    rw [conclude]
    split
    · exact mirrored_finish a (mirrored_publish d t _ (mirrored_noteAnswer _ h answer) _ _) _ _
    · refine mirrored_finish a ?_ _ _
      exact h.discard

theorem mirrored_afterRun (h : s.bench.metrics.Mirrored) :
    (s.afterRun a d b t snap o).bench.metrics.Mirrored := by
  cases snap with
  | some p => exact h
  | none => exact mirrored_conclude a d b t o h

theorem mirrored_launch (h : s.bench.metrics.Mirrored) :
    (s.launch a d b t snap).bench.metrics.Mirrored := by
  rw [launch]
  split
  · exact mirrored_afterRun a d b t snap _ h
  · exact h.aside _ _ _

theorem mirrored_enter (h : s.bench.metrics.Mirrored) (run : Run) (directory : Option String)
    (failure : Option Failure) :
    (s.enter a d b t snap run directory failure).bench.metrics.Mirrored := by
  have htaken := mirrored_takeUp (s.boundIn a) h directory run failure
  rw [enter]
  dsimp only
  split
  · exact htaken
  · exact mirrored_afterRun a d b t snap _ htaken
  · exact mirrored_afterRun a d b t snap _ htaken

theorem mirrored_begin (h : s.bench.metrics.Mirrored) :
    (s.begin_ a d).bench.metrics.Mirrored := by
  have htouched : (s.bench.metrics.touch s.now).Mirrored := h.aside _ _ _
  rw [begin_]
  split
  · dsimp only
    split
    · exact mirrored_launch a d _ _ none htouched
    · exact htouched
  · exact mirrored_finish a h none _

theorem mirrored_makeRoom (h : s.bench.metrics.Mirrored) :
    (s.makeRoom a b t p text).bench.metrics.Mirrored := by
  rw [makeRoom]
  split
  · refine mirrored_finish a ?_ _ _
    exact h
  · exact h

theorem mirrored_write (h : s.bench.metrics.Mirrored) :
    (s.write a d b t p text).bench.metrics.Mirrored := by
  rw [write]
  split
  · refine mirrored_finish a ?_ _ _
    exact h
  · refine mirrored_launch a d b t _ ?_
    exact h

theorem mirrored_endRun (h : s.bench.metrics.Mirrored) (run : Run) :
    (s.endRun a d b t snap run).bench.metrics.Mirrored := by
  have hended : (s.bench.finish (s.boundIn a) run t.path).2.metrics.Mirrored := by
    rw [Bench.finish]
    cases run.waitFault <;> exact h.aside _ _ _
  exact mirrored_afterRun a d b t snap _ hended

theorem mirrored_clean (h : s.bench.metrics.Mirrored) :
    (s.clean a d b t p o).bench.metrics.Mirrored := by
  rw [clean]
  refine mirrored_conclude a d b t o ?_
  split
  · rw [metrics_foldl_log]
    exact h
  · exact h

end

theorem mirrored_step {s : Session} (h : s.bench.metrics.Mirrored) (i : Nat) :
    (s.step i).bench.metrics.Mirrored := by
  rcases s.step_eq_self_or i with ⟨hsame, -⟩ | ⟨a, d, ha, hd, hcan⟩
  · rwa [hsame]
  · rw [step_eq ha hd, if_pos hcan]
    obtain ⟨i, doc, origin, stage⟩ := a
    cases stage with
    | created => exact mirrored_begin _ d h
    | makingRoom b t p text => exact mirrored_makeRoom _ b t p text h
    | writing b t p text => exact mirrored_write _ d b t p text h
    | spawning b t snap run directory failure =>
      exact mirrored_enter _ d b t snap h run directory failure
    | running b t snap run due order => exact mirrored_endRun _ d b t snap h run
    | cleaning b t p o => exact mirrored_clean _ d b t o p h
    | ended b r => exact h
    | settled b r => exact h

/-- **The counters of a session can always be mirrored** in binary64 numbers. -/
theorem mirrored {s₀ : Session} (h₀ : s₀.Opened) (acts : List Action) :
    (s₀.after acts).bench.metrics.Mirrored := by
  induction acts using List.reverseRecOn with
  | nil =>
    obtain ⟨disk, settings, documents, workspace, runs, rfl⟩ := h₀
    exact ⟨⟨[], .nil⟩, ⟨[], .nil⟩, ⟨[], .nil⟩, ⟨[], .nil⟩⟩
  | append_singleton acts e ih =>
    rw [after_concat]
    by_cases he : ∀ i, e ≠ .step i
    · rw [(uncounted_act _ he).metrics]
      exact ih
    · obtain ⟨i, rfl⟩ : ∃ i, e = .step i := by simpa using he
      exact mirrored_step ih i

end Session

end DiagnosticFeed
