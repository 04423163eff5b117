import DiagnosticFeed.Proofs.Session.Publication
import DiagnosticFeed.Proofs.Wire.Within

/-!
# Publications are current

An attempt reads its document at its first step and publishes at its last one, and anything can
happen in between. What ties the two ends together is the version alone: it is noted at the first
step, compared at the last, and changes whenever the text does. So a result is published for the
text that it was computed from, or not at all, and its spans lie in the text that it is displayed
for.
-/

namespace DiagnosticFeed

namespace Session

/-- A publication, after some actions, that is for its document as the document is then. -/
structure UpToDate (s₀ : Session) (past : List Action) (p : Publication) (d : Document) : Prop where
  document : (s₀.after past).documents[p.doc]? = some d
  isOpen : d.closed = false
  version : d.version = p.ticket.version
  /-- The version is the one that this attempt noted at its first step; the text is as it was. -/
  noted : ∃ earlier later d₀ b, past = earlier ++ .step p.id :: later ∧
    Begins s₀ earlier p.id p.doc d₀ b ∧ p.ticket = b.ticket ∧ d₀.text = d.text
  within : ∀ g ∈ p.diagnostics, g.Within d
  displayed : (s₀.after (past ++ [.step p.id])).bench.display =
    Keyed.set (s₀.after past).bench.display d.uri p.diagnostics

theorem upToDate_of_publication? {s₀ : Session} (h₀ : s₀.attempts = []) {past : List Action}
    {e : Action} {p : Publication} (h : (s₀.after past).publication? e = some p) :
    e = .step p.id ∧ ∃ d, UpToDate s₀ past p d := by
  obtain ⟨he, d, t, answer, hpublishes⟩ := publishes_of_publication? h
  obtain ⟨a, b, ha, hdoc, hanswer, hticket⟩ := hpublishes.attempt
  obtain ⟨earlier, later, d₀, hpast, hbegins⟩ :=
    begins_of_begun h₀ ha (begun?_of_answer? hanswer)
  rw [attempt?_id ha, hdoc] at hbegins
  rw [attempt?_id ha] at hpast
  refine ⟨he, d, hpublishes.document, hpublishes.closed_eq, hpublishes.version_eq,
    ⟨earlier, later, d₀, b, hpast, hbegins, hticket.symm, ?_⟩, ?_, ?_⟩
  · -- The version at the end is the version at the start, so no change of the text came between.
    have hd := hpublishes.document
    rw [hpast] at hd
    have hversion : d.version = d₀.version := by
      rw [hpublishes.version_eq, ← hticket, hbegins.begun]
      rfl
    exact ((later_between hbegins.document hd).text_eq hversion).symm
  · intro g hg
    rw [hpublishes.diagnostics] at hg
    exact Wire.within_of_mem_intake hg
  · rw [after_concat, hpublishes.found.display, hpublishes.diagnostics]

/-- **Publication is never stale.** In every run, each publication is up to date when it is made,
nothing is put on display without one, and the versions published for a document never go back. -/
theorem publications_upToDate {s₀ : Session} (h₀ : s₀.Opened) (acts : List Action) :
    (∀ past e future, acts = past ++ e :: future →
      (∀ p, (s₀.after past).publication? e = some p →
        e = .step p.id ∧ ∃ d, UpToDate s₀ past p d) ∧
      ((s₀.after past).publication? e = none → ∀ uri,
        Keyed.get? (s₀.after (past ++ [e])).bench.display uri =
            Keyed.get? (s₀.after past).bench.display uri ∨
          Keyed.get? (s₀.after (past ++ [e])).bench.display uri = none)) ∧
      (s₀.publications acts).Pairwise fun p q ↦
        p.doc = q.doc → p.ticket.version ≤ q.ticket.version := by
  refine ⟨?_, publications_versions s₀ acts⟩
  intro past e future _
  refine ⟨fun p hp ↦ upToDate_of_publication? h₀.attempts_eq hp, ?_⟩
  intro hnone uri
  rw [after_concat]
  exact ((bare_of_publication? hnone).2 uri).imp_right And.right

/-! A session with one saved document, for cases that are run through. -/

/-- Analyzer output with one finding, at the start of the text. -/
def oneFinding : String :=
  "\x7b\"diagnostics\":[\x7b\"location\":\x7b\"start_line\":1,\"start_col\":1\x7d\x7d]\x7d"

/-- The document of the sample session. -/
def sampleDocument : Document :=
  { uri := "file:///w/a.sg", text := "let x", path := some ⟨.root, ["w", "a.sg"]⟩ }

/-- A session with one saved document, and what the analyzer prints in its coming runs. -/
def sample (outputs : List String) : Session :=
  open_ ⟨⟨.root, ["w"]⟩, [], [], []⟩ {} [sampleDocument] none
    (outputs.map fun output ↦ { stdout := fun _ ↦ .text output })

theorem opened_sample (outputs : List String) : (sample outputs).Opened :=
  ⟨_, _, _, _, _, rfl⟩

/-- One attempt in the sample session publishes one finding, and is up to date. -/
theorem upToDate_sample :
    ∃ p d, ((sample [oneFinding]).after [.call 0, .step 0, .step 0]).publication? (.step 0) =
        some p ∧
      p.diagnostics.length = 1 ∧
      UpToDate (sample [oneFinding]) [.call 0, .step 0, .step 0] p d := by
  have hfound : (((sample [oneFinding]).after [.call 0, .step 0, .step 0]).publication?
      (.step 0)).map (·.diagnostics.length) = some 1 := by decide +kernel
  rw [Option.map_eq_some_iff] at hfound
  obtain ⟨p, hp, hlength⟩ := hfound
  have hruns := publications_upToDate (opened_sample [oneFinding])
    ([.call 0, .step 0, .step 0] ++ [.step 0])
  obtain ⟨-, d, hd⟩ := (hruns.1 _ _ _ rfl).1 p hp
  exact ⟨p, d, hp, hlength, hd⟩

end Session

end DiagnosticFeed
