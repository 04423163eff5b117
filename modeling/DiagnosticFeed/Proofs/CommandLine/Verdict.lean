import DiagnosticFeed.Proofs.CommandLine.Opening
import DiagnosticFeed.Proofs.Session.Convergence

/-!
# How a check ends

The exit code of a check and its report are both read off what is displayed in the end, each in its
own way. Since the session of a check is left alone, what is displayed is what was published, once
for each name. So the exit code tells trouble, errors or neither by what was published for the files
that were asked about, and the report lists the same diagnostics, file by file.
-/

namespace DiagnosticFeed.CommandLine

open Session (Action Alone Parsed Published)

/-! ## Waiting -/

/-- A limit is over before a session is idle. -/
def TimesOut (s : Session) (limit : Schedule.Limit) : Prop :=
  limit.seconds.isNotPositive = true ∨
    (s.busy || s.hasPending) = true ∧
      ∃ span ∈ limit.span?, s.now + span ≤ (Session.waitIdle { state := s }).state.now

instance (s : Session) (limit : Schedule.Limit) : Decidable (TimesOut s limit) :=
  inferInstanceAs (Decidable (_ ∨ _ ∧ ∃ span ∈ limit.span?, _))

section

variable {s : Session} {limit : Schedule.Limit}

theorem waitAtMost_of_timesOut (h : TimesOut s limit) :
    ∃ e, (Session.waitAtMost limit { state := s }).1 = .error e := by
  rw [Session.waitAtMost]
  dsimp only
  by_cases hpositive : limit.seconds.isNotPositive = true
  · rw [if_pos hpositive]
    exact ⟨_, rfl⟩
  · obtain ⟨hwaits, span, hspan, hlate⟩ := h.resolve_left hpositive
    rw [if_neg hpositive, Option.mem_def.mp hspan]
    dsimp only
    rw [if_neg (by simp [hwaits, hlate])]
    exact ⟨_, rfl⟩

theorem waitAtMost_of_not_timesOut (h : ¬TimesOut s limit) :
    Session.waitAtMost limit { state := s } = (.ok (), Session.waitIdle { state := s }) := by
  rw [TimesOut, not_or] at h
  obtain ⟨hpositive, hnever⟩ := h
  rw [Session.waitAtMost]
  dsimp only
  rw [if_neg hpositive]
  cases hspan : limit.span? with
  | none => rfl
  | some span =>
    refine if_pos ?_
    cases hwaits : s.busy || s.hasPending with
    | false => simp
    | true =>
      have hearly : (Session.waitIdle { state := s }).state.now < s.now + span :=
        Int.not_le.mp fun hlate ↦ hnever ⟨hwaits, span, hspan, hlate⟩
      simp [hearly]

theorem await_of_timesOut (h : TimesOut s limit) : (await s limit).inTime = false := by
  obtain ⟨e, he⟩ := waitAtMost_of_timesOut h
  rw [await]
  dsimp only
  rw [he]

theorem await_of_not_timesOut (h : ¬TimesOut s limit) :
    await s limit = ⟨(Session.waitIdle { state := s }).state.stop, true⟩ := by
  rw [await, waitAtMost_of_not_timesOut h]

end

/-! ## Reading off what is displayed -/

section

variable {s : Session} {r : CheckRequest} {withFixes : Bool}

theorem missing_eq_nil_iff : missing s = [] ↔ ∀ d ∈ s.documents, hasResult s d = true := by
  simp [missing]

theorem results_of_missing (h : missing s = []) :
    results s withFixes = s.documents.map (resultOf s withFixes) := by
  rw [results, List.filter_eq_self.mpr (missing_eq_nil_iff.mp h)]

theorem verdict_eq_trouble_iff : verdict s r = .trouble ↔
    s.bench.client.isUnavailable = true ∨ ∃ d ∈ s.documents, hasResult s d = false := by
  have hmissing : (!(missing s).isEmpty) = true ↔ ∃ d ∈ s.documents, hasResult s d = false := by
    rw [Bool.not_eq_true', Bool.eq_false_iff, ne_eq, List.isEmpty_iff, missing_eq_nil_iff]
    simp
  rw [verdict, ← hmissing, ← Bool.or_eq_true]
  split
  · next h => simp [h]
  · next h => split <;> simp [h]

theorem verdict_eq_findings_iff (h : verdict s r ≠ .trouble) :
    verdict s r = .findings ↔ hasErrors (results s r.withFixes) = true := by
  rw [verdict] at h ⊢
  split at h
  · exact absurd rfl h
  · next hfine =>
    rw [if_neg hfine]
    split <;> simp [*]

theorem missing_of_verdict (h : verdict s r ≠ .trouble) : missing s = [] := by
  rw [ne_eq, verdict_eq_trouble_iff, not_or] at h
  rw [missing_eq_nil_iff]
  simpa using h.2

theorem hasErrors_results (h : missing s = []) : hasErrors (results s withFixes) = true ↔
    ∃ d ∈ s.documents, ∃ g ∈ s.shown d, g.severity = .error := by
  rw [results_of_missing h]
  simp [hasErrors, resultOf]

end

/-! ## Reports -/

/-- The entries that a report has for a file. -/
def listed (item : Json.Value) : List Json.Value :=
  ((item.object?.bind fun o ↦ (Json.Object.field o "diagnostics").array?)).getD []

/-- Whether an entry of a report says that it is an error. -/
def saysError (entry : Json.Value) : Bool :=
  (entry.object?.bind fun o ↦ (Json.Object.field o "severity").string?) == some "error"

/-- An entry of a report has all fields of a diagnostic, and otherwise at most its quick fixes. -/
def Describes (g : Diagnostic) (entry : Json.Value) : Prop :=
  ∃ more : Json.Object, entry = .obj (g.entries ++ more) ∧ ∀ x ∈ more, x.1 = "fixes"

/-- A report has an entry for each of some diagnostics of a file, in their order, and no other. -/
def ListsAll (d : Document) (gs : List Diagnostic) (item : Json.Value) : Prop :=
  ∃ entries, item = .obj [("path", .str (pathText d)), ("uri", .str d.uri),
    ("diagnostics", .arr entries)] ∧ List.Forall₂ Describes gs entries

theorem saysError_of_describes {g : Diagnostic} {entry : Json.Value} (h : Describes g entry) :
    saysError entry = true ↔ g.severity = .error := by
  obtain ⟨more, rfl, -⟩ := h
  have hfield : Json.Object.field (g.entries ++ more) "severity" = .str g.severity.word := rfl
  rw [saysError, Json.Value.object?, Option.bind_some, hfield]
  cases g.severity <;> decide

theorem any_saysError {gs : List Diagnostic} {entries : List Json.Value}
    (h : List.Forall₂ Describes gs entries) :
    entries.any saysError = true ↔ ∃ g ∈ gs, g.severity = .error := by
  induction h with
  | nil => simp
  | cons hentry _ ih =>
    rw [List.any_cons, Bool.or_eq_true, ih, saysError_of_describes hentry]
    simp

theorem any_saysError_listed {d : Document} {gs : List Diagnostic} {item : Json.Value}
    (h : ListsAll d gs item) :
    (listed item).any saysError = true ↔ ∃ g ∈ gs, g.severity = .error := by
  obtain ⟨entries, rfl, hentries⟩ := h
  exact any_saysError hentries

theorem describes_toJson (f : Finding) : Describes f.diagnostic f.toJson := by
  refine ⟨_, rfl, ?_⟩
  cases f.fixes <;> simp

theorem listsAll_resultOf (s : Session) (withFixes : Bool) (d : Document) :
    ListsAll d (s.shown d) (resultOf s withFixes d).toJson := by
  refine ⟨_, rfl, ?_⟩
  rw [resultOf, List.map_map, List.forall₂_map_right_iff]
  exact List.forall₂_same.mpr fun g _ ↦ describes_toJson _

/-! ## The course of a check -/

namespace Checking

variable {c : Checking} {documents : List Document} {s : Session} {acts : List Action}
  {d : Document} {p : Publication}

/-- Time is out before the session of a check is idle. -/
def IsLate (c : Checking) (s : Session) : Prop :=
  TimesOut s c.limit

instance (c : Checking) (s : Session) : Decidable (c.IsLate s) :=
  inferInstanceAs (Decidable (TimesOut s c.limit))

/-- What happens in a check whose session is idle in time: the actions that it takes by itself. -/
structure Course (c : Checking) (documents : List Document) (s : Session) (acts : List Action) :
    Prop extends c.Starts documents s where
  inTime : ¬c.IsLate s
  own : ∀ e ∈ acts, e.isOwn = true
  waited : (Session.waitIdle { state := s }).state = s.after acts

/-- **What a check can meet with** that leaves it without a result: a file that cannot be read, too
little time, an analyzer that is missing in the end, or a file under whose name nothing was
published. -/
inductive Trouble (c : Checking) : Prop
  | unreadable (lacks : c.Lacks)
  | late (documents : List Document) (s : Session) (starts : c.Starts documents s)
    (late : c.IsLate s)
  | unavailable (documents : List Document) (s : Session) (acts : List Action)
    (course : c.Course documents s acts)
    (gone : (s.after acts).bench.client.availability = .unavailable)
  | unpublished (documents : List Document) (s : Session) (acts : List Action)
    (course : c.Course documents s acts) (d : Document) (document : d ∈ documents)
    (nothing : ∀ p, ¬Published s acts d.uri p)

theorem Starts.eq_act (h : c.Starts documents s) :
    ∃ s₀ : Session, s₀.Opened ∧ s₀.documents = documents ∧
      s = s₀.act (.start (List.range documents.length)) := by
  obtain ⟨level, disk, -, hstart⟩ := h.started
  refine ⟨sessionFor disk c.settings.analyzer c.folders documents c.world.runs,
    ⟨_, _, _, _, _, rfl⟩, rfl, ?_⟩
  rw [Session.act, hstart]
  rfl

theorem Course.alone (h : c.Course documents s acts) : Alone s acts := by
  obtain ⟨s₀, hopened, -, rfl⟩ := h.eq_act
  exact hopened.alone _ h.own

theorem Course.documents_eq (h : c.Course documents s acts) :
    (s.after acts).stop.documents = documents := by
  obtain ⟨s₀, hopened, rfl, rfl⟩ := h.eq_act
  refine (Session.documents_after_of_isOwn h.own).trans ?_
  exact (s₀.aside_act (e := .start _) rfl).documents

/-- Left to itself until it is idle, a session has a course. -/
theorem Starts.exists_course (h : c.Starts documents s) (hin : ¬c.IsLate s) :
    ∃ acts, c.Course documents s acts := by
  obtain ⟨acts, hown, hwaited⟩ := Session.ran_waitIdle { state := s }
  exact ⟨acts, h, hin, hown, hwaited⟩

theorem Course.outcome (h : c.Course documents s acts) :
    c.outcome.exit = .ok (verdict (s.after acts).stop c.request) ∧
      c.outcome.printed = printed (s.after acts).stop c.request := by
  rcases c.outcome_cases with ⟨hlacks, -⟩ | ⟨documents', s', level, hstarts, houtcome⟩
  · exact absurd hlacks h.not_lacks
  · obtain ⟨rfl, rfl⟩ := h.toStarts.unique hstarts
    rw [houtcome, outcomeOf, c.limited]
    dsimp only
    rw [await_of_not_timesOut h.inTime, h.waited]
    exact ⟨rfl, rfl⟩

theorem exit_of_isLate (h : c.Starts documents s) (hlate : c.IsLate s) :
    c.outcome.exit = .ok .trouble := by
  rcases c.outcome_cases with ⟨hlacks, -⟩ | ⟨documents', s', level, hstarts, houtcome⟩
  · exact absurd hlacks h.not_lacks
  · obtain ⟨rfl, rfl⟩ := h.unique hstarts
    rw [houtcome, outcomeOf, c.limited]
    dsimp only
    rw [await_of_timesOut hlate]
    rfl

theorem enabled_of_available {s : Session} (h : s.bench.client.availability ≠ .unavailable) :
    s.enabled = true := by
  rw [Session.enabled, Client.isUnavailable]
  simpa using h

theorem isUnavailable_stop {s : Session} (h : s.enabled = true) :
    s.stop.bench.client.isUnavailable = false := by
  rw [Session.enabled, Bool.not_eq_true'] at h
  exact h

theorem Course.hasResult_iff (h : c.Course documents s acts)
    (hon : (s.after acts).enabled = true) (d : Document) :
    hasResult (s.after acts).stop d = true ↔ ∃ p, Published s acts d.uri p := by
  rw [hasResult, Keyed.has, Option.isSome_iff_exists]
  change (∃ ds, Keyed.get? (s.after acts).bench.display d.uri = some ds) ↔ _
  simp only [h.alone.displayed_iff hon]
  constructor
  · rintro ⟨-, p, hp, -⟩
    exact ⟨p, hp⟩
  · rintro ⟨p, hp⟩
    exact ⟨_, p, hp, rfl⟩

theorem Course.shown_eq (h : c.Course documents s acts) (hon : (s.after acts).enabled = true)
    (hp : Published s acts d.uri p) : (s.after acts).stop.shown d = p.diagnostics := by
  have hshown := (h.alone.displayed_iff hon).mpr ⟨p, hp, rfl⟩
  change (Keyed.get? (s.after acts).bench.display d.uri).getD [] = p.diagnostics
  rw [hshown]
  rfl

/-- **When a check that is in time ends in trouble.** -/
theorem Course.exit_eq_trouble_iff (h : c.Course documents s acts) :
    c.outcome.exit = .ok .trouble ↔
      (s.after acts).bench.client.availability = .unavailable ∨
        ∃ d ∈ documents, ∀ p, ¬Published s acts d.uri p := by
  rw [h.outcome.1, Except.ok.injEq, verdict_eq_trouble_iff, h.documents_eq]
  by_cases hgone : (s.after acts).bench.client.availability = .unavailable
  · have hunavailable : (s.after acts).stop.bench.client.isUnavailable = true := by
      change (s.after acts).bench.client.isUnavailable = true
      rw [Client.isUnavailable, hgone]
      rfl
    simp [hgone, hunavailable]
  · have hon := enabled_of_available hgone
    have havailable := isUnavailable_stop hon
    have hlacks : ∀ d, hasResult (s.after acts).stop d = false ↔
        ∀ p, ¬Published s acts d.uri p := by
      intro d
      rw [← Bool.not_eq_true, h.hasResult_iff hon, not_exists]
    simp [havailable, hgone, hlacks]

/-- Among what was published is an error. -/
def FindsError (s : Session) (acts : List Action) : Prop :=
  ∃ p ∈ s.publications acts, ∃ g ∈ p.diagnostics, g.severity = .error

/-- An entry of a report for a file lists what was published under its name, and this is what the
analyzer printed in a run for the file. -/
def ReportsOn (s : Session) (acts : List Action) (d : Document) (item : Json.Value) : Prop :=
  ∃ past p future, Published s acts d.uri p ∧ acts = past ++ .step p.id :: future ∧
    Parsed s past p ∧ ListsAll d p.diagnostics item

/-- How a check ends that meets with no trouble. -/
structure Concludes (c : Checking) (documents : List Document) (s : Session) (acts : List Action) :
    Prop where
  findings : c.outcome.exit = .ok .findings ↔ FindsError s acts
  fine : c.outcome.exit = .ok .ok ↔ ¬FindsError s acts
  /-- The report has one entry for each file, in the order in which they are asked about, and tells
  of an error if and only if the exit code does. -/
  report : c.request.style = some .json → ∃ items,
    c.outcome.printed.stdout =
        line ((Json.Value.obj [("results", .arr items)]).indented .ascii) ∧
      List.Forall₂ (ReportsOn s acts) documents items ∧
      ((items.any fun item ↦ (listed item).any saysError) = true ↔
        c.outcome.exit = .ok .findings)

theorem Course.findsError_iff (h : c.Course documents s acts)
    (hon : (s.after acts).enabled = true)
    (hall : ∀ d ∈ documents, ∃ p, Published s acts d.uri p) :
    FindsError s acts ↔
      ∃ d ∈ documents, ∃ g ∈ (s.after acts).stop.shown d, g.severity = .error := by
  have hdocuments : s.documents = documents := by
    rw [← h.documents_eq]
    exact (Session.documents_after_of_isOwn h.own).symm
  constructor
  · rintro ⟨p, hp, g, hg, herror⟩
    obtain ⟨past, e, future, hacts, hpublishes⟩ := Session.mem_publications.mp hp
    obtain ⟨-, d, t, answer, hpublication⟩ := Session.publishes_of_publication? hpublishes
    have hpast : (s.after past).documents = s.documents :=
      Session.documents_after_of_isOwn fun e' he' ↦
        h.own e' (hacts ▸ List.mem_append_left _ he')
    have hd := hpublication.document
    rw [hpast] at hd
    have hnamed : s.isNamed p.doc d.uri = true := Session.isNamed_iff.mpr ⟨d, hd, rfl⟩
    refine ⟨d, hdocuments ▸ List.mem_of_getElem? hd, g, ?_, herror⟩
    rw [h.shown_eq hon ⟨hp, hnamed⟩]
    exact hg
  · rintro ⟨d, hd, g, hg, herror⟩
    obtain ⟨p, hp⟩ := hall d hd
    rw [h.shown_eq hon hp] at hg
    exact ⟨p, hp.1, g, hg, herror⟩

/-! ### Without trouble -/

theorem Course.enabled (h : c.Course documents s acts) (hno : ¬c.Trouble) :
    (s.after acts).enabled = true :=
  enabled_of_available fun hgone ↦ hno (.unavailable documents s acts h hgone)

theorem Course.published (h : c.Course documents s acts) (hno : ¬c.Trouble) (hd : d ∈ documents) :
    ∃ p, Published s acts d.uri p := by
  by_contra hnone
  exact hno (.unpublished documents s acts h d hd (not_exists.mp hnone))

theorem Course.verdict_ne_trouble (h : c.Course documents s acts) (hno : ¬c.Trouble) :
    verdict (s.after acts).stop c.request ≠ .trouble := by
  intro htrouble
  have hexit := h.outcome.1
  rw [htrouble, h.exit_eq_trouble_iff] at hexit
  rcases hexit with hgone | ⟨d, hd, hnone⟩
  · exact hno (.unavailable documents s acts h hgone)
  · exact hno (.unpublished documents s acts h d hd hnone)

theorem Course.exit_eq_findings_iff (h : c.Course documents s acts) (hno : ¬c.Trouble) :
    c.outcome.exit = .ok .findings ↔ FindsError s acts := by
  have hverdict := h.verdict_ne_trouble hno
  rw [h.outcome.1, Except.ok.injEq, verdict_eq_findings_iff hverdict,
    hasErrors_results (missing_of_verdict hverdict), h.documents_eq,
    h.findsError_iff (h.enabled hno) fun d hd ↦ h.published hno hd]

theorem Course.stdout_eq (h : c.Course documents s acts) (hno : ¬c.Trouble)
    (hstyle : c.request.style = some .json) : c.outcome.printed.stdout =
      line ((Json.Value.obj [("results", .arr (documents.map fun d ↦
        (resultOf (s.after acts).stop c.request.withFixes d).toJson))]).indented .ascii) := by
  have havailable := isUnavailable_stop (h.enabled hno)
  rw [h.outcome.2, printed, if_neg (Bool.eq_false_iff.mp havailable), hstyle,
    results_of_missing (missing_of_verdict (h.verdict_ne_trouble hno)), h.documents_eq]
  dsimp only
  rw [report, List.map_map]
  rfl

theorem Course.reportsOn (h : c.Course documents s acts) (hno : ¬c.Trouble) (hd : d ∈ documents)
    (withFixes : Bool) : ReportsOn s acts d (resultOf (s.after acts).stop withFixes d).toJson := by
  obtain ⟨p, hp⟩ := h.published hno hd
  obtain ⟨past, future, hacts, hpublishes⟩ := hp.moment
  refine ⟨past, p, future, hp, hacts, Session.parsed_of_publication? h.alone.fresh hpublishes, ?_⟩
  rw [← h.shown_eq (h.enabled hno) hp]
  exact listsAll_resultOf _ withFixes d

theorem Course.concludes (h : c.Course documents s acts) (hno : ¬c.Trouble) :
    c.Concludes documents s acts := by
  have hfindings := h.exit_eq_findings_iff hno
  refine ⟨hfindings, ?_, fun hstyle ↦ ⟨_, h.stdout_eq hno hstyle, ?_, ?_⟩⟩
  · have hverdict := h.verdict_ne_trouble hno
    rw [← hfindings, h.outcome.1]
    cases hv : verdict (s.after acts).stop c.request with
    | trouble => exact absurd hv hverdict
    | ok => simp
    | findings => simp
  · rw [List.forall₂_map_right_iff]
    exact List.forall₂_same.mpr fun d hd ↦ h.reportsOn hno hd _
  · rw [hfindings, h.findsError_iff (h.enabled hno) fun d hd ↦ h.published hno hd, List.any_map,
      List.any_eq_true]
    simp only [Function.comp_apply, any_saysError_listed (listsAll_resultOf _ _ _)]

/-- A check of files where there is one, in which the analyzer finds an error once. -/
def sampleCheck (files : List FilePath) : Checking where
  world := {
    disk := ⟨⟨.root, ["w"]⟩, [("/w/a.sg", .text "let x")], ["/w"], []⟩
    runs := [{ stdout := fun _ ↦ .text Session.oneFinding }] }
  arguments := {}
  request := { files := files, style := some .json }
  settings := {}
  folders := [⟨.root, ["w"]⟩]
  limit := defaultLimit
  configured := by rfl
  ordinary := by
    intro access h
    cases h
  located := rfl
  limited := rfl
  printable := rfl

/-- The file that is there, by two of its paths. -/
def sampleFiles : List FilePath :=
  [⟨.relative, ["a.sg"]⟩, ⟨.root, ["w", "a.sg"]⟩]

/-- The session that is started for it. -/
def startedSample : Session :=
  (sessionFor (sampleCheck sampleFiles).world.disk {} (sampleCheck sampleFiles).folders
    [Session.sampleDocument, Session.sampleDocument] (sampleCheck sampleFiles).world.runs).act
    (.start [0, 1])

theorem starts_sample : (sampleCheck sampleFiles).Starts
    [Session.sampleDocument, Session.sampleDocument] startedSample where
  opened := by
    rw [← openFiles_eq_ok_iff]
    have hfiles : (openFiles (sampleCheck sampleFiles).world.disk "surge" sampleFiles).toOption =
        some [Session.sampleDocument, Session.sampleDocument] := by decide +kernel
    cases hopen : openFiles (sampleCheck sampleFiles).world.disk "surge" sampleFiles with
    | error failed =>
      rw [hopen] at hfiles
      cases hfiles
    | ok documents =>
      rw [hopen] at hfiles
      cases hfiles
      exact hopen
  started := ⟨.warning, _, rfl, Session.start_of_ordinary (sampleCheck sampleFiles).ordinary _⟩

end Checking

end DiagnosticFeed.CommandLine
