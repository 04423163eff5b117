import DiagnosticFeed.Proofs.Session.Current
import DiagnosticFeed.Proofs.Session.OnTrack
import DiagnosticFeed.Proofs.Session.QuietPeriod

/-!
# The last version is displayed in the end

Each change of a text starts a quiet period, which starts an attempt, which publishes unless the
text has changed again. So at any time after a change one of three things is the case: a quiet
period is running, an attempt is under way that has noted the present version or will note it, or
the present version is displayed. A change takes this back to the first; every other action moves it
on in this order or leaves it as it is. When no quiet period is running and no attempt is under way,
only the third is left.
-/

namespace DiagnosticFeed

namespace Session

/-! ## What the analyzer printed -/

/-- An answer is what the analyzer printed in a run of an attempt that ended well. -/
def Printed (s₀ : Session) (acts : List Action) (id : Nat) (b : Begun) (t : Target)
    (answer : Answer) : Prop :=
  ∃ earlier later a snap run due order, acts = earlier ++ later ∧
    (s₀.after earlier).attempt? id = some a ∧ a.stage = .running b t snap run due order ∧
    run.waitFault = none ∧ answer = run.answer t.path

/-- The only way to remove a snapshot with an answer at hand is from a run. -/
theorem Move.run_of_cleaning {s s' : Session} {d : Document} {st : Stage} {b : Begun} {t : Target}
    {p : FilePath} {answer : Answer} (h : Move s d s' st (.cleaning b t p (.ok (some answer)))) :
    ∃ run due order, st = .running b t (some p) run due order ∧ run.waitFault = none ∧
      answer = run.answer t.path := by
  cases h with
  | inPlace _ on inPlace calling =>
    cases calling with
    | pathless _ empty following => cases following
  | written b t p text disk _ written calling =>
    cases calling with
    | pathless _ empty following => cases following
  | missing b t snap run directory e _ cause following => cases following
  | refused b t snap run directory e _ cause following => cases following
  | broken b t snap run directory e _ cause following => cases following
  | lost b t snap run due order message _ fault following => cases following
  | answered b t snap run due order _ fine following =>
    cases following with
    | toClean p kept => exact ⟨run, due, order, rfl, fine, rfl⟩

theorem printed_of_answer? {s₀ : Session} (h₀ : s₀.attempts = []) {acts : List Action} {i : Nat}
    {a : Attempt} {b : Begun} {t : Target} {answer : Answer}
    (h : (s₀.after acts).attempt? i = some a) (hanswer : a.stage.answer? = some (b, t, answer)) :
    Printed s₀ acts i b t answer := by
  -- An answer that is kept while the snapshot is removed comes from the run before.
  have hcleaning : ∀ {p}, a.stage = .cleaning b t p (.ok (some answer)) →
      Printed s₀ acts a.id b t answer := by
    refine attempt_induction h₀ (P := fun acts a ↦ ∀ {p},
      a.stage = .cleaning b t p (.ok (some answer)) → Printed s₀ acts a.id b t answer) ?_ ?_ acts h
    · intro acts a _ hcreated p hp
      rw [hcreated] at hp
      cases hp
    · intro acts e a st ha ih hprogress p hp
      have hold : a.stage = .cleaning b t p (.ok (some answer)) →
          Printed s₀ (acts ++ [e]) a.id b t answer := by
        intro hold
        obtain ⟨earlier, later, a₁, snap, run, due, order, rfl, hrun⟩ := ih hold
        exact ⟨earlier, later ++ [e], a₁, snap, run, due, order, by simp, hrun⟩
      cases hprogress with
      | idle => exact hold hp
      | moved d st step document can move =>
        change st = _ at hp
        rw [hp] at move
        obtain ⟨run, due, order, hstage, hfine, hprinted⟩ := move.run_of_cleaning
        exact ⟨acts, [e], a, some p, run, due, order, rfl, ha, hstage, hfine, hprinted⟩
      | settled b' r settle ended => cases hp
  have hid : a.id = i := attempt?_id h
  rw [hid] at hcleaning
  rcases Stage.answer?_cases hanswer with ⟨run, due, order, hstage, hfine, hprinted⟩ | ⟨p, hstage⟩
  · exact ⟨acts, [], a, none, run, due, order, by simp, h, hstage, hfine, hprinted⟩
  · exact hcleaning hstage

/-- The diagnostics of a publication are what the analyzer printed in a run of the attempt that made
it, read for the document as it was. -/
def Parsed (s₀ : Session) (past : List Action) (p : Publication) : Prop :=
  ∃ d b t answer, (s₀.after past).documents[p.doc]? = some d ∧
    Printed s₀ past p.id b t answer ∧ b.ticket = p.ticket ∧
    p.diagnostics = ((s₀.after past).read d t answer.stdout).diagnostics

theorem parsed_of_publication? {s₀ : Session} (h₀ : s₀.attempts = []) {past : List Action}
    {e : Action} {p : Publication} (h : (s₀.after past).publication? e = some p) :
    Parsed s₀ past p := by
  obtain ⟨-, d, t, answer, hpublishes⟩ := publishes_of_publication? h
  obtain ⟨a, b, ha, -, hanswer, hticket⟩ := hpublishes.attempt
  exact ⟨d, b, t, answer, hpublishes.document, printed_of_answer? h₀ ha hanswer, hticket,
    hpublishes.diagnostics⟩

/-! ## Runs in which a document is followed -/

/-- Whether an action keeps a session in step with a document that stays open: if it changes the
text, the session is told at once; it does not close the document, and ends no quiet periods. -/
def Action.keepsPace (doc : Nat) : Action → Bool
  | .setText i _ | .close i | .forget i => i != doc
  | .stop => false
  | _ => true

/-- No other document has the name of this one. -/
def Unshared (s : Session) (doc : Nat) (uri : String) : Prop :=
  ∀ i d, s.documents[i]? = some d → d.uri = uri → i = doc

/-- A run in which an open document of the session's language is followed: the session keeps in step
with it, snapshots can be written, the executable is found, and runs end without raising. -/
structure Followed (s₀ : Session) (acts : List Action) (doc : Nat) (d : Document) : Prop where
  opened : s₀.Opened
  document : (s₀.after acts).documents[doc]? = some d
  isOpen : d.closed = false
  configured : d.language = s₀.settings.language
  path : ∀ p, d.path = some p → p.Proper
  pace : ∀ e ∈ acts, e.keepsPace doc = true
  clear : s₀.eachStep isClear acts = true

/-- A run in which a document is followed, the analyzer starts for it whenever it is to, and no
other document gets in the way. -/
structure Undisturbed (s₀ : Session) (acts : List Action) (doc : Nat) (d : Document) : Prop
    extends Followed s₀ acts doc d where
  starts : s₀.eachStep (starts doc) acts = true
  unshared : (s₀.after acts).Unshared doc d.uri

/-- Somewhere in a run, the text of a document that is there is changed. -/
def Edited (s₀ : Session) (acts : List Action) (doc : Nat) : Prop :=
  ∃ past text future, acts = past ++ .edit doc text :: future ∧
    doc < (s₀.after past).documents.length

/-- No quiet period is running, and no attempt that one started is under way. -/
def Idle (s : Session) : Prop :=
  s.busy = false ∧ s.hasPending = false

section

variable {s₀ : Session} {acts more : List Action} {e : Action} {doc : Nat} {d d' : Document}

theorem eachStep_of_append {ok : Session → Nat → Bool}
    (h : s₀.eachStep ok (acts ++ more) = true) : s₀.eachStep ok acts = true := by
  rw [eachStep_iff] at h ⊢
  rintro past id future rfl
  exact h past id (future ++ more) (by simp)

theorem Unshared.of_after {uri : String} (h : (s₀.after more).Unshared doc uri) :
    s₀.Unshared doc uri := by
  intro i d hd huri
  obtain ⟨d', hd', hlater⟩ := later_after hd more
  exact h i d' hd' (hlater.uri.trans huri)

theorem Undisturbed.of_append (h : Undisturbed s₀ (acts ++ more) doc d')
    (hd : (s₀.after acts).documents[doc]? = some d) : Undisturbed s₀ acts doc d := by
  have hlater := later_between hd h.document
  refine ⟨⟨h.opened, hd, ?_, ?_, ?_, ?_, eachStep_of_append h.clear⟩,
    eachStep_of_append h.starts, ?_⟩
  · by_contra hclosed
    rw [Bool.not_eq_false] at hclosed
    have hclosed' := hlater.closed hclosed
    rw [h.isOpen] at hclosed'
    cases hclosed'
  · rw [← hlater.language]
    exact h.configured
  · rw [← hlater.path]
    exact h.path
  · intro e he
    exact h.pace e (List.mem_append_left more he)
  · have hunshared := h.unshared
    rw [after_append, hlater.uri] at hunshared
    exact hunshared.of_after

theorem Undisturbed.enabled (h : Undisturbed s₀ acts doc d) : (s₀.after acts).enabled = true := by
  exact enabled_after h.opened.enabled_eq h.clear

theorem Undisturbed.language (h : Undisturbed s₀ acts doc d) :
    (s₀.after acts).debounce.language = some d.language := by
  have hsettings : s₀.debounce.language = some s₀.settings.language := by
    obtain ⟨disk, settings, documents, workspace, runs, rfl⟩ := h.opened
    rfl
  rw [language_after, hsettings, h.configured]

/-! ## What is always the case -/

/-- After some actions, a publication of the version that a document has is displayed for it. -/
structure Shows (s₀ : Session) (acts : List Action) (doc : Nat) (d : Document)
    (past : List Action) (p : Publication) : Prop where
  made : ∃ future, acts = past ++ .step p.id :: future
  publication : (s₀.after past).publication? (.step p.id) = some p
  same : p.doc = doc
  version : p.ticket.version = d.version
  entry : Keyed.get? (s₀.after acts).bench.display d.uri = some p.diagnostics

/-- **The invariant**: the version that a document has is displayed, or will be. -/
inductive Promised (s₀ : Session) (acts : List Action) (doc : Nat) (d : Document) : Prop
  | waiting (pending : (s₀.after acts).debounce.isPending d.uri = true)
  | underWay (i : Nat) (a : Attempt) (attempt : (s₀.after acts).attempt? i = some a)
    (same : a.doc = doc) (timer : a.origin = .timer) (onTrack : a.stage.OnTrack (.capture d))
  | shown (past : List Action) (p : Publication) (shows : Shows s₀ acts doc d past p)

/-- The invariant speaks of a document's name and version only. -/
theorem Promised.of_later (h : Promised s₀ acts doc d) (hlater : d.Later 0 d') :
    Promised s₀ acts doc d' := by
  have hversion : d'.version = d.version := by
    have hcount := hlater.version
    omega
  have hticket : Ticket.capture d' = Ticket.capture d := by
    rw [Ticket.capture, Ticket.capture, hlater.uri, hversion]
  cases h with
  | waiting pending => exact .waiting (hlater.uri ▸ pending)
  | underWay i a attempt same timer onTrack =>
    exact .underWay i a attempt same timer (hticket ▸ onTrack)
  | shown past p shows =>
    exact .shown past p ⟨shows.made, shows.publication, shows.same,
      shows.version.trans hversion.symm, hlater.uri ▸ shows.entry⟩

theorem promised_of_edit {text : String} (h : Undisturbed s₀ acts doc d)
    (hd' : (s₀.after (acts ++ [.edit doc text])).documents[doc]? = some d') :
    Promised s₀ (acts ++ [.edit doc text]) doc d' := by
  have hlater := later_between h.document hd'
  refine .waiting ?_
  rw [hlater.uri, after_concat]
  refine isPending_trigger (d := d.setText text) ?_ h.enabled h.language
  exact (document_modify h.document doc _).trans (by rw [if_pos rfl])

theorem promised_of_waiting (h : Undisturbed s₀ acts doc d) (hpace : e.keepsPace doc = true)
    (hpending : (s₀.after acts).debounce.isPending d.uri = true) :
    Promised s₀ (acts ++ [e]) doc d := by
  rcases isPending_act hpending e with hstill | hlapses
  · exact .waiting (by rw [after_concat]; exact hstill)
  cases hlapses with
  | stopped => cases hpace
  | forgotten i d₁ hd₁ huri =>
    rw [h.unshared i d₁ hd₁ huri] at hpace
    simp [Action.keepsPace] at hpace
  | expired order t ht hdue huri =>
    -- The quiet period under this name is the document's own.
    have hdoc : t.doc = doc := by
      obtain ⟨d₁, hd₁, huri₁⟩ := timersNamed_after h.opened acts t (List.mem_of_find?_eq_some ht)
      exact h.unshared t.doc d₁ hd₁ (huri₁.trans huri)
    have hfire : ((s₀.after acts).act (.fire order)).attempts = (s₀.after acts).attempts ++
        [⟨(s₀.after acts).next, t.doc, .timer, .created⟩] := by
      change ((s₀.after acts).fire order).attempts = _
      rw [fire, ht]
      simp only [if_pos hdue]
    have hfree := attempt?_next h.opened.attempts_eq acts
    refine .underWay (s₀.after acts).next ⟨(s₀.after acts).next, t.doc, .timer, .created⟩ ?_
      hdoc rfl .created
    rw [after_concat, attempt?_append hfire, hfree, Option.none_or, if_pos rfl]

/-- An attempt stays on track, or publishes. -/
theorem promised_of_underWay {i : Nat} {a : Attempt} (h : Undisturbed s₀ (acts ++ [e]) doc d')
    (hd : (s₀.after acts).documents[doc]? = some d) (ha : (s₀.after acts).attempt? i = some a)
    (hdoc : a.doc = doc) (htimer : a.origin = .timer) (hon : a.stage.OnTrack (.capture d)) :
    Promised s₀ (acts ++ [e]) doc d := by
  have hbefore := h.of_append hd
  obtain ⟨st, hst, hprogress⟩ := attempt?_act ha e
  have hunderWay : st.OnTrack (.capture d) → Promised s₀ (acts ++ [e]) doc d := by
    intro hon'
    exact .underWay i { a with stage := st } (by rw [after_concat]; exact hst) hdoc htimer hon'
  cases hprogress with
  | idle => exact hunderWay hon
  | settled b r settle ended =>
    rw [ended] at hon
    cases hon
  | moved d₁ st₁ step document can move =>
    have hid : a.id = i := attempt?_id ha
    rw [hid] at step
    subst step
    rw [hdoc, hd] at document
    cases document
    have hclear : a.stage.isClear (s₀.after acts) = true := by
      have hclear := eachStep_iff.mp h.clear acts i [] rfl
      rwa [isClear, ha] at hclear
    have hstarts : a.stage.startFailure?.isNone = true := by
      have hstarts := eachStep_iff.mp h.starts acts i [] rfl
      rw [starts, ha, Option.all_some, hdoc] at hstarts
      simpa using hstarts
    rcases move.onTrack hon hbefore.enabled hbefore.path hclear hstarts with
      hon' | ⟨b, t, answer, hanswer, hticket⟩
    · exact hunderWay hon'
    · -- The ticket is current, since it is that of the document as it is.
      have hcurrent : b.ticket.isCurrent d = true := by
        rw [hticket, Ticket.isCurrent, hbefore.isOpen]
        simp [Ticket.capture]
      rcases publication?_of_answer ha (hdoc ▸ hd) can hanswer with
        ⟨-, hp, hfound⟩ | ⟨hold, -, -⟩
      · let p : Publication :=
          ⟨i, a.doc, b.ticket, ((s₀.after acts).read d t answer.stdout).diagnostics⟩
        have hversion : p.ticket.version = d.version := congrArg Ticket.version hticket
        refine .shown acts p ⟨⟨[], rfl⟩, hp, hdoc, hversion, ?_⟩
        rw [after_concat, hfound.display, Keyed.get?_set, if_pos rfl]
      · rw [hcurrent] at hold
        cases hold

/-- What is displayed stays, unless a newer publication of the same version takes its place. -/
theorem promised_of_shown {past : List Action} {p : Publication}
    (h : Undisturbed s₀ (acts ++ [e]) doc d') (hd : (s₀.after acts).documents[doc]? = some d)
    (hshows : Shows s₀ acts doc d past p) : Promised s₀ (acts ++ [e]) doc d := by
  have hbefore := h.of_append hd
  -- If the entry is the same afterwards, the publication is still the one that is displayed.
  have hsame : Keyed.get? (s₀.after (acts ++ [e])).bench.display d.uri =
      Keyed.get? (s₀.after acts).bench.display d.uri → Promised s₀ (acts ++ [e]) doc d := by
    intro hentry
    obtain ⟨future, hacts⟩ := hshows.made
    exact .shown past p ⟨⟨future ++ [e], by rw [hacts]; simp⟩, hshows.publication, hshows.same,
      hshows.version, hentry.trans hshows.entry⟩
  cases hp' : (s₀.after acts).publication? e with
  | none =>
    rcases (bare_of_publication? hp').2 d.uri with hentry | ⟨hwithdraws, -⟩
    · exact hsame (by rw [after_concat]; exact hentry)
    cases hwithdraws with
    | forgotten i d₁ hd₁ huri =>
      have hpace := h.pace _ (List.mem_append_right acts (List.mem_singleton.mpr rfl))
      rw [hbefore.unshared i d₁ hd₁ huri] at hpace
      simp [Action.keepsPace] at hpace
    | missing id a ha hmisses =>
      have hclear := eachStep_iff.mp h.clear acts id [] rfl
      rw [isClear, ha] at hclear
      rw [not_missesExecutable_of_isClear hclear] at hmisses
      cases hmisses
  | some p' =>
    obtain ⟨rfl, d₁, t, answer, hpublishes⟩ := publishes_of_publication? hp'
    have hdisplay := hpublishes.found.display
    rw [← after_concat, ← hpublishes.diagnostics] at hdisplay
    by_cases hdoc : p'.doc = doc
    · -- An attempt on the same document publishes only for the version that the document has.
      have hd₁ := hpublishes.document
      rw [hdoc, hd] at hd₁
      cases hd₁
      refine .shown acts p' ⟨⟨[], rfl⟩, hp', hdoc, hpublishes.version_eq.symm, ?_⟩
      rw [hdisplay, Keyed.get?_set, if_pos rfl]
    · refine hsame ?_
      rw [hdisplay, Keyed.get?_set, if_neg]
      intro huri
      exact hdoc (hbefore.unshared p'.doc d₁ hpublishes.document huri)

/-- **Every action keeps the promise**, as a step of an undisturbed run. -/
theorem Promised.act (hpromised : Promised s₀ acts doc d)
    (h : Undisturbed s₀ (acts ++ [e]) doc d') (hd : (s₀.after acts).documents[doc]? = some d) :
    Promised s₀ (acts ++ [e]) doc d' := by
  have hpace : e.keepsPace doc = true :=
    h.pace e (List.mem_append_right acts (List.mem_singleton.mpr rfl))
  by_cases hedits : e.edits doc = true
  · -- Whatever the promise was before, the change makes a new one.
    cases e with
    | edit i text =>
      have hi : i = doc := by simpa [Action.edits] using hedits
      rw [hi] at h ⊢
      exact promised_of_edit (h.of_append hd) h.document
    | setText i text =>
      have hi : i = doc := by simpa [Action.edits] using hedits
      simp [Action.keepsPace, hi] at hpace
    | _ => cases hedits
  · -- The document may have been saved, but its version is the same.
    have hlater : d.Later 0 d' := by
      have hlater := later_between hd h.document
      rwa [editCount_cons, if_neg hedits] at hlater
    refine Promised.of_later ?_ hlater
    cases hpromised with
    | waiting pending => exact promised_of_waiting (h.of_append hd) hpace pending
    | underWay i a attempt same timer onTrack =>
      exact promised_of_underWay h hd attempt same timer onTrack
    | shown past p shows => exact promised_of_shown h hd shows

theorem promised_after {past future : List Action} {text : String}
    (h : Undisturbed s₀ (past ++ .edit doc text :: future) doc d)
    (hthere : doc < (s₀.after past).documents.length) :
    Promised s₀ (past ++ .edit doc text :: future) doc d := by
  -- On the actions after the change, the last one first; the document differs from one to the next.
  induction future using List.reverseRecOn generalizing d with
  | nil =>
    have hd := List.getElem?_eq_getElem hthere
    exact promised_of_edit (h.of_append hd) h.document
  | append_singleton future e ih =>
    obtain ⟨d₀, hd₀⟩ : ∃ d₀, (s₀.after past).documents[doc]? = some d₀ :=
      ⟨_, List.getElem?_eq_getElem hthere⟩
    obtain ⟨d₁, hd₁, -⟩ := later_after hd₀ (.edit doc text :: future)
    rw [← after_append] at hd₁
    have hacts : past ++ .edit doc text :: (future ++ [e]) =
        (past ++ .edit doc text :: future) ++ [e] := by simp
    rw [hacts] at h ⊢
    exact (ih (h.of_append hd₁)).act h hd₁

/-- **No change is lost.** In an undisturbed run in which the text was changed, once no quiet period
is running and no attempt is under way, what is displayed for the document was published for its
last version, and was parsed from what the analyzer printed in a run for that version. -/
theorem displays_last_version (h : Undisturbed s₀ acts doc d) (hedited : Edited s₀ acts doc)
    (hidle : (s₀.after acts).Idle) :
    ∃ past p, Shows s₀ acts doc d past p ∧ Parsed s₀ past p := by
  obtain ⟨past, text, future, rfl, hthere⟩ := hedited
  -- Of the three cases of the invariant, an idle session rules out the first two.
  cases promised_after h hthere with
  | waiting pending =>
    obtain ⟨t, ht, -⟩ := isPending_iff.mp pending
    have htimers := hidle.2
    rw [hasPending, Session.pending, Schedule.Debounce.pending, bne_eq_false_iff_eq,
      List.length_eq_zero_iff] at htimers
    rw [htimers] at ht
    cases ht
  | underWay i a attempt same timer onTrack =>
    have hattempts := hidle.1
    rw [busy, inFlight, bne_eq_false_iff_eq, List.length_eq_zero_iff, List.filter_eq_nil_iff]
      at hattempts
    have hover := hattempts a (List.mem_of_find?_eq_some attempt)
    rw [timer, onTrack.isOpen] at hover
    exact absurd rfl hover
  | shown past p shows =>
    exact ⟨past, p, shows, parsed_of_publication? h.opened.attempts_eq shows.publication⟩

end

/-! The sample session again, and two variants of it: in one the analyzer is not allowed to start,
in the other a second document has the same name. -/

/-- A change of the first document, and all that comes of it. -/
def oneChange : List Action :=
  [.edit 0 "z", .pass (.ofMilliseconds 1000), .fire 0, .step 1, .step 1, .step 1, .step 1, .step 1,
    .step 1, .settle 1]

/-- `Followed`, as it can be looked up in a run on the sample document. -/
theorem followed_sample {s₀ : Session} (h₀ : s₀.Opened) {acts : List Action}
    (hlanguage : s₀.settings.language = defaultLanguage)
    (hrun : (s₀.after acts).documents[0]? = some (sampleDocument.setText "z") ∧
      (∀ e ∈ acts, e.keepsPace 0 = true) ∧ s₀.eachStep isClear acts = true) :
    Followed s₀ acts 0 (sampleDocument.setText "z") := by
  obtain ⟨hd, hpace, hclear⟩ := hrun
  refine ⟨h₀, hd, rfl, hlanguage.symm, ?_, hpace, hclear⟩
  intro p hp
  cases hp
  rw [FilePath.Proper]
  decide

/-- `Unshared`, where there is only one document. -/
theorem unshared_of_length {s : Session} (h : s.documents.length = 1) (uri : String) :
    s.Unshared 0 uri := by
  intro i d hd _
  obtain ⟨hi, -⟩ := List.getElem?_eq_some_iff.mp hd
  omega

/-- The finding for the changed text is displayed in the end. -/
theorem displays_sample :
    Edited (sample [oneFinding]) oneChange 0 ∧ ((sample [oneFinding]).after oneChange).Idle ∧
      ∃ past p, Shows (sample [oneFinding]) oneChange 0 (sampleDocument.setText "z") past p ∧
        Parsed (sample [oneFinding]) past p := by
  have hedited : Edited (sample [oneFinding]) oneChange 0 := ⟨[], "z", _, rfl, by decide⟩
  have hrun : ((sample [oneFinding]).after oneChange).documents[0]? =
        some (sampleDocument.setText "z") ∧
      (∀ e ∈ oneChange, e.keepsPace 0 = true) ∧
      (sample [oneFinding]).eachStep isClear oneChange = true := by decide +kernel
  have hrest : (((sample [oneFinding]).after oneChange).busy = false ∧
        ((sample [oneFinding]).after oneChange).hasPending = false) ∧
      (sample [oneFinding]).eachStep (starts 0) oneChange = true ∧
      ((sample [oneFinding]).after oneChange).documents.length = 1 := by decide +kernel
  obtain ⟨hidle, hstarts, hlength⟩ := hrest
  have hundisturbed : Undisturbed (sample [oneFinding]) oneChange 0 (sampleDocument.setText "z") :=
    ⟨followed_sample (opened_sample _) rfl hrun, hstarts, unshared_of_length hlength _⟩
  exact ⟨hedited, hidle, displays_last_version hundisturbed hedited hidle⟩

/-- A session with one saved document, and an analyzer that is not allowed to start. -/
def deniedSample : Session :=
  open_ ⟨⟨.root, ["w"]⟩, [], [], []⟩ {} [sampleDocument] none [{ startFault := some .denied }]

/-- A session with two documents of one name. -/
def sharedSample : Session :=
  open_ ⟨⟨.root, ["w"]⟩, [], [], []⟩ {} [sampleDocument, sampleDocument] none []

/-- A change of the first document, a trigger for the second one, and all that comes of it. -/
def sharedChange : List Action :=
  [.edit 0 "z", .trigger 1, .pass (.ofMilliseconds 1000), .fire 1, .step 2, .step 2, .step 2,
    .settle 2]

theorem not_shows {s₀ : Session} {acts : List Action} {doc : Nat}
    (h : (s₀.publications acts).all (·.doc != doc) = true) (d : Document) :
    ¬ ∃ past p, Shows s₀ acts doc d past p := by
  rintro ⟨past, p, hshows⟩
  obtain ⟨future, hacts⟩ := hshows.made
  have hp : p ∈ s₀.publications acts :=
    mem_publications.mpr ⟨past, _, future, hacts, hshows.publication⟩
  have hother := List.all_eq_true.mp h p hp
  rw [hshows.same, bne_self_eq_false] at hother
  cases hother

/-- Both conditions of an undisturbed run are needed: a change can be lost if the analyzer is found
but does not start, and if another document has the same name. -/
theorem not_displays_last_version :
    (¬ ∀ s₀ acts doc d, Followed s₀ acts doc d → (s₀.after acts).Unshared doc d.uri →
      Edited s₀ acts doc → (s₀.after acts).Idle → ∃ past p, Shows s₀ acts doc d past p) ∧
    ¬ ∀ s₀ acts doc d, Followed s₀ acts doc d → s₀.eachStep (starts doc) acts = true →
      Edited s₀ acts doc → (s₀.after acts).Idle → ∃ past p, Shows s₀ acts doc d past p := by
  constructor
  · -- The start is refused, so the attempt ends with nothing.
    intro hall
    have hrun : (deniedSample.after oneChange).documents[0]? =
          some (sampleDocument.setText "z") ∧
        (∀ e ∈ oneChange, e.keepsPace 0 = true) ∧
        deniedSample.eachStep isClear oneChange = true := by decide +kernel
    have hrest : ((deniedSample.after oneChange).busy = false ∧
          (deniedSample.after oneChange).hasPending = false) ∧
        (deniedSample.after oneChange).documents.length = 1 ∧
        (deniedSample.publications oneChange).all (·.doc != 0) = true := by decide +kernel
    obtain ⟨hidle, hlength, hnone⟩ := hrest
    exact not_shows hnone _ (hall _ _ _ _ (followed_sample ⟨_, _, _, _, _, rfl⟩ rfl hrun)
      (unshared_of_length hlength _) ⟨[], "z", _, rfl, by decide⟩ hidle)
  · -- The trigger for the second document ends the quiet period of the first.
    intro hall
    have hrun : (sharedSample.after sharedChange).documents[0]? =
          some (sampleDocument.setText "z") ∧
        (∀ e ∈ sharedChange, e.keepsPace 0 = true) ∧
        sharedSample.eachStep isClear sharedChange = true := by decide +kernel
    have hrest : ((sharedSample.after sharedChange).busy = false ∧
          (sharedSample.after sharedChange).hasPending = false) ∧
        sharedSample.eachStep (starts 0) sharedChange = true ∧
        (sharedSample.publications sharedChange).all (·.doc != 0) = true := by decide +kernel
    obtain ⟨hidle, hstarts, hnone⟩ := hrest
    exact not_shows hnone _ (hall _ _ _ _ (followed_sample ⟨_, _, _, _, _, rfl⟩ rfl hrun) hstarts
      ⟨[], "z", _, rfl, by decide⟩ hidle)

end Session

end DiagnosticFeed
