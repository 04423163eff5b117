import DiagnosticFeed.Proofs.Session.Publication

/-!
# Quiet periods over time

A trigger starts a quiet period for its document, in place of the one that runs under the same
name. Read the other way round, a name that is waited for is waited for until its quiet period
expires or is ended on purpose, by whichever document of that name; triggers never lose it. A
timer holds the number of its document besides the name, and the two belong together in every
session that can be reached.
-/

namespace DiagnosticFeed

namespace Session

/-- What triggers do to quiet periods: they start new ones for documents, and end none for good. -/
structure Retimed (s s' : Session) : Prop where
  known : ∀ t ∈ s'.debounce.timers, t ∈ s.debounce.timers ∨
    ∃ d, s.documents[t.doc]? = some d ∧ d.uri = t.uri
  pending : ∀ uri, s.debounce.isPending uri = true → s'.debounce.isPending uri = true

theorem Retimed.of_eq {s s' : Session} (h : s'.debounce.timers = s.debounce.timers) :
    Retimed s s' where
  known := fun t ht ↦ Or.inl (h ▸ ht)
  pending := fun uri huri ↦ by
    rw [Schedule.Debounce.isPending, h]
    exact huri

theorem Retimed.trans {s s' s'' : Session} (h : Retimed s s') (hd : s'.documents = s.documents)
    (h' : Retimed s' s'') : Retimed s s'' where
  known := fun t ht ↦ by
    rcases h'.known t ht with ht | hnew
    · exact h.known t ht
    · rw [hd] at hnew
      exact Or.inr hnew
  pending := fun uri huri ↦ h'.pending uri (h.pending uri huri)

/-- `Retimed` from a session with the same timers and documents. -/
theorem Retimed.of_base {s s₁ s' : Session} (h : Retimed s₁ s')
    (ht : s₁.debounce.timers = s.debounce.timers) (hd : s₁.documents = s.documents) :
    Retimed s s' :=
  Retimed.trans (.of_eq ht) hd h

theorem isPending_iff {b : Schedule.Debounce} {uri : String} :
    b.isPending uri = true ↔ ∃ t ∈ b.timers, t.uri = uri := by
  rw [Schedule.Debounce.isPending, List.any_eq_true]
  simp only [beq_iff_eq]

theorem isPending_cancel {b : Schedule.Debounce} {uri other : String} (hne : other ≠ uri)
    (h : b.isPending other = true) : (b.cancel uri).isPending other = true := by
  obtain ⟨t, ht, rfl⟩ := isPending_iff.mp h
  exact isPending_iff.mpr ⟨t, List.mem_filter.mpr ⟨ht, decide_eq_true hne⟩, rfl⟩

theorem isPending_restart_self (b : Schedule.Debounce) (now : Time) (order doc : Nat)
    (uri : String) : (b.restart now order doc uri).isPending uri = true :=
  isPending_iff.mpr ⟨_, List.mem_append_right _ (List.mem_singleton.mpr rfl), rfl⟩

theorem isPending_restart {b : Schedule.Debounce} {other : String} (h : b.isPending other = true)
    (now : Time) (order doc : Nat) (uri : String) :
    (b.restart now order doc uri).isPending other = true := by
  -- The quiet period that is started anew is not missed, since it is there again.
  by_cases hne : other = uri
  · rw [hne]
    exact isPending_restart_self b now order doc uri
  · obtain ⟨t, ht, huri⟩ := isPending_iff.mp (isPending_cancel hne h)
    exact isPending_iff.mpr ⟨t, List.mem_append_left _ ht, huri⟩

theorem timers_trigger {s : Session} {doc : Nat} {d : Document} (hd : s.documents[doc]? = some d) :
    (s.trigger doc).debounce = s.debounce.trigger s.enabled s.now s.next doc d := by
  rw [trigger, hd]
  dsimp only
  split <;> rfl

theorem retimed_trigger (s : Session) (doc : Nat) : Retimed s (s.trigger doc) := by
  cases hd : s.documents[doc]? with
  | none =>
    rw [trigger, hd]
    exact .of_eq rfl
  | some d =>
    have htimers := timers_trigger hd
    rw [Schedule.Debounce.trigger] at htimers
    split at htimers
    · -- The timer of this name is replaced by one for this document, and the others stay.
      constructor
      · intro t ht
        rw [htimers, Schedule.Debounce.restart] at ht
        rcases List.mem_append.mp ht with ht | ht
        · exact Or.inl (List.mem_filter.mp ht).1
        · rw [List.mem_singleton] at ht
          rw [ht]
          exact Or.inr ⟨d, hd, rfl⟩
      · intro uri huri
        rw [htimers]
        exact isPending_restart huri ..
    · exact .of_eq (congrArg _ htimers)

theorem retimed_triggerAll (s : Session) (docs : List Nat) : Retimed s (s.triggerAll docs) := by
  induction docs generalizing s with
  | nil => exact .of_eq rfl
  | cons doc docs ih =>
    exact (retimed_trigger s doc).trans (aside_trigger s doc).documents (ih _)

theorem isPending_trigger {s : Session} {doc : Nat} {d : Document}
    (hd : s.documents[doc]? = some d) (hon : s.enabled = true)
    (hlanguage : s.debounce.language = some d.language) :
    (s.trigger doc).debounce.isPending d.uri = true := by
  have hverdict : s.debounce.verdict s.enabled d = .started := by
    rw [Schedule.Debounce.verdict, hlanguage, hon]
    simp
  rw [timers_trigger hd, Schedule.Debounce.trigger, hverdict]
  exact isPending_restart_self ..

theorem retimed_reconfigure (s : Session) (settings : AnalyzerSettings) (docs : List Nat) :
    Retimed s (s.reconfigure settings docs) := by
  rw [reconfigure]
  dsimp only
  split
  · exact (retimed_triggerAll _ docs).of_base rfl rfl
  · exact .of_eq rfl

theorem retimed_act (s : Session) {e : Action} (he : e.isAside = true) (hstop : e ≠ .stop) :
    Retimed s (s.act e) := by
  cases e with
  | trigger doc => exact retimed_trigger s doc
  | offer doc gs =>
    obtain ⟨journal, h⟩ := s.offer_cases doc gs
    rw [h]
    exact .of_eq rfl
  | start docs =>
    rcases s.start_cases docs with h | ⟨disk, journal, h⟩ <;> rw [h]
    · exact .of_eq rfl
    · exact (retimed_triggerAll _ docs).of_base rfl rfl
  | stop => exact absurd rfl hstop
  | reconfigure settings docs => exact retimed_reconfigure s settings docs
  | pass now => exact .of_eq rfl
  | disturb disk => exact .of_eq rfl
  | expect runs => exact .of_eq rfl
  | _ => simp [Action.isAside] at he

/-! ## Timers and their documents -/

/-- Every timer is for the document of its name. -/
def TimersNamed (s : Session) : Prop :=
  ∀ t ∈ s.debounce.timers, ∃ d, s.documents[t.doc]? = some d ∧ d.uri = t.uri

theorem timers_act (s : Session) (e : Action) {t : Schedule.Timer}
    (ht : t ∈ (s.act e).debounce.timers) : t ∈ s.debounce.timers ∨
      ∃ d, (s.act e).documents[t.doc]? = some d ∧ d.uri = t.uri := by
  by_cases haside : e.isAside = true
  · by_cases hstop : e = .stop
    · subst hstop
      cases ht
    · rw [(s.aside_act haside).documents]
      exact (s.retimed_act haside hstop).known t ht
  by_cases hunheard : e.isUnheard = true
  · obtain ⟨documents, disk, h⟩ := s.unheard_act hunheard
    rw [h] at ht
    exact Or.inl ht
  cases e with
  | edit doc text =>
    have hdocuments : (s.act (.edit doc text)).documents = (s.setText doc text).documents :=
      (aside_trigger (s.setText doc text) doc).documents
    rw [hdocuments]
    exact (retimed_trigger (s.setText doc text) doc).known t ht
  | forget doc =>
    rw [act] at ht
    rcases s.forget_cases doc with h | ⟨d, -, h⟩ <;> rw [h] at ht
    · exact Or.inl ht
    · exact Or.inl (List.mem_filter.mp ht).1
  | call doc => exact Or.inl ht
  | fire order =>
    rw [act] at ht
    rcases s.fire_cases order with h | ⟨t', -, -, h⟩ <;> rw [h] at ht
    · exact Or.inl ht
    · exact Or.inl (List.mem_filter.mp ht).1
  | step id =>
    change t ∈ (s.step id).debounce.timers at ht
    rw [(s.still_step id).debounce] at ht
    exact Or.inl ht
  | settle id =>
    change t ∈ (s.settle id).debounce.timers at ht
    rw [(s.kept_settle id).debounce] at ht
    exact Or.inl ht
  | _ => simp [Action.isAside, Action.isUnheard] at haside hunheard

theorem timersNamed_act {s : Session} (h : s.TimersNamed) (e : Action) : (s.act e).TimersNamed := by
  intro t ht
  rcases s.timers_act e ht with ht | hnew
  · obtain ⟨d, hd, huri⟩ := h t ht
    obtain ⟨d', hd', hlater⟩ := later_act hd e
    exact ⟨d', hd', hlater.uri.trans huri⟩
  · exact hnew

theorem timersNamed_after {s₀ : Session} (h₀ : s₀.Opened) (acts : List Action) :
    (s₀.after acts).TimersNamed := by
  induction acts using List.reverseRecOn with
  | nil =>
    obtain ⟨disk, settings, documents, workspace, runs, rfl⟩ := h₀
    intro t ht
    cases ht
  | append_singleton acts e ih =>
    rw [after_concat]
    exact timersNamed_act ih e

/-! ## How quiet periods end -/

/-- What ends the quiet period of a name for good. -/
inductive Lapses (s : Session) (uri : String) : Action → Prop
  | stopped : Lapses s uri .stop
  | forgotten (doc : Nat) (d : Document) (document : s.documents[doc]? = some d)
    (same : d.uri = uri) : Lapses s uri (.forget doc)
  | expired (order : Nat) (t : Schedule.Timer) (timer : s.debounce.timer? order = some t)
    (due : t.due ≤ s.now) (same : t.uri = uri) : Lapses s uri (.fire order)

/-- **A quiet period goes on** until it expires or is ended on purpose. -/
theorem isPending_act {s : Session} {uri : String} (h : s.debounce.isPending uri = true)
    (e : Action) : (s.act e).debounce.isPending uri = true ∨ Lapses s uri e := by
  by_cases haside : e.isAside = true
  · by_cases hstop : e = .stop
    · rw [hstop]
      exact Or.inr .stopped
    · exact Or.inl ((s.retimed_act haside hstop).pending uri h)
  by_cases hunheard : e.isUnheard = true
  · obtain ⟨documents, disk, hact⟩ := s.unheard_act hunheard
    rw [hact]
    exact Or.inl h
  cases e with
  | edit doc text => exact Or.inl ((retimed_trigger (s.setText doc text) doc).pending uri h)
  | forget doc =>
    rw [act]
    rcases s.forget_cases doc with hforget | ⟨d, hd, hforget⟩ <;> rw [hforget]
    · exact Or.inl h
    · by_cases huri : d.uri = uri
      · exact Or.inr (.forgotten doc d hd huri)
      · exact Or.inl (isPending_cancel (Ne.symm huri) h)
  | call doc => exact Or.inl h
  | fire order =>
    rw [act]
    rcases s.fire_cases order with hsame | ⟨t, ht, hdue, hfire⟩
    · rw [hsame]
      exact Or.inl h
    · by_cases huri : t.uri = uri
      · exact Or.inr (.expired order t ht hdue huri)
      · rw [hfire]
        exact Or.inl (isPending_cancel (Ne.symm huri) h)
  | step id => exact Or.inl ((congrArg (·.isPending uri) (s.still_step id).debounce).trans h)
  | settle id => exact Or.inl ((congrArg (·.isPending uri) (s.kept_settle id).debounce).trans h)
  | _ => simp [Action.isAside, Action.isUnheard] at haside hunheard

theorem language_after (s : Session) (acts : List Action) :
    (s.after acts).debounce.language = s.debounce.language := by
  induction acts generalizing s with
  | nil => rfl
  | cons e acts ih =>
    rw [after_cons, ih]
    exact (s.onward_act e).language

end Session

end DiagnosticFeed
