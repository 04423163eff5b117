import DiagnosticFeed.Proofs.Session.Availability
import DiagnosticFeed.Proofs.Session.Decision
import DiagnosticFeed.Proofs.Session.Schedule

/-!
# Sessions that are left alone

A session that nobody touches any more answers the quiet periods that are running, and nothing else.
Under each name at most one of them runs, whose expiry is the only way to an attempt, and an attempt
is decided once. So a session that was left alone before there were any attempts publishes at most
once under each name, and what it displays in the end is what it published, unless the executable
went missing.
-/

namespace DiagnosticFeed

namespace Session

section

variable {s : Session} {e : Action} {acts : List Action} {uri : String}

/-! ## What own actions leave alone -/

theorem documents_act_of_isOwn (he : e.isOwn = true) : (s.act e).documents = s.documents := by
  cases e with
  | fire order =>
    rw [act]
    rcases s.fire_cases order with h | ⟨t, -, -, h⟩ <;> rw [h]
  | step id => exact (s.still_step id).documents
  | settle id => exact (s.kept_settle id).documents
  | pass now => rfl
  | _ => cases he

theorem documents_after_of_isOwn (hown : ∀ e ∈ acts, e.isOwn = true) :
    (s.after acts).documents = s.documents := by
  induction acts generalizing s with
  | nil => rfl
  | cons e acts ih =>
    rw [after_cons, ih fun e' he' ↦ hown e' (List.mem_cons_of_mem e he')]
    exact documents_act_of_isOwn (hown e List.mem_cons_self)

theorem isNamed_after_of_isOwn (hown : ∀ e ∈ acts, e.isOwn = true) (doc : Nat) (uri : String) :
    (s.after acts).isNamed doc uri = s.isNamed doc uri := by
  rw [isNamed, isNamed, documents_after_of_isOwn hown]

theorem resets_of_isOwn (he : e.isOwn = true) : s.resets e = false := by
  cases e <;> first | rfl | cases he

theorem forgets?_of_isOwn (he : e.isOwn = true) : e.forgets? = none := by
  cases e <;> first | rfl | cases he

theorem availability_after (hown : ∀ e ∈ acts, e.isOwn = true)
    (h : s.bench.client.availability = .unavailable) :
    (s.after acts).bench.client.availability = .unavailable := by
  induction acts generalizing s with
  | nil => exact h
  | cons e acts ih =>
    exact ih (fun e' he' ↦ hown e' (List.mem_cons_of_mem e he'))
      (availability_act h (resets_of_isOwn (hown e List.mem_cons_self)))

theorem availability_of_enabled_eq_false (h : s.enabled = false) :
    s.bench.client.availability = .unavailable := by
  rw [enabled, Bool.not_eq_false', Client.isUnavailable] at h
  exact eq_of_beq h

/-- A session that still takes triggers has found the executable all along. -/
theorem finds_of_enabled_after (hown : ∀ e ∈ acts, e.isOwn = true)
    (hon : (s.after acts).enabled = true) : s.throughout finds acts = true := by
  rw [throughout_iff]
  rintro past e future rfl
  rw [finds, Bool.not_eq_true', Bool.eq_false_iff]
  intro hmisses
  have hlost := availability_of_enabled_eq_false (act_of_misses hmisses).1
  have hfuture : ∀ e' ∈ future, e'.isOwn = true :=
    fun e' he' ↦ hown e' (List.mem_append_right past (List.mem_cons_of_mem e he'))
  have hstill := availability_after hfuture hlost
  rw [after_append, after_cons, enabled_of_availability hstill] at hon
  cases hon

/-! ## One attempt under each name -/

/-- **The invariant**: under a name there is at most one attempt, and no quiet period runs once
there is one. -/
structure Single (s : Session) (uri : String) : Prop where
  one : ∀ a ∈ s.attempts, ∀ a' ∈ s.attempts, s.isNamed a.doc uri = true →
    s.isNamed a'.doc uri = true → a'.id = a.id
  last : ∀ a ∈ s.attempts, s.isNamed a.doc uri = true → s.debounce.isPending uri = false

theorem single_of_attempts (h₀ : s.attempts = []) (uri : String) : s.Single uri := by
  constructor <;> intro a ha <;> rw [h₀] at ha <;> cases ha

/-- The invariant does not look at the stages of attempts. -/
theorem Single.of_setStage {s' : Session} {id : Nat} {st : Stage} (h : s.Single uri)
    (hattempts : s'.attempts = (s.setStage id st).attempts)
    (hdocuments : s'.documents = s.documents) (hdebounce : s'.debounce = s.debounce) :
    s'.Single uri := by
  have hold : ∀ a ∈ s'.attempts, s'.isNamed a.doc uri = true →
      ∃ a₀ ∈ s.attempts, a₀.id = a.id ∧ s.isNamed a₀.doc uri = true := by
    intro a ha hnamed
    rw [hattempts] at ha
    obtain ⟨a₀, ha₀, rfl⟩ := List.mem_map.mp ha
    rw [isNamed, hdocuments] at hnamed
    refine ⟨a₀, ha₀, ?_⟩
    split at hnamed <;> split <;> exact ⟨rfl, hnamed⟩
  constructor
  · intro a ha a' ha' hnamed hnamed'
    obtain ⟨a₀, ha₀, hid, hnamed₀⟩ := hold a ha hnamed
    obtain ⟨a₀', ha₀', hid', hnamed₀'⟩ := hold a' ha' hnamed'
    rw [← hid, ← hid']
    exact h.one a₀ ha₀ a₀' ha₀' hnamed₀ hnamed₀'
  · intro a ha hnamed
    obtain ⟨a₀, ha₀, -, hnamed₀⟩ := hold a ha hnamed
    rw [hdebounce]
    exact h.last a₀ ha₀ hnamed₀

theorem isPending_cancel_self (b : Schedule.Debounce) (uri : String) :
    (b.cancel uri).isPending uri = false := by
  rw [Bool.eq_false_iff, ne_eq, isPending_iff]
  rintro ⟨t, ht, huri⟩
  exact of_decide_eq_true (List.mem_filter.mp ht).2 huri

theorem not_isPending_cancel {b : Schedule.Debounce} (h : b.isPending uri = false)
    (other : String) : (b.cancel other).isPending uri = false := by
  rw [Bool.eq_false_iff, ne_eq, isPending_iff] at h ⊢
  rintro ⟨t, ht, huri⟩
  exact h ⟨t, (List.mem_filter.mp ht).1, huri⟩

/-- The expiry of a quiet period puts one attempt in its place. -/
theorem Single.fire (h : s.Single uri) (hnamed : s.TimersNamed) (order : Nat) :
    (s.act (.fire order)).Single uri := by
  rw [act]
  rcases s.fire_cases order with hsame | ⟨t, ht, -, hfire⟩
  · rw [hsame]
    exact h
  have hmem : t ∈ s.debounce.timers := List.mem_of_find?_eq_some ht
  obtain ⟨d, hd, huri⟩ := hnamed t hmem
  have hdoc : s.isNamed t.doc uri = true ↔ t.uri = uri := by
    rw [isNamed, hd, Option.any_some, beq_iff_eq, huri]
  -- As long as the quiet period is running, there is no attempt under its name.
  have hnone : t.uri = uri → ∀ a ∈ s.attempts, s.isNamed a.doc uri = true → False := by
    intro heq a ha hnamed
    have hpending := h.last a ha hnamed
    rw [isPending_iff.mpr ⟨t, hmem, heq⟩] at hpending
    cases hpending
  rw [hfire]
  constructor
  · intro a ha a' ha' hnamed hnamed'
    rcases List.mem_append.mp ha with ha | ha <;> rcases List.mem_append.mp ha' with ha' | ha'
    · exact h.one a ha a' ha' hnamed hnamed'
    · rw [List.mem_singleton.mp ha'] at hnamed'
      exact (hnone (hdoc.mp hnamed') a ha hnamed).elim
    · rw [List.mem_singleton.mp ha] at hnamed
      exact (hnone (hdoc.mp hnamed) a' ha' hnamed').elim
    · rw [List.mem_singleton.mp ha, List.mem_singleton.mp ha']
  · intro a ha hnamed
    rcases List.mem_append.mp ha with ha | ha
    · exact not_isPending_cancel (h.last a ha hnamed) t.uri
    · rw [List.mem_singleton.mp ha] at hnamed
      rw [← hdoc.mp hnamed]
      exact isPending_cancel_self s.debounce t.uri

theorem Single.act (h : s.Single uri) (hnamed : s.TimersNamed) (he : e.isOwn = true) :
    (s.act e).Single uri := by
  cases e with
  | fire order => exact h.fire hnamed order
  | step id =>
    rcases s.step_cases id with hsame | ⟨a, d, st, -, -, -, hattempts, -⟩
    · rw [Session.act, hsame]
      exact h
    · exact h.of_setStage hattempts (s.still_step id).documents (s.still_step id).debounce
  | settle id =>
    rcases s.settle_cases id with hsame | ⟨a, b, r, -, -, hattempts⟩
    · rw [Session.act, hsame]
      exact h
    · exact h.of_setStage hattempts (s.kept_settle id).documents (s.kept_settle id).debounce
  | pass now => exact ⟨h.one, h.last⟩
  | _ => cases he

theorem Single.after (h : s.Single uri) (hnamed : s.TimersNamed)
    (hown : ∀ e ∈ acts, e.isOwn = true) : (s.after acts).Single uri := by
  induction acts generalizing s with
  | nil => exact h
  | cons e acts ih =>
    exact ih (h.act hnamed (hown e List.mem_cons_self)) (timersNamed_act hnamed e)
      fun e' he' ↦ hown e' (List.mem_cons_of_mem e he')

end

/-! ## One publication under each name -/

/-- A run of a session that is left alone before there are any attempts. -/
structure Alone (s : Session) (acts : List Action) : Prop where
  fresh : s.attempts = []
  blank : s.bench.display = []
  named : s.TimersNamed
  own : ∀ e ∈ acts, e.isOwn = true

/-- A publication of a run for a document of some name. -/
def Published (s : Session) (acts : List Action) (uri : String) (p : Publication) : Prop :=
  p ∈ s.publications acts ∧ s.isNamed p.doc uri = true

section

variable {s : Session} {e : Action} {acts past past' future future' : List Action} {uri : String}
  {p q : Publication} {ds : List Diagnostic}

theorem exits_of_publication? (h : (s.after past).publication? (.step p.id) = some p)
    (hacts : acts = past ++ .step p.id :: future) : Exits s acts p.id past future .published := by
  refine ⟨hacts, ?_⟩
  obtain ⟨-, d, t, answer, hpublishes⟩ := publishes_of_publication? h
  obtain ⟨a, b, ha, hdoc, hanswer, hticket⟩ := hpublishes.attempt
  rcases (s.after past).exit?_cases p.id with ⟨hsame, -⟩ | ⟨a', d', st, ha', hd', -, -, hexit⟩
  · -- A step that does nothing publishes nothing.
    have hnone : (s.after past).publication? (.step p.id) = none := by
      rw [publication?, hsame, ha]
      cases hpublished : a.stage.published? <;> simp [hpublished]
    cases hnone.symm.trans h
  · cases ha.symm.trans ha'
    rw [hdoc] at hd'
    cases hpublishes.document.symm.trans hd'
    rw [hexit, exitOf?_of_answer? hanswer, Exit.ofAnswer, hticket, if_pos hpublishes.current]

theorem mem_attempts_of_publication? (h : (s.after past).publication? (.step p.id) = some p)
    (more : List Action) :
    ∃ a ∈ (s.after (past ++ more)).attempts, a.id = p.id ∧ a.doc = p.doc := by
  obtain ⟨-, d, t, answer, hpublishes⟩ := publishes_of_publication? h
  obtain ⟨a, b, ha, hdoc, -⟩ := hpublishes.attempt
  obtain ⟨st, hst, -⟩ := stage_after (P := fun _ ↦ True) (fun _ _ ↦ trivial) ha trivial more
  rw [← after_append] at hst
  exact ⟨_, List.mem_of_find?_eq_some hst, attempt?_id hst, hdoc⟩

theorem Published.moment (h : Published s acts uri p) :
    ∃ past future, acts = past ++ .step p.id :: future ∧
      (s.after past).publication? (.step p.id) = some p := by
  obtain ⟨past, e, future, hacts, hpublishes⟩ := mem_publications.mp h.1
  obtain ⟨rfl, -⟩ := publishes_of_publication? hpublishes
  exact ⟨past, future, hacts, hpublishes⟩

theorem published_of_moment (hacts : acts = past ++ e :: future)
    (hpublishes : (s.after past).publication? e = some p) (hname : s.isNamed p.doc uri = true) :
    Published s acts uri p :=
  ⟨mem_publications.mpr ⟨past, e, future, hacts, hpublishes⟩, hname⟩

/-- A name that is left alone is published under at one moment at most. -/
theorem Alone.moment_unique (h : Alone s acts) (hacts : acts = past ++ .step p.id :: future)
    (hpublishes : (s.after past).publication? (.step p.id) = some p)
    (hname : s.isNamed p.doc uri = true) (hacts' : acts = past' ++ .step q.id :: future')
    (hpublishes' : (s.after past').publication? (.step q.id) = some q)
    (hname' : s.isNamed q.doc uri = true) : past' = past ∧ q = p := by
  have hsingle := (single_of_attempts h.fresh uri).after h.named h.own
  obtain ⟨a, ha, hid, hdoc⟩ := mem_attempts_of_publication? hpublishes (.step p.id :: future)
  obtain ⟨a', ha', hid', hdoc'⟩ := mem_attempts_of_publication? hpublishes' (.step q.id :: future')
  rw [← hacts] at ha
  rw [← hacts'] at ha'
  have hsame : q.id = p.id := by
    rw [← hid, ← hid']
    refine hsingle.one a ha a' ha' ?_ ?_
    · rw [isNamed_after_of_isOwn h.own, hdoc]
      exact hname
    · rw [isNamed_after_of_isOwn h.own, hdoc']
      exact hname'
  have hexits' := exits_of_publication? hpublishes' hacts'
  rw [hsame] at hexits'
  obtain ⟨hpast, -, -⟩ := (exits_of_publication? hpublishes hacts).unique hexits'
  rw [hpast, hsame] at hpublishes'
  exact ⟨hpast, Option.some.inj (hpublishes'.symm.trans hpublishes)⟩

theorem Alone.isNamed_past (h : Alone s acts) (hacts : acts = past ++ future) (doc : Nat)
    (uri : String) : (s.after past).isNamed doc uri = s.isNamed doc uri :=
  isNamed_after_of_isOwn (fun e he ↦ h.own e (hacts ▸ List.mem_append_left future he)) doc uri

/-- What is published under a name that is left alone has the last word. -/
theorem Alone.lastWord (h : Alone s acts) (hacts : acts = past ++ .step p.id :: future)
    (hpublishes : (s.after past).publication? (.step p.id) = some p)
    (hname : s.isNamed p.doc uri = true) : LastWord s acts uri past p future := by
  refine ⟨hacts, hpublishes, (h.isNamed_past hacts p.doc uri).trans hname, ?_⟩
  rw [throughout_iff]
  rintro between e later rfl
  have hsplit : acts = (past ++ .step p.id :: between) ++ e :: later := by simp [hacts]
  rw [sparing, Bool.not_eq_true', Bool.eq_false_iff, concerns,
    forgets?_of_isOwn (h.own e (by simp [hsplit])), ← after_append, List.append_assoc,
    List.singleton_append]
  intro hconcerns
  obtain ⟨q, hq, hqname⟩ : ∃ q,
      (s.after (past ++ .step p.id :: between)).publication? e = some q ∧
        (s.after (past ++ .step p.id :: between)).isNamed q.doc uri = true := by
    simpa [Option.any_eq_true] using hconcerns
  rw [h.isNamed_past hsplit] at hqname
  obtain ⟨rfl, -⟩ := publishes_of_publication? hq
  -- Another publication would be the same one, at an earlier moment.
  obtain ⟨hpast, -⟩ := h.moment_unique hacts hpublishes hname hsplit hq hqname
  have hlength := congrArg List.length hpast
  simp at hlength

/-- **Left alone, a session displays what it published**, as long as the executable is there. -/
theorem Alone.displayed_iff (h : Alone s acts) (hon : (s.after acts).enabled = true) :
    Keyed.get? (s.after acts).bench.display uri = some ds ↔
      ∃ p, Published s acts uri p ∧ p.diagnostics = ds := by
  rw [Session.displayed_iff h.blank]
  constructor
  · rintro ⟨past, p, future, hshown, hds⟩
    refine ⟨p, published_of_moment hshown.made hshown.publication ?_, hds⟩
    rw [← h.isNamed_past hshown.made]
    exact hshown.named
  · rintro ⟨p, hp, hds⟩
    obtain ⟨past, future, hacts, hpublishes⟩ := hp.moment
    refine ⟨past, p, future, ⟨h.lastWord hacts hpublishes hp.2, ?_⟩, hds⟩
    have hfinds := finds_of_enabled_after h.own hon
    rw [hacts, ← List.singleton_append, ← List.append_assoc, throughout_append,
      Bool.and_eq_true] at hfinds
    exact hfinds.2

end

end Session

end DiagnosticFeed
