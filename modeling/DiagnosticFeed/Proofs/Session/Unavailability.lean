import DiagnosticFeed.Proofs.Session.LastWord

/-!
# What is displayed while the analyzer is unavailable

A missing executable turns triggers off and takes everything off the display. It does not end the
attempts that are under way. One of them that has an answer publishes it as ever, as long as its
ticket is current, and as no attempt begins any more, nothing refreshes what it puts back.

So the display stays empty if and only if each such publication is followed by forgetting its
document. Only attempts that had begun before the executable was missed can make one.
-/

namespace DiagnosticFeed

namespace Session

/-- In a run, an action was the last one that found the executable missing. -/
structure LastMiss (s₀ : Session) (acts past : List Action) (e : Action) (since : List Action) :
    Prop where
  made : acts = past ++ e :: since
  misses : (s₀.after past).misses e = true
  found : (s₀.after (past ++ [e])).throughout finds since = true

section

variable {s₀ s : Session} {acts past since mid rest : List Action} {e : Action} {p : Publication}

theorem enabled_after_of_finds (hon : s.enabled = true) (h : s.throughout finds acts = true) :
    (s.after acts).enabled = true := by
  induction acts generalizing s with
  | nil => exact hon
  | cons e acts ih =>
    rw [throughout, Bool.and_eq_true] at h
    exact ih (enabled_of_finds hon h.1) h.2

theorem exists_lastMiss (hon : s₀.enabled = true) (hoff : (s₀.after acts).enabled = false) :
    ∃ past e since, LastMiss s₀ acts past e since := by
  induction acts using List.reverseRecOn with
  | nil =>
    rw [after_nil, hon] at hoff
    cases hoff
  | append_singleton acts e ih =>
    cases hmisses : (s₀.after acts).misses e with
    | true => exact ⟨acts, e, [], rfl, hmisses, rfl⟩
    | false =>
      have hbefore : (s₀.after acts).enabled = false := by
        rw [Bool.eq_false_iff]
        intro hon
        rw [after_concat, enabled_of_finds hon (by rw [finds, hmisses]; rfl)] at hoff
        cases hoff
      obtain ⟨past, e', since, rfl, hmissed, hfound⟩ := ih hbefore
      refine ⟨past, e', since ++ [e], by simp, hmissed, ?_⟩
      rw [throughout_concat, hfound, ← after_append, List.append_assoc, List.singleton_append,
        finds, hmisses]
      rfl

/-- What is found between two moments after a miss. -/
theorem LastMiss.found_of_append (h : LastMiss s₀ acts past e since)
    (hsince : since = mid ++ rest) :
    (s₀.after (past ++ e :: mid)).throughout finds rest = true := by
  have hfound := h.found
  rw [hsince, throughout_append, Bool.and_eq_true, ← after_append, List.append_assoc,
    List.singleton_append] at hfound
  exact hfound.2

theorem LastMiss.not_enabled (h : LastMiss s₀ acts past e since)
    (hoff : (s₀.after acts).enabled = false) (hsince : since = mid ++ rest) :
    (s₀.after (past ++ e :: mid)).enabled = false := by
  rw [Bool.eq_false_iff]
  intro hon
  have hend := enabled_after_of_finds hon (h.found_of_append hsince)
  rw [← after_append, List.append_assoc, List.cons_append, ← hsince, ← h.made, hoff] at hend
  cases hend

/-- Who publishes while triggers are turned off had begun before. -/
theorem LastMiss.begins_of_publication? (h : LastMiss s₀ acts past e since)
    (h₀ : s₀.attempts = []) (hoff : (s₀.after acts).enabled = false)
    (hsince : since = mid ++ .step p.id :: rest)
    (hp : (s₀.after (past ++ e :: mid)).publication? (.step p.id) = some p) :
    ∃ earlier later d b, past = earlier ++ .step p.id :: later ∧
      Begins s₀ earlier p.id p.doc d b := by
  obtain ⟨-, d₁, t, answer, hpublishes⟩ := publishes_of_publication? hp
  obtain ⟨a, b, ha, hdoc, hanswer, -⟩ := hpublishes.attempt
  obtain ⟨earlier, later, d, hpast, hbegins⟩ := begins_of_begun h₀ ha (begun?_of_answer? hanswer)
  rw [attempt?_id ha, hdoc] at hbegins
  rw [attempt?_id ha] at hpast
  rcases moments_cases hpast with ⟨rfl, he, -⟩ | ⟨between, rfl, hmid⟩ | ⟨between, hearlier, -⟩
  · -- The missed attempt had been started, so it cannot have been at its first step.
    obtain ⟨a', ha', -, hcreated⟩ := hbegins.created
    have hmisses := h.misses
    rw [← he] at hmisses
    obtain ⟨a'', d'', ha'', -, hstage⟩ := misses_iff.mp hmisses
    rw [ha'] at ha''
    cases ha''
    rw [hcreated] at hstage
    cases hstage
  · have hlater : since = between ++ (.step p.id :: later ++ .step p.id :: rest) := by
      rw [hsince, hmid]
      simp
    cases hbegins.enabled.symm.trans (h.not_enabled hoff hlater)
  · exact ⟨earlier, between, d, b, hearlier, hbegins⟩

/-- **What is displayed while the analyzer is unavailable** is what attempts have published that had
begun before it was found missing. Nothing is displayed if and only if, under each name, the last
such publication was followed by forgetting a document of the name. -/
theorem displays_nothing_iff (h₀ : s₀.Opened) (hoff : (s₀.after acts).enabled = false) :
    ∃ past e since, LastMiss s₀ acts past e since ∧
      ((s₀.after acts).bench.display = [] ↔ ∀ uri mid p rest, since = mid ++ .step p.id :: rest →
        ¬ LastWord s₀ acts uri (past ++ e :: mid) p rest) ∧
      ∀ mid p rest, since = mid ++ .step p.id :: rest →
        (s₀.after (past ++ e :: mid)).publication? (.step p.id) = some p →
          ∃ earlier later d b, past = earlier ++ .step p.id :: later ∧
            Begins s₀ earlier p.id p.doc d b := by
  obtain ⟨past, e, since, hmiss⟩ := exists_lastMiss h₀.enabled_eq hoff
  refine ⟨past, e, since, hmiss, ?_, ?_⟩
  · rw [Keyed.eq_nil_iff]
    constructor
    · intro hnone uri mid p rest hsince hlast
      have hsplit : since = (mid ++ [.step p.id]) ++ rest := by
        rw [hsince]
        simp
      have hfound := hmiss.found_of_append hsplit
      have hshown := (displayed_iff h₀.display_eq).mpr
        ⟨past ++ e :: mid, p, rest, ⟨hlast, by simpa using hfound⟩, rfl⟩
      rw [hnone uri] at hshown
      cases hshown
    · intro hnone uri
      by_contra hsome
      obtain ⟨ds, hds⟩ := Option.ne_none_iff_exists'.mp hsome
      obtain ⟨past', p, future, hshown, -⟩ := (displayed_iff h₀.display_eq).mp hds
      rcases moments_cases (hmiss.made.symm.trans hshown.made) with
        ⟨rfl, he, -⟩ | ⟨mid, rfl, hsince⟩ | ⟨between, rfl, hfuture⟩
      · have hmisses := hmiss.misses
        rw [← he, not_misses_of_publication? hshown.publication] at hmisses
        cases hmisses
      · exact hnone uri mid p future hsince hshown.toLastWord
      · -- The publication was on display when the executable was missed.
        have hfound := throughout_iff.mp hshown.found between e since hfuture
        rw [← after_append, List.append_assoc, List.singleton_append, finds, hmiss.misses] at hfound
        cases hfound
  · intro mid p rest hsince hp
    exact hmiss.begins_of_publication? h₀.attempts_eq hoff hsince hp

end

/-- Two attempts under way at once: the second one misses the executable, and then the first one
ends. -/
def oneMiss : List Action :=
  [.call 0, .call 1, .step 0, .step 1, .step 0, .step 1, .step 0]

theorem oneMiss_displays : ((losingSample oneFinding).after oneMiss).enabled = false ∧
    ((losingSample oneFinding).after oneMiss).bench.display.isEmpty = false := by
  decide +kernel

/-- What the first attempt puts back is displayed, since nothing has come after it. -/
theorem displays_nothing_sample :
    ((losingSample oneFinding).after oneMiss).enabled = false ∧
      ∃ past e since, LastMiss (losingSample oneFinding) oneMiss past e since ∧
        ∃ uri mid p rest, since = mid ++ .step p.id :: rest ∧
          LastWord (losingSample oneFinding) oneMiss uri (past ++ e :: mid) p rest := by
  obtain ⟨hoff, hshown⟩ := oneMiss_displays
  obtain ⟨past, e, since, hmiss, hempty, -⟩ :=
    displays_nothing_iff (opened_losingSample oneFinding) hoff
  refine ⟨hoff, past, e, since, hmiss, ?_⟩
  by_contra hnone
  refine List.isEmpty_eq_false_iff.mp hshown (hempty.mpr ?_)
  intro uri mid p rest hsince hlast
  exact hnone ⟨uri, mid, p, rest, hsince, hlast⟩

/-- So an analyzer that is unavailable can have something displayed. -/
theorem not_displays_nothing :
    ¬ ∀ s₀ acts, Opened s₀ → (s₀.after acts).enabled = false →
      (s₀.after acts).bench.display = [] := by
  intro hnothing
  obtain ⟨hoff, hshown⟩ := oneMiss_displays
  have hempty := hnothing _ oneMiss (opened_losingSample oneFinding) hoff
  rw [hempty] at hshown
  cases hshown

end Session

end DiagnosticFeed
