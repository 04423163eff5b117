import DiagnosticFeed.Session.Clockwork
import Mathlib.Data.List.Induction

/-!
# What can happen to a session

The state machine behind every statement about sessions. An action is one indivisible thing that can
happen next: the user changes, saves or closes a document, the host tells the session so, a quiet
period expires, an attempt takes one step, time passes, the files change from outside. A list of
actions is an interleaving, and no order is preferred: an action that cannot take place leaves the
session as it is, so every list is possible and all of them together are all runs.

The deterministic clockwork of `Session.Clockwork` is one scheduler of these actions, see
`Proofs.Session.Schedule`.
-/

namespace DiagnosticFeed

namespace Session

/-- Sessions that nothing has happened to yet. -/
def Opened (s : Session) : Prop :=
  ∃ disk settings documents workspace runs, s = open_ disk settings documents workspace runs

section

variable {s : Session}

theorem Opened.attempts_eq (h : s.Opened) : s.attempts = [] := by
  obtain ⟨disk, settings, documents, workspace, runs, rfl⟩ := h
  rfl

theorem Opened.display_eq (h : s.Opened) : s.bench.display = [] := by
  obtain ⟨disk, settings, documents, workspace, runs, rfl⟩ := h
  rfl

theorem Opened.registry_eq (h : s.Opened) : s.registry = {} := by
  obtain ⟨disk, settings, documents, workspace, runs, rfl⟩ := h
  rfl

theorem Opened.enabled_eq (h : s.Opened) : s.enabled = true := by
  obtain ⟨disk, settings, documents, workspace, runs, rfl⟩ := h
  rfl

end

/-- One thing that can happen to a session. -/
inductive Action where
  /-- The editor opens a document. -/
  | openDocument (d : Document)
  /-- A document gets a new text; the session is not told. -/
  | setText (doc : Nat) (text : String)
  /-- A document gets a new text, and the session is told at once. -/
  | edit (doc : Nat) (text : String)
  | save (doc : Nat)
  /-- A document is closed; the session is not told. -/
  | close (doc : Nat)
  /-- The session is told that a document was closed. -/
  | forget (doc : Nat)
  /-- The session is told that a document was opened, changed or saved. -/
  | trigger (doc : Nat)
  /-- An attempt is asked for directly. -/
  | call (doc : Nat)
  /-- The quick fixes for diagnostics of a document are asked for. -/
  | offer (doc : Nat) (gs : List Diagnostic)
  | start (docs : List Nat)
  | stop
  | reconfigure (settings : AnalyzerSettings) (docs : List Nat)
  /-- A quiet period expires. -/
  | fire (order : Nat)
  /-- An attempt takes its next step. -/
  | step (id : Nat)
  /-- Whoever waits for an attempt hears that it has ended. -/
  | settle (id : Nat)
  /-- Time passes. -/
  | pass (now : Time)
  /-- The files change from outside. -/
  | disturb (disk : Disk)
  /-- It is settled how the coming runs of the analyzer will go. -/
  | expect (runs : List Run)

def act (s : Session) : Action → Session
  | .openDocument d => { s with documents := s.documents ++ [d] }
  | .setText doc text => s.setText doc text
  | .edit doc text => (s.setText doc text).trigger doc
  | .save doc =>
    match s.save doc with
    | .ok saved => saved
    | .error (_, kept) => kept
  | .close doc => s.closeDocument doc
  | .forget doc => s.forget doc
  | .trigger doc => s.trigger doc
  | .call doc => s.call doc
  | .offer doc gs => (s.documents[doc]?.map fun d ↦ s.afterOffer d gs).getD s
  | .start docs => (s.start docs).toOption.getD s
  | .stop => s.stop
  | .reconfigure settings docs => s.reconfigure settings docs
  | .fire order => s.fire order
  | .step id => s.step id
  | .settle id => s.settle id
  | .pass now => { s with now := max s.now now }
  | .disturb disk => s.withDisk disk
  | .expect runs => { s with bench := { s.bench with runs := runs } }

/-- A session after a list of actions, the first one first. -/
def after (s : Session) (acts : List Action) : Session :=
  acts.foldl act s

@[simp] theorem after_nil (s : Session) : s.after [] = s := rfl

@[simp] theorem after_cons (s : Session) (e : Action) (acts : List Action) :
    s.after (e :: acts) = (s.act e).after acts := rfl

theorem after_append (s : Session) (acts more : List Action) :
    s.after (acts ++ more) = (s.after acts).after more :=
  List.foldl_append

@[simp] theorem after_concat (s : Session) (acts : List Action) (e : Action) :
    s.after (acts ++ [e]) = (s.after acts).act e := by
  rw [after_append, after_cons, after_nil]

/-- Two moments of one run are the same, or one of them comes first. -/
theorem moments_cases {past past' since since' : List Action} {e e' : Action}
    (h : past ++ e :: since = past' ++ e' :: since') :
    (past' = past ∧ e' = e ∧ since' = since) ∨
      (∃ between, past' = past ++ e :: between ∧ since = between ++ e' :: since') ∨
      ∃ between, past = past' ++ e' :: between ∧ since' = between ++ e :: since := by
  rcases List.append_eq_append_iff.mp h with ⟨between, hpast, hsince⟩ | ⟨between, hpast, hsince⟩
  · cases between with
    | nil =>
      cases hsince
      exact Or.inl ⟨by rw [hpast, List.append_nil], rfl, rfl⟩
    | cons x between =>
      cases hsince
      exact Or.inr (Or.inl ⟨between, hpast, rfl⟩)
  · cases between with
    | nil =>
      cases hsince
      exact Or.inl ⟨by rw [hpast, List.append_nil], rfl, rfl⟩
    | cons x between =>
      cases hsince
      exact Or.inr (Or.inr ⟨between, hpast, rfl⟩)

/-- Whether each of some actions meets a condition when it is taken. -/
def throughout (ok : Session → Action → Bool) (s : Session) : List Action → Bool
  | [] => true
  | e :: acts => ok s e && throughout ok (s.act e) acts

section

variable {ok : Session → Action → Bool} {s : Session} {acts more : List Action} {e : Action}

theorem throughout_append :
    s.throughout ok (acts ++ more) =
      (s.throughout ok acts && (s.after acts).throughout ok more) := by
  induction acts generalizing s with
  | nil => rfl
  | cons e acts ih => rw [List.cons_append, throughout, throughout, ih, Bool.and_assoc, after_cons]

theorem throughout_concat :
    s.throughout ok (acts ++ [e]) = (s.throughout ok acts && ok (s.after acts) e) := by
  rw [throughout_append, throughout, throughout, Bool.and_true]

theorem throughout_iff : s.throughout ok acts = true ↔
    ∀ past e future, acts = past ++ e :: future → ok (s.after past) e = true := by
  constructor
  · rintro h past e future rfl
    rw [throughout_append, Bool.and_eq_true, throughout, Bool.and_eq_true] at h
    exact h.2.1
  · intro h
    induction acts using List.reverseRecOn with
    | nil => rfl
    | append_singleton acts e ih =>
      rw [throughout_concat, Bool.and_eq_true]
      refine ⟨ih ?_, h acts e [] rfl⟩
      rintro past e' future rfl
      exact h past e' (future ++ [e]) (by simp)

end

end Session

end DiagnosticFeed
