import DiagnosticFeed.Proofs.Files
import DiagnosticFeed.Proofs.Session.Progress

/-!
# Publications

A publication is the replacement of what is displayed for a document, with its fixes. It is read off
the run itself: an attempt that had published nothing has done so after its step. The first half of
this module ties the notion to the state. A step publishes if and only if it brings an answer of the
analyzer while the ticket is current, and then what is displayed and known changes as `Found` says;
no other action puts anything on display.

The second half is about the publications of a whole run, in their order.
-/

namespace DiagnosticFeed

def Stage.published? : Stage → Option (Begun × List Diagnostic)
  | .ended (some b) (.ok (some ds)) | .settled (some b) (.ok (some ds)) => some (b, ds)
  | _ => none

/-- The answer of the analyzer that the next step of an attempt ends with. -/
def Stage.answer? : Stage → Option (Begun × Target × Answer)
  | .running b t none run _ _ =>
    if run.waitFault.isNone then some (b, t, run.answer t.path) else none
  | .cleaning b t _ (.ok (some answer)) => some (b, t, answer)
  | _ => none

/-- The answer is that of a run, or what is kept of one while the snapshot is removed. -/
theorem Stage.answer?_cases {st : Stage} {b : Begun} {t : Target} {answer : Answer}
    (h : st.answer? = some (b, t, answer)) :
    (∃ run due order, st = .running b t none run due order ∧ run.waitFault = none ∧
      answer = run.answer t.path) ∨ ∃ p, st = .cleaning b t p (.ok (some answer)) := by
  cases st with
  | running b' t' snap run due order =>
    cases snap with
    | none =>
      rw [Stage.answer?] at h
      split at h
      · next fine =>
        cases h
        exact Or.inl ⟨run, due, order, rfl, Option.isNone_iff_eq_none.mp fine, rfl⟩
      · cases h
    | some p => cases h
  | cleaning b' t' p o =>
    match o, h with
    | .ok (some answer'), h =>
      cases h
      exact Or.inr ⟨p, rfl⟩
  | _ => cases h

/-- One replacement of what is displayed for a document. -/
structure Publication where
  /-- The attempt that made it. -/
  id : Nat
  /-- Which document. -/
  doc : Nat
  ticket : Ticket
  diagnostics : List Diagnostic

namespace Session

def publication? (s : Session) : Action → Option Publication
  | .step id => do
    let a ← s.attempt? id
    let a' ← (s.step id).attempt? id
    match a.stage.published?, a'.stage.published? with
    | none, some (b, ds) => some ⟨id, a.doc, b.ticket, ds⟩
    | _, _ => none
  | _ => none

/-! ## Steps that publish -/

/-- `s'` displays and knows for a document what the analyzer printed, in place of what `s` did. -/
structure Found (s : Session) (d : Document) (t : Target) (stdout : String) (s' : Session) :
    Prop where
  registry : s'.registry = (s.read d t stdout).registry
  nextDiagnostic : s'.nextDiagnostic = s.nextDiagnostic + (s.read d t stdout).diagnostics.length
  display : s'.bench.display = Keyed.set s.bench.display d.uri (s.read d t stdout).diagnostics
  enabled : s.enabled = true → s'.enabled = true

/-- `s'` displays and knows what `s` did. -/
structure Bare (s s' : Session) : Prop where
  registry : s'.registry = s.registry
  nextDiagnostic : s'.nextDiagnostic = s.nextDiagnostic
  display : s'.bench.display = s.bench.display
  enabled : s.enabled = true → s'.enabled = true

/-- `s'` knows what `s` did and displays nothing, since the executable is missing. -/
structure Cleared (s s' : Session) : Prop where
  registry : s'.registry = s.registry
  nextDiagnostic : s'.nextDiagnostic = s.nextDiagnostic
  display : s'.bench.display = []

theorem Kept.bare {s s' : Session} (h : Kept s s') : Bare s s' :=
  ⟨h.registry, h.nextDiagnostic, h.display, fun hs ↦ h.enabled_eq.trans hs⟩

theorem Bare.trans {s s' s'' : Session} (h : Bare s s') (h' : Bare s' s'') : Bare s s'' where
  registry := h'.registry.trans h.registry
  nextDiagnostic := h'.nextDiagnostic.trans h.nextDiagnostic
  display := h'.display.trans h.display
  enabled := fun hs ↦ h'.enabled (h.enabled hs)

/-- The two ways of an attempt's step: `stage` is the one after it, and `answer` what it brings. -/
inductive Outcome (s : Session) (d : Document) (b : Begun) (t : Target) (s' : Session) :
    Option Answer → Stage → Prop
  | published (answer : Answer) (st : Stage) (current : b.ticket.isCurrent d = true)
    (published : st.published? = some (b, (s.read d t answer.stdout).diagnostics))
    (found : Found s d t answer.stdout s') : Outcome s d b t s' (some answer) st
  | bare (answer : Option Answer) (st : Stage)
    (old : answer.isSome = true → b.ticket.isCurrent d = false)
    (nothing : st.published? = none) (bare : Bare s s') : Outcome s d b t s' answer st

section

variable {s s' : Session} {d : Document} {b : Begun} {t : Target}
  {o : Except Failure (Option Answer)} {snap : Option FilePath} {st st' : Stage}

/-- The answer in what the analyzer came to. -/
def answerOf (o : Except Failure (Option Answer)) : Option Answer :=
  o.toOption.join

theorem Ending.outcome {r : Result} (h : Ending s d b t s' o r) :
    Outcome s d b t s' (answerOf o) (.ended (some b) r) := by
  cases h with
  | failed e kept => exact .bare _ _ (fun h ↦ by cases h) rfl kept.bare
  | nothing kept => exact .bare _ _ (fun h ↦ by cases h) rfl kept.bare
  | stale answer old kept => exact .bare _ _ (fun _ ↦ old) rfl kept.bare
  | published answer current kept =>
    exact .published _ _ current rfl
      ⟨kept.registry, kept.nextDiagnostic, kept.display, fun hs ↦ kept.enabled_eq.trans hs⟩

theorem Following.bare (h : Following s d b t s' o snap st) (ho : answerOf o = none) :
    st.published? = none ∧ Bare s s' := by
  cases h with
  | toClean p kept => exact ⟨rfl, kept.bare⟩
  | toEnd r ending =>
    have houtcome := ending.outcome
    rw [ho] at houtcome
    cases houtcome with
    | bare _ _ old nothing bare => exact ⟨nothing, bare⟩

theorem Calling.bare (h : Calling s d b t snap s' st) : st.published? = none ∧ Bare s s' := by
  cases h with
  | pathless st empty following => exact following.bare rfl
  | spawned run directory path kept => exact ⟨rfl, kept.bare⟩

/-- An outcome holds from a session if it holds from one that displays and knows the same. -/
theorem Outcome.of_bare {s₁ : Session} {answer : Option Answer}
    (h : Outcome s₁ d b t s' answer st) (hcwd : s₁.bench.disk.cwd = s.bench.disk.cwd)
    (hbare : Bare s s₁) : Outcome s d b t s' answer st := by
  cases h with
  | published answer st current published found =>
    have hread : s₁.read d t answer.stdout = s.read d t answer.stdout := by
      rw [read, read, cwd, cwd, hcwd, hbare.registry, hbare.nextDiagnostic]
    refine .published answer st current (by rw [published, hread]) ⟨?_, ?_, ?_, ?_⟩
    · rw [found.registry, hread]
    · rw [found.nextDiagnostic, hread, hbare.nextDiagnostic]
    · rw [found.display, hread, hbare.display]
    · exact fun hs ↦ found.enabled (hbare.enabled hs)
  | bare answer st old nothing bare => exact .bare answer st old nothing (hbare.trans bare)

theorem Outcome.of_cleaning {p : FilePath} (h : Outcome s d b t s' (answerOf o) st') :
    (∃ b₁ t₁ answer, (Stage.cleaning b t p o).answer? = some (b₁, t₁, answer) ∧
        Outcome s d b₁ t₁ s' (some answer) st') ∨
      (Stage.cleaning b t p o).answer? = none ∧ st'.published? = none ∧
        (Bare s s' ∨ false = true ∧ Cleared s s') := by
  match o, h with
  | .ok (some answer), h => exact Or.inl ⟨b, t, answer, rfl, h⟩
  | .ok none, .bare _ _ _ hnothing hbare => exact Or.inr ⟨rfl, hnothing, Or.inl hbare⟩
  | .error e, .bare _ _ _ hnothing hbare => exact Or.inr ⟨rfl, hnothing, Or.inl hbare⟩

end

theorem cwd_delete {disk disk' : Disk} {p : FilePath} {notices : List Log.Notice}
    (h : Snapshot.delete disk p = .ok (disk', notices)) : disk'.cwd = disk.cwd := by
  rcases Disk.eq_of_delete h with rfl | rfl <;> rfl

theorem enabled_ended (s : Session) (h : s.enabled = true) :
    Session.enabled { s with bench := { s.bench with client := s.bench.client.ended } } = true := by
  rw [enabled, Bool.not_eq_true'] at h ⊢
  rw [Client.ended, h]
  rfl

end Session

/-- Whether the executable turns out to be missing in the next step of an attempt. -/
def Stage.missesExecutable : Stage → Bool
  | .spawning _ _ _ _ directory (some e) => Client.refusal directory e == .executableMissing
  | _ => false

namespace Session

/-- **When a step publishes**: it brings an answer, and the ticket is current. -/
theorem Move.outcome {s s' : Session} {d : Document} {st st' : Stage} (h : Move s d s' st st') :
    (∃ b t answer, st.answer? = some (b, t, answer) ∧ Outcome s d b t s' (some answer) st') ∨
      st.answer? = none ∧ st'.published? = none ∧
        (Bare s s' ∨ st.missesExecutable = true ∧ Cleared s s') := by
  have hthrough : ∀ {s₁ : Session}, Bare s₁ s' → Bare s s₁ → Bare s s' := fun h' h ↦ h.trans h'
  cases h with
  | turnedDown off kept => exact Or.inr ⟨rfl, rfl, Or.inl kept.bare⟩
  | inPlace st on inPlace calling => exact Or.inr ⟨rfl, calling.bare.1, Or.inl calling.bare.2⟩
  | copy on copy kept =>
    exact Or.inr ⟨rfl, rfl, Or.inl (hthrough kept.bare ⟨rfl, rfl, rfl, id⟩)⟩
  | noRoom b t p text e failed kept => exact Or.inr ⟨rfl, rfl, Or.inl kept.bare⟩
  | room b t p text disk made kept =>
    exact Or.inr ⟨rfl, rfl, Or.inl (hthrough kept.bare ⟨rfl, rfl, rfl, id⟩)⟩
  | unwritten b t p text e disk failed kept =>
    exact Or.inr ⟨rfl, rfl, Or.inl (hthrough kept.bare ⟨rfl, rfl, rfl, id⟩)⟩
  | written b t p text disk st written calling =>
    exact Or.inr ⟨rfl, calling.bare.1, Or.inl (hthrough calling.bare.2 ⟨rfl, rfl, rfl, id⟩)⟩
  | entered b t snap run directory kept => exact Or.inr ⟨rfl, rfl, Or.inl kept.bare⟩
  | missing b t snap run directory e st cause following =>
    obtain ⟨hnothing, hbare⟩ := following.bare rfl
    exact Or.inr ⟨rfl, hnothing,
      Or.inr ⟨by simp [Stage.missesExecutable, cause], hbare.registry, hbare.nextDiagnostic,
        hbare.display⟩⟩
  | refused b t snap run directory e st cause following =>
    obtain ⟨hnothing, hbare⟩ := following.bare rfl
    exact Or.inr ⟨rfl, hnothing, Or.inl hbare⟩
  | broken b t snap run directory e st cause following =>
    obtain ⟨hnothing, hbare⟩ := following.bare rfl
    exact Or.inr ⟨rfl, hnothing, Or.inl hbare⟩
  | lost b t snap run due order message st fault following =>
    obtain ⟨hnothing, hbare⟩ := following.bare rfl
    refine Or.inr ⟨?_, hnothing, Or.inl hbare⟩
    cases snap with
    | none => simp [Stage.answer?, fault]
    | some p => rfl
  | answered b t snap run due order st fine following =>
    have hended : Bare s { s with bench := { s.bench with client := s.bench.client.ended } } :=
      ⟨rfl, rfl, rfl, s.enabled_ended⟩
    cases following with
    | toClean p kept => exact Or.inr ⟨rfl, rfl, Or.inl (hended.trans kept.bare)⟩
    | toEnd r ending =>
      refine Or.inl ⟨b, t, run.answer t.path, by simp [Stage.answer?, fine], ?_⟩
      exact ending.outcome.of_bare rfl hended
  | cleaned b t p o disk notices r gone ending =>
    exact (ending.outcome.of_bare (cwd_delete gone) ⟨rfl, rfl, rfl, id⟩).of_cleaning
  | uncleaned b t p o e r failed ending => exact ending.outcome.of_cleaning

/-! ## Actions that publish -/

section

variable {s : Session} {e : Action} {p : Publication}

theorem published?_of_canStep {a : Attempt} (h : s.canStep a = true) :
    a.stage.published? = none := by
  rw [canStep] at h
  obtain ⟨i, doc, origin, st⟩ := a
  cases st <;> first | rfl | cases h

theorem publication?_step {i : Nat} {a : Attempt} {st : Stage} (ha : s.attempt? i = some a)
    (hcan : s.canStep a = true) (hst : (s.step i).attempt? i = some { a with stage := st }) :
    s.publication? (.step i) =
      st.published?.map fun found ↦ ⟨i, a.doc, found.1.ticket, found.2⟩ := by
  have hbefore := published?_of_canStep hcan
  rw [publication?, ha, hst]
  simp only [Option.bind_eq_bind, Option.bind_some, hbefore]
  cases st.published? with
  | none => rfl
  | some found => rfl

theorem publication?_of_idle {i : Nat} (hsame : s.step i = s) : s.publication? (.step i) = none := by
  rw [publication?, hsame]
  cases ha : s.attempt? i with
  | none => rfl
  | some a =>
    simp only [Option.bind_eq_bind, Option.bind_some]
    cases a.stage.published? <;> rfl

theorem begun?_of_answer? {st : Stage} {b : Begun} {t : Target} {answer : Answer}
    (h : st.answer? = some (b, t, answer)) : st.begun? = some b := by
  rcases Stage.answer?_cases h with ⟨run, due, order, rfl, -, -⟩ | ⟨p, rfl⟩ <;> rfl

/-- How a publication comes about: its attempt has an answer, and its ticket is current. -/
structure Publishes (s : Session) (p : Publication) (d : Document) (t : Target) (answer : Answer) :
    Prop where
  attempt : ∃ a b, s.attempt? p.id = some a ∧ a.doc = p.doc ∧
    a.stage.answer? = some (b, t, answer) ∧ b.ticket = p.ticket
  document : s.documents[p.doc]? = some d
  current : p.ticket.isCurrent d = true
  diagnostics : p.diagnostics = (s.read d t answer.stdout).diagnostics
  found : Found s d t answer.stdout (s.act (.step p.id))

theorem Publishes.version_eq {d : Document} {t : Target} {answer : Answer}
    (h : Publishes s p d t answer) : d.version = p.ticket.version := by
  have hcurrent := h.current
  rw [Ticket.isCurrent, Bool.and_eq_true] at hcurrent
  exact eq_of_beq hcurrent.2

theorem Publishes.closed_eq {d : Document} {t : Target} {answer : Answer}
    (h : Publishes s p d t answer) : d.closed = false := by
  have hcurrent := h.current
  rw [Ticket.isCurrent, Bool.and_eq_true, Bool.and_eq_true] at hcurrent
  simpa using hcurrent.1.1

theorem publishes_of_publication? (h : s.publication? e = some p) :
    e = .step p.id ∧ ∃ d t answer, Publishes s p d t answer := by
  cases e with
  | step i =>
    rcases s.step_cases i with hsame | ⟨a, d, st, ha, hd, hcan, hattempts, hmove⟩
    · -- Nothing has changed, so nothing was published.
      rw [publication?, hsame] at h
      cases ha : s.attempt? i with
      | none => simp [ha] at h
      | some a =>
        simp only [ha, Option.bind_eq_bind, Option.bind_some] at h
        cases hpublished : a.stage.published? <;> simp [hpublished] at h
    · rw [publication?_step ha hcan (attempt?_of_move ha hattempts)] at h
      rcases hmove.outcome with ⟨b, t, answer, hanswer, houtcome⟩ | ⟨-, hnothing, -⟩
      · cases houtcome with
        | published answer st current published found =>
          rw [published] at h
          cases h
          exact ⟨rfl, d, t, answer, ⟨a, b, ha, rfl, hanswer, rfl⟩, hd, current, rfl, found⟩
        | bare answer st old nothing bare =>
          rw [nothing] at h
          cases h
      · rw [hnothing] at h
        cases h
  | _ => cases h

/-- An attempt that is about to end with an answer publishes it if its ticket is current, and else
leaves what is displayed as it is. -/
theorem publication?_of_answer {i : Nat} {a : Attempt} {d : Document} {b : Begun} {t : Target}
    {answer : Answer} (ha : s.attempt? i = some a) (hd : s.documents[a.doc]? = some d)
    (hcan : s.canStep a = true) (hanswer : a.stage.answer? = some (b, t, answer)) :
    (b.ticket.isCurrent d = true ∧
        s.publication? (.step i) =
          some ⟨i, a.doc, b.ticket, (s.read d t answer.stdout).diagnostics⟩ ∧
        Found s d t answer.stdout (s.act (.step i))) ∨
      (b.ticket.isCurrent d = false ∧ s.publication? (.step i) = none ∧
        (s.act (.step i)).bench.display = s.bench.display) := by
  obtain ⟨st, hattempts, hmove⟩ := step_move ha hd hcan
  rw [publication?_step ha hcan (attempt?_of_move ha hattempts)]
  rcases hmove.outcome with ⟨b₁, t₁, answer₁, hanswer₁, houtcome⟩ | ⟨hnone, -, -⟩
  · rw [hanswer] at hanswer₁
    cases hanswer₁
    cases houtcome with
    | published answer st current published found =>
      exact Or.inl ⟨current, by rw [published]; rfl, found⟩
    | bare answer st old nothing bare =>
      exact Or.inr ⟨old rfl, by rw [nothing]; rfl, bare.display⟩
  · rw [hnone] at hanswer
    cases hanswer

/-- What takes an entry off the display: its document is forgotten, or the executable is missing. -/
inductive Withdraws (s : Session) (uri : String) : Action → Prop
  | forgotten (doc : Nat) (d : Document) (document : s.documents[doc]? = some d)
    (same : d.uri = uri) : Withdraws s uri (.forget doc)
  | missing (id : Nat) (a : Attempt) (attempt : s.attempt? id = some a)
    (misses : a.stage.missesExecutable = true) : Withdraws s uri (.step id)

/-- What an action that publishes nothing makes of the two stores, the display and the fixes. -/
inductive Silent (s s' : Session) : Action → Prop
  | bare (e : Action) (registry : s'.registry = s.registry)
    (nextDiagnostic : s'.nextDiagnostic = s.nextDiagnostic)
    (display : s'.bench.display = s.bench.display) : Silent s s' e
  | forgotten (doc : Nat) (d : Document) (document : s.documents[doc]? = some d)
    (registry : s'.registry = s.registry.invalidate d.uri)
    (nextDiagnostic : s'.nextDiagnostic = s.nextDiagnostic)
    (display : s'.bench.display = Keyed.erase s.bench.display d.uri) : Silent s s' (.forget doc)
  | missing (id : Nat) (a : Attempt) (d : Document) (attempt : s.attempt? id = some a)
    (document : s.documents[a.doc]? = some d) (misses : a.stage.missesExecutable = true)
    (cleared : Cleared s s') : Silent s s' (.step id)

/-- **Two things empty a store**: forgetting a document, and a missing executable. -/
theorem silent_of_publication? (h : s.publication? e = none) : Silent s (s.act e) e := by
  by_cases haside : e.isAside = true
  · have haside := s.aside_act haside
    exact .bare e haside.registry haside.nextDiagnostic haside.display
  by_cases hunheard : e.isUnheard = true
  · obtain ⟨documents, disk, hact⟩ := s.unheard_act hunheard
    rw [hact]
    exact .bare e rfl rfl rfl
  cases e with
  | edit doc text =>
    have haside := aside_trigger (s.setText doc text) doc
    exact .bare _ haside.registry haside.nextDiagnostic haside.display
  | forget doc =>
    rw [act]
    rcases s.forget_cases doc with hforget | ⟨d, hd, hforget⟩ <;> rw [hforget]
    · exact .bare _ rfl rfl rfl
    · exact .forgotten doc d hd rfl rfl rfl
  | call doc => exact .bare _ rfl rfl rfl
  | fire order =>
    rw [act]
    rcases s.fire_cases order with hfire | ⟨t, -, -, hfire⟩ <;> rw [hfire] <;>
      exact .bare _ rfl rfl rfl
  | step i =>
    rw [act]
    rcases s.step_cases i with hstep | ⟨a, d, st, ha, hd, hcan, hattempts, hmove⟩
    · rw [hstep]
      exact .bare _ rfl rfl rfl
    · rw [publication?_step ha hcan (attempt?_of_move ha hattempts), Option.map_eq_none_iff] at h
      rcases hmove.outcome with ⟨b, t, answer, -, houtcome⟩ | ⟨-, -, hbare | ⟨hmisses, hcleared⟩⟩
      · cases houtcome with
        | published answer st current published found =>
          rw [h] at published
          cases published
        | bare answer st old nothing bare =>
          exact .bare _ bare.registry bare.nextDiagnostic bare.display
      · exact .bare _ hbare.registry hbare.nextDiagnostic hbare.display
      · exact .missing i a d ha hd hmisses hcleared
  | settle i =>
    have hkept := s.kept_settle i
    exact .bare _ hkept.registry hkept.nextDiagnostic hkept.display
  | _ => simp [Action.isAside, Action.isUnheard] at haside hunheard

/-- **Nothing else is put on display**: without a publication, whatever is displayed was displayed
before. -/
theorem bare_of_publication? (h : s.publication? e = none) :
    (s.act e).nextDiagnostic = s.nextDiagnostic ∧ ∀ uri,
      Keyed.get? (s.act e).bench.display uri = Keyed.get? s.bench.display uri ∨
        Withdraws s uri e ∧ Keyed.get? (s.act e).bench.display uri = none := by
  cases silent_of_publication? h with
  | bare e registry nextDiagnostic display =>
    exact ⟨nextDiagnostic, fun uri ↦ Or.inl (by rw [display])⟩
  | forgotten doc d document registry nextDiagnostic display =>
    refine ⟨nextDiagnostic, fun uri ↦ ?_⟩
    rw [display, Keyed.get?_erase]
    split
    · next huri => exact Or.inr ⟨.forgotten doc d document huri, rfl⟩
    · exact Or.inl rfl
  | missing id a d attempt document misses cleared =>
    -- All entries go at once, whichever document the attempt was on.
    refine ⟨cleared.nextDiagnostic, fun uri ↦ Or.inr ⟨.missing id a attempt misses, ?_⟩⟩
    rw [cleared.display]
    rfl

end

/-! ## Runs that publish -/

/-- What some actions publish, the first publication first. -/
def publications (s : Session) : List Action → List Publication
  | [] => []
  | e :: acts => (s.publication? e).toList ++ (s.act e).publications acts

theorem mem_publications {s : Session} {acts : List Action} {p : Publication} :
    p ∈ s.publications acts ↔
      ∃ past e future, acts = past ++ e :: future ∧ (s.after past).publication? e = some p := by
  induction acts generalizing s with
  | nil => simp [publications]
  | cons e acts ih =>
    rw [publications, List.mem_append, ih, Option.mem_toList]
    constructor
    · rintro (hp | ⟨past, e', future, rfl, hp⟩)
      · exact ⟨[], e, acts, rfl, hp⟩
      · exact ⟨e :: past, e', future, rfl, hp⟩
    · rintro ⟨past, e', future, hacts, hp⟩
      rcases List.append_eq_cons_iff.mp hacts.symm with ⟨rfl, h⟩ | ⟨past', rfl, h⟩
      · cases h
        exact Or.inl hp
      · exact Or.inr ⟨past', e', future, h, hp⟩

theorem publications_concat (s : Session) (acts : List Action) (e : Action) :
    s.publications (acts ++ [e]) =
      s.publications acts ++ ((s.after acts).publication? e).toList := by
  induction acts generalizing s with
  | nil => simp [publications]
  | cons e' acts ih =>
    rw [List.cons_append, publications, ih, publications, List.append_assoc, after_cons]

/-- **Versions are published in order.** Of two publications for a document, the later one is of the
same version or of a later one. -/
theorem publications_versions (s : Session) (acts : List Action) :
    (s.publications acts).Pairwise fun p q ↦
      p.doc = q.doc → p.ticket.version ≤ q.ticket.version := by
  induction acts generalizing s with
  | nil => exact List.Pairwise.nil
  | cons e acts ih =>
    -- The first action publishes at most once, at the version that the document has then.
    rw [publications, List.pairwise_append]
    refine ⟨?_, ih _, ?_⟩
    · cases s.publication? e <;> simp
    · intro p hp q hq hdoc
      obtain ⟨rfl, d, t, answer, hpublishes⟩ := publishes_of_publication? (Option.mem_toList.mp hp)
      obtain ⟨past, e', future, -, hq'⟩ := mem_publications.mp hq
      obtain ⟨rfl, d', t', answer', hpublishes'⟩ := publishes_of_publication? hq'
      have hd := hpublishes'.document
      rw [← hdoc, ← after_cons] at hd
      have hlater := (later_of_after hpublishes.document hd).version_le
      rwa [hpublishes.version_eq, hpublishes'.version_eq] at hlater

/-- **What is displayed was published**: an entry comes from a publication for the document of that
name. -/
theorem publication_of_displayed {s₀ : Session} (h₀ : s₀.bench.display = []) {acts : List Action}
    {uri : String} {ds : List Diagnostic}
    (h : Keyed.get? (s₀.after acts).bench.display uri = some ds) :
    ∃ past p future d, acts = past ++ .step p.id :: future ∧
      (s₀.after past).publication? (.step p.id) = some p ∧
      (s₀.after past).documents[p.doc]? = some d ∧ d.uri = uri ∧ p.diagnostics = ds := by
  induction acts using List.reverseRecOn with
  | nil =>
    rw [after_nil, h₀] at h
    cases h
  | append_singleton acts e ih =>
    -- The entry was there before the last action, and so was its publication.
    have hbefore : Keyed.get? (s₀.after acts).bench.display uri = some ds →
        ∃ past p future d, acts ++ [e] = past ++ .step p.id :: future ∧
          (s₀.after past).publication? (.step p.id) = some p ∧
          (s₀.after past).documents[p.doc]? = some d ∧ d.uri = uri ∧ p.diagnostics = ds := by
      intro hbefore
      obtain ⟨past, p, future, d, rfl, hp⟩ := ih hbefore
      exact ⟨past, p, future ++ [e], d, by simp, hp⟩
    rw [after_concat] at h
    cases hp : (s₀.after acts).publication? e with
    | none =>
      rcases (bare_of_publication? hp).2 uri with hsame | ⟨-, hnone⟩
      · exact hbefore (hsame ▸ h)
      · rw [hnone] at h
        cases h
    | some p =>
      obtain ⟨rfl, d, t, answer, hpublishes⟩ := publishes_of_publication? hp
      rw [hpublishes.found.display, Keyed.get?_set] at h
      split at h
      · next huri =>
        refine ⟨acts, p, [], d, rfl, hp, hpublishes.document, huri, ?_⟩
        rw [hpublishes.diagnostics]
        exact Option.some.inj h
      · exact hbefore h

end Session

end DiagnosticFeed
