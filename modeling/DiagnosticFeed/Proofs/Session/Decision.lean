import DiagnosticFeed.Proofs.Session.Unavailability
import DiagnosticFeed.Proofs.Wire.Registration

/-!
# How attempts are decided

An attempt can come to its end in many ways: it is turned down, its snapshot cannot be written, the
analyzer does not start, something breaks, the answer is stale, or the answer is published. One step
decides which it will be. If a snapshot is left to remove, the attempt goes on after that step, but
nothing of its result changes any more.

Only two of the ways touch what is displayed and which fixes and aliases are known, and both do so
in the deciding step alone. A publication replaces what there is for its own document, and leaves
what there is for all others. A missing executable takes everything off the display. So an attempt
that ends in any other way has changed nothing at all.
-/

namespace DiagnosticFeed

/-- How an attempt comes to its end. -/
inductive Exit where
  /-- The analyzer is known to be missing before the attempt begins. -/
  | turnedDown
  /-- There is no path to call the analyzer on. -/
  | uncalled
  /-- The snapshot cannot be written. -/
  | unprepared
  /-- The executable is not found. -/
  | executableMissing
  /-- The directory that the analyzer was to start in is not found. -/
  | directoryMissing
  /-- The operating system refuses to start the analyzer for another reason. -/
  | refused
  /-- Something else goes wrong, at the start or while the analyzer is waited for. -/
  | broken
  /-- The document was changed or closed meanwhile. -/
  | stale
  | published
  deriving DecidableEq

namespace Exit

/-- Whether an attempt that ends in this way is to leave everything as it found it. -/
def isQuiet : Exit → Bool
  | executableMissing | published => false
  | _ => true

/-- Whether a result goes with a way to end: a publication has diagnostics, what broke has a
failure, and all others have nothing. -/
def allows : Exit → Result → Bool
  | published, .ok (some _) => true
  | broken, .error _ => true
  | published, _ | broken, _ => false
  | _, .ok none => true
  | _, _ => false

/-- The way to end of an attempt that has an answer for a document. -/
def ofAnswer (b : Begun) (d : Document) : Exit :=
  if b.ticket.isCurrent d then published else stale

/-- The way to end of an attempt whose run does not start. -/
def ofRefusal : Client.Refusal → Exit
  | .executableMissing => executableMissing
  | .directoryMissing => directoryMissing
  | .other => refused
  | .unforeseen => broken

end Exit

/-- The result that an outcome of the analyzer settles, unless it is an answer. -/
def Result.ofOutcome? : Except Failure (Option Answer) → Option Result
  | .error e => some (.error e)
  | .ok none => some (.ok none)
  | .ok (some _) => none

/-- The result of an attempt, from the moment it is decided. -/
def Stage.result? : Stage → Option Result
  | .cleaning _ _ _ o => Result.ofOutcome? o
  | .ended _ r | .settled _ r => some r
  | _ => none

namespace Session

/-- What the next step of an attempt decides, by the stage that the attempt is in. -/
def exitOf? (s : Session) (d : Document) : Stage → Option Exit
  | .created =>
    if s.enabled then
      if Snapshot.isInPlace d && (Snapshot.inPlace s.cwd d).path.isEmpty then some .uncalled
      else none
    else some .turnedDown
  | .makingRoom _ _ p _ =>
    match Snapshot.makeRoom s.bench.disk s.scratch p with
    | .error _ => some .unprepared
    | .ok _ => none
  | .writing _ t p text =>
    match Snapshot.write s.bench.disk p text with
    | .error _ => some .unprepared
    | .ok _ => if t.path.isEmpty then some .uncalled else none
  | .spawning _ _ _ _ directory (some e) => some (.ofRefusal (Client.refusal directory e))
  | .running b _ snap run _ _ =>
    match run.waitFault, snap with
    | some _, _ => some .broken
    | none, none => some (.ofAnswer b d)
    | none, some _ => none
  | .cleaning b _ _ (.ok (some _)) => some (.ofAnswer b d)
  | _ => none

/-- What the next step of an attempt decides. -/
def exit? (s : Session) (i : Nat) : Option Exit := do
  let a ← s.attempt? i
  let d ← s.documents[a.doc]?
  if s.canStep a then s.exitOf? d a.stage else none

/-! ## One step -/

section

variable {s s' : Session} {d : Document} {b : Begun} {t : Target}
  {o : Except Failure (Option Answer)} {snap : Option FilePath} {st st' : Stage} {r : Result}

/-- What a step makes of a result: one that is there stays, one that the step decides on goes with
the way to end, and without a decision there is none. -/
inductive Decision : Option Result → Option Exit → Option Result → Prop
  | kept (r : Result) : Decision (some r) none (some r)
  | made (x : Exit) (r : Result) (allowed : x.allows r = true) : Decision none (some x) (some r)
  | open_ : Decision none none none

section

variable {before after : Option Result} {decided : Option Exit}

theorem Decision.of_result (h : Decision before decided after) (hr : before = some r) :
    decided = none ∧ after = some r := by
  cases h <;> cases hr
  exact ⟨rfl, rfl⟩

theorem Decision.of_exit {x : Exit} (h : Decision before decided after) (hx : decided = some x) :
    before = none ∧ ∃ r, after = some r ∧ x.allows r = true := by
  cases h <;> cases hx
  next r allowed => exact ⟨rfl, r, rfl, allowed⟩

theorem Decision.exit_of_new (h : Decision before decided after) (hnone : before = none)
    (hr : after = some r) : ∃ x, decided = some x ∧ x.allows r = true := by
  cases h <;> cases hnone <;> cases hr
  next x allowed => exact ⟨x, rfl, allowed⟩

end

theorem Ending.allows {answer : Answer} (h : Ending s d b t s' (.ok (some answer)) r) :
    (Exit.ofAnswer b d).allows r = true := by
  cases h with
  | stale answer old kept =>
    rw [Exit.ofAnswer, if_neg (by simp [old])]
    rfl
  | published answer current kept =>
    rw [Exit.ofAnswer, if_pos current]
    rfl

theorem Ending.result_eq {r' : Result} (h : Ending s d b t s' o r')
    (hr : Result.ofOutcome? o = some r) : r' = r := by
  cases h <;> cases hr <;> rfl

theorem Following.result? (h : Following s d b t s' o snap st)
    (hr : Result.ofOutcome? o = some r) : st.result? = some r := by
  cases h with
  | toClean p kept => exact hr
  | toEnd r' ending => exact congrArg some (ending.result_eq hr)

theorem Following.decision (h : Following s d b t s' o snap st) {x : Exit}
    (hr : Result.ofOutcome? o = some r) (hx : x.allows r = true) :
    Decision none (some x) st.result? := by
  rw [h.result? hr]
  exact .made x r hx

theorem Calling.decision (h : Calling s d b t snap s' st) :
    Decision none (if t.path.isEmpty then some .uncalled else none) st.result? := by
  cases h with
  | pathless st empty following =>
    rw [if_pos empty]
    exact following.decision rfl rfl
  | spawned run directory path kept =>
    rw [path]
    exact .open_

theorem Ending.decision_of_cleaning {s₁ : Session} {p : FilePath} (h : Ending s₁ d b t s' o r) :
    Decision (Stage.cleaning b t p o).result? (s.exitOf? d (.cleaning b t p o)) (some r) := by
  match o, h with
  | .error e, h =>
    rw [h.result_eq (o := .error e) rfl]
    exact .kept _
  | .ok none, h =>
    rw [h.result_eq (o := .ok none) rfl]
    exact .kept _
  | .ok (some answer), h => exact .made _ r h.allows

/-- **A step decides what `exitOf?` says**, and nothing that was decided before. -/
theorem Move.decision (h : Move s d s' st st') :
    Decision st.result? (s.exitOf? d st) st'.result? := by
  cases h with
  | turnedDown off kept =>
    rw [exitOf?, off]
    exact .made _ _ rfl
  | inPlace st on inPlace calling =>
    rw [exitOf?, on, inPlace]
    exact calling.decision
  | copy on copy kept =>
    rw [exitOf?, on, copy]
    exact .open_
  | noRoom b t p text e failed kept =>
    simp only [exitOf?, failed]
    exact .made _ _ rfl
  | room b t p text disk made kept =>
    simp only [exitOf?, made]
    exact .open_
  | unwritten b t p text e disk failed kept =>
    simp only [exitOf?, failed]
    exact .made _ _ rfl
  | written b t p text disk st written calling =>
    simp only [exitOf?, written]
    exact calling.decision
  | entered b t snap run directory kept => exact .open_
  | missing b t snap run directory e st cause following =>
    rw [exitOf?, cause]
    exact following.decision rfl rfl
  | refused b t snap run directory e st cause following =>
    rcases cause with cause | cause <;> rw [exitOf?, cause] <;>
      exact following.decision rfl rfl
  | broken b t snap run directory e st cause following =>
    rw [exitOf?, cause]
    exact following.decision rfl rfl
  | lost b t snap run due order message st fault following =>
    simp only [exitOf?, fault]
    exact following.decision rfl rfl
  | answered b t snap run due order st fine following =>
    simp only [exitOf?, fine]
    cases following with
    | toClean p kept => exact .open_
    | toEnd r ending => exact .made _ r ending.allows
  | cleaned b t p o disk notices r gone ending => exact ending.decision_of_cleaning
  | uncleaned b t p o e r failed ending => exact ending.decision_of_cleaning

theorem exitOf?_of_answer? {answer : Answer} (h : st.answer? = some (b, t, answer)) :
    s.exitOf? d st = some (.ofAnswer b d) := by
  rcases Stage.answer?_cases h with ⟨run, due, order, rfl, fine, -⟩ | ⟨p, rfl⟩
  · simp only [exitOf?, fine]
  · rfl

theorem exitOf?_of_missesExecutable (h : st.missesExecutable = true) :
    s.exitOf? d st = some .executableMissing := by
  obtain ⟨b, t, snap, run, directory, e, rfl, hcause⟩ := Stage.spawning_of_missesExecutable h
  rw [exitOf?, hcause]
  rfl

/-- **Two ways are not quiet**: a missing executable, and an answer. -/
theorem exitOf?_cases {x : Exit} (h : s.exitOf? d st = some x) :
    x.isQuiet = true ∨ x = .executableMissing ∧ st.missesExecutable = true ∨
      ∃ b t answer, st.answer? = some (b, t, answer) := by
  cases st with
  | created =>
    rw [exitOf?] at h
    split at h
    · split at h <;> cases h
      exact Or.inl rfl
    · cases h
      exact Or.inl rfl
  | makingRoom b t p text =>
    rw [exitOf?] at h
    split at h <;> cases h
    exact Or.inl rfl
  | writing b t p text =>
    rw [exitOf?] at h
    split at h
    · cases h
      exact Or.inl rfl
    · split at h <;> cases h
      exact Or.inl rfl
  | spawning b t snap run directory failure =>
    cases failure with
    | none => cases h
    | some e =>
      rw [exitOf?] at h
      cases hcause : Client.refusal directory e with
      | executableMissing =>
        rw [hcause] at h
        cases h
        exact Or.inr (Or.inl ⟨rfl, by simp [Stage.missesExecutable, hcause]⟩)
      | _ =>
        rw [hcause] at h
        cases h
        exact Or.inl rfl
  | running b t snap run due order =>
    cases hfault : run.waitFault with
    | some message =>
      simp only [exitOf?, hfault] at h
      cases h
      exact Or.inl rfl
    | none =>
      cases snap with
      | none => exact Or.inr (Or.inr ⟨b, t, run.answer t.path, by simp [Stage.answer?, hfault]⟩)
      | some p => simp [exitOf?, hfault] at h
  | cleaning b t p o =>
    cases o with
    | error e => cases h
    | ok out =>
      cases out with
      | none => cases h
      | some answer => exact Or.inr (Or.inr ⟨b, t, answer, rfl⟩)
  | ended b r => cases h
  | settled b r => cases h

end

/-! ## What a step makes of the two stores -/

/-- Two sessions that display the same, and know the same fixes and aliases. -/
structure Untouched (s s' : Session) : Prop where
  display : s'.bench.display = s.bench.display
  registry : s'.registry = s.registry

/-- What output of the analyzer comes to for a document that nothing is known of. -/
def readAfresh (s : Session) (d : Document) (t : Target) (stdout : String) : Wire.Intake :=
  Wire.intake s.cwd {} s.nextDiagnostic d t stdout

/-- `s'` displays and knows under the name of a document what the analyzer printed, whatever was
there before, and under all other names what `s` did. -/
structure Replaced (s : Session) (d : Document) (t : Target) (stdout : String) (s' : Session) :
    Prop where
  shown : Keyed.get? s'.bench.display d.uri = some (s.readAfresh d t stdout).diagnostics
  known : FixRegistry.SameAt d.uri (s.readAfresh d t stdout).registry s'.registry
  othersShown : ∀ uri, d.uri ≠ uri →
    Keyed.get? s'.bench.display uri = Keyed.get? s.bench.display uri
  othersKnown : ∀ uri, d.uri ≠ uri → FixRegistry.SameAt uri s.registry s'.registry

/-- What a step of an attempt makes of what is displayed and known, by what it decides. -/
inductive Effect (s : Session) (i : Nat) (s' : Session) : Option Exit → Prop
  | undecided (untouched : Untouched s s') : Effect s i s' none
  | quiet (x : Exit) (quiet : x.isQuiet = true) (untouched : Untouched s s') :
    Effect s i s' (some x)
  | emptied (display : s'.bench.display = []) (registry : s'.registry = s.registry) :
    Effect s i s' (some .executableMissing)
  | replaced (a : Attempt) (d : Document) (b : Begun) (t : Target) (answer : Answer)
    (attempt : s.attempt? i = some a) (document : s.documents[a.doc]? = some d)
    (answered : a.stage.answer? = some (b, t, answer)) (current : b.ticket.isCurrent d = true)
    (replaced : Replaced s d t answer.stdout s') : Effect s i s' (some .published)

section

variable {s s' s₀ : Session} {d : Document} {t : Target} {stdout : String} {i : Nat} {x : Exit}
  {r : Result} {a : Attempt} {acts past future : List Action}

theorem Found.replaced (h : Found s d t stdout s')
    (hgrouped : s.registry.Grouped s.nextDiagnostic) : Replaced s d t stdout s' where
  shown := by
    rw [h.display, Keyed.get?_set, if_pos rfl, readAfresh, read]
    exact congrArg some (Wire.intake_diagnostics ..)
  known := by
    rw [h.registry]
    exact Wire.sameAt_intake ((FixRegistry.nothingAt_empty d.uri).sameAt
      (s.registry.nothingAt_invalidate d.uri))
  othersShown := by
    intro uri hne
    rw [h.display, Keyed.get?_set, if_neg hne]
  othersKnown := by
    intro uri hne
    rw [h.registry]
    exact (hgrouped.sameAt_invalidate hne).trans
      (Wire.sameAt_intake_of_ne hne ((hgrouped.invalidate d.uri).below uri))

/-- A step does nothing and decides nothing, or it is a move that decides what the stage says. -/
theorem exit?_cases (s : Session) (i : Nat) :
    (s.step i = s ∧ s.exit? i = none) ∨ ∃ a d st, s.attempt? i = some a ∧
      s.documents[a.doc]? = some d ∧ (s.step i).attempt? i = some { a with stage := st } ∧
      Move s d (s.step i) a.stage st ∧ s.exit? i = s.exitOf? d a.stage := by
  rcases s.step_eq_self_or i with ⟨hsame, hcan⟩ | ⟨a, d, ha, hd, hcan⟩
  · refine Or.inl ⟨hsame, Option.eq_none_iff_forall_ne_some.mpr fun x hx ↦ ?_⟩
    obtain ⟨a, ha, d, hd, hx⟩ := by simpa [exit?, Option.bind_eq_some_iff] using hx
    simp [hcan a d ha hd] at hx
  · obtain ⟨st, hst, hmove⟩ := step_move ha hd hcan
    exact Or.inr ⟨a, d, st, ha, hd, attempt?_of_move ha hst, hmove,
      by simp [exit?, ha, hd, hcan]⟩

/-- **The effect of a step** on what is displayed and known is that of what it decides. -/
theorem effect_step (s : Session) (hgrouped : s.registry.Grouped s.nextDiagnostic) (i : Nat) :
    Effect s i (s.act (.step i)) (s.exit? i) := by
  rcases s.exit?_cases i with ⟨hsame, hexit⟩ | ⟨a, d, st, ha, hd, -, hmove, hexit⟩
  · rw [hexit, act, hsame]
    exact .undecided ⟨rfl, rfl⟩
  rw [hexit]
  cases hmisses : a.stage.missesExecutable with
  | true =>
    rw [exitOf?_of_missesExecutable hmisses]
    obtain ⟨-, hdisplay, hregistry⟩ := act_of_misses (misses_iff.mpr ⟨a, d, ha, hd, hmisses⟩)
    exact .emptied hdisplay hregistry
  | false =>
    rcases hmove.outcome with ⟨b, t, answer, hanswer, houtcome⟩ | ⟨hnone, -, hbare | ⟨hmissed, -⟩⟩
    · rw [exitOf?_of_answer? hanswer, Exit.ofAnswer]
      cases houtcome with
      | published answer st current published found =>
        rw [if_pos current]
        exact .replaced a d b t answer ha hd hanswer current (found.replaced hgrouped)
      | bare answer st old nothing bare =>
        rw [if_neg (by simp [old rfl])]
        exact .quiet _ rfl ⟨bare.display, bare.registry⟩
    · -- Without an answer, and with the executable there, every decision is a quiet one.
      cases hdecides : s.exitOf? d a.stage with
      | none => exact .undecided ⟨hbare.display, hbare.registry⟩
      | some x =>
        rcases exitOf?_cases hdecides with hquiet | ⟨-, hmissed⟩ | ⟨b, t, answer, hanswer⟩
        · exact .quiet x hquiet ⟨hbare.display, hbare.registry⟩
        · cases hmisses.symm.trans hmissed
        · cases hnone.symm.trans hanswer
    · cases hmisses.symm.trans hmissed

/-! ## Whole runs -/

theorem grouped_act (h : s.registry.Grouped s.nextDiagnostic) (e : Action) :
    (s.act e).registry.Grouped (s.act e).nextDiagnostic := by
  cases hp : s.publication? e with
  | none =>
    cases silent_of_publication? hp with
    | bare e registry nextDiagnostic display =>
      rw [registry, nextDiagnostic]
      exact h
    | forgotten doc d document registry nextDiagnostic display =>
      rw [registry, nextDiagnostic]
      exact h.invalidate d.uri
    | missing id a d attempt document misses cleared =>
      rw [cleared.registry, cleared.nextDiagnostic]
      exact h
  | some p =>
    obtain ⟨rfl, d, t, answer, hpublishes⟩ := publishes_of_publication? hp
    rw [hpublishes.found.registry, hpublishes.found.nextDiagnostic]
    exact Wire.grouped_intake (h.invalidate d.uri)

theorem grouped_after (h₀ : s₀.Opened) (acts : List Action) :
    (s₀.after acts).registry.Grouped (s₀.after acts).nextDiagnostic := by
  induction acts using List.reverseRecOn with
  | nil =>
    rw [after_nil, h₀.registry_eq]
    exact ⟨fun _ _ hid ↦ absurd hid List.not_mem_nil, fun _ _ _ hid ↦ absurd hid List.not_mem_nil⟩
  | append_singleton acts e ih =>
    rw [after_concat]
    exact grouped_act ih e

theorem result?_after (h : s.attempt? i = some a) (hr : a.stage.result? = some r)
    (acts : List Action) :
    ∃ st, (s.after acts).attempt? i = some { a with stage := st } ∧ st.result? = some r := by
  refine stage_after (P := (·.result? = some r)) ?_ h hr acts
  intro s e a st hprogress hr
  cases hprogress with
  | idle => exact hr
  | moved d st step document can move => exact (move.decision.of_result hr).2
  | settled b r' settle ended =>
    rw [ended] at hr
    exact hr

/-- In a run, a step of an attempt decides how it ends. -/
structure Exits (s₀ : Session) (acts : List Action) (i : Nat) (past future : List Action)
    (x : Exit) : Prop where
  made : acts = past ++ .step i :: future
  exits : (s₀.after past).exit? i = some x

theorem Exits.result? (h : Exits s₀ acts i past future x) :
    (∃ a, (s₀.after past).attempt? i = some a ∧ a.stage.result? = none) ∧
      ∃ r, x.allows r = true ∧ ∀ later, ∃ a,
        (s₀.after (past ++ .step i :: later)).attempt? i = some a ∧ a.stage.result? = some r := by
  have hexits := h.exits
  rcases (s₀.after past).exit?_cases i with ⟨-, hnone⟩ | ⟨a, d, st, ha, -, hst, hmove, hexit⟩
  · cases hnone.symm.trans hexits
  obtain ⟨hbefore, r, hafter, hallowed⟩ := hmove.decision.of_exit (hexit.symm.trans hexits)
  refine ⟨⟨a, ha, hbefore⟩, r, hallowed, fun later ↦ ?_⟩
  obtain ⟨st', hst', hresult⟩ := result?_after hst hafter later
  exact ⟨_, by rw [after_append]; exact hst', hresult⟩

/-- **An attempt is decided once.** -/
theorem Exits.unique {past' future' : List Action} {x' : Exit}
    (h : Exits s₀ acts i past future x) (h' : Exits s₀ acts i past' future' x') :
    past' = past ∧ future' = future ∧ x' = x := by
  -- Of two decisions, the later one would find a result.
  have hlater : ∀ {past between past' future future' x x'}, Exits s₀ acts i past future x →
      Exits s₀ acts i past' future' x' → past' = past ++ .step i :: between → False := by
    intro past between past' future future' x x' h h' hpast
    obtain ⟨-, r, -, hstays⟩ := h.result?
    obtain ⟨⟨a', ha', hnone⟩, -⟩ := h'.result?
    obtain ⟨a, ha, hresult⟩ := hstays between
    rw [← hpast, ha'] at ha
    cases ha
    cases hnone.symm.trans hresult
  rcases moments_cases (h.made.symm.trans h'.made) with
    ⟨hpast, -, hfuture⟩ | ⟨between, hpast, -⟩ | ⟨between, hpast, -⟩
  · have hexits := h'.exits
    rw [hpast] at hexits
    exact ⟨hpast, hfuture, Option.some.inj (hexits.symm.trans h.exits)⟩
  · exact (hlater h h' hpast).elim
  · exact (hlater h' h hpast).elim

/-- **Who has a result was decided**, in the way that goes with the result. -/
theorem exists_exits (h₀ : s₀.attempts = []) (h : (s₀.after acts).attempt? i = some a)
    (hr : a.stage.result? = some r) :
    ∃ past future x, Exits s₀ acts i past future x ∧ x.allows r = true := by
  have hid : a.id = i := attempt?_id h
  subst hid
  revert r
  refine attempt_induction h₀ (P := fun acts a ↦ ∀ {r}, a.stage.result? = some r →
    ∃ past future x, Exits s₀ acts a.id past future x ∧ x.allows r = true) ?_ ?_ acts h
  · intro acts a _ hcreated r hr
    rw [hcreated] at hr
    cases hr
  · intro acts e a st ha ih hprogress r hr
    -- A result that was there before was decided before.
    have hold : a.stage.result? = some r →
        ∃ past future x, Exits s₀ (acts ++ [e]) a.id past future x ∧ x.allows r = true := by
      intro hold
      obtain ⟨past, future, x, hexits, hallowed⟩ := ih hold
      exact ⟨past, future ++ [e], x, ⟨by simp [hexits.made], hexits.exits⟩, hallowed⟩
    cases hprogress with
    | idle => exact hold hr
    | moved d st step document can move =>
      cases hbefore : a.stage.result? with
      | some r' =>
        rw [(move.decision.of_result hbefore).2] at hr
        exact hold (hbefore.trans hr)
      | none =>
        obtain ⟨x, hx, hallowed⟩ := move.decision.exit_of_new hbefore hr
        refine ⟨acts, [], x, ⟨by rw [step], ?_⟩, hallowed⟩
        simp [exit?, ha, document, can, hx]
    | settled b r' settle ended =>
      refine hold ?_
      rw [ended]
      exact hr

/-- What holds of the steps of an attempt in a run. -/
structure Atomic (s₀ : Session) (acts : List Action) (i : Nat) : Prop where
  /-- Each step does to what is displayed and known what it decides. -/
  effect : ∀ past future, acts = past ++ .step i :: future →
    Effect (s₀.after past) i (s₀.after (past ++ [.step i])) ((s₀.after past).exit? i)
  /-- One step decides at most. -/
  once : ∀ past future x past' future' x', Exits s₀ acts i past future x →
    Exits s₀ acts i past' future' x' → past' = past ∧ x' = x
  /-- The result tells how the attempt was decided. -/
  ends : ∀ a r, (s₀.after acts).attempt? i = some a → a.stage.result? = some r →
    ∃ past future x, Exits s₀ acts i past future x ∧ x.allows r = true
  /-- Who ends quietly has changed nothing. -/
  quiet : ∀ past future x, Exits s₀ acts i past future x → x.isQuiet = true →
    ∀ past' future', acts = past' ++ .step i :: future' →
      Untouched (s₀.after past') (s₀.after (past' ++ [.step i]))
  /-- Nothing changes either when it is made known that the attempt has ended. -/
  settles : ∀ past future, acts = past ++ .settle i :: future →
    Untouched (s₀.after past) (s₀.after (past ++ [.settle i]))

/-- An attempt that is decided quietly leaves everything as it is, in all its steps. -/
theorem Effect.untouched (h : Effect s i s' (s.exit? i))
    (hquiet : ∀ x, s.exit? i = some x → x.isQuiet = true) : Untouched s s' := by
  generalize s.exit? i = decided at h hquiet
  cases h with
  | undecided untouched => exact untouched
  | quiet x quiet untouched => exact untouched
  | emptied display registry => cases hquiet _ rfl
  | replaced a d b t answer attempt document answered current replaced => cases hquiet _ rfl

/-- **Attempts are atomic.** However attempts and other actions are interleaved, what is displayed
and known changes in one step of an attempt at most: in the one that publishes, which replaces what
there is for its document and leaves all others, or in the one that misses the executable, which
empties the display. An attempt that ends in any other way has changed nothing. -/
theorem attempts_atomic (h₀ : s₀.Opened) (acts : List Action) (i : Nat) : Atomic s₀ acts i := by
  have heffect : ∀ past, Effect (s₀.after past) i (s₀.after (past ++ [.step i]))
      ((s₀.after past).exit? i) := by
    intro past
    rw [after_concat]
    exact effect_step _ (grouped_after h₀ past) i
  refine ⟨fun past _ _ ↦ heffect past, ?_, fun a r ↦ exists_exits h₀.attempts_eq, ?_, ?_⟩
  · intro past future x past' future' x' h h'
    obtain ⟨hpast, -, hx⟩ := h.unique h'
    exact ⟨hpast, hx⟩
  · intro past future x hexits hquiet past' future' hacts
    refine (heffect past').untouched fun x' hx' ↦ ?_
    -- A step that decides anything is the one that decided quietly.
    obtain ⟨-, -, rfl⟩ := hexits.unique ⟨hacts, hx'⟩
    exact hquiet
  · intro past future _
    have hkept := (s₀.after past).kept_settle i
    rw [after_concat]
    exact ⟨hkept.display, hkept.registry⟩

end

/-- Of two attempts under way at once, the second one misses the executable, and the first one
publishes. -/
theorem atomic_sample : (losingSample oneFinding).Opened ∧
    Atomic (losingSample oneFinding) oneMiss 0 ∧
      Exits (losingSample oneFinding) oneMiss 1 [.call 0, .call 1, .step 0, .step 1, .step 0]
        [.step 0] .executableMissing ∧
      Exits (losingSample oneFinding) oneMiss 0
        [.call 0, .call 1, .step 0, .step 1, .step 0, .step 1] [] .published :=
  ⟨opened_losingSample oneFinding, attempts_atomic (opened_losingSample oneFinding) oneMiss 0,
    ⟨rfl, by decide +kernel⟩, ⟨rfl, by decide +kernel⟩⟩

end Session

end DiagnosticFeed
