import DiagnosticFeed.Proofs.Session.LastWord
import DiagnosticFeed.Proofs.Session.QuietPeriod

/-!
# Whether the analyzer is available

An executable that is not found makes the analyzer unavailable. From then on triggers are refused
and attempts are turned down at their first step, until another executable is configured. Attempts
that were past their first step go on. Their processes may still end, and their starts may fail as
well, and neither changes anything: the analyzer stays unavailable, and the user is told no second
time.

Two parts of a session tell of this, the client and the list of warnings. `Noticed` lists what an
action can do to both. A run is cut into stretches at the actions that configure another executable,
and the warnings are counted by the stretches in which the executable was not found.
-/

namespace DiagnosticFeed

/-- Whether the analyzer will not start since a file is not there, and this file is not the
directory that it was to start in. -/
def Stage.lacksFile : Stage → Bool
  | .spawning _ _ _ _ directory (some (.system .notFound path)) =>
    directory.isNone || path != directory
  | _ => false

theorem Client.refusal_notFound (directory path : Option String) :
    (refusal directory (.system .notFound path) == .executableMissing) =
      (directory.isNone || path != directory) := by
  rw [refusal]
  cases directory with
  | none => rfl
  | some dir => by_cases hpath : path = some dir <;> simp [hpath]

/-- A file that is not there is the executable if it is not the directory. -/
theorem Stage.missesExecutable_eq (st : Stage) : st.missesExecutable = st.lacksFile := by
  cases st with
  | spawning b t snap run directory failure =>
    cases failure with
    | none => rfl
    | some e =>
      cases e with
      | system kind path =>
        cases kind with
        | notFound => exact Client.refusal_notFound directory path
        | _ => rfl
      | _ => rfl
  | _ => rfl

def Stage.hasEnded : Stage → Bool
  | .ended .. | .settled .. => true
  | _ => false

namespace Session

/-- Two sessions in which the same is known of the executable, and the user was told the same. -/
structure Untold (s s' : Session) : Prop where
  client : s'.bench.client = s.bench.client
  warnings : s'.bench.warnings = s.bench.warnings

theorem Untold.refl (s : Session) : Untold s s :=
  ⟨rfl, rfl⟩

theorem Untold.trans {s s' s'' : Session} (h : Untold s s') (h' : Untold s' s'') : Untold s s'' :=
  ⟨h'.client.trans h.client, h'.warnings.trans h.warnings⟩

theorem Untold.of_base {s s' s'' : Session} (h : Untold s' s'')
    (hclient : s'.bench.client = s.bench.client)
    (hwarnings : s'.bench.warnings = s.bench.warnings) : Untold s s'' :=
  Untold.trans ⟨hclient, hwarnings⟩ h

/-! ## Steps -/

section

variable (s : Session) (a : Attempt) (d : Document) (b : Begun) (t : Target)
  (snap : Option FilePath) (o : Except Failure (Option Answer)) (p : FilePath) (text : String)

theorem untold_foldl_log (bound : Option String) (ns : List Log.Notice) :
    Untold s (ns.foldl (fun (s : Session) n ↦ s.log bound n) s) := by
  induction ns generalizing s with
  | nil => exact Untold.refl s
  | cons n ns ih => exact (ih (s.log bound n)).of_base rfl rfl

theorem untold_noteAnswer (bound : Option String) (answer : Answer) :
    Untold s (s.noteAnswer bound answer) := by
  rw [noteAnswer]
  split <;> split <;> exact ⟨rfl, rfl⟩

theorem untold_publish (bound : Option String) (version : Int) (stdout : String) :
    Untold s (s.publish bound d version t stdout).1 := by
  rw [publish]
  cases h : (s.read d t stdout).failure <;> rw [read] at h <;> simp only [h] <;> exact ⟨rfl, rfl⟩

theorem untold_conclude : Untold s (s.conclude a d b t o) := by
  match o with
  | .error e => exact ⟨rfl, rfl⟩
  | .ok none => exact ⟨rfl, rfl⟩
  | .ok (some answer) =>
    rw [conclude]
    split
    · have hpublish := untold_publish (s.noteAnswer (s.boundIn a) answer) d t (s.boundIn a)
        b.ticket.version answer.stdout
      exact ((untold_noteAnswer s (s.boundIn a) answer).trans hpublish).trans ⟨rfl, rfl⟩
    · exact ⟨rfl, rfl⟩

theorem untold_afterRun : Untold s (s.afterRun a d b t snap o) := by
  cases snap with
  | some p => exact ⟨rfl, rfl⟩
  | none => exact untold_conclude s a d b t o

theorem untold_launch : Untold s (s.launch a d b t snap) := by
  rw [launch]
  split
  · exact untold_afterRun s a d b t snap _
  · exact ⟨rfl, rfl⟩

theorem untold_begin : Untold s (s.begin_ a d) := by
  rw [begin_]
  split
  · dsimp only
    split
    · exact (untold_launch _ a d _ _ none).of_base rfl rfl
    · exact ⟨rfl, rfl⟩
  · exact ⟨rfl, rfl⟩

theorem untold_makeRoom : Untold s (s.makeRoom a b t p text) := by
  rw [makeRoom]
  split <;> exact ⟨rfl, rfl⟩

theorem untold_write : Untold s (s.write a d b t p text) := by
  rw [write]
  split
  · exact ⟨rfl, rfl⟩
  · exact (untold_launch _ a d b t (some p)).of_base rfl rfl

theorem untold_clean : Untold s (s.clean a d b t p o) := by
  rw [clean]
  refine Untold.trans ?_ (untold_conclude _ a d b t o)
  split
  · exact (untold_foldl_log _ (s.boundIn a) _).of_base rfl rfl
  · exact ⟨rfl, rfl⟩

end

/-- What an action makes of what is known of the executable, and of what the user was told: whether
it resets the client, and whether the executable is found missing. -/
inductive Noticed (s s' : Session) : Bool → Bool → Prop
  | nothing (untold : Untold s s') : Noticed s s' false false
  | ended (client : s'.bench.client = s.bench.client.ended)
    (warnings : s'.bench.warnings = s.bench.warnings) : Noticed s s' false false
  | missed (client : s'.bench.client = s.bench.client.missed)
    (warnings : s'.bench.warnings =
      s.bench.warnings ++ if s.bench.client.told then [] else [Client.missingWarning]) :
    Noticed s s' false true
  | reset (executable : Option String)
    (client : s'.bench.client = s.bench.client.reset executable)
    (warnings : s'.bench.warnings = s.bench.warnings) : Noticed s s' true false

theorem noticed_enter (s : Session) (a : Attempt) (d : Document) (b : Begun) (t : Target)
    (snap : Option FilePath) (run : Run) (directory : Option String) (failure : Option Failure) :
    Noticed s (s.enter a d b t snap run directory failure) false
      (Stage.spawning b t snap run directory failure).missesExecutable := by
  cases failure with
  | none => exact .nothing ⟨rfl, rfl⟩
  | some e =>
    rw [enter, Bench.takeUp, Bench.refuse, Stage.missesExecutable]
    cases hcause : Client.refusal directory e with
    | executableMissing =>
      have hafter := untold_afterRun { s with bench := s.bench.missExecutable (s.boundIn a) e } a d
        b t snap (.ok none)
      refine .missed (hafter.client.trans ?_) (hafter.warnings.trans ?_)
      · cases htold : s.bench.client.told <;> simp only [Bench.missExecutable, htold] <;> rfl
      · cases htold : s.bench.client.told <;> simp only [Bench.missExecutable, htold]
        · rfl
        · exact (List.append_nil _).symm
    | directoryMissing => exact .nothing ((untold_afterRun _ a d b t snap _).of_base rfl rfl)
    | other => exact .nothing ((untold_afterRun _ a d b t snap _).of_base rfl rfl)
    | unforeseen => exact .nothing (untold_afterRun s a d b t snap _)

theorem noticed_endRun (s : Session) (a : Attempt) (d : Document) (b : Begun) (t : Target)
    (snap : Option FilePath) (run : Run) :
    Noticed s (s.endRun a d b t snap run) false false := by
  rw [endRun, Bench.finish]
  cases run.waitFault with
  | some message => exact .nothing ((untold_afterRun _ a d b t snap _).of_base rfl rfl)
  | none =>
    exact .ended (untold_afterRun _ a d b t snap _).client
      (untold_afterRun _ a d b t snap _).warnings

theorem noticed_stepAttempt (s : Session) (a : Attempt) (d : Document) :
    Noticed s (s.stepAttempt a d) false a.stage.missesExecutable := by
  obtain ⟨i, doc, origin, stage⟩ := a
  cases stage with
  | created => exact .nothing (untold_begin s _ d)
  | makingRoom b t p text => exact .nothing (untold_makeRoom s _ b t p text)
  | writing b t p text => exact .nothing (untold_write s _ d b t p text)
  | spawning b t snap run directory failure =>
    exact noticed_enter s _ d b t snap run directory failure
  | running b t snap run due order => exact noticed_endRun s _ d b t snap run
  | cleaning b t p o => exact .nothing (untold_clean s _ d b t o p)
  | ended b r => exact .nothing (Untold.refl s)
  | settled b r => exact .nothing (Untold.refl s)

theorem noticed_step (s : Session) (id : Nat) :
    Noticed s (s.step id) false (s.misses (.step id)) := by
  rcases s.step_eq_self_or id with ⟨hsame, hcan⟩ | ⟨a, d, ha, hd, hcan⟩
  · have hmisses : s.misses (.step id) = false := by
      rw [Bool.eq_false_iff, ne_eq, misses_iff]
      rintro ⟨a, d, ha, hd, hstage⟩
      -- Whoever is about to be started can take its step.
      obtain ⟨b, t, snap, run, directory, e, hspawning, -⟩ :=
        Stage.spawning_of_missesExecutable hstage
      have hidle := hcan a d ha hd
      rw [canStep, hspawning] at hidle
      cases hidle
    rw [hsame, hmisses]
    exact .nothing (Untold.refl s)
  · rw [step_eq ha hd, if_pos hcan, misses, ha, Option.any_some, hd, Option.isSome_some,
      Bool.and_true]
    exact noticed_stepAttempt s a d

/-! ## All actions -/

/-- Whether an action configures another executable, which resets the client. -/
def resets (s : Session) : Action → Bool
  | .reconfigure settings _ => settings.executable != s.bench.client.executable
  | _ => false

theorem untold_trigger (s : Session) (doc : Nat) : Untold s (s.trigger doc) := by
  rw [trigger]
  split
  · exact Untold.refl s
  · dsimp only
    split <;> exact ⟨rfl, rfl⟩

theorem untold_triggerAll (s : Session) (docs : List Nat) : Untold s (s.triggerAll docs) := by
  induction docs generalizing s with
  | nil => exact Untold.refl s
  | cons doc docs ih => exact (untold_trigger s doc).trans (ih _)

theorem untold_settle (s : Session) (id : Nat) : Untold s (s.settle id) := by
  rw [settle]
  split
  · exact Untold.refl s
  · split
    · split <;> exact ⟨rfl, rfl⟩
    · exact Untold.refl s

theorem noticed_reconfigure (s : Session) (settings : AnalyzerSettings) (docs : List Nat) :
    Noticed s (s.reconfigure settings docs) (s.resets (.reconfigure settings docs)) false := by
  rw [reconfigure, resets]
  dsimp only
  cases settings.executable != s.bench.client.executable with
  | false => exact .nothing ⟨rfl, rfl⟩
  | true =>
    rw [if_pos rfl]
    exact .reset (some settings.executable) (untold_triggerAll _ docs).client
      (untold_triggerAll _ docs).warnings

/-- **What is noticed of the executable**, over any action. -/
theorem noticed_act (s : Session) (e : Action) :
    Noticed s (s.act e) (s.resets e) (s.misses e) := by
  cases e with
  | reconfigure settings docs => exact noticed_reconfigure s settings docs
  | step id => exact noticed_step s id
  | trigger doc => exact .nothing (untold_trigger s doc)
  | edit doc text => exact .nothing ((untold_trigger _ doc).of_base rfl rfl)
  | start docs =>
    rcases s.start_cases docs with h | ⟨disk, journal, h⟩ <;> rw [h]
    · exact .nothing (Untold.refl s)
    · exact .nothing ((untold_triggerAll _ docs).of_base rfl rfl)
  | offer doc gs =>
    obtain ⟨journal, h⟩ := s.offer_cases doc gs
    rw [h]
    exact .nothing ⟨rfl, rfl⟩
  | forget doc =>
    change Noticed s (s.forget doc) false false
    rcases s.forget_cases doc with h | ⟨d, -, h⟩ <;> rw [h] <;> exact .nothing ⟨rfl, rfl⟩
  | fire order =>
    change Noticed s (s.fire order) false false
    rcases s.fire_cases order with h | ⟨t, -, -, h⟩ <;> rw [h] <;> exact .nothing ⟨rfl, rfl⟩
  | settle id => exact .nothing (untold_settle s id)
  | save doc =>
    change Noticed s (s.act (.save doc)) false false
    rcases s.save_cases doc with ⟨disk, h, -⟩ | ⟨d, d', disk, -, -, h, -⟩ <;> rw [h] <;>
      exact .nothing ⟨rfl, rfl⟩
  | _ => exact .nothing ⟨rfl, rfl⟩

/-! ## While it is unavailable -/

section

variable {s s₀ : Session} {e : Action} {id : Nat} {a : Attempt} {d : Document}
  {acts past future : List Action}

/-- **Only a reset ends unavailability.** -/
theorem availability_act (h : s.bench.client.availability = .unavailable)
    (hresets : s.resets e = false) : (s.act e).bench.client.availability = .unavailable := by
  have hnoticed := s.noticed_act e
  rw [hresets] at hnoticed
  generalize s.misses e = misses at hnoticed
  cases hnoticed with
  | nothing untold => rw [untold.client, h]
  | ended client warnings =>
    -- The end of a process would make the analyzer available, but not from here.
    rw [client, Client.ended, Client.isUnavailable, h]
    exact h
  | missed client warnings => rw [client]; rfl

theorem enabled_of_availability (h : s.bench.client.availability = .unavailable) :
    s.enabled = false := by
  rw [enabled, Client.isUnavailable, h]
  rfl

theorem accepts_eq_false (hoff : s.enabled = false) (doc : Nat) : s.accepts doc = false := by
  rw [accepts]
  split
  · rw [Schedule.Debounce.verdict, hoff]
    split <;> rfl
  · rfl

theorem debounce_trigger (hoff : s.enabled = false) (doc : Nat) :
    (s.trigger doc).debounce = s.debounce := by
  cases hd : s.documents[doc]? with
  | none => rw [trigger, hd]
  | some d =>
    rw [timers_trigger hd, Schedule.Debounce.trigger, Schedule.Debounce.verdict, hoff]
    split
    · next hstarted => split at hstarted <;> cases hstarted
    · rfl

theorem debounce_triggerAll (hoff : s.enabled = false) (docs : List Nat) :
    (s.triggerAll docs).debounce = s.debounce := by
  induction docs generalizing s with
  | nil => rfl
  | cons doc docs ih =>
    have hstill : (s.trigger doc).enabled = false := by
      rw [enabled, (untold_trigger s doc).client]
      exact hoff
    exact (ih hstill).trans (debounce_trigger hoff doc)

/-- Whether an action triggers for documents. -/
def Action.triggers : Action → Bool
  | .trigger _ | .edit .. | .start _ => true
  | _ => false

theorem debounce_act (hoff : s.enabled = false) (he : e.triggers = true) :
    (s.act e).debounce = s.debounce := by
  cases e with
  | trigger doc => exact debounce_trigger hoff doc
  | edit doc text => exact debounce_trigger (s := s.setText doc text) hoff doc
  | start docs =>
    rcases s.start_cases docs with h | ⟨disk, journal, h⟩ <;> rw [h]
    refine (debounce_triggerAll ?_ docs).trans rfl
    exact hoff
  | _ => cases he

/-- An attempt that is turned down ends at once, and nothing else happens. -/
theorem step_of_not_enabled (hoff : s.enabled = false) (ha : s.attempt? id = some a)
    (hcreated : a.stage = .created) (hd : s.documents[a.doc]? = some d) :
    (s.act (.step id)).bench = s.bench ∧
      (s.act (.step id)).attempt? id = some { a with stage := .ended none (.ok none) } := by
  have hid : a.id = id := attempt?_id ha
  have hstep : s.act (.step id) = s.finish a none (.ok none) := by
    rw [act, step_eq ha hd]
    simp only [canStep, hcreated, if_true, stepAttempt, begin_, hoff, if_neg Bool.false_ne_true]
  rw [hstep]
  refine ⟨rfl, ?_⟩
  have hset := attempt?_setStage s id id (.ended none (.ok none))
  rw [ha] at hset
  rw [finish, hid]
  exact hset.trans (by simp [hid])

theorem canStep_of_hasEnded (hended : a.stage.hasEnded = true) : s.canStep a = false := by
  rw [canStep]
  cases hstage : a.stage <;> first | rfl | simp [hstage, Stage.hasEnded] at hended

theorem hasEnded_after (ha : s.attempt? id = some a) (hended : a.stage.hasEnded = true)
    (acts : List Action) :
    ∃ st, (s.after acts).attempt? id = some { a with stage := st } ∧ st.hasEnded = true := by
  refine stage_after (P := (·.hasEnded = true)) ?_ ha hended acts
  intro s e a st hprogress hended
  cases hprogress with
  | idle => exact hended
  | moved d st step document can move => cases can.symm.trans (canStep_of_hasEnded hended)
  | settled b r settle ended => rfl

theorem step_of_hasEnded (ha : s.attempt? id = some a) (hended : a.stage.hasEnded = true) :
    s.act (.step id) = s := by
  rcases s.step_eq_self_or id with ⟨hsame, -⟩ | ⟨a', d, ha', -, hcan⟩
  · exact hsame
  · cases ha.symm.trans ha'
    cases hcan.symm.trans (canStep_of_hasEnded hended)

end

/-! ## Warnings

A run is cut at its resets, and each stretch has its own warning. -/

/-- Whether an action fails to start the analyzer since a file is not there, and this file is not
the directory that the attempt was to start it in. -/
def lacks (s : Session) : Action → Bool
  | .step id => (s.attempt? id).any fun a ↦ a.stage.lacksFile && (s.documents[a.doc]?).isSome
  | _ => false

/-- What happens in a run: its actions, each with the session that it is taken in. -/
def trace (s : Session) : List Action → List (Session × Action)
  | [] => []
  | e :: acts => (s, e) :: (s.act e).trace acts

/-- The stretches of a run, from one reset to the next. -/
def stretches (s : Session) (acts : List Action) : List (List (Session × Action)) :=
  (s.trace acts).splitOnP fun m ↦ m.1.resets m.2

def lacking (stretch : List (Session × Action)) : Bool :=
  stretch.any fun m ↦ m.1.lacks m.2

/-- In how many of some stretches the user has yet to be told, who was told already in the first. -/
def untoldIn (told : Bool) : List (List (Session × Action)) → Nat
  | [] => 0
  | stretch :: more => more.countP lacking + if !told && lacking stretch then 1 else 0

theorem untoldIn_false (stretches : List (List (Session × Action))) :
    untoldIn false stretches = stretches.countP lacking := by
  cases stretches with
  | nil => rfl
  | cons stretch more => exact (List.countP_cons ..).symm

theorem misses_eq_lacks (s : Session) (e : Action) : s.misses e = s.lacks e := by
  cases e <;> simp only [misses, lacks, Stage.missesExecutable_eq]

section

variable {s s₀ : Session} {e : Action} {acts : List Action}

theorem stretches_cons_of_resets (h : s.resets e = true) (acts : List Action) :
    s.stretches (e :: acts) = [] :: (s.act e).stretches acts := by
  rw [stretches, trace, List.splitOnP_cons_eq_if_modifyHead, if_pos h, stretches]

theorem stretches_cons (h : s.resets e = false) (acts : List Action) :
    ∃ first more, (s.act e).stretches acts = first :: more ∧
      s.stretches (e :: acts) = ((s, e) :: first) :: more := by
  obtain ⟨first, more, hsplit⟩ := List.exists_cons_of_ne_nil
    (List.splitOnP_ne_nil (fun m : Session × Action ↦ m.1.resets m.2) ((s.act e).trace acts))
  refine ⟨first, more, hsplit, ?_⟩
  rw [stretches, trace, List.splitOnP_cons_eq_if_modifyHead, if_neg (by simp [h]), hsplit]
  rfl

theorem told_ended (c : Client) : c.ended.told = c.told := by
  rw [Client.ended]
  split <;> rfl

/-- What the user is told in a run: once in each stretch in which the executable is not found, and
not in the first one if it was told before. -/
theorem warnings_after (s : Session) (acts : List Action) :
    (s.after acts).bench.warnings = s.bench.warnings ++
      List.replicate (untoldIn s.bench.client.told (s.stretches acts)) Client.missingWarning := by
  induction acts generalizing s with
  | nil => simp [stretches, trace, untoldIn, lacking]
  | cons e acts ih =>
    rw [after_cons, ih]
    have hnoticed := s.noticed_act e
    cases hresets : s.resets e with
    | true =>
      -- A stretch begins, and the user is told anew.
      rw [hresets] at hnoticed
      rw [stretches_cons_of_resets hresets]
      generalize s.misses e = misses at hnoticed
      cases hnoticed with
      | reset executable client warnings =>
        rw [warnings, client, Client.reset, untoldIn_false, untoldIn]
        simp [lacking]
    | false =>
      obtain ⟨first, more, hrest, hwhole⟩ := stretches_cons hresets acts
      have hlacking : lacking ((s, e) :: first) = (s.misses e || lacking first) := by
        rw [misses_eq_lacks]
        rfl
      rw [hresets] at hnoticed
      rw [hwhole, hrest, untoldIn, untoldIn, hlacking]
      generalize s.misses e = misses at hnoticed ⊢
      cases hnoticed with
      | nothing untold => rw [untold.warnings, untold.client, Bool.false_or]
      | ended client warnings => rw [warnings, client, told_ended, Bool.false_or]
      | missed client warnings =>
        -- From here on the stretch counts, whatever else fails in it.
        rw [warnings, client, Client.missed]
        cases s.bench.client.told <;> simp [List.replicate_succ]

/-- What holds of the availability of the analyzer in a run. -/
structure AvailabilityKept (s₀ : Session) (acts : List Action) : Prop where
  /-- Only a reset ends unavailability. -/
  lasts : ∀ past e future, acts = past ++ e :: future →
    (s₀.after past).bench.client.availability = .unavailable → (s₀.after past).resets e = false →
    (s₀.after (past ++ [e])).bench.client.availability = .unavailable
  /-- Meanwhile triggers are refused, and leave the quiet periods as they are. -/
  refuses : ∀ past e future, acts = past ++ e :: future →
    (s₀.after past).bench.client.availability = .unavailable →
    (∀ doc, (s₀.after past).accepts doc = false) ∧
      (e.triggers = true → (s₀.after (past ++ [e])).debounce = (s₀.after past).debounce)
  /-- And who begins does nothing, then or later. -/
  idles : ∀ past id future a d, acts = past ++ .step id :: future →
    (s₀.after past).bench.client.availability = .unavailable →
    (s₀.after past).attempt? id = some a → a.stage = .created →
    (s₀.after past).documents[a.doc]? = some d →
    (s₀.after (past ++ [.step id])).bench = (s₀.after past).bench ∧
      ∀ mid rest, future = mid ++ .step id :: rest →
        s₀.after (past ++ .step id :: mid ++ [.step id]) = s₀.after (past ++ .step id :: mid)
  /-- The user is told once for each stretch in which the executable is not found. -/
  warnings : (s₀.after acts).bench.warnings =
    List.replicate ((s₀.stretches acts).countP lacking) Client.missingWarning

/-- **How the analyzer becomes unavailable and available**, in any run: what holds while it is
unavailable, and how often the user is told. -/
theorem availability_kept (h₀ : s₀.Opened) (acts : List Action) : AvailabilityKept s₀ acts where
  lasts := by
    intro past e future _ h hresets
    rw [after_concat]
    exact availability_act h hresets
  refuses := by
    intro past e future _ h
    have hoff := enabled_of_availability h
    rw [after_concat]
    exact ⟨accepts_eq_false hoff, debounce_act hoff⟩
  idles := by
    intro past id future a d _ h ha hcreated hd
    obtain ⟨hbench, hended⟩ := step_of_not_enabled (enabled_of_availability h) ha hcreated hd
    rw [after_concat]
    refine ⟨hbench, ?_⟩
    intro mid rest _
    obtain ⟨st, hst, hstill⟩ := hasEnded_after hended rfl mid
    rw [after_concat, after_append, after_cons]
    exact step_of_hasEnded hst hstill
  warnings := by
    obtain ⟨disk, settings, documents, workspace, runs, rfl⟩ := h₀
    rw [warnings_after, ← untoldIn_false]
    rfl

end

/-- A session with an executable that is never found. -/
def lackingSample : Session :=
  open_ ⟨⟨.root, ["w"]⟩, [], [], []⟩ {} [sampleDocument, otherDocument] none
    (List.replicate 3 { startFault := some .executableMissing })

/-- Two attempts miss the executable at once, and a third one misses another executable. -/
def lackingTwice : List Action :=
  [.call 0, .call 1, .step 0, .step 1, .step 0, .step 1, .reconfigure { executable := "other" } [],
    .call 0, .step 2, .step 2]

/-- Of three failures, two are in one stretch, so the user is told twice. -/
theorem availability_sample : lackingSample.Opened ∧
    AvailabilityKept lackingSample lackingTwice ∧
      (lackingSample.after lackingTwice).bench.warnings =
        [Client.missingWarning, Client.missingWarning] ∧
      ((lackingSample.stretches lackingTwice).map fun stretch ↦
        stretch.countP fun m ↦ m.1.lacks m.2) = [2, 1] := by
  have hopened : lackingSample.Opened := ⟨_, _, _, _, _, rfl⟩
  exact ⟨hopened, availability_kept hopened lackingTwice, by decide +kernel, by decide +kernel⟩

end Session

end DiagnosticFeed
