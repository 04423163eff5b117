import DiagnosticFeed.Proofs.Session.Availability
import DiagnosticFeed.Proofs.Session.Spawns

/-!
# The books of a session

What a session counts, and the calls of the analyzer in its journal, are its books. They are kept in
many places: when a run starts and when it ends, where a start is refused, where a result is dropped
or published, at the end of an attempt. Yet what a step enters in them depends on two things only,
the stage that the attempt leaves and the stage that it comes to. Nothing but steps enters anything.
-/

namespace DiagnosticFeed

/-- Whether an event is a call of the analyzer. -/
def Event.isCall : Event → Bool
  | .spawned .. => true
  | .logged .. | .returned .. => false

namespace Stage

def isRunning : Stage → Bool
  | .running .. => true
  | _ => false

/-- Whether an attempt has an answer of the analyzer when it takes its next step. -/
def isAnswered : Stage → Bool
  | .running _ _ _ run _ _ => run.waitFault.isNone
  | .cleaning _ _ _ (.ok (some _)) => true
  | _ => false

/-- Whether the operating system will refuse to start the analyzer. -/
def isRefused : Stage → Bool
  | .spawning _ _ _ _ directory (some e) => decide (Client.refusal directory e ≠ .unforeseen)
  | _ => false

/-- How many diagnostics an attempt has published. -/
def shownCount (st : Stage) : Nat :=
  (st.published?.map (·.2.length)).getD 0

end Stage

namespace Session

/-- What was counted. -/
@[ext] structure Books where
  /-- Calls of the analyzer. -/
  calls : Int
  /-- Runs that started. -/
  runs : Int
  inFlight : Int
  /-- Starts that the operating system refused, whatever for. -/
  refused : Int
  discarded : Int
  /-- Diagnostics that were published. -/
  shown : Int
  /-- How many attempts were timed. -/
  timed : Int
  deriving DecidableEq

def books (s : Session) : Books where
  calls := s.bench.journal.countP Event.isCall
  runs := s.bench.metrics.runs.total []
  inFlight := s.bench.metrics.inFlight.total []
  refused := s.bench.metrics.failures.total (Metrics.reason "not_found")
    + s.bench.metrics.failures.total (Metrics.reason "cwd")
    + s.bench.metrics.failures.total (Metrics.reason "spawn")
  discarded := s.bench.metrics.discarded.total []
  shown := s.bench.metrics.published.total []
  timed := ((s.bench.metrics.durations.get? []).getD []).length

/-- What is entered when an attempt leaves a stage. -/
def Books.left (b : Books) (st : Stage) : Books :=
  { b with
    inFlight := b.inFlight - st.isRunning.toNat
    refused := b.refused + st.isRefused.toNat }

/-- What is entered when an attempt comes to a stage, with an answer of the analyzer or without. -/
def Books.come (b : Books) (answered : Bool) (st : Stage) : Books where
  calls := b.calls + st.isSpawning.toNat
  runs := b.runs + st.isRunning.toNat
  inFlight := b.inFlight + st.isRunning.toNat
  refused := b.refused
  discarded := b.discarded + (answered && st.hasEnded && st.published?.isNone).toNat
  shown := b.shown + st.shownCount
  timed := b.timed + (st.hasEnded && st.begun?.isSome).toNat

/-! ## What is entered where -/

section

variable (s : Session) (a : Attempt) (d : Document) (b : Begun) (t : Target)
  (snap : Option FilePath) (o : Except Failure (Option Answer)) (p : FilePath) (text : String)
  (bound : Option String)

theorem books_log (n : Log.Notice) : (s.log bound n).books = s.books := rfl

theorem books_withDisk (disk : Disk) : (s.withDisk disk).books = s.books := rfl

theorem books_foldl_log (ns : List Log.Notice) :
    (ns.foldl (fun (s : Session) n ↦ s.log bound n) s).books = s.books := by
  induction ns generalizing s with
  | nil => rfl
  | cons n ns ih => exact ih (s.log bound n)

theorem books_finish (r : Result) :
    (s.finish a (some b) r).books = { s.books with timed := s.books.timed + 1 } := by
  ext <;> try rfl
  change (((Keyed.get? (Keyed.set _ [] _) []).getD []).length : Int) = _
  rw [Keyed.get?_set, if_pos rfl, Option.getD_some, List.length_append]
  rfl

theorem books_noteAnswer (answer : Answer) : (s.noteAnswer bound answer).books = s.books := by
  have hfail : ∀ s : Session,
      ({ s with bench := s.bench.countFailure "exit_code" } : Session).books = s.books := by
    intro s
    ext <;> try rfl
    change Ledger.total (Ledger.add _ _ _) _ + Ledger.total (Ledger.add _ _ _) _
      + Ledger.total (Ledger.add _ _ _) _ = _
    simp only [Ledger.total_add]
    rfl
  rw [noteAnswer]
  split <;> split <;> first | rfl | exact hfail _

theorem books_publish (version : Int) (stdout : String) :
    (s.publish bound d version t stdout).1.books =
      { s.books with
        shown := s.books.shown + ((s.publish bound d version t stdout).2.length : Int) } := by
  rw [publish]
  cases (Wire.intake s.cwd (s.registry.invalidate d.uri) s.nextDiagnostic d t stdout).failure <;>
  · ext <;> try rfl
    change Ledger.total (Ledger.add _ _ _) _ = _
    rw [Ledger.total_add, if_pos rfl]
    rfl

theorem books_discard (ticket : Ticket) :
    (s.discard bound d ticket).books =
      { s.books with discarded := s.books.discarded + 1 } := by
  ext <;> try rfl
  change Ledger.total (Ledger.add _ _ _) _ = _
  rw [Ledger.total_add, if_pos rfl]
  rfl

/-- A start that is refused is entered under one of three reasons. -/
theorem books_refuse (word : String) (bench : Bench)
    (hword : word = "not_found" ∨ word = "cwd" ∨ word = "spawn")
    (hmetrics : bench.metrics = s.bench.metrics.fail word)
    (hcalls : bench.journal.countP Event.isCall = s.bench.journal.countP Event.isCall) :
    ({ s with bench := bench } : Session).books =
      { s.books with refused := s.books.refused + 1 } := by
  rw [books, books, hmetrics, hcalls]
  ext <;> try rfl
  change Ledger.total (Ledger.add _ _ _) _ + Ledger.total (Ledger.add _ _ _) _
    + Ledger.total (Ledger.add _ _ _) _ = _ + _ + _ + 1
  simp only [Ledger.total_add]
  rcases hword with rfl | rfl | rfl <;> simp [Metrics.reason] <;> omega

theorem books_missExecutable (e : Failure) :
    ({ s with bench := s.bench.missExecutable bound e } : Session).books =
      { s.books with refused := s.books.refused + 1 } := by
  refine books_refuse s "not_found" _ (by simp) ?_ ?_ <;>
    cases htold : s.bench.client.told <;> simp only [Bench.missExecutable, htold] <;> rfl

section

variable (books : Books) (answered : Bool)

theorem Books.left_silent {st : Stage} (hrunning : st.isRunning = false)
    (hrefused : st.isRefused = false) : books.left st = books := by
  simp [left, hrunning, hrefused]

theorem Books.left_refused {directory : Option String} {e : Failure} (run : Run)
    (h : Client.refusal directory e ≠ .unforeseen) :
    books.left (.spawning b t snap run directory (some e)) =
      { books with refused := books.refused + 1 } := by
  simp [left, Stage.isRunning, Stage.isRefused, h]

theorem Books.come_silent {st : Stage} (hspawning : st.isSpawning = false)
    (hrunning : st.isRunning = false) (hended : st.hasEnded = false) :
    books.come answered st = books := by
  have hnothing : st.published? = none := by cases st <;> first | rfl | cases hended
  simp [come, hspawning, hrunning, hended, hnothing, Stage.shownCount]

theorem Books.come_spawning (run : Run) (directory : Option String) (failure : Option Failure) :
    books.come answered (.spawning b t snap run directory failure) =
      { books with calls := books.calls + 1 } := by
  simp [come, Stage.isSpawning, Stage.isRunning, Stage.hasEnded, Stage.shownCount,
    Stage.published?]

theorem Books.come_running (run : Run) (due : Time) (order : Nat) :
    books.come answered (.running b t snap run due order) =
      { books with runs := books.runs + 1, inFlight := books.inFlight + 1 } := by
  simp [come, Stage.isSpawning, Stage.isRunning, Stage.hasEnded, Stage.shownCount,
    Stage.published?]

theorem Books.come_dropped {r : Result} (h : (Stage.ended (some b) r).published? = none) :
    books.come answered (.ended (some b) r) =
      { books with
        discarded := books.discarded + answered.toNat
        timed := books.timed + 1 } := by
  simp [come, h, Stage.isSpawning, Stage.isRunning, Stage.hasEnded, Stage.begun?,
    Stage.shownCount]

theorem Books.come_published (ds : List Diagnostic) :
    books.come answered (.ended (some b) (.ok (some ds))) =
      { books with shown := books.shown + (ds.length : Int), timed := books.timed + 1 } := by
  simp [come, Stage.isSpawning, Stage.isRunning, Stage.hasEnded, Stage.begun?, Stage.shownCount,
    Stage.published?]

end

theorem books_conclude : ∃ r,
    (s.conclude a d b t o).attempts = (s.setStage a.id (.ended (some b) r)).attempts ∧
      (s.conclude a d b t o).books =
        s.books.come (answerOf o).isSome (.ended (some b) r) := by
  match o with
  | .error e =>
    refine ⟨.error e, rfl, ?_⟩
    rw [conclude, books_finish, Books.come_dropped b _ _ rfl]
    simp [answerOf, Except.toOption]
  | .ok none =>
    refine ⟨.ok none, rfl, ?_⟩
    rw [conclude, books_finish, Books.come_dropped b _ _ rfl]
    simp [answerOf, Except.toOption]
  | .ok (some answer) =>
    rw [conclude]
    split
    · let published := (s.noteAnswer (s.boundIn a) answer).publish (s.boundIn a) d b.ticket.version
        t answer.stdout
      refine ⟨.ok (some published.2), ?_, ?_⟩
      · change List.map _ (publish _ _ d b.ticket.version t _).1.attempts = _
        rw [publish_attempts, noteAnswer_attempts]
        rfl
      · rw [Books.come_published]
        change (published.1.finish a (some b) _).books = _
        rw [books_finish, books_publish, books_noteAnswer]
    · refine ⟨.ok none, rfl, ?_⟩
      rw [books_finish, books_discard, Books.come_dropped b _ _ rfl]
      simp [answerOf, Except.toOption]

theorem books_afterRun : ∃ st,
    (s.afterRun a d b t snap o).attempts = (s.setStage a.id st).attempts ∧
      (s.afterRun a d b t snap o).books = s.books.come (answerOf o).isSome st := by
  cases snap with
  | some p =>
    refine ⟨_, rfl, ?_⟩
    change s.books = _
    rw [Books.come_silent _ _ rfl rfl rfl]
  | none =>
    obtain ⟨r, hattempts, hbooks⟩ := books_conclude s a d b t o
    exact ⟨_, hattempts, hbooks⟩

theorem books_launch : ∃ st,
    (s.launch a d b t snap).attempts = (s.setStage a.id st).attempts ∧
      (s.launch a d b t snap).books = s.books.come false st := by
  rw [launch]
  split
  · exact books_afterRun s a d b t snap (.ok none)
  · refine ⟨_, rfl, ?_⟩
    rw [Books.come_spawning]
    ext <;> try rfl
    change (List.countP Event.isCall (.spawned _ _ _ :: .logged _ _ :: s.bench.journal) : Int) =
      (List.countP Event.isCall s.bench.journal : Int) + 1
    rw [List.countP_cons_of_pos rfl, List.countP_cons_of_neg (by simp [Event.isCall])]
    rfl

theorem books_enter (run : Run) (directory : Option String) (failure : Option Failure) : ∃ st,
    (s.enter a d b t snap run directory failure).attempts = (s.setStage a.id st).attempts ∧
      (s.enter a d b t snap run directory failure).books =
        (s.books.left (.spawning b t snap run directory failure)).come false st := by
  cases failure with
  | none =>
    refine ⟨_, rfl, ?_⟩
    rw [Books.come_running]
    ext <;> simp [books, Books.left, Stage.isRunning, Stage.isRefused, enter, Bench.takeUp,
      setStage, Ledger.total_add]
  | some e =>
    -- However the operating system refuses, one refusal is entered.
    have hrefused : ∀ {bench : Bench}, Client.refusal directory e ≠ .unforeseen →
        ({ s with bench := bench } : Session).books =
          { s.books with refused := s.books.refused + 1 } →
        ∃ st, (Session.afterRun { s with bench := bench } a d b t snap (.ok none)).attempts =
            (s.setStage a.id st).attempts ∧
          (Session.afterRun { s with bench := bench } a d b t snap (.ok none)).books =
            (s.books.left (.spawning b t snap run directory (some e))).come false st := by
      intro bench hforeseen hbench
      obtain ⟨st, hattempts, hbooks⟩ :=
        books_afterRun { s with bench := bench } a d b t snap (.ok none)
      refine ⟨st, hattempts, hbooks.trans ?_⟩
      rw [hbench, Books.left_refused b t snap _ run hforeseen]
      rfl
    rw [enter, Bench.takeUp, Bench.refuse]
    cases hcause : Client.refusal directory e with
    | executableMissing =>
      exact hrefused (by rw [hcause]; decide) (books_missExecutable s (s.boundIn a) e)
    | directoryMissing =>
      exact hrefused (by rw [hcause]; decide) (books_refuse s "cwd" _ (by simp) rfl rfl)
    | other =>
      exact hrefused (by rw [hcause]; decide) (books_refuse s "spawn" _ (by simp) rfl rfl)
    | unforeseen =>
      obtain ⟨st, hattempts, hbooks⟩ := books_afterRun s a d b t snap (.error e)
      refine ⟨st, hattempts, hbooks.trans ?_⟩
      simp [Books.left, Stage.isRunning, Stage.isRefused, hcause, answerOf, Except.toOption]

theorem books_endRun (run : Run) (due : Time) (order : Nat) : ∃ st,
    (s.endRun a d b t snap run).attempts = (s.setStage a.id st).attempts ∧
      (s.endRun a d b t snap run).books =
        (s.books.left (.running b t snap run due order)).come run.waitFault.isNone st := by
  have hleft : s.books.left (.running b t snap run due order) =
      { s.books with inFlight := s.books.inFlight - 1 } := by
    simp [Books.left, Stage.isRunning, Stage.isRefused]
  rw [hleft, endRun, Bench.finish]
  let metrics := { s.bench.metrics with inFlight := s.bench.metrics.inFlight.add [] (-1) }
  have hmetrics : metrics.inFlight.total [] = s.bench.metrics.inFlight.total [] - 1 := by
    change Ledger.total (Ledger.add _ _ _) _ = _
    rw [Ledger.total_add, if_pos rfl]
    rfl
  cases run.waitFault with
  | some message =>
    obtain ⟨st, hattempts, hbooks⟩ := books_afterRun
      { s with bench := { s.bench with metrics := metrics } } a d b t snap
      (.error (.broken message))
    refine ⟨st, hattempts, hbooks.trans ?_⟩
    rw [books, hmetrics]
    rfl
  | none =>
    let answer := run.answer t.path
    let bench := { s.bench with metrics := metrics, client := s.bench.client.ended }.log
      (s.boundIn a) (.exited answer.exitCode answer.stdout.length)
    obtain ⟨st, hattempts, hbooks⟩ := books_afterRun { s with bench := bench } a d b t snap
      (.ok (some answer))
    refine ⟨st, hattempts, hbooks.trans ?_⟩
    change Books.come { s.books with inFlight := metrics.inFlight.total [] } _ _ = _
    rw [hmetrics]
    rfl

theorem books_makeRoom : ∃ st,
    (s.makeRoom a b t p text).attempts = (s.setStage a.id st).attempts ∧
      (s.makeRoom a b t p text).books = s.books.come false st := by
  rw [makeRoom]
  split
  · refine ⟨_, rfl, (books_finish _ a b _).trans ?_⟩
    rw [Books.come_dropped b _ _ rfl]
    simp [books_log]
  · refine ⟨_, rfl, ?_⟩
    rw [Books.come_silent _ _ rfl rfl rfl]
    rfl

theorem books_write : ∃ st,
    (s.write a d b t p text).attempts = (s.setStage a.id st).attempts ∧
      (s.write a d b t p text).books = s.books.come false st := by
  rw [write]
  split
  · refine ⟨_, rfl, (books_finish _ a b _).trans ?_⟩
    rw [Books.come_dropped b _ _ rfl]
    simp [books_log, books_withDisk]
  · exact books_launch _ a d b t (some p)

theorem isAnswered_cleaning : (Stage.cleaning b t p o).isAnswered = (answerOf o).isSome := by
  match o with
  | .error e => rfl
  | .ok none => rfl
  | .ok (some answer) => rfl

theorem books_clean : ∃ st,
    (s.clean a d b t p o).attempts = (s.setStage a.id st).attempts ∧
      (s.clean a d b t p o).books = s.books.come (answerOf o).isSome st := by
  let bound := s.boundIn a
  rw [clean]
  cases Snapshot.delete s.bench.disk p with
  | ok gone =>
    obtain ⟨disk, notices⟩ := gone
    obtain ⟨r, hattempts, hbooks⟩ := books_conclude
      (notices.foldl (fun (s : Session) n ↦ s.log bound n)
        (s.withDisk disk)) a d b t o
    refine ⟨.ended (some b) r, ?_, hbooks.trans ?_⟩
    · rw [hattempts, setStage, foldl_log_attempts]
      rfl
    · rw [books_foldl_log]
      rfl
  | error e =>
    obtain ⟨r, hattempts, hbooks⟩ := books_conclude
      (s.log bound (.cleanupFailed t.path e.message)) a d b t o
    exact ⟨_, hattempts, hbooks⟩

theorem books_begin : ∃ st,
    (s.begin_ a d).attempts = (s.setStage a.id st).attempts ∧
      (s.begin_ a d).books = s.books.come false st := by
  rw [begin_]
  split
  · dsimp only
    split
    · exact books_launch _ a d _ _ none
    · refine ⟨_, rfl, ?_⟩
      rw [Books.come_silent _ _ rfl rfl rfl]
      rfl
  · refine ⟨.ended none (.ok none), rfl, ?_⟩
    simp [Books.come, Stage.isSpawning, Stage.isRunning, Stage.hasEnded, Stage.begun?,
      Stage.shownCount, Stage.published?]
    rfl

end

/-- **What a step enters in the books** depends on the stage that the attempt leaves and on the one
that it comes to. -/
theorem books_step {s : Session} {i : Nat} {a : Attempt} {d : Document}
    (ha : s.attempt? i = some a) (hd : s.documents[a.doc]? = some d) (hcan : s.canStep a = true) :
    ∃ st, (s.step i).attempts = (s.setStage i st).attempts ∧
      (s.step i).books = (s.books.left a.stage).come a.stage.isAnswered st := by
  have hid : a.id = i := by simpa using List.find?_some ha
  rw [step_eq ha hd, if_pos hcan, ← hid]
  obtain ⟨i, doc, origin, stage⟩ := a
  cases stage with
  | created =>
    rw [Books.left_silent _ rfl rfl]
    exact books_begin s _ d
  | makingRoom b t p text =>
    rw [Books.left_silent _ rfl rfl]
    exact books_makeRoom s _ b t p text
  | writing b t p text =>
    rw [Books.left_silent _ rfl rfl]
    exact books_write s _ d b t p text
  | spawning b t snap run directory failure =>
    exact books_enter s _ d b t snap run directory failure
  | running b t snap run due order => exact books_endRun s _ d b t snap run due order
  | cleaning b t p o =>
    rw [Books.left_silent _ rfl rfl, isAnswered_cleaning]
    exact books_clean s _ d b t o p
  | ended b r => simp [canStep] at hcan
  | settled b r => simp [canStep] at hcan

/-! ## What enters nothing -/

/-- Nothing was counted in between, and the analyzer was not called. -/
structure Uncounted (s s' : Session) : Prop where
  metrics : s'.bench.metrics = s.bench.metrics
  calls : s'.bench.journal.countP Event.isCall = s.bench.journal.countP Event.isCall

namespace Uncounted

variable {s s' s'' : Session}

theorem refl (s : Session) : Uncounted s s :=
  ⟨rfl, rfl⟩

theorem trans (h : Uncounted s s') (h' : Uncounted s' s'') : Uncounted s s'' :=
  ⟨h'.metrics.trans h.metrics, h'.calls.trans h.calls⟩

theorem books (h : Uncounted s s') : s'.books = s.books := by
  rw [Session.books, Session.books, h.metrics, h.calls]

end Uncounted

theorem uncounted_trigger (s : Session) (doc : Nat) : Uncounted s (s.trigger doc) := by
  rw [trigger]
  split
  · exact .refl s
  · dsimp only
    split <;> exact ⟨rfl, rfl⟩

theorem uncounted_triggerAll (s : Session) (docs : List Nat) : Uncounted s (s.triggerAll docs) := by
  induction docs generalizing s with
  | nil => exact .refl s
  | cons doc docs ih => exact (uncounted_trigger s doc).trans (ih (s.trigger doc))

theorem uncounted_reconfigure (s : Session) (settings : AnalyzerSettings) (docs : List Nat) :
    Uncounted s (s.reconfigure settings docs) := by
  rw [reconfigure]
  dsimp only
  split
  · refine .trans ?_ (uncounted_triggerAll _ docs)
    exact ⟨rfl, rfl⟩
  · exact ⟨rfl, rfl⟩

theorem uncounted_start (s : Session) (docs : List Nat) :
    Uncounted s ((s.start docs).toOption.getD s) := by
  rw [start]
  cases s.bench.disk.makeDirectory s.scratch.directory with
  | ok disk =>
    refine .trans ?_ (uncounted_triggerAll _ docs)
    exact ⟨rfl, rfl⟩
  | error e =>
    cases hsystem : e.isSystem with
    | true =>
      simp only [hsystem, if_true]
      refine .trans ?_ (uncounted_triggerAll _ docs)
      exact ⟨rfl, rfl⟩
    | false =>
      simp only [hsystem, if_neg Bool.false_ne_true]
      exact .refl s

theorem uncounted_offer (s : Session) (doc : Nat) (gs : List Diagnostic) :
    Uncounted s (s.act (.offer doc gs)) := by
  change Uncounted s ((s.documents[doc]?.map fun d ↦ s.afterOffer d gs).getD s)
  cases s.documents[doc]? with
  | none => exact .refl s
  | some d =>
    change Uncounted s (s.afterOffer d gs)
    rw [afterOffer]
    generalize (QuickFix.offered s.cwd s.registry d gs).2 = targets
    induction targets using List.reverseRecOn with
    | nil => exact .refl s
    | append_singleton targets target ih =>
      rw [List.foldl_append]
      exact ih.trans ⟨rfl, rfl⟩

theorem uncounted_settle (s : Session) (id : Nat) : Uncounted s (s.settle id) := by
  rw [settle]
  split
  · exact .refl s
  · split
    · split <;> exact ⟨rfl, rfl⟩
    · exact .refl s

/-- **Nothing but steps counts anything.** -/
theorem uncounted_act (s : Session) {e : Action} (he : ∀ i, e ≠ .step i) :
    Uncounted s (s.act e) := by
  cases e with
  | step i => exact absurd rfl (he i)
  | trigger doc => exact uncounted_trigger s doc
  | edit doc text =>
    refine .trans ?_ (uncounted_trigger _ doc)
    exact ⟨rfl, rfl⟩
  | offer doc gs => exact uncounted_offer s doc gs
  | start docs => exact uncounted_start s docs
  | reconfigure settings docs => exact uncounted_reconfigure s settings docs
  | settle id => exact uncounted_settle s id
  | forget doc =>
    rw [act]
    rcases s.forget_cases doc with h | ⟨d, -, h⟩ <;> rw [h] <;> exact ⟨rfl, rfl⟩
  | fire order =>
    rw [act]
    rcases s.fire_cases order with h | ⟨t, -, -, h⟩ <;> rw [h] <;> exact ⟨rfl, rfl⟩
  | save doc =>
    rcases s.save_cases doc with ⟨disk, h, -⟩ | ⟨d, d', disk, -, -, h, -⟩ <;> rw [h] <;>
      exact ⟨rfl, rfl⟩
  | _ => exact ⟨rfl, rfl⟩

end Session

end DiagnosticFeed
