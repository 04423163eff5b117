import DiagnosticFeed.Proofs.Session.Action
import Mathlib.Order.Nat

/-!
# The moves of an attempt

A table of everything one step of an attempt can do: from which stage it goes to which, under which
condition, and how it changes the rest of the session. All later statements about steps are read off
this table, so the step functions are unfolded in this module only.

Most of a session is out of reach of a step. `Kept` lists what two sessions have in common when they
differ in attempts and in records alone, and a row of the table names what it changes by giving the
session that the outcome is `Kept` from.
-/

namespace DiagnosticFeed

namespace Session

/-- Two sessions that agree in all but their attempts, the coming runs, and what is counted, logged
and told to the user. The second one may have given out more numbers. -/
structure Kept (s s' : Session) : Prop where
  documents : s'.documents = s.documents
  settings : s'.settings = s.settings
  debounce : s'.debounce = s.debounce
  workspace : s'.workspace = s.workspace
  scratch : s'.scratch = s.scratch
  registry : s'.registry = s.registry
  now : s'.now = s.now
  nextDiagnostic : s'.nextDiagnostic = s.nextDiagnostic
  calls : s'.calls = s.calls
  disk : s'.bench.disk = s.bench.disk
  client : s'.bench.client = s.bench.client
  display : s'.bench.display = s.bench.display
  next_le : s.next ≤ s'.next

theorem Kept.refl (s : Session) : Kept s s := by
  constructor <;> rfl

theorem Kept.trans {s s' s'' : Session} (h : Kept s s') (h' : Kept s' s'') : Kept s s'' where
  documents := h'.documents.trans h.documents
  settings := h'.settings.trans h.settings
  debounce := h'.debounce.trans h.debounce
  workspace := h'.workspace.trans h.workspace
  scratch := h'.scratch.trans h.scratch
  registry := h'.registry.trans h.registry
  now := h'.now.trans h.now
  nextDiagnostic := h'.nextDiagnostic.trans h.nextDiagnostic
  calls := h'.calls.trans h.calls
  disk := h'.disk.trans h.disk
  client := h'.client.trans h.client
  display := h'.display.trans h.display
  next_le := h.next_le.trans h'.next_le

/-- What the analyzer's output comes to for a document, as the session is now. -/
def read (s : Session) (d : Document) (t : Target) (stdout : String) : Wire.Intake :=
  Wire.intake s.cwd (s.registry.invalidate d.uri) s.nextDiagnostic d t stdout

/-- A session with a document's diagnostics and fixes replaced by what the analyzer printed. -/
def withFound (s : Session) (d : Document) (t : Target) (stdout : String) : Session :=
  let got := s.read d t stdout
  { s with
    registry := got.registry
    nextDiagnostic := s.nextDiagnostic + got.diagnostics.length
    bench := { s.bench with display := Keyed.set s.bench.display d.uri got.diagnostics } }

/-! ## The table

The three relations below follow an attempt backwards from its end: how it ends once the analyzer's
outcome is known, what happens right after the analyzer, and how the analyzer is called. -/

/-- How an attempt ends with an outcome of the analyzer. -/
inductive Ending (s : Session) (d : Document) (b : Begun) (t : Target) (s' : Session) :
    Except Failure (Option Answer) → Result → Prop
  | failed (e : Failure) (kept : Kept s s') : Ending s d b t s' (.error e) (.error e)
  | nothing (kept : Kept s s') : Ending s d b t s' (.ok none) (.ok none)
  | stale (answer : Answer) (old : b.ticket.isCurrent d = false) (kept : Kept s s') :
    Ending s d b t s' (.ok (some answer)) (.ok none)
  | published (answer : Answer) (current : b.ticket.isCurrent d = true)
    (kept : Kept (s.withFound d t answer.stdout) s') :
    Ending s d b t s' (.ok (some answer)) (.ok (some (s.read d t answer.stdout).diagnostics))

/-- What follows the analyzer: a snapshot is there to be removed, or the attempt ends. -/
inductive Following (s : Session) (d : Document) (b : Begun) (t : Target) (s' : Session)
    (o : Except Failure (Option Answer)) : Option FilePath → Stage → Prop
  | toClean (p : FilePath) (kept : Kept s s') : Following s d b t s' o (some p) (.cleaning b t p o)
  | toEnd (r : Result) (ending : Ending s d b t s' o r) :
    Following s d b t s' o none (.ended (some b) r)

/-- How the analyzer is called: without a path it is not. -/
inductive Calling (s : Session) (d : Document) (b : Begun) (t : Target) (snap : Option FilePath)
    (s' : Session) : Stage → Prop
  | pathless (st : Stage) (empty : t.path.isEmpty = true)
    (following : Following s d b t s' (.ok none) snap st) : Calling s d b t snap s' st
  | spawned (run : Run) (directory : Option String) (path : t.path.isEmpty = false)
    (kept : Kept s s') :
    Calling s d b t snap s'
      (.spawning b t snap run directory (s.bench.startFailure? run directory))

/-- The moves: a stage, the stage after it, and the session after it. -/
inductive Move (s : Session) (d : Document) (s' : Session) : Stage → Stage → Prop
  | turnedDown (off : s.enabled = false) (kept : Kept s s') :
    Move s d s' .created (.ended none (.ok none))
  | inPlace (st : Stage) (on : s.enabled = true) (inPlace : Snapshot.isInPlace d = true)
    (calling : Calling s d ⟨s.now, .capture d⟩ (Snapshot.inPlace s.cwd d) none s' st) :
    Move s d s' .created st
  | copy (on : s.enabled = true) (copy : Snapshot.isInPlace d = false)
    (kept : Kept { s with scratch := Snapshot.take s.scratch } s') :
    Move s d s' .created (.makingRoom ⟨s.now, .capture d⟩
      (Snapshot.copyAt s.cwd d (Snapshot.nextPath s.scratch d.path))
      (Snapshot.nextPath s.scratch d.path) d.text)
  | noRoom (b : Begun) (t : Target) (p : FilePath) (text : String) (e : Failure)
    (failed : Snapshot.makeRoom s.bench.disk s.scratch p = .error e) (kept : Kept s s') :
    Move s d s' (.makingRoom b t p text) (.ended (some b) (.ok none))
  | room (b : Begun) (t : Target) (p : FilePath) (text : String) (disk : Disk)
    (made : Snapshot.makeRoom s.bench.disk s.scratch p = .ok disk)
    (kept : Kept (s.withDisk disk) s') :
    Move s d s' (.makingRoom b t p text) (.writing b t p text)
  | unwritten (b : Begun) (t : Target) (p : FilePath) (text : String) (e : Failure) (disk : Disk)
    (failed : Snapshot.write s.bench.disk p text = .error (e, disk))
    (kept : Kept (s.withDisk disk) s') :
    Move s d s' (.writing b t p text) (.ended (some b) (.ok none))
  | written (b : Begun) (t : Target) (p : FilePath) (text : String) (disk : Disk) (st : Stage)
    (written : Snapshot.write s.bench.disk p text = .ok disk)
    (calling : Calling (s.withDisk disk) d b t (some p) s' st) :
    Move s d s' (.writing b t p text) st
  | entered (b : Begun) (t : Target) (snap : Option FilePath) (run : Run)
    (directory : Option String) (kept : Kept s s') :
    Move s d s' (.spawning b t snap run directory none)
      (.running b t snap run (s.now + run.duration) s.next)
  | missing (b : Begun) (t : Target) (snap : Option FilePath) (run : Run)
    (directory : Option String) (e : Failure) (st : Stage)
    (cause : Client.refusal directory e = .executableMissing)
    (following : Following
      { s with bench := { s.bench with client := s.bench.client.missed, display := [] } }
      d b t s' (.ok none) snap st) :
    Move s d s' (.spawning b t snap run directory (some e)) st
  | refused (b : Begun) (t : Target) (snap : Option FilePath) (run : Run)
    (directory : Option String) (e : Failure) (st : Stage)
    (cause : Client.refusal directory e = .directoryMissing ∨ Client.refusal directory e = .other)
    (following : Following s d b t s' (.ok none) snap st) :
    Move s d s' (.spawning b t snap run directory (some e)) st
  | broken (b : Begun) (t : Target) (snap : Option FilePath) (run : Run)
    (directory : Option String) (e : Failure) (st : Stage)
    (cause : Client.refusal directory e = .unforeseen)
    (following : Following s d b t s' (.error e) snap st) :
    Move s d s' (.spawning b t snap run directory (some e)) st
  | lost (b : Begun) (t : Target) (snap : Option FilePath) (run : Run) (due : Time) (order : Nat)
    (message : String) (st : Stage) (fault : run.waitFault = some message)
    (following : Following s d b t s' (.error (.broken message)) snap st) :
    Move s d s' (.running b t snap run due order) st
  | answered (b : Begun) (t : Target) (snap : Option FilePath) (run : Run) (due : Time)
    (order : Nat) (st : Stage) (fine : run.waitFault = none)
    (following : Following { s with bench := { s.bench with client := s.bench.client.ended } }
      d b t s' (.ok (some (run.answer t.path))) snap st) :
    Move s d s' (.running b t snap run due order) st
  | cleaned (b : Begun) (t : Target) (p : FilePath) (o : Except Failure (Option Answer))
    (disk : Disk) (notices : List Log.Notice) (r : Result)
    (gone : Snapshot.delete s.bench.disk p = .ok (disk, notices))
    (ending : Ending (s.withDisk disk) d b t s' o r) :
    Move s d s' (.cleaning b t p o) (.ended (some b) r)
  | uncleaned (b : Begun) (t : Target) (p : FilePath) (o : Except Failure (Option Answer))
    (e : Failure) (r : Result) (failed : Snapshot.delete s.bench.disk p = .error e)
    (ending : Ending s d b t s' o r) :
    Move s d s' (.cleaning b t p o) (.ended (some b) r)

/-! ## Every step is a move -/

theorem kept_log (s : Session) (bound : Option String) (n : Log.Notice) :
    Kept s (s.log bound n) := by
  constructor <;> rfl

theorem kept_setStage (s : Session) (id : Nat) (st : Stage) : Kept s (s.setStage id st) := by
  constructor <;> rfl

theorem kept_finish (s : Session) (a : Attempt) (b : Option Begun) (r : Result) :
    Kept s (s.finish a b r) := by
  constructor <;> rfl

theorem kept_foldl_log (s : Session) (bound : Option String) (ns : List Log.Notice) :
    Kept s (ns.foldl (fun (s : Session) n ↦ s.log bound n) s) := by
  induction ns generalizing s with
  | nil => exact Kept.refl s
  | cons n ns ih => exact (kept_log s bound n).trans (ih _)

theorem foldl_log_attempts (s : Session) (bound : Option String) (ns : List Log.Notice) :
    (ns.foldl (fun (s : Session) n ↦ s.log bound n) s).attempts = s.attempts := by
  induction ns generalizing s with
  | nil => rfl
  | cons n ns ih => exact ih (s.log bound n)

theorem kept_missExecutable (s : Session) (bound : Option String) (e : Failure) :
    Kept { s with bench := { s.bench with client := s.bench.client.missed, display := [] } }
      { s with bench := s.bench.missExecutable bound e } := by
  cases htold : s.bench.client.told <;> simp only [Bench.missExecutable, htold] <;>
    constructor <;> rfl

theorem kept_noteAnswer (s : Session) (bound : Option String) (answer : Answer) :
    Kept s (s.noteAnswer bound answer) := by
  rw [noteAnswer]
  split <;> split <;> constructor <;> rfl

theorem kept_publish (s : Session) (bound : Option String) (d : Document) (version : Int)
    (t : Target) (stdout : String) :
    Kept (s.withFound d t stdout) (s.publish bound d version t stdout).1 := by
  rw [publish]
  cases h : (s.read d t stdout).failure with
  | none => rw [read] at h; simp only [h]; constructor <;> rfl
  | some e => rw [read] at h; simp only [h]; constructor <;> rfl

theorem noteAnswer_attempts (s : Session) (bound : Option String) (answer : Answer) :
    (s.noteAnswer bound answer).attempts = s.attempts := by
  rw [noteAnswer]
  split <;> split <;> rfl

theorem publish_attempts (s : Session) (bound : Option String) (d : Document) (version : Int)
    (t : Target) (stdout : String) :
    (s.publish bound d version t stdout).1.attempts = s.attempts := by
  rw [publish]
  cases h : (s.read d t stdout).failure with
  | none => rw [read] at h; simp only [h]; rfl
  | some e => rw [read] at h; simp only [h]; rfl

/-- Sessions that differ in attempts and records alone read the same. -/
theorem Kept.read_eq {s s' : Session} (h : Kept s s') (d : Document) (t : Target)
    (stdout : String) : s'.read d t stdout = s.read d t stdout := by
  rw [read, read, cwd, cwd, h.disk, h.registry, h.nextDiagnostic]

theorem Kept.withFound {s s' : Session} (h : Kept s s') (d : Document) (t : Target)
    (stdout : String) : Kept (s.withFound d t stdout) (s'.withFound d t stdout) := by
  have hread := h.read_eq d t stdout
  constructor <;>
    simp only [Session.withFound, hread, h.documents, h.settings, h.debounce, h.workspace,
      h.scratch, h.now, h.nextDiagnostic, h.calls, h.disk, h.client, h.display, h.next_le]

/-! A row holds from a session if it holds from one that differs in attempts and records alone. -/

section OfKept

variable {s₁ s₂ s' : Session} {d : Document} {b : Begun} {t : Target}
  {o : Except Failure (Option Answer)} {snap : Option FilePath} {st : Stage}

theorem Ending.of_kept {r : Result} (h : Ending s₂ d b t s' o r) (hk : Kept s₁ s₂) :
    Ending s₁ d b t s' o r := by
  cases h with
  | failed e kept => exact .failed e (hk.trans kept)
  | nothing kept => exact .nothing (hk.trans kept)
  | stale answer old kept => exact .stale answer old (hk.trans kept)
  | published answer current kept =>
    rw [hk.read_eq]
    exact .published answer current ((hk.withFound d t answer.stdout).trans kept)

theorem Following.of_kept (h : Following s₂ d b t s' o snap st) (hk : Kept s₁ s₂) :
    Following s₁ d b t s' o snap st := by
  cases h with
  | toClean p kept => exact .toClean p (hk.trans kept)
  | toEnd r ending => exact .toEnd r (ending.of_kept hk)

theorem Calling.of_kept (h : Calling s₂ d b t snap s' st) (hk : Kept s₁ s₂) :
    Calling s₁ d b t snap s' st := by
  cases h with
  | pathless st empty following => exact .pathless st empty (following.of_kept hk)
  | spawned run directory path kept =>
    rw [Bench.startFailure?, hk.client]
    exact .spawned run directory path (hk.trans kept)

end OfKept

/-! The functions of a step, from the last one back to the first. Each says which stage the attempt
comes to and that the table has it. -/

theorem conclude_spec (s : Session) (a : Attempt) (d : Document) (b : Begun) (t : Target)
    (o : Except Failure (Option Answer)) :
    ∃ r, (s.conclude a d b t o).attempts = (s.setStage a.id (.ended (some b) r)).attempts ∧
      Ending s d b t (s.conclude a d b t o) o r := by
  match o with
  | .error e => exact ⟨.error e, rfl, .failed e (kept_finish s a (some b) (.error e))⟩
  | .ok none => exact ⟨.ok none, rfl, .nothing (kept_finish s a (some b) (.ok none))⟩
  | .ok (some answer) =>
    rw [conclude]
    cases hc : b.ticket.isCurrent d with
    | false =>
      rw [if_neg (by simp)]
      exact ⟨.ok none, rfl, .stale answer hc (by constructor <;> rfl)⟩
    | true =>
      -- What is noted of the answer does not change how its output is read.
      rw [if_pos rfl]
      have hnote := kept_noteAnswer s (s.boundIn a) answer
      have hpub := kept_publish (s.noteAnswer (s.boundIn a) answer) (s.boundIn a) d
        b.ticket.version t answer.stdout
      have hkept := (hnote.withFound d t answer.stdout).trans hpub
      refine ⟨.ok (some (s.read d t answer.stdout).diagnostics), ?_,
        .published answer hc (hkept.trans (kept_finish _ a _ _))⟩
      rw [← hnote.read_eq]
      change List.map _ (publish _ _ d b.ticket.version t _).1.attempts = _
      rw [publish_attempts, noteAnswer_attempts]
      rfl

theorem afterRun_spec (s : Session) (a : Attempt) (d : Document) (b : Begun) (t : Target)
    (snap : Option FilePath) (o : Except Failure (Option Answer)) :
    ∃ st, (s.afterRun a d b t snap o).attempts = (s.setStage a.id st).attempts ∧
      Following s d b t (s.afterRun a d b t snap o) o snap st := by
  cases snap with
  | some p => exact ⟨_, rfl, .toClean p (kept_setStage s a.id _)⟩
  | none =>
    obtain ⟨r, hr, hending⟩ := conclude_spec s a d b t o
    exact ⟨_, hr, .toEnd r hending⟩

theorem launch_spec (s : Session) (a : Attempt) (d : Document) (b : Begun) (t : Target)
    (snap : Option FilePath) :
    ∃ st, (s.launch a d b t snap).attempts = (s.setStage a.id st).attempts ∧
      Calling s d b t snap (s.launch a d b t snap) st := by
  rw [launch]
  cases hp : t.path.isEmpty with
  | true =>
    rw [if_pos rfl]
    obtain ⟨st, hst, hfollowing⟩ := afterRun_spec s a d b t snap (.ok none)
    exact ⟨st, hst, .pathless st hp hfollowing⟩
  | false =>
    rw [if_neg (by simp)]
    exact ⟨_, rfl, .spawned _ _ hp (by constructor <;> rfl)⟩

theorem enter_spec (s : Session) (a : Attempt) (d : Document) (b : Begun) (t : Target)
    (snap : Option FilePath) (run : Run) (directory : Option String) (failure : Option Failure) :
    ∃ st, (s.enter a d b t snap run directory failure).attempts = (s.setStage a.id st).attempts ∧
      Move s d (s.enter a d b t snap run directory failure)
        (.spawning b t snap run directory failure) st := by
  cases failure with
  | none =>
    refine ⟨_, rfl, .entered b t snap run directory ?_⟩
    -- The run takes a number for its alarm.
    have hnext : s.next ≤ (s.enter a d b t snap run directory none).next := Nat.le_succ s.next
    constructor <;> first | rfl | exact hnext
  | some e =>
    rw [enter, Bench.takeUp, Bench.refuse]
    cases hcause : Client.refusal directory e with
    | executableMissing =>
      obtain ⟨st, hst, hfollowing⟩ := afterRun_spec
        { s with bench := s.bench.missExecutable (s.boundIn a) e } a d b t snap (.ok none)
      exact ⟨st, hst, .missing b t snap run directory e st hcause
        (hfollowing.of_kept (kept_missExecutable s _ e))⟩
    | directoryMissing =>
      let bench := (s.bench.countFailure "cwd").log (s.boundIn a)
        (.directoryMissing (directory.getD "") e.message)
      obtain ⟨st, hst, hfollowing⟩ :=
        afterRun_spec { s with bench := bench } a d b t snap (.ok none)
      exact ⟨st, hst, .refused b t snap run directory e st (.inl hcause)
        (hfollowing.of_kept (by constructor <;> rfl))⟩
    | other =>
      let bench := (s.bench.countFailure "spawn").log (s.boundIn a)
        (.spawnFailed s.bench.client.executable e.message)
      obtain ⟨st, hst, hfollowing⟩ :=
        afterRun_spec { s with bench := bench } a d b t snap (.ok none)
      exact ⟨st, hst, .refused b t snap run directory e st (.inr hcause)
        (hfollowing.of_kept (by constructor <;> rfl))⟩
    | unforeseen =>
      obtain ⟨st, hst, hfollowing⟩ := afterRun_spec s a d b t snap (.error e)
      exact ⟨st, hst, .broken b t snap run directory e st hcause hfollowing⟩

theorem endRun_spec (s : Session) (a : Attempt) (d : Document) (b : Begun) (t : Target)
    (snap : Option FilePath) (run : Run) (due : Time) (order : Nat) :
    ∃ st, (s.endRun a d b t snap run).attempts = (s.setStage a.id st).attempts ∧
      Move s d (s.endRun a d b t snap run) (.running b t snap run due order) st := by
  rw [endRun, Bench.finish]
  cases hfault : run.waitFault with
  | some message =>
    let metrics := { s.bench.metrics with inFlight := s.bench.metrics.inFlight.add [] (-1) }
    obtain ⟨st, hst, hfollowing⟩ := afterRun_spec
      { s with bench := { s.bench with metrics := metrics } } a d b t snap
      (.error (.broken message))
    exact ⟨st, hst, .lost b t snap run due order message st hfault
      (hfollowing.of_kept (by constructor <;> rfl))⟩
  | none =>
    let answer := run.answer t.path
    let metrics := { s.bench.metrics with inFlight := s.bench.metrics.inFlight.add [] (-1) }
    let bench := { s.bench with metrics := metrics, client := s.bench.client.ended }.log
      (s.boundIn a) (.exited answer.exitCode answer.stdout.length)
    obtain ⟨st, hst, hfollowing⟩ := afterRun_spec { s with bench := bench } a d b t snap
      (.ok (some answer))
    exact ⟨st, hst, .answered b t snap run due order st hfault
      (hfollowing.of_kept (by constructor <;> rfl))⟩

theorem clean_spec (s : Session) (a : Attempt) (d : Document) (b : Begun) (t : Target)
    (p : FilePath) (o : Except Failure (Option Answer)) :
    ∃ st, (s.clean a d b t p o).attempts = (s.setStage a.id st).attempts ∧
      Move s d (s.clean a d b t p o) (.cleaning b t p o) st := by
  let bound := s.boundIn a
  rw [clean]
  cases hdelete : Snapshot.delete s.bench.disk p with
  | ok gone =>
    obtain ⟨disk, notices⟩ := gone
    obtain ⟨r, hr, hending⟩ := conclude_spec
      (notices.foldl (fun (s : Session) n ↦ s.log bound n)
        (s.withDisk disk)) a d b t o
    refine ⟨_, ?_, .cleaned b t p o disk notices r hdelete
      (hending.of_kept (kept_foldl_log _ bound notices))⟩
    rw [hr, setStage, foldl_log_attempts]
    rfl
  | error e =>
    obtain ⟨r, hr, hending⟩ := conclude_spec
      (s.log bound (.cleanupFailed t.path e.message)) a d b t o
    exact ⟨_, hr, .uncleaned b t p o e r hdelete (hending.of_kept (kept_log s _ _))⟩

theorem write_spec (s : Session) (a : Attempt) (d : Document) (b : Begun) (t : Target)
    (p : FilePath) (text : String) :
    ∃ st, (s.write a d b t p text).attempts = (s.setStage a.id st).attempts ∧
      Move s d (s.write a d b t p text) (.writing b t p text) st := by
  rw [write]
  cases hwrite : Snapshot.write s.bench.disk p text with
  | error failed =>
    exact ⟨_, rfl, .unwritten b t p text failed.1 failed.2 hwrite
      ((kept_log (s.withDisk failed.2) _ _).trans (kept_finish _ a _ _))⟩
  | ok disk =>
    obtain ⟨st, hst, hcalling⟩ := launch_spec
      ((s.withDisk disk).log (s.boundIn a)
        (Snapshot.writtenNotice p text)) a d b t (some p)
    exact ⟨st, hst, .written b t p text disk st hwrite (hcalling.of_kept (kept_log _ _ _))⟩

theorem makeRoom_spec (s : Session) (a : Attempt) (d : Document) (b : Begun) (t : Target)
    (p : FilePath) (text : String) :
    ∃ st, (s.makeRoom a b t p text).attempts = (s.setStage a.id st).attempts ∧
      Move s d (s.makeRoom a b t p text) (.makingRoom b t p text) st := by
  rw [makeRoom]
  cases hroom : Snapshot.makeRoom s.bench.disk s.scratch p with
  | error e =>
    exact ⟨_, rfl, .noRoom b t p text e hroom ((kept_log s _ _).trans (kept_finish _ a _ _))⟩
  | ok disk => exact ⟨_, rfl, .room b t p text disk hroom (kept_setStage _ a.id _)⟩

theorem begin_spec (s : Session) (a : Attempt) (d : Document) :
    ∃ st, (s.begin_ a d).attempts = (s.setStage a.id st).attempts ∧
      Move s d (s.begin_ a d) .created st := by
  rw [begin_]
  cases hon : s.enabled with
  | false =>
    rw [if_neg (by simp)]
    exact ⟨_, rfl, .turnedDown hon (kept_finish s a none _)⟩
  | true =>
    rw [if_pos rfl]
    cases hplace : Snapshot.isInPlace d with
    | true =>
      rw [if_pos rfl]
      obtain ⟨st, hst, hcalling⟩ := launch_spec
        { s with
          bench := { s.bench with metrics := s.bench.metrics.touch s.now }
          scopes := s.scopes.bind a.id d.uri } a d
        ⟨s.now, .capture d⟩ (Snapshot.inPlace s.cwd d) none
      exact ⟨st, hst, .inPlace st hon hplace (hcalling.of_kept (by constructor <;> rfl))⟩
    | false =>
      rw [if_neg (by simp)]
      exact ⟨_, rfl, .copy hon hplace (by constructor <;> rfl)⟩

theorem step_eq {s : Session} {id : Nat} {a : Attempt} {d : Document}
    (ha : s.attempt? id = some a) (hd : s.documents[a.doc]? = some d) :
    s.step id = if s.canStep a then s.stepAttempt a d else s := by
  rw [step, ha]
  simp only [hd]

theorem step_eq_self_or (s : Session) (id : Nat) :
    (s.step id = s ∧ ∀ a d, s.attempt? id = some a → s.documents[a.doc]? = some d →
        s.canStep a = false) ∨
      ∃ a d, s.attempt? id = some a ∧ s.documents[a.doc]? = some d ∧ s.canStep a = true := by
  cases ha : s.attempt? id with
  | none =>
    refine Or.inl ⟨by rw [step, ha], ?_⟩
    intro a d ha'
    cases ha'
  | some a =>
    cases hd : s.documents[a.doc]? with
    | none =>
      refine Or.inl ⟨by rw [step, ha]; simp only [hd], ?_⟩
      intro a' d ha' hd'
      cases ha'
      cases hd.symm.trans hd'
    | some d =>
      cases hcan : s.canStep a with
      | false =>
        refine Or.inl ⟨by rw [step_eq ha hd, hcan, if_neg Bool.false_ne_true], ?_⟩
        intro a' d' ha' _
        cases ha'
        exact hcan
      | true => exact Or.inr ⟨a, d, rfl, hd, hcan⟩

/-- A step that can be taken moves the attempt as the table says. -/
theorem step_move {s : Session} {id : Nat} {a : Attempt} {d : Document}
    (ha : s.attempt? id = some a) (hd : s.documents[a.doc]? = some d) (hcan : s.canStep a = true) :
    ∃ st, (s.step id).attempts = (s.setStage id st).attempts ∧ Move s d (s.step id) a.stage st := by
  have hid : a.id = id := by simpa using List.find?_some ha
  rw [step_eq ha hd, if_pos hcan, ← hid]
  -- The stage decides which function the step is.
  obtain ⟨i, doc, origin, stage⟩ := a
  cases stage with
  | created => exact begin_spec s _ d
  | makingRoom b t p text => exact makeRoom_spec s _ d b t p text
  | writing b t p text => exact write_spec s _ d b t p text
  | spawning b t snap run directory failure =>
    exact enter_spec s _ d b t snap run directory failure
  | running b t snap run due order => exact endRun_spec s _ d b t snap run due order
  | cleaning b t p o => exact clean_spec s _ d b t p o
  | ended b r => simp [canStep] at hcan
  | settled b r => simp [canStep] at hcan

/-- **The table is complete.** A step does nothing, or it moves the attempt as the table says. -/
theorem step_cases (s : Session) (id : Nat) :
    s.step id = s ∨ ∃ a d st, s.attempt? id = some a ∧ s.documents[a.doc]? = some d ∧
      s.canStep a = true ∧ (s.step id).attempts = (s.setStage id st).attempts ∧
      Move s d (s.step id) a.stage st := by
  rcases s.step_eq_self_or id with ⟨hsame, -⟩ | ⟨a, d, ha, hd, hcan⟩
  · exact Or.inl hsame
  · obtain ⟨st, hst, hmove⟩ := step_move ha hd hcan
    exact Or.inr ⟨a, d, st, ha, hd, hcan, hst, hmove⟩

end Session

end DiagnosticFeed
