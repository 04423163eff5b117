import DiagnosticFeed.Proofs.Session.Buffers
import DiagnosticFeed.Proofs.Session.Filing

/-!
# What the analyzer is called on

The analyzer is called on a path, and what it reads there should be what the user saw when the
attempt began. There are two ways to it. A clean document with a file is analyzed in place, in the
very step in which the attempt begins, and its file is in sync with it. Any other document is
written to a snapshot first. Anything can happen before that, but the text was settled when the
attempt began, and the analyzer is called in the step in which it is written.
-/

namespace DiagnosticFeed

/-- Whether the analyzer is being started. -/
def Stage.isSpawning : Stage → Bool
  | .spawning .. => true
  | _ => false

theorem Snapshot.isInPlace_iff {d : Document} : isInPlace d = true ↔
    ∃ p, d.path = some p ∧ d.isUntitled = false ∧ d.dirty = false := by
  simp [isInPlace, Option.isSome_iff_exists, and_assoc]

namespace Session

/-- In its next step, an attempt calls the analyzer; whether it will start does not matter. -/
structure Spawns (s : Session) (i : Nat) (a : Attempt) (b : Begun) (t : Target)
    (snap : Option FilePath) (run : Run) (directory : Option String) (failure : Option Failure) :
    Prop where
  before : s.attempt? i = some a
  idle : a.stage.isSpawning = false
  after : (s.act (.step i)).attempt? i =
    some { a with stage := .spawning b t snap run directory failure }

/-- The last thing in the journal is a call of the analyzer on a path, in a directory. From there
the analyzer sees what the path leads to. -/
def Calls (s : Session) (path : String) (directory : Option String) : Prop :=
  ∃ command journal, s.bench.journal = .spawned command directory
      (((s.bench.disk.startingIn directory).content? (.ofString path)).map
        Content.decodeRepaired) :: journal ∧
    command.getLast? = some path

/-- A call of the analyzer, just made, on a file with the text of a document: this very text if the
document was not on disk as it stood, and this text up to line ends in any case. -/
structure Analyzes (s : Session) (path : String) (directory : Option String) (d : Document) :
    Prop where
  calls : s.Calls path directory
  exact : d.dirty = true ∨ d.isUntitled = true ∨ d.path = none →
    s.bench.disk.content? (.ofString path) = some (.text d.text)
  holds : s.bench.disk.HoldsText (.ofString path) d.text

section

variable {s s' s₀ : Session} {i : Nat} {a : Attempt} {d : Document} {b : Begun} {t : Target}
  {snap : Option FilePath} {run : Run} {directory : Option String} {failure : Option Failure}
  {st : Stage} {acts past future : List Action}

/-! ## One step -/

theorem Move.cases_spawning (h : Move s d s' st (.spawning b t snap run directory failure)) :
    t.path.isEmpty = false ∧
      (st = .created ∧ s.enabled = true ∧ Snapshot.isInPlace d = true ∧ b = ⟨s.now, .capture d⟩ ∧
          t = Snapshot.inPlace s.cwd d ∧ snap = none ∧ s'.bench.disk = s.bench.disk ∨
        ∃ p text, st = .writing b t p text ∧ snap = some p ∧
          s.bench.disk.writeText p text = .ok s'.bench.disk) := by
  generalize hst' : Stage.spawning b t snap run directory failure = st' at h
  cases h with
  | inPlace st on inPlace calling =>
    cases calling with
    | pathless st empty following =>
      cases following
      cases hst'
    | spawned run directory path kept =>
      cases hst'
      exact ⟨path, Or.inl ⟨rfl, on, inPlace, rfl, rfl, rfl, kept.disk⟩⟩
  | written b t p text disk st written calling =>
    cases calling with
    | pathless st empty following =>
      cases following
      cases hst'
    | spawned run directory path kept =>
      cases hst'
      refine ⟨path, Or.inr ⟨p, text, rfl, rfl, ?_⟩⟩
      rw [kept.disk]
      exact ok_of_mapError written
  | missing b t snap run directory e st cause following => cases following <;> cases hst'
  | refused b t snap run directory e st cause following => cases following <;> cases hst'
  | broken b t snap run directory e st cause following => cases following <;> cases hst'
  | lost b t snap run due order message st fault following => cases following <;> cases hst'
  | answered b t snap run due order st fine following => cases following <;> cases hst'
  | _ => cases hst'

theorem Spawns.move (h : Spawns s i a b t snap run directory failure) :
    ∃ d, s.documents[a.doc]? = some d ∧ s.canStep a = true ∧
      Move s d (s.step i) a.stage (.spawning b t snap run directory failure) := by
  have hafter := h.after
  rcases s.step_cases i with hsame | ⟨a', d, st, ha, hd, hcan, hattempts, hmove⟩
  · -- Nothing has happened, so the analyzer was being started before.
    change (s.step i).attempt? i = _ at hafter
    rw [hsame, h.before] at hafter
    have hidle := h.idle
    rw [congrArg Attempt.stage (Option.some.inj hafter)] at hidle
    cases hidle
  · cases h.before.symm.trans ha
    have hst := (attempt?_of_move ha hattempts).symm.trans hafter
    have hstage : st = .spawning b t snap run directory failure :=
      congrArg Attempt.stage (Option.some.inj hst)
    exact ⟨d, hd, hcan, hstage ▸ hmove⟩


/-- Where the analyzer is called: in the directory of the target, or in the workspace folder. -/
theorem launch_spawns (s : Session) (a : Attempt) (d : Document) (b : Begun) (t : Target)
    (snap : Option FilePath) (hpath : t.path.isEmpty = false) :
    ∃ run directory failure,
      (s.launch a d b t snap).attempts =
        (s.setStage a.id (.spawning b t snap run directory failure)).attempts ∧
      directory = (t.directory? (s.rootOf d)).map FilePath.toText ∧
      (s.launch a d b t snap).Calls t.path directory := by
  rw [launch, if_neg (by simp [hpath])]
  refine ⟨_, _, _, rfl, rfl, _, _, rfl, ?_⟩
  simp [Client.command]

/-- Both moves that call the analyzer end with the same call; what comes before it changes neither
the attempts nor the folders nor the client. -/
theorem Spawns.launches (h : Spawns s i a b t snap run directory failure) :
    ∃ d, ∃ s₁ : Session, s.documents[a.doc]? = some d ∧ s.step i = s₁.launch a d b t snap ∧
      s₁.attempts = s.attempts ∧ s₁.rootOf d = s.rootOf d ∧
      s₁.bench.client = s.bench.client := by
  obtain ⟨d, hd, hcan, hmove⟩ := h.move
  have hstep : s.step i = s.stepAttempt a d := by rw [step_eq h.before hd, if_pos hcan]
  refine ⟨d, ?_⟩
  rcases hmove.cases_spawning.2 with
    ⟨hst, hon, hplace, rfl, rfl, rfl, -⟩ | ⟨p, text, hst, rfl, hwrite⟩
  · refine ⟨{ s with
        bench := { s.bench with metrics := s.bench.metrics.touch s.now }
        scopes := s.scopes.bind a.id d.uri }, hd, ?_, rfl, rfl, rfl⟩
    rw [hstep, stepAttempt, hst]
    simp only [begin_, hon, hplace, if_true]
    rfl
  · have hwrite' : Snapshot.write s.bench.disk p text = .ok (s.step i).bench.disk := by
      rw [Snapshot.write, hwrite]
      rfl
    refine ⟨{ s with bench := { s.bench with disk := (s.step i).bench.disk } }.log
      (s.boundIn a) (Snapshot.writtenNotice p text), hd, ?_, rfl, ?_, rfl⟩
    · conv_lhs => rw [hstep, stepAttempt, hst]
      simp only [write, hwrite']
      rfl
    · have hcwd := congrArg Disk.cwd (Disk.eq_of_writeText hwrite)
      change (s.workspace.bind fun roots ↦ Workspace.rootOf (s.step i).bench.disk.cwd roots d) = _
      rw [hcwd]
      rfl

theorem Spawns.calls_in (h : Spawns s i a b t snap run directory failure) :
    (s.act (.step i)).Calls t.path directory ∧ ∃ d, s.documents[a.doc]? = some d ∧
      directory = (t.directory? (s.rootOf d)).map FilePath.toText := by
  obtain ⟨d, hd, hcan, hmove⟩ := h.move
  have hpath := hmove.cases_spawning.1
  obtain ⟨d', s₁, hd', hlaunch, hattempts, hroot, -⟩ := h.launches
  cases hd.symm.trans hd'
  obtain ⟨run', directory', failure', hset, hdirectory, hcalls⟩ :=
    launch_spawns s₁ a d b t snap hpath
  have hid : a.id = i := attempt?_id h.before
  have hafter := h.after
  change (s.step i).attempt? i = _ at hafter
  have hset' : (s.step i).attempts =
      (s.setStage i (.spawning b t snap run' directory' failure')).attempts := by
    rw [hlaunch, hset, setStage, hattempts, hid]
    rfl
  rw [attempt?_of_move h.before hset'] at hafter
  cases hafter
  refine ⟨?_, d, hd, by rw [hdirectory, hroot]⟩
  change (s.step i).Calls t.path directory
  rw [hlaunch]
  exact hcalls

theorem Spawns.calls (h : Spawns s i a b t snap run directory failure) :
    (s.act (.step i)).Calls t.path directory :=
  h.calls_in.1

theorem Spawns.command (h : Spawns s i a b t snap run directory failure) :
    ∃ content journal, (s.act (.step i)).bench.journal =
      .spawned (s.bench.client.command t.path) directory content :: journal := by
  obtain ⟨command, journal, hjournal, -⟩ := h.calls
  obtain ⟨d, hd, hcan, hmove⟩ := h.move
  have hpath := hmove.cases_spawning.1
  obtain ⟨d', s₁, -, hlaunch, -, -, hclient⟩ := h.launches
  have hlast : ∃ directory' content journal, (s.step i).bench.journal =
      .spawned (s.bench.client.command t.path) directory' content :: journal := by
    rw [hlaunch, launch, if_neg (by simp [hpath]), ← hclient]
    exact ⟨_, _, _, rfl⟩
  -- There is one last thing in the journal.
  obtain ⟨directory', content', journal', hlast⟩ := hlast
  rw [show (s.act (.step i)).bench.journal = _ from hlast, List.cons.injEq,
    Event.spawned.injEq] at hjournal
  obtain ⟨⟨-, rfl, -⟩, -⟩ := hjournal
  exact ⟨content', journal', hlast⟩

/-! ## Whole runs -/

/-- `Spawns`, as it can be looked up in a run. -/
theorem exists_spawns
    (hbefore : (s.attempt? i).map (·.stage.isSpawning) = some false)
    (hafter : ((s.act (.step i)).attempt? i).map (·.stage.isSpawning) = some true) :
    ∃ a b t snap run directory failure, Spawns s i a b t snap run directory failure := by
  rw [Option.map_eq_some_iff] at hbefore hafter
  obtain ⟨a, ha, hidle⟩ := hbefore
  obtain ⟨a', ha', hspawning⟩ := hafter
  obtain ⟨st, hst, -⟩ := attempt?_act ha (.step i)
  rw [ha'] at hst
  cases hst
  cases st with
  | spawning b t snap run directory failure =>
    exact ⟨a, b, t, snap, run, directory, failure, ha, hidle, ha'⟩
  | _ => cases hspawning

end

/-! A session with the document of a file that has line ends of the other kind. -/

def returnDisk : Disk :=
  ⟨⟨.root, ["w"]⟩, [("/w/a.sg", .text "let x\r\n")], [], []⟩

def returnDocument : Document :=
  { uri := "file:///w/a.sg", text := "let x\n", path := some ⟨.root, ["w", "a.sg"]⟩ }

def returnSample : Session :=
  open_ returnDisk {} [returnDocument] none []

/-- An attempt on a changed document, up to the call. There is another change on the way. -/
def untilCall : List Action :=
  [.call 0, .edit 0 "z", .step 0, .edit 0 "y", .step 0]

theorem fresh_returnDocument : returnDocument.Fresh returnDisk := by
  have hopened : (Document.ofFile returnDisk (.ofString "a.sg") defaultLanguage).toOption =
      some returnDocument := by decide +kernel
  cases h : Document.ofFile returnDisk (.ofString "a.sg") defaultLanguage with
  | error e =>
    rw [h] at hopened
    cases hopened
  | ok d =>
    rw [h] at hopened
    cases hopened
    exact .ofFile "a.sg" defaultLanguage _ (by decide) h

theorem private_returnSample : Private returnSample (untilCall ++ [.step 0]) where
  opened := ⟨_, _, _, _, _, rfl⟩
  documents := by
    intro d hd
    cases List.mem_singleton.mp hd
    exact fresh_returnDocument
  opens := by
    intro past d future h
    have hmem : Action.openDocument d ∈ untilCall ++ [.step 0] := by rw [h]; simp
    simp [untilCall] at hmem
  unmixed := by
    have hlength : (returnSample.after (untilCall ++ [.step 0])).documents.length = 1 := by
      decide +kernel
    intro i j d d' p hd hd' _ _
    obtain ⟨hi, -⟩ := List.getElem?_eq_some_iff.mp hd
    obtain ⟨hj, -⟩ := List.getElem?_eq_some_iff.mp hd'
    omega
  spared := by decide +kernel

end Session

end DiagnosticFeed
