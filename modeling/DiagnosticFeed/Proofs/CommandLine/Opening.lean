import DiagnosticFeed.CommandLine.Program
import DiagnosticFeed.Proofs.Fallible
import DiagnosticFeed.Proofs.Session.Unattended
import Mathlib.Data.List.Forall2

/-!
# What a check does before it waits

A check sets up the log, opens its files as documents, and starts a session on them. As long as
operations on files fail only in the ways of the operating system, the log is set up and the session
is started in any case, and neither changes what files can be read. So a check gets to where it
waits if and only if each of its files can be opened.
-/

namespace DiagnosticFeed

/-! ## Operations on files -/

/-- Operations fail only in the ways of the operating system. -/
def Disk.Ordinary (disk : Disk) : Prop :=
  ∀ access, disk.faults.get? access ≠ some .breaks

/-- A file can be opened as a document. -/
def Disk.CanOpen (disk : Disk) (p : FilePath) : Prop :=
  ∃ text, disk.readText (FilePath.canonical disk.cwd p) = .ok text

namespace Disk

variable {disk : Disk} {p : FilePath} {e : Failure}

theorem Ordinary.isSystem_of_check (h : disk.Ordinary) {access : Access}
    (hcheck : disk.check access p = .error e) : e.isSystem = true := by
  rw [check] at hcheck
  split at hcheck
  · cases hcheck
  · cases hcheck
  · cases hcheck
    rfl
  · next hbreaks => exact absurd hbreaks (h access)

theorem Ordinary.isSystem_of_read (h : disk.Ordinary) (hread : disk.read p = .error e) :
    e.isSystem = true := by
  rw [read, bind_eq_error_iff] at hread
  rcases hread with hcheck | ⟨-, -, hread⟩
  · exact h.isSystem_of_check hcheck
  · split at hread <;> cases hread
    rfl

theorem Ordinary.cause_of_readText (h : disk.Ordinary) (hread : disk.readText p = .error e) :
    e.isSystem = true ∨ e = .undecodable := by
  rw [readText, bind_eq_error_iff] at hread
  rcases hread with hread | ⟨c, -, hread⟩
  · exact .inl (h.isSystem_of_read hread)
  · split at hread <;> cases hread
    exact .inr rfl

theorem Ordinary.isSystem_of_makeDirectory (h : disk.Ordinary)
    (hmake : disk.makeDirectory p = .error e) : e.isSystem = true := by
  rw [makeDirectory, bind_eq_error_iff] at hmake
  rcases hmake with hcheck | ⟨-, -, hmake⟩
  · exact h.isSystem_of_check hcheck
  · change (if disk.isFile p then _ else pure _) = Except.error e at hmake
    split at hmake <;> cases hmake
    rfl

/-- What can be read does not depend on the directories that there are, though the reason why
something cannot does. -/
theorem readText_with_dirs (disk : Disk) (dirs : List String) (p : FilePath) (text : String) :
    Disk.readText { disk with dirs := dirs } p = .ok text ↔ disk.readText p = .ok text := by
  have hread : ∀ c, Disk.read { disk with dirs := dirs } p = .ok c ↔ disk.read p = .ok c := by
    intro c
    rw [read, read, bind_eq_ok_iff, bind_eq_ok_iff]
    have hcontent : Disk.content? { disk with dirs := dirs } p = disk.content? p := rfl
    have hcheck : Disk.check { disk with dirs := dirs } .read p = disk.check .read p := rfl
    simp only [hcontent, hcheck]
    cases disk.content? p <;> simp [throw, throwThe, MonadExceptOf.throw]
  simp only [readText, bind_eq_ok_iff, hread]

end Disk

theorem ofFile_eq_ok_iff {disk : Disk} {p : FilePath} {language : String} {d : Document} :
    Document.ofFile disk p language = .ok d ↔
      ∃ text, disk.readText (FilePath.canonical disk.cwd p) = .ok text ∧
        d = { uri := (FilePath.canonical disk.cwd p).uri, text := text,
              path := some (FilePath.canonical disk.cwd p), language := language } := by
  rw [Document.ofFile, bind_eq_ok_iff]
  simp only [pure, Except.pure, Except.ok.injEq, eq_comm]

theorem ofFile_with_dirs {disk : Disk} {p : FilePath} {language : String} {d : Document}
    (dirs : List String) : Document.ofFile { disk with dirs := dirs } p language = .ok d ↔
      Document.ofFile disk p language = .ok d := by
  simp only [ofFile_eq_ok_iff, Disk.readText_with_dirs]

theorem canOpen_iff {disk : Disk} {p : FilePath} (language : String) :
    disk.CanOpen p ↔ ∃ d, Document.ofFile disk p language = .ok d := by
  simp only [Disk.CanOpen, ofFile_eq_ok_iff]
  constructor
  · rintro ⟨text, h⟩
    exact ⟨_, text, h, rfl⟩
  · rintro ⟨-, text, h, -⟩
    exact ⟨text, h⟩

theorem Disk.Ordinary.cause_of_ofFile {disk : Disk} (h : disk.Ordinary) {p : FilePath}
    {language : String} {e : Failure} (hopen : Document.ofFile disk p language = .error e) :
    e.isSystem = true ∨ e = .undecodable := by
  rw [Document.ofFile, bind_eq_error_iff] at hopen
  rcases hopen with hread | ⟨text, -, hdone⟩
  · exact h.cause_of_readText hread
  · cases hdone

/-! ## The log -/

namespace Log

theorem Level.ofText_name (l : Level) : Level.ofText l.name = .ok l := by
  have hupper : Text.upper l.name = l.name := by cases l <;> decide +kernel
  have hname : Level.ofName? l.name = some l := by cases l <;> decide +kernel
  simp only [Level.ofText, hupper, hname]

theorem Format.ofText_name (f : Format) : Format.ofText f.name = .ok f := by
  have hlower : Text.lower f.name = f.name := by cases f <;> decide +kernel
  have hname : Format.ofName? f.name = some f := by cases f <;> decide +kernel
  simp only [Format.ofText, hlower, hname]

/-- Opening the log file makes directories at most, and is refused by the operating system at
most. -/
theorem openFile_cases {disk : Disk} (h : disk.Ordinary) (p : FilePath) :
    ∃ result dirs, openFile disk p = (result, { disk with dirs := dirs }) ∧
      ∀ e, result = .error e → e.isSystem = true := by
  rw [openFile]
  cases hmake : disk.makeDirectory p.parent with
  | error e =>
    refine ⟨.error e, disk.dirs, rfl, ?_⟩
    rintro _ ⟨⟩
    exact h.isSystem_of_makeDirectory hmake
  | ok disk' =>
    obtain ⟨dirs, rfl⟩ := Disk.files_of_makeDirectory hmake
    refine ⟨_, dirs, rfl, fun e he ↦ ?_⟩
    have hstill : Disk.Ordinary { disk with dirs := dirs } := h
    exact hstill.isSystem_of_check he

theorem setUp_of_names {disk : Disk} (h : disk.Ordinary) (r : Request) (l : Level) (f : Format)
    (hlevel : r.level = some l.name) (hformat : r.format = some f.name)
    (hfile : ∀ named, r.file = some named → named.isSome = true) :
    ∃ setup dirs, setUp disk r = .ok (setup, { disk with dirs := dirs }) := by
  have hwanted : ∃ p?, r.file? = .ok p? := by
    rw [Request.file?]
    split
    · exact ⟨_, rfl⟩
    · split
      · exact ⟨_, rfl⟩
      · exact ⟨_, rfl⟩
      · exact ⟨_, rfl⟩
      · next hnone => cases hfile none hnone
  obtain ⟨p?, hp⟩ := hwanted
  cases p? with
  | none =>
    refine ⟨⟨l, [.stream]⟩, disk.dirs, ?_⟩
    simp [setUp, hlevel, hformat, Level.ofText_name, Format.ofText_name, hp, bind, Except.bind,
      pure, Except.pure]
  | some p =>
    obtain ⟨result, dirs, hopen, hsystem⟩ := openFile_cases h p
    cases result with
    | ok u =>
      refine ⟨⟨l, [.stream, .file p]⟩, dirs, ?_⟩
      simp [setUp, hlevel, hformat, Level.ofText_name, Format.ofText_name, hp, hopen, bind,
        Except.bind, pure, Except.pure]
    | error e =>
      refine ⟨⟨l, [.stream]⟩, dirs, ?_⟩
      simp [setUp, hlevel, hformat, Level.ofText_name, Format.ofText_name, hp, hopen, hsystem e rfl,
        bind, Except.bind, pure, Except.pure]

end Log

/-! ## The session -/

namespace Session

theorem start_of_ordinary {s : Session} (h : s.bench.disk.Ordinary) (docs : List Nat) :
    s.start docs = .ok (s.act (.start docs)) := by
  have hstart : ∃ s', s.start docs = .ok s' := by
    rw [start]
    cases hmake : s.bench.disk.makeDirectory s.scratch.directory with
    | ok disk => exact ⟨_, rfl⟩
    | error e =>
      have hsystem := h.isSystem_of_makeDirectory hmake
      exact ⟨_, by simp only [hsystem, if_true]; rfl⟩
  obtain ⟨s', hs'⟩ := hstart
  rw [act, hs']
  rfl

/-- A session that was only started has answered nothing so far. -/
theorem Opened.alone {s : Session} (h : s.Opened) (docs : List Nat) {acts : List Action}
    (hown : ∀ e ∈ acts, e.isOwn = true) : Alone (s.act (.start docs)) acts where
  fresh := (s.aside_act (e := .start docs) rfl).attempts.trans h.attempts_eq
  blank := (s.aside_act (e := .start docs) rfl).display.trans h.display_eq
  named := timersNamed_after h [.start docs]
  own := hown

end Session

namespace CommandLine

section

variable {disk : Disk} {language : String} {ps : List FilePath} {ds : List Document}
  {p : FilePath} {e : Failure}

theorem openFiles_eq_ok_iff : openFiles disk language ps = .ok ds ↔
    List.Forall₂ (fun p d ↦ Document.ofFile disk p language = .ok d) ps ds := by
  induction ps generalizing ds with
  | nil => simp [openFiles, List.forall₂_nil_left_iff, eq_comm]
  | cons p ps ih =>
    rw [openFiles, List.forall₂_cons_left_iff]
    cases hopen : Document.ofFile disk p language with
    | error e => simp
    | ok d =>
      have hmap : (openFiles disk language ps).map (d :: ·) = .ok ds ↔
          ∃ rest, openFiles disk language ps = .ok rest ∧ ds = d :: rest := by
        cases openFiles disk language ps <;> simp [Except.map, eq_comm]
      simp only [hmap, ih]
      simp

theorem ofFile_of_openFiles_eq_error (h : openFiles disk language ps = .error (p, e)) :
    p ∈ ps ∧ Document.ofFile disk p language = .error e := by
  induction ps with
  | nil => cases h
  | cons p' ps ih =>
    rw [openFiles] at h
    split at h
    · next e' hopen =>
      cases h
      exact ⟨List.mem_cons_self, hopen⟩
    · cases hrest : openFiles disk language ps with
      | ok rest =>
        rw [hrest] at h
        cases h
      | error failed =>
        rw [hrest] at h
        cases h
        obtain ⟨hmem, hopen⟩ := ih hrest
        exact ⟨List.mem_cons_of_mem p' hmem, hopen⟩

theorem exit_unreadable (h : e.isSystem = true ∨ e = .undecodable) (level : Log.Level) :
    (unreadable level disk p e).exit = .ok .trouble := by
  rw [unreadable, if_pos (by simpa using h)]
  rfl

end

theorem setUpLog_of_ordinary {w : World} (h : w.disk.Ordinary) (a : Arguments) (s : LogSettings) :
    ∃ level dirs, setUpLog w a s = .ok (level, { w.disk with dirs := dirs }) := by
  rw [setUpLog]
  cases a.config with
  | none => exact ⟨a.level, w.disk.dirs, rfl⟩
  | some named =>
    have hlevel : (logRequest a s).level =
        some (Log.Level.name (if a.debug then .debug else s.level)) := by
      rw [logRequest]
      split <;> rfl
    have hfile : ∀ named, (logRequest a s).file = some named → named.isSome = true := by
      intro named hnamed
      rw [logRequest] at hnamed
      dsimp only at hnamed
      split at hnamed <;> cases hnamed
      rfl
    obtain ⟨setup, dirs, hsetup⟩ :=
      Log.setUp_of_names h (logRequest a s) _ s.format hlevel rfl hfile
    exact ⟨setup.level, dirs, by rw [hsetup]; rfl⟩

/-! ## A check that gets to its files -/

/-- A check with a valid configuration, with paths for folders and a number for the timeout, where
operations on files succeed or are refused by the operating system, and what is printed goes out. -/
structure Checking where
  world : World
  arguments : Arguments
  request : CheckRequest
  settings : Settings
  folders : List FilePath
  limit : Schedule.Limit
  configured : configuration world arguments = .ok settings
  ordinary : world.disk.Ordinary
  located : request.folders world.disk.cwd = .ok folders
  limited : request.timeout = some limit
  printable : world.outputFault = none

namespace Checking

variable {c : Checking} {documents documents' : List Document} {s s' : Session}

/-- What comes of a check. -/
def outcome (c : Checking) : Outcome :=
  (check c.world c.arguments c.request).delivered c.world

def Lacks (c : Checking) : Prop :=
  ∃ p ∈ c.request.files, ¬c.world.disk.CanOpen p

/-- What a check waits for: its files are opened as documents, and a session is started on all of
them, on the files as the log left them. -/
structure Starts (c : Checking) (documents : List Document) (s : Session) : Prop where
  opened : List.Forall₂ (fun p d ↦
    Document.ofFile c.world.disk p c.settings.analyzer.language = .ok d) c.request.files documents
  started : ∃ level disk, setUpLog c.world c.arguments c.settings.log = .ok (level, disk) ∧
    (sessionFor disk c.settings.analyzer c.folders documents c.world.runs).start
      (List.range documents.length) = .ok s

theorem Starts.unique (h : c.Starts documents s) (h' : c.Starts documents' s') :
    documents' = documents ∧ s' = s := by
  have hopened := openFiles_eq_ok_iff.mpr h.opened
  rw [openFiles_eq_ok_iff.mpr h'.opened] at hopened
  cases hopened
  obtain ⟨level, disk, hlog, hstart⟩ := h.started
  obtain ⟨level', disk', hlog', hstart'⟩ := h'.started
  cases hlog.symm.trans hlog'
  exact ⟨rfl, Except.ok.inj (hstart'.symm.trans hstart)⟩

theorem Starts.not_lacks (h : c.Starts documents s) : ¬c.Lacks := by
  rintro ⟨p, hp, hcannot⟩
  have hopened : List.Forall₂ (fun p d ↦ c.world.disk.CanOpen p ∧
      Document.ofFile c.world.disk p c.settings.analyzer.language = .ok d)
      c.request.files documents :=
    h.opened.imp fun _ d hd ↦ ⟨(canOpen_iff _).mpr ⟨d, hd⟩, hd⟩
  exact hcannot (((List.forall₂_and_left c.request.files documents).mp hopened).1 p hp)

/-- **A check fails at its files, or gets to where it waits.** -/
theorem outcome_cases (c : Checking) : c.Lacks ∧ c.outcome.exit = .ok .trouble ∨
    ∃ documents s level, c.Starts documents s ∧ c.outcome = outcomeOf level s c.request := by
  obtain ⟨level, dirs, hlog⟩ :=
    setUpLog_of_ordinary c.ordinary c.arguments c.settings.log
  have hstill : Disk.Ordinary { c.world.disk with dirs := dirs } := c.ordinary
  have hcheck : c.outcome = checkWith level { c.world.disk with dirs := dirs } c.world.runs
      c.settings.analyzer c.request := by
    simp only [outcome, Outcome.delivered, c.printable, check, c.configured, hlog]
  rw [hcheck, checkWith]
  cases hfiles : openFiles { c.world.disk with dirs := dirs } c.settings.analyzer.language
      c.request.files with
  | error failed =>
    obtain ⟨p, e⟩ := failed
    obtain ⟨hp, hopen⟩ := ofFile_of_openFiles_eq_error hfiles
    refine .inl ⟨⟨p, hp, ?_⟩, exit_unreadable (hstill.cause_of_ofFile hopen) level⟩
    rw [canOpen_iff c.settings.analyzer.language]
    rintro ⟨d, hd⟩
    rw [← ofFile_with_dirs dirs, hopen] at hd
    cases hd
  | ok documents =>
    have hopened := openFiles_eq_ok_iff.mp hfiles
    simp only [ofFile_with_dirs] at hopened
    have hstart := Session.start_of_ordinary (s := sessionFor { c.world.disk with dirs := dirs }
      c.settings.analyzer c.folders documents c.world.runs) hstill (List.range documents.length)
    refine .inr ⟨documents, _, level, ⟨hopened, level, _, hlog, hstart⟩, ?_⟩
    have hlocated : c.request.folders { c.world.disk with dirs := dirs }.cwd = .ok c.folders :=
      c.located
    simp only [hlocated, hstart]

end Checking

end CommandLine

end DiagnosticFeed
