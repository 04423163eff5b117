import DiagnosticFeed.Proofs.Session.Availability
import DiagnosticFeed.Proofs.Session.Spawns

/-!
# Taking on new settings

A session takes on new settings while it runs. Two of them reach the parts of the session that work
by them: the executable and the quiet period. The three others, the limit of diagnostics, the
scratch directory and the language, are copied when the session is opened and stay as they were
then. So a session with new settings does what a session does that was opened with them as far as
the new settings agree with the old ones in these three, and not beyond.
-/

namespace DiagnosticFeed

/-- The settings that an action takes on. -/
def Session.Action.settings? : Session.Action → Option AnalyzerSettings
  | .reconfigure settings _ => some settings
  | _ => none

namespace Session

/-- The settings that were taken on last, or else those that the session was opened with. -/
def lastSettings (opened : AnalyzerSettings) (acts : List Action) : AnalyzerSettings :=
  acts.foldl (fun settings e ↦ e.settings?.getD settings) opened

/-- What a session works by: some of it comes from the settings that it was opened with, and the
rest from those that were taken on last. -/
structure WorksBy (s : Session) (opened last : AnalyzerSettings) : Prop where
  executable : s.bench.client.executable = last.executable
  delay : s.debounce.delay = last.debounce
  limit : s.bench.client.maxDiagnostics = opened.maxDiagnostics
  directory : s.scratch.directory = opened.scratch
  language : s.debounce.language = some opened.language

/-! ## One action -/

section

variable {s s' : Session} {e : Action} {resets misses : Bool}

theorem Noticed.limit (h : Noticed s s' resets misses) :
    s'.bench.client.maxDiagnostics = s.bench.client.maxDiagnostics := by
  cases h with
  | nothing untold => rw [untold.client]
  | ended client warnings =>
    rw [client, Client.ended]
    split <;> rfl
  | missed client warnings => rw [client]; rfl
  | reset executable client warnings => rw [client]; rfl

theorem Noticed.executable (h : Noticed s s' false misses) :
    s'.bench.client.executable = s.bench.client.executable := by
  cases h with
  | nothing untold => rw [untold.client]
  | ended client warnings =>
    rw [client, Client.ended]
    split <;> rfl
  | missed client warnings => rw [client]; rfl

theorem delay_trigger (s : Session) (doc : Nat) :
    (s.trigger doc).debounce.delay = s.debounce.delay := by
  cases hd : s.documents[doc]? with
  | none => rw [trigger, hd]
  | some d =>
    rw [timers_trigger hd, Schedule.Debounce.trigger]
    split <;> rfl

theorem delay_triggerAll (s : Session) (docs : List Nat) :
    (s.triggerAll docs).debounce.delay = s.debounce.delay := by
  induction docs generalizing s with
  | nil => rfl
  | cons doc docs ih => exact (ih (s.trigger doc)).trans (delay_trigger s doc)

/-- New settings bring the executable and the quiet period into force, on both ways: an executable
that stays the same need not be told to the client. -/
theorem worksBy_reconfigure (s : Session) (settings : AnalyzerSettings) (docs : List Nat) :
    (s.reconfigure settings docs).bench.client.executable = settings.executable ∧
      (s.reconfigure settings docs).debounce.delay = settings.debounce := by
  rw [reconfigure]
  dsimp only
  split
  · refine ⟨?_, delay_triggerAll _ docs⟩
    rw [(untold_triggerAll _ docs).client]
    rfl
  · next hsame =>
    have hsame : settings.executable = s.bench.client.executable := by simpa using hsame
    exact ⟨hsame.symm, rfl⟩

theorem delay_act (s : Session) (he : e.settings? = none) :
    (s.act e).debounce.delay = s.debounce.delay := by
  by_cases hunheard : e.isUnheard = true
  · obtain ⟨documents, disk, h⟩ := s.unheard_act hunheard
    rw [h]
  cases e with
  | reconfigure settings docs => cases he
  | trigger doc => exact delay_trigger s doc
  | edit doc text => exact delay_trigger (s.setText doc text) doc
  | offer doc gs =>
    obtain ⟨journal, h⟩ := s.offer_cases doc gs
    rw [h]
  | start docs =>
    rcases s.start_cases docs with h | ⟨disk, journal, h⟩ <;> rw [h]
    exact delay_triggerAll _ docs
  | forget doc =>
    rw [act]
    rcases s.forget_cases doc with h | ⟨d, -, h⟩ <;> rw [h]
    rfl
  | fire order =>
    rw [act]
    rcases s.fire_cases order with h | ⟨t, -, -, h⟩ <;> rw [h]
    rfl
  | step id => exact congrArg _ (s.still_step id).debounce
  | settle id => exact congrArg _ (s.kept_settle id).debounce
  | _ => first | rfl | exact absurd rfl hunheard

/-- **Every action keeps what a session works by**, up to the settings that it takes on. -/
theorem WorksBy.act {opened last : AnalyzerSettings} (h : s.WorksBy opened last) (e : Action) :
    (s.act e).WorksBy opened (e.settings?.getD last) := by
  have hnoticed := s.noticed_act e
  have hlimit := hnoticed.limit.trans h.limit
  have hdirectory := (directory_after s [e]).trans h.directory
  have hlanguage := (language_after s [e]).trans h.language
  cases hsettings : e.settings? with
  | none =>
    have hresets : s.resets e = false := by cases e <;> first | rfl | cases hsettings
    rw [hresets] at hnoticed
    exact ⟨hnoticed.executable.trans h.executable, (delay_act s hsettings).trans h.delay, hlimit,
      hdirectory, hlanguage⟩
  | some settings =>
    cases e with
    | reconfigure settings' docs =>
      cases hsettings
      obtain ⟨hexecutable, hdelay⟩ := worksBy_reconfigure s settings docs
      exact ⟨hexecutable, hdelay, hlimit, hdirectory, hlanguage⟩
    | _ => cases hsettings

end

/-! ## Whole runs -/

theorem worksBy_open (disk : Disk) (opened : AnalyzerSettings) (documents : List Document)
    (workspace : Option (List FilePath)) (runs : List Run) :
    (open_ disk opened documents workspace runs).WorksBy opened opened := by
  constructor <;> rfl

theorem WorksBy.after {s : Session} {opened last : AnalyzerSettings} (h : s.WorksBy opened last)
    (acts : List Action) : (s.after acts).WorksBy opened (lastSettings last acts) := by
  induction acts generalizing s last with
  | nil => exact h
  | cons e acts ih => exact ih (h.act e)

theorem Snapshot.parent_nextPath (scratch : Scratch) (path : Option FilePath) :
    (Snapshot.nextPath scratch path).parent = scratch.directory := by
  simp [Snapshot.nextPath, FilePath.parent, FilePath.child]

/-- How far a session that has taken on new settings does what the session `new` does, which is
opened with them: in its calls of the analyzer, in the snapshots that are written, and in its
triggers. -/
structure LikeNew (s : Session) (opened last : AnalyzerSettings) (new : Session) : Prop where
  /-- The command of a call is that of the new session if and only if the limit is the old one. -/
  command : ∀ {i a b t snap run directory failure},
    Spawns s i a b t snap run directory failure →
      ∃ command content journal, (s.act (.step i)).bench.journal =
          .spawned command directory content :: journal ∧
        (command = new.bench.client.command t.path ↔
          last.maxDiagnostics = opened.maxDiagnostics)
  /-- A snapshot is written where the new session writes its own if and only if the scratch
  directory is the old one. -/
  directory : ∀ {i a b t p text}, s.attempt? i = some a → a.stage.copy? = some (b, t, p, text) →
    (p.parent = new.scratch.directory ↔ last.scratch = opened.scratch)
  /-- A quiet period lasts as long as in the new session. -/
  delay : ∀ {doc : Nat} {d}, s.documents[doc]? = some d → s.accepts doc = true →
    (s.trigger doc).debounce.timers = (s.debounce.cancel d.uri).timers ++
      [⟨d.uri, doc, s.now + new.debounce.delay, s.next⟩]
  /-- A trigger is judged as in the new session if and only if the document's language is the
  language of both settings, or of neither. -/
  filter : ∀ {doc : Nat} {d}, s.documents[doc]? = some d →
    (s.debounce.verdict s.enabled d = new.debounce.verdict s.enabled d ↔
      (d.language = last.language ↔ d.language = opened.language))

/-- Whole numbers that are written alike are one number. -/
theorem decimal_inj {n k : Int} : n.repr = k.repr ↔ n = k := by
  have hdigits {m l : Nat} (h : m.repr = l.repr) : m = l := by
    have hlist : Nat.toDigits 10 m = Nat.toDigits 10 l := by
      rw [← Nat.toList_repr, h, Nat.toList_repr]
    rw [← Nat.ofDigitChars_toDigits (n := m) (by decide) (Nat.le_refl 10), hlist,
      Nat.ofDigitChars_toDigits (by decide) (Nat.le_refl 10)]
  -- No digit is a sign.
  have hsign {m l : Nat} : m.repr ≠ "-" ++ l.repr := by
    intro h
    have hmem : '-' ∈ Nat.toDigits 10 m := by
      rw [← Nat.toList_repr, h, String.toList_append]
      exact List.mem_append_left _ (List.mem_singleton_self _)
    cases Nat.isDigit_of_mem_toDigits (by decide) (by decide) hmem
  refine ⟨fun h ↦ ?_, congrArg Int.repr⟩
  rw [Int.repr_eq_if, Int.repr_eq_if] at h
  split at h <;> split at h
  · have := hdigits h
    omega
  · exact absurd h hsign
  · exact absurd h.symm hsign
  · have := hdigits ((String.append_right_inj "-").mp h)
    omega

theorem Client.command_eq_iff {c c' : Client} {path : String}
    (h : c.executable = c'.executable) :
    c.command path = c'.command path ↔ c'.maxDiagnostics = c.maxDiagnostics := by
  simp [Client.command, h, decimal_inj, eq_comm]

theorem verdict_eq_iff {b b' : Schedule.Debounce} {language language' : String}
    (h : b.language = some language) (h' : b'.language = some language') (enabled : Bool)
    (d : Document) : b.verdict enabled d = b'.verdict enabled d ↔
      (d.language = language' ↔ d.language = language) := by
  simp only [Schedule.Debounce.verdict, h, h', Option.all_some, beq_iff_eq]
  by_cases hold : language = d.language <;> by_cases hnew : language' = d.language <;>
    cases enabled <;> simp [hold, hnew, eq_comm]

/-- **What new settings change.** After any run, the executable and the quiet period are those of
the settings taken on last; the limit, the scratch directory and the language are those that the
session was opened with. -/
theorem likeNew_after (disk disk' : Disk) (opened : AnalyzerSettings)
    (documents documents' : List Document) (workspace workspace' : Option (List FilePath))
    (runs runs' : List Run) (acts : List Action) :
    LikeNew ((open_ disk opened documents workspace runs).after acts) opened
      (lastSettings opened acts)
      (open_ disk' (lastSettings opened acts) documents' workspace' runs') := by
  have hworks := (worksBy_open disk opened documents workspace runs).after acts
  constructor
  · intro i a b t snap run directory failure hspawns
    obtain ⟨content, journal, hjournal⟩ := hspawns.command
    refine ⟨_, content, journal, hjournal, ?_⟩
    rw [Client.command_eq_iff hworks.executable, hworks.limit]
    rfl
  · intro i a b t p text ha hcopy
    obtain ⟨⟨earlier, later, d, -, -, -, rfl, -⟩, -⟩ := copies_of_copy? rfl ha hcopy
    rw [Snapshot.parent_nextPath, directory_after, eq_comm]
    rfl
  · intro doc d hd haccepts
    have hstarted := haccepts
    rw [accepts, hd] at hstarted
    rw [timers_trigger hd, Schedule.Debounce.trigger, eq_of_beq hstarted]
    simp only [Schedule.Debounce.restart, hworks.delay]
    rfl
  · intro doc d hd
    exact verdict_eq_iff hworks.language rfl _ d

/-! A session that takes on a lower limit, with a document that is analyzed in place. -/

/-- What happens up to the call. -/
def lowerLimit : List Action :=
  [.reconfigure { maxDiagnostics := 5 } [], .call 0]

/-- So a session with new settings can call the analyzer in another way than one that is opened with
them. -/
theorem not_likeNew :
    ¬ ∀ disk opened documents workspace runs acts i a b t snap run directory failure,
      Spawns ((open_ disk opened documents workspace runs).after acts) i a b t snap run directory
        failure →
      ∃ content journal,
        (((open_ disk opened documents workspace runs).after acts).act (.step i)).bench.journal =
          .spawned ((open_ disk (lastSettings opened acts) documents workspace
            runs).bench.client.command t.path) directory content :: journal := by
  intro hlike
  obtain ⟨a, b, t, snap, run, directory, failure, hspawns⟩ :=
    exists_spawns (s := (sample []).after lowerLimit) (i := 0) (by decide +kernel)
      (by decide +kernel)
  obtain ⟨content, journal, hjournal⟩ := hlike _ _ _ _ _ lowerLimit 0 a b t snap run directory
    failure hspawns
  obtain ⟨content', journal', hcalled⟩ := hspawns.command
  change (((sample []).after lowerLimit).act (.step 0)).bench.journal = _ at hjournal
  rw [hcalled, List.cons.injEq, Event.spawned.injEq,
    Client.command_eq_iff (by decide +kernel)] at hjournal
  have hlimit := hjournal.1.1
  revert hlimit
  decide +kernel

end Session

end DiagnosticFeed
