import DiagnosticFeed.Proofs.Files
import DiagnosticFeed.Proofs.Session.Progress

/-!
# What attempts do to files

An attempt reaches files in two of its steps: it writes its snapshot, and removes it in the end. A
write that fails on the way leaves a file that the attempt has no more to do with. Every other step leaves all files as they are; making the scratch directory adds a directory only.
`FileMove` says so of each row of the table of moves, together with what becomes of the snapshot
that the attempt has on disk.

What an attempt writes was settled at its first step: the path of the snapshot, and the text that
the document had then.
-/

namespace DiagnosticFeed

/-- The snapshot that an attempt is about to write. -/
def Stage.copy? : Stage → Option (Begun × Target × FilePath × String)
  | .makingRoom b t p text | .writing b t p text => some (b, t, p, text)
  | _ => none

/-- The snapshot that an attempt has on disk, from the step that writes it to the step that removes
it. -/
def Stage.snapshot? : Stage → Option FilePath
  | .spawning _ _ snap .. | .running _ _ snap .. => snap
  | .cleaning _ _ p _ => some p
  | _ => none

namespace Session

/-- Two sessions with the same files, and the same place for snapshots. -/
structure SameFiles (s s' : Session) : Prop where
  disk : s'.bench.disk = s.bench.disk
  directory : s'.scratch.directory = s.scratch.directory

/-- Two sessions whose files are found and fail in the same way. -/
structure SamePlace (s s' : Session) : Prop where
  cwd : s'.bench.disk.cwd = s.bench.disk.cwd
  faults : s'.bench.disk.faults = s.bench.disk.faults
  directory : s'.scratch.directory = s.scratch.directory

theorem Kept.sameFiles {s s' : Session} (h : Kept s s') : SameFiles s s' :=
  ⟨h.disk, by rw [h.scratch]⟩

theorem SameFiles.samePlace {s s' : Session} (h : SameFiles s s') : SamePlace s s' :=
  ⟨by rw [h.disk], by rw [h.disk], h.directory⟩

theorem samePlace_of_disk {s s' : Session} {files : Keyed String Content} {dirs : List String}
    (h : s'.bench.disk = { s.bench.disk with files := files, dirs := dirs })
    (hdirectory : s'.scratch.directory = s.scratch.directory) : SamePlace s s' :=
  ⟨by rw [h], by rw [h], hdirectory⟩

/-- What a move between two stages does to files. -/
inductive FileMove (s s' : Session) : Stage → Stage → Prop
  | same (st st' : Stage) (kept : st'.snapshot? = st.snapshot?)
    (files : s'.bench.disk.files = s.bench.disk.files) : FileMove s s' st st'
  | wrote (b : Begun) (t : Target) (p : FilePath) (text : String) (st' : Stage)
    (made : st'.snapshot? = some p)
    (written : s.bench.disk.writeText p text = .ok s'.bench.disk) :
    FileMove s s' (.writing b t p text) st'
  | unwritten (b : Begun) (t : Target) (p : FilePath) (text : String) (e : Failure) (st' : Stage)
    (nothing : st'.snapshot? = none)
    (failed : s.bench.disk.writeText p text = .error (e, s'.bench.disk)) :
    FileMove s s' (.writing b t p text) st'
  | cleaned (b : Begun) (t : Target) (p : FilePath) (o : Except Failure (Option Answer))
    (notices : List Log.Notice) (st' : Stage) (done : st'.snapshot? = none)
    (gone : Snapshot.delete s.bench.disk p = .ok (s'.bench.disk, notices)) :
    FileMove s s' (.cleaning b t p o) st'
  | uncleaned (b : Begun) (t : Target) (p : FilePath) (o : Except Failure (Option Answer))
    (e : Failure) (st' : Stage) (done : st'.snapshot? = none)
    (failed : Snapshot.delete s.bench.disk p = .error e)
    (disk : s'.bench.disk = s.bench.disk) : FileMove s s' (.cleaning b t p o) st'

section

variable {s s' : Session} {d : Document} {b : Begun} {t : Target}
  {o : Except Failure (Option Answer)} {snap : Option FilePath} {st st' : Stage}

theorem Ending.sameFiles {r : Result} (h : Ending s d b t s' o r) : SameFiles s s' := by
  cases h with
  | failed e kept => exact kept.sameFiles
  | nothing kept => exact kept.sameFiles
  | stale answer old kept => exact kept.sameFiles
  | published answer current kept => exact ⟨kept.disk, kept.sameFiles.directory⟩

theorem Following.sameFiles (h : Following s d b t s' o snap st) : SameFiles s s' := by
  cases h with
  | toClean p kept => exact kept.sameFiles
  | toEnd r ending => exact ending.sameFiles

theorem Calling.sameFiles (h : Calling s d b t snap s' st) : SameFiles s s' := by
  cases h with
  | pathless st empty following => exact following.sameFiles
  | spawned run directory path kept => exact kept.sameFiles

theorem Following.snapshot? (h : Following s d b t s' o snap st) : st.snapshot? = snap := by
  cases h <;> rfl

theorem Calling.snapshot? (h : Calling s d b t snap s' st) : st.snapshot? = snap := by
  cases h with
  | pathless st empty following => exact following.snapshot?
  | spawned run directory path kept => rfl

/-- **What a move does to files**, and that it leaves them where they are. -/
theorem Move.files (h : Move s d s' st st') : FileMove s s' st st' ∧ SamePlace s s' := by
  have hsame : ∀ {st st' : Stage}, st'.snapshot? = st.snapshot? → SameFiles s s' →
      FileMove s s' st st' ∧ SamePlace s s' :=
    fun hkept h ↦ ⟨.same _ _ hkept (by rw [h.disk]), h.samePlace⟩
  cases h with
  | turnedDown off kept => exact hsame rfl kept.sameFiles
  | inPlace st on inPlace calling => exact hsame calling.snapshot? calling.sameFiles
  | copy on copy kept => exact hsame rfl ⟨kept.disk, by rw [kept.scratch]; rfl⟩
  | noRoom b t p text e failed kept => exact hsame rfl kept.sameFiles
  | room b t p text disk made kept =>
    obtain ⟨dirs, rfl⟩ := Disk.files_of_makeDirectory (ok_of_mapError made)
    exact ⟨.same _ _ rfl (by rw [kept.disk]; rfl),
      samePlace_of_disk kept.disk kept.sameFiles.directory⟩
  | unwritten b t p text e disk failed kept =>
    obtain ⟨⟨e', disk'⟩, hwrite, hfailed⟩ := error_of_mapError failed
    obtain ⟨-, rfl⟩ := Prod.mk.inj hfailed
    refine ⟨.unwritten b t p text e' _ rfl (by rw [kept.disk]; exact hwrite), ?_⟩
    rcases Disk.writeText_error_cases hwrite with rfl | ⟨c, left, -, rfl⟩ <;>
      exact samePlace_of_disk kept.disk kept.sameFiles.directory
  | written b t p text disk st written calling =>
    have hwrite := ok_of_mapError written
    have hfiles := calling.sameFiles
    refine ⟨.wrote b t p text _ calling.snapshot? (by rw [hfiles.disk]; exact hwrite), ?_⟩
    exact samePlace_of_disk (hfiles.disk.trans (Disk.eq_of_writeText hwrite)) hfiles.directory
  | entered b t snap run directory kept => exact hsame rfl kept.sameFiles
  | missing b t snap run directory e st cause following =>
    exact hsame following.snapshot? ⟨following.sameFiles.disk, following.sameFiles.directory⟩
  | refused b t snap run directory e st cause following =>
    exact hsame following.snapshot? following.sameFiles
  | broken b t snap run directory e st cause following =>
    exact hsame following.snapshot? following.sameFiles
  | lost b t snap run due order message st fault following =>
    exact hsame following.snapshot? following.sameFiles
  | answered b t snap run due order st fine following =>
    exact hsame following.snapshot? ⟨following.sameFiles.disk, following.sameFiles.directory⟩
  | cleaned b t p o disk notices r gone ending =>
    have hfiles := ending.sameFiles
    refine ⟨.cleaned b t p o notices _ rfl (by rw [hfiles.disk]; exact gone), ?_⟩
    rcases Disk.eq_of_delete gone with hgone | hgone <;>
      exact samePlace_of_disk (hfiles.disk.trans hgone) hfiles.directory
  | uncleaned b t p o e r failed ending =>
    have hfiles := ending.sameFiles
    exact ⟨.uncleaned b t p o e _ rfl failed hfiles.disk, hfiles.samePlace⟩

theorem Following.copy? (h : Following s d b t s' o snap st) : st.copy? = none := by
  cases h <;> rfl

theorem Calling.copy? (h : Calling s d b t snap s' st) : st.copy? = none := by
  cases h with
  | pathless st empty following => exact following.copy?
  | spawned run directory path kept => rfl

theorem Move.copy? {p : FilePath} {text : String} (h : Move s d s' st st')
    (hcopy : st'.copy? = some (b, t, p, text)) :
    st.copy? = some (b, t, p, text) ∨
      st = .created ∧ s.enabled = true ∧ Snapshot.isInPlace d = false ∧
        b = ⟨s.now, .capture d⟩ ∧ p = Snapshot.nextPath s.scratch d.path ∧ text = d.text ∧
        t = Snapshot.copyAt s.cwd d p := by
  cases h with
  | inPlace st on inPlace calling => cases calling.copy?.symm.trans hcopy
  | copy on copy kept =>
    cases hcopy
    exact Or.inr ⟨rfl, on, copy, rfl, rfl, rfl, rfl⟩
  | room b t p text disk made kept => exact Or.inl hcopy
  | written b t p text disk st written calling => cases calling.copy?.symm.trans hcopy
  | missing b t snap run directory e st cause following => cases following.copy?.symm.trans hcopy
  | refused b t snap run directory e st cause following => cases following.copy?.symm.trans hcopy
  | broken b t snap run directory e st cause following => cases following.copy?.symm.trans hcopy
  | lost b t snap run due order message st fault following =>
    cases following.copy?.symm.trans hcopy
  | answered b t snap run due order st fine following => cases following.copy?.symm.trans hcopy
  | _ => cases hcopy

end

/-! ## Whole runs -/

theorem scratch_act (s : Session) {e : Action} (he : ∀ id, e ≠ .step id) :
    (s.act e).scratch = s.scratch := by
  by_cases haside : e.isAside = true
  · exact (s.aside_act haside).scratch
  by_cases hunheard : e.isUnheard = true
  · obtain ⟨documents, disk, h⟩ := s.unheard_act hunheard
    rw [h]
  cases e with
  | edit doc text => exact (aside_trigger (s.setText doc text) doc).scratch
  | forget doc =>
    rw [act]
    rcases s.forget_cases doc with h | ⟨d, -, h⟩ <;> rw [h]
  | call doc => rfl
  | fire order =>
    rw [act]
    rcases s.fire_cases order with h | ⟨t, -, -, h⟩ <;> rw [h]
  | step id => exact absurd rfl (he id)
  | settle id => exact (s.kept_settle id).scratch
  | _ => simp [Action.isAside, Action.isUnheard] at haside hunheard

theorem samePlace_step (s : Session) (id : Nat) : SamePlace s (s.step id) := by
  rcases s.step_cases id with hsame | ⟨a, d, st, -, -, -, -, hmove⟩
  · rw [hsame]
    exact ⟨rfl, rfl, rfl⟩
  · exact hmove.files.2

theorem directory_after (s : Session) (acts : List Action) :
    (s.after acts).scratch.directory = s.scratch.directory := by
  induction acts generalizing s with
  | nil => rfl
  | cons e acts ih =>
    rw [after_cons, ih]
    cases e with
    | step id => exact (s.samePlace_step id).directory
    | _ => rw [scratch_act s (by simp)]

/-- A snapshot as an attempt settled it at its first step: where it goes, and that it is to hold the
text of its document at that time. -/
structure Copies (s₀ : Session) (acts : List Action) (i doc : Nat) (b : Begun) (t : Target)
    (p : FilePath) (text : String) : Prop where
  settled : ∃ earlier later d, acts = earlier ++ .step i :: later ∧ Begins s₀ earlier i doc d b ∧
    Snapshot.isInPlace d = false ∧ p = Snapshot.nextPath (s₀.after earlier).scratch d.path ∧
    text = d.text
  path : t.path = p.toText

section

variable {s₀ : Session} {acts : List Action} {i doc : Nat} {b : Begun} {t : Target} {p : FilePath}
  {text : String}

theorem Copies.concat (h : Copies s₀ acts i doc b t p text) (e : Action) :
    Copies s₀ (acts ++ [e]) i doc b t p text := by
  obtain ⟨⟨earlier, later, d, rfl, hsettled⟩, hpath⟩ := h
  exact ⟨⟨earlier, later ++ [e], d, by simp, hsettled⟩, hpath⟩

theorem Copies.path_ne_empty (h : Copies s₀ acts i doc b t p text) : t.path.isEmpty = false := by
  obtain ⟨⟨earlier, later, d, -, -, -, rfl, -⟩, hpath⟩ := h
  rw [hpath, Bool.eq_false_iff, ne_eq, String.isEmpty_iff]
  exact Snapshot.nextPath_toText_ne_empty _ _

/-- **What an attempt writes** was settled at its first step, with the path and what it stands
for. -/
theorem begins_of_copy? (h₀ : s₀.attempts = []) {a : Attempt}
    (h : (s₀.after acts).attempt? i = some a) (hcopy : a.stage.copy? = some (b, t, p, text)) :
    ∃ earlier later d, acts = earlier ++ .step a.id :: later ∧ Begins s₀ earlier a.id a.doc d b ∧
      Snapshot.isInPlace d = false ∧ p = Snapshot.nextPath (s₀.after earlier).scratch d.path ∧
      text = d.text ∧ t = Snapshot.copyAt (s₀.after earlier).cwd d p := by
  revert hcopy
  refine attempt_induction h₀ (P := fun acts a ↦ a.stage.copy? = some (b, t, p, text) →
    ∃ earlier later d, acts = earlier ++ .step a.id :: later ∧ Begins s₀ earlier a.id a.doc d b ∧
      Snapshot.isInPlace d = false ∧ p = Snapshot.nextPath (s₀.after earlier).scratch d.path ∧
      text = d.text ∧ t = Snapshot.copyAt (s₀.after earlier).cwd d p) ?_ ?_ acts h
  · intro acts a _ hcreated hcopy
    rw [hcreated] at hcopy
    cases hcopy
  · intro acts e a st ha ih hprogress hcopy
    -- What was settled before stays settled; the actions only get longer.
    have hold (hcopy : a.stage.copy? = some (b, t, p, text)) :
        ∃ earlier later d, acts ++ [e] = earlier ++ .step a.id :: later ∧
          Begins s₀ earlier a.id a.doc d b ∧ Snapshot.isInPlace d = false ∧
          p = Snapshot.nextPath (s₀.after earlier).scratch d.path ∧ text = d.text ∧
          t = Snapshot.copyAt (s₀.after earlier).cwd d p := by
      obtain ⟨earlier, later, d, rfl, hsettled⟩ := ih hcopy
      exact ⟨earlier, later ++ [e], d, by simp, hsettled⟩
    cases hprogress with
    | idle => exact hold hcopy
    | moved d st step document can move =>
      rcases move.copy? hcopy with hsame | ⟨hcreated, hon, hcopied, hbegun, hp, htext, ht⟩
      · exact hold hsame
      · exact ⟨acts, [], d, by rw [step], ⟨⟨a, ha, rfl, hcreated⟩, document, hon, hbegun⟩, hcopied,
          hp, htext, ht⟩
    | settled b' r settle ended => cases hcopy

theorem copies_of_copy? (h₀ : s₀.attempts = []) {a : Attempt}
    (h : (s₀.after acts).attempt? i = some a) (hcopy : a.stage.copy? = some (b, t, p, text)) :
    Copies s₀ acts i a.doc b t p text := by
  obtain ⟨earlier, later, d, hacts, hbegins, hcopied, hp, htext, rfl⟩ := begins_of_copy? h₀ h hcopy
  rw [attempt?_id h] at hacts hbegins
  exact ⟨⟨earlier, later, d, hacts, hbegins, hcopied, hp, htext⟩, rfl⟩

end

end Session

end DiagnosticFeed
