import DiagnosticFeed.Proofs.Session.Current
import DiagnosticFeed.Proofs.Session.Filing

/-!
# Snapshots come and go

Attempts share one scratch directory, and end in many ways. Whatever happens, an attempt removes the
snapshot that it has written, and it touches no other file. What a file holds apart from that is
kept in a ghost, `leftByOthers`: it follows a run and passes over the steps of attempts. The
invariant `Tidy` says that every file holds what others left there, or is the snapshot of the one
attempt that uses it.

Four things are taken for granted, and `letsTend` says so of an action: a name that is given to a
snapshot is free, a write that fails leaves nothing, a file can be removed, and nobody else touches
snapshots in use or moves the working directory. What a write leaves that is refused on the way
stays: the attempt ends then, and has no snapshot to remove.
-/

namespace DiagnosticFeed

/-- Whether an attempt in this stage can tend its snapshot: a name that it takes is free, and so it
stays if nothing can be written; a file that it removes can be removed. -/
def Stage.tends (s : Session) : Stage → Bool
  | .writing _ _ p _ => !s.bench.disk.isFile p && s.bench.disk.remnant?.isNone
  | .cleaning _ _ p _ => (s.bench.disk.check .unlink p).isOk
  | _ => true

def Stage.isUnderWay : Stage → Bool
  | .created | .ended .. | .settled .. => false
  | _ => true

namespace Session

def fileAt (s : Session) (key : String) : Option Content :=
  s.bench.disk.files.get? key

/-- An attempt has a snapshot on disk. -/
def Uses (s : Session) (i : Nat) (p : FilePath) : Prop :=
  ∃ a, s.attempt? i = some a ∧ a.stage.snapshot? = some p

/-- Whether an action lets attempts tend their snapshots. -/
def letsTend (s : Session) : Action → Bool
  | .step i => (s.attempt? i).all (·.stage.tends s)
  | e => decide ((s.act e).cwd = s.cwd) && s.attempts.all fun a ↦ a.stage.snapshot?.all fun p ↦
      decide ((s.act e).bench.disk.content? p = s.bench.disk.content? p)

def Action.isStep : Action → Bool
  | .step _ => true
  | _ => false

/-- What is left of a file after an action if steps of attempts are passed over. -/
def othersLeave (s : Session) (key : String) (c : Option Content) (e : Action) : Option Content :=
  if e.isStep || decide ((s.act e).fileAt key = s.fileAt key) then c else (s.act e).fileAt key

/-- What is left of a file after some actions if steps of attempts are passed over. -/
def othersLeaveFrom (s : Session) (key : String) (c : Option Content) : List Action → Option Content
  | [] => c
  | e :: acts => (s.act e).othersLeaveFrom key (s.othersLeave key c e) acts

/-- What a file holds after some actions, apart from what attempts did. -/
def leftByOthers (s : Session) (acts : List Action) (key : String) : Option Content :=
  s.othersLeaveFrom key (s.fileAt key) acts

/-- After a run, every file is as others left it, or is the snapshot of the attempt that uses it. -/
structure Tidy (s₀ : Session) (acts : List Action) : Prop where
  /-- A snapshot in use holds the text that its attempt noted, where there would be no file. -/
  inUse : ∀ i p, (s₀.after acts).Uses i p → ∃ doc b t text, Copies s₀ acts i doc b t p text ∧
    (s₀.after acts).bench.disk.content? p = some (.text text) ∧
    s₀.leftByOthers acts ((s₀.after acts).bench.disk.key p) = none
  ofOne : ∀ i j p q, (s₀.after acts).Uses i p → (s₀.after acts).Uses j q →
    (s₀.after acts).bench.disk.key p = (s₀.after acts).bench.disk.key q → i = j
  others : ∀ key, (∀ i p, (s₀.after acts).Uses i p → (s₀.after acts).bench.disk.key p ≠ key) →
    (s₀.after acts).fileAt key = s₀.leftByOthers acts key

section

variable {s s' s₀ : Session} {e : Action} {i j : Nat} {a : Attempt} {st : Stage} {p q : FilePath}
  {key : String} {acts past : List Action}

theorem othersLeaveFrom_concat (s : Session) (key : String) (c : Option Content)
    (acts : List Action) (e : Action) :
    s.othersLeaveFrom key c (acts ++ [e]) =
      (s.after acts).othersLeave key (s.othersLeaveFrom key c acts) e := by
  induction acts generalizing s c with
  | nil => rfl
  | cons e' acts ih =>
    rw [List.cons_append, othersLeaveFrom, ih]
    rfl

theorem leftByOthers_concat (s : Session) (acts : List Action) (e : Action) (key : String) :
    s.leftByOthers (acts ++ [e]) key =
      (s.after acts).othersLeave key (s.leftByOthers acts key) e :=
  othersLeaveFrom_concat s key (s.fileAt key) acts e

/-! ## One action -/

theorem uses_of_move (ha : s.attempt? i = some a)
    (h : (s.step i).attempts = (s.setStage i st).attempts) :
    (s.step i).Uses j q ↔ if j = i then st.snapshot? = some q else s.Uses j q := by
  have hfind : (s.step i).attempt? j =
      (s.attempt? j).map fun a ↦ if j = i then { a with stage := st } else a := by
    rw [← attempt?_setStage, attempt?, attempt?, h]
  rw [Uses, hfind]
  split
  · next hj =>
    subst hj
    simp [ha]
  · simp [Uses]

theorem uses_act (he : e.isStep = false) : (s.act e).Uses j q ↔ s.Uses j q := by
  -- Whatever happens to an attempt between its steps, its stage has the same snapshot.
  have hprogress : ∀ {a : Attempt} {st : Stage}, Progress s e a st →
      st.snapshot? = a.stage.snapshot? := by
    intro a st h
    cases h with
    | idle => rfl
    | moved d st step document can move =>
      rw [step] at he
      cases he
    | settled b r settle ended =>
      rw [ended]
      rfl
  constructor
  · rintro ⟨a', ha', hp⟩
    rcases attempt?_of_act ha' with ⟨a, st, ha, rfl, h⟩ | ⟨-, hcreated⟩
    · exact ⟨a, ha, (hprogress h).symm.trans hp⟩
    · rw [hcreated] at hp
      cases hp
  · rintro ⟨a, ha, hp⟩
    obtain ⟨st, hst, h⟩ := attempt?_act ha e
    exact ⟨_, hst, (hprogress h).trans hp⟩

/-- What a step does to snapshots, if attempts can tend them. -/
inductive Tending (s : Session) (i : Nat) (s' : Session) : Prop
  | nothing (uses : ∀ j q, s'.Uses j q ↔ s.Uses j q)
    (files : ∀ key, s'.fileAt key = s.fileAt key)
  | wrote (a : Attempt) (b : Begun) (t : Target) (p : FilePath) (text : String)
    (attempt : s.attempt? i = some a) (copy : a.stage.copy? = some (b, t, p, text))
    (free : s.bench.disk.content? p = none)
    (uses : ∀ j q, s'.Uses j q ↔ (j = i ∧ q = p) ∨ s.Uses j q)
    (files : ∀ key, s'.fileAt key =
      if s.bench.disk.key p = key then some (.text text) else s.fileAt key)
  | removed (a : Attempt) (b : Begun) (t : Target) (p : FilePath)
    (o : Except Failure (Option Answer)) (attempt : s.attempt? i = some a)
    (stage : a.stage = .cleaning b t p o) (uses : ∀ j q, s'.Uses j q ↔ j ≠ i ∧ s.Uses j q)
    (files : ∀ key, s'.fileAt key = if s.bench.disk.key p = key then none else s.fileAt key)

/-- An attempt that keeps its snapshot changes nothing about who has one. -/
theorem uses_of_kept {st st' : Stage}
    (huses : ∀ j q, s'.Uses j q ↔ if j = i then st'.snapshot? = some q else s.Uses j q)
    (hown : ∀ q, s.Uses i q ↔ st.snapshot? = some q) (hkept : st'.snapshot? = st.snapshot?) :
    ∀ j q, s'.Uses j q ↔ s.Uses j q := by
  intro j q
  rw [huses]
  split
  · next hj =>
    subst hj
    rw [hown, hkept]
  · rfl

theorem tending_step (htends : s.letsTend (.step i) = true)
    (hpresent : ∀ p, s.Uses i p → s.bench.disk.isFile p = true) :
    Tending s i (s.act (.step i)) := by
  change Tending s i (s.step i)
  rcases s.step_cases i with hsame | ⟨a, d, st, ha, hd, -, hattempts, hmove⟩
  · rw [hsame]
    exact .nothing (fun j q ↦ Iff.rfl) (fun key ↦ rfl)
  have huses : ∀ j q, (s.step i).Uses j q ↔ if j = i then st.snapshot? = some q else s.Uses j q :=
    fun j q ↦ uses_of_move ha hattempts
  have hown : ∀ q, s.Uses i q ↔ a.stage.snapshot? = some q := by
    intro q
    simp [Uses, ha]
  rw [letsTend, ha, Option.all_some] at htends
  have hfiles := hmove.files.1
  generalize hstage : a.stage = before at hfiles
  rw [hstage] at htends hown
  cases hfiles with
  | same _ _ kept files =>
    exact .nothing (uses_of_kept huses hown kept) fun key ↦ by rw [fileAt, fileAt, files]
  | wrote b t p text _ made written =>
    have hcopy : a.stage.copy? = some (b, t, p, text) := by rw [hstage]; rfl
    refine .wrote a b t p text ha hcopy ?_ (fun j q ↦ ?_) (fun key ↦ ?_)
    · rw [Stage.tends, Bool.and_eq_true] at htends
      simpa [Disk.isFile] using htends.1
    · rw [huses]
      split
      · next hj =>
        subst hj
        have hnone : ¬ s.Uses j q := by
          rw [hown]
          nofun
        simp [made, hnone, eq_comm]
      · next hj => simp [hj]
    · rw [fileAt, Disk.eq_of_writeText written]
      exact Keyed.get?_set _ _ _ _
  | unwritten b t p text e _ nothing failed =>
    rw [Stage.tends, Bool.and_eq_true, Option.isNone_iff_eq_none] at htends
    rcases Disk.writeText_error_cases failed with hdisk | ⟨c, left, hleft, -⟩
    · exact .nothing (uses_of_kept huses hown nothing) fun key ↦ by rw [fileAt, fileAt, hdisk]
    · cases htends.2.symm.trans hleft
  | cleaned b t p o notices _ done gone =>
    have hfile := hpresent p ((hown p).mpr rfl)
    refine .removed a b t p o ha hstage (fun j q ↦ ?_) (fun key ↦ ?_)
    · rw [huses]
      split
      · next hj => simp [hj, done]
      · next hj => simp [hj]
    · rw [Disk.delete_of_isFile htends hfile] at gone
      have hdisk := (Prod.mk.inj (Except.ok.inj gone)).1
      rw [fileAt, ← hdisk]
      exact Keyed.get?_erase _ _ _
  | uncleaned b t p o e _ done failed disk =>
    have hfile := hpresent p ((hown p).mpr rfl)
    rw [Disk.delete_of_isFile htends hfile] at failed
    cases failed

/-! ## Whole runs -/

theorem key_congr (h : (s.act e).cwd = s.cwd) (p : FilePath) :
    (s.act e).bench.disk.key p = s.bench.disk.key p := by
  change (s.act e).bench.disk.cwd = s.bench.disk.cwd at h
  rw [Disk.key, Disk.key, h]

theorem content?_act (h : (s.act e).cwd = s.cwd) (p : FilePath) :
    (s.act e).bench.disk.content? p = (s.act e).fileAt (s.bench.disk.key p) := by
  rw [Disk.content?, key_congr h, fileAt]

theorem cwd_step (s : Session) (i : Nat) : (s.act (.step i)).cwd = s.cwd :=
  (s.samePlace_step i).cwd

theorem leftByOthers_step (s : Session) (acts : List Action) (i : Nat) (key : String) :
    s.leftByOthers (acts ++ [.step i]) key = s.leftByOthers acts key := by
  rw [leftByOthers_concat, othersLeave]
  rfl

/-- What `letsTend` says of actions that are not steps. -/
theorem others_of_letsTend (h : s.letsTend e = true) (he : ∀ i, e ≠ .step i) :
    e.isStep = false ∧ (s.act e).cwd = s.cwd ∧ ∀ i p, s.Uses i p →
      (s.act e).bench.disk.content? p = s.bench.disk.content? p := by
  have hothers : decide ((s.act e).cwd = s.cwd) = true ∧ ∀ a ∈ s.attempts,
      a.stage.snapshot?.all (fun p ↦
        decide ((s.act e).bench.disk.content? p = s.bench.disk.content? p)) = true := by
    cases e with
    | step i => exact absurd rfl (he i)
    | _ => simpa only [letsTend, Bool.and_eq_true, List.all_eq_true] using h
  have hstep : e.isStep = false := by
    cases e with
    | step i => exact absurd rfl (he i)
    | _ => rfl
  refine ⟨hstep, of_decide_eq_true hothers.1, ?_⟩
  rintro i p ⟨a, ha, hp⟩
  have hall := hothers.2 a (List.mem_of_find?_eq_some ha)
  rw [hp, Option.all_some] at hall
  exact of_decide_eq_true hall

theorem Tidy.isFile (h : Tidy s₀ acts) (huses : (s₀.after acts).Uses i p) :
    (s₀.after acts).bench.disk.isFile p = true := by
  obtain ⟨doc, b, t, text, -, hcontent, -⟩ := h.inUse i p huses
  rw [Disk.isFile, hcontent]
  rfl

theorem Tidy.of_others (h : Tidy s₀ acts) (he : e.isStep = false)
    (hcwd : ((s₀.after acts).act e).cwd = (s₀.after acts).cwd)
    (hsame : ∀ i p, (s₀.after acts).Uses i p →
      ((s₀.after acts).act e).bench.disk.content? p = (s₀.after acts).bench.disk.content? p) :
    Tidy s₀ (acts ++ [e]) := by
  have hkey := key_congr hcwd
  have hleft : ∀ key, s₀.leftByOthers (acts ++ [e]) key =
      if ((s₀.after acts).act e).fileAt key = (s₀.after acts).fileAt key then
        s₀.leftByOthers acts key else ((s₀.after acts).act e).fileAt key := by
    intro key
    rw [leftByOthers_concat, othersLeave, he, Bool.false_or]
    simp only [decide_eq_true_eq]
  constructor
  · intro i p huses
    rw [after_concat, uses_act he] at huses
    obtain ⟨doc, b, t, text, hcopies, hcontent, hnone⟩ := h.inUse i p huses
    have hfile := hsame i p huses
    refine ⟨doc, b, t, text, hcopies.concat e, ?_, ?_⟩
    · rw [after_concat, hfile, hcontent]
    · rw [after_concat, hkey, hleft, if_pos, hnone]
      rwa [Disk.content?, hkey] at hfile
  · intro i j p q hp hq hpq
    rw [after_concat, uses_act he] at hp hq
    rw [after_concat, hkey, hkey] at hpq
    exact h.ofOne i j p q hp hq hpq
  · intro key hfree
    rw [after_concat] at hfree ⊢
    rw [hleft]
    split
    · next hstill =>
      rw [hstill]
      refine h.others key fun i p huses ↦ ?_
      rw [← hkey]
      exact hfree i p ((uses_act he).mpr huses)
    · rfl

/-- A step moves neither the working directory nor what others leave, so for things to be tidy after
it the names of files can be taken from before. -/
theorem tidy_step
    (inUse : ∀ j q, ((s₀.after acts).act (.step i)).Uses j q → ∃ doc b t text,
      Copies s₀ acts j doc b t q text ∧
      ((s₀.after acts).act (.step i)).fileAt ((s₀.after acts).bench.disk.key q) =
        some (.text text) ∧
      s₀.leftByOthers acts ((s₀.after acts).bench.disk.key q) = none)
    (ofOne : ∀ j k p q, ((s₀.after acts).act (.step i)).Uses j p →
      ((s₀.after acts).act (.step i)).Uses k q →
      (s₀.after acts).bench.disk.key p = (s₀.after acts).bench.disk.key q → j = k)
    (others : ∀ key, (∀ j q, ((s₀.after acts).act (.step i)).Uses j q →
        (s₀.after acts).bench.disk.key q ≠ key) →
      ((s₀.after acts).act (.step i)).fileAt key = s₀.leftByOthers acts key) :
    Tidy s₀ (acts ++ [.step i]) := by
  have hcwd := (s₀.after acts).cwd_step i
  constructor
  · intro j q huses
    rw [after_concat] at huses
    obtain ⟨doc, b, t, text, hcopies, htext, hnone⟩ := inUse j q huses
    refine ⟨doc, b, t, text, hcopies.concat _, ?_, ?_⟩
    · rw [after_concat, content?_act hcwd]
      exact htext
    · rw [after_concat, key_congr hcwd, leftByOthers_step]
      exact hnone
  · intro j k p q hp hq hpq
    rw [after_concat] at hp hq
    rw [after_concat, key_congr hcwd, key_congr hcwd] at hpq
    exact ofOne j k p q hp hq hpq
  · intro key hfree
    rw [after_concat] at hfree
    rw [after_concat, leftByOthers_step]
    refine others key fun j q huses ↦ ?_
    rw [← key_congr hcwd]
    exact hfree j q huses

section

variable {text : String} (h : Tidy s₀ acts)

include h

theorem Tidy.of_nothing
    (uses : ∀ j q, ((s₀.after acts).act (.step i)).Uses j q ↔ (s₀.after acts).Uses j q)
    (files : ∀ key, ((s₀.after acts).act (.step i)).fileAt key = (s₀.after acts).fileAt key) :
    Tidy s₀ (acts ++ [.step i]) := by
  refine tidy_step ?_ ?_ ?_
  · intro j q huses
    rw [files]
    exact h.inUse j q ((uses j q).mp huses)
  · intro j k p q hp hq hpq
    exact h.ofOne j k p q ((uses j p).mp hp) ((uses k q).mp hq) hpq
  · intro key hfree
    rw [files]
    exact h.others key fun j q huses ↦ hfree j q ((uses j q).mpr huses)

theorem Tidy.key_ne (free : (s₀.after acts).bench.disk.content? p = none)
    (huses : (s₀.after acts).Uses j q) :
    (s₀.after acts).bench.disk.key p ≠ (s₀.after acts).bench.disk.key q := by
  intro hpq
  have hfile := h.isFile huses
  rw [Disk.isFile, Disk.content?, ← hpq, ← Disk.content?, free] at hfile
  cases hfile

theorem Tidy.of_wrote {doc : Nat} {b : Begun} {t : Target}
    (copies : Copies s₀ acts i doc b t p text)
    (free : (s₀.after acts).bench.disk.content? p = none)
    (uses : ∀ j q, ((s₀.after acts).act (.step i)).Uses j q ↔
      (j = i ∧ q = p) ∨ (s₀.after acts).Uses j q)
    (files : ∀ key, ((s₀.after acts).act (.step i)).fileAt key =
      if (s₀.after acts).bench.disk.key p = key then some (.text text)
      else (s₀.after acts).fileAt key) : Tidy s₀ (acts ++ [.step i]) := by
  refine tidy_step ?_ ?_ ?_
  · intro j q huses
    rw [files]
    rcases (uses j q).mp huses with ⟨rfl, rfl⟩ | huses
    · refine ⟨doc, b, t, text, copies, if_pos rfl, ?_⟩
      rw [← h.others _ fun j q huses ↦ (h.key_ne free huses).symm]
      exact free
    · rw [if_neg (h.key_ne free huses)]
      exact h.inUse j q huses
  · intro j k q q' hq hq' hqq'
    rcases (uses j q).mp hq with ⟨rfl, rfl⟩ | hold
    · rcases (uses k q').mp hq' with ⟨rfl, rfl⟩ | hold'
      · rfl
      · exact absurd hqq' (h.key_ne free hold')
    · rcases (uses k q').mp hq' with ⟨rfl, rfl⟩ | hold'
      · exact absurd hqq'.symm (h.key_ne free hold)
      · exact h.ofOne j k q q' hold hold' hqq'
  · intro key hfree
    rw [files, if_neg (hfree i p ((uses i p).mpr (Or.inl ⟨rfl, rfl⟩)))]
    exact h.others key fun j q huses ↦ hfree j q ((uses j q).mpr (Or.inr huses))

/-- A step that removes a snapshot keeps things tidy, if it is the one of the attempt. -/
theorem Tidy.of_removed (own : ∀ q, (s₀.after acts).Uses i q ↔ q = p)
    (uses : ∀ j q, ((s₀.after acts).act (.step i)).Uses j q ↔ j ≠ i ∧ (s₀.after acts).Uses j q)
    (files : ∀ key, ((s₀.after acts).act (.step i)).fileAt key =
      if (s₀.after acts).bench.disk.key p = key then none else (s₀.after acts).fileAt key) :
    Tidy s₀ (acts ++ [.step i]) := by
  have hown := (own p).mpr rfl
  refine tidy_step ?_ ?_ ?_
  · intro j q huses
    obtain ⟨hj, huses⟩ := (uses j q).mp huses
    rw [files, if_neg fun hpq ↦ hj (h.ofOne i j p q hown huses hpq).symm]
    exact h.inUse j q huses
  · intro j k q q' hq hq' hqq'
    exact h.ofOne j k q q' ((uses j q).mp hq).2 ((uses k q').mp hq').2 hqq'
  · intro key hfree
    rw [files]
    split
    · next hp =>
      -- The file that is gone would not have been there without the attempt.
      obtain ⟨doc, b, t, text, -, -, hnone⟩ := h.inUse i p hown
      rw [← hp, hnone]
    · next hp =>
      refine h.others key fun j q huses ↦ ?_
      by_cases hj : j = i
      · subst hj
        rw [(own q).mp huses]
        exact hp
      · exact hfree j q ((uses j q).mpr ⟨hj, huses⟩)

/-- **Things stay tidy**, over one action that lets attempts tend their snapshots. -/
theorem Tidy.concat (h₀ : s₀.attempts = []) (htends : (s₀.after acts).letsTend e = true) :
    Tidy s₀ (acts ++ [e]) := by
  by_cases he : ∃ i, e = .step i
  · obtain ⟨i, rfl⟩ := he
    cases tending_step htends (fun p ↦ h.isFile) with
    | nothing uses files => exact h.of_nothing uses files
    | wrote a b t p text attempt copy free uses files =>
      exact h.of_wrote (copies_of_copy? h₀ attempt copy) free uses files
    | removed a b t p o attempt stage uses files =>
      refine h.of_removed (fun q ↦ ?_) uses files
      simp [Uses, attempt, stage, Stage.snapshot?, eq_comm]
  · obtain ⟨hstep, hcwd, hall⟩ := others_of_letsTend htends (by simpa using he)
    exact h.of_others hstep hcwd hall

end

theorem tidy_opened (h₀ : s₀.attempts = []) : Tidy s₀ [] := by
  have hnone : ∀ i p, ¬ s₀.Uses i p := by
    rintro i p ⟨a, ha, -⟩
    rw [attempt?, h₀] at ha
    cases ha
  exact ⟨fun i p huses ↦ absurd huses (hnone i p), fun i j p q hp ↦ absurd hp (hnone i p),
    fun key _ ↦ rfl⟩

/-- **Things stay tidy**, in every run that lets attempts tend their snapshots. -/
theorem tidy_after (h₀ : s₀.attempts = []) (h : s₀.throughout letsTend acts = true) :
    Tidy s₀ acts := by
  induction acts using List.reverseRecOn with
  | nil => exact tidy_opened h₀
  | append_singleton acts e ih =>
    rw [throughout_concat, Bool.and_eq_true] at h
    exact (ih h.1).concat h₀ h.2

/-! ## When a snapshot is removed -/

/-- The analyzer is done with a snapshot: its run has ended, or did not start. -/
inductive Done (s : Session) (p : FilePath) : Stage → Prop
  | ended (b : Begun) (t : Target) (run : Run) (due : Time) (order : Nat) (reached : due ≤ s.now) :
    Done s p (.running b t (some p) run due order)
  | unstarted (b : Begun) (t : Target) (run : Run) (directory : Option String) (e : Failure) :
    Done s p (.spawning b t (some p) run directory (some e))

theorem Following.of_cleaning {d : Document} {b b' : Begun} {t t' : Target}
    {o o' : Except Failure (Option Answer)} {snap : Option FilePath}
    (h : Following s d b t s' o snap (.cleaning b' t' p o')) : snap = some p := by
  cases h
  rfl

/-- What comes before a removal: the analyzer is done, or there was nothing to call it on. -/
theorem Move.done {d : Document} {b : Begun} {t : Target} {o : Except Failure (Option Answer)}
    (h : Move s d s' st (.cleaning b t p o))
    (hover : ∀ b t snap run due order, st = .running b t snap run due order → due ≤ s.now) :
    Done s p st ∨ ∃ b t text, st.copy? = some (b, t, p, text) ∧ t.path.isEmpty = true := by
  generalize hst' : Stage.cleaning b t p o = st' at h
  cases h with
  | inPlace st on inPlace calling =>
    cases calling with
    | pathless st empty following =>
      cases following
      cases hst'
    | spawned run directory path kept => cases hst'
  | written b t p text disk st written calling =>
    cases calling with
    | pathless st empty following =>
      subst hst'
      cases following.of_cleaning
      exact Or.inr ⟨b, t, text, rfl, empty⟩
    | spawned run directory path kept => cases hst'
  | missing b t snap run directory e st cause following =>
    subst hst'
    cases following.of_cleaning
    exact Or.inl (.unstarted b t run directory e)
  | refused b t snap run directory e st cause following =>
    subst hst'
    cases following.of_cleaning
    exact Or.inl (.unstarted b t run directory e)
  | broken b t snap run directory e st cause following =>
    subst hst'
    cases following.of_cleaning
    exact Or.inl (.unstarted b t run directory e)
  | lost b t snap run due order message st fault following =>
    subst hst'
    cases following.of_cleaning
    exact Or.inl (.ended b t run due order (hover b t _ run due order rfl))
  | answered b t snap run due order st fine following =>
    subst hst'
    cases following.of_cleaning
    exact Or.inl (.ended b t run due order (hover b t _ run due order rfl))
  | _ => cases hst'

/-- In a run, the analyzer was done with a snapshot in a step of its attempt. -/
def WasDone (s₀ : Session) (acts : List Action) (i : Nat) (p : FilePath) : Prop :=
  ∃ earlier later a, acts = earlier ++ .step i :: later ∧ (s₀.after earlier).attempt? i = some a ∧
    Done (s₀.after earlier) p a.stage

/-- **A snapshot is not removed before the analyzer is done with it.** -/
theorem wasDone_of_cleaning {b : Begun} {t : Target} {o : Except Failure (Option Answer)}
    (h₀ : s₀.attempts = []) (h : (s₀.after acts).attempt? i = some a)
    (hstage : a.stage = .cleaning b t p o) : WasDone s₀ acts i p := by
  rw [← attempt?_id h]
  revert hstage b t o
  refine attempt_induction h₀ (P := fun acts a ↦ ∀ {b t o}, a.stage = .cleaning b t p o →
    WasDone s₀ acts a.id p) ?_ ?_ acts h
  · intro acts a _ hcreated b t o hstage
    rw [hcreated] at hstage
    cases hstage
  · intro acts e a st ha ih hprogress b t o hstage
    cases hprogress with
    | idle =>
      obtain ⟨earlier, later, a', rfl, hdone⟩ := ih hstage
      exact ⟨earlier, later ++ [e], a', by simp, hdone⟩
    | moved d st step document can move =>
      subst hstage
      rcases move.done (fun b t snap run due order hst ↦ by simpa [canStep, hst] using can) with
        hdone | ⟨b, t, text, hcopy, hempty⟩
      · exact ⟨acts, [], a, by rw [step], ha, hdone⟩
      · -- A snapshot has a path.
        cases (copies_of_copy? h₀ ha hcopy).path_ne_empty.symm.trans hempty
    | settled b' r settle ended => cases hstage

/-- What a step of an attempt can do to a file: write its own snapshot where there was no file, or
remove it once the analyzer is done with it. -/
inductive Tends (s₀ : Session) (past : List Action) (i : Nat) (key : String) : Prop
  | wrote (doc : Nat) (b : Begun) (t : Target) (p : FilePath) (text : String)
    (copies : Copies s₀ past i doc b t p text) (name : (s₀.after past).bench.disk.key p = key)
    (free : (s₀.after past).fileAt key = none)
    (written : (s₀.after (past ++ [.step i])).fileAt key = some (.text text))
    (uses : (s₀.after (past ++ [.step i])).Uses i p)
  | removed (p : FilePath) (uses : (s₀.after past).Uses i p)
    (name : (s₀.after past).bench.disk.key p = key) (done : WasDone s₀ past i p)
    (gone : (s₀.after (past ++ [.step i])).fileAt key = none)

theorem Tidy.tends (h : Tidy s₀ past) (h₀ : s₀.attempts = [])
    (htends : (s₀.after past).letsTend (.step i) = true)
    (hchanged : (s₀.after (past ++ [.step i])).fileAt key ≠ (s₀.after past).fileAt key) :
    Tends s₀ past i key := by
  rw [after_concat] at hchanged
  cases tending_step htends (fun p ↦ h.isFile) with
  | nothing uses files => exact absurd (files key) hchanged
  | wrote a b t p text attempt copy free uses files =>
    rw [files] at hchanged
    split at hchanged
    · next hname =>
      refine .wrote a.doc b t p text (copies_of_copy? h₀ attempt copy) hname (hname ▸ free) ?_ ?_
      · rw [after_concat, files, if_pos hname]
      · rw [after_concat]
        exact (uses i p).mpr (Or.inl ⟨rfl, rfl⟩)
    · exact absurd rfl hchanged
  | removed a b t p o attempt stage uses files =>
    rw [files] at hchanged
    split at hchanged
    · next hname =>
      refine .removed p ⟨a, attempt, by rw [stage]; rfl⟩ hname
        (wasDone_of_cleaning h₀ attempt stage) ?_
      rw [after_concat, files, if_pos hname]
    · exact absurd rfl hchanged

theorem isUnderWay_of_uses (h : s.Uses i p) : ∃ a ∈ s.attempts, a.stage.isUnderWay = true := by
  obtain ⟨a, ha, hp⟩ := h
  refine ⟨a, List.mem_of_find?_eq_some ha, ?_⟩
  generalize a.stage = st at hp
  cases st <;> first | rfl | cases hp

end

/-- An attempt on a changed document, up to the run of the analyzer. -/
def untilRun : List Action :=
  [.setText 0 "z", .call 0, .step 0, .step 0, .step 0, .step 0]

end Session

end DiagnosticFeed
