import DiagnosticFeed.Proofs.Session.Current
import DiagnosticFeed.Proofs.Session.Spawns
import Mathlib.Data.List.Infix

/-!
# Where the analyzer looks for its file

The analyzer is told its file by a path, and it is started in a directory of its own: that of the
document, or the workspace folder. What it is to analyze was prepared from the working directory of
the host. The two agree on a path that is absolute. A relative path leads to another file as soon as
the two directories differ so far up as the path climbs, and relative are the paths of snapshots in
a scratch directory that is configured so, and those of documents that were given one.
-/

namespace DiagnosticFeed

namespace Session

/-- Where a process starts that is given a directory, or none. -/
def startsIn (s : Session) (directory : Option String) : FilePath :=
  (s.bench.disk.startingIn directory).cwd

/-- Whether the path that the analyzer is called on leads to what was prepared, from where the
analyzer starts. -/
def Finds (s : Session) (t : Target) (directory : Option String) : Prop :=
  FilePath.normalText? (s.startsIn directory) t.path = t.analysis

instance (s : Session) (t : Target) (directory : Option String) :
    Decidable (s.Finds t directory) :=
  inferInstanceAs (Decidable (_ = _))

/-- What an attempt has just called the analyzer on, and in which directory. -/
def call? (s : Session) (i : Nat) : Option (Target × Option String) := do
  let a ← s.attempt? i
  match a.stage with
  | .spawning _ t _ _ directory _ => some (t, directory)
  | _ => none

/-- A call of the analyzer: what is analyzed was prepared from the directory `home`, where the host
was at the first step of the attempt, and the directory of the call is chosen by the target and the
workspace. -/
structure Prepared (s₀ : Session) (past : List Action) (i doc : Nat) (b : Begun) (t : Target)
    (directory : Option String) (home : FilePath) : Prop where
  begun : ∃ earlier later d, past ++ [.step i] = earlier ++ .step i :: later ∧
    Begins s₀ earlier i doc d b ∧ home = (s₀.after earlier).cwd
  analysis : t.analysis = FilePath.normalText? home t.path
  chosen : ∃ d, (s₀.after past).documents[doc]? = some d ∧
    directory = (t.directory? ((s₀.after past).rootOf d)).map FilePath.toText
  calls : (s₀.after (past ++ [.step i])).Calls t.path directory

section

variable {s s₀ : Session} {i : Nat} {a : Attempt} {b : Begun} {t : Target}
  {snap : Option FilePath} {run : Run} {directory : Option String} {failure : Option Failure}
  {past : List Action}

theorem resolved_startsIn (h : s.cwd.Resolved) (directory : Option String) :
    (s.startsIn directory).Resolved := by
  cases directory with
  | none => exact h
  | some text => exact h.resolved_resolve (FilePath.wellFormed_ofString text)

theorem Spawns.call?_eq (h : Spawns s i a b t snap run directory failure) :
    (s.act (.step i)).call? i = some (t, directory) := by
  rw [call?, h.after]
  rfl

/-- What is analyzed stands for the same as its path, where the host was at the first step. -/
theorem Spawns.prepared (h₀ : s₀.attempts = [])
    (h : Spawns (s₀.after past) i a b t snap run directory failure) :
    ∃ home, Prepared s₀ past i a.doc b t directory home ∧
      ∃ earlier, earlier <+: past ∧ home = (s₀.after earlier).cwd := by
  obtain ⟨hcalls, hdirectory⟩ := h.calls_in
  rw [← after_concat] at hcalls
  have hid : a.id = i := attempt?_id h.before
  subst hid
  obtain ⟨d, hd, hcan, hmove⟩ := h.move
  rcases hmove.cases_spawning.2 with ⟨hst, hon, hplace, rfl, rfl, -, -⟩ | ⟨p, text, hst, -, -⟩
  · -- The attempt begins in this very step.
    obtain ⟨p, hp, -, -⟩ := Snapshot.isInPlace_iff.mp hplace
    refine ⟨(s₀.after past).cwd, ⟨⟨past, [], d, rfl, ⟨⟨a, h.before, rfl, hst⟩, hd, hon, rfl⟩, rfl⟩,
      ?_, hdirectory, hcalls⟩, past, List.prefix_rfl, rfl⟩
    rw [Snapshot.inPlace, Snapshot.documentPath?, hp]
    rfl
  · have hcopy : a.stage.copy? = some (b, t, p, text) := by rw [hst]; rfl
    obtain ⟨earlier, later, d₀, hpast, hbegins, -, -, -, rfl⟩ := begins_of_copy? h₀ h.before hcopy
    refine ⟨(s₀.after earlier).cwd, ⟨⟨earlier, later ++ [.step a.id], d₀, by simp [hpast], hbegins,
      rfl⟩, rfl, hdirectory, hcalls⟩, earlier, ?_, rfl⟩
    rw [hpast]
    exact List.prefix_append ..

/-- **When the analyzer finds what was prepared for it**: if and only if the path that it is called
on is absolute, or the directory that it starts in and the host's working directory are the same so
far up as the path climbs. -/
theorem finds_iff (h₀ : s₀.attempts = [])
    (hcwd : ∀ before, before <+: past → (s₀.after before).cwd.Resolved)
    (h : Spawns (s₀.after past) i a b t snap run directory failure) :
    ∃ home, Prepared s₀ past i a.doc b t directory home ∧
      ((s₀.after past).Finds t directory ↔
        (FilePath.ofString t.path).anchor ≠ .relative ∨
          FilePath.parent^[(FilePath.ofString t.path).climbs] ((s₀.after past).startsIn directory) =
            FilePath.parent^[(FilePath.ofString t.path).climbs] home) := by
  obtain ⟨home, hprepared, earlier, hearlier, rfl⟩ := h.prepared h₀
  obtain ⟨d, hd, hcan, hmove⟩ := h.move
  refine ⟨_, hprepared, ?_⟩
  rw [Finds, hprepared.analysis]
  exact FilePath.normalText?_eq_iff (resolved_startsIn (hcwd past List.prefix_rfl) directory)
    (hcwd earlier hearlier) hmove.cases_spawning.1

end

/-- A document that is analyzed in place under an absolute path is found. -/
theorem finds_sample : ∃ a b t snap run directory failure home,
    Spawns ((sample [oneFinding]).after [.call 0]) 0 a b t snap run directory failure ∧
      Prepared (sample [oneFinding]) [.call 0] 0 a.doc b t directory home ∧
      ((sample [oneFinding]).after [.call 0]).Finds t directory := by
  obtain ⟨a, b, t, snap, run, directory, failure, hspawns⟩ :=
    exists_spawns (s := (sample [oneFinding]).after [.call 0]) (i := 0) (by decide +kernel)
      (by decide +kernel)
  have hcwd : ∀ before ∈ [Action.call 0].inits,
      ((sample [oneFinding]).after before).cwd.Resolved := by decide +kernel
  have hcall : (((sample [oneFinding]).after [.call 0]).act (.step 0)).call? 0 =
      some (⟨"/w/a.sg", some "/w/a.sg", some "/w/a.sg", false⟩, some "/w") := by decide +kernel
  rw [hspawns.call?_eq, Option.some_inj, Prod.mk.injEq] at hcall
  obtain ⟨home, hprepared, hfinds⟩ := finds_iff (opened_sample [oneFinding]).attempts_eq
    (fun before hbefore ↦ hcwd before ((List.mem_inits ..).mpr hbefore)) hspawns
  refine ⟨a, b, t, snap, run, directory, failure, home, hspawns, hprepared, hfinds.mpr (Or.inl ?_)⟩
  rw [hcall.1]
  decide +kernel

/-- A session with a changed document, and a scratch directory that is given by a relative path. -/
def relativeScratch : Session :=
  open_ ⟨⟨.root, ["h"]⟩, [], [], []⟩ { scratch := ⟨.relative, ["scratch"]⟩ }
    [{ sampleDocument with dirty := true }] none []

/-- What an attempt calls the analyzer on: the snapshot is under the host's directory, and the
analyzer starts in the directory of the document. -/
theorem relativeScratch_call :
    ((relativeScratch.after [.call 0, .step 0, .step 0]).act (.step 0)).call? 0 =
      some (⟨"scratch/a-1000000-00000001.sg", some "/h/scratch/a-1000000-00000001.sg",
        some "/w/a.sg", true⟩, some "/w") := by decide +kernel

/-- So the analyzer can be called on a path that does not lead to what was prepared. -/
theorem not_finds :
    ¬ ∀ s₀ past i a b t snap run directory failure, Opened s₀ →
      (∀ before, before <+: past → (s₀.after before).cwd.Resolved) →
      Spawns (s₀.after past) i a b t snap run directory failure →
        (s₀.after past).Finds t directory := by
  intro hfinds
  obtain ⟨a, b, t, snap, run, directory, failure, hspawns⟩ :=
    exists_spawns (s := relativeScratch.after [.call 0, .step 0, .step 0]) (i := 0)
      (by decide +kernel) (by decide +kernel)
  have hcwd : ∀ before ∈ [Action.call 0, .step 0, .step 0].inits,
      (relativeScratch.after before).cwd.Resolved := by decide +kernel
  have hfound := hfinds relativeScratch _ 0 a b t snap run directory failure ⟨_, _, _, _, _, rfl⟩
    (fun before hbefore ↦ hcwd before ((List.mem_inits ..).mpr hbefore)) hspawns
  have hcall := relativeScratch_call
  rw [hspawns.call?_eq, Option.some_inj, Prod.mk.injEq] at hcall
  rw [hcall.1, hcall.2] at hfound
  revert hfound
  decide +kernel

end Session

end DiagnosticFeed
