import DiagnosticFeed.Proofs.Fallible
import DiagnosticFeed.Proofs.Paths

/-!
# What operations do to files

Files are kept under the text of their resolved path. Each operation that succeeds changes the
table of files in one place or not at all, so it is described by what is read afterwards under any
path.
-/

namespace DiagnosticFeed

namespace Disk

/-! ## Names of files -/

theorem content?_ofString_toText {p : FilePath} (h : p.WellFormed) (disk : Disk) :
    disk.content? (.ofString p.toText) = disk.content? p := by
  rw [h.ofString_toText]

theorem key_of_atRoot {p : FilePath} (h : p.AtRoot) (disk : Disk) : disk.key p = p.toText := by
  rw [key, h.canonical]

theorem key_canonical (disk : Disk) (p : FilePath) :
    disk.key (FilePath.canonical disk.cwd p) = disk.key p := by
  rw [key, key, FilePath.canonical_canonical]

theorem key_inj {p q : FilePath} {disk : Disk} (hp : p.AtRoot) (hq : q.AtRoot)
    (h : disk.key p = disk.key q) : p = q := by
  rw [key_of_atRoot hp, key_of_atRoot hq] at h
  rw [← hp.wellFormed.ofString_toText, h, hq.wellFormed.ofString_toText]

/-! ## Operations -/

section

variable {disk disk' : Disk} {p : FilePath} {text : String}

theorem content?_of_readText (h : disk.readText p = .ok text) :
    ∃ c written, disk.content? p = some c ∧ c.decode? = some written ∧
      text = String.ofList (Text.unifyLineEnds written.toList) := by
  rw [readText, read] at h
  cases hcheck : disk.check .read p with
  | error e =>
    rw [hcheck] at h
    cases h
  | ok u =>
    rw [hcheck] at h
    cases hcontent : disk.content? p with
    | none =>
      simp only [hcontent] at h
      cases h
    | some c =>
      simp only [hcontent] at h
      cases hdecode : c.decode? with
      | none =>
        simp [bind, Except.bind, pure, Except.pure, hdecode] at h
      | some written =>
        simp [bind, Except.bind, pure, Except.pure, hdecode] at h
        exact ⟨c, written, rfl, hdecode, h.symm⟩

/-- What a write can come to. -/
theorem writeText_cases (disk : Disk) (p : FilePath) (text : String) :
    disk.writeText p text = .ok (disk.put p (.text text)) ∨
      (∃ e, disk.writeText p text = .error (e, disk)) ∨
      ∃ c left, disk.remnant? = some (c, left) ∧
        disk.writeText p text = .error (.system c none, disk.put p left) := by
  rw [writeText]
  split
  · exact .inr (.inl ⟨_, rfl⟩)
  · split
    · exact .inr (.inl ⟨_, rfl⟩)
    · cases disk.remnant? with
      | none => exact .inl rfl
      | some left => exact .inr (.inr ⟨left.1, left.2, rfl, rfl⟩)

theorem eq_of_writeText (h : disk.writeText p text = .ok disk') :
    disk' = disk.put p (.text text) := by
  rcases disk.writeText_cases p text with hok | ⟨e, herror⟩ | ⟨c, left, -, herror⟩
  · cases hok.symm.trans h
    rfl
  · cases herror.symm.trans h
  · cases herror.symm.trans h

/-- A write that fails leaves the files as they are, unless it fails on the way. -/
theorem writeText_error_cases {e : Failure} (h : disk.writeText p text = .error (e, disk')) :
    disk' = disk ∨ ∃ c left, disk.remnant? = some (c, left) ∧ disk' = disk.put p left := by
  rcases disk.writeText_cases p text with hok | ⟨e', herror⟩ | ⟨c, left, hleft, herror⟩
  · cases hok.symm.trans h
  · cases herror.symm.trans h
    exact .inl rfl
  · cases herror.symm.trans h
    exact .inr ⟨c, left, hleft, rfl⟩

theorem content?_put (disk : Disk) (p q : FilePath) (c : Content) :
    (disk.put p c).content? q = if disk.key p = disk.key q then some c else disk.content? q :=
  Keyed.get?_set disk.files (disk.key p) (disk.key q) c

theorem files_of_makeDirectory (h : disk.makeDirectory p = .ok disk') :
    ∃ dirs, disk' = { disk with dirs := dirs } := by
  rw [makeDirectory] at h
  cases hcheck : disk.check .makeDirectory p with
  | error e =>
    rw [hcheck] at h
    cases h
  | ok u =>
    rw [hcheck] at h
    change (if disk.isFile p then _ else pure _) = Except.ok disk' at h
    split at h
    · cases h
    · cases h
      split
      · exact ⟨disk.dirs, rfl⟩
      · exact ⟨_, rfl⟩

theorem eq_of_unlink (h : disk.unlink p = .ok disk') : disk' = disk.remove p := by
  rw [unlink] at h
  cases hcheck : disk.check .unlink p with
  | error e =>
    rw [hcheck] at h
    cases h
  | ok u =>
    rw [hcheck] at h
    change (if disk.isFile p then pure (disk.remove p) else _) = Except.ok disk' at h
    split at h <;> cases h
    rfl

theorem content?_of_writeText (h : disk.writeText p text = .ok disk') (q : FilePath) :
    disk'.content? q = if disk.key p = disk.key q then some (.text text) else disk.content? q := by
  rw [eq_of_writeText h, content?_put]

/-- Removing a snapshot takes its file away, or leaves all files as they are. -/
theorem eq_of_delete {notices : List Log.Notice}
    (h : Snapshot.delete disk p = .ok (disk', notices)) :
    disk' = disk.remove p ∨ disk' = disk := by
  rw [Snapshot.delete] at h
  cases hunlink : disk.unlink p with
  | ok gone =>
    rw [hunlink] at h
    cases h
    exact Or.inl (eq_of_unlink hunlink)
  | error e =>
    simp only [hunlink] at h
    split at h
    · cases h
      exact Or.inr rfl
    · split at h <;> cases h
      exact Or.inr rfl

theorem delete_of_isFile (hcheck : (disk.check .unlink p).isOk = true)
    (hfile : disk.isFile p = true) : Snapshot.delete disk p = .ok (disk.remove p, []) := by
  have hunlink : disk.unlink p = .ok (disk.remove p) := by
    rw [unlink]
    cases h : disk.check .unlink p with
    | error e =>
      rw [h] at hcheck
      cases hcheck
    | ok u =>
      change (if disk.isFile p then pure (disk.remove p) else _) = Except.ok (disk.remove p)
      rw [if_pos hfile]
      rfl
  rw [Snapshot.delete, hunlink]

end

end Disk

/-! ## Documents of files -/

namespace Document

/-- The document of a file has the file's resolved path, and its text. -/
theorem path_ofFile {disk : Disk} {p path : FilePath} {language : String} {d : Document}
    (h : ofFile disk p language = .ok d) (hpath : d.path = some path) :
    path = FilePath.canonical disk.cwd p ∧
      ∃ c written, disk.content? path = some c ∧ c.decode? = some written ∧
        d.text = String.ofList (Text.unifyLineEnds written.toList) := by
  rw [ofFile] at h
  cases hread : disk.readText (FilePath.canonical disk.cwd p) with
  | error e =>
    simp only [hread] at h
    cases h
  | ok text =>
    simp only [hread] at h
    cases h
    cases hpath
    exact ⟨rfl, Disk.content?_of_readText hread⟩

theorem proper_ofFile {disk : Disk} {p path : FilePath} {language : String} {d : Document}
    (hcwd : disk.cwd.Proper) (hp : p.Proper) (h : ofFile disk p language = .ok d)
    (hpath : d.path = some path) : path.Proper := by
  rw [(path_ofFile h hpath).1]
  exact hcwd.canonical hp

theorem eq_of_save {d d' : Document} {disk disk' : Disk} (h : d.save disk = .ok (d', disk')) :
    ∃ p, d.path = some p ∧ disk.writeText p d.text = .ok disk' ∧
      d' = { d with dirty := false } := by
  rw [save] at h
  cases hp : d.path with
  | none =>
    rw [hp] at h
    cases h
  | some p =>
    rw [hp] at h
    cases hwrite : disk.writeText p d.text with
    | error e =>
      simp only [hwrite] at h
      cases h
    | ok written =>
      simp only [hwrite] at h
      cases h
      exact ⟨p, rfl, hwrite, rfl⟩

end Document

end DiagnosticFeed
