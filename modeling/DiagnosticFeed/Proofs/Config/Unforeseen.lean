import DiagnosticFeed.Config.Load
import DiagnosticFeed.Proofs.Fallible

/-!
# Settings that cannot be had

Loading settings fails for many reasons. Some of the failures are foreseen: the file is missing, or
the configuration is known to be the cause. The others come from bytes that are no text, from keys
that are no text, from invalid values while there is no file, and from whatever else goes wrong in
the library. `Unforeseen` lists them, and whatever the library does, nothing else goes wrong
unforeseen.
-/

namespace DiagnosticFeed

/-- Whether a failure to load settings is foreseen. -/
def Failure.IsForeseen (e : Failure) : Prop :=
  e.isMissing = true ∨ e.isConfiguration = true

/-- Whether the bytes of a file can be had, if there is one. -/
def Disk.Readable (disk : Disk) (p : FilePath) : Prop :=
  disk.exists? p = true → ∃ c, disk.read p = .ok c

namespace Config

/-- A file has a text, which is this one once its references are replaced. -/
def Expands (disk : Disk) (env : Environment) (p : FilePath) (s : String) : Prop :=
  disk.exists? p = true ∧ ∃ written, disk.readText p = .ok written ∧ expand env written = .ok s

/-- A file gives these entries. -/
def Gives (lib : Library) (disk : Disk) (env : Environment) (p : FilePath) (o : Entries) : Prop :=
  ∃ s d, Expands disk env p s ∧ lib.read s = .ok d ∧ entriesOf p d = .ok o

/-- The failures of the library itself, where it tells neither that a text is no YAML nor which
values are not valid. -/
inductive Raised (lib : Library) (disk : Disk) (env : Environment) :
    Option FilePath → Failure → Prop
  | environment {e : Failure} (h : lib.build disk env [] = .error e) : Raised lib disk env none e
  | text {p : FilePath} {s : String} {e : Failure} (hs : Expands disk env p s)
      (h : lib.read s = .error (.other e)) : Raised lib disk env (some p) e
  | file {p : FilePath} {o : Entries} {e : Failure} (ho : Gives lib disk env p o)
      (h : lib.build disk env o = .error e) : Raised lib disk env (some p) e

/-- The failures to load settings that are not foreseen. -/
inductive Unforeseen (lib : Library) (disk : Disk) (env : Environment) :
    Option FilePath → Failure → Prop
  | fields {issues : List FieldIssue} (h : lib.build disk env [] = .ok (.error issues)) :
      Unforeseen lib disk env none (.invalidFields issues)
  | bytes {p : FilePath} {c : Content} (hc : disk.read p = .ok c) (h : c.decode? = none) :
      Unforeseen lib disk env (some p) .undecodable
  | key {p : FilePath} {s : String} {o : Entries} (hs : Expands disk env p s)
      (h : lib.read s = .ok (.map o)) (hkey : ∃ e ∈ o, e.1.text? = none) :
      Unforeseen lib disk env (some p) .keyNotText
  | library {config : Option FilePath} {e : Failure} (h : Raised lib disk env config e)
      (he : ¬e.IsForeseen) : Unforeseen lib disk env config e

section

variable {lib : Library} {disk : Disk} {env : Environment} {e : Failure} {p : FilePath}

theorem loadFile_of_missing (h : disk.exists? p = false) :
    loadFile lib disk env p = .error (.configurationMissing p.toText) := by
  simp [loadFile, h, bind, Except.bind, throw, throwThe, MonadExceptOf.throw]

theorem loadFile_eq (h : disk.exists? p = true) :
    loadFile lib disk env p = disk.readText p >>= fun written ↦ expand env written >>= fun s ↦
      dataOf lib p s >>= fun d ↦ entriesOf p d >>= fun o ↦ lib.build disk env o >>= fun v ↦
        v.mapError (.invalidConfiguration p.toText) := by
  simp [loadFile, h]

theorem readText_eq_error_iff {c : Content} (hc : disk.read p = .ok c) :
    disk.readText p = .error e ↔ c.decode? = none ∧ e = .undecodable := by
  rw [Disk.readText, hc]
  cases hdecode : c.decode? <;>
    simp [bind, Except.bind, pure, Except.pure, throw, throwThe, MonadExceptOf.throw, hdecode,
      eq_comm]

theorem exists?_of_read {c : Content} (hc : disk.read p = .ok c) : disk.exists? p = true := by
  rw [Disk.exists?, Disk.isFile]
  cases hcontent : disk.content? p with
  | some c => rfl
  | none =>
    rw [Disk.read, bind_eq_ok_iff] at hc
    obtain ⟨u, -, hc⟩ := hc
    rw [hcontent] at hc
    cases hc

theorem isConfiguration_of_values {ps : List Piece} (h : values env ps = .error e) :
    e.isConfiguration = true := by
  induction ps with
  | nil => cases h
  | cons piece ps ih =>
    rw [values, bind_eq_error_iff] at h
    rcases h with h | ⟨v, -, h⟩
    · unfold Piece.value at h
      split at h
      · cases h
      · split at h <;> cases h
        rfl
    · rw [bind_eq_error_iff] at h
      rcases h with h | ⟨vs, -, h⟩
      · exact ih h
      · cases h

theorem isConfiguration_of_expand {s : String} (h : expand env s = .error e) :
    e.isConfiguration = true := by
  rw [expand] at h
  cases hvalues : values env (pieces s.toList) with
  | error e' =>
    rw [hvalues] at h
    cases h
    exact isConfiguration_of_values hvalues
  | ok cs =>
    rw [hvalues] at h
    cases h

theorem dataOf_eq_ok_iff {s : String} {d : Datum} : dataOf lib p s = .ok d ↔ lib.read s = .ok d := by
  unfold dataOf
  split <;> simp_all

theorem dataOf_eq_error {s : String} (h : dataOf lib p s = .error e) :
    e.isConfiguration = true ∨ lib.read s = .error (.other e) := by
  unfold dataOf at h
  split at h
  · cases h
  · cases h
    exact .inl rfl
  · next hs =>
    cases h
    exact .inr hs

theorem entriesOf_eq_error {d : Datum} (h : entriesOf p d = .error e) :
    e.isConfiguration = true ∨
      (∃ o, d = .map o ∧ ∃ entry ∈ o, entry.1.text? = none) ∧ e = .keyNotText := by
  unfold entriesOf at h
  split at h
  · cases h
  · next o =>
    split at h
    · cases h
    · next hall =>
      cases h
      refine .inr ⟨⟨o, rfl, ?_⟩, rfl⟩
      simpa using hall
  · cases h
    exact .inl rfl

theorem isConfiguration_of_mapError {v : Verdict Settings} {text : String}
    (h : v.mapError (.invalidConfiguration text) = .error e) : e.isConfiguration = true := by
  cases v with
  | error issues =>
    cases h
    rfl
  | ok s => cases h

theorem entriesOf_of_key {o : Entries} (h : ∃ entry ∈ o, entry.1.text? = none) :
    entriesOf p (.map o) = .error .keyNotText := by
  obtain ⟨entry, hentry, htext⟩ := h
  have hall : ¬(o.all fun e ↦ e.1.text?.isSome) = true := by
    intro hall
    have := List.all_eq_true.1 hall entry hentry
    rw [htext] at this
    cases this
  rw [entriesOf, if_neg hall]

/-- A failure to load a file that is there is one of the configuration or of the library, or it comes
from bytes or keys that are no text. -/
theorem cause_of_loadFile {c : Content} (hc : disk.read p = .ok c)
    (h : loadFile lib disk env p = .error e) :
    e.isConfiguration = true ∨ Raised lib disk env (some p) e ∨
      Unforeseen lib disk env (some p) e := by
  have hexists := exists?_of_read hc
  rw [loadFile_eq hexists, bind_eq_error_iff] at h
  rcases h with h | ⟨written, hwritten, h⟩
  · obtain ⟨hdecode, rfl⟩ := (readText_eq_error_iff hc).1 h
    exact .inr (.inr (.bytes hc hdecode))
  rw [bind_eq_error_iff] at h
  rcases h with h | ⟨s, hs, h⟩
  · exact .inl (isConfiguration_of_expand h)
  have hexpands : Expands disk env p s := ⟨hexists, written, hwritten, hs⟩
  rw [bind_eq_error_iff] at h
  rcases h with h | ⟨d, hd, h⟩
  · exact (dataOf_eq_error h).imp_right fun hread ↦ .inl (.text hexpands hread)
  rw [dataOf_eq_ok_iff] at hd
  rw [bind_eq_error_iff] at h
  rcases h with h | ⟨o, ho, h⟩
  · rcases entriesOf_eq_error h with h | ⟨⟨o, rfl, hkey⟩, rfl⟩
    · exact .inl h
    · exact .inr (.inr (.key hexpands hd hkey))
  rw [bind_eq_error_iff] at h
  rcases h with h | ⟨v, hv, h⟩
  · exact .inr (.inl (.file ⟨s, d, hexpands, hd, ho⟩ h))
  · exact .inl (isConfiguration_of_mapError h)

theorem loadFile_of_expands {s : String} (hs : Expands disk env p s) :
    loadFile lib disk env p = dataOf lib p s >>= fun d ↦ entriesOf p d >>= fun o ↦
      lib.build disk env o >>= fun v ↦ v.mapError (.invalidConfiguration p.toText) := by
  obtain ⟨hexists, written, hwritten, hs⟩ := hs
  rw [loadFile_eq hexists, hwritten]
  change expand env written >>= _ = _
  rw [hs]
  rfl

theorem loadFile_of_gives {o : Entries} (ho : Gives lib disk env p o) :
    loadFile lib disk env p = lib.build disk env o >>= fun v ↦
      v.mapError (.invalidConfiguration p.toText) := by
  obtain ⟨s, d, hs, hd, ho⟩ := ho
  rw [loadFile_of_expands hs, dataOf_eq_ok_iff.2 hd]
  change entriesOf p d >>= _ = _
  rw [ho]
  rfl

theorem Raised.load {config : Option FilePath} (h : Raised lib disk env config e) :
    load lib disk env config = .error e := by
  cases h with
  | environment h =>
    rw [Config.load, h]
    rfl
  | text hs h =>
    rw [Config.load, loadFile_of_expands hs, dataOf, h]
    rfl
  | file ho h =>
    rw [Config.load, loadFile_of_gives ho, h]
    rfl

theorem Unforeseen.load {config : Option FilePath} (h : Unforeseen lib disk env config e) :
    load lib disk env config = .error e := by
  cases h with
  | fields h =>
    rw [Config.load, h]
    rfl
  | bytes hc h =>
    rw [Config.load, loadFile_eq (exists?_of_read hc), (readText_eq_error_iff hc).2 ⟨h, rfl⟩]
    rfl
  | key hs h hkey =>
    rw [Config.load, loadFile_of_expands hs, dataOf_eq_ok_iff.2 h]
    change entriesOf _ _ >>= _ = _
    rw [entriesOf_of_key hkey]
    rfl
  | library h he => exact h.load

theorem Unforeseen.not_isForeseen {config : Option FilePath}
    (h : Unforeseen lib disk env config e) : ¬e.IsForeseen := by
  cases h with
  | library h he => exact he
  | _ => simp [Failure.IsForeseen, Failure.isMissing, Failure.isConfiguration]

/-- Settings cannot be had because the file is missing, because the configuration is known to be the
cause, because of the library, or for one of the listed reasons. -/
theorem cause_of_load {config : Option FilePath} (hread : ∀ p ∈ config, disk.Readable p)
    (h : load lib disk env config = .error e) :
    (∃ p ∈ config, disk.exists? p = false ∧ e = .configurationMissing p.toText) ∨
      e.isConfiguration = true ∨ Raised lib disk env config e ∨
        Unforeseen lib disk env config e := by
  cases config with
  | some p =>
    cases hexists : disk.exists? p with
    | false =>
      rw [load, loadFile_of_missing hexists] at h
      cases h
      exact .inl ⟨p, rfl, hexists, rfl⟩
    | true =>
      obtain ⟨c, hc⟩ := hread p rfl hexists
      exact .inr (cause_of_loadFile hc h)
  | none =>
    rw [load, bind_eq_error_iff] at h
    rcases h with h | ⟨v, hv, h⟩
    · exact .inr (.inr (.inl (.environment h)))
    · cases v with
      | error issues =>
        cases h
        exact .inr (.inr (.inr (.fields hv)))
      | ok s => cases h

/-- **Which failures to load settings are not foreseen**: those that are listed, provided that the
file can be read if there is one. -/
theorem unforeseen_iff {config : Option FilePath} (hread : ∀ p ∈ config, disk.Readable p) :
    Unforeseen lib disk env config e ↔ load lib disk env config = .error e ∧ ¬e.IsForeseen := by
  constructor
  · intro h
    exact ⟨h.load, h.not_isForeseen⟩
  · rintro ⟨h, hnot⟩
    rcases cause_of_load hread h with ⟨p, -, -, rfl⟩ | h | h | h
    · exact absurd (.inl rfl) hnot
    · exact absurd (.inr h) hnot
    · exact .library h hnot
    · exact h

/-- It is not the library that tells a file to be missing if and only if there is nothing at its
path. -/
theorem isMissing_iff {config : Option FilePath} (hread : ∀ p ∈ config, disk.Readable p)
    (h : load lib disk env config = .error e) :
    e.isMissing = true ∧ ¬Raised lib disk env config e ↔
      ∃ p ∈ config, disk.exists? p = false := by
  constructor
  · rintro ⟨hmissing, hlib⟩
    rcases cause_of_load hread h with ⟨p, hp, hexists, -⟩ | h | h | h
    · exact ⟨p, hp, hexists⟩
    · cases e <;> cases h <;> cases hmissing
    · exact absurd h hlib
    · exact absurd (.inl hmissing) h.not_isForeseen
  · rintro ⟨p, rfl, hexists⟩
    rw [load, loadFile_of_missing hexists] at h
    cases h
    refine ⟨rfl, fun hraised ↦ ?_⟩
    have hthere : disk.exists? p = true := by
      cases hraised with
      | text hs _ => exact hs.1
      | file ho _ =>
        obtain ⟨s, d, hs, -⟩ := ho
        exact hs.1
    rw [hexists] at hthere
    cases hthere

end

end Config

end DiagnosticFeed
