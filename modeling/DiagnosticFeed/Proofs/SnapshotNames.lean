import DiagnosticFeed.Json.Reader
import DiagnosticFeed.Proofs.Paths
import Mathlib.Data.List.TakeWhile
import Mathlib.Data.Nat.Digits.Defs

/-!
# Snapshots have different paths

The name of a snapshot holds a token, between the last dash and the suffix. So the token can be read
off the name, whatever the stem is, and off the normal form of the path, whatever directory that is
in: two snapshots of one run never have the same normal form.

A name is one component of a path and no climb, so that a snapshot lies in the scratch directory and
nowhere else, whatever the name of its document is.
-/

namespace DiagnosticFeed

/-! ## Tokens -/

namespace Text

/-- The number that hexadecimal digits spell. -/
def hexNumber (ds : List Char) : Nat :=
  ds.foldl (fun n c ↦ 16 * n + (Json.hexValue? c).getD 0) 0

theorem hexNumber_toDigits (n : Nat) : hexNumber (Nat.toDigits 16 n) = n := by
  induction n using Nat.strongRecOn with
  | ind n ih =>
    rw [Nat.toDigits_eq_if (by decide)]
    split
    · next hsmall =>
      rw [hexNumber, List.foldl_cons, Json.hexValue?_digitChar n hsmall]
      simp
    · next hlarge =>
      have hrest := ih (n / 16) (by omega)
      rw [hexNumber] at hrest ⊢
      rw [List.foldl_append, hrest, List.foldl_cons,
        Json.hexValue?_digitChar (n % 16) (Nat.mod_lt n (by decide))]
      exact Nat.div_add_mod n 16

theorem hexNumber_hexDigits (width n : Nat) : hexNumber (hexDigits width n) = n := by
  have hzeros (k : Nat) : hexNumber (List.replicate k '0') = 0 := by
    induction k with
    | zero => rfl
    | succ k ih => exact ih
  have hdigits := hexNumber_toDigits n
  have hfront := hzeros (width - (Nat.toDigits 16 n).length)
  rw [hexNumber] at hdigits hfront ⊢
  rw [hexDigits]
  rw [List.foldl_append, hfront, hdigits]

theorem dash_notMem_toDigits (n : Nat) : '-' ∉ Nat.toDigits 16 n := by
  induction n using Nat.strongRecOn with
  | ind n ih =>
    rw [Nat.toDigits_eq_if (by decide)]
    split
    · simp
    · next hlarge => simpa using ih (n / 16) (by omega)

theorem dash_notMem_hexDigits (width n : Nat) : '-' ∉ hexDigits width n := by
  rw [hexDigits, List.mem_append, not_or]
  exact ⟨fun h ↦ absurd (List.eq_of_mem_replicate h) (by decide), dash_notMem_toDigits n⟩

end Text

/-! ## Names -/

namespace FilePath

/-- A suffix is nothing, or a dot with no other dot behind it. -/
theorem cutName_suffix (name : List Char) :
    (cutName name).2 = [] ∨ ∃ tail, (cutName name).2 = '.' :: tail ∧ '.' ∉ tail := by
  rw [cutName]
  split
  · exact .inl rfl
  · refine .inr ⟨_, rfl, ?_⟩
    intro hmem
    have hdot := List.mem_takeWhile_imp (List.mem_reverse.mp hmem)
    simp at hdot

end FilePath

namespace Snapshot

/-- A text up to the last time that a character stands in it. -/
theorem dropWhile_reverse_ne {c : Char} {tail : List Char} (h : c ∉ tail) (before : List Char) :
    (before ++ c :: tail).reverse.dropWhile (· ≠ c) = c :: before.reverse := by
  have htail : ∀ x ∈ tail.reverse, decide (x ≠ c) = true := by
    intro x hx
    rw [decide_eq_true_eq]
    rintro rfl
    exact h (List.mem_reverse.mp hx)
  rw [List.reverse_append, List.reverse_cons, List.append_assoc,
    List.dropWhile_append_of_pos htail]
  simp

/-- What stands before the last such place is told by the whole. -/
theorem append_cons_inj {c : Char} {before before' tail tail' : List Char} (ht : c ∉ tail)
    (ht' : c ∉ tail') (h : before ++ c :: tail = before' ++ c :: tail') :
    before = before' ∧ tail = tail' := by
  have hcut := dropWhile_reverse_ne ht before
  rw [h, dropWhile_reverse_ne ht'] at hcut
  obtain rfl : before = before' := List.reverse_inj.mp (List.cons.inj hcut).2.symm
  exact ⟨rfl, (List.cons.inj (List.append_cancel_left h)).2⟩

theorem exists_suffix (path : Option FilePath) :
    ∃ tail, (orElse ((path.map FilePath.suffix).getD "") defaultSuffix).toList = '.' :: tail ∧
      '.' ∉ tail := by
  have hdefault : ∃ tail, defaultSuffix.toList = '.' :: tail ∧ '.' ∉ tail :=
    ⟨['s', 'g'], by decide, by decide⟩
  rw [orElse]
  split
  · exact hdefault
  · next hne =>
    cases path with
    | none => exact absurd rfl hne
    | some p =>
      change ∃ tail, (FilePath.suffix p).toList = _ ∧ _
      rw [FilePath.suffix, String.toList_ofList]
      rcases FilePath.cutName_suffix p.name.toList with hnone | hsome
      · refine absurd ?_ hne
        change (FilePath.suffix p).isEmpty = true
        rw [FilePath.suffix, hnone]
        rfl
      · exact hsome

/-- **The name of a snapshot tells its token.** -/
theorem token_eq_of_fileName {path path' : Option FilePath} {clock clock' : Int}
    {token token' : Nat} (h : fileName path clock token = fileName path' clock' token') :
    token = token' := by
  obtain ⟨tail, hsuffix, htail⟩ := exists_suffix path
  obtain ⟨tail', hsuffix', htail'⟩ := exists_suffix path'
  have hchars := congrArg String.toList h
  rw [fileName, fileName] at hchars
  simp only [String.toList_append, String.toList_ofList, hsuffix, hsuffix'] at hchars
  -- The suffix comes off at the last dot, and the token at the last dash before it.
  obtain ⟨hfront, -⟩ := append_cons_inj htail htail' hchars
  have hdash : "-".toList = ['-'] := rfl
  simp only [hdash, List.append_assoc _ ['-'], List.singleton_append] at hfront
  obtain ⟨-, hdigits⟩ := append_cons_inj (Text.dash_notMem_hexDigits 8 token)
    (Text.dash_notMem_hexDigits 8 token') hfront
  rw [← Text.hexNumber_hexDigits 8 token, hdigits, Text.hexNumber_hexDigits]

end Snapshot

/-! ## Paths -/

namespace FilePath

/-- A file whose name is no climb keeps its name when its path is resolved. -/
theorem resolve_child {name : String} (hname : name ≠ "..") (cwd dir : FilePath) :
    resolve cwd (dir.child name) = (resolve cwd dir).child name := by
  have hclimb (before parts : List String) :
      climb before (parts ++ [name]) = climb before parts ++ [name] := by
    induction parts generalizing before with
    | nil =>
      rw [List.nil_append, climb, climb_of_notMem]
      rw [List.mem_singleton]
      exact Ne.symm hname
    | cons p ps ih =>
      rw [List.cons_append, climb, climb]
      split <;> exact ih _
  rw [resolve, resolve, child]
  dsimp only
  split
  · rw [← List.append_assoc, hclimb]
    rfl
  · rw [hclimb]
    rfl

end FilePath

namespace Snapshot

theorem fileName_ne_climb (path : Option FilePath) (clock : Int) (token : Nat) :
    fileName path clock token ≠ ".." := by
  intro hclimb
  have hdash := dash_mem_fileName path clock token
  rw [hclimb] at hdash
  revert hdash
  decide

/-- **Two snapshots with the same normal form have the same token**, wherever they are and whichever
documents they are of. -/
theorem token_eq_of_normalText? {cwd cwd' : FilePath} {s s' : Scratch}
    {path path' : Option FilePath} {text : String} (hcwd : cwd.WellFormed)
    (hcwd' : cwd'.WellFormed) (hs : s.directory.WellFormed) (hs' : s'.directory.WellFormed)
    (hpath : ∀ p, path = some p → p.WellFormed) (hpath' : ∀ p, path' = some p → p.WellFormed)
    (h : FilePath.normalText? cwd (nextPath s path).toText = some text)
    (h' : FilePath.normalText? cwd' (nextPath s' path').toText = some text) :
    s.issued = s'.issued := by
  have hformed := wellFormed_nextPath hs hpath
  have hformed' := wellFormed_nextPath hs' hpath'
  rw [hformed.normalText?_toText cwd, Option.some_inj] at h
  rw [hformed'.normalText?_toText cwd', Option.some_inj] at h'
  -- The normal forms lead back to the resolved paths, which end with the names.
  have hresolved : FilePath.resolve cwd (nextPath s path) =
      FilePath.resolve cwd' (nextPath s' path') := by
    rw [← (hcwd.resolve hformed).ofString_toText, h, ← h',
      (hcwd'.resolve hformed').ofString_toText]
  rw [nextPath, nextPath, FilePath.resolve_child (fileName_ne_climb _ _ _),
    FilePath.resolve_child (fileName_ne_climb _ _ _)] at hresolved
  have hlast := congrArg (fun p ↦ p.parts.getLast?) hresolved
  simp only [FilePath.child, List.getLast?_concat, Option.some_inj] at hlast
  have htoken := token_eq_of_fileName hlast
  omega

end Snapshot

/-! ## Confinement -/

namespace FilePath

/-- A file of this name lies in the directory that it is put into. -/
structure Confined (name : String) : Prop where
  noSlash : '/' ∉ name.toList
  ne_dot : name ≠ "."
  ne_climb : name ≠ ".."
  /-- Read as a path, the name is one component. -/
  single : ofString name = ⟨.relative, [name]⟩
  /-- The text of the path leads to a file of the directory. -/
  parent_ofString : ∀ dir : FilePath, dir.WellFormed →
    (ofString (dir.child name).toText).parent = dir
  /-- The file that the path stands for lies in what the directory stands for. -/
  parent_resolve : ∀ cwd dir : FilePath,
    (resolve cwd (dir.child name)).parent = resolve cwd dir

theorem parent_child (dir : FilePath) (name : String) : (dir.child name).parent = dir := by
  rw [parent, child, List.dropLast_concat]

theorem IsComponent.confined {name : String} (h : IsComponent name) (hclimb : name ≠ "..") :
    Confined name where
  noSlash := h.noSlash
  ne_dot := h.ne_dot
  ne_climb := hclimb
  single := by
    have hname : (⟨.relative, [name]⟩ : FilePath).WellFormed := by
      intro part hpart
      rw [List.mem_singleton.mp hpart]
      exact h
    have htext : (⟨.relative, [name]⟩ : FilePath).toText = name := by
      rw [toText, if_neg (by simp), String.intercalate_singleton]
      exact String.empty_append
    rw [← hname.ofString_toText, htext]
  parent_ofString := by
    intro dir hdir
    rw [(hdir.child h).ofString_toText, parent_child]
  parent_resolve := by
    intro cwd dir
    rw [resolve_child hclimb, parent_child]

end FilePath

namespace Snapshot

/-- **Snapshots are confined and told apart.** Whatever path the document has, if any, and whatever
the time is: the name of its snapshot is one component, so the snapshot lies in the scratch
directory, and no snapshot with another token has the same name. -/
theorem names_confined_and_apart {path : Option FilePath}
    (hpath : ∀ p, path = some p → p.WellFormed) (clock : Int) (token : Nat) :
    FilePath.Confined (fileName path clock token) ∧
      ∀ path' clock' token', token' ≠ token →
        fileName path' clock' token' ≠ fileName path clock token := by
  refine ⟨(isComponent_fileName hpath clock token).confined (fileName_ne_climb path clock token),
    ?_⟩
  intro path' clock' token' htoken hname
  exact htoken (token_eq_of_fileName hname)

/-- A path with climbs, whose file name looks like that of a snapshot. -/
def lookalikeSample : FilePath :=
  ⟨.relative, ["..", "..", "-a.b--5-00000002.sg"]⟩

theorem names_of_lookalike :
    lookalikeSample.WellFormed ∧
      fileName (some lookalikeSample) (-5) 0xDEADBEEF = "-a.b--5-00000002--5-deadbeef.sg" ∧
      FilePath.Confined (fileName (some lookalikeSample) (-5) 0xDEADBEEF) ∧
      fileName none (-5) 2 ≠ fileName (some lookalikeSample) (-5) 0xDEADBEEF := by
  have hpath : ∀ p, some lookalikeSample = some p → p.WellFormed := by
    rintro p ⟨⟩
    decide
  obtain ⟨hconfined, hapart⟩ := names_confined_and_apart hpath (-5) 0xDEADBEEF
  exact ⟨by decide, by decide +kernel, hconfined, hapart none (-5) 2 (by decide)⟩

end Snapshot

end DiagnosticFeed
