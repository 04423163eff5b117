import DiagnosticFeed.Snapshot
import Mathlib.Logic.Function.Iterate

/-!
# Paths and their texts

The analyzer is told where a file is by a text, and the text has to lead back to the file. It does
for the paths that a text can spell: their components are not empty, no dots, and hold no slash.
All paths that are read from texts are such, and so are those built from them, by resolving or by
adding the name of a snapshot.

A path that is resolved already stands for the same file in every working directory.
-/

namespace DiagnosticFeed

namespace FilePath

/-! ## Texts that are not empty -/

theorem intercalate_ne_empty {sep : String} {parts : List String} {part : String} (hsep : sep ≠ "")
    (hmem : part ∈ parts) (hpart : part ≠ "") : sep.intercalate parts ≠ "" := by
  match parts, hmem with
  | [only], hmem =>
    rw [List.mem_singleton] at hmem
    rw [String.intercalate_singleton, ← hmem]
    exact hpart
  | first :: second :: rest, _ =>
    rw [String.intercalate_cons_cons]
    intro h
    exact hsep (String.append_eq_empty_iff.mp (String.append_eq_empty_iff.mp h).1).2

theorem toText_ne_empty_of_mem {p : FilePath} {part : String} (hmem : part ∈ p.parts)
    (hpart : part ≠ "") : p.toText ≠ "" := by
  rw [toText]
  split
  · decide
  · intro h
    exact intercalate_ne_empty (by decide) hmem hpart (String.append_eq_empty_iff.mp h).2

/-- No component is empty. -/
def Proper (p : FilePath) : Prop :=
  "" ∉ p.parts

theorem Proper.toText_ne_empty {p : FilePath} (h : p.Proper) : p.toText ≠ "" := by
  cases hparts : p.parts with
  | nil =>
    rw [toText, hparts]
    cases p.anchor <;> decide
  | cons part parts =>
    have hmem : part ∈ p.parts := by simp [hparts]
    exact toText_ne_empty_of_mem hmem (fun hpart ↦ h (hpart ▸ hmem))

/-! ## Resolving -/

theorem mem_of_mem_climb {part : String} {before parts : List String}
    (h : part ∈ climb before parts) : part ∈ before ∨ part ∈ parts := by
  induction parts generalizing before with
  | nil => exact Or.inl (List.mem_reverse.mp h)
  | cons p ps ih =>
    rw [climb] at h
    split at h
    · exact (ih h).imp List.mem_of_mem_tail (List.mem_cons_of_mem p)
    · rcases ih h with hbefore | hps
      · rcases List.mem_cons.mp hbefore with rfl | hbefore
        · exact Or.inr (List.mem_cons_self ..)
        · exact Or.inl hbefore
      · exact Or.inr (List.mem_cons_of_mem p hps)

theorem mem_of_mem_resolve {cwd p : FilePath} {part : String} (h : part ∈ (resolve cwd p).parts) :
    part ∈ cwd.parts ∨ part ∈ p.parts := by
  rw [resolve] at h
  split at h
  · rcases mem_of_mem_climb h with hnone | hparts
    · cases hnone
    · exact List.mem_append.mp hparts
  · rcases mem_of_mem_climb h with hnone | hparts
    · cases hnone
    · exact Or.inr hparts

theorem climb_of_notMem {before parts : List String} (h : ".." ∉ parts) :
    climb before parts = before.reverse ++ parts := by
  induction parts generalizing before with
  | nil => rw [climb, List.append_nil]
  | cons p ps ih =>
    rw [List.mem_cons, not_or] at h
    rw [climb, if_neg (Ne.symm h.1), ih h.2, List.reverse_cons, List.append_assoc,
      List.singleton_append]

theorem notMem_climb {before : List String} (h : ".." ∉ before) (parts : List String) :
    ".." ∉ climb before parts := by
  induction parts generalizing before with
  | nil => rwa [climb, List.mem_reverse]
  | cons p ps ih =>
    rw [climb]
    split
    · exact ih (fun hmem ↦ h (List.mem_of_mem_tail hmem))
    · next hp =>
      refine ih ?_
      rw [List.mem_cons, not_or]
      exact ⟨Ne.symm hp, h⟩

theorem Proper.canonical {cwd p : FilePath} (hcwd : cwd.Proper) (hp : p.Proper) :
    (canonical cwd p).Proper := by
  intro hempty
  exact (mem_of_mem_resolve hempty).elim hcwd hp

/-! ## Paths that a text can spell -/

/-- A component that a text can spell. -/
structure IsComponent (part : String) : Prop where
  ne_empty : part ≠ ""
  ne_dot : part ≠ "."
  noSlash : '/' ∉ part.toList

theorem IsComponent.toList_ne_nil {part : String} (h : IsComponent part) : part.toList ≠ [] :=
  fun hnil ↦ h.ne_empty (String.toList_inj.mp hnil)

/-- A path that a text can spell. -/
def WellFormed (p : FilePath) : Prop :=
  ∀ part ∈ p.parts, IsComponent part

instance (part : String) : Decidable (IsComponent part) :=
  decidable_of_iff (part ≠ "" ∧ part ≠ "." ∧ '/' ∉ part.toList)
    ⟨fun ⟨hempty, hdot, hslash⟩ ↦ ⟨hempty, hdot, hslash⟩, fun h ↦ ⟨h.ne_empty, h.ne_dot, h.noSlash⟩⟩

instance (p : FilePath) : Decidable p.WellFormed :=
  inferInstanceAs (Decidable (∀ part ∈ p.parts, IsComponent part))

theorem WellFormed.proper {p : FilePath} (h : p.WellFormed) : p.Proper :=
  fun hempty ↦ (h "" hempty).ne_empty rfl

theorem wellFormed_ofString (text : String) : (ofString text).WellFormed := by
  intro part hpart
  obtain ⟨cs, hcs, rfl⟩ := List.mem_map.mp hpart
  obtain ⟨hpiece, hkept⟩ := List.mem_filter.mp hcs
  simp only [Bool.and_eq_true, decide_eq_true_eq] at hkept
  refine ⟨?_, ?_, ?_⟩
  · rw [ne_eq, String.ofList_eq_empty_iff]
    exact hkept.1
  · intro hdot
    exact hkept.2 (by simpa using congrArg String.toList hdot)
  · rw [String.toList_ofList]
    exact Text.notMem_of_mem_splitOn hpiece

theorem proper_ofString (text : String) : (ofString text).Proper :=
  (wellFormed_ofString text).proper

theorem WellFormed.canonical {cwd p : FilePath} (hcwd : cwd.WellFormed) (hp : p.WellFormed) :
    (canonical cwd p).WellFormed :=
  fun part hpart ↦ (mem_of_mem_resolve hpart).elim (hcwd part) (hp part)

theorem WellFormed.child {dir : FilePath} {name : String} (hdir : dir.WellFormed)
    (hname : IsComponent name) : (dir.child name).WellFormed := by
  intro part hpart
  rcases List.mem_append.mp hpart with hdirPart | hlast
  · exact hdir part hdirPart
  · rw [List.mem_singleton.mp hlast]
    exact hname

theorem toList_intercalate_slash (parts : List String) :
    ("/".intercalate parts).toList = Text.joinWith '/' (parts.map String.toList) :=
  Text.toList_intercalate rfl parts

theorem WellFormed.splitOn_intercalate {p : FilePath} (h : p.WellFormed) (hne : p.parts ≠ []) :
    Text.splitOn '/' ("/".intercalate p.parts).toList = p.parts.map String.toList := by
  rw [toList_intercalate_slash]
  refine Text.splitOn_joinWith (mt List.map_eq_nil_iff.mp hne) ?_
  intro cs hcs
  obtain ⟨part, hpart, rfl⟩ := List.mem_map.mp hcs
  exact (h part hpart).noSlash

/-- The components of a path's text, slashes at its front aside. -/
theorem WellFormed.partsOf_intercalate {p : FilePath} (h : p.WellFormed) :
    partsOf ("/".intercalate p.parts).toList = p.parts := by
  by_cases hne : p.parts = []
  · rw [hne]
    decide
  · have hkept : ∀ cs ∈ p.parts.map String.toList, (cs ≠ [] && cs ≠ ['.']) = true := by
      intro cs hcs
      obtain ⟨part, hpart, rfl⟩ := List.mem_map.mp hcs
      have hcomponent := h part hpart
      simp only [Bool.and_eq_true, decide_eq_true_eq]
      exact ⟨hcomponent.toList_ne_nil, fun hdot ↦ hcomponent.ne_dot (String.toList_inj.mp hdot)⟩
    rw [partsOf, h.splitOn_intercalate hne, List.filter_eq_self.mpr hkept, List.map_map]
    simp

theorem WellFormed.head?_intercalate {p : FilePath} (h : p.WellFormed) :
    ("/".intercalate p.parts).toList.head? ≠ some '/' := by
  rw [toList_intercalate_slash]
  cases hparts : p.parts with
  | nil => simp [Text.joinWith]
  | cons part parts =>
    have hcomponent := h part (by simp [hparts])
    cases hcs : part.toList with
    | nil => exact absurd hcs hcomponent.toList_ne_nil
    | cons c cs =>
      have hc : c ≠ '/' := by
        rintro rfl
        exact hcomponent.noSlash (hcs ▸ List.mem_cons_self)
      cases parts <;> simpa [Text.joinWith, hcs] using hc

/-- Slashes in front of a text that has none there are its anchor. -/
theorem anchorOf_append {cs : List Char} (h : cs.head? ≠ some '/') (anchor : Anchor) :
    anchorOf ((anchorText anchor).toList ++ cs) = anchor := by
  cases cs with
  | nil => cases anchor <;> rfl
  | cons c cs =>
    have hc : c ≠ '/' := fun hc ↦ h (congrArg some hc)
    cases anchor <;> simp [anchorText, anchorOf, hc]

theorem partsOf_cons_slash (cs : List Char) : partsOf ('/' :: cs) = partsOf cs := by
  rw [partsOf, partsOf, Text.splitOn, if_pos rfl, List.filter_cons]
  rfl

theorem partsOf_append (anchor : Anchor) (cs : List Char) :
    partsOf ((anchorText anchor).toList ++ cs) = partsOf cs := by
  cases anchor with
  | relative => rfl
  | root => exact partsOf_cons_slash cs
  | doubleRoot => exact (partsOf_cons_slash _).trans (partsOf_cons_slash cs)

/-- **The text of a path leads back to the path**, if a text can spell it. -/
theorem WellFormed.ofString_toText {p : FilePath} (h : p.WellFormed) : ofString p.toText = p := by
  rw [toText]
  split
  · next hdot =>
    obtain ⟨anchor, parts⟩ := p
    obtain ⟨rfl, hparts⟩ := by simpa using hdot
    rw [hparts]
    decide
  · rw [ofString, String.toList_append, anchorOf_append h.head?_intercalate, partsOf_append,
      h.partsOf_intercalate]

/-- A path that stands for the same file in every working directory. -/
structure Resolved (p : FilePath) : Prop where
  absolute : p.anchor ≠ .relative
  noClimb : ".." ∉ p.parts
  wellFormed : p.WellFormed

instance (p : FilePath) : Decidable p.Resolved :=
  decidable_of_iff (p.anchor ≠ .relative ∧ ".." ∉ p.parts ∧ p.WellFormed)
    ⟨fun ⟨habsolute, hclimb, hp⟩ ↦ ⟨habsolute, hclimb, hp⟩,
      fun h ↦ ⟨h.absolute, h.noClimb, h.wellFormed⟩⟩

theorem Resolved.resolve {p : FilePath} (h : p.Resolved) (cwd : FilePath) : resolve cwd p = p := by
  rw [FilePath.resolve, if_neg h.absolute, climb_of_notMem h.noClimb]
  rfl

theorem notMem_resolve (cwd p : FilePath) : ".." ∉ (resolve cwd p).parts := by
  rw [FilePath.resolve]
  split <;> exact notMem_climb List.not_mem_nil _

/-- A path that starts at the root, in which nothing is left to resolve. -/
structure AtRoot (p : FilePath) : Prop extends Resolved p where
  anchor : p.anchor = .root

theorem atRoot_canonical {cwd p : FilePath} (hcwd : cwd.WellFormed) (hp : p.WellFormed) :
    (canonical cwd p).AtRoot :=
  ⟨⟨nofun, notMem_resolve cwd p, hcwd.canonical hp⟩, rfl⟩

theorem AtRoot.canonical {p : FilePath} (h : p.AtRoot) (cwd : FilePath) :
    canonical cwd p = p := by
  rw [FilePath.canonical, h.resolve, ← h.anchor]

theorem canonical_canonical (cwd cwd' p : FilePath) :
    canonical cwd' (canonical cwd p) = canonical cwd p := by
  have hroot : Anchor.root ≠ .relative := by decide
  rw [canonical, canonical, FilePath.resolve, if_neg hroot,
    climb_of_notMem (notMem_resolve cwd p)]
  rfl

theorem WellFormed.resolve {cwd p : FilePath} (hcwd : cwd.WellFormed) (hp : p.WellFormed) :
    (resolve cwd p).WellFormed :=
  fun part hpart ↦ (mem_of_mem_resolve hpart).elim (hcwd part) (hp part)

/-- What is read in a working directory that is absolute, even one with climbs, is resolved. -/
theorem resolved_resolve {cwd p : FilePath} (habsolute : cwd.anchor ≠ .relative)
    (hcwd : cwd.WellFormed) (hp : p.WellFormed) : (FilePath.resolve cwd p).Resolved := by
  refine ⟨?_, notMem_resolve cwd p, hcwd.resolve hp⟩
  rw [FilePath.resolve]
  split
  · exact habsolute
  · next habsolute => exact habsolute

theorem Resolved.resolved_resolve {cwd p : FilePath} (hcwd : cwd.Resolved) (hp : p.WellFormed) :
    (FilePath.resolve cwd p).Resolved :=
  FilePath.resolved_resolve hcwd.absolute hcwd.wellFormed hp

/-! ## Normal forms -/

theorem normalText?_of_ne (cwd : FilePath) {text : String} (h : text ≠ "") :
    normalText? cwd text = some (FilePath.resolve cwd (.ofString text)).toText :=
  if_neg (by simpa using h)

theorem WellFormed.normalText?_toText {p : FilePath} (h : p.WellFormed) (cwd : FilePath) :
    normalText? cwd p.toText = some (FilePath.resolve cwd p).toText := by
  rw [normalText?_of_ne cwd h.proper.toText_ne_empty, h.ofString_toText]

/-! ## Where relative paths lead

A relative path first goes up some directories and then down again, whatever it visits on the way.
So in two working directories it stands for the same file if and only if these have the same
directory that far up. -/

/-- How far up some components lead, and down to which ones from there. Those that were gone into so
far are `into`, last first. -/
def excursion (into : List String) (up : Nat) : List String → Nat × List String
  | [] => (up, into.reverse)
  | p :: ps =>
    if p = ".." then excursion into.tail (if into.isEmpty then up + 1 else up) ps
    else excursion (p :: into) up ps

/-- How many directories a relative path goes up. -/
def climbs (p : FilePath) : Nat :=
  (excursion [] 0 p.parts).1

theorem climb_eq_excursion (before into : List String) (up : Nat) (parts : List String) :
    climb (into ++ before.drop up) parts =
      (before.drop (excursion into up parts).1).reverse ++ (excursion into up parts).2 := by
  induction parts generalizing into up with
  | nil => rw [climb, excursion, List.reverse_append]
  | cons p ps ih =>
    rw [climb, excursion]
    split
    · rw [← ih]
      cases into with
      | nil => exact congrArg (climb · ps) (List.tail_drop ..)
      | cons q into => rfl
    · rw [← List.cons_append, ih]

/-- Directories that do not climb are gone into. -/
theorem climb_append {xs : List String} (h : ".." ∉ xs) (before ys : List String) :
    climb before (xs ++ ys) = climb (xs.reverse ++ before) ys := by
  induction xs generalizing before with
  | nil => rfl
  | cons x xs ih =>
    rw [List.mem_cons, not_or] at h
    rw [List.cons_append, climb, if_neg (Ne.symm h.1), ih h.2, List.reverse_cons,
      List.append_assoc, List.singleton_append]

theorem iterate_parent (p : FilePath) (n : Nat) :
    parent^[n] p = ⟨p.anchor, (p.parts.reverse.drop n).reverse⟩ := by
  induction n with
  | zero => rw [List.drop_zero, List.reverse_reverse, Function.iterate_zero_apply]
  | succ n ih =>
    rw [Function.iterate_succ_apply', ih, parent, List.dropLast_reverse, List.tail_drop]

/-- **A relative path goes up, and then down.** -/
theorem resolve_relative {cwd p : FilePath} (hcwd : ".." ∉ cwd.parts) (hp : p.anchor = .relative) :
    resolve cwd p =
      ⟨cwd.anchor, (parent^[p.climbs] cwd).parts ++ (excursion [] 0 p.parts).2⟩ := by
  have hclimb := climb_eq_excursion cwd.parts.reverse [] 0 p.parts
  rw [List.nil_append, List.drop_zero] at hclimb
  rw [resolve, if_pos hp, climb_append hcwd, List.append_nil, hclimb, iterate_parent, climbs]

/-- When a path stands for the same file in two working directories. -/
theorem resolve_eq_iff {cwd cwd' p : FilePath} (hcwd : ".." ∉ cwd.parts)
    (hcwd' : ".." ∉ cwd'.parts) :
    resolve cwd p = resolve cwd' p ↔
      p.anchor ≠ .relative ∨ parent^[p.climbs] cwd = parent^[p.climbs] cwd' := by
  by_cases hp : p.anchor = .relative
  · rw [resolve_relative hcwd hp, resolve_relative hcwd' hp, FilePath.mk.injEq,
      List.append_cancel_right_eq, iterate_parent, iterate_parent, FilePath.mk.injEq]
    simp [hp]
  · simp [resolve, hp]

/-- When a text names the same file in two working directories. -/
theorem normalText?_eq_iff {cwd cwd' : FilePath} {text : String} (hcwd : cwd.Resolved)
    (hcwd' : cwd'.Resolved) (htext : text.isEmpty = false) :
    normalText? cwd text = normalText? cwd' text ↔
      (ofString text).anchor ≠ .relative ∨
        parent^[(ofString text).climbs] cwd = parent^[(ofString text).climbs] cwd' := by
  have hp := wellFormed_ofString text
  rw [normalText?, normalText?, htext, if_neg Bool.false_ne_true, if_neg Bool.false_ne_true,
    Option.some_inj, ← resolve_eq_iff hcwd.noClimb hcwd'.noClimb]
  constructor
  · intro htexts
    rw [← (hcwd.wellFormed.resolve hp).ofString_toText, htexts,
      (hcwd'.wellFormed.resolve hp).ofString_toText]
  · exact congrArg toText

end FilePath

/-! ## Snapshots -/

namespace Snapshot

theorem slash_notMem_toDigits {base : Nat} (hbase : 1 < base) (n : Nat) :
    '/' ∉ Nat.toDigits base n := by
  have hdigit : ∀ d, Nat.digitChar d ≠ '/' := by
    intro d
    grind [Nat.digitChar]
  induction n using Nat.strongRecOn with
  | ind n ih =>
    rw [Nat.toDigits_eq_if hbase]
    split
    · rw [List.mem_singleton]
      exact Ne.symm (hdigit n)
    · next hle =>
      rw [List.mem_append, List.mem_singleton, not_or]
      exact ⟨ih _ (Nat.div_lt_self (by omega) hbase), Ne.symm (hdigit _)⟩

theorem slash_notMem_repr (n : Int) : '/' ∉ n.repr.toList := by
  have hdigits (m : Nat) : '/' ∉ m.repr.toList := by
    rw [Nat.toList_repr]
    exact slash_notMem_toDigits (by decide) m
  cases n with
  | ofNat m => exact hdigits m
  | negSucc m =>
    rw [Int.repr, String.toList_append, List.mem_append, not_or]
    exact ⟨by decide, hdigits m.succ⟩

/-- Cutting a file name adds no character but the dot of the suffix. -/
theorem slash_notMem_cutName {name : List Char} (h : '/' ∉ name) :
    '/' ∉ (FilePath.cutName name).1 ∧ '/' ∉ (FilePath.cutName name).2 := by
  rw [FilePath.cutName]
  split
  · exact ⟨h, List.not_mem_nil⟩
  · refine ⟨fun hmem ↦ h (List.mem_of_mem_take hmem), ?_⟩
    rw [List.mem_cons, not_or, List.mem_reverse]
    refine ⟨by decide, fun hmem ↦ h ?_⟩
    exact List.mem_reverse.mp ((List.takeWhile_subset _) hmem)

theorem slash_notMem_orElse {s default : String} (h : '/' ∉ s.toList) (hd : '/' ∉ default.toList) :
    '/' ∉ (orElse s default).toList := by
  rw [orElse]
  split
  · exact hd
  · exact h

theorem slash_notMem_name {p : FilePath} (h : p.WellFormed) : '/' ∉ p.name.toList := by
  rw [FilePath.name]
  cases hlast : p.parts.getLast? with
  | none => decide
  | some part => exact (h part (List.mem_of_getLast? hlast)).noSlash

theorem dash_mem_fileName (path : Option FilePath) (clock : Int) (token : Nat) :
    '-' ∈ (fileName path clock token).toList := by
  simp [fileName]

/-- The name of a snapshot is a component of a path, if its document has a path that a text can
spell, or none. -/
theorem isComponent_fileName {path : Option FilePath} (h : ∀ p, path = some p → p.WellFormed)
    (clock : Int) (token : Nat) : FilePath.IsComponent (fileName path clock token) := by
  have hdash := dash_mem_fileName path clock token
  have hparts : '/' ∉ ((path.map FilePath.stem).getD "").toList ∧
      '/' ∉ ((path.map FilePath.suffix).getD "").toList := by
    cases path with
    | none => decide
    | some p =>
      have hcut := slash_notMem_cutName (slash_notMem_name (h p rfl))
      simpa [FilePath.stem, FilePath.suffix] using hcut
  refine ⟨?_, ?_, ?_⟩
  · intro hempty
    rw [hempty] at hdash
    cases hdash
  · intro hdot
    rw [hdot] at hdash
    exact absurd hdash (by decide)
  · have hclock := slash_notMem_repr clock
    have htoken := slash_notMem_toDigits (show 1 < 16 by decide) token
    have hstem := slash_notMem_orElse hparts.1 (show '/' ∉ defaultStem.toList by decide)
    have hsuffix := slash_notMem_orElse hparts.2 (show '/' ∉ defaultSuffix.toList by decide)
    simp [fileName, Text.hexDigits, *]

theorem wellFormed_nextPath {s : Scratch} {path : Option FilePath} (hs : s.directory.WellFormed)
    (h : ∀ p, path = some p → p.WellFormed) : (nextPath s path).WellFormed :=
  hs.child (isComponent_fileName h s.clock (s.issued + 1))

theorem nextPath_toText_ne_empty (s : Scratch) (path : Option FilePath) :
    (nextPath s path).toText ≠ "" := by
  refine FilePath.toText_ne_empty_of_mem (List.mem_append_right _ (List.mem_singleton.mpr rfl)) ?_
  intro hempty
  have hdash := dash_mem_fileName path s.clock (s.issued + 1)
  rw [hempty] at hdash
  cases hdash

end Snapshot

end DiagnosticFeed
