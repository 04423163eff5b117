import DiagnosticFeed.Proofs.NormalForm
import DiagnosticFeed.Workspace
import Mathlib.Data.List.DropRight
import Mathlib.Data.List.MinMax

/-!
# The folder of a document

Folders and documents are compared as texts: a document lies in a folder if the folder's text, with
one slash at its end, starts the document's, and of several such folders the one with the longest
text is taken. Between resolved paths this is a comparison of components. A folder holds what its
components are a prefix of, and as all folders that hold one document are prefixes of one list,
the longest text has the most components, and no two of them have equally many.
-/

namespace DiagnosticFeed

namespace FilePath

/-! ## Texts with a slash before each component -/

/-- Components with a slash before each. -/
def trail (parts : List String) : List Char :=
  parts.flatMap fun part ↦ '/' :: part.toList

theorem trail_append (xs ys : List String) : trail (xs ++ ys) = trail xs ++ trail ys :=
  List.flatMap_append

theorem trail_concat (parts : List String) (last : String) :
    trail (parts ++ [last]) = trail parts ++ '/' :: last.toList := by
  rw [trail_append]
  exact congrArg (trail parts ++ ·) (List.append_nil _)

theorem cons_joinWith_slash {parts : List String} (h : parts ≠ []) :
    '/' :: Text.joinWith '/' (parts.map String.toList) = trail parts := by
  induction parts with
  | nil => exact absurd rfl h
  | cons p ps ih =>
    cases ps with
    | nil => simp [Text.joinWith, trail]
    | cons q qs =>
      rw [List.map_cons, List.map_cons, Text.joinWith, ← List.map_cons (f := String.toList),
        ih (List.cons_ne_nil q qs)]
      rfl

theorem AtRoot.toList_toText {p : FilePath} (h : p.AtRoot) (hne : p.parts ≠ []) :
    p.toText.toList = trail p.parts := by
  rw [toText, if_neg (by simp [h.absolute]), h.anchor, String.toList_append,
    toList_intercalate_slash]
  exact cons_joinWith_slash hne

theorem AtRoot.toText_of_nil {p : FilePath} (h : p.AtRoot) (hnil : p.parts = []) :
    p.toText = "/" := by
  rw [toText, if_neg (by simp [h.absolute]), h.anchor, hnil]
  rfl

theorem partsOf_trail {parts : List String} (h : ∀ part ∈ parts, IsComponent part) :
    partsOf (trail parts) = parts := by
  induction parts using List.reverseRecOn with
  | nil => rfl
  | append_singleton parts last ih =>
    have hlast : IsComponent last := h last (by simp)
    rw [trail_concat, partsOf_append_slash, ih fun part hpart ↦ h part (List.mem_append_left _ hpart),
      hlast.partsOf_toList]

theorem AtRoot.eq_of_parts {p q : FilePath} (hp : p.AtRoot) (hq : q.AtRoot)
    (h : p.parts = q.parts) : p = q := by
  obtain ⟨anchor, parts⟩ := p
  obtain ⟨anchor', parts'⟩ := q
  exact congrArg₂ FilePath.mk (hp.anchor.trans hq.anchor.symm) h

/-- Without the slashes at its end, a path's text is the components with a slash before each. -/
theorem AtRoot.stem_eq {p : FilePath} (h : p.AtRoot) :
    (p.toText.toList.reverse.dropWhile (· == '/')).reverse = trail p.parts := by
  change p.toText.toList.rdropWhile (· == '/') = _
  by_cases hnil : p.parts = []
  · rw [h.toText_of_nil hnil, hnil]
    decide
  · obtain ⟨parts, last, hparts⟩ := (List.eq_nil_or_concat p.parts).resolve_left hnil
    have hlast : IsComponent last := h.wellFormed last (by simp [hparts])
    obtain ⟨cs, c, hcs⟩ := (List.eq_nil_or_concat last.toList).resolve_left
      hlast.toList_ne_nil
    have hc : c ≠ '/' := by
      rintro rfl
      exact hlast.noSlash (by simp [hcs])
    rw [List.concat_eq_append] at hparts hcs
    rw [h.toList_toText hnil, hparts, trail_concat, hcs, ← List.cons_append, ← List.append_assoc,
      List.rdropWhile_concat_neg _ _ _ (by simpa using hc)]

/-! ## Texts of folders -/

/-- **A folder holds a path** if and only if its components are a prefix of those of the path. -/
theorem AtRoot.contains_iff {r p : FilePath} (hr : r.AtRoot) (hp : p.AtRoot) :
    Workspace.contains r.toText p.toText = true ↔ r.parts <+: p.parts := by
  rw [Workspace.contains, hr.stem_eq, Bool.or_eq_true, beq_iff_eq, Text.isSome_stripStart?_iff]
  constructor
  · rintro (hsame | ⟨rest, hrest⟩)
    · obtain rfl : p = r := by
        rw [← hp.wellFormed.ofString_toText, hsame, hr.wellFormed.ofString_toText]
      exact List.prefix_rfl
    · -- What the text of the path is read as starts with what the text of the folder is read as.
      have hparts : p.parts = partsOf p.toText.toList :=
        (congrArg FilePath.parts hp.wellFormed.ofString_toText).symm
      rw [hparts, ← hrest, List.append_assoc, List.singleton_append, partsOf_append_slash,
        partsOf_trail hr.wellFormed]
      exact List.prefix_append _ _
  · rintro ⟨rest, hrest⟩
    cases rest with
    | nil =>
      rw [List.append_nil] at hrest
      exact Or.inl (congrArg toText (hp.eq_of_parts hr hrest.symm))
    | cons next rest =>
      right
      rw [hp.toList_toText (by simp [← hrest]), ← hrest, trail_append]
      exact ⟨next.toList ++ trail rest, by simp [trail]⟩

theorem AtRoot.length_toText_lt {r r' : FilePath} (hr : r.AtRoot) (hr' : r'.AtRoot)
    (hbegins : r.parts <+: r'.parts) (hne : r.parts ≠ r'.parts) :
    r.toText.length < r'.toText.length := by
  obtain ⟨rest, hrest⟩ := hbegins
  cases rest with
  | nil => exact absurd (by simpa using hrest) hne
  | cons next rest =>
    have hnext : IsComponent next := hr'.wellFormed next (by simp [← hrest])
    have hlength : 0 < next.toList.length := List.length_pos_iff.mpr hnext.toList_ne_nil
    have htrail : (trail (next :: rest)).length = next.toList.length + 1 + (trail rest).length := by
      rw [trail, List.flatMap_cons, List.length_append, List.length_cons, trail]
    rw [← String.length_toList, ← String.length_toList, hr'.toList_toText (by simp [← hrest]),
      ← hrest, trail_append, List.length_append, htrail]
    by_cases hnil : r.parts = []
    · rw [hr.toText_of_nil hnil, hnil]
      change 1 < 0 + _
      omega
    · rw [hr.toList_toText hnil]
      omega

theorem AtRoot.of_resolve {cwd p : FilePath} (hcwd : cwd.WellFormed) (hp : p.WellFormed)
    (h : (resolve cwd p).anchor = .root) : (resolve cwd p).AtRoot :=
  ⟨⟨by rw [h]; decide, notMem_resolve cwd p, hcwd.resolve hp⟩, h⟩

end FilePath

namespace Workspace

open FilePath

/-! ## The deepest folder -/

/-- A folder that holds a path, with at least as many components as any other that does. -/
structure IsDeepest (folders : List FilePath) (p r : FilePath) : Prop where
  mem : r ∈ folders
  holds : r.parts <+: p.parts
  deepest : ∀ r' ∈ folders, r'.parts <+: p.parts → r'.parts.length ≤ r.parts.length

section

variable {cwd p r r' : FilePath} {folders folders' : List FilePath}

theorem IsDeepest.unique (hfolders : ∀ r ∈ folders, r.AtRoot) (h : IsDeepest folders p r)
    (h' : IsDeepest folders p r') : r = r' := by
  have hlength := Nat.le_antisymm (h'.deepest r h.mem h.holds) (h.deepest r' h'.mem h'.holds)
  have hbegins := List.prefix_of_prefix_length_le h.holds h'.holds (Nat.le_of_eq hlength)
  exact (hfolders r h.mem).eq_of_parts (hfolders r' h'.mem) (hbegins.eq_of_length hlength)

theorem IsDeepest.congr (hsame : ∀ r, r ∈ folders' ↔ r ∈ folders) :
    IsDeepest folders' p r ↔ IsDeepest folders p r := by
  constructor
  · rintro ⟨hmem, hholds, hdeepest⟩
    exact ⟨(hsame r).mp hmem, hholds, fun r' hr' ↦ hdeepest r' ((hsame r').mpr hr')⟩
  · rintro ⟨hmem, hholds, hdeepest⟩
    exact ⟨(hsame r).mpr hmem, hholds, fun r' hr' ↦ hdeepest r' ((hsame r').mp hr')⟩

/-- The folder that is taken is the first of longest text among those that hold the path. -/
theorem deepest_eq_argmax (hfolders : ∀ r ∈ folders, r.AtRoot) (hp : p.AtRoot) :
    deepest cwd p.toText folders =
      (folders.filter fun r ↦ r.parts <+: p.parts).argmax fun r ↦ r.toText.length := by
  induction folders using List.reverseRecOn with
  | nil => rfl
  | append_singleton folders r ih =>
    have hr : r.AtRoot := hfolders r (by simp)
    have hbefore := ih fun r hr ↦ hfolders r (List.mem_append_left _ hr)
    have hstep : deepest cwd p.toText (folders ++ [r]) =
        if r.parts <+: p.parts then
          (deepest cwd p.toText folders).elim (some r) fun b ↦
            if b.toText.length < r.toText.length then some r else some b
        else deepest cwd p.toText folders := by
      rw [deepest, List.foldl_append, List.foldl_cons, List.foldl_nil, ← deepest,
        hr.normalText?_toText, Option.getD_some]
      by_cases hholds : r.parts <+: p.parts
      · rw [if_pos ((hr.contains_iff hp).mpr hholds), if_pos hholds]
        cases deepest cwd p.toText folders <;> rfl
      · rw [if_neg ((hr.contains_iff hp).not.mpr hholds), if_neg hholds]
    rw [hstep, List.filter_append, hbefore]
    by_cases hholds : r.parts <+: p.parts
    · rw [if_pos hholds, List.filter_singleton, decide_eq_true hholds, cond_true,
        List.argmax_concat]
      cases List.argmax (fun r ↦ r.toText.length) (folders.filter fun r ↦ r.parts <+: p.parts) <;> rfl
    · rw [if_neg hholds, List.filter_singleton, decide_eq_false hholds]
      simp

theorem deepest_eq_none_iff (hfolders : ∀ r ∈ folders, r.AtRoot) (hp : p.AtRoot) :
    deepest cwd p.toText folders = none ↔ ∀ r ∈ folders, ¬r.parts <+: p.parts := by
  rw [deepest_eq_argmax hfolders hp, List.argmax_eq_none, List.filter_eq_nil_iff]
  simp

/-- **The folder that is taken is the deepest.** -/
theorem deepest_eq_some_iff (hfolders : ∀ r ∈ folders, r.AtRoot) (hp : p.AtRoot) :
    deepest cwd p.toText folders = some r ↔ IsDeepest folders p r := by
  have hsome {r : FilePath} (h : deepest cwd p.toText folders = some r) : IsDeepest folders p r := by
    rw [deepest_eq_argmax hfolders hp] at h
    obtain ⟨hmem, hholds⟩ := List.mem_filter.mp (List.argmax_mem h)
    rw [decide_eq_true_eq] at hholds
    refine ⟨hmem, hholds, fun r' hmem' hholds' ↦ ?_⟩
    by_contra hlonger
    rw [Nat.not_le] at hlonger
    -- Both are prefixes of the path, so the one with fewer components is a prefix of the other.
    have hbegins := List.prefix_of_prefix_length_le hholds hholds' (Nat.le_of_lt hlonger)
    have hne : r.parts ≠ r'.parts := fun heq ↦ Nat.ne_of_lt hlonger (congrArg List.length heq)
    have hlt := (hfolders r hmem).length_toText_lt (hfolders r' hmem') hbegins hne
    have hle := List.le_of_mem_argmax (List.mem_filter.mpr ⟨hmem', decide_eq_true hholds'⟩) h
    exact Nat.not_le_of_lt hlt hle
  constructor
  · exact hsome
  · intro h
    cases hfound : deepest cwd p.toText folders with
    | none => exact absurd h.holds ((deepest_eq_none_iff hfolders hp).mp hfound r h.mem)
    | some r' => rw [(hsome hfound).unique hfolders h]

end

theorem atRoot_of_mem_open {home r : FilePath} {roots : List FilePath} (hhome : home.WellFormed)
    (hroots : ∀ r ∈ roots, r.WellFormed) (h : r ∈ open_ home roots) : r.AtRoot := by
  obtain ⟨root, hroot, rfl⟩ := List.mem_map.mp h
  exact atRoot_canonical hhome (hroots root hroot)

/-- **The folder of a document is the deepest that holds it.** There is none if and only if no folder
holds it, and neither the order of the folders nor how often each is given makes a difference. -/
theorem rootOf_spec {home cwd p : FilePath} {roots : List FilePath} {d : Document}
    (hhome : home.WellFormed) (hcwd : cwd.WellFormed) (hroots : ∀ r ∈ roots, r.WellFormed)
    (hd : d.path = some p) (hp : p.WellFormed) (hanchor : (resolve cwd p).anchor = .root) :
    (∀ r, rootOf cwd (open_ home roots) d = some r ↔
        IsDeepest (open_ home roots) (resolve cwd p) r) ∧
      (rootOf cwd (open_ home roots) d = none ↔
        ∀ r ∈ open_ home roots, ¬r.parts <+: (resolve cwd p).parts) ∧
      ∀ roots', (∀ r, r ∈ roots' ↔ r ∈ roots) →
        rootOf cwd (open_ home roots') d = rootOf cwd (open_ home roots) d := by
  have hpath := AtRoot.of_resolve hcwd hp hanchor
  have hrootOf (folders : List FilePath) :
      rootOf cwd folders d = deepest cwd (resolve cwd p).toText folders := by
    rw [rootOf, hd, Option.bind_some, hp.normalText?_toText]
  have hsome {roots : List FilePath} (hroots : ∀ r ∈ roots, r.WellFormed) (r : FilePath) :
      rootOf cwd (open_ home roots) d = some r ↔
        IsDeepest (open_ home roots) (resolve cwd p) r := by
    rw [hrootOf, deepest_eq_some_iff (fun r ↦ atRoot_of_mem_open hhome hroots) hpath]
  refine ⟨hsome hroots, ?_, fun roots' hsame ↦ ?_⟩
  · rw [hrootOf, deepest_eq_none_iff (fun r ↦ atRoot_of_mem_open hhome hroots) hpath]
  · have hroots' : ∀ r ∈ roots', r.WellFormed := fun r hr ↦ hroots r ((hsame r).mp hr)
    have hopened (r : FilePath) : r ∈ open_ home roots' ↔ r ∈ open_ home roots := by
      rw [open_, open_, List.mem_map, List.mem_map]
      exact exists_congr fun root ↦ and_congr_left fun _ ↦ hsame root
    refine Option.ext fun r ↦ ?_
    rw [hsome hroots', hsome hroots, IsDeepest.congr hopened]

/-- Four folders, one of them twice, and one whose text starts the document's but that does not hold
it. -/
theorem rootOf_spec_sibling :
    let home : FilePath := ⟨.root, ["w"]⟩
    let roots := ["/w/app", ".", "/w/lib/../app-other/src", "/", "."].map FilePath.ofString
    let d : Document := { uri := "u", path := some ⟨.root, ["w", "app-other", "main.sg"]⟩ }
    (home.WellFormed ∧ (∀ r ∈ roots, r.WellFormed) ∧
        (∃ p, d.path = some p ∧ p.WellFormed ∧ (resolve home p).anchor = .root)) ∧
      rootOf home (open_ home roots) d = some ⟨.root, ["w"]⟩ ∧
        IsDeepest (open_ home roots) ⟨.root, ["w", "app-other", "main.sg"]⟩ ⟨.root, ["w"]⟩ := by
  intro home roots d
  have hhome : home.WellFormed := by decide
  have hroots : ∀ r ∈ roots, r.WellFormed := by
    intro r hr
    obtain ⟨text, -, rfl⟩ := List.mem_map.mp hr
    exact wellFormed_ofString text
  have hp : WellFormed ⟨.root, ["w", "app-other", "main.sg"]⟩ := by decide
  have hspec := rootOf_spec hhome hhome hroots (d := d) rfl hp rfl
  have hfound : rootOf home (open_ home roots) d = some ⟨.root, ["w"]⟩ := by decide +kernel
  exact ⟨⟨hhome, hroots, _, rfl, hp, rfl⟩, hfound, (hspec.1 _).mp hfound⟩

end Workspace

end DiagnosticFeed
