import DiagnosticFeed.Proofs.Paths
import Mathlib.Logic.Relation

/-!
# The normal form of a path

Files are compared by the normal forms of their paths. A normal form is the text of an absolute path
in which nothing is left to resolve; it is its own normal form, whatever the working directory. A
path can be spelled in many ways: a dot may stand between two slashes, and a component with a climb
behind it. Neither changes what the text is read as, wherever it stands, so all spellings
of one path have the same normal form.
-/

namespace DiagnosticFeed

namespace FilePath

/-! ## Slashes in front -/

/-- How many slashes a text starts with. -/
def slashes (cs : List Char) : Nat :=
  (cs.takeWhile (· = '/')).length

/-- Exactly two slashes are an anchor of their own, any other number stands for one. -/
theorem anchorOf_eq (cs : List Char) :
    anchorOf cs =
      if slashes cs = 0 then .relative else if slashes cs = 2 then .doubleRoot else .root := by
  match cs with
  | [] => rfl
  | [c] => by_cases hc : c = '/' <;> simp [anchorOf, slashes, hc]
  | [c, d] =>
    by_cases hc : c = '/' <;> by_cases hd : d = '/' <;> simp [anchorOf, slashes, hc, hd]
  | c :: d :: e :: cs =>
    by_cases hc : c = '/' <;> by_cases hd : d = '/' <;> by_cases he : e = '/' <;>
      simp [anchorOf, slashes, hc, hd, he]

/-- What stands behind a slash, if it starts with none, adds no slash in front. -/
theorem slashes_append {as bs bs' : List Char} (hb : slashes bs = 0) (hb' : slashes bs' = 0) :
    slashes (as ++ '/' :: bs) = slashes (as ++ '/' :: bs') := by
  rw [slashes, List.length_eq_zero_iff] at hb hb'
  rw [slashes, slashes, List.takeWhile_append, List.takeWhile_append, List.takeWhile_cons,
    List.takeWhile_cons, hb, hb']

theorem anchorOf_append_slash (as : List Char) {bs bs' : List Char} (hb : slashes bs = 0)
    (hb' : slashes bs' = 0) : anchorOf (as ++ '/' :: bs) = anchorOf (as ++ '/' :: bs') := by
  rw [anchorOf_eq, anchorOf_eq, slashes_append hb hb']

/-! ## Components -/

theorem partsOf_append_slash (as bs : List Char) :
    partsOf (as ++ '/' :: bs) = partsOf as ++ partsOf bs := by
  rw [partsOf, Text.splitOn_append, List.filter_append, List.map_append]
  rfl

theorem IsComponent.partsOf_toList {part : String} (h : IsComponent part) :
    partsOf part.toList = [part] := by
  have hformed : WellFormed ⟨.root, [part]⟩ := by
    intro p hp
    rwa [List.mem_singleton.mp hp]
  simpa using hformed.partsOf_intercalate

theorem IsComponent.slashes_append {part : String} (h : IsComponent part) (cs : List Char) :
    slashes (part.toList ++ cs) = 0 := by
  cases hcs : part.toList with
  | nil => exact absurd hcs h.toList_ne_nil
  | cons c rest =>
    have hc : c ≠ '/' := by
      rintro rfl
      exact h.noSlash (hcs ▸ List.mem_cons_self)
    simp [slashes, hc]

/-- **A climb takes back the component before it**, wherever the two stand. -/
theorem climb_excursion {x : String} (hx : x ≠ "..") (before as bs : List String) :
    climb before (as ++ x :: ".." :: bs) = climb before (as ++ bs) := by
  induction as generalizing before with
  | nil => rw [List.nil_append, climb, if_neg hx, climb, if_pos rfl, List.tail_cons, List.nil_append]
  | cons a as ih =>
    rw [List.cons_append, List.cons_append, climb, climb]
    split <;> exact ih _

/-- Where a path leads depends on its anchor, and on what its components lead to behind others. -/
theorem resolve_congr {cwd p p' : FilePath} (hanchor : p.anchor = p'.anchor)
    (hclimb : ∀ before, climb [] (before ++ p.parts) = climb [] (before ++ p'.parts)) :
    resolve cwd p = resolve cwd p' := by
  rw [resolve, resolve, hanchor, hclimb]
  split
  · rfl
  · exact congrArg (FilePath.mk p'.anchor) (hclimb [])

/-! ## Spellings -/

/-- Texts that differ by a dot, or by a component with a climb behind it. -/
inductive Respelling : String → String → Prop
  | dot (a b : String) (hb : slashes b.toList = 0) :
    Respelling (a ++ "/" ++ b) (a ++ "/./" ++ b)
  | excursion (a x b : String) (hb : slashes b.toList = 0) (hx : IsComponent x) (hup : x ≠ "..") :
    Respelling (a ++ "/" ++ b) (a ++ "/" ++ x ++ "/../" ++ b)

theorem Respelling.ne_empty {s s' : String} (h : Respelling s s') : s ≠ "" ∧ s' ≠ "" := by
  cases h <;> simp [String.append_eq_empty_iff]

/-- **Respelling a path leads to the same file.** -/
theorem Respelling.resolve_eq {s s' : String} (h : Respelling s s') (cwd : FilePath) :
    resolve cwd (ofString s) = resolve cwd (ofString s') := by
  cases h with
  | dot a b hb =>
    have hnone : slashes ('.' :: '/' :: b.toList) = 0 := by simp [slashes]
    have hanchor := anchorOf_append_slash a.toList hb hnone
    have hparts : partsOf ('.' :: '/' :: b.toList) = partsOf b.toList :=
      partsOf_append_slash ['.'] b.toList
    refine resolve_congr ?_ fun before ↦ ?_
    · simpa [ofString] using hanchor
    · simp [ofString, partsOf_append_slash, hparts]
  | excursion a x b hb hx hup =>
    have hnone := hx.slashes_append ('/' :: '.' :: '.' :: '/' :: b.toList)
    have hanchor := anchorOf_append_slash a.toList hb hnone
    have hparts : partsOf ('.' :: '.' :: '/' :: b.toList) = ".." :: partsOf b.toList :=
      partsOf_append_slash ['.', '.'] b.toList
    refine resolve_congr ?_ fun before ↦ ?_
    · simpa [ofString] using hanchor
    · have hclimb := climb_excursion hup [] (before ++ partsOf a.toList) (partsOf b.toList)
      simpa [ofString, partsOf_append_slash, hx.partsOf_toList, hparts] using hclimb.symm

/-- Texts that differ by respellings, one after another, in either direction. -/
theorem normalText?_eq_of_eqvGen {s s' : String} (h : Relation.EqvGen Respelling s s')
    (cwd : FilePath) : normalText? cwd s = normalText? cwd s' := by
  induction h with
  | rel s s' h =>
    rw [normalText?_of_ne cwd h.ne_empty.1, normalText?_of_ne cwd h.ne_empty.2, h.resolve_eq]
  | refl s => rfl
  | symm s s' h ih => exact ih.symm
  | trans s s' s'' h h' ih ih' => exact ih.trans ih'

/-! ## Normal forms -/

/-- What a text with slashes in front starts with in normal form: two slashes if there are exactly
two, else one. -/
def leadOf (text : String) : String :=
  if slashes text.toList = 2 then "//" else "/"

/-- The text of an absolute path in which nothing is left to resolve, with `lead` in front: between
its components, which are not empty, no dots and no climbs, there are single slashes. -/
def IsNormal (lead text : String) : Prop :=
  ∃ parts, text = lead ++ "/".intercalate parts ∧ ∀ part ∈ parts, IsComponent part ∧ part ≠ ".."

theorem anchorText_eq_leadOf {text : String} (h : slashes text.toList ≠ 0) :
    anchorText (ofString text).anchor = leadOf text := by
  rw [ofString, anchorOf_eq, if_neg h, leadOf]
  split <;> rfl

theorem Resolved.isNormal {p : FilePath} (h : p.Resolved) :
    IsNormal (anchorText p.anchor) p.toText := by
  refine ⟨p.parts, ?_, fun part hpart ↦ ⟨h.wellFormed part hpart, ?_⟩⟩
  · rw [toText, if_neg (by simp [h.absolute])]
  · rintro rfl
    exact h.noClimb hpart

theorem Resolved.normalText?_toText {p : FilePath} (h : p.Resolved) (cwd : FilePath) :
    normalText? cwd p.toText = some p.toText := by
  rw [h.wellFormed.normalText?_toText, h.resolve]

theorem anchor_ofString_eq_relative_iff {text : String} :
    (ofString text).anchor = .relative ↔ slashes text.toList = 0 := by
  rw [ofString, anchorOf_eq]
  split
  · simp [*]
  · split <;> simp [*]

/-- The slashes in front of a path, resolved: those of its own text, or else of the working
directory's. -/
theorem anchorText_resolve {cwd : String} (hcwd : slashes cwd.toList ≠ 0) (text : String) :
    anchorText (resolve (ofString cwd) (ofString text)).anchor =
      leadOf (if slashes text.toList = 0 then cwd else text) := by
  rw [resolve]
  by_cases htext : slashes text.toList = 0
  · rw [if_pos (anchor_ofString_eq_relative_iff.mpr htext), if_pos htext,
      anchorText_eq_leadOf hcwd]
  · rw [if_neg (anchor_ofString_eq_relative_iff.not.mpr htext), if_neg htext,
      anchorText_eq_leadOf htext]

/-- **The normal form of a path.** In an absolute working directory every path has one. It is the
text of an absolute path with nothing left to resolve, it is its own normal form in every working
directory, and all spellings of the path have it, so they compare equal. -/
theorem normalText?_spec {cwd text : String} (hcwd : slashes cwd.toList ≠ 0) (htext : text ≠ "") :
    ∃ normal, normalText? (ofString cwd) text = some normal ∧
      IsNormal (leadOf (if slashes text.toList = 0 then cwd else text)) normal ∧
      (∀ cwd', normalText? (ofString cwd') normal = some normal) ∧
      ∀ text', Relation.EqvGen Respelling text text' →
        normalText? (ofString cwd) text' = some normal ∧
          sameText (ofString cwd) (some text) (some text') = true := by
  have habsolute := anchor_ofString_eq_relative_iff.not.mpr hcwd
  have hresolved : (resolve (ofString cwd) (ofString text)).Resolved :=
    resolved_resolve habsolute (wellFormed_ofString cwd) (wellFormed_ofString text)
  have hnormal := normalText?_of_ne (ofString cwd) htext
  refine ⟨_, hnormal, ?_, fun cwd' ↦ hresolved.normalText?_toText _, fun text' hspelled ↦ ?_⟩
  · rw [← anchorText_resolve hcwd]
    exact hresolved.isNormal
  · have hnormal' := (normalText?_eq_of_eqvGen hspelled (ofString cwd)).symm.trans hnormal
    refine ⟨hnormal', ?_⟩
    rw [sameText, Option.bind_some, Option.bind_some, hnormal, hnormal']
    exact beq_self_eq_true _

/-- A detour in a directory that is named behind two slashes. -/
theorem normalText?_spec_detour :
    slashes "//srv/u".toList ≠ 0 ∧ "a/x/../b" ≠ "" ∧
      normalText? (ofString "//srv/u") "a/x/../b" = some "//srv/u/a/b" ∧
      sameText (ofString "//srv/u") (some "a/x/../b") (some "a/b") = true := by
  have hcwd : slashes "//srv/u".toList ≠ 0 := by decide
  have htext : "a/x/../b" ≠ "" := by decide
  have hspelled : Relation.EqvGen Respelling "a/x/../b" "a/b" :=
    .symm _ _ (.rel _ _ (.excursion "a" "x" "b" (by decide) (by decide) (by decide)))
  obtain ⟨normal, hnormal, -, -, hsame⟩ := normalText?_spec hcwd htext
  exact ⟨hcwd, htext, by decide, (hsame "a/b" hspelled).2⟩

end FilePath

end DiagnosticFeed
