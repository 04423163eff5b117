import DiagnosticFeed.Entrypoint
import Mathlib.Algebra.Order.SuccPred
import Mathlib.Data.List.Induction
import Mathlib.Data.List.TakeWhile

/-!
# Where entry points are

What counts as a mark or a function is said by the form of a line: a line has a mark, or a function
behind some of its characters, if it can be put together in a certain way, and the first function is
the one with the fewest characters before it. The scan of a line finds just these.

A mark leads to the first line with a function in its window, or to its own line. The windows of
different marks overlap, but a later mark never leads to an earlier line: if a window leads past the
later mark, both windows lead to the same line. So the targets come in order, and dropping those
that are there already leaves each line once. The name that goes with a target is the first on its
line, whichever mark led there.
-/

namespace DiagnosticFeed.Entrypoint

open Text

/-! ## Marks -/

/-- A line has the mark, with no word character behind it. -/
def Marked (line : String) : Prop :=
  ∃ before after, line.toList = before ++ "@entrypoint".toList ++ after ∧
    ∀ c ∈ after.head?, isWordChar c = false

theorem startsWithWord_iff {word cs : List Char} :
    startsWithWord word cs = true ↔
      ∃ after, cs = word ++ after ∧ ∀ c ∈ after.head?, isWordChar c = false := by
  rw [startsWithWord]
  constructor
  · intro h
    split at h
    · next after hafter =>
      refine ⟨after, stripStart?_eq_some_iff.1 hafter, fun c hc ↦ ?_⟩
      rw [Option.mem_def] at hc
      simpa [hc] using h
    · cases h
  · rintro ⟨after, rfl, hafter⟩
    rw [stripStart?_eq_some_iff.2 rfl]
    cases after with
    | nil => rfl
    | cons c after => simpa using hafter c rfl

theorem hasMark_iff {line : String} : hasMark line.toList = true ↔ Marked line := by
  rw [Marked]
  induction line.toList with
  | nil => simp [hasMark]
  | cons c cs ih =>
    rw [hasMark, Bool.or_eq_true, startsWithWord_iff, ih]
    constructor
    · rintro (⟨after, hcs, hafter⟩ | ⟨before, after, rfl, hafter⟩)
      · exact ⟨[], after, hcs, hafter⟩
      · exact ⟨c :: before, after, rfl, hafter⟩
    · rintro ⟨before, after, hcs, hafter⟩
      cases before with
      | nil => exact .inl ⟨after, hcs, hafter⟩
      | cons b before =>
        obtain ⟨-, rfl⟩ := List.cons.inj hcs
        exact .inr ⟨before, after, rfl, hafter⟩

/-! ## Functions -/

/-- A text goes on with blanks and a name, which is as long as it can be. -/
structure Names (cs : List Char) (name : String) : Prop where
  shape : ∃ blanks after, cs = blanks ++ name.toList ++ after ∧ blanks ≠ [] ∧
    (∀ c ∈ blanks, isBlank c = true) ∧ ∀ c ∈ after.head?, continuesName c = false
  name : ∃ c rest, name.toList = c :: rest ∧ startsName c = true ∧
    ∀ c ∈ rest, continuesName c = true

/-- A function of this name is declared behind some characters of a text. The keyword does not go on
from a word; `inWord` says whether the text itself goes on from one. -/
structure Declares (inWord : Bool) (before : List Char) (name : String) (cs : List Char) :
    Prop where
  keyword : ∃ rest, cs = before ++ "fn".toList ++ rest ∧ Names rest name
  boundary : (before.getLast?.map isWordChar).getD inWord = false

/-- Whether a function is declared on a line. -/
def HasFunction (line : String) : Prop :=
  ∃ before name, Declares false before name line.toList

/-- The function of this name is declared on a line, and no other in front of it. -/
def FirstFunction (line name : String) : Prop :=
  ∃ before, Declares false before name line.toList ∧
    ∀ before' name', Declares false before' name' line.toList → before.length ≤ before'.length

theorem isBlank_of_startsName {c : Char} (h : startsName c = true) : isBlank c = false := by
  by_contra hblank
  rw [Bool.not_eq_false] at hblank
  delta startsName Char.isAlpha Char.isUpper Char.isLower at h
  simp only [isBlank, Bool.or_eq_true, Bool.and_eq_true, beq_iff_eq, decide_eq_true_eq, ge_iff_le,
    UInt32.le_iff_toNat_le] at h hblank
  have hval : c.val.toNat = c.toNat := rfl
  rcases h with (h | h) | rfl
  · simp at h
    omega
  · simp at h
    omega
  · revert hblank
    decide

theorem nameAfter?_eq_some_iff {cs : List Char} {name : String} :
    nameAfter? cs = some name ↔ Names cs name := by
  constructor
  · intro h
    unfold nameAfter? at h
    split at h
    · next c cs' =>
      split at h
      · next hblank =>
        split at h
        · next n rest hrest =>
          split at h
          · next hstarts =>
            cases h
            refine ⟨⟨(c :: cs').takeWhile isBlank, rest.dropWhile continuesName, ?_, ?_, ?_, ?_⟩,
              n, rest.takeWhile continuesName, String.toList_ofList, hstarts, ?_⟩
            · rw [String.toList_ofList, List.append_assoc, List.cons_append,
                List.takeWhile_append_dropWhile, ← hrest, List.takeWhile_append_dropWhile]
            · rw [List.takeWhile_cons_of_pos hblank]
              exact List.cons_ne_nil _ _
            · exact fun c hc ↦ List.mem_takeWhile_imp hc
            · intro d hd
              have := List.head?_dropWhile_not continuesName rest
              rw [Option.mem_def.1 hd] at this
              simpa using this
            · exact fun c hc ↦ List.mem_takeWhile_imp hc
          · cases h
        · cases h
      · cases h
    · cases h
  · rintro ⟨⟨blanks, after, rfl, hne, hblanks, hafter⟩, n, rest, hname, hstarts, hrest⟩
    have hdrop : (blanks ++ name.toList ++ after).dropWhile isBlank = n :: (rest ++ after) := by
      rw [List.append_assoc, List.dropWhile_append_of_pos hblanks, hname, List.cons_append,
        List.dropWhile_cons_of_neg (by simp [isBlank_of_startsName hstarts])]
    have htake : (rest ++ after).takeWhile continuesName = rest := by
      rw [List.takeWhile_append_of_pos hrest]
      cases after with
      | nil => simp
      | cons c after => rw [List.takeWhile_cons_of_neg (by simp [hafter c rfl]), List.append_nil]
    obtain ⟨b, blanks', rfl⟩ := List.exists_cons_of_ne_nil hne
    unfold nameAfter?
    simp only [List.cons_append] at hdrop ⊢
    rw [if_pos (hblanks b List.mem_cons_self), hdrop]
    simp only [hstarts, if_true, htake]
    rw [← hname, String.ofList_toList]

section

variable {inWord : Bool} {before : List Char} {name : String} {b c : Char} {cs : List Char}

theorem declares_nil_iff : Declares inWord [] name (c :: cs) ↔
    (if inWord then none else (stripStart? ['f', 'n'] (c :: cs)).bind nameAfter?) = some name := by
  cases inWord with
  | true =>
    simp only [if_true, reduceCtorEq, iff_false]
    intro h
    cases h.boundary
  | false =>
    simp only [Bool.false_eq_true, if_false, Option.bind_eq_some_iff, stripStart?_eq_some_iff,
      nameAfter?_eq_some_iff]
    exact ⟨fun h ↦ h.keyword, fun h ↦ ⟨h, rfl⟩⟩

theorem declares_cons_iff : Declares inWord (b :: before) name (c :: cs) ↔
    b = c ∧ Declares (isWordChar c) before name cs := by
  have hlast : ((b :: before).getLast?.map isWordChar).getD inWord =
      (before.getLast?.map isWordChar).getD (isWordChar b) := by
    rw [List.getLast?_cons]
    cases before.getLast? <;> rfl
  constructor
  · rintro ⟨⟨rest, hcs, hnames⟩, hboundary⟩
    obtain ⟨rfl, rfl⟩ := List.cons.inj hcs
    exact ⟨rfl, ⟨rest, rfl, hnames⟩, hlast ▸ hboundary⟩
  · rintro ⟨rfl, ⟨rest, rfl, hnames⟩, hboundary⟩
    exact ⟨⟨rest, rfl, hnames⟩, hlast ▸ hboundary⟩

theorem not_declares_empty : ¬Declares inWord before name [] := by
  rintro ⟨⟨rest, hcs, -⟩, -⟩
  simp at hcs

/-- The scan finds the first function. -/
theorem functionFrom?_eq_some (h : functionFrom? inWord cs = some name) :
    ∃ before, Declares inWord before name cs ∧
      ∀ before' name', Declares inWord before' name' cs → before.length ≤ before'.length := by
  induction cs generalizing inWord with
  | nil => cases h
  | cons c cs ih =>
    rw [functionFrom?] at h
    split at h
    · next here hhere =>
      cases h
      exact ⟨[], declares_nil_iff.2 hhere, fun _ _ _ ↦ Nat.zero_le _⟩
    · next hnone =>
      obtain ⟨before, hdeclares, hfirst⟩ := ih h
      refine ⟨c :: before, declares_cons_iff.2 ⟨rfl, hdeclares⟩, fun before' name' h' ↦ ?_⟩
      cases before' with
      | nil =>
        rw [declares_nil_iff, hnone] at h'
        cases h'
      | cons b before' =>
        exact Nat.succ_le_succ (hfirst before' name' (declares_cons_iff.1 h').2)

theorem functionFrom?_eq_none (h : functionFrom? inWord cs = none) :
    ¬Declares inWord before name cs := by
  induction cs generalizing inWord before with
  | nil => exact not_declares_empty
  | cons c cs ih =>
    rw [functionFrom?] at h
    split at h
    · cases h
    · next hnone =>
      intro hdeclares
      cases before with
      | nil =>
        rw [declares_nil_iff, hnone] at hdeclares
        cases hdeclares
      | cons b before => exact ih h (declares_cons_iff.1 hdeclares).2

theorem Declares.unique {before' : List Char} {name' : String} (h : Declares inWord before name cs)
    (h' : Declares inWord before' name' cs) (hlength : before.length = before'.length) :
    name = name' := by
  obtain ⟨⟨rest, hcs, hnames⟩, -⟩ := h
  obtain ⟨⟨rest', hcs', hnames'⟩, -⟩ := h'
  rw [hcs, List.append_assoc, List.append_assoc] at hcs'
  obtain ⟨-, hrest⟩ := List.append_inj hcs' hlength
  rw [List.append_cancel_left hrest, ← nameAfter?_eq_some_iff] at hnames
  rw [← nameAfter?_eq_some_iff, hnames] at hnames'
  exact Option.some.inj hnames'

end

theorem functionName?_eq_some_iff {line name : String} :
    functionName? line = some name ↔ FirstFunction line name := by
  refine ⟨functionFrom?_eq_some, fun ⟨before, hdeclares, hfirst⟩ ↦ ?_⟩
  cases h : functionName? line with
  | none => exact absurd hdeclares (functionFrom?_eq_none h)
  | some name' =>
    obtain ⟨before', hdeclares', hfirst'⟩ := functionFrom?_eq_some h
    have hlength := Nat.le_antisymm (hfirst _ _ hdeclares') (hfirst' _ _ hdeclares)
    rw [hdeclares.unique hdeclares' hlength]

theorem functionName?_eq_none_iff {line : String} :
    functionName? line = none ↔ ¬HasFunction line := by
  constructor
  · rintro h ⟨before, name, hdeclares⟩
    exact functionFrom?_eq_none h hdeclares
  · intro h
    by_contra hsome
    obtain ⟨name, hname⟩ := Option.ne_none_iff_exists'.1 hsome
    obtain ⟨before, hdeclares, -⟩ := functionFrom?_eq_some hname
    exact h ⟨before, name, hdeclares⟩

/-! ## Windows -/

/-- Line `i` has the mark. -/
def MarkedAt (lines : List String) (i : Nat) : Prop :=
  ∃ line, lines[i]? = some line ∧ Marked line

/-- Line `t` is the first with a function among line `i` and the five after it. -/
structure FirstFrom (lines : List String) (i t : Nat) : Prop where
  within : i ≤ t ∧ t ≤ i + 5
  here : ∃ line, lines[t]? = some line ∧ HasFunction line
  notBefore : ∀ j, i ≤ j → j < t → ∀ line, lines[j]? = some line → ¬HasFunction line

def NoneFrom (lines : List String) (i : Nat) : Prop :=
  ∀ j, i ≤ j → j ≤ i + 5 → ∀ line, lines[j]? = some line → ¬HasFunction line

/-- The name of the first function on a line, if there is such a line. -/
def nameAt? (lines : List String) (i : Nat) : Option String :=
  lines[i]?.bind functionName?

section

variable {lines : List String} {i j k t : Nat} {name : String}

theorem nameAt?_eq_some_iff :
    nameAt? lines i = some name ↔ ∃ line, lines[i]? = some line ∧ FirstFunction line name := by
  simp only [nameAt?, Option.bind_eq_some_iff, functionName?_eq_some_iff]

theorem nameAt?_eq_none_iff :
    nameAt? lines i = none ↔ ∀ line, lines[i]? = some line → ¬HasFunction line := by
  simp only [nameAt?, Option.bind_eq_none_iff, functionName?_eq_none_iff]

theorem nameAt?_ne_none_iff :
    nameAt? lines i ≠ none ↔ ∃ line, lines[i]? = some line ∧ HasFunction line := by
  rw [Ne, nameAt?_eq_none_iff]
  push Not
  rfl

theorem FirstFrom.unique (h : FirstFrom lines i t) (h' : FirstFrom lines i j) : t = j := by
  obtain ⟨line, hline, hfunction⟩ := h.here
  obtain ⟨line', hline', hfunction'⟩ := h'.here
  rcases Nat.lt_trichotomy t j with hlt | heq | hlt
  · exact absurd hfunction (h'.notBefore t h.within.1 hlt line hline)
  · exact heq
  · exact absurd hfunction' (h.notBefore j h'.within.1 hlt line' hline')

theorem getElem?_window (lines : List String) (i k : Nat) :
    (((lines.drop i).take lookahead).zipIdx i)[k]? =
      if k < lookahead then lines[i + k]?.map fun l ↦ (l, i + k) else none := by
  rw [List.getElem?_zipIdx, List.getElem?_take]
  split
  · rw [List.getElem?_drop]
  · rfl

/-- **What a mark leads to**: the first line with a function in its window, or else its own line. -/
theorem target_cases (lines : List String) (i : Nat) :
    (∃ t name, target lines i = (t, some name) ∧ i ≤ t ∧ t ≤ i + 5 ∧
      nameAt? lines t = some name ∧ ∀ j, i ≤ j → j < t → nameAt? lines j = none) ∨
    (target lines i = (i, none) ∧ ∀ j, i ≤ j → j ≤ i + 5 → nameAt? lines j = none) := by
  have hsix : lookahead = 6 := rfl
  rw [target]
  dsimp only
  have hwindow := getElem?_window lines i
  generalize ((lines.drop i).take lookahead).zipIdx i = window at hwindow ⊢
  -- A line of the window stands there as many places behind the mark as it does in the text.
  have hplace : ∀ j line, i ≤ j → j ≤ i + 5 → lines[j]? = some line →
      window[j - i]? = some (line, j) := by
    intro j line hij hj hline
    rw [hwindow, if_pos (by omega), Nat.add_sub_cancel' hij, hline, Option.map_some]
  split
  · next t name hfound =>
    obtain ⟨before, ⟨line, t'⟩, after, rfl, hhere, hbefore⟩ := List.findSome?_eq_some_iff.1 hfound
    obtain ⟨n, hn, heq⟩ := Option.map_eq_some_iff.1 hhere
    cases heq
    have hat := hwindow before.length
    rw [List.getElem?_append_right (Nat.le_refl _), Nat.sub_self, List.getElem?_cons_zero] at hat
    split at hat
    · next hlt =>
      obtain ⟨l, hl, heq⟩ := Option.map_eq_some_iff.1 hat.symm
      cases heq
      refine .inl ⟨_, _, rfl, by omega, by omega, ?_, fun j hij hj ↦ ?_⟩
      · rw [nameAt?, hl, Option.bind_some, hn]
      · refine Option.bind_eq_none_iff.2 fun l' hl' ↦ ?_
        have hin := hplace j l' hij (by omega) hl'
        rw [List.getElem?_append_left (by omega)] at hin
        exact Option.map_eq_none_iff.1 (hbefore _ (List.mem_of_getElem? hin))
    · cases hat
  · next hnone =>
    refine .inr ⟨rfl, fun j hij hj ↦ Option.bind_eq_none_iff.2 fun line hline ↦ ?_⟩
    have hin := hplace j line hij hj hline
    exact Option.map_eq_none_iff.1
      (List.findSome?_eq_none_iff.1 hnone _ (List.mem_of_getElem? hin))

end

/-! ## Targets -/

/-- The lines with the mark. -/
def marks (lines : List String) : List Nat :=
  (lines.zipIdx.filter fun (l, _) ↦ hasMark l.toList).map (·.2)

/-- What a further mark adds to the targets that were found. -/
def collect (lines : List String) (found : List (Nat × Option String)) (i : Nat) :
    List (Nat × Option String) :=
  if found.any (·.1 == (target lines i).1) then found else found ++ [target lines i]

section

variable {lines : List String} {i j : Nat}

theorem targets_eq (lines : List String) : targets lines = (marks lines).foldl (collect lines) [] :=
  rfl

theorem mem_marks_iff : i ∈ marks lines ↔ MarkedAt lines i := by
  simp only [marks, MarkedAt, List.mem_map, List.mem_filter, Prod.exists, exists_eq_right,
    List.mk_mem_zipIdx_iff_getElem?, hasMark_iff]

theorem pairwise_marks (lines : List String) : (marks lines).Pairwise (· < ·) := by
  have hsub : List.Sublist (marks lines) (lines.zipIdx.map (·.2)) := List.filter_sublist.map _
  refine List.Pairwise.sublist hsub ?_
  rw [List.zipIdx_map_snd]
  exact List.pairwise_lt_range'

/-- The name that goes with a target is the first on its line, whichever mark leads there. -/
theorem target_snd (lines : List String) (i : Nat) :
    (target lines i).2 = nameAt? lines (target lines i).1 := by
  rcases target_cases lines i with ⟨t, name, h, -, -, hname, -⟩ | ⟨h, hnone⟩
  · rw [h, hname]
  · rw [h, hnone i (Nat.le_refl i) (Nat.le_add_right i 5)]

/-- **A later mark leads to no earlier line.** -/
theorem target_mono (h : i ≤ j) : (target lines i).1 ≤ (target lines j).1 := by
  rcases target_cases lines i with ⟨t, name, hi, -, hti, hname, hfirst⟩ | ⟨hi, -⟩ <;>
    rcases target_cases lines j with ⟨t', name', hj, hjt, -, hname', -⟩ | ⟨hj, hnone⟩ <;>
      rw [hi, hj]
  · by_contra hlt
    rw [hfirst t' (by omega) (by omega)] at hname'
    cases hname'
  · -- Otherwise the function is in the window of the later mark, too.
    by_contra hlt
    rw [hnone t (by omega) (by omega)] at hname
    cases hname
  · exact h.trans hjt
  · exact h

/-- A further mark adds its target, unless it is there already: the line would not be there without
the name that goes with it. -/
theorem mem_collect {found : List (Nat × Option String)} {t : Nat × Option String}
    (hnames : ∀ t ∈ found, t.2 = nameAt? lines t.1) :
    t ∈ collect lines found i ↔ t ∈ found ∨ t = target lines i := by
  rw [collect]
  split
  · next hany =>
    obtain ⟨t', ht', heq⟩ := List.any_eq_true.1 hany
    rw [beq_iff_eq] at heq
    have hsnd : t'.2 = (target lines i).2 := by rw [hnames t' ht', heq, target_snd]
    have hthere : target lines i ∈ found := Prod.ext heq hsnd ▸ ht'
    exact ⟨.inl, fun h ↦ h.elim id fun h ↦ h ▸ hthere⟩
  · rw [List.mem_append, List.mem_singleton]

theorem pairwise_collect {found : List (Nat × Option String)}
    (hle : ∀ t ∈ found, t.1 ≤ (target lines i).1)
    (h : found.Pairwise (fun t t' ↦ t.1 < t'.1)) :
    (collect lines found i).Pairwise (fun t t' ↦ t.1 < t'.1) := by
  rw [collect]
  split
  · exact h
  · next hany =>
    rw [List.pairwise_append]
    refine ⟨h, List.pairwise_singleton _ _, fun t ht t' ht' ↦ ?_⟩
    rw [List.mem_singleton.1 ht']
    refine Nat.lt_of_le_of_ne (hle t ht) fun heq ↦ hany (List.any_eq_true.2 ⟨t, ht, ?_⟩)
    rw [beq_iff_eq, heq]

/-- **What is collected from marks in order**: each target once, in order. -/
theorem collect_spec {is : List Nat} (h : is.Pairwise (· < ·)) :
    (is.foldl (collect lines) []).Pairwise (fun t t' ↦ t.1 < t'.1) ∧
      ∀ t, t ∈ is.foldl (collect lines) [] ↔ ∃ i ∈ is, target lines i = t := by
  induction is using List.reverseRecOn with
  | nil => simp
  | append_singleton is i ih =>
    rw [List.pairwise_append] at h
    obtain ⟨his, -, hlast⟩ := h
    obtain ⟨hpairwise, hmem⟩ := ih his
    rw [List.foldl_append, List.foldl_cons, List.foldl_nil]
    generalize is.foldl (collect lines) [] = found at hpairwise hmem ⊢
    constructor
    · refine pairwise_collect (fun t ht ↦ ?_) hpairwise
      obtain ⟨i', hi', rfl⟩ := (hmem t).1 ht
      exact target_mono (hlast i' hi' i List.mem_cons_self).le
    · intro t
      have hnames : ∀ t ∈ found, t.2 = nameAt? lines t.1 := by
        intro t ht
        obtain ⟨i', -, rfl⟩ := (hmem t).1 ht
        exact target_snd lines i'
      rw [mem_collect hnames, hmem]
      simp [or_and_right, exists_or, eq_comm]

/-- What a mark leads to, in terms of the text. -/
theorem target_eq_iff {t : Nat} {name : Option String} : target lines i = (t, name) ↔
    (FirstFrom lines i t ∧ ∃ line n, lines[t]? = some line ∧ FirstFunction line n ∧
      name = some n) ∨
    (t = i ∧ NoneFrom lines i ∧ name = none) := by
  rcases target_cases lines i with ⟨t', n', h, hit, hti, hname, hfirst⟩ | ⟨h, hnone⟩ <;> rw [h]
  · have hfirst' : FirstFrom lines i t' := by
      refine ⟨⟨hit, hti⟩, nameAt?_ne_none_iff.1 (by simp [hname]), fun j hij hj ↦ ?_⟩
      exact nameAt?_eq_none_iff.1 (hfirst j hij hj)
    obtain ⟨line', hline', hfunction⟩ := nameAt?_eq_some_iff.1 hname
    constructor
    · rintro ⟨⟩
      exact .inl ⟨hfirst', line', n', hline', hfunction, rfl⟩
    · rintro (⟨hfirst, line, n, hline, hn, rfl⟩ | ⟨-, hnone, -⟩)
      · obtain rfl : t = t' := hfirst.unique hfirst'
        have hname' := nameAt?_eq_some_iff.2 ⟨line, hline, hn⟩
        rw [hname] at hname'
        rw [hname']
      · have := nameAt?_eq_none_iff.2 (hnone t' hit hti)
        rw [hname] at this
        cases this
  · have hnone' : NoneFrom lines i := fun j hij hj ↦ nameAt?_eq_none_iff.1 (hnone j hij hj)
    constructor
    · rintro ⟨⟩
      exact .inr ⟨rfl, hnone', rfl⟩
    · rintro (⟨hfirst, -⟩ | ⟨rfl, -, rfl⟩)
      · obtain ⟨line, hline, hfunction⟩ := hfirst.here
        exact absurd hfunction (hnone' t hfirst.within.1 hfirst.within.2 line hline)
      · rfl

end

/-! ## Actions -/

/-- The lines that marks lead to, with the names that go with them. There are two ways for a line to
be one of them: a mark has it as the first line with a function in its window, and then it goes with
the name of the first function on it; or it has a mark with no function in its window, and then
there is no name. -/
structure LedTo (lines : List String) (ts : List (Nat × Option String)) : Prop where
  increasing : ts.Pairwise fun t t' ↦ t.1 < t'.1
  mem_iff : ∀ t name, (t, name) ∈ ts ↔
    (∃ i, MarkedAt lines i ∧ FirstFrom lines i t ∧ ∃ line n, lines[t]? = some line ∧
      FirstFunction line n ∧ name = some n) ∨
    (MarkedAt lines t ∧ NoneFrom lines t ∧ name = none)

theorem ledTo_targets (lines : List String) : LedTo lines (targets lines) := by
  obtain ⟨hpairwise, hmem⟩ := collect_spec (pairwise_marks lines)
  refine ⟨hpairwise, fun t name ↦ ?_⟩
  rw [targets_eq, hmem]
  simp only [mem_marks_iff, target_eq_iff]
  constructor
  · rintro ⟨i, hmarked, ⟨hfirst, hname⟩ | ⟨rfl, hnone, hname⟩⟩
    · exact .inl ⟨i, hmarked, hfirst, hname⟩
    · exact .inr ⟨hmarked, hnone, hname⟩
  · rintro (⟨i, hmarked, hfirst, hname⟩ | ⟨hmarked, hnone, hname⟩)
    · exact ⟨i, hmarked, .inl ⟨hfirst, hname⟩⟩
    · exact ⟨t, hmarked, .inr ⟨rfl, hnone, hname⟩⟩

/-- **A file of the language has a pair of actions, to run and to build, for each line that a mark
leads to**, in the order of the lines, and no others. -/
theorem lenses_of_file {d : Document} {language : String} (hfile : "file:".toList <+: d.uri.toList)
    (hlanguage : d.language = language) :
    ∃ ts, LedTo d.lines ts ∧ lenses d language = ts.flatMap fun t ↦
      [⟨t.1, "Run", "surge.runEntryPoint", d.uri, t.2⟩,
        ⟨t.1, "Build", "surge.buildEntryPoint", d.uri, t.2⟩] := by
  refine ⟨targets d.lines, ledTo_targets d.lines, if_pos ?_⟩
  rw [eligible, Bool.and_eq_true, beq_iff_eq]
  exact ⟨isSome_stripStart?_iff.2 hfile, hlanguage⟩

/-! The windows of three marks overlap; two of them lead to one line, and the third to its own. -/

def overlappingMarks : Document :=
  { uri := "file:///w/a.sg", text := "@entrypoint\n@entrypoint\r\nfn a() fn b()\n@entrypoint" }

theorem lenses_overlappingMarks :
    ("file:".toList <+: overlappingMarks.uri.toList ∧ overlappingMarks.language = "surge") ∧
      LedTo overlappingMarks.lines [(2, some "a"), (3, none)] := by
  have hfile : "file:".toList <+: overlappingMarks.uri.toList := by decide
  have hlanguage : overlappingMarks.language = "surge" := rfl
  obtain ⟨ts, hled, hlenses⟩ := lenses_of_file hfile hlanguage
  have hcomputed : lenses overlappingMarks "surge" =
      [⟨2, "Run", "surge.runEntryPoint", "file:///w/a.sg", some "a"⟩,
        ⟨2, "Build", "surge.buildEntryPoint", "file:///w/a.sg", some "a"⟩,
        ⟨3, "Run", "surge.runEntryPoint", "file:///w/a.sg", none⟩,
        ⟨3, "Build", "surge.buildEntryPoint", "file:///w/a.sg", none⟩] := by decide +kernel
  rw [hcomputed] at hlenses
  refine ⟨⟨hfile, hlanguage⟩, ?_⟩
  match ts, hlenses with
  | [(t, name), (t', name')], h =>
    simp only [List.flatMap_cons, List.flatMap_nil, List.cons_append, List.nil_append,
      List.append_nil, List.cons.injEq, Lens.mk.injEq] at h
    obtain ⟨⟨rfl, -, -, -, rfl⟩, -, ⟨rfl, -, -, -, rfl⟩, -⟩ := h
    exact hled

end DiagnosticFeed.Entrypoint
