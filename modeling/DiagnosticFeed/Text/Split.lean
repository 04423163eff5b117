/-!
# Splitting and joining

A list cut at every occurrence of a separator, and the inverse. There is always one piece more than
separators, so the empty list has one piece, which is empty.
-/

namespace DiagnosticFeed.Text

variable {α : Type} [DecidableEq α]

/-- The pieces between the occurrences of `sep`. -/
def splitOn (sep : α) : List α → List (List α)
  | [] => [[]]
  | a :: as =>
    if a = sep then [] :: splitOn sep as
    else match splitOn sep as with
      | [] => [[a]]
      | p :: ps => (a :: p) :: ps

/-- The pieces with `sep` between neighbours. -/
def joinWith (sep : α) : List (List α) → List α
  | [] => []
  | [p] => p
  | p :: q :: ps => p ++ sep :: joinWith sep (q :: ps)

theorem splitOn_eq (sep : α) (as : List α) : splitOn sep as = as.splitOn sep := by
  induction as with
  | nil => rfl
  | cons a as ih =>
    rw [splitOn, ih, List.splitOn_cons_eq_if_modifyHead]
    by_cases h : a = sep
    · rw [if_pos h, if_pos (beq_iff_eq.mpr h)]
    · rw [if_neg h, if_neg (mt beq_iff_eq.mp h)]
      cases hs : as.splitOn sep with
      | nil => exact absurd hs (List.splitOn_ne_nil sep as)
      | cons p ps => rfl

omit [DecidableEq α] in
theorem joinWith_eq (sep : α) (ps : List (List α)) : joinWith sep ps = [sep].intercalate ps := by
  induction ps with
  | nil => rw [joinWith, List.intercalate_nil]
  | cons p ps ih =>
    cases ps with
    | nil => rw [joinWith, List.intercalate_singleton]
    | cons q qs =>
      rw [joinWith, ih, List.intercalate_cons_cons, List.append_assoc, List.singleton_append]

/-- Texts are joined as lists of characters are. -/
theorem toList_intercalate {s : String} {sep : Char} (hs : s.toList = [sep])
    (parts : List String) :
    (s.intercalate parts).toList = joinWith sep (parts.map String.toList) := by
  rw [String.toList_intercalate, hs, joinWith_eq]

theorem splitOn_ne_nil (sep : α) (as : List α) : splitOn sep as ≠ [] := by
  rw [splitOn_eq]
  exact List.splitOn_ne_nil sep as

theorem splitOn_cons_self (sep : α) (as : List α) :
    splitOn sep (sep :: as) = [] :: splitOn sep as := by
  rw [splitOn, if_pos rfl]

theorem splitOn_cons_of_ne {sep a : α} (h : a ≠ sep) (as : List α) :
    splitOn sep (a :: as) = (splitOn sep as).modifyHead (a :: ·) := by
  rw [splitOn_eq, splitOn_eq, List.splitOn_cons_eq_if_modifyHead, if_neg (mt beq_iff_eq.mp h)]

/-- The first piece is empty if and only if a separator is in front, or nothing at all. -/
theorem head?_splitOn_eq_nil_iff {sep : α} {as : List α} :
    (splitOn sep as).head? = some [] ↔ ∀ a ∈ as.head?, a = sep := by
  cases as with
  | nil => simp [splitOn]
  | cons a as =>
    by_cases h : a = sep
    · simp [h, splitOn_cons_self]
    · rw [splitOn_cons_of_ne h]
      cases splitOn sep as <;> simp [h]

theorem joinWith_splitOn (sep : α) (as : List α) : joinWith sep (splitOn sep as) = as := by
  rw [joinWith_eq, splitOn_eq, List.intercalate_splitOn]

theorem splitOn_of_notMem {sep : α} {as : List α} (h : sep ∉ as) : splitOn sep as = [as] := by
  rw [splitOn_eq, List.splitOn_eq_singleton h]

theorem splitOn_append_cons {sep : α} {p : List α} (h : sep ∉ p) (rest : List α) :
    splitOn sep (p ++ sep :: rest) = p :: splitOn sep rest := by
  rw [splitOn_eq, splitOn_eq, List.splitOn_append_cons_self_of_not_mem h]

theorem splitOn_append (sep : α) (as bs : List α) :
    splitOn sep (as ++ sep :: bs) = splitOn sep as ++ splitOn sep bs := by
  rw [splitOn_eq, splitOn_eq, splitOn_eq, List.splitOn_append_cons_self]

theorem splitOn_joinWith {sep : α} {ps : List (List α)} (hne : ps ≠ [])
    (h : ∀ p ∈ ps, sep ∉ p) : splitOn sep (joinWith sep ps) = ps := by
  rw [splitOn_eq, joinWith_eq, List.splitOn_intercalate sep h hne]

theorem notMem_of_mem_splitOn {sep : α} {as p : List α} (h : p ∈ splitOn sep as) : sep ∉ p := by
  induction as generalizing p with
  | nil =>
    rw [splitOn, List.mem_singleton] at h
    subst h
    exact List.not_mem_nil
  | cons a as ih =>
    by_cases hsep : a = sep
    · rw [hsep, splitOn_cons_self] at h
      rcases List.mem_cons.mp h with rfl | hrest
      · exact List.not_mem_nil
      · exact ih hrest
    · rw [splitOn_cons_of_ne hsep] at h
      cases hs : splitOn sep as with
      | nil => exact absurd hs (splitOn_ne_nil sep as)
      | cons q qs =>
        rw [hs] at h ih
        rcases List.mem_cons.mp h with rfl | hrest
        · rw [List.mem_cons, not_or]
          exact ⟨Ne.symm hsep, ih List.mem_cons_self⟩
        · exact ih (List.mem_cons_of_mem q hrest)

theorem length_splitOn (sep : α) (as : List α) : (splitOn sep as).length = as.count sep + 1 := by
  induction as with
  | nil => rfl
  | cons a as ih =>
    by_cases h : a = sep
    · rw [h, splitOn_cons_self, List.count_cons_self, List.length_cons, ih]
    · rw [splitOn_cons_of_ne h, List.length_modifyHead, List.count_cons_of_ne h, ih]

/-- Whether `part` starts `as`, and what follows it. -/
def stripStart? (part as : List α) : Option (List α) :=
  match part, as with
  | [], as => some as
  | _ :: _, [] => none
  | p :: ps, a :: as => if p = a then stripStart? ps as else none

theorem stripStart?_eq_some_iff {part as rest : List α} :
    stripStart? part as = some rest ↔ as = part ++ rest := by
  induction part generalizing as with
  | nil => simp [stripStart?]
  | cons p ps ih =>
    cases as with
    | nil => simp [stripStart?]
    | cons a as =>
      rw [stripStart?, List.cons_append, List.cons.injEq, ← ih]
      by_cases h : p = a
      · simp [h]
      · simp [h, Ne.symm h]

theorem isSome_stripStart?_iff {part as : List α} : (stripStart? part as).isSome ↔ part <+: as := by
  simp only [Option.isSome_iff_exists, stripStart?_eq_some_iff]
  exact exists_congr fun rest ↦ eq_comm

end DiagnosticFeed.Text
