import DiagnosticFeed.Text.Split

/-!
# Lines

A text has one line more than line feeds. A carriage return in front of a line feed, or at the end
of the text, belongs to the line end and not to the line; one such character is removed per line.

Files are read with every kind of line end turned into a line feed.
-/

namespace DiagnosticFeed.Text

/-- A line without the carriage return at its end. -/
def dropReturn (line : List Char) : List Char :=
  if line.getLast? = some '\r' then line.dropLast else line

def lines (cs : List Char) : List (List Char) :=
  (splitOn '\n' cs).map dropReturn

theorem dropReturn_cons {c : Char} {line : List Char} (h : c = '\r' → line ≠ []) :
    dropReturn (c :: line) = c :: dropReturn line := by
  cases line with
  | nil => simp [dropReturn, mt h]
  | cons d line =>
    rw [dropReturn, dropReturn, List.getLast?_cons_cons, List.dropLast_cons_cons]
    split <;> rfl

/-- A line feed ends an empty line in front of the others. -/
theorem lines_newline_cons (cs : List Char) : lines ('\n' :: cs) = [] :: lines cs := by
  rw [lines, splitOn_cons_self]
  rfl

/-- A carriage return is not seen where a line ends behind it. -/
theorem lines_return_cons {cs : List Char} (h : ∀ c ∈ cs.head?, c = '\n') :
    lines ('\r' :: cs) = lines cs := by
  cases cs with
  | nil => rfl
  | cons c cs =>
    rw [h c rfl, lines, splitOn_cons_of_ne (by decide), splitOn_cons_self]
    rfl

/-- Any other character is the first one of the first line. -/
theorem lines_cons {c : Char} {cs : List Char} (hn : c ≠ '\n')
    (hr : ¬(c = '\r' ∧ ∀ d ∈ cs.head?, d = '\n')) :
    lines (c :: cs) = (lines cs).modifyHead (c :: ·) := by
  rw [lines, lines, splitOn_cons_of_ne hn]
  cases hpieces : splitOn '\n' cs with
  | nil => exact absurd hpieces (splitOn_ne_nil '\n' cs)
  | cons p ps =>
    have hp : c = '\r' → p ≠ [] := by
      rintro hc rfl
      exact hr ⟨hc, head?_splitOn_eq_nil_iff.mp (by rw [hpieces]; rfl)⟩
    rw [List.modifyHead_cons, List.map_cons, dropReturn_cons hp, List.map_cons,
      List.modifyHead_cons]

theorem length_lines (cs : List Char) : (lines cs).length = cs.count '\n' + 1 := by
  rw [lines, List.length_map, length_splitOn]

/-- The text with carriage return and line feed, in this order, and lone carriage returns turned
into line feeds. -/
def unifyLineEnds : List Char → List Char
  | [] => []
  | '\r' :: '\n' :: cs => '\n' :: unifyLineEnds cs
  | '\r' :: cs => '\n' :: unifyLineEnds cs
  | c :: cs => c :: unifyLineEnds cs

theorem unifyLineEnds_of_notMem {cs : List Char} (h : '\r' ∉ cs) : unifyLineEnds cs = cs := by
  induction cs with
  | nil => rfl
  | cons c cs ih =>
    rw [List.mem_cons, not_or] at h
    rw [unifyLineEnds, ih h.2]
    · intro cs' hc
      exact absurd hc (Ne.symm h.1)
    · exact Ne.symm h.1

theorem return_notMem_unifyLineEnds (cs : List Char) : '\r' ∉ unifyLineEnds cs := by
  induction cs using unifyLineEnds.induct with
  | case1 => exact List.not_mem_nil
  | case2 cs ih => simp [unifyLineEnds, ih]
  | case3 cs hne ih => simp [unifyLineEnds, ih]
  | case4 c cs hne hc ih => simp [unifyLineEnds, ih, Ne.symm hc]

theorem unifyLineEnds_unifyLineEnds (cs : List Char) :
    unifyLineEnds (unifyLineEnds cs) = unifyLineEnds cs :=
  unifyLineEnds_of_notMem (return_notMem_unifyLineEnds cs)

end DiagnosticFeed.Text
