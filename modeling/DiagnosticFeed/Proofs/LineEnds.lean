import DiagnosticFeed.Document
import DiagnosticFeed.Proofs.Fallible

/-!
# What is lost between the lines

A text is cut at its line feeds, and each piece is given without one carriage return at its end. Put
together again with line feeds in between, the lines are the text less some of its carriage returns.
Which ones are lost is said here by their places, without the pieces: those that have a line feed or
nothing right behind them. So a line end loses one carriage return at most, however many are in
front of it, and every other character stays where it was among the others.

Cutting and then taking carriage returns off is the same as taking them out of the whole text and
then cutting it. The lines are found again from what they join to, because none holds a line feed.
-/

namespace DiagnosticFeed

/-! ## Texts -/

namespace Text

/-- The carriage return of a line end is at this place: a line feed stands right behind it, or the
text is over. -/
def IsEndReturn (cs : List Char) (i : Nat) : Prop :=
  cs[i]? = some '\r' ∧ (cs[i + 1]? = some '\n' ∨ i + 1 = cs.length)

instance (cs : List Char) (i : Nat) : Decidable (IsEndReturn cs i) :=
  inferInstanceAs (Decidable (_ ∧ _))

/-- The text without the carriage returns of its line ends, all else in its order. -/
def withoutEndReturns (cs : List Char) : List Char :=
  (cs.zipIdx.filter fun place ↦ ¬IsEndReturn cs place.2).map Prod.fst

theorem isEndReturn_cons_zero {c : Char} {cs : List Char} :
    IsEndReturn (c :: cs) 0 ↔ c = '\r' ∧ ∀ d ∈ cs.head?, d = '\n' := by
  cases cs <;> simp [IsEndReturn]

theorem isEndReturn_cons_succ {c : Char} {cs : List Char} {i : Nat} :
    IsEndReturn (c :: cs) (i + 1) ↔ IsEndReturn cs i := by
  simp [IsEndReturn]

theorem withoutEndReturns_cons (c : Char) (cs : List Char) :
    withoutEndReturns (c :: cs) =
      if IsEndReturn (c :: cs) 0 then withoutEndReturns cs else c :: withoutEndReturns cs := by
  have hrest : (cs.zipIdx 1).filter (fun place ↦ ¬IsEndReturn (c :: cs) place.2) =
      (cs.zipIdx.filter fun place ↦ ¬IsEndReturn cs place.2).map (Prod.map id (· + 1)) := by
    rw [List.zipIdx_succ, List.filter_map]
    simp [Function.comp_def, isEndReturn_cons_succ]
  have hfst : Prod.fst ∘ Prod.map id (· + 1) = (Prod.fst : Char × Nat → Char) := rfl
  rw [withoutEndReturns, withoutEndReturns, List.zipIdx_cons, List.filter_cons, hrest]
  split
  · next h =>
    rw [if_neg (by simpa using h), List.map_cons, List.map_map, hfst]
  · next h =>
    rw [if_pos (by simpa using h), List.map_map, hfst]

/-- Carriage returns may be taken out of the whole text before it is cut. -/
theorem lines_eq_splitOn (cs : List Char) : lines cs = splitOn '\n' (withoutEndReturns cs) := by
  induction cs with
  | nil => rfl
  | cons c cs ih =>
    -- Only the next character tells whether a carriage return is lost, and `lines` has an equation
    -- for either case.
    rw [withoutEndReturns_cons]
    split
    · next hreturn =>
      obtain ⟨rfl, hbehind⟩ := isEndReturn_cons_zero.mp hreturn
      rw [lines_return_cons hbehind, ih]
    · next hkept =>
      by_cases hn : c = '\n'
      · rw [hn, lines_newline_cons, splitOn_cons_self, ih]
      · rw [lines_cons hn (mt isEndReturn_cons_zero.mpr hkept), splitOn_cons_of_ne hn, ih]

theorem newline_notMem_of_mem_lines {cs line : List Char} (h : line ∈ lines cs) : '\n' ∉ line :=
  notMem_of_mem_splitOn (lines_eq_splitOn cs ▸ h)

theorem joinWith_lines (cs : List Char) : joinWith '\n' (lines cs) = withoutEndReturns cs := by
  rw [lines_eq_splitOn, joinWith_splitOn]

/-- No other lines join to the same. -/
theorem eq_lines_of_joinWith {cs : List Char} {ls : List (List Char)} (hne : ls ≠ [])
    (hnewline : ∀ line ∈ ls, '\n' ∉ line) (hjoin : joinWith '\n' ls = withoutEndReturns cs) :
    ls = lines cs := by
  rw [lines_eq_splitOn, ← hjoin, splitOn_joinWith hne hnewline]

/-- A text is cut into these lines, and nothing is lost but its line ends. -/
structure CutInto (text : String) (lines : List String) : Prop where
  length_eq : lines.length = text.toList.count '\n' + 1
  newline_notMem : ∀ line ∈ lines, '\n' ∉ line.toList
  /-- Joined with line feeds, the lines are the text without the carriage returns of its line
  ends. -/
  intercalate_eq : ("\n".intercalate lines).toList = withoutEndReturns text.toList

theorem map_toList_linesOf (text : String) :
    (linesOf text).map String.toList = lines text.toList := by
  rw [linesOf, List.map_map]
  simp [Function.comp_def]

theorem cutInto_linesOf (text : String) : CutInto text (linesOf text) where
  length_eq := by rw [linesOf, List.length_map, length_lines]
  newline_notMem := by
    intro line hline
    have hmem : line.toList ∈ (linesOf text).map String.toList := List.mem_map_of_mem hline
    rw [map_toList_linesOf] at hmem
    exact newline_notMem_of_mem_lines hmem
  intercalate_eq := by
    rw [toList_intercalate rfl, map_toList_linesOf]
    exact joinWith_lines text.toList

/-- A text is cut in one way only. -/
theorem CutInto.eq_linesOf {text : String} {lines : List String} (h : CutInto text lines) :
    lines = linesOf text := by
  have hne : lines.map String.toList ≠ [] := by
    rw [ne_eq, List.map_eq_nil_iff, ← List.length_eq_zero_iff, h.length_eq]
    exact Nat.succ_ne_zero _
  have hnewline : ∀ line ∈ lines.map String.toList, '\n' ∉ line :=
    List.forall_mem_map.mpr h.newline_notMem
  have hjoin := (toList_intercalate rfl lines).symm.trans h.intercalate_eq
  have hlines := eq_lines_of_joinWith hne hnewline hjoin
  rw [← map_toList_linesOf] at hlines
  exact (List.map_inj_right fun _ _ ↦ String.toList_inj.mp).mp hlines

end Text

/-! ## Documents -/

namespace Document

def readLines (d : Document) : Except Failure (List String) :=
  (List.range d.lineCount).mapM fun i : Nat ↦ d.lineAt i

theorem readLines_eq (d : Document) : d.readLines = .ok d.lines := by
  have hline : ∀ i ∈ List.range d.lineCount, d.lineAt (i : Nat) = .ok (d.lines.getD i "") := by
    intro i hi
    have hlt : i < d.lines.length := List.mem_range.mp hi
    rw [lineAt, line?, lineOf?, if_neg (by omega), Int.toNat_natCast,
      List.getD_eq_getElem?_getD, List.getElem?_eq_getElem hlt]
    rfl
  rw [readLines, mapM_eq_ok hline]
  congr 1
  refine List.ext_getElem (by simp [lineCount]) fun i _ hi ↦ ?_
  simp [hi]

/-- **Cutting a text into lines loses only line ends.** The lines that a document gives, from the
first to the last, are as many as its line feeds and one more, hold no line feed, and join to its
text without one carriage return in front of each line feed and at the end, where there is one. No
other lines do. -/
theorem lines_lose_only_lineEnds (d : Document) :
    d.readLines = .ok d.lines ∧ Text.CutInto d.text d.lines ∧
      ∀ lines, Text.CutInto d.text lines → lines = d.lines := by
  have hcut := Text.cutInto_linesOf d.text
  rw [← d.lines_eq] at hcut
  refine ⟨d.readLines_eq, hcut, fun lines h ↦ ?_⟩
  rw [h.eq_linesOf, d.lines_eq]

/-- A document with carriage returns in a row, in front of a line, and alone at the end. -/
def raggedSample : Document where
  uri := "untitled:a"
  text := "a\r\r\n\rb\n\r"

theorem lines_of_raggedSample :
    Text.CutInto raggedSample.text ["a\r", "\rb", ""] ∧
      raggedSample.readLines = .ok ["a\r", "\rb", ""] := by
  have hcut : Text.CutInto raggedSample.text ["a\r", "\rb", ""] :=
    ⟨by decide, by decide, by decide⟩
  obtain ⟨hread, -, honly⟩ := lines_lose_only_lineEnds raggedSample
  exact ⟨hcut, by rw [hread, ← honly _ hcut]⟩

end Document

end DiagnosticFeed
