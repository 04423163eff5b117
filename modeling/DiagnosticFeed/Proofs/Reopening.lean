import DiagnosticFeed.Proofs.Files
import DiagnosticFeed.Span

/-!
# Documents that are saved and opened again

Line ends are treated in three ways: a text is written as it is, read with its line ends unified,
and told line by line without the carriage return at the end of a line. A document that is saved and
opened again has the lines that it had, so that what was placed in the one has the same place in the
other, if these three agree on its text. They do if every carriage return is in front of a line
feed, and for no other text: a carriage return that stands elsewhere is read as a line end of its
own.
-/

namespace DiagnosticFeed

/-! ## Texts -/

namespace Text

/-- Every carriage return has a line feed right behind it. -/
def Paired (cs : List Char) : Prop :=
  ∀ before after, cs = before ++ '\r' :: after → after.head? = some '\n'

theorem paired_nil : Paired [] := by
  intro before after h
  cases before <;> cases h

theorem paired_cons_iff {c : Char} {cs : List Char} :
    Paired (c :: cs) ↔ (c = '\r' → cs.head? = some '\n') ∧ Paired cs := by
  constructor
  · intro h
    refine ⟨?_, fun before after hcs ↦ h (c :: before) after (congrArg (c :: ·) hcs)⟩
    rintro rfl
    exact h [] cs rfl
  · rintro ⟨hfirst, hrest⟩ before after hcs
    cases before with
    | nil =>
      obtain ⟨hc, rfl⟩ := List.cons.inj hcs
      exact hfirst hc
    | cons b before => exact hrest before after (List.cons.inj hcs).2

instance decidablePaired : (cs : List Char) → Decidable (Paired cs)
  | [] => .isTrue paired_nil
  | c :: cs =>
    have := decidablePaired cs
    decidable_of_iff ((c = '\r' → cs.head? = some '\n') ∧ Paired cs) paired_cons_iff.symm

/-- **Paired line ends may be unified**: the lines are the same. -/
theorem lines_unifyLineEnds {cs : List Char} (h : Paired cs) :
    lines (unifyLineEnds cs) = lines cs := by
  induction cs using unifyLineEnds.induct with
  | case1 => rfl
  | case2 cs ih =>
    rw [unifyLineEnds, lines_return_cons (by simp), lines_newline_cons, lines_newline_cons,
      ih (paired_cons_iff.mp (paired_cons_iff.mp h).2).2]
  | case3 cs hlone ih =>
    -- No line feed follows here.
    obtain ⟨rest, rfl⟩ := List.head?_eq_some_iff.mp ((paired_cons_iff.mp h).1 rfl)
    exact absurd rfl (hlone rest)
  | case4 c cs _ hr ih =>
    have hrest := ih (paired_cons_iff.mp h).2
    rw [unifyLineEnds]
    · by_cases hn : c = '\n'
      · rw [hn, lines_newline_cons, lines_newline_cons, hrest]
      · rw [lines_cons hn (mt And.left hr), lines_cons hn (mt And.left hr), hrest]
    all_goals assumption

/-- Unifying line ends takes no line feed away, and adds one for a carriage return that stands
alone. -/
theorem count_newline_unifyLineEnds (cs : List Char) :
    cs.count '\n' ≤ (unifyLineEnds cs).count '\n' ∧
      ((unifyLineEnds cs).count '\n' ≤ cs.count '\n' → Paired cs) := by
  induction cs using unifyLineEnds.induct with
  | case1 => exact ⟨Nat.le_refl _, fun _ ↦ paired_nil⟩
  | case2 cs ih =>
    have hcount : ('\r' :: '\n' :: cs).count '\n' = cs.count '\n' + 1 := by simp
    have hne : '\n' ≠ '\r' := by decide
    rw [unifyLineEnds, hcount, List.count_cons_self, Nat.add_le_add_iff_right,
      Nat.add_le_add_iff_right]
    exact ⟨ih.1, fun h ↦ paired_cons_iff.mpr
      ⟨fun _ ↦ rfl, paired_cons_iff.mpr ⟨fun h' ↦ absurd h' hne, ih.2 h⟩⟩⟩
  | case3 cs hlone ih =>
    have hcount : ('\r' :: cs).count '\n' = cs.count '\n' := by simp
    rw [unifyLineEnds, hcount, List.count_cons_self]
    · exact ⟨Nat.le_succ_of_le ih.1, fun h ↦ absurd h (by omega)⟩
    · exact hlone
  | case4 c cs hc hr ih =>
    have hcount (xs : List Char) :
        (c :: xs).count '\n' = xs.count '\n' + if c = '\n' then 1 else 0 := by
      simp [List.count_cons]
    rw [unifyLineEnds, hcount, hcount, Nat.add_le_add_iff_right, Nat.add_le_add_iff_right]
    · exact ⟨ih.1, fun h ↦ paired_cons_iff.mpr ⟨fun h' ↦ absurd h' hr, ih.2 h⟩⟩
    all_goals assumption

/-- **No other line ends may**: a text whose lines stay is paired. -/
theorem lines_unifyLineEnds_iff {cs : List Char} :
    lines (unifyLineEnds cs) = lines cs ↔ Paired cs := by
  refine ⟨fun h ↦ (count_newline_unifyLineEnds cs).2 ?_, lines_unifyLineEnds⟩
  have hlength := congrArg List.length h
  rw [length_lines, length_lines] at hlength
  omega

end Text

/-! ## Files -/

namespace Disk

theorem readText_of_content? {disk : Disk} {p : FilePath} {text : String}
    (hread : disk.faults.get? .read = none) (h : disk.content? p = some (.text text)) :
    disk.readText p = .ok (String.ofList (Text.unifyLineEnds text.toList)) := by
  have hcontent : disk.read p = .ok (.text text) := by
    rw [read, check, hread]
    simp only [h]
    rfl
  rw [readText, hcontent]
  rfl

end Disk

/-! ## Documents -/

namespace Document

def charAt? (d : Document) (p : Position) : Option Char :=
  if p.character < 0 then none
  else (d.line? p.line).bind fun line ↦ line.toList[p.character.toNat]?

/-- Two documents have the same lines under the same numbers, and so the same character at each
position. -/
structure Alike (d d' : Document) : Prop where
  lineCount : d'.lineCount = d.lineCount
  lineAt : ∀ i, d'.lineAt i = d.lineAt i
  charAt : ∀ p, d'.charAt? p = d.charAt? p

theorem lineAt_toOption (d : Document) (i : Int) : (d.lineAt i).toOption = d.line? i := by
  rw [lineAt]
  cases d.line? i <;> rfl

theorem alike_iff {d d' : Document} :
    d.Alike d' ↔ Text.lines d'.text.toList = Text.lines d.text.toList := by
  constructor
  · intro h
    have hlines : d'.lines = d.lines := by
      refine List.ext_getElem? fun n ↦ ?_
      have hline := congrArg Except.toOption (h.lineAt n)
      rwa [lineAt_toOption, lineAt_toOption] at hline
    rw [d.lines_eq, d'.lines_eq] at hlines
    exact (List.map_inj_right fun _ _ ↦ String.ofList_inj.mp).mp hlines
  · intro h
    have hlines : d'.lines = d.lines := by rw [d.lines_eq, d'.lines_eq, linesOf, linesOf, h]
    refine ⟨?_, fun i ↦ ?_, fun p ↦ ?_⟩
    · rw [lineCount, lineCount, hlines]
    · rw [lineAt, lineAt, line?, line?, lineCount, lineCount, hlines]
    · rw [charAt?, charAt?, line?, line?, hlines]

/-- **A document that is saved and opened again has the lines that it had**, if every carriage
return of its text is in front of a line feed, and only then. It can be opened if reading does not
fail. -/
theorem reopened_after_save {d saved : Document} {disk disk' : Disk} {p : FilePath}
    {text : String} (language : String) (hpath : d.path = some p)
    (hsave : (d.setText text).save disk = .ok (saved, disk'))
    (hread : disk'.faults.get? .read = none) :
    ∃ again, ofFile disk' p language = .ok again ∧
      again.path = some (FilePath.canonical disk.cwd p) ∧
      (saved.Alike again ↔ Text.Paired text.toList) := by
  obtain ⟨p', hpath', hwrite, rfl⟩ := eq_of_save hsave
  obtain rfl : p = p' := by simpa [setText, hpath] using hpath'
  have hcwd : disk'.cwd = disk.cwd := by
    rw [Disk.eq_of_writeText hwrite]
    rfl
  have hcontent : disk'.content? (FilePath.canonical disk.cwd p) = some (.text text) := by
    rw [Disk.content?_of_writeText hwrite, if_pos (Disk.key_canonical disk p).symm]
    rfl
  have htext := Disk.readText_of_content? hread hcontent
  rw [ofFile, hcwd]
  simp only [htext]
  refine ⟨_, rfl, rfl, ?_⟩
  rw [alike_iff, ← Text.lines_unifyLineEnds_iff]
  exact Eq.congr_left (congrArg Text.lines String.toList_ofList)

/-- A document whose path is relative and takes a detour. -/
def detouredSample : Document where
  uri := "file:///w/a.sg"
  path := some ⟨.relative, ["b", "..", "a.sg"]⟩

/-- A disk on which the file is there already. -/
def usedSample : Disk where
  cwd := ⟨.root, ["w"]⟩
  files := [("/w/a.sg", .text "old\r")]
  dirs := []
  faults := [(.unlink, .breaks)]

/-- Line ends of both kinds, next to each other and at the end. -/
def mixedSample : String := "one\r\ntwo\n\r\n\nthree\r\n"

theorem reopened_after_save_mixed :
    ∃ saved disk again, (detouredSample.setText mixedSample).save usedSample = .ok (saved, disk) ∧
      ofFile disk ⟨.relative, ["b", "..", "a.sg"]⟩ "surge" = .ok again ∧
      again.lineCount = 6 ∧ saved.Alike again := by
  obtain ⟨again, hopened, -, halike⟩ :=
    @reopened_after_save detouredSample _ usedSample _ _ mixedSample "surge" rfl rfl rfl
  have hagain := halike.mpr (by decide)
  exact ⟨_, _, again, rfl, hopened, hagain.lineCount, hagain⟩

end Document

end DiagnosticFeed
