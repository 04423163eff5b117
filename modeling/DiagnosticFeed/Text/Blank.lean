/-!
# Blank characters

What counts as blank when text is trimmed or tested for content: the control characters that end
or separate lines and fields, and every space separator. Around a number the separators of fields
do not count.

A trimmed text has no blank at either end, and a text that has none is left as it is.
-/

namespace DiagnosticFeed.Text

/-- Blank characters: line and field separators and the spaces of every width. -/
def isBlank (c : Char) : Bool :=
  let n := c.toNat
  (9 ≤ n && n ≤ 13) || (28 ≤ n && n ≤ 32) || n == 0x85 || n == 0xA0 || n == 0x1680
    || (0x2000 ≤ n && n ≤ 0x200A) || n == 0x2028 || n == 0x2029 || n == 0x202F || n == 0x205F
    || n == 0x3000

/-- White space: the blank characters that do not separate fields. -/
def isSpace (c : Char) : Bool :=
  isBlank c && !(28 ≤ c.toNat && c.toNat ≤ 31)

def trimEnd (cs : List Char) : List Char :=
  (cs.reverse.dropWhile isBlank).reverse

def trim (cs : List Char) : List Char :=
  trimEnd (cs.dropWhile isBlank)

/-- The text without the white space at either end. -/
def trimSpace (cs : List Char) : List Char :=
  ((cs.dropWhile isSpace).reverse.dropWhile isSpace).reverse

def trimmed (s : String) : String :=
  String.ofList (trim s.toList)

def isAllBlank (s : String) : Bool :=
  s.toList.all isBlank

/-! ## Trimming -/

/-- A text has no blank at either end. -/
def Unpadded (cs : List Char) : Prop :=
  (∀ c ∈ cs.head?, isBlank c = false) ∧ ∀ c ∈ cs.getLast?, isBlank c = false

theorem isBlank_head?_dropWhile (cs : List Char) :
    ∀ c ∈ (cs.dropWhile isBlank).head?, isBlank c = false := by
  intro c hc
  have hhead := List.head?_dropWhile_not isBlank cs
  rw [Option.mem_def.mp hc] at hhead
  exact hhead

theorem dropWhile_eq_self {p : Char → Bool} {cs : List Char} (h : ∀ c ∈ cs.head?, p c = false) :
    cs.dropWhile p = cs := by
  cases cs with
  | nil => rfl
  | cons c cs => rw [List.dropWhile_cons_of_neg (by simp [h c rfl])]

theorem unpadded_trim (cs : List Char) : Unpadded (trim cs) := by
  rw [trim, trimEnd]
  refine ⟨fun c hc ↦ isBlank_head?_dropWhile cs c ?_, fun c hc ↦ ?_⟩
  · -- Blanks go at the end only if something is left in front of them.
    obtain ⟨blanks, hblanks⟩ := List.dropWhile_suffix (l := (cs.dropWhile isBlank).reverse) isBlank
    rw [← List.reverse_inj, List.reverse_append, List.reverse_reverse] at hblanks
    rw [← hblanks, List.head?_append, Option.mem_def.mp hc]
    rfl
  · rw [List.getLast?_reverse] at hc
    exact isBlank_head?_dropWhile _ c hc

theorem trim_eq_self {cs : List Char} (h : Unpadded cs) : trim cs = cs := by
  have hend : cs.reverse.dropWhile isBlank = cs.reverse :=
    dropWhile_eq_self (by simpa [List.head?_reverse] using h.2)
  rw [trim, dropWhile_eq_self h.1, trimEnd, hend, List.reverse_reverse]

/-- What has no blank at either end is blank only if it is empty. -/
theorem Unpadded.isAllBlank {s : String} (h : Unpadded s.toList) (hne : s ≠ "") :
    isAllBlank s = false := by
  obtain ⟨c, cs, hcs⟩ := List.exists_cons_of_ne_nil (mt String.toList_eq_nil_iff.mp hne)
  have hc : isBlank c = false := h.1 c (by rw [hcs]; rfl)
  rw [Text.isAllBlank, hcs, List.all_cons, hc, Bool.false_and]

end DiagnosticFeed.Text
