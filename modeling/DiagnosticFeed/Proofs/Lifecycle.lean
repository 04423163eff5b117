import DiagnosticFeed.Proofs.Files
import Mathlib.Data.List.Induction

/-!
# The life of a document

The text of a document is set, saved and closed any number of times, in any order, and a save may
fail at each of these times. What the document is afterwards can be said from the operations alone:
each field answers to the operations that concern it, and to no others.

An operation is run on the document in place, so that what it assigns before it fails would stay.
That a failing save leaves no trace is then a fact about the order in which it goes about things.

The lines are kept beside the text. They are described here by where they lie in the text, without
the splitting that finds them.
-/

namespace DiagnosticFeed

/-! ## Lines -/

namespace Text

/-- A stretch of a text between two neighbouring line feeds, or a line feed and an end of the text,
with `n` line feeds before it. -/
structure Stretch (cs : List Char) (n : Nat) (piece : List Char) : Prop where
  lies : ∃ before after, cs = before ++ piece ++ after ∧ before.count '\n' = n ∧
    (∀ c ∈ before.getLast?, c = '\n') ∧ ∀ c ∈ after.head?, c = '\n'
  whole : '\n' ∉ piece

/-- The line of number `n` of a text: a stretch of it, less one carriage return at its end. -/
def IsLine (cs : List Char) (n : Nat) (line : List Char) : Prop :=
  ∃ piece, Stretch cs n piece ∧
    (piece = line ++ ['\r'] ∨ piece = line ∧ piece.getLast? ≠ some '\r')

theorem splitOn_stretch {before after piece : List Char} (hpiece : '\n' ∉ piece)
    (hbefore : ∀ c ∈ before.getLast?, c = '\n') (hafter : ∀ c ∈ after.head?, c = '\n') :
    (splitOn '\n' (before ++ piece ++ after))[before.count '\n']? = some piece := by
  have hfirst : ∃ pieces, splitOn '\n' (piece ++ after) = piece :: pieces := by
    cases after with
    | nil => exact ⟨[], by rw [List.append_nil, splitOn_of_notMem hpiece]⟩
    | cons c after =>
      rw [hafter c rfl]
      exact ⟨_, splitOn_append_cons hpiece after⟩
  obtain ⟨pieces, hpieces⟩ := hfirst
  rw [List.append_assoc]
  rcases List.eq_nil_or_concat before with rfl | ⟨before, c, rfl⟩
  · rw [List.nil_append, hpieces]
    rfl
  · have hc : c = '\n' := hbefore c (by simp)
    have hcount : (before ++ [c]).count '\n' = (splitOn '\n' before).length := by
      rw [hc, List.count_append, length_splitOn]
      rfl
    rw [List.concat_eq_append, hcount, hc, List.append_assoc, List.singleton_append,
      splitOn_append, hpieces, List.getElem?_append_right (Nat.le_refl _), Nat.sub_self]
    rfl

theorem exists_stretch {cs : List Char} {n : Nat} (h : n ≤ cs.count '\n') :
    ∃ piece, Stretch cs n piece := by
  induction cs generalizing n with
  | nil =>
    obtain rfl : n = 0 := by simpa using h
    exact ⟨[], ⟨⟨[], [], rfl, rfl, by simp, by simp⟩, List.not_mem_nil⟩⟩
  | cons c cs ih =>
    cases n with
    | zero =>
      by_cases hc : c = '\n'
      · refine ⟨[], ⟨⟨[], c :: cs, rfl, rfl, by simp, ?_⟩, List.not_mem_nil⟩⟩
        simpa using hc
      · obtain ⟨piece, ⟨before, after, hcs, hcount, hbefore, hafter⟩, hpiece⟩ := ih (Nat.zero_le _)
        -- Nothing stands in front of the first stretch, so it begins with this character.
        obtain rfl : before = [] := by
          rcases List.eq_nil_or_concat before with hnil | ⟨before, d, rfl⟩
          · exact hnil
          · rw [hbefore d (by simp)] at hcount
            simp at hcount
        refine ⟨c :: piece, ⟨⟨[], after, by rw [hcs]; rfl, rfl, by simp, hafter⟩, ?_⟩⟩
        rw [List.mem_cons, not_or]
        exact ⟨Ne.symm hc, hpiece⟩
    | succ n =>
      by_cases hc : c = '\n'
      · subst hc
        rw [List.count_cons_self] at h
        obtain ⟨piece, ⟨before, after, hcs, hcount, hbefore, hafter⟩, hpiece⟩ :=
          ih (Nat.le_of_succ_le_succ h)
        refine ⟨piece, ⟨⟨'\n' :: before, after, by rw [hcs]; rfl, ?_, ?_, hafter⟩, hpiece⟩⟩
        · rw [List.count_cons_self, hcount]
        · cases before with
          | nil => simp
          | cons d before => simpa using hbefore
      · rw [List.count_cons_of_ne hc] at h
        obtain ⟨piece, ⟨before, after, hcs, hcount, hbefore, hafter⟩, hpiece⟩ := ih h
        refine ⟨piece, ⟨⟨c :: before, after, by rw [hcs]; rfl, ?_, ?_, hafter⟩, hpiece⟩⟩
        · rw [List.count_cons_of_ne hc, hcount]
        · cases before with
          | nil => simp at hcount
          | cons d before => simpa using hbefore

/-- The pieces between line feeds are the stretches of the text, by their numbers. -/
theorem getElem?_splitOn_iff {cs piece : List Char} {n : Nat} :
    (splitOn '\n' cs)[n]? = some piece ↔ Stretch cs n piece := by
  have hfound {piece : List Char} (h : Stretch cs n piece) :
      (splitOn '\n' cs)[n]? = some piece := by
    obtain ⟨⟨before, after, rfl, rfl, hbefore, hafter⟩, hpiece⟩ := h
    exact splitOn_stretch hpiece hbefore hafter
  refine ⟨fun h ↦ ?_, hfound⟩
  obtain ⟨hn, -⟩ := List.getElem?_eq_some_iff.mp h
  rw [length_splitOn] at hn
  obtain ⟨stretch, hstretch⟩ := exists_stretch (Nat.le_of_lt_succ hn)
  obtain rfl : stretch = piece := by simpa [h] using (hfound hstretch).symm
  exact hstretch

theorem dropReturn_eq_iff {piece line : List Char} :
    dropReturn piece = line ↔
      piece = line ++ ['\r'] ∨ piece = line ∧ piece.getLast? ≠ some '\r' := by
  rw [dropReturn]
  rcases List.eq_nil_or_concat piece with rfl | ⟨piece, c, rfl⟩
  · simp
  · by_cases hc : c = '\r'
    · simp [hc]
    · simp [hc]

theorem getElem?_lines_iff {cs line : List Char} {n : Nat} :
    (lines cs)[n]? = some line ↔ IsLine cs n line := by
  rw [lines, List.getElem?_map, Option.map_eq_some_iff, IsLine]
  exact exists_congr fun piece ↦ and_congr getElem?_splitOn_iff dropReturn_eq_iff

end Text

namespace Document

theorem lineCount_eq (d : Document) : d.lineCount = d.text.toList.count '\n' + 1 := by
  rw [lineCount, d.lines_eq, linesOf, List.length_map, Text.length_lines]

theorem line?_eq_some_iff {d : Document} {i : Int} {line : String} :
    d.line? i = some line ↔ 0 ≤ i ∧ Text.IsLine d.text.toList i.toNat line.toList := by
  rw [line?, lineOf?, d.lines_eq, linesOf]
  split
  · next hneg => simp [Int.not_le.mpr hneg]
  · next hneg =>
    rw [List.getElem?_map, Option.map_eq_some_iff, ← Text.getElem?_lines_iff]
    constructor
    · rintro ⟨cs, hcs, rfl⟩
      rw [String.toList_ofList]
      exact ⟨Int.not_lt.mp hneg, hcs⟩
    · rintro ⟨-, h⟩
      exact ⟨line.toList, h, String.ofList_toList⟩

theorem line?_eq_none_iff {d : Document} {i : Int} :
    d.line? i = none ↔ i < 0 ∨ d.lineCount ≤ i := by
  rw [line?, lineOf?, lineCount]
  split
  · next hneg => simp [hneg]
  · next hneg =>
    rw [List.getElem?_eq_none_iff]
    omega

theorem lineAt_eq_ok_iff {d : Document} {i : Int} {line : String} :
    d.lineAt i = .ok line ↔ 0 ≤ i ∧ Text.IsLine d.text.toList i.toNat line.toList := by
  rw [← line?_eq_some_iff, lineAt]
  cases d.line? i <;> simp

theorem lineAt_eq_error_iff {d : Document} {i : Int} {e : Failure} :
    d.lineAt i = .error e ↔
      (i < 0 ∨ d.lineCount ≤ i) ∧ e = .lineOutOfRange i (d.lineCount - 1) := by
  rw [← line?_eq_none_iff, lineAt]
  cases d.line? i <;> simp [eq_comm]

/-! ## Operations -/

/-- What is done to a document. A save meets the files as they are at its time. -/
inductive Operation where
  | setText (text : String)
  | save (disk : Disk)
  | close

namespace Operation

def text? : Operation → Option String
  | setText text => some text
  | _ => none

/-- Whether a text is set. -/
def isChange : Operation → Bool
  | setText _ => true
  | _ => false

def isClose : Operation → Bool
  | close => true
  | _ => false

end Operation

/-- Saving in place: the backing file is looked for, then written, and then the flag is cleared. -/
def saving (disk : Disk) : EStateM Failure Document Disk := do
  let d ← get
  match d.path with
  | none => throw (.noBackingFile d.uri)
  | some p =>
    match disk.writeText p d.text with
    | .error (e, _) => throw e
    | .ok disk' =>
      set { d with dirty := false }
      return disk'

/-- An operation in place. -/
def Operation.run : Operation → EStateM Failure Document Unit
  | setText text => modify (·.setText text)
  | save disk => discard (saving disk)
  | close => modify Document.close

/-- What becomes of a document, and how the operation failed if it did. -/
def attempt (d : Document) (op : Operation) : Document × Option Failure :=
  match op.run d with
  | .ok _ d' => (d', none)
  | .error e d' => (d', some e)

/-- What becomes of a document. -/
def after (d : Document) (ops : List Operation) : Document :=
  ops.foldl (fun d op ↦ (d.attempt op).1) d

/-- Whether an operation decides if the buffer is dirty: a text is set, or a save goes through. -/
def decides (d : Document) (op : Operation) : Bool :=
  !op.isClose && (d.attempt op).2.isNone

/-- The operations that decided, each in its turn, if the buffer is dirty. -/
def decisive (d : Document) : List Operation → List Operation
  | [] => []
  | op :: ops =>
    (if d.decides op then [op] else []) ++ (d.attempt op).1.decisive ops

section

variable {d : Document} {ops : List Operation} {op : Operation}

@[simp] theorem attempt_setText (text : String) :
    d.attempt (.setText text) = (d.setText text, none) := rfl

@[simp] theorem attempt_close : d.attempt .close = (d.close, none) := rfl

/-- Saving in place gives what saving gives, and keeps the document where it gives nothing. -/
theorem saving_eq (d : Document) (disk : Disk) :
    (saving disk).run d = match d.save disk with
      | .ok (d', disk') => .ok disk' d'
      | .error (e, _) => .error e d := by
  obtain ⟨uri, text, path, language, version, dirty, closed, lines, hlines⟩ := d
  cases path with
  | none => rfl
  | some p =>
    rw [save]
    change (match disk.writeText p text with
      | .error (e, _) => throw e
      | .ok disk' => _ : EStateM Failure Document Disk) _ = _
    cases hwrite : disk.writeText p text with
    | error e =>
      simp only [hwrite]
      rfl
    | ok disk' =>
      simp only [hwrite]
      rfl

theorem attempt_save (disk : Disk) :
    d.attempt (.save disk) = match d.save disk with
      | .ok (d', _) => (d', none)
      | .error (e, _) => (d, some e) := by
  have hrun : (Operation.save disk).run d = match (saving disk).run d with
      | .ok _ d' => EStateM.Result.ok () d'
      | .error e d' => EStateM.Result.error e d' := by
    change EStateM.map (fun _ ↦ ()) (saving disk) d = match saving disk d with
      | .ok _ d' => EStateM.Result.ok () d'
      | .error e d' => EStateM.Result.error e d'
    rw [EStateM.map]
    cases saving disk d <;> rfl
  rw [attempt, hrun, saving_eq]
  cases d.save disk <;> rfl

/-- What an operation can do to a document. -/
theorem attempt_cases (d : Document) (op : Operation) :
    (∃ text, op = .setText text ∧ d.attempt op = (d.setText text, none)) ∨
      (∃ disk, op = .save disk ∧ d.attempt op = ({ d with dirty := false }, none)) ∨
      (∃ disk e, op = .save disk ∧ d.attempt op = (d, some e)) ∨
      (op = .close ∧ d.attempt op = (d.close, none)) := by
  cases op with
  | setText text => exact .inl ⟨text, rfl, rfl⟩
  | close => exact .inr (.inr (.inr ⟨rfl, rfl⟩))
  | save disk =>
    have hattempt := attempt_save (d := d) disk
    cases hsave : d.save disk with
    | error failed =>
      rw [hsave] at hattempt
      exact .inr (.inr (.inl ⟨disk, failed.1, rfl, hattempt⟩))
    | ok result =>
      obtain ⟨d', disk'⟩ := result
      obtain ⟨-, -, -, rfl⟩ := eq_of_save hsave
      rw [hsave] at hattempt
      exact .inr (.inl ⟨disk, rfl, hattempt⟩)

theorem attempt_of_fails {e : Failure} (h : (d.attempt op).2 = some e) :
    (d.attempt op).1 = d := by
  rcases d.attempt_cases op with ⟨_, -, hop⟩ | ⟨_, -, hop⟩ | ⟨_, _, -, hop⟩ | ⟨-, hop⟩
  · rw [hop] at h
    cases h
  · rw [hop] at h
    cases h
  · rw [hop]
  · rw [hop] at h
    cases h

/-! ## Histories -/

theorem after_concat : d.after (ops ++ [op]) = ((d.after ops).attempt op).1 := by
  rw [after, List.foldl_append, after]
  rfl

theorem decisive_concat :
    d.decisive (ops ++ [op]) =
      d.decisive ops ++ if (d.after ops).decides op then [op] else [] := by
  induction ops generalizing d with
  | nil =>
    rw [List.nil_append, decisive, decisive, decisive, List.append_nil, List.nil_append]
    rfl
  | cons o ops ih =>
    rw [List.cons_append, decisive, ih, ← List.append_assoc]
    rfl

end

/-- What a document has become after some operations, by what was done. -/
structure History (d : Document) (ops : List Operation) (now : Document) : Prop where
  uri : now.uri = d.uri
  path : now.path = d.path
  language : now.language = d.language
  /-- The text is the one that was set last. -/
  text : now.text = ((ops.filterMap Operation.text?).getLast?).getD d.text
  /-- Each change raises the version by one. -/
  version : now.version = d.version + ops.countP Operation.isChange
  /-- The buffer is dirty if what decided last was a change. -/
  dirty : now.dirty = ((d.decisive ops).getLast?.map Operation.isChange).getD d.dirty
  /-- Closing is for good. -/
  closed : now.closed = (d.closed || ops.any Operation.isClose)

/-- The history of a document goes on with one operation. -/
theorem History.concat {d : Document} {ops : List Operation} (h : d.History ops (d.after ops))
    (op : Operation) : d.History (ops ++ [op]) (d.after (ops ++ [op])) := by
  rw [after_concat]
  have hdecisive : d.decisive (ops ++ [op]) = _ := decisive_concat
  rcases (d.after ops).attempt_cases op with
    ⟨text, rfl, hop⟩ | ⟨disk, rfl, hop⟩ | ⟨disk, e, rfl, hop⟩ | ⟨rfl, hop⟩
  · have hdecides : (d.after ops).decides (.setText text) = true := rfl
    rw [hdecides, if_pos rfl] at hdecisive
    rw [hop]
    refine ⟨h.uri, h.path, h.language, ?_, ?_, ?_, ?_⟩
    · simp [setText, Operation.text?]
    · simp [setText, h.version, Operation.isChange, Int.add_assoc]
    · simp [hdecisive, setText, Operation.isChange]
    · simp [setText, h.closed, Operation.isClose]
  · have hdecides : (d.after ops).decides (.save disk) = true := by
      simp [decides, hop, Operation.isClose]
    rw [hdecides, if_pos rfl] at hdecisive
    rw [hop]
    refine ⟨h.uri, h.path, h.language, ?_, ?_, ?_, ?_⟩
    · simp [h.text, Operation.text?]
    · simp [h.version, Operation.isChange]
    · simp [hdecisive, Operation.isChange]
    · simp [h.closed, Operation.isClose]
  · have hdecides : (d.after ops).decides (.save disk) = false := by simp [decides, hop]
    rw [hdecides, if_neg Bool.false_ne_true, List.append_nil] at hdecisive
    rw [hop]
    refine ⟨h.uri, h.path, h.language, ?_, ?_, ?_, ?_⟩
    · simp [h.text, Operation.text?]
    · simp [h.version, Operation.isChange]
    · rw [hdecisive, h.dirty]
    · simp [h.closed, Operation.isClose]
  · have hdecides : (d.after ops).decides .close = false := rfl
    rw [hdecides, if_neg Bool.false_ne_true, List.append_nil] at hdecisive
    rw [hop]
    refine ⟨h.uri, h.path, h.language, ?_, ?_, ?_, ?_⟩
    · simp [close, h.text, Operation.text?]
    · simp [close, h.version, Operation.isChange]
    · simp [close, hdecisive, h.dirty]
    · simp [close, Operation.isClose]

theorem history_after (d : Document) (ops : List Operation) : d.History ops (d.after ops) := by
  induction ops using List.reverseRecOn with
  | nil => exact ⟨rfl, rfl, rfl, rfl, by simp [after], rfl, by simp [after]⟩
  | append_singleton ops op ih => exact ih.concat op

/-- What is read of a document line by line is its text. -/
structure Legible (d : Document) : Prop where
  lineCount : d.lineCount = d.text.toList.count '\n' + 1
  lineAt : ∀ i line, d.lineAt i = .ok line ↔
    0 ≤ i ∧ Text.IsLine d.text.toList i.toNat line.toList
  outOfRange : ∀ i e, d.lineAt i = .error e ↔
    (i < 0 ∨ d.lineCount ≤ i) ∧ e = .lineOutOfRange i (d.lineCount - 1)
  kind : ∀ i e, d.lineAt i = .error e → e.kind = "IndexError"

theorem legible (d : Document) : d.Legible where
  lineCount := d.lineCount_eq
  lineAt := fun _ _ ↦ lineAt_eq_ok_iff
  outOfRange := fun _ _ ↦ lineAt_eq_error_iff
  kind := by
    intro i e h
    obtain ⟨-, rfl⟩ := lineAt_eq_error_iff.mp h
    rfl

/-- What a save comes to: it is refused without a backing file, and otherwise hangs on writing the
text to it. Where it fails, the document stays as it is. -/
def SavesOrStays (d : Document) : Prop :=
  ∀ disk, d.attempt (.save disk) = match d.path with
    | none => (d, some (.noBackingFile d.uri))
    | some p =>
      match disk.writeText p d.text with
      | .error (e, _) => (d, some e)
      | .ok _ => ({ d with dirty := false }, none)

theorem savesOrStays (d : Document) : d.SavesOrStays := by
  intro disk
  rw [attempt_save, save]
  cases d.path with
  | none => rfl
  | some p =>
    cases hwrite : disk.writeText p d.text with
    | error e => simp [hwrite]
    | ok disk' => simp [hwrite]

/-- **A document is what was done to it.** Whatever its fields are to begin with and whatever is
done to it, with saves that fail among the rest, each field is as the operations on it say, the
lines are those of its text at the time, and a save that fails then leaves no trace. -/
theorem life_of_document (d : Document) (ops : List Operation) :
    d.History ops (d.after ops) ∧ (d.after ops).Legible ∧ (d.after ops).SavesOrStays ∧
      ∀ op e, ((d.after ops).attempt op).2 = some e →
        d.after (ops ++ [op]) = d.after ops := by
  refine ⟨d.history_after ops, (d.after ops).legible, (d.after ops).savesOrStays, ?_⟩
  intro op e hfails
  rw [after_concat]
  exact attempt_of_fails hfails

def heldSample : Document where
  uri := "file:///a"
  text := "one"
  path := some ⟨.root, ["a"]⟩

/-- A disk with room left. -/
def roomySample : Disk where
  cwd := ⟨.root, []⟩
  files := []
  dirs := []
  faults := []

/-- A disk on which writing fails. -/
def fullSample : Disk :=
  { roomySample with faults := [(.write, .code .noSpace)] }

/-- A change, a save that fails, one that goes through, the end, and another that fails. -/
def lifeSample : List Operation :=
  [.setText "two\r\n", .save fullSample, .save roomySample, .close, .save fullSample]

theorem life_of_sample :
    (heldSample.after lifeSample).version = 2 ∧ (heldSample.after lifeSample).dirty = false ∧
      (heldSample.after lifeSample).closed = true ∧
      heldSample.after (lifeSample ++ [.save fullSample]) = heldSample.after lifeSample := by
  obtain ⟨hhistory, -, -, hfails⟩ := life_of_document heldSample lifeSample
  exact ⟨hhistory.version, hhistory.dirty, hhistory.closed,
    hfails (.save fullSample) (.system .noSpace (some "/a")) rfl⟩

end Document

end DiagnosticFeed
