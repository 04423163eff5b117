import DiagnosticFeed.Proofs.Wire.Items

/-!
# What clamping makes of coordinates

A location is read against a text of which nothing is known: it may claim any number of lines, and
any of its lines may be missing when it is asked for. `span_of_location` says which values then have
a span at all and where this span lies: on lines that can be read, within these lines, and never
without anything in it where its line has something to hold.

The two ends are clamped each on its own. So a span can end on a line before the one it starts on,
and `ordered_iff` says when it does: the location ends on an earlier line than it starts on, and
this line is not the last one of the text or behind it.
-/

namespace DiagnosticFeed

theorem Position.lt_iff {p q : Position} :
    p.lt q = true ↔ p.line < q.line ∨ p.line = q.line ∧ p.character < q.character := by
  simp [lt]

theorem Position.le_iff {p q : Position} :
    p.le q = true ↔ p.line < q.line ∨ p.line = q.line ∧ p.character ≤ q.character := by
  obtain ⟨line, character⟩ := p
  obtain ⟨line', character'⟩ := q
  rw [le, Bool.or_eq_true, lt_iff, beq_iff_eq, Position.mk.injEq]
  dsimp only
  omega

namespace Wire

/-! ## Values that spell no coordinate -/

/-- What no coordinate is read from: anything but a number or a text, a number that is not finite,
and a text that spells neither a whole number nor a finite one. -/
inductive Unusable : Json.Value → Prop
  | null : Unusable .null
  | bool (b : Bool) : Unusable (.bool b)
  | array (items : List Json.Value) : Unusable (.arr items)
  | object (o : Json.Object) : Unusable (.obj o)
  | number (x : Float) (infinite : Decimal.truncate? x = none) : Unusable (.float x)
  | text (s : String) (notWhole : Decimal.readInt? (Text.trim s.toList) = none)
    (notFinite : ∀ x, Decimal.readFloat? (Text.trim s.toList) = some x →
      Decimal.truncate? x = none) : Unusable (.str s)

theorem coordinateOfText?_eq_none_iff {cs : List Char} :
    coordinateOfText? cs = none ↔ Decimal.readInt? cs = none ∧
      ∀ x, Decimal.readFloat? cs = some x → Decimal.truncate? x = none := by
  rw [coordinateOfText?]
  cases Decimal.readInt? cs with
  | some n => simp
  | none => simp [Option.bind_eq_none_iff]

theorem unusable_iff {value : Json.Value} : Unusable value ↔ coordinate? value = none := by
  constructor
  · intro h
    cases h with
    | null | bool | array | object => rfl
    | number x infinite => rw [coordinate?, infinite, Option.map_none]
    | text s notWhole notFinite => exact coordinateOfText?_eq_none_iff.mpr ⟨notWhole, notFinite⟩
  · intro h
    cases value with
    | null => exact .null
    | bool b => exact .bool b
    | arr items => exact .array items
    | obj o => exact .object o
    | int n => cases h
    | float x => exact .number x (Option.map_eq_none_iff.mp h)
    | str s =>
      obtain ⟨notWhole, notFinite⟩ := coordinateOfText?_eq_none_iff.mp h
      exact .text s notWhole notFinite

/-! ## The coordinates of a location

Each of the four coordinates is found under the first of two keys that has a value. -/

/-- The value that spells the first line of a location. -/
def startLineOf (o : Json.Object) : Json.Value :=
  firstPresent o ["start_line", "startLine"]

/-- The value that spells the first character of a location. -/
def startCharacterOf (o : Json.Object) : Json.Value :=
  firstPresent o ["start_col", "startCol"]

/-- The value that spells the last line of a location. -/
def stopLineOf (o : Json.Object) : Json.Value :=
  firstPresent o ["end_line", "endLine"]

theorem extent?_eq_none_iff {o : Json.Object} :
    extent? o = none ↔ Unusable (startLineOf o) ∨ Unusable (startCharacterOf o) := by
  rw [unusable_iff, unusable_iff, startLineOf, startCharacterOf, extent?]
  cases coordinate? (firstPresent o ["start_line", "startLine"]) with
  | none => simp
  | some line =>
    cases coordinate? (firstPresent o ["start_col", "startCol"]) with
    | none => simp
    | some character => simp

/-- The lines of an extent: its end is on the line of its start unless another one is given. -/
theorem lines_of_extent? {o : Json.Object} {e : Extent} (h : extent? o = some e) :
    coordinate? (startLineOf o) = some e.startLine ∧
      e.stopLine = (coordinate? (stopLineOf o)).getD e.startLine := by
  obtain ⟨line, hline, h⟩ := Option.bind_eq_some_iff.mp h
  obtain ⟨character, -, h⟩ := Option.bind_eq_some_iff.mp h
  cases h
  exact ⟨hline, rfl⟩

/-! ## Lines -/

theorem LineView.bring_bounds (v : LineView) (n : Nat) :
    0 ≤ v.bring n ∧ v.bring n ≤ max 0 (v.lineCount - 1) := by
  rw [bring, lastLine]
  omega

theorem Extent.stopLineIn_bounds (e : Extent) (v : LineView) :
    0 ≤ e.stopLineIn v ∧ e.stopLineIn v ≤ max 0 (v.lineCount - 1) := by
  rw [stopLineIn]
  split
  · exact v.bring_bounds e.stopLine
  · exact v.bring_bounds e.startLine

/-! ## Characters -/

/-- On one line, a span ends behind its start if the line goes on there. -/
theorem lt_widen {start stop length : Nat} (h : start < length) :
    start < widen start stop length := by
  rw [widen, if_pos h]
  split <;> omega

theorem le_widen (start stop length : Nat) : start ≤ widen start stop length := by
  rw [widen]
  split
  · split <;> omega
  · omega

theorem widen_of_end {length stop : Nat} (h : stop ≤ length) :
    widen length stop length = length := by
  rw [widen, if_pos h, if_neg (Nat.lt_irrefl length)]

/-! ## What a location comes to -/

/-- A position that a text has: on a line that can be read, not behind the last one, and at most at
the end of it. -/
structure LineView.Has (v : LineView) (p : Position) (text : String) : Prop where
  line : v.line? p.line = some text
  line_nonneg : 0 ≤ p.line
  line_le : p.line ≤ max 0 (v.lineCount - 1)
  character_nonneg : 0 ≤ p.character
  character_le : p.character ≤ text.length

/-- A value that has no span in a text: it is no object, or its start is not usable or is on a line
that cannot be read. -/
inductive Unlocated (v : LineView) : Json.Value → Prop
  | notObject (value : Json.Value) (other : ∀ o, value ≠ .obj o) : Unlocated v value
  | line (o : Json.Object) (unusable : Unusable (startLineOf o)) : Unlocated v (.obj o)
  | character (o : Json.Object) (unusable : Unusable (startCharacterOf o)) : Unlocated v (.obj o)
  | unreadable (o : Json.Object) (n : Nat) (line : coordinate? (startLineOf o) = some n)
    (missing : v.line? (min n (max 0 (v.lineCount - 1))) = none) : Unlocated v (.obj o)

/-- What holds of the span of a location in a text. -/
structure Located (v : LineView) (o : Json.Object) (span : Span) : Prop where
  /-- Both ends are in the text. On one line, the span is empty only at the end of the line. -/
  within : ∃ startText stopText, v.Has span.start startText ∧ v.Has span.stop stopText ∧
    (span.start.line = span.stop.line →
      if span.start.character = startText.length then span.start = span.stop
      else span.start.lt span.stop = true)
  /-- An end on a line that cannot be read comes to be on the line of the start. -/
  collapsed : ∀ n, coordinate? (stopLineOf o) = some n →
    v.line? (min n (max 0 (v.lineCount - 1))) = none → span.stop.line = span.start.line

section

variable {v : LineView} {o : Json.Object} {e : Extent} {span : Span}

theorem located_of_clamp? (ho : extent? o = some e) (h : e.clamp? v = some span) :
    Located v o span := by
  obtain ⟨startText, stopText, hstart, hstop, rfl⟩ := eq_spanOn_of_clamp? h
  have hstartBounds := v.bring_bounds e.startLine
  have hstopBounds := e.stopLineIn_bounds v
  obtain ⟨hstartCharacter, hstopCharacter⟩ := e.spanOn_characters hstart hstop
  rw [Extent.spanOn] at hstartCharacter hstopCharacter ⊢
  refine ⟨⟨startText, stopText,
    ⟨hstart, hstartBounds.1, hstartBounds.2, Int.natCast_nonneg _, hstartCharacter⟩,
    ⟨hstop, hstopBounds.1, hstopBounds.2, Int.natCast_nonneg _, hstopCharacter⟩, ?_⟩, ?_⟩
  · intro hline
    dsimp only at hline
    rw [← hline, hstart] at hstop
    cases hstop
    rw [← hline, if_pos rfl]
    split
    · next hend =>
      rw [Int.ofNat_inj.mp hend, widen_of_end (Nat.min_le_right ..)]
    · next hend =>
      refine Position.lt_iff.mpr (.inr ⟨rfl, Int.ofNat_lt.mpr (lt_widen ?_)⟩)
      have hne : min e.startCharacter startText.length ≠ startText.length :=
        fun heq ↦ hend (Int.ofNat_inj.mpr heq)
      omega
  · intro n hn hmissing
    obtain ⟨-, hlast⟩ := lines_of_extent? ho
    rw [hn, Option.getD_some] at hlast
    change e.stopLineIn v = v.bring e.startLine
    rw [Extent.stopLineIn, hlast, LineView.bring, LineView.lastLine, hmissing]
    rfl

theorem locate?_eq_none_iff : locate? v o = none ↔ Unlocated v (.obj o) := by
  constructor
  · intro h
    cases he : extent? o with
    | none =>
      rcases extent?_eq_none_iff.mp he with hline | hcharacter
      · exact .line o hline
      · exact .character o hcharacter
    | some e =>
      rw [locate?, he] at h
      exact .unreadable o e.startLine (lines_of_extent? he).1 (clamp?_eq_none_iff.mp h)
  · intro h
    rw [locate?, Option.bind_eq_none_iff]
    intro e he
    cases h with
    | notObject value other => exact absurd rfl (other o)
    | line o unusable => rw [extent?_eq_none_iff.mpr (.inl unusable)] at he; cases he
    | character o unusable => rw [extent?_eq_none_iff.mpr (.inr unusable)] at he; cases he
    | unreadable o n line missing =>
      rw [(lines_of_extent? he).1] at line
      cases line
      exact clamp?_eq_none_iff.mpr missing

/-- **Which values have a span in a text, and where it is.** The text may claim any number of lines
and may have any of them. -/
theorem span_of_location (v : LineView) (location : Json.Value) :
    (location.object?.bind (locate? v) = none ↔ Unlocated v location) ∧
      ∀ span, location.object?.bind (locate? v) = some span →
        ∃ o, location = .obj o ∧ Located v o span := by
  constructor
  · cases hobject : location.object? with
    | some o =>
      cases object?_eq_some_iff.mp hobject
      exact locate?_eq_none_iff
    | none =>
      refine iff_of_true rfl (.notObject location ?_)
      rintro o rfl
      cases hobject
  · intro span h
    obtain ⟨o, hobject, hspan⟩ := Option.bind_eq_some_iff.mp h
    obtain ⟨e, he, hclamp⟩ := Option.bind_eq_some_iff.mp hspan
    exact ⟨o, object?_eq_some_iff.mp hobject, located_of_clamp? he hclamp⟩

end

/-- A text that claims seven lines and has two of them. -/
def patchyView : LineView :=
  ⟨7, fun i ↦ if i = 1 then some "let x" else if i = 6 then some "" else none⟩

/-- A location that starts on the second line and ends on the fourth, which the text lacks. -/
def patchyLocation : Json.Object :=
  [("start_line", .int 2), ("startCol", .int 4), ("endLine", .int 4), ("end_col", .int 1)]

theorem span_of_location_sample :
    (Json.Value.obj patchyLocation).object?.bind (locate? patchyView) =
        some ⟨⟨1, 3⟩, ⟨1, 4⟩⟩ ∧
      ∃ o, Json.Value.obj patchyLocation = .obj o ∧
        Located patchyView o ⟨⟨1, 3⟩, ⟨1, 4⟩⟩ := by
  have hspan : (Json.Value.obj patchyLocation).object?.bind (locate? patchyView) =
      some ⟨⟨1, 3⟩, ⟨1, 4⟩⟩ := by decide +kernel
  exact ⟨hspan, (span_of_location patchyView (.obj patchyLocation)).2 _ hspan⟩

/-! ## The order of the two ends -/

/-- A location that ends on an earlier line than it starts on, in front of the last line of a
document. -/
def EndsAbove (d : Document) (o : Json.Object) : Prop :=
  ∃ start stop, coordinate? (startLineOf o) = some start ∧ coordinate? (stopLineOf o) = some stop ∧
    stop < start ∧ stop + 1 < d.lineCount

theorem stopLineIn_ofDocument (e : Extent) (d : Document) :
    e.stopLineIn (.ofDocument d) = (LineView.ofDocument d).bring e.stopLine := by
  obtain ⟨text, htext⟩ := d.exists_line? e.stopLine
  have hview : (LineView.ofDocument d).line? = d.line? := rfl
  rw [Extent.stopLineIn, LineView.bring, hview, htext]
  rfl

theorem bring_ofDocument (d : Document) (n : Nat) :
    (LineView.ofDocument d).bring n = min n (d.lineCount - 1 : Nat) := by
  have hlast : (LineView.ofDocument d).lastLine = max 0 ((d.lineCount : Int) - 1) := rfl
  rw [LineView.bring, hlast]
  omega

theorem endsAbove_iff {d : Document} {o : Json.Object} {e : Extent} (he : extent? o = some e) :
    EndsAbove d o ↔ (LineView.ofDocument d).bring e.stopLine <
      (LineView.ofDocument d).bring e.startLine := by
  obtain ⟨hstart, hstop⟩ := lines_of_extent? he
  rw [EndsAbove, hstart, bring_ofDocument, bring_ofDocument]
  cases hgiven : coordinate? (stopLineOf o) with
  | none =>
    -- Without an end of its own, a location ends where it starts.
    rw [hgiven, Option.getD_none] at hstop
    simp [hstop]
  | some stop =>
    rw [hgiven, Option.getD_some] at hstop
    subst hstop
    constructor
    · rintro ⟨start, stop, hstart', hstop', hlt, hlast⟩
      cases hstart'
      cases hstop'
      omega
    · intro hlt
      exact ⟨e.startLine, e.stopLine, rfl, rfl, by omega, by omega⟩

/-- **When the ends of a span are in order**: unless its location ends above its start. -/
theorem ordered_iff {d : Document} {o : Json.Object} {span : Span}
    (h : locate? (.ofDocument d) o = some span) :
    span.start.le span.stop = true ↔ ¬ EndsAbove d o := by
  obtain ⟨e, he, hclamp⟩ := Option.bind_eq_some_iff.mp h
  obtain ⟨startText, stopText, -, -, rfl⟩ := eq_spanOn_of_clamp? hclamp
  rw [endsAbove_iff he, Position.le_iff, stopLineIn_ofDocument, not_lt, Extent.spanOn]
  constructor
  · rintro (hlt | ⟨heq, -⟩)
    · exact hlt.le
    · exact heq.le
  · intro hle
    rcases hle.lt_or_eq with hlt | heq
    · exact .inl hlt
    · -- On one line the end is widened to behind the start, or is at the end of the line with it.
      rw [if_pos heq]
      exact .inr ⟨heq, Int.ofNat_le.mpr (le_widen ..)⟩

/-- A text of two lines. -/
def twoLines : Document :=
  { uri := "file:///w/a.sg", text := "a\nb" }

/-- A location from the second line to the first one. -/
def upward : Json.Object :=
  [("start_line", .int 2), ("start_col", .int 1), ("end_line", .int 1), ("end_col", .int 1)]

theorem ordered_sample :
    locate? (.ofDocument twoLines) upward = some ⟨⟨1, 0⟩, ⟨0, 0⟩⟩ ∧
      ((Position.mk 1 0).le ⟨0, 0⟩ = true ↔ ¬ EndsAbove twoLines upward) := by
  have hspan : locate? (.ofDocument twoLines) upward = some ⟨⟨1, 0⟩, ⟨0, 0⟩⟩ := by decide +kernel
  exact ⟨hspan, ordered_iff hspan⟩

/-- A span can end before it starts. -/
theorem not_ordered :
    ¬ ∀ (d : Document) (o : Json.Object) (span : Span),
        locate? (.ofDocument d) o = some span → span.start.le span.stop = true := by
  intro hordered
  have hspan : locate? (.ofDocument twoLines) upward = some ⟨⟨1, 0⟩, ⟨0, 0⟩⟩ := by decide +kernel
  exact absurd (hordered twoLines upward _ hspan) (by decide)

end Wire

end DiagnosticFeed
