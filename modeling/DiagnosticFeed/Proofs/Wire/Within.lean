import DiagnosticFeed.Wire.Intake

/-!
# Where findings lie

Whatever coordinates the analyzer prints, each span that is read from them lies inside the text it
is read against: its lines are lines of the text, and its characters are at most at the end of
theirs. Coordinates are numbers of any size, so this is the work of clamping alone, and it has to
hold again after an empty span was widened.

Lying inside is stated for a document, by its lines as they are read one at a time.
-/

namespace DiagnosticFeed

/-- A position in the text of a document: on one of its lines, at most at the end of it. -/
def Position.Within (p : Position) (d : Document) : Prop :=
  0 ≤ p.line ∧ p.line < d.lineCount ∧
    ∃ text, d.line? p.line = some text ∧ 0 ≤ p.character ∧ p.character ≤ text.length

/-- A span whose two ends are in the text of a document. -/
def Span.Within (s : Span) (d : Document) : Prop :=
  s.start.Within d ∧ s.stop.Within d

/-- A diagnostic all of whose spans, those of its notes included, are in the text of a document. -/
structure Diagnostic.Within (g : Diagnostic) (d : Document) : Prop where
  span : g.span.Within d
  related : ∀ n ∈ g.related, n.span.Within d

theorem Document.line?_bounds {d : Document} {i : Int} {text : String}
    (h : d.line? i = some text) : 0 ≤ i ∧ i < d.lineCount := by
  rw [line?, lineOf?] at h
  split at h
  · cases h
  · have hlt : i.toNat < d.lines.length := (List.getElem?_eq_some_iff.mp h).1
    rw [lineCount]
    omega

theorem Position.within_of_line? {d : Document} {i : Int} {text : String} {n : Nat}
    (h : d.line? i = some text) (hn : n ≤ text.length) : Position.Within ⟨i, n⟩ d := by
  obtain ⟨hlow, hhigh⟩ := Document.line?_bounds h
  exact ⟨hlow, hhigh, text, h, Int.natCast_nonneg n, Int.ofNat_le.mpr hn⟩

namespace Wire

/-! ## Spans -/

theorem widen_le {start stop length : Nat} (hstart : start ≤ length) (hstop : stop ≤ length) :
    widen start stop length ≤ length := by
  rw [widen]
  split
  · split <;> omega
  · exact hstop

/-- The line that a line number is brought down to. -/
def LineView.bring (v : LineView) (n : Nat) : Int :=
  min n v.lastLine

/-- The line that the end of an extent comes to be on: the one it is brought down to, or that of
the start if it cannot be read. -/
def Extent.stopLineIn (e : Extent) (v : LineView) : Int :=
  if (v.line? (v.bring e.stopLine)).isSome then v.bring e.stopLine else v.bring e.startLine

/-- The span of an extent on two lines, by their texts. -/
def Extent.spanOn (e : Extent) (startLine stopLine : Int) (startText stopText : String) : Span :=
  ⟨⟨startLine, (min e.startCharacter startText.length : Nat)⟩,
    ⟨stopLine, (if startLine = stopLine then
        widen (min e.startCharacter startText.length) (min e.stopCharacter stopText.length)
          startText.length
      else min e.stopCharacter stopText.length : Nat)⟩⟩

section

variable {v : LineView} {e : Extent} {d : Document} {span : Span} {startText stopText : String}

/-- Whether there is a span hangs on the line of its start alone. -/
theorem clamp?_eq_none_iff : e.clamp? v = none ↔ v.line? (v.bring e.startLine) = none := by
  rw [Extent.clamp?, ← LineView.bring]
  cases v.line? (v.bring e.startLine) with
  | none => simp
  | some text => simp

theorem exists_clamp?_eq (hstart : v.line? (v.bring e.startLine) = some startText) :
    ∃ stopText, v.line? (e.stopLineIn v) = some stopText ∧
      e.clamp? v = some
        (e.spanOn (v.bring e.startLine) (e.stopLineIn v) startText stopText) := by
  rw [Extent.stopLineIn, Extent.clamp?, ← LineView.bring, hstart, ← LineView.bring]
  dsimp only
  cases hstop : v.line? (v.bring e.stopLine) with
  | some stopText => exact ⟨stopText, hstop, rfl⟩
  | none => exact ⟨startText, hstart, rfl⟩

/-- **A clamped span, by the texts of its two lines.** -/
theorem eq_spanOn_of_clamp? (h : e.clamp? v = some span) :
    ∃ startText stopText, v.line? (v.bring e.startLine) = some startText ∧
      v.line? (e.stopLineIn v) = some stopText ∧
      span = e.spanOn (v.bring e.startLine) (e.stopLineIn v) startText stopText := by
  cases hstart : v.line? (v.bring e.startLine) with
  | none => cases h.symm.trans (clamp?_eq_none_iff.mpr hstart)
  | some startText =>
    obtain ⟨stopText, hstop, hclamp⟩ := exists_clamp?_eq hstart
    exact ⟨startText, stopText, rfl, hstop, Option.some.inj (h.symm.trans hclamp)⟩

theorem Extent.spanOn_characters (e : Extent) {startLine stopLine : Int}
    (hstart : v.line? startLine = some startText) (hstop : v.line? stopLine = some stopText) :
    (e.spanOn startLine stopLine startText stopText).start.character ≤ startText.length ∧
      (e.spanOn startLine stopLine startText stopText).stop.character ≤ stopText.length := by
  refine ⟨Int.ofNat_le.mpr (Nat.min_le_right ..), Int.ofNat_le.mpr ?_⟩
  split
  · -- A span on one line is widened if it is empty, within this line.
    next hline =>
    rw [← hline, hstart] at hstop
    cases hstop
    exact widen_le (Nat.min_le_right ..) (Nat.min_le_right ..)
  · exact Nat.min_le_right ..

/-- **Clamping lands in the text**, wherever it starts from. -/
theorem Extent.within_of_clamp? (h : e.clamp? (.ofDocument d) = some span) : span.Within d := by
  obtain ⟨startText, stopText, hstart, hstop, rfl⟩ := eq_spanOn_of_clamp? h
  obtain ⟨hstartCharacter, hstopCharacter⟩ := e.spanOn_characters hstart hstop
  exact ⟨Position.within_of_line? hstart (Int.ofNat_le.mp hstartCharacter),
    Position.within_of_line? hstop (Int.ofNat_le.mp hstopCharacter)⟩

end

theorem within_of_locate? {d : Document} {location : Json.Object} {span : Span}
    (h : locate? (.ofDocument d) location = some span) : span.Within d := by
  obtain ⟨e, -, he⟩ := Option.bind_eq_some_iff.mp h
  exact e.within_of_clamp? he

theorem Subject.within_of_spanOf? {cwd : FilePath} {d : Document} {t : Target} {o : Json.Object}
    {span : Span} (h : (Subject.of cwd d t).spanOf? o = some span) : span.Within d := by
  obtain ⟨location, -, hlocation⟩ := Option.bind_eq_some_iff.mp h
  split at hlocation
  · exact within_of_locate? hlocation
  · cases hlocation

/-! ## Findings -/

theorem within_of_noteOf? {cwd : FilePath} {d : Document} {t : Target} {v : Json.Value}
    {n : RelatedNote} (h : noteOf? (.of cwd d t) v = some n) : n.span.Within d := by
  obtain ⟨o, -, h⟩ := Option.bind_eq_some_iff.mp h
  obtain ⟨span, hspan, h⟩ := Option.bind_eq_some_iff.mp h
  cases h
  exact Subject.within_of_spanOf? hspan

theorem within_of_findingOf? {cwd : FilePath} {d : Document} {t : Target} {item : Json.Value}
    {f : Finding} (h : findingOf? (.of cwd d t) item = some f) :
    f.span.Within d ∧ ∀ n ∈ f.related, n.span.Within d := by
  obtain ⟨o, -, h⟩ := Option.bind_eq_some_iff.mp h
  obtain ⟨span, hspan, h⟩ := Option.bind_eq_some_iff.mp h
  cases h
  refine ⟨Subject.within_of_spanOf? hspan, ?_⟩
  intro n hn
  obtain ⟨v, -, hv⟩ := List.mem_filterMap.mp hn
  exact within_of_noteOf? hv

/-! ## Diagnostics

Enrolling gives each finding the next number and leaves its spans alone. -/

theorem mem_enroll {uri : String} {next : Nat} {r : FixRegistry} {fs : List Finding}
    {g : Diagnostic} (h : g ∈ (enroll uri next r fs).1) :
    (∃ f ∈ fs, g = f.toDiagnostic g.id) ∧ next ≤ g.id ∧
      g.id < next + (enroll uri next r fs).1.length := by
  induction fs generalizing next r with
  | nil => cases h
  | cons f fs ih =>
    have hlength : (enroll uri next r (f :: fs)).1.length =
        (enroll uri (next + 1) (r.register uri next f.fixes) fs).1.length + 1 := rfl
    rw [hlength]
    rcases List.mem_cons.mp h with rfl | h
    · have hid : (f.toDiagnostic next).id = next := rfl
      rw [hid]
      exact ⟨⟨f, List.mem_cons_self, rfl⟩, by omega, by omega⟩
    · obtain ⟨⟨f', hf', hg⟩, hlow, hhigh⟩ := ih h
      exact ⟨⟨f', List.mem_cons_of_mem f hf', hg⟩, by omega, by omega⟩

section

variable {cwd : FilePath} {r : FixRegistry} {next : Nat} {d : Document} {t : Target}
  {stdout : String} {g : Diagnostic}

theorem mem_intake (h : g ∈ (intake cwd r next d t stdout).diagnostics) :
    (∃ item f, findingOf? (.of cwd d t) item = some f ∧ g = f.toDiagnostic g.id) ∧ next ≤ g.id ∧
      g.id < next + (intake cwd r next d t stdout).diagnostics.length := by
  rw [intake] at h ⊢
  split at h
  · cases h
  · cases h
  · next found _ =>
    obtain ⟨⟨f, hf, hg⟩, hid⟩ := mem_enroll h
    obtain ⟨item, -, hitem⟩ := List.mem_filterMap.mp hf
    exact ⟨⟨item, f, hitem, hg⟩, hid⟩

/-- **Diagnostics lie in the text they were read against.** -/
theorem within_of_mem_intake (h : g ∈ (intake cwd r next d t stdout).diagnostics) : g.Within d := by
  obtain ⟨⟨item, f, hitem, hg⟩, -⟩ := mem_intake h
  obtain ⟨hspan, hrelated⟩ := within_of_findingOf? hitem
  rw [hg]
  exact ⟨hspan, hrelated⟩

end

end Wire

end DiagnosticFeed
