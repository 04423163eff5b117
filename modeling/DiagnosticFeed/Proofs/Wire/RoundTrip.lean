import DiagnosticFeed.Proofs.Wire.Items
import DiagnosticFeed.Proofs.Wire.Numerals
import Mathlib.Data.List.Basic

/-!
# Spelling and reading

What an analyzer has to print for a list of findings: the relation between findings and the values
that spell them. There is a choice at many places, in the keys and the form of a coordinate, in the
letters of a severity, in the file of a location and in what is left out, and every choice is
read back as the same finding. The conditions on a finding are those of the wire format: spans lie
in the text, with the end not before the start, and hold something unless they are at the end of a
line; a code or title that is there is not empty; a note is about the document itself.
-/

namespace DiagnosticFeed

/-! ## What can be spelled -/

/-- A span that clamping leaves as it is. -/
structure Span.Spellable (s : Span) (d : Document) : Prop where
  within : s.Within d
  ordered : s.start.le s.stop
  /-- An empty span is at the end of its line. -/
  visible : s.start = s.stop →
    ∃ text, d.line? s.start.line = some text ∧ s.start.character = text.length

namespace Wire

/-- A finding that output for a document can hold. -/
structure Finding.Spellable (f : Finding) (d : Document) : Prop where
  span : f.span.Spellable d
  code : f.code ≠ some ""
  related : ∀ n ∈ f.related, n.uri = d.uri ∧ n.span.Spellable d
  titles : ∀ fix ∈ f.fixes, fix.title ≠ some ""

/-! ## Spellings -/

/-- A field under one of two keys; the second counts where the first is absent. -/
def Under (o : Json.Object) (first second : String) (P : Json.Value → Prop) : Prop :=
  P (o.field first) ∨ o.field first = .null ∧ P (o.field second)

/-- A list as an array, or as nothing if there is nothing in it. -/
def SpellsList {α : Type} (P : Json.Value → α → Prop) (v : Json.Value) (xs : List α) : Prop :=
  (∃ vs, v = .arr vs ∧ List.Forall₂ P vs xs) ∨ v = .null ∧ xs = []

/-- A location that spells a span, with no file or one of the document's. -/
structure SpellsSpan (s : Subject) (location : Json.Object) (span : Span) : Prop where
  startLine : Under location "start_line" "startLine" (SpellsNumber (span.start.line + 1))
  startCharacter : Under location "start_col" "startCol" (SpellsNumber (span.start.character + 1))
  stopLine : Under location "end_line" "endLine" (SpellsNumber (span.stop.line + 1))
  stopCharacter : Under location "end_col" "endCol" (SpellsNumber (span.stop.character + 1))
  file : s.targets = [] ∨ InFiles s.cwd (· ∈ s.targets) location

/-- An object that spells a place in the document and a message. -/
def SpellsNote (s : Subject) (v : Json.Value) (n : RelatedNote) : Prop :=
  ∃ o location : Json.Object, v = .obj o ∧ o.field "location" = .obj location ∧
    SpellsSpan s location n.span ∧ o.field "message" = .str n.message

/-- The words for a severity, in capital letters. -/
def severityWords : Severity → List String
  | .error => ["ERROR"]
  | .warning => ["WARNING"]
  | .information => ["INFO", "NOTE"]

/-- A word for a severity, in capital or small letters or both. -/
def SpellsSeverity (v : Json.Value) (severity : Severity) : Prop :=
  ∃ s, v = .str s ∧ s.toUpper ∈ severityWords severity

/-- An array of lines, or nothing. -/
def previewValue (lines : Option (List String)) : Json.Value :=
  .ofOption (fun ls ↦ .arr (ls.map .str)) lines

/-- An object that spells an edit. -/
def SpellsEdit (v : Json.Value) (e : FixEdit) : Prop :=
  ∃ o : Json.Object, v = .obj o ∧ o.field "location" = .ofOption .obj e.location ∧
    o.field "new_text" = .str e.newText ∧ o.field "before_lines" = previewValue e.before ∧
    o.field "after_lines" = previewValue e.after

/-- A preference under one of two keys, or under none. -/
def SpellsPreference (o : Json.Object) : Option Bool → Prop
  | some b => Under o "isPreferred" "is_preferred" (· = .bool b)
  | none => o.field "isPreferred" = .null ∧ o.field "is_preferred" = .null

/-- An object that spells a fix. -/
def SpellsFix (v : Json.Value) (fix : Fix) : Prop :=
  ∃ o : Json.Object, v = .obj o ∧ o.field "title" = .ofOption .str fix.title ∧
    SpellsPreference o fix.preferred ∧ SpellsList SpellsEdit (o.field "edits") fix.edits

/-- An item that spells a finding. -/
structure SpellsFinding (s : Subject) (o : Json.Object) (f : Finding) : Prop where
  location : ∃ location, o.field "location" = .obj location ∧ SpellsSpan s location f.span
  message : o.field "message" = .str f.message
  severity : SpellsSeverity (o.field "severity") f.severity
  code : o.field "code" = .ofOption .str f.code
  notes : SpellsList (SpellsNote s) (o.field "notes") f.related
  fixes : SpellsList SpellsFix (o.field "fixes") f.fixes

/-- An object that spells a finding. -/
def SpellsItem (s : Subject) (v : Json.Value) (f : Finding) : Prop :=
  ∃ o, v = .obj o ∧ SpellsFinding s o f

/-! ## Reading spans -/

theorem coordinate?_of_under {o : Json.Object} {first second : String} {p : Int}
    (h : Under o first second (SpellsNumber (p + 1))) :
    coordinate? (firstPresent o [first, second]) = some p.toNat := by
  rcases h with h | ⟨hnull, h⟩
  · have hpresent : (o.field first).isNull = false := by
      generalize o.field first = v at h
      cases h <;> rfl
    rw [firstPresent, hpresent]
    exact coordinate?_of_spells h
  · have hsecond : firstPresent o [first, second] = o.field second := by
      rw [firstPresent, hnull]
      change (if (o.field second).isNull then .null else o.field second) = _
      cases o.field second <;> rfl
    rw [hsecond]
    exact coordinate?_of_spells h

/-- The extent whose coordinates are those of a span. -/
def extentOf (span : Span) : Extent :=
  ⟨span.start.line.toNat, span.start.character.toNat, span.stop.line.toNat,
    span.stop.character.toNat⟩

theorem extent?_of_spells {s : Subject} {location : Json.Object} {span : Span}
    (h : SpellsSpan s location span) : extent? location = some (extentOf span) := by
  rw [extent?, coordinate?_of_under h.startLine, coordinate?_of_under h.startCharacter,
    coordinate?_of_under h.stopLine, coordinate?_of_under h.stopCharacter]
  rfl

/-- A line of the document stays where it is when it is brought down to the last line. -/
theorem bring_of_within {p : Position} {d : Document} (h : p.Within d) :
    (LineView.ofDocument d).bring p.line.toNat = p.line := by
  obtain ⟨hlow, hhigh, -⟩ := h
  have hlast : (LineView.ofDocument d).lastLine = max 0 ((d.lineCount : Int) - 1) := rfl
  rw [LineView.bring, hlast]
  omega

/-- A clamped span, if both lines that its ends are brought to can be read. -/
theorem clamp?_eq {e : Extent} {d : Document} {startLine stopLine : Int}
    {startText stopText : String}
    (hstart : (LineView.ofDocument d).bring e.startLine = startLine)
    (hstop : (LineView.ofDocument d).bring e.stopLine = stopLine)
    (hstartText : d.line? startLine = some startText)
    (hstopText : d.line? stopLine = some stopText) :
    e.clamp? (.ofDocument d) = some (e.spanOn startLine stopLine startText stopText) := by
  subst hstart hstop
  obtain ⟨text, htext, hclamp⟩ := exists_clamp?_eq (v := .ofDocument d) hstartText
  have hview : (LineView.ofDocument d).line? = d.line? := rfl
  have hline : e.stopLineIn (.ofDocument d) = (LineView.ofDocument d).bring e.stopLine := by
    rw [Extent.stopLineIn, hview, hstopText]
    rfl
  rw [hline] at htext hclamp
  cases hstopText.symm.trans htext
  exact hclamp

/-- **Clamping leaves a spellable span as it is.** -/
theorem clamp?_extentOf {span : Span} {d : Document} (h : span.Spellable d) :
    (extentOf span).clamp? (.ofDocument d) = some span := by
  obtain ⟨⟨hstart, hstop⟩, hordered, hvisible⟩ := h
  have hstartLine := bring_of_within hstart
  have hstopLine := bring_of_within hstop
  obtain ⟨⟨startLine, startCharacter⟩, ⟨stopLine, stopCharacter⟩⟩ := span
  obtain ⟨-, -, startText, hstartText, hlowStart, hhighStart⟩ := hstart
  obtain ⟨-, -, stopText, hstopText, hlowStop, hhighStop⟩ := hstop
  rw [clamp?_eq hstartLine hstopLine hstartText hstopText, Extent.spanOn]
  dsimp only [extentOf] at *
  have hstartCharacter : min startCharacter.toNat startText.length = startCharacter.toNat := by
    omega
  have hstopCharacter : min stopCharacter.toNat stopText.length = stopCharacter.toNat := by omega
  have hwidened : (if startLine = stopLine then
      widen startCharacter.toNat stopCharacter.toNat startText.length
      else stopCharacter.toNat) = stopCharacter.toNat := by
    split
    · next hline =>
      subst hline
      rw [widen]
      split
      · -- The end is not before the start, so the span is empty and at the end of its line.
        next hle =>
        have hsame : startCharacter = stopCharacter := by
          simp [Position.le, Position.lt] at hordered
          omega
        subst hsame
        obtain ⟨text, htext, hend⟩ := hvisible rfl
        rw [hstartText] at htext
        cases htext
        rw [if_neg (by omega)]
      · rfl
    · rfl
  rw [hstartCharacter, hstopCharacter, hwidened, Int.toNat_of_nonneg hlowStart,
    Int.toNat_of_nonneg hlowStop]

theorem locate?_of_spells {s : Subject} {d : Document} {location : Json.Object} {span : Span}
    (h : SpellsSpan s location span) (hspan : span.Spellable d) :
    locate? (.ofDocument d) location = some span := by
  rw [locate?, extent?_of_spells h]
  exact clamp?_extentOf hspan

/-! ## Reading what is not a span -/

/-- Where only the letters without accents occur, the two ways to make them capital agree. -/
theorem upper_eq_toUpper {s : String} (h : ∀ c ∈ s.toUpper.toList, c.toNat < 128) :
    Text.upper s = s.toUpper := by
  have hchar : ∀ c ∈ s.toList, Text.upperChar c = [c.toUpper] := by
    intro c hc
    have hupper : c.toUpper.toNat < 128 := by
      refine h _ ?_
      rw [String.toUpper, String.toList_map]
      exact List.mem_map_of_mem hc
    refine if_pos ?_
    delta Char.toUpper at hupper
    split at hupper
    · next hsmall => exact Nat.lt_of_le_of_lt (UInt32.le_iff_toNat_le.mp hsmall.2) (by decide)
    · exact hupper
  have hmap : s.toList.flatMap Text.upperChar = s.toList.map Char.toUpper := by
    rw [List.flatMap_congr hchar, List.map_eq_flatMap]
  rw [Text.upper, hmap, String.toUpper, ← String.toList_map, String.ofList_toList]

theorem ofJson_of_spells {v : Json.Value} {severity : Severity} (h : SpellsSeverity v severity) :
    Severity.ofJson v = severity := by
  obtain ⟨s, rfl, hs⟩ := h
  -- The words have no accents, so both ways to make letters capital lead to them.
  have hplain : ∀ word ∈ severityWords severity, ∀ c ∈ word.toList, c.toNat < 128 := by
    have hall : (severityWords severity).all (·.toList.all (·.toNat < 128)) = true := by
      cases severity <;> decide
    simpa only [List.all_eq_true, decide_eq_true_eq] using hall
  have hupper := upper_eq_toUpper (hplain _ hs)
  generalize s.toUpper = word at hs hupper
  cases severity with
  | error =>
    cases List.mem_singleton.mp hs
    rw [Severity.ofJson, hupper]
    rfl
  | warning =>
    cases List.mem_singleton.mp hs
    rw [Severity.ofJson, hupper]
    rfl
  | information =>
    rcases List.mem_pair.mp hs with rfl | rfl <;> rw [Severity.ofJson, hupper] <;> rfl

/-! ## Reading lists -/

theorem filterMap_of_spells {α : Type} {P : Json.Value → α → Prop} {read : Json.Value → Option α}
    {v : Json.Value} {xs : List α} (h : SpellsList P v xs)
    (hread : ∀ v, ∀ x ∈ xs, P v x → read v = some x) :
    (v.array?.getD []).filterMap read = xs := by
  rcases h with ⟨vs, rfl, hvs⟩ | ⟨rfl, rfl⟩
  · change vs.filterMap read = xs
    induction hvs with
    | nil => rfl
    | cons hv hvs ih =>
      rw [List.filterMap_cons_some (hread _ _ List.mem_cons_self hv)]
      rw [ih fun v x hx ↦ hread v x (List.mem_cons_of_mem _ hx)]
  · rfl

theorem string?_ofOption (s : Option String) :
    (Json.Value.ofOption .str s).string? = s := by
  cases s <;> rfl

theorem previewLines_previewValue (lines : Option (List String)) :
    FixEdit.previewLines (previewValue lines) = lines := by
  cases lines with
  | none => rfl
  | some ls =>
    change some ((ls.map Json.Value.str).map Json.Value.display) = some ls
    rw [List.map_map]
    exact congrArg some (List.map_id'' (fun _ ↦ rfl) ls)

theorem ofJson_of_spellsEdit {v : Json.Value} {e : FixEdit} (h : SpellsEdit v e) :
    v.object?.map FixEdit.ofJson = some e := by
  obtain ⟨o, rfl, hlocation, htext, hbefore, hafter⟩ := h
  have hobject : (Json.Value.ofOption .obj e.location).object? = e.location := by
    cases e.location <;> rfl
  change some (FixEdit.ofJson o) = some e
  rw [FixEdit.ofJson, hlocation, htext, hbefore, hafter, hobject, previewLines_previewValue,
    previewLines_previewValue]
  rfl

theorem ofJson_of_spellsFix {v : Json.Value} {fix : Fix} (h : SpellsFix v fix)
    (htitle : fix.title ≠ some "") : v.object?.map Fix.ofJson = some fix := by
  obtain ⟨o, rfl, hfield, hpreferred, hedits⟩ := h
  obtain ⟨title, edits, preferred⟩ := fix
  have htitleRead : ((o.field "title").string?.bind fun t ↦ if t.isEmpty then none else some t) =
      title := by
    rw [hfield, string?_ofOption]
    cases title with
    | none => rfl
    | some t =>
      have hne : t ≠ "" := fun hempty ↦ htitle (congrArg some hempty)
      exact if_neg (by simpa using hne)
  have heditsRead : ((o.field "edits").array?.getD []).filterMap
      (fun e ↦ e.object?.map FixEdit.ofJson) = edits :=
    filterMap_of_spells hedits fun _ _ _ ↦ ofJson_of_spellsEdit
  have hpreferredRead : (Fix.ofJson o).preferred = preferred := by
    rw [Fix.ofJson]
    cases preferred with
    | none =>
      rw [hpreferred.1, hpreferred.2]
      rfl
    | some b =>
      rcases hpreferred with hfirst | ⟨hnull, hsecond⟩
      · rw [hfirst]
      · rw [hnull, hsecond]
        rfl
  change some (Fix.ofJson o) = _
  rw [← hpreferredRead]
  rw [Fix.ofJson, htitleRead, heditsRead]

/-! ## Reading findings -/

section

variable {cwd : FilePath} {d : Document} {t : Target}

theorem spanOf?_of_spells {o location : Json.Object} {span : Span}
    (hlocation : o.field "location" = .obj location)
    (hspells : SpellsSpan (.of cwd d t) location span) (hspan : span.Spellable d) :
    (Subject.of cwd d t).spanOf? o = some span := by
  rw [Subject.spanOf?, hlocation]
  exact (if_pos (Subject.covers_iff.mpr hspells.file)).trans (locate?_of_spells hspells hspan)

theorem noteOf?_of_spells {v : Json.Value} {n : RelatedNote}
    (h : SpellsNote (.of cwd d t) v n) (huri : n.uri = d.uri) (hspan : n.span.Spellable d) :
    noteOf? (.of cwd d t) v = some n := by
  obtain ⟨o, location, rfl, hlocation, hspells, hmessage⟩ := h
  rw [noteOf?]
  change (do
    let span ← (Subject.of cwd d t).spanOf? o
    return (⟨d.uri, span, (o.field "message").string?.getD ""⟩ : RelatedNote)) = _
  rw [spanOf?_of_spells hlocation hspells hspan, hmessage, ← huri]
  rfl

/-- **A finding is read back from its spelling.** -/
theorem findingOf?_of_spells {o : Json.Object} {f : Finding}
    (h : SpellsFinding (.of cwd d t) o f) (hf : f.Spellable d) :
    findingOf? (.of cwd d t) (.obj o) = some f := by
  obtain ⟨span, message, severity, code, related, fixes⟩ := f
  obtain ⟨location, hlocation, hspells⟩ := h.location
  have hcode : codeOf? (o.field "code") = code := by
    rw [h.code]
    cases code with
    | none => rfl
    | some c =>
      have hne : c ≠ "" := fun hempty ↦ hf.code (congrArg some hempty)
      exact if_neg (by simpa using hne)
  have hrelated : ((o.field "notes").array?.getD []).filterMap (noteOf? (.of cwd d t)) =
      related := by
    refine filterMap_of_spells h.notes fun v n hn hv ↦ ?_
    exact noteOf?_of_spells hv (hf.related n hn).1 (hf.related n hn).2
  have hfixes : ((o.field "fixes").array?.getD []).filterMap
      (fun v ↦ v.object?.map Fix.ofJson) = fixes :=
    filterMap_of_spells h.fixes fun v fix hfix hv ↦ ofJson_of_spellsFix hv (hf.titles fix hfix)
  have hobject : (Json.Value.obj o).object? = some o := rfl
  have hmessage : (o.field "message").string?.getD "" = message := by
    rw [h.message]
    rfl
  simp only [findingOf?, hobject, Option.bind_eq_bind, Option.bind_some,
    spanOf?_of_spells hlocation hspells hf.span, hmessage, ofJson_of_spells h.severity, hcode,
    hrelated, hfixes]
  rfl

theorem findings_of_spells {found : List Json.Value} {fs : List Finding}
    (h : List.Forall₂ (SpellsItem (.of cwd d t)) found fs) (hfs : ∀ f ∈ fs, f.Spellable d) :
    findings (.of cwd d t) found = fs := by
  refine filterMap_of_spells (.inl ⟨found, rfl, h⟩) fun v f hf hv ↦ ?_
  obtain ⟨o, rfl, ho⟩ := hv
  exact findingOf?_of_spells ho (hfs f hf)

end

/-! ## What comes of a spelling -/

/-- In a registry that has nothing for new diagnostics, each finding has its own fixes after it was
enrolled. -/
theorem fixesFor_enroll_of_fresh {uri : String} {next : Nat} {r : FixRegistry}
    {fs : List Finding} (hfresh : ∀ id, next ≤ id → r.fixesFor id = []) :
    ∀ e ∈ fs.zipIdx next, (enroll uri next r fs).2.fixesFor e.2 = e.1.fixes := by
  induction fs generalizing next r with
  | nil => nofun
  | cons f fs ih =>
    intro e he
    rw [enroll]
    rcases List.mem_cons.mp he with rfl | he
    · refine (fixesFor_enroll_succ ..).trans ?_
      by_cases hfixes : f.fixes = []
      · rw [hfixes]
        exact hfresh next (Nat.le_refl next)
      · exact FixRegistry.fixesFor_register_self hfixes
    · refine ih (fun id hid ↦ ?_) e he
      rw [FixRegistry.fixesFor_register_of_ne _ _ _ _ _ (by omega)]
      exact hfresh id (by omega)

/-- **Reading undoes spelling**: what is spelled in any of the ways of the wire format is taken in
as the diagnostics that were meant, in their order, each with its notes and its fixes. -/
theorem intake_of_spells {cwd : FilePath} {r : FixRegistry} {next : Nat} {d : Document}
    {t : Target} {stdout : String} {found : List Json.Value} {fs : List Finding}
    (hfresh : ∀ id, next ≤ id → r.fixesFor id = []) (hfs : ∀ f ∈ fs, f.Spellable d)
    (hstdout : Lists stdout found) (hfound : List.Forall₂ (SpellsItem (.of cwd d t)) found fs) :
    (intake cwd r next d t stdout).failure = none ∧
      (intake cwd r next d t stdout).diagnostics =
        (fs.zipIdx next).map (fun e ↦ e.1.toDiagnostic e.2) ∧
      ∀ e ∈ fs.zipIdx next,
        (intake cwd r next d t stdout).registry.fixesFor e.2 = e.1.fixes := by
  rw [intake_of_lists hstdout, findings_of_spells hfound hfs]
  refine ⟨rfl, enroll_eq_map .., fixesFor_enroll_of_fresh fun id hid ↦ ?_⟩
  split
  · exact hfresh id hid
  · rw [fixesFor_withAliases]
    exact hfresh id hid

/-! ## A sample

A finding spelled with digits, both styles of keys, a roundabout file name and a word in mixed
letters. -/

def spelledItem : Json.Value :=
  .obj [
    ("location", .obj [("startLine", .str "01"), ("start_col", .int 5), ("end_line", .int 1),
      ("endCol", .str "6"), ("file", .str "./a.sg")]),
    ("message", .str "m"), ("severity", .str "Note"),
    ("fixes", .arr [.obj [("isPreferred", .bool true)]])]

def spelledOutput : String :=
  "\x7b\"diagnostics\":[\x7b\"location\":\x7b\"startLine\":\"01\",\"start_col\":5," ++
    "\"end_line\":1,\"endCol\":\"6\",\"file\":\"./a.sg\"\x7d,\"message\":\"m\"," ++
    "\"severity\":\"Note\",\"fixes\":[\x7b\"isPreferred\":true\x7d]\x7d]\x7d"

/-- What the sample spells. -/
def spelledFinding : Finding where
  span := ⟨⟨0, 4⟩, ⟨0, 5⟩⟩
  message := "m"
  severity := .information
  code := none
  related := []
  fixes := [⟨none, [], some true⟩]

def spelledDocument : Document :=
  { uri := "file:///w/a.sg", text := "let x" }

def spelledTarget : Target :=
  { path := "/w/a.sg", analysis := some "/w/a.sg", document := some "/w/a.sg" }

theorem lists_spelledOutput : Lists spelledOutput [spelledItem] :=
  ⟨[("diagnostics", .arr [spelledItem])], Json.parse_eq_of_same (by decide +kernel), rfl⟩

theorem within_spelledDocument {n : Nat} (h : n ≤ 5) :
    Position.Within ⟨0, n⟩ spelledDocument := by
  have hline : spelledDocument.line? 0 = some "let x" := rfl
  exact Position.within_of_line? hline h

theorem spellable_spelledFinding : spelledFinding.Spellable spelledDocument where
  span := {
    within := ⟨within_spelledDocument (n := 4) (by omega),
      within_spelledDocument (n := 5) (by omega)⟩
    ordered := rfl
    visible := nofun }
  code := nofun
  related := nofun
  titles := by
    intro fix hfix
    cases List.mem_singleton.mp hfix
    exact nofun

theorem numeral_padded : Numeral "01" 1 where
  digits := List.all_eq_true.mp (by decide +kernel)
  nonempty := by decide +kernel
  value := by decide +kernel
  short := by decide +kernel

theorem spells_spelledItem :
    SpellsItem (.of ⟨.root, ["w"]⟩ spelledDocument spelledTarget) spelledItem spelledFinding := by
  refine ⟨_, rfl, ⟨_, rfl, ?_⟩, rfl, ⟨"Note", rfl, by decide +kernel⟩, rfl, .inr ⟨rfl, rfl⟩, ?_⟩
  · exact {
      startLine := .inr ⟨rfl, .text numeral_padded⟩
      startCharacter := .inl .int
      stopLine := .inl .int
      stopCharacter := .inr ⟨rfl, .text (numeral_toString (n := 6) (by decide +kernel))⟩
      file := by
        refine .inr fun name hname _ ↦ ?_
        cases hname
        exact ⟨"/w/a.sg", by decide +kernel, by decide +kernel⟩ }
  · exact .inl ⟨_, rfl, .cons ⟨_, rfl, rfl, .inl rfl, .inr ⟨rfl, rfl⟩⟩ .nil⟩

/-- The sample is read back. -/
theorem intake_of_spells_sample :
    (∀ f ∈ [spelledFinding], f.Spellable spelledDocument) ∧
      Lists spelledOutput [spelledItem] ∧
      List.Forall₂ (SpellsItem (.of ⟨.root, ["w"]⟩ spelledDocument spelledTarget)) [spelledItem]
        [spelledFinding] ∧
      (intake ⟨.root, ["w"]⟩ {} 1 spelledDocument spelledTarget spelledOutput).diagnostics =
        [spelledFinding.toDiagnostic 1] ∧
      (intake ⟨.root, ["w"]⟩ {} 1 spelledDocument spelledTarget spelledOutput).registry.fixesFor 1 =
        [⟨none, [], some true⟩] := by
  have hfs : ∀ f ∈ [spelledFinding], f.Spellable spelledDocument := by
    intro f hf
    cases List.mem_singleton.mp hf
    exact spellable_spelledFinding
  have hspells : List.Forall₂
      (SpellsItem (.of ⟨.root, ["w"]⟩ spelledDocument spelledTarget)) [spelledItem]
        [spelledFinding] := .cons spells_spelledItem .nil
  obtain ⟨-, hdiagnostics, hfixes⟩ := @intake_of_spells ⟨.root, ["w"]⟩ {} 1 spelledDocument
    spelledTarget _ _ _ (fun _ _ ↦ rfl) hfs lists_spelledOutput hspells
  exact ⟨hfs, lists_spelledOutput, hspells, hdiagnostics,
    hfixes (spelledFinding, 1) List.mem_cons_self⟩

end Wire

end DiagnosticFeed
