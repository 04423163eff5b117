import DiagnosticFeed.Proofs.Json.Comparison
import DiagnosticFeed.Proofs.Paths
import DiagnosticFeed.Proofs.Wire.Numerals
import DiagnosticFeed.Proofs.Wire.Registration
import DiagnosticFeed.Proofs.Wire.Within

/-!
# Output, item by item

Analyzer output can be any text, and each item in it any value. What becomes of an item is told from
the item alone: it is taken if it is an object with a location that has a readable start and is
not in another file, and passed over otherwise. The diagnostics of an intake are those of the
items taken, in the order of the items, and each is read from its own item. So an item that is
wrong in any way changes nothing for its neighbours, and the output of two lists, one after the
other, is taken in as the first and then the second.

Of the registry an intake changes only what belongs to the new diagnostics: fixes are registered for
those whose item has an object among its fixes.
-/

namespace DiagnosticFeed

theorem Keyed.set_eq_self {κ ν : Type} [DecidableEq κ] {l : Keyed κ ν} {k : κ} {v : ν}
    (h : l.get? k = some v) : l.set k v = l := by
  induction l with
  | nil => cases h
  | cons e l ih =>
    obtain ⟨k₀, v₀⟩ := e
    rw [Keyed.get?] at h
    rw [Keyed.set]
    split at h
    · next hk =>
      cases h
      rw [if_pos hk]
    · next hk => rw [if_neg hk, ih h]

theorem FixRegistry.setAliases_of_aliases {r r' : FixRegistry} {uri : String}
    {paths : List String} (hne : paths ≠ [])
    (h : r'.aliases = (r.setAliases uri paths).aliases) : r'.setAliases uri paths = r' := by
  have hempty : paths.isEmpty = false := by simpa using hne
  rw [setAliases, hempty] at h ⊢
  have hget : r'.aliases.get? uri = some paths.eraseDups := by
    rw [h]
    exact (Keyed.get?_set r.aliases uri uri _).trans (if_pos rfl)
  exact congrArg (fun aliases ↦ { r' with aliases := aliases }) (Keyed.set_eq_self hget)

/-! ## Blank text -/

namespace Json

/-- A blank character starts no value. -/
theorem readNumber_of_isBlank {c : Char} (h : Text.isBlank c) (cs : List Char) :
    readNumber false (c :: cs) = .error .malformed := by
  have hzero : c ≠ '0' := by
    rintro rfl
    cases h
  have hdigit : c.isDigit = false := by
    cases hc : c.isDigit with
    | false => rfl
    | true =>
      rw [Text.isBlank_of_isDigit hc] at h
      cases h
  rw [readNumber]
  · simp [takeNumerals, hdigit]
  · rintro more hmore
    exact hzero (List.cons.inj hmore).1

theorem readValue_of_isBlank {c : Char} (h : Text.isBlank c) (fuel depth : Nat) (cs : List Char) :
    readValue (fuel + 1) depth (c :: cs) = .error .malformed := by
  have hne : ∀ x : Char, Text.isBlank x = false → (c == x) = false := by
    intro x hx
    rw [beq_eq_false_iff_ne]
    rintro rfl
    rw [hx] at h
    cases h
  rw [readValue.eq_def]
  dsimp only
  rw [hne '"' rfl, hne '\x7b' rfl, hne '[' rfl, hne 'n' rfl, hne 't' rfl, hne 'f' rfl,
    hne 'N' rfl, hne 'I' rfl, hne '-' rfl]
  exact readNumber_of_isBlank h cs

/-- **Blank text is not JSON.** -/
theorem parse_of_isAllBlank {s : String} (h : Text.isAllBlank s) :
    parse s = .error .malformed := by
  have hvalue : readValue (2 * s.toList.length + 2) maxDepth (skipSpace s.toList) =
      .error .malformed := by
    -- Some blank characters are no space of the format, so something may be left.
    cases hcs : skipSpace s.toList with
    | nil => rfl
    | cons c cs =>
      have hmem : c ∈ skipSpace s.toList := hcs ▸ List.mem_cons_self
      have hc : Text.isBlank c :=
        List.all_eq_true.mp h c ((List.dropWhile_suffix isSpace).subset hmem)
      exact readValue_of_isBlank hc _ maxDepth cs
  rw [parse, hvalue]
  rfl

end Json

/-! ## Every extent is somewhere -/

theorem Document.lines_ne_nil (d : Document) : d.lines ≠ [] := by
  have hsplit := Text.splitOn_ne_nil '\n' d.text.toList
  simpa [d.lines_eq, linesOf, Text.lines] using hsplit

/-- A line number that was brought down to the last line is that of a line. -/
theorem Document.exists_line? (d : Document) (n : Nat) :
    ∃ text, d.line? (min n (Wire.LineView.ofDocument d).lastLine) = some text := by
  have hlines : 0 < d.lines.length := List.length_pos_iff.mpr d.lines_ne_nil
  have hlast : (Wire.LineView.ofDocument d).lastLine = (d.lines.length : Int) - 1 := by
    change max 0 ((d.lines.length : Int) - 1) = _
    omega
  rw [hlast, line?, lineOf?, if_neg (by omega)]
  exact ⟨_, List.getElem?_eq_getElem (by omega)⟩

namespace Wire

theorem Extent.isSome_clamp? (e : Extent) (d : Document) : (e.clamp? (.ofDocument d)).isSome := by
  obtain ⟨text, htext⟩ := d.exists_line? e.startLine
  obtain ⟨stopText, -, hclamp⟩ := exists_clamp?_eq (v := .ofDocument d) htext
  rw [hclamp]
  rfl

/-! ## Which items are taken -/

/-- A text that is a JSON object with these items in its array. -/
def Lists (stdout : String) (found : List Json.Value) : Prop :=
  ∃ o : Json.Object, Json.parse stdout = .ok (.obj o) ∧ o.field "diagnostics" = .arr found

/-- A location that says where it starts. -/
def HasStart (location : Json.Object) : Prop :=
  (coordinate? (firstPresent location ["start_line", "startLine"])).isSome ∧
    (coordinate? (firstPresent location ["start_col", "startCol"])).isSome

/-- A location in one of some files, told by their normal forms, or in none that it names. -/
def InFiles (cwd : FilePath) (files : String → Prop) (location : Json.Object) : Prop :=
  ∀ name, location.field "file" = .str name → name ≠ "" →
    ∃ p, files p ∧ FilePath.normalText? cwd name = some p

/-- An item with a usable location in the document. Where nothing is known about the document's
files, all files are taken for it. -/
def Subject.Accepts (s : Subject) (item : Json.Value) : Prop :=
  ∃ o location : Json.Object, item = .obj o ∧ o.field "location" = .obj location ∧
    HasStart location ∧ (s.targets = [] ∨ InFiles s.cwd (· ∈ s.targets) location)

/-- An item with an object among its fixes. -/
def HasFix (item : Json.Value) : Prop :=
  ∃ (o : Json.Object) (fixes : List Json.Value) (fix : Json.Object),
    item = .obj o ∧ o.field "fixes" = .arr fixes ∧ .obj fix ∈ fixes

theorem isSome_locate?_iff {d : Document} {location : Json.Object} :
    (locate? (.ofDocument d) location).isSome ↔ HasStart location := by
  rw [HasStart, locate?, extent?]
  cases coordinate? (firstPresent location ["start_line", "startLine"]) with
  | none => simp
  | some line =>
    cases coordinate? (firstPresent location ["start_col", "startCol"]) with
    | none => simp
    | some character => simpa using Extent.isSome_clamp? _ d

theorem file?_eq_some_iff {location : Json.Object} {name : String} :
    file? location = some name ↔ location.field "file" = .str name ∧ name ≠ "" := by
  rw [file?]
  split
  · next s hs =>
    rw [hs]
    constructor
    · intro h
      split at h
      · cases h
      · next hempty =>
        cases h
        exact ⟨rfl, by simpa using hempty⟩
    · rintro ⟨h, hne⟩
      cases h
      rw [if_neg (by simpa using hne)]
  · next hs => exact ⟨nofun, fun h ↦ absurd h.1 (hs name)⟩

/-- `InFiles`, as it is decided. -/
theorem inFiles_iff {cwd : FilePath} {files : String → Prop} {location : Json.Object} :
    InFiles cwd files location ↔
      ∀ p, (file? location).bind (FilePath.normalText? cwd) = some p → files p := by
  constructor
  · intro h p hp
    obtain ⟨name, hname, hp⟩ := Option.bind_eq_some_iff.mp hp
    obtain ⟨hfield, hne⟩ := file?_eq_some_iff.mp hname
    obtain ⟨q, hq, hnormal⟩ := h name hfield hne
    rw [hp] at hnormal
    cases hnormal
    exact hq
  · intro h name hfield hne
    have hnormal := FilePath.normalText?_of_ne cwd hne
    refine ⟨_, h _ ?_, hnormal⟩
    rw [file?_eq_some_iff.mpr ⟨hfield, hne⟩]
    exact hnormal

theorem Subject.covers_iff {s : Subject} {location : Json.Object} :
    s.covers location ↔ s.targets = [] ∨ InFiles s.cwd (· ∈ s.targets) location := by
  rw [covers, Bool.or_eq_true, List.isEmpty_iff, inFiles_iff]
  cases (file? location).bind (FilePath.normalText? s.cwd) with
  | none => simp
  | some p => simp

theorem object?_eq_some_iff {v : Json.Value} {o : Json.Object} :
    v.object? = some o ↔ v = .obj o := by
  cases v <;> simp [Json.Value.object?]

section

variable {cwd : FilePath} {d : Document} {t : Target}

/-- **An item is taken if and only if it is accepted.** -/
theorem isSome_findingOf?_iff {item : Json.Value} :
    (findingOf? (.of cwd d t) item).isSome ↔ (Subject.of cwd d t).Accepts item := by
  constructor
  · intro h
    obtain ⟨f, hf⟩ := Option.isSome_iff_exists.mp h
    obtain ⟨o, ho, hf⟩ := Option.bind_eq_some_iff.mp hf
    obtain ⟨span, hspan, -⟩ := Option.bind_eq_some_iff.mp hf
    obtain ⟨location, hlocation, hspan⟩ := Option.bind_eq_some_iff.mp hspan
    split at hspan
    · next hcovers =>
      exact ⟨o, location, object?_eq_some_iff.mp ho, object?_eq_some_iff.mp hlocation,
        isSome_locate?_iff.mp (Option.isSome_of_eq_some hspan), Subject.covers_iff.mp hcovers⟩
    · cases hspan
  · rintro ⟨o, location, rfl, hlocation, hstart, hcovers⟩
    obtain ⟨span, hspan⟩ := Option.isSome_iff_exists.mp (isSome_locate?_iff.mpr hstart)
    have hspanOf : (Subject.of cwd d t).spanOf? o = some span := by
      rw [Subject.spanOf?, hlocation]
      exact (if_pos (Subject.covers_iff.mpr hcovers)).trans hspan
    rw [findingOf?]
    change ((Subject.spanOf? (.of cwd d t) o).bind _).isSome
    rw [hspanOf]
    rfl

instance (cwd : FilePath) (d : Document) (t : Target) :
    DecidablePred (Subject.of cwd d t).Accepts :=
  fun _ ↦ decidable_of_iff _ isSome_findingOf?_iff

theorem fixes_ne_nil_iff {s : Subject} {item : Json.Value} {f : Finding}
    (h : findingOf? s item = some f) : f.fixes ≠ [] ↔ HasFix item := by
  obtain ⟨o, ho, hf⟩ := Option.bind_eq_some_iff.mp h
  obtain ⟨span, -, hf⟩ := Option.bind_eq_some_iff.mp hf
  cases object?_eq_some_iff.mp ho
  cases hf
  rw [HasFix, Ne, List.filterMap_eq_nil_iff, not_forall]
  constructor
  · rintro ⟨v, hv⟩
    rw [Classical.not_imp] at hv
    obtain ⟨hmem, hv⟩ := hv
    cases hfixes : o.field "fixes" with
    | arr fixes =>
      rw [hfixes] at hmem
      cases v with
      | obj fix => exact ⟨o, fixes, fix, rfl, hfixes, hmem⟩
      | _ => exact absurd rfl hv
    | _ =>
      rw [hfixes] at hmem
      cases hmem
  · rintro ⟨o', fixes, fix, hitem, hfixes, hmem⟩
    cases hitem
    refine ⟨.obj fix, ?_⟩
    rw [hfixes]
    exact fun hall ↦ Option.some_ne_none _ (hall hmem)

end

/-! ## What an enrolment registers -/

section

variable {uri : String} {next : Nat} {r : FixRegistry} {fs : List Finding}

theorem enroll_eq_map (uri : String) (next : Nat) (r : FixRegistry) (fs : List Finding) :
    (enroll uri next r fs).1 = (fs.zipIdx next).map fun e ↦ e.1.toDiagnostic e.2 := by
  induction fs generalizing next r with
  | nil => rfl
  | cons f fs ih => exact congrArg (f.toDiagnostic next :: ·) (ih (next + 1) _)

theorem length_enroll (uri : String) (next : Nat) (r : FixRegistry) (fs : List Finding) :
    (enroll uri next r fs).1.length = fs.length := by
  rw [enroll_eq_map, List.length_map, List.length_zipIdx]

theorem ids_enroll (uri : String) (next : Nat) (r : FixRegistry) (fs : List Finding) :
    (enroll uri next r fs).1.map (·.id) = List.range' next fs.length := by
  rw [enroll_eq_map, List.map_map]
  exact List.zipIdx_map_snd next fs

/-- Only the numbers that are given out can get fixes. -/
theorem fixesFor_enroll_of_notMem {id : Nat} (h : id ∉ List.range' next fs.length) :
    (enroll uri next r fs).2.fixesFor id = r.fixesFor id := by
  induction fs generalizing next r with
  | nil => rfl
  | cons f fs ih =>
    rw [List.length_cons, List.range'_succ, List.mem_cons, not_or] at h
    rw [enroll, ih h.2, FixRegistry.fixesFor_register_of_ne _ _ _ _ _ (Ne.symm h.1)]

theorem fixesFor_enroll_succ (uri : String) (next : Nat) (r : FixRegistry) (fs : List Finding) :
    (enroll uri (next + 1) r fs).2.fixesFor next = r.fixesFor next := by
  refine fixesFor_enroll_of_notMem ?_
  rw [List.mem_range'_1]
  omega

theorem enroll_append (uri : String) (next : Nat) (r : FixRegistry) (fs gs : List Finding) :
    enroll uri next r (fs ++ gs) =
      ((enroll uri next r fs).1 ++ (enroll uri (next + fs.length) (enroll uri next r fs).2 gs).1,
        (enroll uri (next + fs.length) (enroll uri next r fs).2 gs).2) := by
  induction fs generalizing next r with
  | nil => rfl
  | cons f fs ih =>
    have hnext : next + (f :: fs).length = next + 1 + fs.length := by
      rw [List.length_cons]
      omega
    rw [List.cons_append, enroll, ih, hnext]
    rfl

theorem aliases_enroll (uri : String) (next : Nat) (r : FixRegistry) (fs : List Finding) :
    (enroll uri next r fs).2.aliases = r.aliases := by
  induction fs generalizing next r with
  | nil => rfl
  | cons f fs ih =>
    rw [enroll, ih, FixRegistry.register]
    split <;> rfl

end

/-! ## Items taken in order -/

/-- A diagnostic that an item was taken as, by the registry before and after the intake: it is read
from the item and nothing else, and has fixes now if there is an object among the item's. -/
structure TakenAs (s : Subject) (r r' : FixRegistry) (item : Json.Value) (g : Diagnostic) :
    Prop where
  finding : ∃ f, findingOf? s item = some f ∧ g = f.toDiagnostic g.id ∧
    (HasFix item → r'.fixesFor g.id = f.fixes ∧ f.fixes ≠ [] ∧ g.id ∈ r'.idsOf s.uri)
  others : ¬ HasFix item → r'.fixesFor g.id = r.fixesFor g.id

/-- An intake that went through a list of items one by one. -/
structure Itemwise (s : Subject) [DecidablePred s.Accepts] (r : FixRegistry) (next : Nat)
    (found : List Json.Value) (i : Intake) : Prop where
  failure : i.failure = none
  /-- One diagnostic for each item that is accepted, in their order. -/
  taken : List.Forall₂ (TakenAs s r i.registry) (found.filter (s.Accepts ·)) i.diagnostics
  numbered : i.diagnostics.map (·.id) = List.range' next i.diagnostics.length
  /-- All other diagnostics keep the fixes that they have. -/
  kept : ∀ id, id ∉ i.diagnostics.map (·.id) → i.registry.fixesFor id = r.fixesFor id

section

variable {cwd : FilePath} {d : Document} {t : Target}

/-- The items of a list, enrolled one after the other. The registry is followed from one that
differs from the first only in diagnostics numbered before. -/
theorem forall₂_enroll {r r₀ : FixRegistry} {next : Nat}
    (hsame : ∀ id, next ≤ id → r.fixesFor id = r₀.fixesFor id) (found : List Json.Value) :
    List.Forall₂
      (TakenAs (.of cwd d t) r₀ (enroll d.uri next r (findings (.of cwd d t) found)).2)
      (found.filter ((Subject.of cwd d t).Accepts ·))
      (enroll d.uri next r (findings (.of cwd d t) found)).1 := by
  induction found generalizing next r with
  | nil => exact .nil
  | cons item found ih =>
    cases hf : findingOf? (.of cwd d t) item with
    | none =>
      have hnot : ¬ (Subject.of cwd d t).Accepts item := by
        rw [← isSome_findingOf?_iff, hf]
        exact Bool.false_ne_true
      rw [findings, List.filterMap_cons_none hf, List.filter_cons_of_neg (by simpa using hnot)]
      exact ih hsame
    | some f =>
      have haccepts : (Subject.of cwd d t).Accepts item := by
        rw [← isSome_findingOf?_iff, hf]
        rfl
      rw [findings, List.filterMap_cons_some hf, List.filter_cons_of_pos (by simpa using haccepts)]
      refine .cons ⟨⟨f, hf, rfl, ?_⟩, ?_⟩ (ih ?_)
      · -- What is registered now stays registered through the rest of the list.
        intro hfix
        have hne := (fixes_ne_nil_iff hf).mpr hfix
        have hlisted : next ∈ (r.register d.uri next f.fixes).idsOf d.uri :=
          FixRegistry.mem_idsOf_register hne
        refine ⟨?_, hne, idsOf_subset_enroll d.uri (next + 1) _ _ hlisted⟩
        exact (fixesFor_enroll_succ ..).trans (FixRegistry.fixesFor_register_self hne)
      · intro hfix
        have hnil : f.fixes = [] := not_not.mp (mt (fixes_ne_nil_iff hf).mp hfix)
        refine (fixesFor_enroll_succ ..).trans ?_
        rw [hnil]
        exact hsame next (Nat.le_refl next)
      · intro id hid
        rw [FixRegistry.fixesFor_register_of_ne _ _ _ _ _ (by omega)]
        exact hsame id (by omega)

theorem items_of_lists {stdout : String} {found : List Json.Value} (h : Lists stdout found) :
    items stdout = .ok found := by
  obtain ⟨o, hparse, hfield⟩ := h
  have hblank : ¬ Text.isAllBlank stdout := by
    intro hblank
    rw [Json.parse_of_isAllBlank hblank] at hparse
    cases hparse
  rw [items, if_neg hblank, hparse]
  simp [Json.Value.object?, hfield, Json.Value.array?]

/-- A text that lists no items is read as none, or not at all. -/
theorem items_of_not_lists {stdout : String} (h : ∀ found, ¬ Lists stdout found) :
    items stdout = .ok [] ∨ ∃ e, items stdout = .error e := by
  rw [items]
  split
  · exact .inl rfl
  · cases hparse : Json.parse stdout with
    | error e => exact .inr ⟨_, rfl⟩
    | ok v =>
      dsimp only
      cases hitems : v.object?.bind fun o ↦ (o.field "diagnostics").array? with
      | none => exact .inr ⟨_, rfl⟩
      | some found =>
        obtain ⟨o, ho, hfound⟩ := Option.bind_eq_some_iff.mp hitems
        cases object?_eq_some_iff.mp ho
        refine absurd ⟨o, hparse, ?_⟩ (h found)
        cases hfield : o.field "diagnostics" <;> rw [hfield] at hfound <;> cases hfound
        rfl

/-- What an intake of listed items comes to; no items are like any others, but for the aliases. -/
theorem intake_of_lists {r : FixRegistry} {next : Nat} {stdout : String}
    {found : List Json.Value} (h : Lists stdout found) :
    intake cwd r next d t stdout =
      ⟨(enroll d.uri next (if found = [] then r else withAliases r d.uri t)
          (findings (.of cwd d t) found)).1,
        (enroll d.uri next (if found = [] then r else withAliases r d.uri t)
          (findings (.of cwd d t) found)).2, none⟩ := by
  rw [intake, items_of_lists h]
  cases found <;> rfl

theorem intake_of_not_lists {stdout : String} (h : ∀ found, ¬ Lists stdout found)
    (r : FixRegistry) (next : Nat) :
    (intake cwd r next d t stdout).diagnostics = [] ∧
      (intake cwd r next d t stdout).registry = r := by
  rw [intake]
  rcases items_of_not_lists h with hitems | ⟨e, hitems⟩ <;> rw [hitems] <;> exact ⟨rfl, rfl⟩

theorem itemwise_intake {stdout : String} {found : List Json.Value} (h : Lists stdout found)
    (r : FixRegistry) (next : Nat) :
    Itemwise (.of cwd d t) r next found (intake cwd r next d t stdout) := by
  have hsame (id : Nat) :
      (if found = [] then r else withAliases r d.uri t).fixesFor id = r.fixesFor id := by
    split
    · rfl
    · exact fixesFor_withAliases r d.uri t id
  rw [intake_of_lists h]
  constructor
  case failure => rfl
  case taken => exact forall₂_enroll (fun id _ ↦ hsame id) found
  case numbered =>
    rw [length_enroll]
    exact ids_enroll ..
  case kept =>
    intro id hid
    dsimp only at hid
    rw [ids_enroll] at hid
    exact (fixesFor_enroll_of_notMem hid).trans (hsame id)

theorem withAliases_enroll (r : FixRegistry) (uri : String) (t : Target) (next : Nat)
    (fs : List Finding) :
    withAliases (enroll uri next (withAliases r uri t) fs).2 uri t =
      (enroll uri next (withAliases r uri t) fs).2 := by
  have haliases := aliases_enroll uri next (withAliases r uri t) fs
  generalize (enroll uri next (withAliases r uri t) fs).2 = r' at haliases
  rw [withAliases] at haliases ⊢
  cases hpresent : Target.present? t.analysis with
  | none => rfl
  | some p =>
    rw [hpresent] at haliases
    cases htemporary : t.temporary with
    | false => rfl
    | true =>
      rw [htemporary] at haliases
      exact FixRegistry.setAliases_of_aliases (List.cons_ne_nil p []) haliases

/-- **Taking in two lists of items at once** is taking in the first and then the second. -/
theorem intake_append {r : FixRegistry} {next : Nat} {stdout stdoutA stdoutB : String}
    {A B : List Json.Value} (h : Lists stdout (A ++ B)) (hA : Lists stdoutA A)
    (hB : Lists stdoutB B) {first second : Intake} (hfirst : intake cwd r next d t stdoutA = first)
    (hsecond : intake cwd first.registry (next + first.diagnostics.length) d t stdoutB = second) :
    (intake cwd r next d t stdout).diagnostics = first.diagnostics ++ second.diagnostics ∧
      (intake cwd r next d t stdout).registry = second.registry := by
  rw [intake_of_lists hA] at hfirst
  subst hfirst
  rw [intake_of_lists hB] at hsecond
  subst hsecond
  have hfindings : findings (.of cwd d t) (A ++ B) =
      findings (.of cwd d t) A ++ findings (.of cwd d t) B := List.filterMap_append
  rw [intake_of_lists h, length_enroll, hfindings, enroll_append]
  cases A with
  | nil => exact ⟨rfl, rfl⟩
  | cons a A =>
    cases B with
    | nil => exact ⟨rfl, rfl⟩
    | cons b B =>
      -- Both parts set the same aliases, and the second finds them set.
      dsimp only
      rw [if_neg (by simp), if_neg (by simp), if_neg (by simp), withAliases_enroll]
      exact ⟨rfl, rfl⟩

theorem findingOf?_congr {t' : Target} (h : ∀ p, p ∈ t.paths ↔ p ∈ t'.paths) :
    findingOf? (.of cwd d t) = findingOf? (.of cwd d t') := by
  have hnil : t.paths = [] ↔ t'.paths = [] := by
    simp only [List.eq_nil_iff_forall_not_mem, h]
  have hcovers : (Subject.of cwd d t).covers = (Subject.of cwd d t').covers := by
    funext location
    rw [Bool.eq_iff_iff, Subject.covers_iff, Subject.covers_iff]
    simp only [Subject.of, hnil, InFiles, h]
  have hspan : (Subject.of cwd d t).spanOf? = (Subject.of cwd d t').spanOf? := by
    funext o
    rw [Subject.spanOf?, Subject.spanOf?, hcovers]
    rfl
  have hnote : noteOf? (.of cwd d t) = noteOf? (.of cwd d t') := by
    funext v
    rw [noteOf?, noteOf?, hspan]
    rfl
  funext item
  rw [findingOf?, findingOf?, hspan, hnote]

theorem diagnostics_intake_congr {t' : Target} (h : ∀ p, p ∈ t.paths ↔ p ∈ t'.paths)
    (r r' : FixRegistry) (next : Nat) (stdout : String) :
    (intake cwd r next d t stdout).diagnostics = (intake cwd r' next d t' stdout).diagnostics := by
  rw [intake, intake]
  cases items stdout with
  | error e => rfl
  | ok found =>
    cases found with
    | nil => rfl
    | cons item found =>
      dsimp only
      rw [findings, findings, findingOf?_congr h]
      exact enroll_diagnostics ..

end

/-- **Output is taken in item by item**: nothing comes of a text that lists no items; of one that
does, each accepted item becomes a diagnostic, read from this item, the document and the set of its
files, with its fixes registered; and a list is taken in part by part. -/
theorem intake_items (cwd : FilePath) (d : Document) (t : Target) (r : FixRegistry) (next : Nat)
    (stdout : String) :
    ((∀ found, ¬ Lists stdout found) → (intake cwd r next d t stdout).diagnostics = [] ∧
      (intake cwd r next d t stdout).registry = r) ∧
    (∀ found, Lists stdout found →
      Itemwise (.of cwd d t) r next found (intake cwd r next d t stdout)) ∧
    (∀ t' r', (∀ p, p ∈ t.paths ↔ p ∈ t'.paths) →
      (intake cwd r next d t stdout).diagnostics = (intake cwd r' next d t' stdout).diagnostics) ∧
    ∀ A B stdoutA stdoutB first second, Lists stdout (A ++ B) → Lists stdoutA A →
      Lists stdoutB B → intake cwd r next d t stdoutA = first →
      intake cwd first.registry (next + first.diagnostics.length) d t stdoutB = second →
      (intake cwd r next d t stdout).diagnostics = first.diagnostics ++ second.diagnostics ∧
        (intake cwd r next d t stdout).registry = second.registry :=
  ⟨fun h ↦ intake_of_not_lists h r next, fun _ h ↦ itemwise_intake h r next,
    fun _ r' h ↦ diagnostics_intake_congr h r r' next stdout,
    fun _ _ _ _ _ _ h hA hB hfirst hsecond ↦ intake_append h hA hB hfirst hsecond⟩

/-- A number, which is no item, in front of an item with an empty fix. -/
def brokenOutput : String :=
  "\x7b\"diagnostics\":[5,\x7b\"location\":\x7b\"start_line\":1,\"start_col\":1\x7d," ++
    "\"fixes\":[\x7b\x7d]\x7d]\x7d"

def brokenItem : Json.Value :=
  .obj [("location", .obj [("start_line", .int 1), ("start_col", .int 1)]),
    ("fixes", .arr [.obj []])]

def brokenFirst : String :=
  "\x7b\"diagnostics\":[5]\x7d"

def brokenSecond : String :=
  "\x7b\"diagnostics\":[\x7b\"location\":\x7b\"start_line\":1,\"start_col\":1\x7d," ++
    "\"fixes\":[\x7b\x7d]\x7d]\x7d"

theorem lists_brokenOutput : Lists brokenOutput ([.int 5] ++ [brokenItem]) :=
  ⟨[("diagnostics", .arr [.int 5, brokenItem])], Json.parse_eq_of_same (by decide +kernel), rfl⟩

theorem lists_brokenFirst : Lists brokenFirst [.int 5] :=
  ⟨[("diagnostics", .arr [.int 5])], Json.parse_eq_of_same (by decide +kernel), rfl⟩

theorem lists_brokenSecond : Lists brokenSecond [brokenItem] :=
  ⟨[("diagnostics", .arr [brokenItem])], Json.parse_eq_of_same (by decide +kernel), rfl⟩

theorem not_lists_array (found : List Json.Value) : ¬ Lists "[]" found := by
  rintro ⟨o, hparse, -⟩
  have harray : Json.parse "[]" = .ok (.arr []) := Json.parse_eq_of_same (by decide +kernel)
  rw [harray] at hparse
  cases hparse

/-- The number is passed over and the item taken, at once or one after the other; of an array with
no object around it nothing is taken. -/
theorem intake_items_sample :
    let cwd : FilePath := ⟨.root, ["w"]⟩
    let d : Document := { uri := "file:///w/a.sg", text := "let x" }
    let t : Target := { path := "/w/a.sg" }
    let first := intake cwd {} 1 d t brokenFirst
    let second := intake cwd first.registry (1 + first.diagnostics.length) d t brokenSecond
    (intake cwd {} 1 d t "[]").registry = {} ∧
      Itemwise (.of cwd d t) {} 1 ([.int 5] ++ [brokenItem]) (intake cwd {} 1 d t brokenOutput) ∧
      (intake cwd {} 1 d t brokenOutput).diagnostics.length = 1 ∧
      (intake cwd {} 1 d t brokenOutput).diagnostics =
        (intake cwd {} 1 d { path := "/w/b.sg" } brokenOutput).diagnostics ∧
      (intake cwd {} 1 d t brokenOutput).diagnostics = first.diagnostics ++ second.diagnostics := by
  intro cwd d t first second
  have hnothing := (intake_items cwd d t {} 1 "[]").1 not_lists_array
  obtain ⟨-, hitems, hfiles, happend⟩ := intake_items cwd d t {} 1 brokenOutput
  exact ⟨hnothing.2, hitems _ lists_brokenOutput, by decide +kernel,
    hfiles { path := "/w/b.sg" } {} (fun _ ↦ Iff.rfl),
    (happend _ _ _ _ _ _ lists_brokenOutput lists_brokenFirst lists_brokenSecond rfl rfl).1⟩

end Wire

end DiagnosticFeed
