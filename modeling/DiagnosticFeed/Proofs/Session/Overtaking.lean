import DiagnosticFeed.Proofs.Session.Current

/-!
# Attempts that overtake each other

Attempts on one document can be under way at the same time and end in any order. When a later one
has published, an earlier one that still waits for the analyzer has been overtaken. Whether it
replaces what the later one published is decided by the version alone: as long as the text has not
changed since the earlier one began, its ticket is as current as that of the later one, and it does.
Two attempts at one version are not told apart.
-/

namespace DiagnosticFeed

namespace Session

/-- An attempt that was overtaken. Attempt `i` began after `past`, and `j` after it on the same
document. What `j` published is displayed in `s`, and there `i` is about to end with an answer. -/
structure Overtaken (s₀ : Session) (past between meanwhile : List Action) (i j doc : Nat)
    (b b' : Begun) (p : Publication) (s : Session) (d : Document) (t : Target) (answer : Answer) :
    Prop where
  reached : s = s₀.after (past ++ .step i :: between ++ .step j :: meanwhile)
  first : ∃ d₁, Begins s₀ past i doc d₁ b
  second : ∃ d₂, Begins s₀ (past ++ .step i :: between) j doc d₂ b'
  published : p ∈ (s₀.after (past ++ .step i :: between ++ [.step j])).publications meanwhile
  publisher : p.id = j
  document : s.documents[doc]? = some d
  displayed : Keyed.get? s.bench.display d.uri = some p.diagnostics
  answered : ∃ a b₁, s.attempt? i = some a ∧ s.canStep a = true ∧
    a.stage.answer? = some (b₁, t, answer)

section

variable {s₀ s : Session} {past between meanwhile : List Action} {i j doc : Nat} {b b' : Begun}
  {p : Publication} {d : Document} {t : Target} {answer : Answer}

theorem Begins.publication {acts : List Action} (h : Begins s₀ acts i doc d b) {later : List Action}
    (hp : (s₀.after (acts ++ .step i :: later)).publication? (.step i) = some p) :
    p.doc = doc ∧ p.ticket = b.ticket := by
  obtain ⟨he, d', t, answer, hpublishes⟩ := publishes_of_publication? hp
  obtain ⟨a, b₁, ha, hdoc, hanswer, hticket⟩ := hpublishes.attempt
  obtain ⟨a', ha', hdoc', hbegun⟩ := h.begun?_after later
  have hid : i = p.id := Action.step.inj he
  rw [← hid, ha'] at ha
  cases ha
  rw [begun?_of_answer? hanswer] at hbegun
  cases hbegun
  exact ⟨hdoc.symm.trans hdoc', hticket.symm⟩

/-- The versions in an overtaking do not go back: the two tickets, and the document now. -/
theorem Overtaken.versions (h : Overtaken s₀ past between meanwhile i j doc b b' p s d t answer) :
    b.ticket.version ≤ b'.ticket.version ∧ b'.ticket.version ≤ d.version := by
  obtain ⟨d₁, hfirst⟩ := h.first
  obtain ⟨d₂, hsecond⟩ := h.second
  have hd := h.document
  rw [h.reached] at hd
  rw [hfirst.begun, hsecond.begun]
  exact ⟨(later_between hfirst.document hsecond.document).version_le,
    (later_between hsecond.document hd).version_le⟩

/-- What the later attempt published is for the document, with the ticket that it noted. -/
theorem Overtaken.ticket_eq (h : Overtaken s₀ past between meanwhile i j doc b b' p s d t answer) :
    p.doc = doc ∧ p.ticket = b'.ticket := by
  obtain ⟨d₂, hsecond⟩ := h.second
  obtain ⟨before, e, rest, -, hp⟩ := mem_publications.mp h.published
  have he : e = .step j := by
    rw [(publishes_of_publication? hp).1, h.publisher]
  rw [he, ← after_append, List.append_assoc] at hp
  exact hsecond.publication hp

/-- The earlier ticket is current as long as no change has come since, on an open document. -/
theorem Overtaken.isCurrent_iff
    (h : Overtaken s₀ past between meanwhile i j doc b b' p s d t answer) :
    b.ticket.isCurrent d = true ↔
      d.closed = false ∧ b.ticket.version = p.ticket.version ∧ p.ticket.version = d.version := by
  obtain ⟨hle, hle'⟩ := h.versions
  obtain ⟨d₁, hfirst⟩ := h.first
  have hd := h.document
  rw [h.reached, List.append_assoc] at hd
  have huri : d.uri = b.ticket.uri := by
    rw [hfirst.begun]
    exact (later_between hfirst.document hd).uri
  rw [h.ticket_eq.2, Ticket.isCurrent, huri]
  simp only [beq_self_eq_true, Bool.and_true, Bool.and_eq_true, Bool.not_eq_true', beq_iff_eq]
  constructor
  · rintro ⟨hopen, hversion⟩
    exact ⟨hopen, by omega, by omega⟩
  · rintro ⟨hopen, hversion, hversion'⟩
    exact ⟨hopen, by omega⟩

/-- **When an overtaken attempt replaces a later result**: if and only if the document is open and
still has the one version that both attempts noted. Otherwise the later result stays. -/
theorem Overtaken.replaces_iff
    (h : Overtaken s₀ past between meanwhile i j doc b b' p s d t answer) :
    ((s.publication? (.step i)).isSome = true ↔
      d.closed = false ∧ b.ticket.version = p.ticket.version ∧ p.ticket.version = d.version) ∧
    Keyed.get? (s.act (.step i)).bench.display d.uri =
      some (if (s.publication? (.step i)).isSome = true then
        (s.read d t answer.stdout).diagnostics else p.diagnostics) := by
  rw [← h.isCurrent_iff]
  obtain ⟨a, b₁, ha, hcan, hanswer⟩ := h.answered
  obtain ⟨d₁, hfirst⟩ := h.first
  obtain ⟨a', ha', hdoc, hbegun⟩ := hfirst.begun?_after (between ++ .step j :: meanwhile)
  -- The attempt that is about to end is the one that began first.
  have hsame : a' = a := by
    rw [h.reached, List.append_assoc] at ha
    exact Option.some.inj (ha'.symm.trans ha)
  subst hsame
  rw [begun?_of_answer? hanswer] at hbegun
  cases hbegun
  have hd := h.document
  rw [← hdoc] at hd
  rcases publication?_of_answer ha hd hcan hanswer with
    ⟨hcurrent, hp, hfound⟩ | ⟨hold, hnone, hdisplay⟩
  · rw [hp, hfound.display, Keyed.get?_set, if_pos rfl]
    exact ⟨by simp [hcurrent], rfl⟩
  · rw [hnone, hdisplay, h.displayed]
    exact ⟨by simp [hold], rfl⟩

end

/-! Two attempts on the unchanged document of the sample session, the first of which ends last. It
finds nothing, and the later one had a finding. -/

/-- What attempts fix that begin with the sample document at once. -/
def sampleBegun : Begun :=
  ⟨0, .capture sampleDocument⟩

/-- `Begins`, as it can be looked up in a run of the sample session. -/
theorem begins_sample {outputs : List String} {past : List Action} {i : Nat}
    (hcreated : (((sample outputs).after past).attempt? i).map
      (fun a ↦ decide (a.doc = 0 ∧ a.stage = .created)) = some true)
    (hrest : ((sample outputs).after past).documents[0]? = some sampleDocument ∧
      ((sample outputs).after past).enabled = true ∧ ((sample outputs).after past).now = 0) :
    Begins (sample outputs) past i 0 sampleDocument sampleBegun := by
  rw [Option.map_eq_some_iff] at hcreated
  obtain ⟨a, ha, hstage⟩ := hcreated
  obtain ⟨hd, hon, hnow⟩ := hrest
  exact ⟨⟨a, ha, of_decide_eq_true hstage⟩, hd, hon, by rw [hnow]; rfl⟩

/-- The sample session in which the second attempt has published. -/
def overtakenSample : Session :=
  (sample ["", oneFinding]).after [.call 0, .call 0, .step 0, .step 1, .step 0, .step 1, .step 1]

theorem overtaken_sample :
    ∃ p, p.diagnostics.length = 1 ∧
      Overtaken (sample ["", oneFinding]) [.call 0, .call 0] [] [.step 0, .step 1, .step 1] 0 1 0
        sampleBegun sampleBegun p overtakenSample sampleDocument
        (Snapshot.inPlace ⟨.root, ["w"]⟩ sampleDocument) ⟨"", "", 0⟩ := by
  have hfound : (((sample ["", oneFinding]).after
      [.call 0, .call 0, .step 0, .step 1, .step 0, .step 1]).publication? (.step 1)).map
        (fun p ↦ (p.id, p.diagnostics.length,
          decide (Keyed.get? overtakenSample.bench.display sampleDocument.uri =
            some p.diagnostics))) = some (1, 1, true) := by decide +kernel
  rw [Option.map_eq_some_iff] at hfound
  obtain ⟨p, hp, hp'⟩ := hfound
  obtain ⟨hid, hlength, hdisplayed⟩ := by simpa only [Prod.mk.injEq] using hp'
  have hanswered : (overtakenSample.attempt? 0).map (fun a ↦ (overtakenSample.canStep a,
      a.stage.answer?)) = some (true, some (sampleBegun,
        Snapshot.inPlace ⟨.root, ["w"]⟩ sampleDocument, ⟨"", "", 0⟩)) := by decide +kernel
  rw [Option.map_eq_some_iff] at hanswered
  obtain ⟨a, ha, ha'⟩ := hanswered
  obtain ⟨hcan, hanswer⟩ := Prod.mk.inj ha'
  exact ⟨p, hlength, {
    reached := rfl
    first := ⟨sampleDocument, begins_sample (by decide +kernel) (by decide +kernel)⟩
    second := ⟨sampleDocument, begins_sample (by decide +kernel) (by decide +kernel)⟩
    published := mem_publications.mpr ⟨[.step 0, .step 1], .step 1, [], rfl, hp⟩
    publisher := hid
    document := by decide +kernel
    displayed := of_decide_eq_true hdisplayed
    answered := ⟨a, _, ha, hcan, hanswer⟩ }⟩

/-- The overtaken attempt takes the finding of the later one away. -/
theorem replaces_sample :
    ∃ p, p ∈ ((sample ["", oneFinding]).after ([.call 0, .call 0] ++ .step 0 :: [] ++
        [.step 1])).publications [.step 0, .step 1, .step 1] ∧ p.diagnostics.length = 1 ∧
      (overtakenSample.publication? (.step 0)).isSome = true ∧
      Keyed.get? (overtakenSample.act (.step 0)).bench.display sampleDocument.uri = some [] := by
  obtain ⟨p, hlength, h⟩ := overtaken_sample
  have hreplaces := h.replaces_iff
  have hsome : (overtakenSample.publication? (.step 0)).isSome = true := by
    rw [hreplaces.1, h.ticket_eq.2]
    exact ⟨rfl, rfl, rfl⟩
  have hread : (overtakenSample.read sampleDocument
      (Snapshot.inPlace ⟨.root, ["w"]⟩ sampleDocument) "").diagnostics = [] := by decide +kernel
  refine ⟨p, h.published, hlength, hsome, ?_⟩
  rw [hreplaces.2, if_pos hsome, hread]

/-- So results do not follow the order in which attempts began. -/
theorem not_published_stays :
    ¬ ∀ s₀ past between meanwhile i j doc b b' p s d t answer, Opened s₀ →
      Overtaken s₀ past between meanwhile i j doc b b' p s d t answer →
        Keyed.get? (s.act (.step i)).bench.display d.uri = some p.diagnostics := by
  intro hstays
  obtain ⟨p, hlength, h⟩ := overtaken_sample
  have hkept := hstays _ _ _ _ _ _ _ _ _ _ _ _ _ _ (opened_sample _) h
  have hgone : Keyed.get? (overtakenSample.act (.step 0)).bench.display sampleDocument.uri =
      some [] := by decide +kernel
  rw [hgone] at hkept
  rw [← Option.some.inj hkept] at hlength
  cases hlength

end Session

end DiagnosticFeed
