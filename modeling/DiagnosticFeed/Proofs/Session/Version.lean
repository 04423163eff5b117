import DiagnosticFeed.Proofs.Files
import DiagnosticFeed.Proofs.Session.Frame

/-!
# Documents over time

A document keeps its name, its path and its language, and each change of its text raises its version
by one, whatever else happens to the session. So the version counts the changes: two moments at
which a document has the same version are moments between which its text did not change. This is
what makes a ticket, which holds only a version, stand for a text.
-/

namespace DiagnosticFeed

/-- `d'` is what became of the document `d` after `n` changes of its text. -/
structure Document.Later (n : Nat) (d d' : Document) : Prop where
  uri : d'.uri = d.uri
  path : d'.path = d.path
  language : d'.language = d.language
  version : d'.version = d.version + n
  text : n = 0 → d'.text = d.text
  closed : d.closed = true → d'.closed = true

theorem Document.Later.refl (d : Document) : d.Later 0 d := by
  constructor <;> simp

theorem Document.Later.trans {m n : Nat} {d d' d'' : Document} (h : d.Later m d')
    (h' : d'.Later n d'') : d.Later (m + n) d'' where
  uri := h'.uri.trans h.uri
  path := h'.path.trans h.path
  language := h'.language.trans h.language
  version := by rw [h'.version, h.version]; push_cast; omega
  text := fun hmn ↦ (h'.text (by omega)).trans (h.text (by omega))
  closed := fun hd ↦ h'.closed (h.closed hd)

theorem Document.later_setText (d : Document) (text : String) : d.Later 1 (d.setText text) := by
  constructor <;> simp [Document.setText]

theorem Document.later_close (d : Document) : d.Later 0 d.close := by
  constructor <;> simp [Document.close]

theorem Document.later_save {d d' : Document} {disk disk' : Disk}
    (h : d.save disk = .ok (d', disk')) : d.Later 0 d' := by
  obtain ⟨p, -, -, rfl⟩ := Document.eq_of_save h
  constructor <;> simp

theorem Document.Later.text_eq {n : Nat} {d d' : Document} (h : d.Later n d')
    (hv : d'.version = d.version) : d'.text = d.text := by
  have hversion := h.version
  exact h.text (by omega)

theorem Document.Later.version_le {n : Nat} {d d' : Document} (h : d.Later n d') :
    d.version ≤ d'.version := by
  have hversion := h.version
  omega

namespace Session

def Action.edits (doc : Nat) : Action → Bool
  | .setText i _ | .edit i _ => i == doc
  | _ => false

def editCount (doc : Nat) (acts : List Action) : Nat :=
  acts.countP (·.edits doc)

theorem editCount_cons (doc : Nat) (e : Action) (acts : List Action) :
    editCount doc (e :: acts) = (if e.edits doc then 1 else 0) + editCount doc acts := by
  rw [editCount, List.countP_cons, Nat.add_comm, editCount]

section

variable {s : Session} {doc : Nat} {d : Document}

theorem document_modify (h : s.documents[doc]? = some d) (i : Nat) (f : Document → Document) :
    (s.documents.modify i f)[doc]? = some (if i = doc then f d else d) := by
  rw [List.getElem?_modify, h]
  rfl

theorem document_save (h : s.documents[doc]? = some d) (i : Nat) :
    ∃ d', (s.act (.save i)).documents[doc]? = some d' ∧ d.Later 0 d' := by
  rcases s.save_cases i with ⟨disk, hsame, -⟩ | ⟨di, di', disk, hi, hdi, hsave, -⟩
  · exact ⟨d, by rw [hsame]; exact h, Document.Later.refl d⟩
  · refine ⟨if i = doc then di' else d, ?_, ?_⟩
    · rw [hsave]
      exact document_modify h i _
    · split
      · next hdoc =>
        subst hdoc
        rw [hi] at h
        cases h
        exact Document.later_save hdi
      · exact Document.Later.refl d

/-- **The version counts the changes**, over one action. -/
theorem later_act (h : s.documents[doc]? = some d) (e : Action) :
    ∃ d', (s.act e).documents[doc]? = some d' ∧ d.Later (if e.edits doc then 1 else 0) d' := by
  by_cases haside : e.isAside = true
  · refine ⟨d, ?_, ?_⟩
    · rw [(s.aside_act haside).documents, h]
    · cases e <;> first | exact Document.Later.refl d | simp [Action.isAside] at haside
  cases e with
  | openDocument d₁ =>
    refine ⟨d, ?_, Document.Later.refl d⟩
    exact (List.getElem?_append_left (List.getElem?_eq_some_iff.mp h).1).trans h
  | setText i text =>
    refine ⟨_, document_modify h i _, ?_⟩
    simp only [Action.edits, beq_iff_eq]
    split
    · exact d.later_setText text
    · exact Document.Later.refl d
  | edit i text =>
    -- The trigger that follows the change leaves the documents alone.
    refine ⟨if i = doc then d.setText text else d, ?_, ?_⟩
    · exact (congrArg (·[doc]?) (aside_trigger (s.setText i text) i).documents).trans
        (document_modify h i _)
    · simp only [Action.edits, beq_iff_eq]
      split
      · exact d.later_setText text
      · exact Document.Later.refl d
  | save i => exact document_save h i
  | close i =>
    refine ⟨_, document_modify h i _, ?_⟩
    simp only [Action.edits, Bool.false_eq_true, if_false]
    split
    · exact d.later_close
    · exact Document.Later.refl d
  | forget i =>
    refine ⟨d, ?_, Document.Later.refl d⟩
    change (s.forget i).documents[doc]? = some d
    rw [forget]
    split <;> exact h
  | call i => exact ⟨d, h, Document.Later.refl d⟩
  | fire order =>
    refine ⟨d, ?_, Document.Later.refl d⟩
    change (s.fire order).documents[doc]? = some d
    rcases s.fire_cases order with hsame | ⟨t, -, -, hfire⟩
    · rw [hsame, h]
    · rw [hfire]
      exact h
  | step id => exact ⟨d, (congrArg (·[doc]?) (s.still_step id).documents).trans h, .refl d⟩
  | settle id => exact ⟨d, (congrArg (·[doc]?) (s.kept_settle id).documents).trans h, .refl d⟩
  | _ => simp [Action.isAside] at haside

/-- **The version counts the changes**, over any run. -/
theorem later_after (h : s.documents[doc]? = some d) (acts : List Action) :
    ∃ d', (s.after acts).documents[doc]? = some d' ∧ d.Later (editCount doc acts) d' := by
  induction acts generalizing s d with
  | nil => exact ⟨d, h, Document.Later.refl d⟩
  | cons e acts ih =>
    obtain ⟨d₁, h₁, hlater₁⟩ := later_act h e
    obtain ⟨d', h', hlater'⟩ := ih h₁
    rw [editCount_cons]
    exact ⟨d', h', hlater₁.trans hlater'⟩

/-- `later_after`, for a document that is known at both ends. -/
theorem later_of_after {acts : List Action} {d' : Document} (h : s.documents[doc]? = some d)
    (h' : (s.after acts).documents[doc]? = some d') : d.Later (editCount doc acts) d' := by
  obtain ⟨d₁, h₁, hlater⟩ := later_after h acts
  rw [h'] at h₁
  cases h₁
  exact hlater

/-- `later_of_after`, for two moments of one run. -/
theorem later_between {acts more : List Action} {d' : Document}
    (h : (s.after acts).documents[doc]? = some d)
    (h' : (s.after (acts ++ more)).documents[doc]? = some d') :
    d.Later (editCount doc more) d' := by
  rw [after_append] at h'
  exact later_of_after h h'

end

end Session

end DiagnosticFeed
