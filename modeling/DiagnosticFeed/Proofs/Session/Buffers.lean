import DiagnosticFeed.Proofs.Files
import DiagnosticFeed.Proofs.Session.Version

/-!
# Buffers and their files

A document that is not dirty is on disk as it stands, up to its line ends: opening reads the file
with its line ends unified, a change makes the document dirty, and only a save that succeeds makes
it clean again. This holds as long as every document has a file of its own and nobody else touches
it; `Private` says so of a run, and is kept by each action on its own. A save that fails on the way
has already changed the file and leaves the document as it is, which does no harm to a document that
is dirty. To one that is clean it does, so there such a save counts as somebody else.
-/

namespace DiagnosticFeed

/-- A document as it is opened: from a file, or with none. -/
inductive Document.Fresh (disk : Disk) : Document → Prop
  | ofFile (text language : String) (d : Document) (cwd : disk.cwd.WellFormed)
    (opened : Document.ofFile disk (.ofString text) language = .ok d) : Fresh disk d
  | untitled (name text language : String) : Fresh disk (.untitled name text language)

/-- The file of a path holds a text, up to line ends. -/
def Disk.HoldsText (disk : Disk) (p : FilePath) (text : String) : Prop :=
  ∃ c written, disk.content? p = some c ∧ c.decode? = some written ∧
    Text.unifyLineEnds written.toList = Text.unifyLineEnds text.toList

theorem Disk.HoldsText.of_content? {disk disk' : Disk} {p q : FilePath} {text : String}
    (h : disk.HoldsText p text) (hsame : disk'.content? q = disk.content? p) :
    disk'.HoldsText q text := by
  obtain ⟨c, written, hcontent, hdecode, hunify⟩ := h
  exact ⟨c, written, hsame.trans hcontent, hdecode, hunify⟩

theorem Disk.holdsText_of_text {disk : Disk} {p : FilePath} {text : String}
    (h : disk.content? p = some (.text text)) : disk.HoldsText p text :=
  ⟨.text text, text, h, rfl, rfl⟩

/-- A document with a path has a resolved one, and what its file holds is its text unless it is
dirty. -/
structure Document.InSync (disk : Disk) (d : Document) : Prop where
  atRoot : ∀ p, d.path = some p → p.AtRoot
  holds : ∀ p, d.path = some p → d.dirty = false → disk.HoldsText p d.text

theorem Document.Fresh.inSync {disk : Disk} {d : Document} (h : d.Fresh disk) : d.InSync disk := by
  cases h with
  | ofFile text language d cwd opened =>
    constructor
    · intro p hp
      rw [(path_ofFile opened hp).1]
      exact FilePath.atRoot_canonical cwd (FilePath.wellFormed_ofString text)
    · intro p hp _
      obtain ⟨-, c, written, hcontent, hdecode, htext⟩ := path_ofFile opened hp
      refine ⟨c, written, hcontent, hdecode, ?_⟩
      rw [htext, String.toList_ofList, Text.unifyLineEnds_unifyLineEnds]
  | untitled name text language => exact ⟨nofun, nofun⟩

theorem Document.InSync.of_le {disk disk' : Disk} {d d' : Document} (h : d.InSync disk)
    (hpath : d'.path = d.path) (htext : d'.dirty = false → d.dirty = false ∧ d'.text = d.text)
    (hsame : ∀ p, d.path = some p → d.dirty = false → disk'.content? p = disk.content? p) :
    d'.InSync disk' := by
  constructor
  · intro p hp
    exact h.atRoot p (hpath ▸ hp)
  · intro p hp hclean
    obtain ⟨hclean, htext⟩ := htext hclean
    rw [hpath] at hp
    rw [htext]
    exact (h.holds p hp hclean).of_content? (hsame p hp hclean)

namespace Session

def saves (s : Session) : Action → Bool
  | .save doc => (s.save doc).isOk
  | _ => false

/-- Every document has a path of its own. -/
def Unmixed (s : Session) : Prop :=
  ∀ (i j : Nat) (d d' : Document) p, s.documents[i]? = some d → s.documents[j]? = some d' →
    d.path = some p → d'.path = some p → i = j

/-- Clean documents are on disk as they stand. -/
def InSync (s : Session) : Prop :=
  ∀ (i : Nat) d, s.documents[i]? = some d → d.InSync s.bench.disk

/-- Whether an action is a save that goes through, or leaves the files of all clean documents as
they are. -/
def sparesFiles (s : Session) (e : Action) : Bool :=
  s.saves e || s.documents.all fun d ↦ d.dirty || d.path.all fun p ↦
    decide ((s.act e).bench.disk.content? p = s.bench.disk.content? p)

/-- A run in which documents are opened from files or with none, have files of their own, and these
files change by saves only as long as the documents are clean. -/
structure Private (s₀ : Session) (acts : List Action) : Prop where
  opened : s₀.Opened
  documents : ∀ d ∈ s₀.documents, d.Fresh s₀.bench.disk
  opens : ∀ past d future, acts = past ++ .openDocument d :: future →
    d.Fresh (s₀.after past).bench.disk
  unmixed : (s₀.after acts).Unmixed
  spared : s₀.throughout sparesFiles acts = true

section

variable {s s₀ : Session} {e : Action} {i : Nat} {d d' : Document} {acts more : List Action}

theorem documents_act (hunheard : e.isUnheard = false) (hedit : ∀ doc text, e ≠ .edit doc text) :
    (s.act e).documents = s.documents := by
  by_cases haside : e.isAside = true
  · exact (s.aside_act haside).documents
  cases e with
  | edit doc text => exact absurd rfl (hedit doc text)
  | forget doc =>
    rw [act]
    rcases s.forget_cases doc with h | ⟨d, -, h⟩ <;> rw [h]
  | call doc => rfl
  | fire order =>
    rw [act]
    rcases s.fire_cases order with h | ⟨t, -, -, h⟩ <;> rw [h]
  | step id => exact (s.still_step id).documents
  | settle id => exact (s.kept_settle id).documents
  | _ => simp [Action.isAside, Action.isUnheard] at haside hunheard

/-- Without a save that goes through, a document is new or has its path, and its text unless it is
dirty. -/
theorem document_of_act (hsave : s.saves e = false) (h : (s.act e).documents[i]? = some d') :
    e = .openDocument d' ∨ ∃ d, s.documents[i]? = some d ∧ d'.path = d.path ∧
      (d'.dirty = false → d.dirty = false ∧ d'.text = d.text) := by
  -- What is done to one document is done to none of the others.
  have hmodify : ∀ {doc : Nat} {f : Document → Document},
      (s.documents.modify doc f)[i]? = some d' →
      (∀ d, (f d).path = d.path ∧ ((f d).dirty = false → d.dirty = false ∧ (f d).text = d.text)) →
      ∃ d, s.documents[i]? = some d ∧ d'.path = d.path ∧
        (d'.dirty = false → d.dirty = false ∧ d'.text = d.text) := by
    intro doc f hget hf
    rw [List.getElem?_modify, Option.map_eq_map, Option.map_eq_some_iff] at hget
    obtain ⟨d, hd, rfl⟩ := hget
    refine ⟨d, hd, ?_⟩
    split
    · exact hf d
    · exact ⟨rfl, fun hclean ↦ ⟨hclean, rfl⟩⟩
  cases e with
  | openDocument d₁ =>
    change (s.documents ++ [d₁])[i]? = some d' at h
    rw [List.getElem?_append] at h
    split at h
    · exact Or.inr ⟨d', h, rfl, fun hclean ↦ ⟨hclean, rfl⟩⟩
    · rw [List.getElem?_singleton] at h
      split at h <;> cases h
      exact Or.inl rfl
  | setText doc text => exact Or.inr (hmodify h fun d ↦ ⟨rfl, nofun⟩)
  | edit doc text =>
    have hdocuments := (aside_trigger (s.setText doc text) doc).documents
    exact Or.inr (hmodify ((congrArg (·[i]?) hdocuments).symm.trans h) fun d ↦ ⟨rfl, nofun⟩)
  | close doc => exact Or.inr (hmodify h fun d ↦ ⟨rfl, fun hclean ↦ ⟨hclean, rfl⟩⟩)
  | save doc =>
    rcases s.save_cases doc with ⟨disk, hsame, -⟩ | ⟨-, -, -, -, -, -, hok⟩
    · rw [hsame] at h
      exact Or.inr ⟨d', h, rfl, fun hclean ↦ ⟨hclean, rfl⟩⟩
    · cases hsave.symm.trans hok
  | _ =>
    rw [documents_act rfl (by simp)] at h
    exact Or.inr ⟨d', h, rfl, fun hclean ↦ ⟨hclean, rfl⟩⟩

/-- A save that goes through writes the text of its document as it is, and nothing else. -/
theorem inSync_save (hsync : s.InSync) (hunmixed : s.Unmixed) {doc : Nat}
    (hsaves : s.saves (.save doc) = true) : (s.act (.save doc)).InSync := by
  rcases s.save_cases doc with ⟨disk, hsame, hdisk⟩ | ⟨d, d', disk, hd, hsave, hact, -⟩
  · rw [hsame, hdisk hsaves]
    exact hsync
  obtain ⟨p, hp, hwrite, rfl⟩ := Document.eq_of_save hsave
  intro i d₁ hd₁
  rw [hact] at hd₁ ⊢
  change (s.documents.modify doc _)[i]? = some d₁ at hd₁
  change d₁.InSync disk
  rw [List.getElem?_modify, Option.map_eq_map, Option.map_eq_some_iff] at hd₁
  obtain ⟨d₂, hd₂, rfl⟩ := hd₁
  split
  · next hdoc =>
    subst hdoc
    refine ⟨(hsync doc d hd).atRoot, ?_⟩
    intro q hq _
    rw [show d.path = some p from hp] at hq
    cases hq
    exact Disk.holdsText_of_text (by rw [Disk.content?_of_writeText hwrite, if_pos rfl])
  · next hdoc =>
    refine (hsync i d₂ hd₂).of_le rfl (fun hclean ↦ ⟨hclean, rfl⟩) ?_
    intro q hq _
    rw [Disk.content?_of_writeText hwrite, if_neg]
    intro hkey
    have hpath :=
      Disk.key_inj ((hsync doc d hd).atRoot p hp) ((hsync i d₂ hd₂).atRoot q hq) hkey
    exact hdoc (hunmixed doc i d d₂ p hd hd₂ hp (hpath ▸ hq))

/-- **Clean documents stay in sync**, over one action. -/
theorem inSync_act (hsync : s.InSync) (hunmixed : s.Unmixed)
    (hopens : ∀ d, e = .openDocument d → d.Fresh s.bench.disk) (hspares : s.sparesFiles e = true) :
    (s.act e).InSync := by
  cases hsave : s.saves e with
  | true =>
    cases e with
    | save doc => exact inSync_save hsync hunmixed hsave
    | _ => cases hsave
  | false =>
    intro i d' hd'
    rcases document_of_act hsave hd' with rfl | ⟨d, hd, hpath, htext⟩
    · exact (hopens d' rfl).inSync
    · refine (hsync i d hd).of_le hpath htext ?_
      intro p hp hclean
      rw [sparesFiles, hsave, Bool.false_or, List.all_eq_true] at hspares
      have hfile := hspares d (List.mem_of_getElem? hd)
      rw [hclean, Bool.false_or, hp, Option.all_some, decide_eq_true_eq] at hfile
      exact hfile

theorem Unmixed.of_after (h : (s.after acts).Unmixed) : s.Unmixed := by
  intro i j d d' p hd hd' hp hp'
  obtain ⟨d₁, hd₁, hlater⟩ := later_after hd acts
  obtain ⟨d₁', hd₁', hlater'⟩ := later_after hd' acts
  exact h i j d₁ d₁' p hd₁ hd₁' (hlater.path.trans hp) (hlater'.path.trans hp')

theorem Private.of_append (h : Private s₀ (acts ++ more)) : Private s₀ acts where
  opened := h.opened
  documents := h.documents
  opens := by
    rintro past d future rfl
    exact h.opens past d (future ++ more) (by simp)
  unmixed := by
    have hend := h.unmixed
    rw [after_append] at hend
    exact hend.of_after
  spared := by
    have hspared := h.spared
    rw [throughout_append, Bool.and_eq_true] at hspared
    exact hspared.1

/-- **Clean documents are on disk as they stand**, in every run that leaves their files to them. -/
theorem inSync_after (h : Private s₀ acts) : (s₀.after acts).InSync := by
  induction acts using List.reverseRecOn with
  | nil =>
    intro i d hd
    exact (h.documents d (List.mem_of_getElem? hd)).inSync
  | append_singleton acts e ih =>
    rw [after_concat]
    have hspared := h.spared
    rw [throughout_concat, Bool.and_eq_true] at hspared
    refine inSync_act (ih h.of_append) h.of_append.unmixed ?_ hspared.2
    rintro d rfl
    exact h.opens acts d [] rfl

end

end Session

end DiagnosticFeed
