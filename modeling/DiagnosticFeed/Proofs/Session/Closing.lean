import DiagnosticFeed.Proofs.Session.Buffers
import DiagnosticFeed.Proofs.Session.KnownFixes

/-!
# Closed documents stay gone

When a document is closed and the session is told, its entry goes off the display, and its fixes and
aliases are forgotten. Attempts on it may be anywhere at that moment: waiting for their quiet
period, at any step, or about to remove their snapshot. New ones can be started at any time. None of
them brings anything back, since all that puts something under a name is a publication, which takes
an open document of this name.

So the state in which there is nothing under a name is kept by every action, as long as no document
of the name is open.
-/

namespace DiagnosticFeed

namespace Session

/-- No document of a name is open. -/
def NoneOpen (uri : String) (s : Session) : Prop :=
  ∀ (i : Nat) (d : Document), s.documents[i]? = some d → d.uri = uri → d.closed = true

/-- Nothing is displayed under a name, and neither fixes nor aliases are known. -/
structure Gone (uri : String) (s : Session) : Prop where
  shown : Keyed.get? s.bench.display uri = none
  known : s.registry.NothingAt uri

/-- A document is closed and the session is told: later, or just before. -/
inductive Closing (doc : Nat) : List Action → Prop
  | closed (between : List Action) : Closing doc (.close doc :: between ++ [.forget doc])
  | told : Closing doc [.forget doc, .close doc]

/-! ## One action -/

section

variable {s : Session} {e : Action} {uri : String} {i doc : Nat} {d : Document}

theorem new_of_act (hnone : s.documents[i]? = none) (h : (s.act e).documents[i]? = some d) :
    e = .openDocument d := by
  cases hsaves : s.saves e with
  | false =>
    rcases document_of_act hsaves h with hopen | ⟨d', hd', -⟩
    · exact hopen
    · cases hnone.symm.trans hd'
  | true =>
    cases e with
    | save doc =>
      rcases s.save_cases doc with ⟨disk, hsame, -⟩ | ⟨d₁, d₂, disk, -, -, hsave, -⟩
      · rw [hsame] at h
        cases hnone.symm.trans h
      · rw [hsave] at h
        change (s.documents.modify doc _)[i]? = some d at h
        rw [List.getElem?_modify, hnone] at h
        cases h
    | _ => cases hsaves

theorem NoneOpen.act (h : s.NoneOpen uri)
    (hnew : ∀ d, e = .openDocument d → d.uri = uri → d.closed = true) :
    (s.act e).NoneOpen uri := by
  intro i d' hd' huri
  cases hd : s.documents[i]? with
  | none => exact hnew d' (new_of_act hd hd') huri
  | some d =>
    obtain ⟨d₁, hd₁, hlater⟩ := later_act hd e
    cases hd'.symm.trans hd₁
    exact hlater.closed (h i d hd (hlater.uri.symm.trans huri))

/-- **Nothing comes back** under a name without an open document. -/
theorem Gone.act (h : s.Gone uri) (hnone : s.NoneOpen uri) (e : Action) : (s.act e).Gone uri := by
  cases hp : s.publication? e with
  | none =>
    cases silent_of_publication? hp with
    | bare e registry nextDiagnostic display =>
      exact ⟨by rw [display, h.shown], by rw [registry]; exact h.known⟩
    | forgotten doc d document registry nextDiagnostic display =>
      refine ⟨?_, by rw [registry]; exact h.known.invalidate d.uri⟩
      rw [display, Keyed.get?_erase, h.shown]
      exact ite_self _
    | missing id a d attempt document misses cleared =>
      exact ⟨by rw [cleared.display]; rfl, by rw [cleared.registry]; exact h.known⟩
  | some p =>
    obtain ⟨rfl, d, t, answer, hpublishes⟩ := publishes_of_publication? hp
    -- What is published is published for an open document, so under another name.
    have hne : d.uri ≠ uri := by
      intro huri
      cases hpublishes.closed_eq.symm.trans (hnone p.doc d hpublishes.document huri)
    have hcleared := h.known.invalidate d.uri
    refine ⟨?_, ?_⟩
    · rw [hpublishes.found.display, Keyed.get?_set, if_neg hne, h.shown]
    · rw [hpublishes.found.registry]
      refine hcleared.of_sameAt (Wire.sameAt_intake_of_ne hne fun id hid ↦ ?_)
      rw [hcleared.ids] at hid
      cases hid

theorem gone_forget (hd : s.documents[doc]? = some d) : (s.act (.forget doc)).Gone d.uri := by
  change (s.forget doc).Gone d.uri
  rw [forget, hd]
  exact ⟨(Keyed.get?_erase _ _ _).trans (if_pos rfl), s.registry.nothingAt_invalidate d.uri⟩

end

/-! ## Whole runs -/

section

variable {s s₀ : Session} {acts past closing later : List Action} {uri : String} {doc : Nat}
  {d : Document}

theorem NoneOpen.after (h : s.NoneOpen uri)
    (hnew : ∀ d, .openDocument d ∈ acts → d.uri = uri → d.closed = true) :
    (s.after acts).NoneOpen uri := by
  induction acts generalizing s with
  | nil => exact h
  | cons e acts ih =>
    refine ih (h.act fun d he ↦ hnew d ?_) fun d hd ↦ hnew d (List.mem_cons_of_mem e hd)
    rw [he]
    exact List.mem_cons_self

theorem Gone.after (h : s.Gone uri) (hnone : s.NoneOpen uri)
    (hnew : ∀ d, .openDocument d ∈ acts → d.uri = uri → d.closed = true) :
    (s.after acts).Gone uri := by
  induction acts using List.reverseRecOn with
  | nil => exact h
  | append_singleton acts e ih =>
    have hacts : ∀ d, .openDocument d ∈ acts → d.uri = uri → d.closed = true :=
      fun d hd ↦ hnew d (List.mem_append_left [e] hd)
    rw [after_concat]
    exact (ih hacts).act (hnone.after hacts) e

theorem Closing.gone (h : Closing doc closing) (hd : s.documents[doc]? = some d) :
    (s.after closing).Gone d.uri := by
  cases h with
  | closed between =>
    obtain ⟨d', hd', hlater⟩ := later_after hd (.close doc :: between)
    rw [after_concat, ← hlater.uri]
    exact gone_forget hd'
  | told =>
    have hforgotten := gone_forget hd
    exact ⟨hforgotten.shown, hforgotten.known⟩

theorem Closing.closed_eq (h : Closing doc closing) (hd : s.documents[doc]? = some d) :
    ∃ d', (s.after closing).documents[doc]? = some d' ∧ d'.closed = true := by
  cases h with
  | closed between =>
    have hclose : (s.act (.close doc)).documents[doc]? = some d.close :=
      (document_modify hd doc _).trans (by rw [if_pos rfl])
    obtain ⟨d', hd', hlater⟩ := later_after hclose (between ++ [.forget doc])
    exact ⟨d', hd', hlater.closed rfl⟩
  | told =>
    obtain ⟨d', hd', -⟩ := later_act hd (.forget doc)
    exact ⟨d'.close, (document_modify hd' doc _).trans (by rw [if_pos rfl]), rfl⟩

theorem isNamed_after (h : s.isNamed doc uri = true) (acts : List Action) :
    (s.after acts).isNamed doc uri = true := by
  obtain ⟨d, hd, huri⟩ := isNamed_iff.mp h
  obtain ⟨d', hd', hlater⟩ := later_after hd acts
  exact isNamed_iff.mpr ⟨d', hd', hlater.uri.trans huri⟩

theorem name_unique {uri' : String} (h : s.isNamed doc uri = true)
    (h' : s.isNamed doc uri' = true) : uri' = uri := by
  obtain ⟨d, hd, rfl⟩ := isNamed_iff.mp h
  obtain ⟨d', hd', rfl⟩ := isNamed_iff.mp h'
  cases hd.symm.trans hd'
  rfl

/-- Where nothing is known under a name, no diagnostic that was ever published under it has
fixes. -/
theorem Gone.fixesFor_eq (h₀ : s₀.Opened) (h : (s₀.after acts).Gone uri)
    {before after : List Action} {p : Publication} {g : Diagnostic}
    (hacts : acts = before ++ .step p.id :: after)
    (hp : (s₀.after before).publication? (.step p.id) = some p)
    (hnamed : (s₀.after before).isNamed p.doc uri = true) (hg : g ∈ p.diagnostics) :
    (s₀.after acts).registry.fixesFor g.id = [] := by
  by_contra hfixes
  obtain ⟨uri', past, p', future, hlast, hmem, hlisted⟩ :=
    lastWord_of_fixesFor h₀.registry_eq hfixes
  obtain ⟨g', hg', hid⟩ := List.mem_map.mp hmem
  -- The diagnostic tells its publication, and this one its document and the name.
  have hsame : p = p' := publication_eq_of_id (mem_publications.mpr ⟨_, _, _, hacts, hp⟩)
    (mem_publications.mpr ⟨_, _, _, hlast.made, hlast.publication⟩) hg hg' hid.symm
  subst hsame
  have hname := isNamed_after hnamed (.step p.id :: after)
  have hname' := isNamed_after hlast.named (.step p.id :: future)
  rw [← after_append, ← hacts] at hname
  rw [← after_append, ← hlast.made] at hname'
  have huri : uri' = uri := name_unique hname hname'
  rw [huri, h.known.ids] at hlisted
  cases hlisted

/-- **Closed documents stay gone.** After a document was closed and the session told, with no other
document of its name open then or opened since, nothing is displayed under the name, whichever
attempts were or are under way, and neither fixes nor aliases are known. -/
theorem closed_stays_gone (h₀ : s₀.Opened) (hd : (s₀.after past).documents[doc]? = some d)
    (hclosing : Closing doc closing)
    (hothers : ∀ i d', i ≠ doc → (s₀.after (past ++ closing)).documents[i]? = some d' →
      d'.uri = d.uri → d'.closed = true)
    (hnew : ∀ d', .openDocument d' ∈ later → d'.uri = d.uri → d'.closed = true) :
    (s₀.after (past ++ closing ++ later)).Gone d.uri ∧
      ∀ before p after, past ++ closing ++ later = before ++ .step p.id :: after →
        (s₀.after before).publication? (.step p.id) = some p →
        (s₀.after before).isNamed p.doc d.uri = true → ∀ g ∈ p.diagnostics,
          (s₀.after (past ++ closing ++ later)).registry.fixesFor g.id = [] := by
  have hnone : (s₀.after (past ++ closing)).NoneOpen d.uri := by
    intro i d' hd' huri
    by_cases hi : i = doc
    · subst hi
      rw [after_append] at hd'
      obtain ⟨d₁, hd₁, hclosed⟩ := hclosing.closed_eq hd
      cases hd'.symm.trans hd₁
      exact hclosed
    · exact hothers i d' hi hd' huri
  have hclosed : (s₀.after (past ++ closing)).Gone d.uri := by
    rw [after_append]
    exact hclosing.gone hd
  have hgone : (s₀.after (past ++ closing ++ later)).Gone d.uri := by
    rw [after_append]
    exact hclosed.after hnone hnew
  exact ⟨hgone, fun before p after hacts hp hnamed g hg ↦ hgone.fixesFor_eq h₀ hacts hp hnamed hg⟩

end

/-- Of two attempts, the first one has published, and the second one is running. -/
def oneRunning : List Action :=
  [.call 0, .call 0, .step 0, .step 0, .step 0, .step 1, .step 1]

/-- The document is closed, and then the second attempt ends. -/
theorem closed_sample :
    ((sample [oneFix, oneFix]).after oneRunning).registry.fixesFor 0 ≠ [] ∧
      ((sample [oneFix, oneFix]).after (oneRunning ++ [.close 0, .forget 0] ++ [.step 1])).Gone
        sampleDocument.uri := by
  have hrun : (((sample [oneFix, oneFix]).after oneRunning).registry.fixesFor 0).isEmpty = false ∧
      ((sample [oneFix, oneFix]).after oneRunning).documents[0]? = some sampleDocument ∧
      ((sample [oneFix, oneFix]).after
        (oneRunning ++ [.close 0, .forget 0])).documents.length = 1 := by decide +kernel
  obtain ⟨hfixes, hd, hlength⟩ := hrun
  have hclosing : Closing 0 [.close 0, .forget 0] := .closed []
  refine ⟨List.isEmpty_eq_false_iff.mp hfixes,
    (closed_stays_gone (opened_sample [oneFix, oneFix]) hd hclosing ?_ ?_).1⟩
  · intro i d' hi hd' _
    obtain ⟨hbound, -⟩ := List.getElem?_eq_some_iff.mp hd'
    omega
  · intro d' hmem
    simp at hmem

end Session

end DiagnosticFeed
