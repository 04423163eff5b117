import DiagnosticFeed.Proofs.Session.LastWord
import DiagnosticFeed.Proofs.Session.Offers
import DiagnosticFeed.Proofs.Wire.Registration

/-!
# What fixes are known for

A publication replaces the fixes of its document together with what is displayed for it, and
forgetting the document takes both away. So whatever has fixes belongs to the publication that has
the last word on its document. A missing executable takes away what is displayed only: from then on
fixes are known for diagnostics that nobody sees, until the document is published for again or
forgotten. Nothing else parts the two stores.
-/

namespace DiagnosticFeed

namespace Session

section

variable {s s₀ : Session} {acts : List Action} {e : Action} {uri : String} {id : Nat}

theorem idsOf_act (h : s.concerns uri e = false) :
    (s.act e).registry.idsOf uri = s.registry.idsOf uri := by
  cases hp : s.publication? e with
  | some p =>
    have hconcerns : s.concerns uri e = s.isNamed p.doc uri := concerns_of_publication? hp
    obtain ⟨rfl, d, t, answer, hpublishes⟩ := publishes_of_publication? hp
    have huri : d.uri ≠ uri := by
      intro huri
      rw [hconcerns, isNamed_iff.mpr ⟨d, hpublishes.document, huri⟩] at h
      cases h
    rw [hpublishes.found.registry, read, Wire.idsOf_intake_of_ne huri,
      FixRegistry.idsOf_invalidate, if_neg huri]
  | none =>
    cases silent_of_publication? hp with
    | bare e registry nextDiagnostic display => rw [registry]
    | forgotten doc d document registry nextDiagnostic display =>
      rw [registry, FixRegistry.idsOf_invalidate, if_neg]
      intro huri
      simp [concerns, Action.forgets?, isNamed_iff.mpr ⟨d, document, huri⟩] at h
    | missing i a d attempt document misses cleared => rw [cleared.registry]

/-- What is listed under a name and has fixes after an action that publishes nothing is listed
under a name that the action does not concern. -/
theorem spared_of_fixesFor (hp : s.publication? e = none)
    (hfixes : (s.act e).registry.fixesFor id ≠ []) (hlisted : id ∈ s.registry.idsOf uri) :
    s.concerns uri e = false := by
  rw [Bool.eq_false_iff]
  intro hconcerns
  obtain ⟨doc, d, rfl, hd, rfl⟩ := forgets_of_concerns hp hconcerns
  have hregistry : (s.act (.forget doc)).registry = s.registry.invalidate d.uri := by
    change (s.forget doc).registry = _
    rw [forget, hd]
  rw [hregistry, FixRegistry.fixesFor_invalidate, if_pos hlisted] at hfixes
  exact hfixes rfl

/-- **Where fixes come from**, over one action: they were known before and the action concerns no
name that they are listed under, or they were published. -/
theorem fixesFor_act (hfixes : (s.act e).registry.fixesFor id ≠ []) :
    (s.registry.fixesFor id ≠ [] ∧
        ∀ uri, id ∈ s.registry.idsOf uri → s.concerns uri e = false) ∨
      ∃ p uri, s.publication? e = some p ∧ s.isNamed p.doc uri = true ∧
        id ∈ p.diagnostics.map (·.id) ∧ id ∈ (s.act e).registry.idsOf uri := by
  cases hp : s.publication? e with
  | some p =>
    have hconcerns : ∀ uri, s.concerns uri e = s.isNamed p.doc uri :=
      fun _ ↦ concerns_of_publication? hp
    obtain ⟨rfl, d, t, answer, hpublishes⟩ := publishes_of_publication? hp
    rw [hpublishes.found.registry, read] at hfixes ⊢
    rcases Wire.fixesFor_intake hfixes with hbefore | ⟨henrolled, hlisted⟩
    · rw [FixRegistry.fixesFor_invalidate] at hbefore
      split at hbefore
      · exact absurd rfl hbefore
      · next hunlisted =>
        refine Or.inl ⟨hbefore, ?_⟩
        intro uri hlisted
        rw [hconcerns, Bool.eq_false_iff]
        intro hnamed
        obtain ⟨d', hd', rfl⟩ := isNamed_iff.mp hnamed
        rw [hpublishes.document] at hd'
        cases hd'
        exact hunlisted hlisted
    · refine Or.inr ⟨p, d.uri, rfl, isNamed_iff.mpr ⟨d, hpublishes.document, rfl⟩, ?_, hlisted⟩
      rw [hpublishes.diagnostics]
      exact henrolled
  | none =>
    refine Or.inl ⟨?_, fun uri hlisted ↦ spared_of_fixesFor hp hfixes hlisted⟩
    cases silent_of_publication? hp with
    | bare e registry nextDiagnostic display => rwa [registry] at hfixes
    | forgotten doc d document registry nextDiagnostic display =>
      rw [registry, FixRegistry.fixesFor_invalidate] at hfixes
      split at hfixes
      · exact absurd rfl hfixes
      · exact hfixes
    | missing i a d attempt document misses cleared => rwa [cleared.registry] at hfixes

/-- **What has fixes was published**, by the publication that has the last word on its document. -/
theorem lastWord_of_fixesFor (h₀ : s₀.registry = {})
    (hfixes : (s₀.after acts).registry.fixesFor id ≠ []) :
    ∃ uri past p future, LastWord s₀ acts uri past p future ∧ id ∈ p.diagnostics.map (·.id) ∧
      id ∈ (s₀.after acts).registry.idsOf uri := by
  induction acts using List.reverseRecOn with
  | nil =>
    rw [after_nil, h₀] at hfixes
    exact absurd rfl hfixes
  | append_singleton acts e ih =>
    rw [after_concat] at hfixes ⊢
    rcases fixesFor_act hfixes with ⟨hbefore, hspared⟩ | ⟨p, uri, hp, hnamed, hmem, hlisted⟩
    · obtain ⟨uri, past, p, future, hlast, hmem, hlisted⟩ := ih hbefore
      have hspares := hspared uri hlisted
      exact ⟨uri, past, p, future ++ [e], hlast.concat hspares, hmem,
        (idsOf_act hspares).symm ▸ hlisted⟩
    · exact ⟨uri, acts, p, [], lastWord_of_publication? hp hnamed, hmem, hlisted⟩

/-- **When a diagnostic with fixes is displayed**: if and only if the executable was not found
missing since it was published. -/
theorem fixes_displayed_iff (h₀ : s₀.Opened)
    (hfixes : (s₀.after acts).registry.fixesFor id ≠ []) :
    ∃ uri past p future, LastWord s₀ acts uri past p future ∧ id ∈ p.diagnostics.map (·.id) ∧
      (id ∈ ((s₀.after acts).bench.display.shown uri).map (·.id) ↔
        (s₀.after (past ++ [.step p.id])).throughout finds future = true) := by
  obtain ⟨uri, past, p, future, hlast, hmem, -⟩ := lastWord_of_fixesFor h₀.registry_eq hfixes
  refine ⟨uri, past, p, future, hlast, hmem, ?_⟩
  rw [Display.shown]
  constructor
  · intro hshown
    cases hentry : Keyed.get? (s₀.after acts).bench.display uri with
    | none =>
      rw [hentry] at hshown
      cases hshown
    | some ds =>
      obtain ⟨past', p', future', hdisplay, -⟩ := (displayed_iff h₀.display_eq).mp hentry
      obtain ⟨rfl, rfl, rfl⟩ := hlast.unique hdisplay.toLastWord
      exact hdisplay.found
  · intro hfound
    have hentry := (displayed_iff h₀.display_eq).mpr ⟨past, p, future, ⟨hlast, hfound⟩, rfl⟩
    rw [hentry]
    exact hmem

end

/-- One attempt up to its end, and another one that misses the executable. -/
def thenMiss : List Action :=
  [.call 0, .call 0, .step 0, .step 0, .step 0, .step 1, .step 1]

theorem thenMiss_fixes : ((losingSample oneFix).after thenMiss).registry.fixesFor 0 ≠ [] ∧
    ((losingSample oneFix).after thenMiss).bench.display = [] := by
  have hrun : (((losingSample oneFix).after thenMiss).registry.fixesFor 0).isEmpty = false ∧
      ((losingSample oneFix).after thenMiss).bench.display.isEmpty = true := by decide +kernel
  exact ⟨List.isEmpty_eq_false_iff.mp hrun.1, List.isEmpty_iff.mp hrun.2⟩

/-- The fix is still known, and the executable was found missing since. -/
theorem fixes_displayed_sample :
    ((losingSample oneFix).after thenMiss).registry.fixesFor 0 ≠ [] ∧
      ∃ uri past p future, LastWord (losingSample oneFix) thenMiss uri past p future ∧
        ((losingSample oneFix).after (past ++ [.step p.id])).throughout finds future = false := by
  obtain ⟨hfixes, hempty⟩ := thenMiss_fixes
  obtain ⟨uri, past, p, future, hlast, -, hdisplayed⟩ :=
    fixes_displayed_iff (opened_losingSample oneFix) hfixes
  refine ⟨hfixes, uri, past, p, future, hlast, ?_⟩
  rw [Bool.eq_false_iff]
  intro hfound
  have hshown := hdisplayed.mpr hfound
  rw [hempty] at hshown
  cases hshown

/-- So fixes can be known for what is not displayed under any name. -/
theorem not_fixes_displayed :
    ¬ ∀ s₀ acts id, Opened s₀ → (s₀.after acts).registry.fixesFor id ≠ [] →
      ∃ uri, id ∈ ((s₀.after acts).bench.display.shown uri).map (·.id) := by
  intro hall
  obtain ⟨hfixes, hempty⟩ := thenMiss_fixes
  obtain ⟨uri, hshown⟩ := hall _ thenMiss 0 (opened_losingSample oneFix) hfixes
  rw [hempty] at hshown
  cases hshown

end Session

end DiagnosticFeed
