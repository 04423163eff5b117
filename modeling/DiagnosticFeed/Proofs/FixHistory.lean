import DiagnosticFeed.Proofs.Keyed
import DiagnosticFeed.Proofs.Wire.Registration
import Mathlib.Data.Finset.Card

/-!
# What a registry remembers

The registry keeps three tables: fixes by diagnostic, diagnostics by document, aliases by document.
What it answers does not depend on how they came about but on a few of the calls that it was given:
the last registration of a diagnostic and the last aliases of a document, unless the document, or
everything, was forgotten since. This holds as long as no diagnostic is registered under two
documents, for then the second table reaches all of the first: forgetting one document forgets the
fixes of all its diagnostics, and of no others.
-/

namespace DiagnosticFeed

namespace FixRegistry

/-! ## Calls -/

/-- What a registry is told. -/
inductive Call where
  | register (uri : String) (id : Nat) (fixes : List Fix)
  | setAliases (uri : String) (paths : List String)
  | invalidate (uri : String)
  | clear

def obey (r : FixRegistry) : Call → FixRegistry
  | .register uri id fixes => r.register uri id fixes
  | .setAliases uri paths => r.setAliases uri paths
  | .invalidate uri => r.invalidate uri
  | .clear => r.clear

/-- The registry after calls, new at first. -/
def remembering (calls : List Call) : FixRegistry :=
  calls.foldl obey {}

theorem remembering_concat (calls : List Call) (c : Call) :
    remembering (calls ++ [c]) = (remembering calls).obey c := by
  rw [remembering, List.foldl_append]
  rfl

namespace Call

/-- Calls after which the fixes of a diagnostic, registered under a document, are others or none. -/
inductive EndsFixes (uri : String) (id : Nat) : Call → Prop
  | register (uri' : String) {fixes : List Fix} (hfixes : fixes ≠ []) :
    EndsFixes uri id (.register uri' id fixes)
  | invalidate : EndsFixes uri id (.invalidate uri)
  | clear : EndsFixes uri id .clear

/-- Calls after which the aliases of a document are others or none. -/
inductive EndsAliases (uri : String) : Call → Prop
  | setAliases (paths : List String) : EndsAliases uri (.setAliases uri paths)
  | invalidate : EndsAliases uri (.invalidate uri)
  | clear : EndsAliases uri .clear

end Call

/-- Among the calls there is this one, and none after it ends what it says. -/
def Stands (ends : Call → Prop) (calls : List Call) (c : Call) : Prop :=
  ∃ earlier later, calls = earlier ++ c :: later ∧ ∀ c' ∈ later, ¬ends c'

/-- The diagnostic has these fixes by its last registration with any, and neither its document nor
everything was forgotten since. -/
def HasFixes (calls : List Call) (uri : String) (id : Nat) (fixes : List Fix) : Prop :=
  fixes ≠ [] ∧ Stands (Call.EndsFixes uri id) calls (.register uri id fixes)

/-- The document has these aliases by what was said of them last, and neither the document nor
everything was forgotten since. -/
def HasAliases (calls : List Call) (uri : String) (paths : List String) : Prop :=
  Stands (Call.EndsAliases uri) calls (.setAliases uri paths)

/-- The diagnostic is registered under the document at some time. -/
def IsFiled (calls : List Call) (uri : String) (id : Nat) : Prop :=
  ∃ fixes, fixes ≠ [] ∧ .register uri id fixes ∈ calls

/-- No diagnostic is registered under two documents. -/
def FiledOnce (calls : List Call) : Prop :=
  ∀ uri uri' id, IsFiled calls uri id → IsFiled calls uri' id → uri = uri'

theorem IsFiled.sublist {calls calls' : List Call} {uri : String} {id : Nat}
    (h : IsFiled calls uri id) (hsub : List.Sublist calls calls') : IsFiled calls' uri id := by
  obtain ⟨fixes, hfixes, hcall⟩ := h
  exact ⟨fixes, hfixes, hsub.subset hcall⟩

theorem FiledOnce.sublist {calls calls' : List Call} (h : FiledOnce calls')
    (hsub : List.Sublist calls calls') : FiledOnce calls :=
  fun uri uri' id hfiled hfiled' ↦ h uri uri' id (hfiled.sublist hsub) (hfiled'.sublist hsub)

section

variable {ends : Call → Prop} {calls earlier later : List Call} {c c' : Call} {uri uri' : String}
  {id : Nat} {fixes : List Fix} {paths : List String}

/-- What stands at the end stands by a later call, or by an earlier one that no later one ends. -/
theorem stands_append : Stands ends (earlier ++ later) c ↔
    Stands ends later c ∨ Stands ends earlier c ∧ ∀ c' ∈ later, ¬ends c' := by
  constructor
  · rintro ⟨before, behind, heq, hbehind⟩
    rcases List.append_eq_append_iff.mp heq with ⟨rest, rfl, hlater⟩ | ⟨rest, hearlier, hrest⟩
    · exact Or.inl ⟨rest, behind, hlater, hbehind⟩
    · cases rest with
      | nil => exact Or.inl ⟨[], behind, hrest.symm, hbehind⟩
      | cons first rest =>
        obtain ⟨rfl, rfl⟩ := List.cons.inj hrest
        refine Or.inr ⟨⟨before, rest, hearlier, ?_⟩, ?_⟩
        · exact fun c' hc' ↦ hbehind c' (List.mem_append_left _ hc')
        · exact fun c' hc' ↦ hbehind c' (List.mem_append_right _ hc')
  · rintro (⟨before, behind, rfl, hbehind⟩ | ⟨⟨before, behind, rfl, hbehind⟩, hlater⟩)
    · exact ⟨earlier ++ before, behind, (List.append_assoc ..).symm, hbehind⟩
    · refine ⟨before, behind ++ later, List.append_assoc .., ?_⟩
      intro c' hc'
      exact (List.mem_append.mp hc').elim (hbehind c') (hlater c')

theorem stands_singleton : Stands ends [c'] c ↔ c' = c := by
  constructor
  · rintro ⟨before, behind, heq, -⟩
    cases before with
    | nil => exact (List.cons.inj heq).1
    | cons first before =>
      have hlength := congrArg List.length heq
      simp at hlength
  · rintro rfl
    exact ⟨[], [], rfl, nofun⟩

theorem stands_concat : Stands ends (calls ++ [c']) c ↔ c' = c ∨ Stands ends calls c ∧ ¬ends c' := by
  rw [stands_append, stands_singleton]
  simp

theorem Stands.mem (h : Stands ends calls c) : c ∈ calls := by
  obtain ⟨before, behind, rfl, -⟩ := h
  exact List.mem_append_right _ List.mem_cons_self

/-- A call that ends nothing of the kind can be left out. -/
theorem stands_without (hne : c' ≠ c) (hends : ¬ends c') :
    Stands ends (earlier ++ c' :: later) c ↔ Stands ends (earlier ++ later) c := by
  rw [← List.singleton_append, stands_append, stands_append, stands_singleton, stands_append]
  simp [hne, hends]

/-! ## The tables after calls -/

theorem endsFixes_invalidate_iff : Call.EndsFixes uri id (.invalidate uri') ↔ uri' = uri := by
  constructor
  · rintro ⟨⟩
    rfl
  · rintro rfl
    exact .invalidate

theorem endsAliases_invalidate_iff : Call.EndsAliases uri (.invalidate uri') ↔ uri' = uri := by
  constructor
  · rintro ⟨⟩
    rfl
  · rintro rfl
    exact .invalidate

theorem isFiled_of_mem_idsOf (h : id ∈ (remembering calls).idsOf uri) : IsFiled calls uri id := by
  induction calls using List.reverseRecOn with
  | nil => cases h
  | append_singleton calls c ih =>
    rw [remembering_concat] at h
    have hearlier (hmem : id ∈ (remembering calls).idsOf uri) : IsFiled (calls ++ [c]) uri id := by
      obtain ⟨fixes, hfixes, hcall⟩ := ih hmem
      exact ⟨fixes, hfixes, List.mem_append_left [c] hcall⟩
    cases c with
    | register uri' id' fixes =>
      by_cases hfixes : fixes = []
      · subst hfixes
        exact hearlier h
      · rcases mem_of_mem_idsOf_register h with hold | ⟨rfl, rfl⟩
        · exact hearlier hold
        · exact ⟨fixes, hfixes, List.mem_append_right calls (List.mem_singleton_self _)⟩
    | setAliases uri' paths => exact hearlier h
    | invalidate uri' =>
      rw [obey, idsOf_invalidate] at h
      split at h
      · cases h
      · exact hearlier h
    | clear => cases h

theorem HasFixes.mem_idsOf (h : HasFixes calls uri id fixes) :
    id ∈ (remembering calls).idsOf uri := by
  obtain ⟨hfixes, hstands⟩ := h
  induction calls using List.reverseRecOn with
  | nil => cases hstands.mem
  | append_singleton calls c ih =>
    rw [remembering_concat]
    rcases stands_concat.mp hstands with rfl | ⟨hbefore, hends⟩
    · exact mem_idsOf_register hfixes
    · have hlisted := ih hbefore
      cases c with
      | register uri' id' fixes' =>
        by_cases huri : uri' = uri
        · subst huri
          exact idsOf_subset_register _ uri' id' fixes' hlisted
        · rwa [obey, idsOf_register_of_ne huri]
      | setAliases uri' paths => exact hlisted
      | invalidate uri' => rwa [obey, idsOf_invalidate, if_neg (endsFixes_invalidate_iff.not.mp hends)]
      | clear => exact absurd .clear hends

/-- **The registry knows the fixes** that a diagnostic has by the history. -/
theorem HasFixes.fixesFor_eq (honce : FiledOnce calls) (h : HasFixes calls uri id fixes) :
    (remembering calls).fixesFor id = fixes := by
  obtain ⟨hfixes, hstands⟩ := h
  induction calls using List.reverseRecOn with
  | nil => cases hstands.mem
  | append_singleton calls c ih =>
    have honce' : FiledOnce calls := honce.sublist (List.sublist_append_left calls [c])
    rw [remembering_concat]
    rcases stands_concat.mp hstands with rfl | ⟨hbefore, hends⟩
    · exact fixesFor_register_self hfixes
    · have hknown := ih honce' hbefore
      cases c with
      | register uri' id' fixes' =>
        by_cases hid : id' = id
        · subst hid
          have hnone : fixes' = [] := by_contra fun hsome ↦ hends (.register uri' hsome)
          subst hnone
          exact hknown
        · rwa [obey, fixesFor_register_of_ne _ _ _ _ _ hid]
      | setAliases uri' paths => exact hknown
      | invalidate uri' =>
        have hother : id ∉ (remembering calls).idsOf uri' := by
          intro hlisted
          have hfiled : IsFiled calls uri id := ⟨fixes, hfixes, hbefore.mem⟩
          refine hends (endsFixes_invalidate_iff.mpr ?_)
          exact honce' _ _ _ (isFiled_of_mem_idsOf hlisted) hfiled
        rwa [obey, fixesFor_invalidate, if_neg hother]
      | clear => exact absurd .clear hends

theorem exists_hasFixes (h : (remembering calls).fixesFor id ≠ []) :
    ∃ uri fixes, HasFixes calls uri id fixes := by
  induction calls using List.reverseRecOn with
  | nil => exact absurd rfl h
  | append_singleton calls c ih =>
    rw [remembering_concat] at h
    have hearlier {uri : String} {fixes : List Fix} (hbefore : HasFixes calls uri id fixes)
        (hends : ¬Call.EndsFixes uri id c) : ∃ uri fixes, HasFixes (calls ++ [c]) uri id fixes :=
      ⟨uri, fixes, hbefore.1, stands_concat.mpr (Or.inr ⟨hbefore.2, hends⟩)⟩
    cases c with
    | register uri' id' fixes' =>
      by_cases hnew : fixes' ≠ [] ∧ id' = id
      · obtain ⟨hfixes, rfl⟩ := hnew
        exact ⟨uri', fixes', hfixes, stands_concat.mpr (Or.inl rfl)⟩
      · have hsame : (remembering calls).fixesFor id ≠ [] := by
          by_cases hid : id' = id
          · have hnone : fixes' = [] := by_contra fun hsome ↦ hnew ⟨hsome, hid⟩
            subst hnone
            exact h
          · rwa [obey, fixesFor_register_of_ne _ _ _ _ _ hid] at h
        obtain ⟨uri, fixes, hbefore⟩ := ih hsame
        refine hearlier hbefore ?_
        rintro ⟨⟩
        exact hnew ⟨‹_›, rfl⟩
    | setAliases uri' paths =>
      obtain ⟨uri, fixes, hbefore⟩ := ih h
      exact hearlier hbefore nofun
    | invalidate uri' =>
      rw [obey, fixesFor_invalidate] at h
      split at h
      · exact absurd rfl h
      · next hunlisted =>
        obtain ⟨uri, fixes, hbefore⟩ := ih h
        refine hearlier hbefore (endsFixes_invalidate_iff.not.mpr ?_)
        rintro rfl
        exact hunlisted hbefore.mem_idsOf
    | clear => exact absurd rfl h

/-- **The registry knows the aliases** that a document has by the history. -/
theorem HasAliases.aliasesFor_eq (h : HasAliases calls uri paths) :
    (remembering calls).aliasesFor uri = paths.eraseDups := by
  induction calls using List.reverseRecOn with
  | nil => cases h.mem
  | append_singleton calls c ih =>
    rw [remembering_concat]
    rcases stands_concat.mp h with rfl | ⟨hbefore, hends⟩
    · exact (aliasesFor_setAliases _ uri uri paths).trans (if_pos rfl)
    · have hknown := ih hbefore
      cases c with
      | register uri' id fixes => rwa [obey, aliasesFor_register]
      | setAliases uri' paths' =>
        have hne : uri' ≠ uri := by
          rintro rfl
          exact hends (.setAliases paths')
        rwa [obey, aliasesFor_setAliases, if_neg hne]
      | invalidate uri' =>
        rwa [obey, aliasesFor_invalidate, if_neg (endsAliases_invalidate_iff.not.mp hends)]
      | clear => exact absurd .clear hends

theorem exists_hasAliases (h : (remembering calls).aliasesFor uri ≠ []) :
    ∃ paths, HasAliases calls uri paths := by
  induction calls using List.reverseRecOn with
  | nil => exact absurd rfl h
  | append_singleton calls c ih =>
    rw [remembering_concat] at h
    have hearlier (hbefore : (remembering calls).aliasesFor uri ≠ [])
        (hends : ¬Call.EndsAliases uri c) : ∃ paths, HasAliases (calls ++ [c]) uri paths := by
      obtain ⟨paths, hpaths⟩ := ih hbefore
      exact ⟨paths, stands_concat.mpr (Or.inr ⟨hpaths, hends⟩)⟩
    cases c with
    | register uri' id fixes =>
      rw [obey, aliasesFor_register] at h
      exact hearlier h nofun
    | setAliases uri' paths' =>
      by_cases huri : uri' = uri
      · subst huri
        exact ⟨paths', stands_concat.mpr (Or.inl rfl)⟩
      · rw [obey, aliasesFor_setAliases, if_neg huri] at h
        refine hearlier h ?_
        rintro ⟨⟩
        exact huri rfl
    | invalidate uri' =>
      rw [obey, aliasesFor_invalidate] at h
      split at h
      · exact absurd rfl h
      · next hne => exact hearlier h (endsAliases_invalidate_iff.not.mpr hne)
    | clear => exact absurd rfl h

/-! ## How many diagnostics have fixes -/

/-- A registry that has one entry for each diagnostic with fixes, and no others. -/
structure Tabled (r : FixRegistry) : Prop where
  once : (r.fixes.map Prod.fst).Nodup
  some : ∀ e ∈ r.fixes, e.2 ≠ []

theorem Tabled.obey {r : FixRegistry} (h : Tabled r) (c : Call) : Tabled (r.obey c) := by
  cases c with
  | register uri id fixes =>
    rw [FixRegistry.obey, FixRegistry.register]
    split
    · exact h
    · next hfixes =>
      refine ⟨Keyed.nodup_keys_set h.once id fixes, ?_⟩
      intro e he
      rcases Keyed.mem_of_mem_set he with rfl | hold
      · simpa using hfixes
      · exact h.some e hold
  | setAliases uri paths => exact ⟨h.once, h.some⟩
  | invalidate uri =>
    have hsub := Keyed.foldl_erase_sublist r.fixes (r.idsOf uri)
    exact ⟨h.once.sublist (hsub.map Prod.fst), fun e he ↦ h.some e (hsub.subset he)⟩
  | clear => exact ⟨List.nodup_nil, fun e he ↦ absurd he List.not_mem_nil⟩

theorem tabled_remembering (calls : List Call) : Tabled (remembering calls) := by
  induction calls using List.reverseRecOn with
  | nil => exact ⟨List.nodup_nil, nofun⟩
  | append_singleton calls c ih =>
    rw [remembering_concat]
    exact ih.obey c

/-- The entries of the table are the diagnostics that the registry has fixes for. -/
theorem Tabled.mem_keys_iff {r : FixRegistry} (h : Tabled r) :
    id ∈ r.fixes.map Prod.fst ↔ r.fixesFor id ≠ [] := by
  rw [fixesFor]
  constructor
  · intro hid
    obtain ⟨fixes, hget⟩ := Keyed.exists_get?_of_mem hid
    rw [hget]
    exact h.some _ (Keyed.mem_of_get? hget)
  · intro hfixes
    cases hget : r.fixes.get? id with
    | none => exact absurd (congrArg (Option.getD · []) hget) hfixes
    | some fixes => exact List.mem_map_of_mem (Keyed.mem_of_get? hget)

/-- **The size of a registry** is the number of diagnostics that it has fixes for. -/
theorem Tabled.size_eq {r : FixRegistry} (h : Tabled r) :
    ∃ ids : Finset Nat, (∀ id, id ∈ ids ↔ r.fixesFor id ≠ []) ∧ r.size = ids.card := by
  refine ⟨(r.fixes.map Prod.fst).toFinset, fun id ↦ ?_, ?_⟩
  · rw [List.mem_toFinset, h.mem_keys_iff]
  · rw [List.toFinset_card_of_nodup h.once, List.length_map, size]

/-! ## Forgetting a document -/

theorem HasFixes.isFiled (h : HasFixes calls uri id fixes) : IsFiled calls uri id :=
  ⟨fixes, h.1, h.2.mem⟩

theorem fixesFor_congr {calls' : List Call} (h : FiledOnce calls) (h' : FiledOnce calls')
    (hsame : ∀ uri fixes, HasFixes calls uri id fixes ↔ HasFixes calls' uri id fixes) :
    (remembering calls).fixesFor id = (remembering calls').fixesFor id := by
  by_cases hfixes : (remembering calls).fixesFor id = []
  · by_contra hne
    rw [hfixes, ← Ne, ne_comm] at hne
    obtain ⟨uri, fixes, hhas⟩ := exists_hasFixes hne
    have hknown := ((hsame uri fixes).mpr hhas).fixesFor_eq h
    exact hhas.1 (hknown.symm.trans hfixes)
  · obtain ⟨uri, fixes, hhas⟩ := exists_hasFixes hfixes
    rw [hhas.fixesFor_eq h, ((hsame uri fixes).mp hhas).fixesFor_eq h']

theorem aliasesFor_congr {calls' : List Call}
    (hsame : ∀ paths, HasAliases calls uri paths ↔ HasAliases calls' uri paths) :
    (remembering calls).aliasesFor uri = (remembering calls').aliasesFor uri := by
  by_cases haliases : (remembering calls).aliasesFor uri = []
  · by_contra hne
    rw [haliases, ← Ne, ne_comm] at hne
    obtain ⟨paths, hhas⟩ := exists_hasAliases hne
    rw [hhas.aliasesFor_eq, ← ((hsame paths).mpr hhas).aliasesFor_eq] at hne
    exact hne haliases
  · obtain ⟨paths, hhas⟩ := exists_hasAliases haliases
    rw [hhas.aliasesFor_eq, ((hsame paths).mp hhas).aliasesFor_eq]

/-- **Forgetting a document does nothing to the fixes of others**, whatever comes after. -/
theorem fixesFor_without_invalidate (honce : FiledOnce (earlier ++ .invalidate uri :: later))
    (hother : ¬IsFiled (earlier ++ .invalidate uri :: later) uri id) :
    (remembering (earlier ++ .invalidate uri :: later)).fixesFor id =
      (remembering (earlier ++ later)).fixesFor id := by
  have hsub : List.Sublist (earlier ++ later) (earlier ++ .invalidate uri :: later) :=
    (List.sublist_cons_self _ later).append_left earlier
  refine fixesFor_congr honce (honce.sublist hsub) fun uri' fixes ↦ ?_
  by_cases huri : uri = uri'
  · subst huri
    constructor
    · exact fun hhas ↦ absurd hhas.isFiled hother
    · exact fun hhas ↦ absurd (hhas.isFiled.sublist hsub) hother
  · have hends : ¬Call.EndsFixes uri' id (.invalidate uri) := endsFixes_invalidate_iff.not.mpr huri
    exact and_congr_right fun _ ↦ stands_without (by nofun) hends

theorem aliasesFor_without_invalidate (hne : uri ≠ uri') :
    (remembering (earlier ++ .invalidate uri :: later)).aliasesFor uri' =
      (remembering (earlier ++ later)).aliasesFor uri' := by
  refine aliasesFor_congr fun paths ↦ ?_
  exact stands_without (by nofun) (endsAliases_invalidate_iff.not.mpr hne)

end

/-! ## The registry and its history -/

/-- A registry that answers by a history. -/
structure Recalls (calls : List Call) (r : FixRegistry) : Prop where
  fixes : ∀ uri id fixes, HasFixes calls uri id fixes → r.fixesFor id = fixes
  noFixes : ∀ id, (∀ uri fixes, ¬HasFixes calls uri id fixes) → r.fixesFor id = []
  size : ∃ ids : Finset Nat, (∀ id, id ∈ ids ↔ r.fixesFor id ≠ []) ∧ r.size = ids.card
  aliases : ∀ uri paths, HasAliases calls uri paths →
    (r.aliasesFor uri).toFinset = paths.toFinset
  noAliases : ∀ uri, (∀ paths, ¬HasAliases calls uri paths) → r.aliasesFor uri = []

/-- Two registries that have the same for every document but one. -/
structure AgreeElsewhere (calls : List Call) (uri : String) (r r' : FixRegistry) : Prop where
  fixes : ∀ id, ¬IsFiled calls uri id → r.fixesFor id = r'.fixesFor id
  aliases : ∀ uri', uri ≠ uri' → r.aliasesFor uri' = r'.aliasesFor uri'

/-- **The registry refines its history**: it answers by the last registrations and the last aliases
that were not undone since, and what one document is told to forget changes nothing for others. -/
theorem recalls_remembering {calls : List Call} (h : FiledOnce calls) :
    Recalls calls (remembering calls) ∧
      ∀ earlier uri later, calls = earlier ++ .invalidate uri :: later →
        AgreeElsewhere calls uri (remembering calls) (remembering (earlier ++ later)) := by
  refine ⟨⟨?_, ?_, ?_, ?_, ?_⟩, ?_⟩
  · exact fun uri id fixes hhas ↦ hhas.fixesFor_eq h
  · intro id hnone
    by_contra hfixes
    obtain ⟨uri, fixes, hhas⟩ := exists_hasFixes hfixes
    exact hnone uri fixes hhas
  · exact (tabled_remembering calls).size_eq
  · intro uri paths hhas
    ext p
    rw [hhas.aliasesFor_eq, List.mem_toFinset, List.mem_eraseDups, List.mem_toFinset]
  · intro uri hnone
    by_contra haliases
    obtain ⟨paths, hhas⟩ := exists_hasAliases haliases
    exact hnone paths hhas
  · rintro earlier uri later rfl
    exact ⟨fun id hother ↦ fixesFor_without_invalidate h hother,
      fun uri' hne ↦ aliasesFor_without_invalidate hne⟩

/-- Two documents that are published twice each, the second one without being forgotten between. -/
def sampleCalls : List Call :=
  let fix (title : String) : Fix := { title := some title, edits := [], preferred := none }
  [.setAliases "a" ["a/1", "a/1"], .register "a" 0 [fix "x"], .setAliases "b" ["b/1"],
    .register "b" 1 [fix "y"], .register "b" 2 [], .invalidate "a", .setAliases "b" [],
    .register "a" 3 [fix "z"], .register "b" 1 [fix "y", fix "z"]]

theorem isFiled_sampleCalls {uri : String} {id : Nat} (h : IsFiled sampleCalls uri id) :
    (uri, id) ∈ [("a", 0), ("b", 1), ("a", 3)] := by
  obtain ⟨fixes, hfixes, hcall⟩ := h
  simp only [sampleCalls, List.mem_cons, Call.register.injEq, reduceCtorEq, false_or,
    List.not_mem_nil, or_false] at hcall
  rcases hcall with ⟨rfl, rfl, -⟩ | ⟨rfl, rfl, -⟩ | ⟨rfl, rfl, rfl⟩ | ⟨rfl, rfl, -⟩ | ⟨rfl, rfl, -⟩
  · decide
  · decide
  · exact absurd rfl hfixes
  · decide
  · decide

theorem filedOnce_sampleCalls : FiledOnce sampleCalls := by
  intro uri uri' id h h'
  have hfiled := isFiled_sampleCalls h
  have hfiled' := isFiled_sampleCalls h'
  simp only [List.mem_cons, Prod.mk.injEq, List.not_mem_nil, or_false] at hfiled hfiled'
  grind

theorem recalls_sampleCalls :
    FiledOnce sampleCalls ∧ Recalls sampleCalls (remembering sampleCalls) ∧
      (remembering sampleCalls).size = 2 ∧ (remembering sampleCalls).fixesFor 0 = [] ∧
      ((remembering sampleCalls).fixesFor 1).length = 2 ∧
      (remembering sampleCalls).aliasesFor "b" = [] := by
  refine ⟨filedOnce_sampleCalls, (recalls_remembering filedOnce_sampleCalls).1, ?_⟩
  decide +kernel

end FixRegistry

end DiagnosticFeed
