import DiagnosticFeed.Wire.Intake

/-!
# Fixes and the documents they belong to

The registry finds fixes by the identity of their diagnostic, and forgets them by document. For the
second to reach all of the first, each diagnostic that has fixes must be listed under its document.
The lemmas of this module follow the two tables through the operations of the registry, up to
the intake of analyzer output: what it adds is listed under the document that it was read for, and
no other document is touched.
-/

namespace DiagnosticFeed

theorem Keyed.get?_foldl_erase {κ ν : Type} [DecidableEq κ] (l : Keyed κ ν) (ks : List κ) (k : κ) :
    Keyed.get? (ks.foldl Keyed.erase l) k = if k ∈ ks then none else l.get? k := by
  induction ks generalizing l with
  | nil => simp
  | cons k₀ ks ih =>
    rw [List.foldl_cons, ih, Keyed.get?_erase]
    by_cases hk : k ∈ ks
    · simp [hk]
    · by_cases h₀ : k₀ = k
      · simp [h₀]
      · simp [hk, h₀, Ne.symm h₀]

namespace FixRegistry

/-- The diagnostics that are listed under a document. -/
def idsOf (r : FixRegistry) (uri : String) : List Nat :=
  (r.byDocument.get? uri).getD []

section

variable (r : FixRegistry) (uri uri' : String) (id id' : Nat) (fixes : List Fix)

theorem fixesFor_invalidate :
    (r.invalidate uri).fixesFor id = if id ∈ r.idsOf uri then [] else r.fixesFor id := by
  rw [fixesFor, fixesFor, invalidate, Keyed.get?_foldl_erase, idsOf]
  split <;> rfl

theorem idsOf_invalidate :
    (r.invalidate uri).idsOf uri' = if uri = uri' then [] else r.idsOf uri' := by
  rw [idsOf, idsOf, invalidate, Keyed.get?_erase]
  split <;> rfl

theorem fixesFor_register_of_ne (h : id ≠ id') :
    (r.register uri id fixes).fixesFor id' = r.fixesFor id' := by
  rw [register]
  split
  · rfl
  · rw [fixesFor, fixesFor, Keyed.get?_set, if_neg h]

theorem idsOf_register :
    (r.register uri id fixes).idsOf uri' =
      if fixes ≠ [] ∧ uri = uri' ∧ id ∉ r.idsOf uri then r.idsOf uri ++ [id] else r.idsOf uri' := by
  rw [register]
  cases fixes with
  | nil => simp
  | cons f fixes =>
    rw [idsOf, if_neg (by simp), Keyed.get?_set]
    change (if uri = uri' then some (if (r.idsOf uri).contains id then r.idsOf uri
      else r.idsOf uri ++ [id]) else r.byDocument.get? uri').getD [] = _
    by_cases huri : uri = uri'
    · subst huri
      by_cases hid : id ∈ r.idsOf uri <;> simp [hid]
    · simp [huri, idsOf]

end

theorem idsOf_register_of_ne {uri uri' : String} (h : uri ≠ uri') (r : FixRegistry) (id : Nat)
    (fixes : List Fix) : (r.register uri id fixes).idsOf uri' = r.idsOf uri' := by
  rw [idsOf_register, if_neg (fun hall ↦ h hall.2.1)]

theorem idsOf_subset_register (r : FixRegistry) (uri : String) (id : Nat) (fixes : List Fix) :
    r.idsOf uri ⊆ (r.register uri id fixes).idsOf uri := by
  intro id' hid'
  rw [idsOf_register]
  split
  · exact List.mem_append_left [id] hid'
  · exact hid'

theorem mem_idsOf_register {r : FixRegistry} {uri : String} {id : Nat} {fixes : List Fix}
    (h : fixes ≠ []) : id ∈ (r.register uri id fixes).idsOf uri := by
  rw [idsOf_register]
  by_cases hid : id ∈ r.idsOf uri <;> simp [h, hid]

theorem mem_of_mem_idsOf_register {r : FixRegistry} {uri uri' : String} {id id' : Nat}
    {fixes : List Fix} (h : id' ∈ (r.register uri id fixes).idsOf uri') :
    id' ∈ r.idsOf uri' ∨ id' = id ∧ uri = uri' := by
  rw [idsOf_register] at h
  split at h
  · next hnew =>
    obtain ⟨-, rfl, -⟩ := hnew
    exact (List.mem_append.mp h).imp_right fun hid ↦ ⟨List.mem_singleton.mp hid, rfl⟩
  · exact Or.inl h

theorem fixesFor_register_self {r : FixRegistry} {uri : String} {id : Nat} {fixes : List Fix}
    (h : fixes ≠ []) : (r.register uri id fixes).fixesFor id = fixes := by
  rw [register, if_neg (by simpa using h), fixesFor, Keyed.get?_set, if_pos rfl]
  rfl

/-! ## What is kept for one document

All that is kept for a document: which diagnostics are listed under it, their fixes, and the paths
that stand for it. -/

/-- Two registries that keep the same for a document. -/
structure SameAt (uri : String) (r r' : FixRegistry) : Prop where
  ids : r'.idsOf uri = r.idsOf uri
  fixes : ∀ id ∈ r.idsOf uri, r'.fixesFor id = r.fixesFor id
  aliases : r'.aliasesFor uri = r.aliasesFor uri

/-- A registry that keeps nothing for a document. -/
structure NothingAt (uri : String) (r : FixRegistry) : Prop where
  ids : r.idsOf uri = []
  aliases : r.aliasesFor uri = []

/-- A registry in which diagnostics are numbered below `next`, and none is listed under two
documents. -/
structure Grouped (next : Nat) (r : FixRegistry) : Prop where
  below : ∀ uri, ∀ id ∈ r.idsOf uri, id < next
  apart : ∀ uri uri' id, id ∈ r.idsOf uri → id ∈ r.idsOf uri' → uri = uri'

section

variable {r r' r'' : FixRegistry} {uri uri' : String} {next : Nat}

theorem SameAt.refl (uri : String) (r : FixRegistry) : SameAt uri r r :=
  ⟨rfl, fun _ _ ↦ rfl, rfl⟩

theorem SameAt.trans (h : SameAt uri r r') (h' : SameAt uri r' r'') : SameAt uri r r'' where
  ids := h'.ids.trans h.ids
  fixes := fun id hid ↦ (h'.fixes id (h.ids ▸ hid)).trans (h.fixes id hid)
  aliases := h'.aliases.trans h.aliases

theorem NothingAt.of_sameAt (h : NothingAt uri r) (hsame : SameAt uri r r') : NothingAt uri r' :=
  ⟨hsame.ids.trans h.ids, hsame.aliases.trans h.aliases⟩

theorem NothingAt.sameAt (h : NothingAt uri r) (h' : NothingAt uri r') : SameAt uri r r' where
  ids := h'.ids.trans h.ids.symm
  fixes := by
    rw [h.ids]
    nofun
  aliases := h'.aliases.trans h.aliases.symm

theorem nothingAt_empty (uri : String) : NothingAt uri {} :=
  ⟨rfl, rfl⟩

theorem aliasesFor_invalidate (r : FixRegistry) (uri uri' : String) :
    (r.invalidate uri).aliasesFor uri' = if uri = uri' then [] else r.aliasesFor uri' := by
  rw [aliasesFor, aliasesFor, invalidate, Keyed.get?_erase]
  split <;> rfl

theorem aliasesFor_register (r : FixRegistry) (uri uri' : String) (id : Nat) (fixes : List Fix) :
    (r.register uri id fixes).aliasesFor uri' = r.aliasesFor uri' := by
  rw [register]
  split <;> rfl

theorem aliasesFor_setAliases (r : FixRegistry) (uri uri' : String) (paths : List String) :
    (r.setAliases uri paths).aliasesFor uri' =
      if uri = uri' then paths.eraseDups else r.aliasesFor uri' := by
  cases paths with
  | nil =>
    change ((r.aliases.erase uri).get? uri').getD [] = _
    rw [Keyed.get?_erase]
    split <;> rfl
  | cons p paths =>
    change ((r.aliases.set uri (p :: paths).eraseDups).get? uri').getD [] = _
    rw [Keyed.get?_set]
    split <;> rfl

theorem nothingAt_invalidate (r : FixRegistry) (uri : String) :
    NothingAt uri (r.invalidate uri) where
  ids := by rw [idsOf_invalidate, if_pos rfl]
  aliases := by rw [aliasesFor_invalidate, if_pos rfl]

theorem NothingAt.invalidate (h : NothingAt uri r) (uri' : String) :
    NothingAt uri (r.invalidate uri') where
  ids := by
    rw [idsOf_invalidate, h.ids]
    exact ite_self _
  aliases := by
    rw [aliasesFor_invalidate, h.aliases]
    exact ite_self _

/-- **Forgetting a document leaves all others** what is kept for them. -/
theorem Grouped.sameAt_invalidate (h : Grouped next r) (hne : uri ≠ uri') :
    SameAt uri' r (r.invalidate uri) where
  ids := by rw [idsOf_invalidate, if_neg hne]
  fixes := by
    intro id hid
    rw [fixesFor_invalidate, if_neg fun hother ↦ hne (h.apart uri uri' id hother hid)]
  aliases := by rw [aliasesFor_invalidate, if_neg hne]

theorem sameAt_register_of_ne {id : Nat} (hne : uri ≠ uri') (hid : id ∉ r.idsOf uri')
    (fixes : List Fix) : SameAt uri' r (r.register uri id fixes) where
  ids := idsOf_register_of_ne hne r id fixes
  fixes := by
    intro id' hid'
    refine r.fixesFor_register_of_ne uri id id' fixes ?_
    rintro rfl
    exact hid hid'
  aliases := aliasesFor_register r uri uri' id fixes

/-- What is kept for a document after a diagnostic was registered depends on what was kept for it
before. -/
theorem SameAt.register (h : SameAt uri r r') (id : Nat) (fixes : List Fix) :
    SameAt uri (r.register uri id fixes) (r'.register uri id fixes) where
  ids := by rw [idsOf_register, idsOf_register, h.ids]
  fixes := by
    intro id' hid'
    by_cases hsame : id = id'
    · subst hsame
      by_cases hfixes : fixes = []
      · subst hfixes
        exact h.fixes id hid'
      · rw [fixesFor_register_self hfixes, fixesFor_register_self hfixes]
    · rcases mem_of_mem_idsOf_register hid' with hold | ⟨rfl, -⟩
      · rw [fixesFor_register_of_ne _ _ _ _ _ hsame, fixesFor_register_of_ne _ _ _ _ _ hsame]
        exact h.fixes id' hold
      · exact absurd rfl hsame
  aliases := by rw [aliasesFor_register, aliasesFor_register, h.aliases]

theorem Grouped.of_idsOf (h : Grouped next r) (hids : ∀ uri, r'.idsOf uri ⊆ r.idsOf uri) :
    Grouped next r' where
  below := fun uri id hid ↦ h.below uri id (hids uri hid)
  apart := fun uri uri' id hid hid' ↦ h.apart uri uri' id (hids uri hid) (hids uri' hid')

theorem Grouped.invalidate (h : Grouped next r) (uri : String) :
    Grouped next (r.invalidate uri) := by
  refine h.of_idsOf fun uri' ↦ ?_
  rw [idsOf_invalidate]
  split
  · exact List.nil_subset _
  · exact List.Subset.refl _

theorem Grouped.register (h : Grouped next r) (uri : String) (fixes : List Fix) :
    Grouped (next + 1) (r.register uri next fixes) where
  below := by
    intro uri' id hid
    rcases mem_of_mem_idsOf_register hid with hold | ⟨rfl, -⟩
    · exact Nat.lt_succ_of_lt (h.below uri' id hold)
    · exact Nat.lt_succ_self id
  apart := by
    intro uri₁ uri₂ id h₁ h₂
    rcases mem_of_mem_idsOf_register h₁ with hold₁ | ⟨rfl, rfl⟩
    · rcases mem_of_mem_idsOf_register h₂ with hold₂ | ⟨rfl, -⟩
      · exact h.apart uri₁ uri₂ id hold₁ hold₂
      · exact absurd (h.below uri₁ id hold₁) (Nat.lt_irrefl id)
    · rcases mem_of_mem_idsOf_register h₂ with hold₂ | ⟨-, rfl⟩
      · exact absurd (h.below uri₂ id hold₂) (Nat.lt_irrefl id)
      · rfl

end

end FixRegistry

namespace Wire

/-! ## Intake -/

theorem idsOf_enroll_of_ne {uri uri' : String} (h : uri ≠ uri') (next : Nat) (r : FixRegistry)
    (fs : List Finding) : (enroll uri next r fs).2.idsOf uri' = r.idsOf uri' := by
  induction fs generalizing next r with
  | nil => rfl
  | cons f fs ih => rw [enroll, ih, FixRegistry.idsOf_register_of_ne h]

theorem idsOf_subset_enroll (uri : String) (next : Nat) (r : FixRegistry) (fs : List Finding) :
    r.idsOf uri ⊆ (enroll uri next r fs).2.idsOf uri := by
  induction fs generalizing next r with
  | nil => exact List.Subset.refl _
  | cons f fs ih =>
    exact List.Subset.trans (r.idsOf_subset_register uri next f.fixes) (ih _ _)

/-- What has fixes after findings were enrolled had them before, or is enrolled and listed. -/
theorem fixesFor_enroll {uri : String} {next id : Nat} {r : FixRegistry} {fs : List Finding}
    (h : (enroll uri next r fs).2.fixesFor id ≠ []) :
    r.fixesFor id ≠ [] ∨ id ∈ (enroll uri next r fs).1.map (·.id) ∧
      id ∈ (enroll uri next r fs).2.idsOf uri := by
  induction fs generalizing next r with
  | nil => exact Or.inl h
  | cons f fs ih =>
    rw [enroll] at h ⊢
    rcases ih h with hbefore | ⟨henrolled, hlisted⟩
    · by_cases hid : next = id
      · subst hid
        cases hfixes : f.fixes with
        | nil =>
          rw [hfixes] at hbefore
          exact Or.inl hbefore
        | cons fix fixes =>
          have hlisted : next ∈ (r.register uri next (fix :: fixes)).idsOf uri :=
            FixRegistry.mem_idsOf_register (List.cons_ne_nil fix fixes)
          exact Or.inr ⟨List.mem_cons_self, idsOf_subset_enroll uri _ _ fs hlisted⟩
      · rw [r.fixesFor_register_of_ne uri next id f.fixes hid] at hbefore
        exact Or.inl hbefore
    · exact Or.inr ⟨List.mem_cons_of_mem next henrolled, hlisted⟩

section

variable {cwd : FilePath} {r : FixRegistry} {next : Nat} {d : Document} {t : Target}
  {stdout : String}

theorem withAliases_fixes (r : FixRegistry) (uri : String) (t : Target) :
    (withAliases r uri t).fixes = r.fixes ∧ (withAliases r uri t).byDocument = r.byDocument := by
  rw [withAliases]
  split
  · split <;> exact ⟨rfl, rfl⟩
  · exact ⟨rfl, rfl⟩

theorem fixesFor_withAliases (r : FixRegistry) (uri : String) (t : Target) (id : Nat) :
    (withAliases r uri t).fixesFor id = r.fixesFor id := by
  rw [FixRegistry.fixesFor, (withAliases_fixes r uri t).1, FixRegistry.fixesFor]

theorem idsOf_withAliases (r : FixRegistry) (uri uri' : String) (t : Target) :
    (withAliases r uri t).idsOf uri' = r.idsOf uri' := by
  rw [FixRegistry.idsOf, (withAliases_fixes r uri t).2, FixRegistry.idsOf]

/-- Taking in output for one document leaves what is listed under all others. -/
theorem idsOf_intake_of_ne {uri : String} (h : d.uri ≠ uri) :
    (intake cwd r next d t stdout).registry.idsOf uri = r.idsOf uri := by
  rw [intake]
  split
  · rfl
  · rfl
  · exact (idsOf_enroll_of_ne h _ _ _).trans (idsOf_withAliases r d.uri uri t)

/-- **What has fixes after an intake** had them before, or is among the diagnostics taken in and
listed under their document. -/
theorem fixesFor_intake {id : Nat} (h : (intake cwd r next d t stdout).registry.fixesFor id ≠ []) :
    r.fixesFor id ≠ [] ∨ id ∈ (intake cwd r next d t stdout).diagnostics.map (·.id) ∧
      id ∈ (intake cwd r next d t stdout).registry.idsOf d.uri := by
  rw [intake] at h ⊢
  split at h
  · exact Or.inl h
  · exact Or.inl h
  · rcases fixesFor_enroll h with hbefore | henrolled
    · rw [fixesFor_withAliases] at hbefore
      exact Or.inl hbefore
    · exact Or.inr henrolled

/-! ### What an intake keeps -/

theorem enroll_diagnostics (uri : String) (next : Nat) (r r' : FixRegistry) (fs : List Finding) :
    (enroll uri next r fs).1 = (enroll uri next r' fs).1 := by
  induction fs generalizing next r r' with
  | nil => rfl
  | cons f fs ih => exact congrArg (f.toDiagnostic next :: ·) (ih (next + 1) _ _)

theorem sameAt_enroll_of_ne {uri uri' : String} (hne : uri ≠ uri')
    (hbelow : ∀ id ∈ r.idsOf uri', id < next) (fs : List Finding) :
    FixRegistry.SameAt uri' r (enroll uri next r fs).2 := by
  induction fs generalizing next r with
  | nil => exact .refl uri' r
  | cons f fs ih =>
    have hfresh : next ∉ r.idsOf uri' := fun hid ↦ Nat.lt_irrefl next (hbelow next hid)
    have hfirst := FixRegistry.sameAt_register_of_ne hne hfresh f.fixes
    refine hfirst.trans (ih ?_)
    intro id hid
    rw [hfirst.ids] at hid
    exact Nat.lt_succ_of_lt (hbelow id hid)

theorem sameAt_enroll {uri : String} {r r' : FixRegistry} (h : FixRegistry.SameAt uri r r')
    (next : Nat) (fs : List Finding) :
    FixRegistry.SameAt uri (enroll uri next r fs).2 (enroll uri next r' fs).2 := by
  induction fs generalizing next r r' with
  | nil => exact h
  | cons f fs ih => exact ih (h.register next f.fixes) (next + 1)

theorem grouped_enroll (h : FixRegistry.Grouped next r) (uri : String) (fs : List Finding) :
    FixRegistry.Grouped (next + (enroll uri next r fs).1.length) (enroll uri next r fs).2 := by
  induction fs generalizing next r with
  | nil => exact h
  | cons f fs ih =>
    have hrest := ih (h.register uri f.fixes)
    rwa [Nat.add_right_comm] at hrest

theorem sameAt_withAliases_of_ne {uri uri' : String} (hne : uri ≠ uri') (r : FixRegistry)
    (t : Target) : FixRegistry.SameAt uri' r (withAliases r uri t) where
  ids := idsOf_withAliases r uri uri' t
  fixes := fun id _ ↦ fixesFor_withAliases r uri t id
  aliases := by
    rw [withAliases]
    split
    · split
      · rw [FixRegistry.aliasesFor_setAliases, if_neg hne]
      · rfl
    · rfl

theorem sameAt_withAliases {uri : String} {r r' : FixRegistry} (h : FixRegistry.SameAt uri r r')
    (t : Target) : FixRegistry.SameAt uri (withAliases r uri t) (withAliases r' uri t) where
  ids := by rw [idsOf_withAliases, idsOf_withAliases, h.ids]
  fixes := by
    intro id hid
    rw [idsOf_withAliases] at hid
    rw [fixesFor_withAliases, fixesFor_withAliases, h.fixes id hid]
  aliases := by
    rw [withAliases, withAliases]
    split
    · split
      · rw [FixRegistry.aliasesFor_setAliases, FixRegistry.aliasesFor_setAliases, if_pos rfl,
          if_pos rfl]
      · exact h.aliases
    · exact h.aliases

/-- **An intake for one document leaves all others** what is kept for them. -/
theorem sameAt_intake_of_ne {uri : String} (hne : d.uri ≠ uri)
    (hbelow : ∀ id ∈ r.idsOf uri, id < next) :
    FixRegistry.SameAt uri r (intake cwd r next d t stdout).registry := by
  rw [intake]
  split
  · exact .refl uri r
  · exact .refl uri r
  · refine (sameAt_withAliases_of_ne hne r t).trans (sameAt_enroll_of_ne hne ?_ _)
    intro id hid
    rw [idsOf_withAliases] at hid
    exact hbelow id hid

/-- What an intake keeps for its document depends on what was kept for it before, not on what is
kept for others. -/
theorem sameAt_intake {r r' : FixRegistry} (h : FixRegistry.SameAt d.uri r r') :
    FixRegistry.SameAt d.uri (intake cwd r next d t stdout).registry
      (intake cwd r' next d t stdout).registry := by
  rw [intake, intake]
  split
  · exact h
  · exact h
  · exact sameAt_enroll (sameAt_withAliases h t) next _

theorem intake_diagnostics (cwd : FilePath) (r r' : FixRegistry) (next : Nat) (d : Document)
    (t : Target) (stdout : String) :
    (intake cwd r next d t stdout).diagnostics = (intake cwd r' next d t stdout).diagnostics := by
  rw [intake, intake]
  split
  · rfl
  · rfl
  · exact enroll_diagnostics d.uri next _ _ _

theorem grouped_intake (h : FixRegistry.Grouped next r) :
    FixRegistry.Grouped (next + (intake cwd r next d t stdout).diagnostics.length)
      (intake cwd r next d t stdout).registry := by
  rw [intake]
  split
  · exact h
  · exact h
  · refine grouped_enroll (h.of_idsOf fun uri ↦ ?_) d.uri _
    rw [idsOf_withAliases]
    exact List.Subset.refl _

end

end Wire

end DiagnosticFeed
