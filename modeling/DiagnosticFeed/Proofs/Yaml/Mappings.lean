import DiagnosticFeed.Proofs.Config.Data
import DiagnosticFeed.Proofs.Fallible
import DiagnosticFeed.Yaml.Meaning

/-!
# Mappings in YAML

Of two entries of one key the last counts, so in the data of a text every mapping has each text key
at most once. This is so for every node as soon as it is valued: scalars are no mappings, and the
entries of a mapping are put in one by one.
-/

namespace DiagnosticFeed.Yaml

open Config (Datum)

/-- What a node stands for is no mapping by itself, or a mapping with each text key at most once. -/
def Finding.Proper : Finding → Prop
  | .leaf d => ∀ o, d ≠ .map o
  | .map entries => ∀ key, entries.countP (·.1.isText key) ≤ 1
  | _ => True

namespace Valuation

/-- So it is with all nodes that are valued. -/
def Proper (v : Valuation) : Prop :=
  ∀ i f, v.finding? i = some f → f.Proper

section

variable {v v' : Valuation} {i : NodeId} {f : Finding} {d : Datum}

theorem Proper.put (h : v.Proper) (hf : f.Proper) : (v.put i f).Proper := by
  intro j f' hj
  rw [finding?, Valuation.put, Array.getElem?_setIfInBounds] at hj
  split at hj
  · split at hj
    · cases hj
      exact hf
    · cases hj
  · exact h j f' hj

theorem Proper.meet (h : v.Proper) (hf : f.Proper) : (v.meet i f).Proper :=
  h.put hf

theorem ne_map_of_map {α : Type} {x : Except Fault α} {g : α → Datum} (hg : ∀ a o, g a ≠ .map o)
    (h : x.map g = .ok d) (o : Config.Entries) : d ≠ .map o := by
  cases x with
  | error e => cases h
  | ok a =>
    cases h
    exact hg a o

theorem ne_map_of_valueOf {t : Tag} {s : String} (h : t.valueOf s = .ok d) (o : Config.Entries) :
    d ≠ .map o := by
  cases t with
  | null | text =>
    cases h
    simp
  | bool | int | float | binary =>
    rw [Tag.valueOf] at h
    exact ne_map_of_map (by simp) h o
  | date =>
    rw [Tag.valueOf, dateOf] at h
    split at h
    · cases h
    · split at h <;> cases h
      simp
  | seq | map | pairs | set | merge | value | unknown => cases h

theorem ne_map_of_scalarValue {g : Graph} (h : scalarValue g i = .ok d) (o : Config.Entries) :
    d ≠ .map o := by
  rw [scalarValue] at h
  split at h
  · cases h
  obtain ⟨text, -, h⟩ := bind_eq_ok_iff.1 h
  split at h
  · cases h
  · exact ne_map_of_valueOf h o

theorem Proper.visit (h : v.Proper) (hv : v.visit i = .ok v') : v'.Proper := by
  rw [Valuation.visit] at hv
  split at hv
  · cases hv
    exact h
  split at hv
  · cases hv
    exact h.meet trivial
  · cases hv
    exact h.meet trivial
  · cases hv
    exact h.meet trivial
  · cases hv
    exact h.meet (by simp [Finding.Proper])
  · cases hd : scalarValue v.graph i with
    | error e =>
      rw [hd] at hv
      cases hv
    | ok d =>
      rw [hd] at hv
      cases hv
      exact h.put (ne_map_of_scalarValue hd)

theorem Proper.key (h : v.Proper) (hv : v.key i = .ok (d, v')) : v'.Proper := by
  rw [Valuation.key] at hv
  obtain ⟨v₁, hv₁, hv⟩ := bind_eq_ok_iff.1 hv
  split at hv <;> cases hv
  exact h.visit hv₁

/-- How often a text key stands after an entry was put in: once more if it is the key of the entry
and was not there. -/
theorem countP_putEntry (d : Datum) (i : NodeId) (found : List (Datum × NodeId)) (key : String) :
    (putEntry d i found).countP (·.1.isText key) = found.countP (·.1.isText key) +
      if d.isText key = true ∧ found.countP (·.1.isText key) = 0 then 1 else 0 := by
  induction found with
  | nil => simp [putEntry, List.countP_cons]
  | cons e es ih =>
    rw [putEntry]
    split
    · next hsame =>
      have hboth : d.isText key = true → e.1.isText key = true := by
        intro hd
        rw [Datum.isText_iff] at hd
        subst hd
        exact hsame
      by_cases hkey : e.1.isText key = true
      · simp [hkey]
      · simp [hkey, mt hboth hkey]
    · next hdiffers =>
      have hone : d.isText key = true → e.1.isText key = false := by
        intro hd
        rw [Datum.isText_iff] at hd
        subst hd
        simpa [Datum.text?] using hdiffers
      rw [List.countP_cons, List.countP_cons, ih]
      by_cases hd : d.isText key = true
      · simp only [hone hd, Bool.false_eq_true, if_false, Nat.add_zero]
      · simp only [hd, false_and, if_false, Bool.false_eq_true, Nat.add_zero]

theorem Proper.visitEntries {found found' : List (Datum × NodeId)} {es : List (NodeId × NodeId)}
    (h : v.Proper) (hfound : ∀ key, found.countP (·.1.isText key) ≤ 1)
    (hv : v.visitEntries found es = .ok (found', v')) :
    v'.Proper ∧ ∀ key, found'.countP (·.1.isText key) ≤ 1 := by
  induction es generalizing v found with
  | nil =>
    cases hv
    exact ⟨h, hfound⟩
  | cons e es ih =>
    rw [Valuation.visitEntries] at hv
    obtain ⟨⟨d, v₁⟩, hv₁, hv⟩ := bind_eq_ok_iff.1 hv
    obtain ⟨v₂, hv₂, hv⟩ := bind_eq_ok_iff.1 hv
    refine ih ((h.key hv₁).visit hv₂) (fun key ↦ ?_) hv
    have := hfound key
    rw [countP_putEntry]
    split <;> omega

theorem Proper.visitMap {found : List (Datum × NodeId)} (h : v.Proper)
    (hv : v.visitMap i = .ok (found, v')) :
    v'.Proper ∧ ∀ key, found.countP (·.1.isText key) ≤ 1 := by
  rw [Valuation.visitMap] at hv
  split at hv
  · obtain ⟨g, -, hv⟩ := bind_eq_ok_iff.1 hv
    exact visitEntries (v := { v with graph := g }) h (by simp) hv
  · cases hv

theorem Proper.visitItems {is : List NodeId} (h : v.Proper) (hv : v.visitItems is = .ok v') :
    v'.Proper := by
  induction is generalizing v with
  | nil =>
    cases hv
    exact h
  | cons i is ih =>
    rw [Valuation.visitItems] at hv
    obtain ⟨v₁, hv₁, hv⟩ := bind_eq_ok_iff.1 hv
    exact ih (h.visit hv₁) hv

theorem Proper.visitPairs {found found' : List (NodeId × NodeId)} {is : List NodeId}
    (h : v.Proper) (hv : v.visitPairs found is = .ok (found', v')) : v'.Proper := by
  induction is generalizing v found with
  | nil =>
    cases hv
    exact h
  | cons i is ih =>
    rw [Valuation.visitPairs] at hv
    split at hv
    · obtain ⟨v₁, hv₁, hv⟩ := bind_eq_ok_iff.1 hv
      obtain ⟨v₂, hv₂, hv⟩ := bind_eq_ok_iff.1 hv
      exact ih ((h.visit hv₁).visit hv₂) hv
    · cases hv

theorem Proper.fill (h : v.Proper) (hv : v.fill i = .ok v') : v'.Proper := by
  rw [Valuation.fill] at hv
  split at hv
  · obtain ⟨v₁, hv₁, hv⟩ := bind_eq_ok_iff.1 hv
    cases hv
    exact (h.visitItems hv₁).put trivial
  · obtain ⟨⟨found, v₁⟩, hv₁, hv⟩ := bind_eq_ok_iff.1 hv
    cases hv
    exact (h.visitPairs hv₁).put trivial
  · obtain ⟨⟨found, v₁⟩, hv₁, hv⟩ := bind_eq_ok_iff.1 hv
    cases hv
    exact (h.visitMap hv₁).1.put trivial
  · obtain ⟨⟨found, v₁⟩, hv₁, hv⟩ := bind_eq_ok_iff.1 hv
    cases hv
    obtain ⟨hproper, hfound⟩ := h.visitMap hv₁
    exact hproper.put hfound
  · cases hv

theorem Proper.fillFrom {n k : Nat} (h : v.Proper) (hv : v.fillFrom n k = .ok v') :
    v'.Proper := by
  induction n generalizing v k with
  | zero =>
    cases hv
    exact h
  | succ n ih =>
    rw [Valuation.fillFrom] at hv
    split at hv
    · cases hv
      exact h
    · obtain ⟨v₁, hv₁, hv⟩ := bind_eq_ok_iff.1 hv
      exact ih (h.fill hv₁) hv

theorem proper_ofGraph {g : Graph} (hv : ofGraph g i = .ok v) : v.Proper := by
  rw [ofGraph] at hv
  obtain ⟨v₁, hv₁, hv⟩ := bind_eq_ok_iff.1 hv
  refine Proper.fillFrom (Proper.visit ?_ hv₁) hv
  intro j f hj
  rw [finding?, Array.getElem?_replicate] at hj
  split at hj <;> cases hj

theorem Proper.leafDatum (h : v.Proper) (i : NodeId) (o : Config.Entries) :
    v.leafDatum i ≠ .map o := by
  rw [Valuation.leafDatum]
  split
  · next d hd => exact h i _ hd o
  · simp

/-- The data that a node stands for has each text key at most once, at every depth. -/
theorem Proper.distinct_datum (h : v.Proper) (n : Nat) (i : NodeId) : (v.datum n i).Distinct := by
  induction n generalizing i with
  | zero => exact .leaf (h.leafDatum i)
  | succ n ih =>
    rw [datum]
    split
    · next d hd => exact .leaf (h i _ hd)
    · exact .leaf (by simp)
    · exact .leaf (by simp)
    · exact .leaf (by simp)
    · next entries hentries =>
      refine .map (fun key ↦ ?_) ?_
      · rw [Datum.Once, List.countP_map]
        exact h i _ hentries key
      · intro e he
        obtain ⟨e', -, rfl⟩ := List.mem_map.1 he
        exact ih e'.2
    · exact .leaf (by simp)

end

end Valuation

/-- **In the data of a text every mapping has each text key at most once.** -/
theorem distinct_of_read {s : String} {d : Datum} (h : read s = .ok d) : d.Distinct := by
  rw [read] at h
  obtain ⟨ts, -, h⟩ := bind_eq_ok_iff.1 h
  obtain ⟨found, -, h⟩ := bind_eq_ok_iff.1 h
  split at h
  · obtain ⟨v, hv, h⟩ := bind_eq_ok_iff.1 h
    cases h
    exact (Valuation.proper_ofGraph hv).distinct_datum _ _
  · cases h
    exact .leaf (by simp)

end DiagnosticFeed.Yaml
