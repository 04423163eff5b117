import DiagnosticFeed.Keyed
import Mathlib.Data.List.Nodup
import Mathlib.Data.List.Perm.Basic

/-!
# The keys of a keyed list

A list that is built by setting keys has each of them once. Then its entries are just what is read
by key, in whatever order they stand.
-/

namespace DiagnosticFeed

namespace Keyed

variable {κ ν : Type} [DecidableEq κ] {l : Keyed κ ν}

theorem mem_keys_set {k k' : κ} {v : ν} :
    k' ∈ (l.set k v).map Prod.fst ↔ k' = k ∨ k' ∈ l.map Prod.fst := by
  induction l with
  | nil => simp [set]
  | cons e rest ih =>
    obtain ⟨k₀, v₀⟩ := e
    rw [set]
    split
    · next h =>
      subst h
      simp
    · rw [List.map_cons, List.mem_cons, ih, List.map_cons, List.mem_cons, or_left_comm]

theorem nodup_keys_set (h : (l.map Prod.fst).Nodup) (k : κ) (v : ν) :
    ((l.set k v).map Prod.fst).Nodup := by
  induction l with
  | nil => simp [set]
  | cons e rest ih =>
    obtain ⟨k₀, v₀⟩ := e
    rw [List.map_cons, List.nodup_cons] at h
    rw [set]
    split
    · exact List.nodup_cons.mpr h
    · next hne =>
      refine List.nodup_cons.mpr ⟨?_, ih h.2⟩
      rw [mem_keys_set]
      rintro (heq | hmem)
      · exact hne heq
      · exact h.1 hmem

theorem mem_of_mem_set {k : κ} {v : ν} {e : κ × ν} (h : e ∈ l.set k v) : e = (k, v) ∨ e ∈ l := by
  induction l with
  | nil => exact Or.inl (List.mem_singleton.mp h)
  | cons e₀ rest ih =>
    obtain ⟨k₀, v₀⟩ := e₀
    rw [set] at h
    split at h
    · next heq =>
      subst heq
      exact (List.mem_cons.mp h).imp_right (List.mem_cons_of_mem _)
    · rcases List.mem_cons.mp h with rfl | hrest
      · exact Or.inr List.mem_cons_self
      · exact (ih hrest).imp_right (List.mem_cons_of_mem _)

theorem foldl_erase_sublist (l : Keyed κ ν) (ks : List κ) : List.Sublist (ks.foldl erase l) l := by
  induction ks generalizing l with
  | nil => exact List.Sublist.refl l
  | cons k ks ih => exact (ih (l.erase k)).trans List.filter_sublist

theorem mem_of_get? {k : κ} {v : ν} (h : l.get? k = some v) : (k, v) ∈ l := by
  induction l with
  | nil => cases h
  | cons e rest ih =>
    obtain ⟨k₀, v₀⟩ := e
    rw [get?] at h
    split at h
    · next heq =>
      cases h
      exact heq ▸ List.mem_cons_self
    · exact List.mem_cons_of_mem _ (ih h)

theorem exists_get?_of_mem {k : κ} (h : k ∈ l.map Prod.fst) : ∃ v, l.get? k = some v := by
  induction l with
  | nil => cases h
  | cons e rest ih =>
    obtain ⟨k₀, v₀⟩ := e
    rw [get?]
    split
    · exact ⟨v₀, rfl⟩
    · next hne =>
      rcases List.mem_cons.mp h with heq | hrest
      · exact absurd heq.symm hne
      · exact ih hrest

theorem get?_of_mem (h : (l.map Prod.fst).Nodup) {k : κ} {v : ν} (hmem : (k, v) ∈ l) :
    l.get? k = some v := by
  induction l with
  | nil => cases hmem
  | cons e rest ih =>
    rw [List.map_cons, List.nodup_cons] at h
    rw [get?]
    rcases List.mem_cons.mp hmem with rfl | hrest
    · exact if_pos rfl
    · rw [if_neg (ne_of_mem_of_not_mem (List.mem_map_of_mem hrest) h.1).symm]
      exact ih h.2 hrest

theorem get?_perm {l' : Keyed κ ν} (hperm : l.Perm l') (h : (l.map Prod.fst).Nodup) (k : κ) :
    l.get? k = l'.get? k := by
  have h' : (l'.map Prod.fst).Nodup := (hperm.map Prod.fst).nodup_iff.mp h
  apply Option.ext
  intro v
  exact ⟨fun hv ↦ get?_of_mem h' (hperm.mem_iff.mp (mem_of_get? hv)),
    fun hv ↦ get?_of_mem h (hperm.mem_iff.mpr (mem_of_get? hv))⟩

end Keyed

end DiagnosticFeed
