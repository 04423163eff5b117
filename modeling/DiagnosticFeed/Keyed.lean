/-!
# Keyed lists

A list of pairs that is read by key. `set` keeps the place of a key that is there and appends one
that is not, so a list built by `set` has each key once, in the order of first use.
-/

namespace DiagnosticFeed

/-- Pairs of a key and a value. -/
abbrev Keyed (κ ν : Type) := List (κ × ν)

namespace Keyed

variable {κ ν : Type} [DecidableEq κ]

def get? (l : Keyed κ ν) (k : κ) : Option ν :=
  match l with
  | [] => none
  | (k', v) :: rest => if k' = k then some v else get? rest k

/-- Sets the value of a key: in place when the key is there, else at the end. -/
def set (l : Keyed κ ν) (k : κ) (v : ν) : Keyed κ ν :=
  match l with
  | [] => [(k, v)]
  | (k', v') :: rest => if k' = k then (k', v) :: rest else (k', v') :: set rest k v

/-- Takes a key away. -/
def erase (l : Keyed κ ν) (k : κ) : Keyed κ ν :=
  l.filter fun e ↦ e.1 ≠ k

def has (l : Keyed κ ν) (k : κ) : Bool :=
  (l.get? k).isSome

theorem get?_set (l : Keyed κ ν) (k k' : κ) (v : ν) :
    (l.set k v).get? k' = if k = k' then some v else l.get? k' := by
  induction l with
  | nil => simp [set, get?]
  | cons e rest ih =>
    obtain ⟨k₀, v₀⟩ := e
    by_cases h₀ : k₀ = k
    · subst h₀
      by_cases h : k₀ = k' <;> simp [set, get?, h]
    · by_cases h : k₀ = k'
      · subst h
        simp [set, get?, h₀, Ne.symm h₀]
      · simp [set, get?, h₀, h, ih]

theorem get?_filter (l : Keyed κ ν) (p : κ → Bool) (k : κ) :
    get? (l.filter fun e ↦ p e.1) k = if p k then l.get? k else none := by
  induction l with
  | nil => simp [get?]
  | cons e rest ih =>
    obtain ⟨k₀, v₀⟩ := e
    by_cases h : k₀ = k
    · subst h
      cases hp : p k₀ <;> simp [get?, hp, ih]
    · cases hp : p k₀ <;> simp [get?, h, hp, ih]

theorem get?_erase (l : Keyed κ ν) (k k' : κ) :
    (l.erase k).get? k' = if k = k' then none else l.get? k' := by
  rw [erase, get?_filter l (fun i ↦ decide (i ≠ k))]
  by_cases h : k = k' <;> simp [h, eq_comm]

theorem get?_append (l l' : Keyed κ ν) (k : κ) :
    get? (l ++ l') k = (l.get? k).or (l'.get? k) := by
  induction l with
  | nil => rfl
  | cons e l ih =>
    rw [List.cons_append, get?, get?, ih]
    split <;> rfl

theorem eq_nil_iff {l : Keyed κ ν} : l = [] ↔ ∀ k, l.get? k = none := by
  constructor
  · rintro rfl k
    rfl
  · intro h
    cases l with
    | nil => rfl
    | cons e rest =>
      have hfirst := h e.1
      simp [get?] at hfirst

end Keyed

end DiagnosticFeed
