import DiagnosticFeed.Json.Reader

/-!
# Comparing values

Values have no decidable equality, as they may hold numbers with a point. What is read of a text is
compared with what is expected as far as this can be done.
-/

namespace DiagnosticFeed.Json

namespace Value

mutual

/-- Whether two values can be seen to be the same; two numbers with a point never can. -/
def same : Value → Value → Bool
  | .null, .null => true
  | .bool b, .bool b' => b == b'
  | .int n, .int n' => n == n'
  | .str s, .str s' => s == s'
  | .arr items, .arr items' => sameItems items items'
  | .obj o, .obj o' => sameEntries o o'
  | _, _ => false

def sameItems : List Value → List Value → Bool
  | [], [] => true
  | v :: items, v' :: items' => v.same v' && sameItems items items'
  | _, _ => false

def sameEntries : List (String × Value) → List (String × Value) → Bool
  | [], [] => true
  | (k, v) :: o, (k', v') :: o' => k == k' && v.same v' && sameEntries o o'
  | _, _ => false

end

mutual

theorem eq_of_same {v v' : Value} (h : v.same v' = true) : v = v' := by
  cases v <;> cases v' <;> simp only [same, beq_iff_eq, Bool.false_eq_true] at h <;>
    first
    | rfl
    | rw [h]
    | rw [eq_of_sameItems h]
    | rw [eq_of_sameEntries h]

theorem eq_of_sameItems {items items' : List Value} (h : sameItems items items' = true) :
    items = items' := by
  cases items <;> cases items' <;>
    simp only [sameItems, Bool.and_eq_true, Bool.false_eq_true] at h
  · rfl
  · rw [eq_of_same h.1, eq_of_sameItems h.2]

theorem eq_of_sameEntries {o o' : List (String × Value)} (h : sameEntries o o' = true) :
    o = o' := by
  cases o with
  | nil =>
    cases o' with
    | nil => rfl
    | cons e' o' => simp [sameEntries] at h
  | cons e o =>
    obtain ⟨k, v⟩ := e
    cases o' with
    | nil => simp [sameEntries] at h
    | cons e' o' =>
      simp only [sameEntries, Bool.and_eq_true, beq_iff_eq] at h
      obtain ⟨⟨hk, hv⟩, ho⟩ := h
      rw [hk, eq_of_same hv, eq_of_sameEntries ho]

end

end Value

/-- A text is read as what is expected. -/
theorem parse_eq_of_same {s : String} {v : Value}
    (h : ((parse s).toOption.any fun v' ↦ v'.same v) = true) : parse s = .ok v := by
  cases hread : parse s with
  | ok v' =>
    rw [hread] at h
    rw [Value.eq_of_same h]
  | error e =>
    rw [hread] at h
    cases h

end DiagnosticFeed.Json
