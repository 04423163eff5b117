import DiagnosticFeed.Metrics.Metric
import DiagnosticFeed.Proofs.Decimal.Sums
import DiagnosticFeed.Proofs.Keyed
import Mathlib.Data.List.Forall2

/-!
# What a ledger holds

The amounts of a counter stand under label sets, which are sorted, and are regrouped by the value of
one label. Both are the same deed: something is added to what stands under a key. So a sum over some
of the keys grows by what is added if the key is among them, and neither loses nor repeats anything.

That is exact for whole numbers. A counter adds binary64 numbers, and does so in step with a ledger
of whole numbers: each of its amounts is the whole number in its place, as long as this is at most
`2 ^ 53`, and none is ever negative.
-/

namespace DiagnosticFeed

/-! ## Label sets -/

namespace Labels

/-- Labels as they are given: each name has one value. -/
structure Given where
  entries : Keyed String String
  nodup : (entries.map Prod.fst).Nodup

/-- The labels of what may have none. -/
def entriesOf (labels : Option Given) : Keyed String String :=
  labels.elim [] Given.entries

/-- The label set of what may have none. -/
def ofGiven (labels : Option Given) : Labels :=
  .of (entriesOf labels)

variable (labels : Option Given)

theorem nodup_entriesOf : ((entriesOf labels).map Prod.fst).Nodup := by
  cases labels with
  | none => exact List.nodup_nil
  | some g => exact g.nodup

theorem ofGiven_perm : (ofGiven labels).Perm (entriesOf labels) :=
  List.mergeSort_perm _ _

theorem get?_ofGiven (name : String) :
    Keyed.get? (ofGiven labels) name = Keyed.get? (entriesOf labels) name :=
  (Keyed.get?_perm (ofGiven_perm labels).symm (nodup_entriesOf labels) name).symm

theorem pairwise_ofGiven : (ofGiven labels).Pairwise fun a b ↦ a.1 ≤ b.1 := by
  have hsorted := @List.pairwise_mergeSort _ (fun a b : String × String ↦ decide (a.1 ≤ b.1))
    (fun a b c hab hbc ↦ decide_eq_true
      (String.le_trans (of_decide_eq_true hab) (of_decide_eq_true hbc)))
    (fun a b ↦ by simpa using String.le_total a.1 b.1) (entriesOf labels)
  exact hsorted.imp of_decide_eq_true

/-- Labels have one label set in any order, and different ones have different label sets. -/
theorem ofGiven_eq_iff (labels labels' : Option Given) :
    ofGiven labels = ofGiven labels' ↔ (entriesOf labels).Perm (entriesOf labels') := by
  constructor
  · intro h
    exact (ofGiven_perm labels).symm.trans (h ▸ ofGiven_perm labels')
  · intro h
    have hperm : (ofGiven labels).Perm (ofGiven labels') :=
      (ofGiven_perm labels).trans (h.trans (ofGiven_perm labels').symm)
    refine hperm.eq_of_pairwise ?_ (pairwise_ofGiven labels) (pairwise_ofGiven labels')
    -- Two labels of one name are one label.
    rintro ⟨name, value⟩ ⟨name', value'⟩ hmem hmem' hle hle'
    obtain rfl : name = name' := String.le_antisymm hle hle'
    have hnodup : ((ofGiven labels).map Prod.fst).Nodup :=
      ((ofGiven_perm labels).map Prod.fst).nodup_iff.mpr (nodup_entriesOf labels)
    have hvalue := Keyed.get?_of_mem hnodup hmem
    rw [Keyed.get?_of_mem hnodup (hperm.mem_iff.mpr hmem')] at hvalue
    rw [Option.some.inj hvalue]

end Labels

/-! ## Adding under a key -/

namespace Keyed

section

variable {κ α : Type} [DecidableEq κ] [Add α] [OfNat α 0]

/-- Adds to what stands under a key. -/
def bump (l : Keyed κ α) (k : κ) (amount : α) : Keyed κ α :=
  l.set k ((l.get? k).getD 0 + amount)

theorem mem_keys_bump {l : Keyed κ α} {k k' : κ} {amount : α} :
    k' ∈ (l.bump k amount).map Prod.fst ↔ k' = k ∨ k' ∈ l.map Prod.fst :=
  mem_keys_set

end

/-- The sum of what stands under some of the keys. -/
def weigh {κ : Type} (p : κ → Bool) (l : Keyed κ Nat) : Nat :=
  ((l.filter fun e ↦ p e.1).map Prod.snd).sum

theorem weigh_cons {κ : Type} (p : κ → Bool) (e : κ × Nat) (l : Keyed κ Nat) :
    weigh p (e :: l) = (if p e.1 then e.2 else 0) + weigh p l := by
  rw [weigh, weigh, List.filter_cons]
  split
  · rw [List.map_cons, List.sum_cons]
  · rw [Nat.zero_add]

variable {κ : Type} [DecidableEq κ]

/-- Something that grows by what is added under some of the keys. -/
structure Sums (p : κ → Bool) (f : Keyed κ Nat → Nat) : Prop where
  nil : f [] = 0
  bump (l : Keyed κ Nat) (k : κ) (amount : Nat) :
    f (l.bump k amount) = f l + if p k then amount else 0

theorem sums_weigh (p : κ → Bool) : Sums p (weigh p) where
  nil := rfl
  bump l k amount := by
    induction l with
    | nil =>
      change weigh p [(k, 0 + amount)] = _
      rw [weigh_cons, Nat.zero_add, Nat.add_comm]
    | cons e rest ih =>
      obtain ⟨k₀, n⟩ := e
      by_cases h : k₀ = k
      · subst h
        rw [Keyed.bump, set, if_pos rfl, get?, if_pos rfl, Option.getD_some, weigh_cons, weigh_cons]
        dsimp only
        split <;> omega
      · rw [Keyed.bump, set, if_neg h, get?, if_neg h, ← Keyed.bump, weigh_cons, ih, weigh_cons,
          Nat.add_assoc]

theorem sums_getD (k : κ) : Sums (decide <| k = ·) fun l ↦ (l.get? k).getD 0 where
  nil := rfl
  bump l k' amount := by
    rw [Keyed.bump, get?_set]
    by_cases h : k = k'
    · subst h
      simp
    · simp [h, Ne.symm h]

end Keyed

/-! ## Regrouping whole numbers -/

namespace Ledger

section

variable {α : Type} [Add α] [OfNat α 0]

def regroup (label : String) (totals : Keyed String α) (e : Labels × α) : Keyed String α :=
  match Keyed.get? e.1 label with
  | some v => totals.bump v e.2
  | none => totals

theorem byLabel_eq (l : Ledger α) (label : String) : l.byLabel label = l.foldl (regroup label) [] :=
  rfl

theorem mem_keys_byLabel {l : Ledger α} {label v : String} :
    v ∈ (l.byLabel label).map Prod.fst ↔ ∃ k ∈ l.map Prod.fst, Keyed.get? k label = some v := by
  have hfrom (totals : Keyed String α) : v ∈ (l.foldl (regroup label) totals).map Prod.fst ↔
      v ∈ totals.map Prod.fst ∨ ∃ k ∈ l.map Prod.fst, Keyed.get? k label = some v := by
    induction l generalizing totals with
    | nil => simp
    | cons e l ih =>
      rw [List.foldl_cons, ih, List.map_cons, List.exists_mem_cons_iff, regroup]
      cases Keyed.get? e.1 label with
      | none => simp
      | some v' =>
        dsimp only
        rw [Keyed.mem_keys_bump, Option.some_inj, eq_comm, or_assoc, or_left_comm]
  rw [byLabel_eq, hfrom]
  simp

theorem nodup_keys_byLabel (l : Ledger α) (label : String) :
    ((l.byLabel label).map Prod.fst).Nodup := by
  have hfrom {totals : Keyed String α} (h : (totals.map Prod.fst).Nodup) :
      ((l.foldl (regroup label) totals).map Prod.fst).Nodup := by
    induction l generalizing totals with
    | nil => exact h
    | cons e l ih =>
      refine ih ?_
      rw [regroup]
      split
      · exact Keyed.nodup_keys_set h _ _
      · exact h
  exact hfrom List.nodup_nil

end

/-- What is summed up over regrouped amounts is summed up over those that have the label. -/
theorem sums_byLabel {p : String → Bool} {f : Keyed String Nat → Nat} (hf : Keyed.Sums p f)
    (l : Ledger Nat) (label : String) :
    f (l.byLabel label) = Keyed.weigh (fun k ↦ (Keyed.get? k label).any p) l := by
  have hfrom (totals : Keyed String Nat) : f (l.foldl (regroup label) totals) =
      f totals + Keyed.weigh (fun k ↦ (Keyed.get? k label).any p) l := by
    induction l generalizing totals with
    | nil => rfl
    | cons e l ih =>
      rw [List.foldl_cons, ih, Keyed.weigh_cons, regroup]
      cases Keyed.get? e.1 label with
      | none => simp
      | some v' =>
        dsimp only
        rw [hf.bump, Nat.add_assoc]
        rfl
  rw [byLabel_eq, hfrom, hf.nil, Nat.zero_add]

end Ledger

/-! ## In step with whole numbers -/

section

open Decimal

variable {κ : Type}

/-- Binary64 numbers hold whole numbers, each the one in its place. -/
def Keyed.Held (l : Keyed κ Float) (exact : Keyed κ Nat) : Prop :=
  List.Forall₂ (fun e e' ↦ e.1 = e'.1 ∧ Decimal.Held e.2 e'.2) l exact

namespace Keyed.Held

variable {l : Keyed κ Float} {exact : Keyed κ Nat}

/-- Formed into one sum, they hold the sum. -/
theorem foldl_add (h : Held l exact) :
    Decimal.Held (l.foldl (fun s e ↦ s + e.2) 0) (exact.map Prod.snd).sum := by
  have hfrom {s : Float} {n : Nat} (hs : Decimal.Held s n) :
      Decimal.Held (l.foldl (fun s e ↦ s + e.2) s) (n + (exact.map Prod.snd).sum) := by
    induction h generalizing s n with
    | nil => exact hs
    | cons he _ ih =>
      rw [List.foldl_cons, List.map_cons, List.sum_cons, ← Nat.add_assoc]
      exact ih (hs.add he.2)
  have hsum := hfrom .zero
  rwa [Nat.zero_add] at hsum

theorem filter (h : Held l exact) (p : κ → Bool) :
    Held (l.filter fun e ↦ p e.1) (exact.filter fun e ↦ p e.1) := by
  refine List.rel_filter ?_ h
  intro e e' he
  change p e.1 = true ↔ p e'.1 = true
  rw [he.1]

variable [DecidableEq κ]

theorem getD (h : Held l exact) (k : κ) :
    Decimal.Held ((l.get? k).getD 0) ((exact.get? k).getD 0) := by
  induction h with
  | nil => exact .zero
  | cons he _ ih =>
    rw [get?, get?, he.1]
    split
    · exact he.2
    · exact ih

theorem set (h : Held l exact) (k : κ) {x : Float} {n : Nat} (hx : Decimal.Held x n) :
    Held (l.set k x) (exact.set k n) := by
  induction h with
  | nil => exact .cons ⟨rfl, hx⟩ .nil
  | cons he hrest ih =>
    rw [Keyed.set, Keyed.set, he.1]
    split
    · exact .cons ⟨rfl, hx⟩ hrest
    · exact .cons ⟨rfl, he.2⟩ ih

theorem bump (h : Held l exact) (k : κ) {x : Float} {n : Nat} (hx : Decimal.Held x n) :
    Held (l.bump k x) (exact.bump k n) :=
  h.set k ((h.getD k).add hx)

end Keyed.Held

theorem Ledger.held_byLabel {l : Ledger Float} {exact : Ledger Nat} (h : Keyed.Held l exact)
    (label : String) : Keyed.Held (l.byLabel label) (exact.byLabel label) := by
  have hfrom {totals : Keyed String Float} {totals' : Keyed String Nat}
      (ht : Keyed.Held totals totals') :
      Keyed.Held (l.foldl (regroup label) totals) (exact.foldl (regroup label) totals') := by
    induction h generalizing totals totals' with
    | nil => exact ht
    | cons he _ ih =>
      rw [List.foldl_cons, List.foldl_cons]
      refine ih ?_
      rw [regroup, regroup, he.1]
      split
      · exact ht.bump _ he.2
      · exact ht
  exact hfrom .nil

namespace Ledger

variable {l : Ledger Float} {exact : Ledger Nat} (label : String)

theorem le_total_add (h : Keyed.Held l exact) {x : Float} (hx : 0 ≤ x) (k k' : Labels) :
    l.total k' ≤ (l.add k x).total k' := by
  have hnonneg : 0 ≤ l.total k' := (h.getD k').nonneg
  rw [total_add]
  split
  · next heq =>
    subst heq
    exact (Decimal.le_add hnonneg hx).2
  · exact Decimal.le_self hnonneg

/-- What stands under a value of a label holds the sum over the label sets with this value. -/
theorem held_getD_byLabel (h : Keyed.Held l exact) (v : String) :
    Decimal.Held (((l.byLabel label).get? v).getD 0)
      (Keyed.weigh (fun k ↦ (Keyed.get? k label).any (decide <| v = ·)) exact) := by
  rw [← sums_byLabel (Keyed.sums_getD v)]
  exact (held_byLabel h label).getD v

/-- Regrouped amounts add up to a number that holds the sum over the label sets with the label. -/
theorem held_sum_byLabel (h : Keyed.Held l exact) :
    Decimal.Held (sum (l.byLabel label)) (Keyed.weigh (fun k ↦ Keyed.has k label) exact) := by
  have hany : (fun k ↦ Keyed.has k label) =
      fun k : Labels ↦ (Keyed.get? k label).any fun _ ↦ true := by
    funext k
    rw [Keyed.has]
    cases Keyed.get? k label <;> rfl
  have hall : Keyed.weigh (fun _ ↦ true) (exact.byLabel label) =
      ((exact.byLabel label).map Prod.snd).sum := by
    rw [Keyed.weigh, List.filter_true]
  rw [hany, ← sums_byLabel (Keyed.sums_weigh fun _ ↦ true), hall]
  exact (held_byLabel h label).foldl_add

end Ledger

end

end DiagnosticFeed
