import DiagnosticFeed.Proofs.Metrics.Ledgers

/-!
# What a counter counts

A counter takes whole numbers under labels, one call after the other. It refuses those that are
negative and stays as it is; it accepts all others, but for those that are too large for a binary64
number. What it then says of a label set, of a value of one label and of all that have the label is
a sum over the calls that it accepted: that sum itself as long as it is at most `2 ^ 53`, up to
which binary64 numbers hold every whole number. Past it amounts can be lost, but nothing that it
says ever becomes less.
-/

namespace DiagnosticFeed

/-! ## Amounts -/

namespace Quantity

/-- The number that a quantity stands for, if it is one. -/
def value? : Quantity → Option ℚ
  | whole n => some n
  | decimal x => Decimal.value? x

theorem isNegative_iff {q : Quantity} {n : Int} (h : q.value? = some (n : ℚ)) :
    q.isNegative = true ↔ n < 0 := by
  cases q with
  | whole k =>
    obtain rfl : k = n := Int.cast_injective (Option.some.inj h)
    exact decide_eq_true_iff
  | decimal x => exact decide_eq_true_iff.trans ((Decimal.lt_zero_iff h).trans Int.cast_lt_zero)

theorem toFloat?_natCast (n : Nat) : (whole n).toFloat? =
    if (Decimal.ofRatio n 1).isInf then none else some (Decimal.ofRatio n 1) := by
  have hratio : Decimal.ofIntRatio n 1 = Decimal.ofRatio n 1 := by
    rw [Decimal.ofIntRatio, Int.natAbs_natCast]
    exact if_neg (by omega)
  rw [← hratio]
  rfl

/-- What is added for a whole number is this number, if it can be held. -/
theorem held_toFloat? {q : Quantity} {n : Nat} {x : Float} (h : q.value? = some ((n : Int) : ℚ))
    (hx : q.toFloat? = some x) : Decimal.Held x n := by
  cases q with
  | whole k =>
    obtain rfl : k = n := Int.cast_injective (Option.some.inj h)
    rw [toFloat?_natCast] at hx
    split at hx
    · cases hx
    · cases hx
      exact ⟨Decimal.zero_le_ofRatio n, Decimal.value?_ofRatio⟩
  | decimal y =>
    cases hx
    rw [Int.cast_natCast] at h
    exact ⟨Decimal.nonneg_of_value? h, fun _ ↦ h⟩

/-- Only what is too large is not added. -/
theorem le_of_toFloat?_eq_none {q : Quantity} {n : Nat} (h : q.value? = some ((n : Int) : ℚ))
    (hx : q.toFloat? = none) : 2 ^ 1023 ≤ n := by
  cases q with
  | whole k =>
    obtain rfl : k = n := Int.cast_injective (Option.some.inj h)
    by_contra hlt
    rw [toFloat?_natCast, Decimal.isInf_ofRatio (not_le.mp hlt)] at hx
    cases hx
  | decimal y => cases hx

end Quantity

/-- A call that adds a whole number, which may be written with a decimal point. -/
structure Increment where
  labels : Option Labels.Given := none
  given : Quantity
  amount : Int
  value : given.value? = some (amount : ℚ)

namespace Increment

/-- A call that adds a whole number under no labels. -/
def ofInt (n : Int) : Increment :=
  { given := .whole n, amount := n, value := rfl }

def key (i : Increment) : Labels :=
  .ofGiven i.labels

def sum (is : List Increment) : Int :=
  (is.map amount).sum

/-- What a call does to a counter. -/
theorem increase_cases (i : Increment) (l : Ledger Float) :
    (i.amount < 0 ∧
        (Metric.counter l).increase i.key i.given = (.counter l, some .negativeIncrement)) ∨
      (∃ n : Nat, ∃ x, i.amount = n ∧ Decimal.Held x n ∧
        (Metric.counter l).increase i.key i.given = (.counter (l.add i.key x), none)) ∨
      2 ^ 1023 ≤ i.amount ∧
        (Metric.counter l).increase i.key i.given =
          (.counter (l.add i.key 0), some .numberTooLarge) := by
  have hnegative := Quantity.isNegative_iff i.value
  rw [Metric.increase, Ledger.increaseBy]
  rcases lt_or_ge i.amount 0 with hlt | hge
  · rw [if_pos (hnegative.mpr hlt)]
    exact .inl ⟨hlt, rfl⟩
  · obtain ⟨n, hn⟩ := Int.eq_ofNat_of_zero_le hge
    have hvalue := i.value
    rw [hn] at hvalue
    rw [if_neg (fun h ↦ not_lt.mpr hge (hnegative.mp h)), Ledger.enter]
    cases hx : i.given.toFloat? with
    | some x => exact .inr (.inl ⟨n, x, hn, Quantity.held_toFloat? hvalue hx, rfl⟩)
    | none =>
      have hle := Quantity.le_of_toFloat?_eq_none hvalue hx
      refine .inr (.inr ⟨?_, rfl⟩)
      rw [hn]
      exact_mod_cast hle

end Increment

/-! ## Sequences of calls -/

/-- A counter, and the calls that it has accepted. -/
structure Tally where
  counter : Metric := .counter []
  accepted : List Increment := []

namespace Tally

/-- Makes a call. -/
def take (t : Tally) (i : Increment) : Tally :=
  let (counter, refused) := t.counter.increase i.key i.given
  { counter, accepted := if refused.isNone then t.accepted ++ [i] else t.accepted }

def of (calls : List Increment) : Tally :=
  calls.foldl take {}

/-- The ledger of a counter is in step with one of whole numbers, in which each sum is a sum over
the calls that were accepted. -/
structure Kept (t : Tally) (calls : List Increment) (l : Ledger Float) (exact : Ledger Nat) :
    Prop where
  counter : t.counter = .counter l
  held : Keyed.Held l exact
  sums {p : Labels → Bool} {f : Ledger Nat → Nat} (hf : Keyed.Sums p f) :
    (f exact : Int) = Increment.sum (t.accepted.filter fun i ↦ p i.key)
  keys (k : Labels) : k ∈ l.map Prod.fst ↔ ∃ i ∈ calls, 0 ≤ i.amount ∧ i.key = k

variable {t : Tally} {calls : List Increment} {l : Ledger Float} {exact : Ledger Nat}

theorem Kept.take (h : t.Kept calls l exact) (i : Increment) :
    ∃ l' exact', (t.take i).Kept (calls ++ [i]) l' exact' := by
  have hkeys (k : Labels) : (∃ j ∈ calls ++ [i], 0 ≤ j.amount ∧ j.key = k) ↔
      (0 ≤ i.amount ∧ i.key = k) ∨ k ∈ l.map Prod.fst := by
    rw [h.keys]
    simp only [List.mem_append, List.mem_singleton, or_and_right, exists_or, exists_eq_left,
      or_comm]
  have hadded (hpos : 0 ≤ i.amount) (x : Float) (k : Labels) :
      k ∈ (l.add i.key x).map Prod.fst ↔ ∃ j ∈ calls ++ [i], 0 ≤ j.amount ∧ j.key = k := by
    rw [hkeys, and_iff_right hpos, eq_comm]
    exact Keyed.mem_keys_bump
  rw [Tally.take, h.counter]
  rcases i.increase_cases l with ⟨hneg, hcall⟩ | ⟨n, x, hn, hx, hcall⟩ | ⟨hlarge, hcall⟩ <;>
    rw [hcall]
  · refine ⟨l, exact, rfl, h.held, h.sums, fun k ↦ ?_⟩
    rw [hkeys, or_iff_right fun h ↦ not_le.mpr hneg h.1]
  · refine ⟨l.add i.key x, exact.bump i.key n, rfl, h.held.bump i.key hx, fun {p f} hf ↦ ?_,
      hadded (by omega) x⟩
    rw [hf.bump, Nat.cast_add, h.sums hf]
    change _ = Increment.sum ((t.accepted ++ [i]).filter fun i ↦ p i.key)
    rw [List.filter_append, Increment.sum, Increment.sum, List.map_append, List.sum_append]
    cases hp : p i.key <;> simp [hp, hn]
  -- A call that is refused because its amount is too large leaves a zero under its label set.
  · refine ⟨l.add i.key 0, exact.bump i.key 0, rfl, h.held.bump i.key .zero, fun {p f} hf ↦ ?_,
      hadded (by omega) 0⟩
    rw [hf.bump, ite_self, Nat.add_zero, h.sums hf]
    rfl

theorem exists_kept (calls : List Increment) : ∃ l exact, (Tally.of calls).Kept calls l exact := by
  induction calls using List.reverseRecOn with
  | nil =>
    refine ⟨[], [], rfl, .nil, fun hf ↦ ?_, by simp⟩
    rw [hf.nil]
    rfl
  | append_singleton calls i ih =>
    obtain ⟨l, exact, hkept⟩ := ih
    rw [Tally.of, List.foldl_append]
    exact hkept.take i

end Tally

/-! ## What is read off -/

/-- A ledger accounts for calls, of which some were accepted. -/
structure Ledger.AccountsFor (l : Ledger Float) (calls accepted : List Increment) : Prop where
  /-- Under a label set there is the sum of what was accepted with these labels, in any order. -/
  total (labels : Option Labels.Given) :
    let sum := Increment.sum (accepted.filter fun i ↦
      (Labels.entriesOf i.labels).Perm (Labels.entriesOf labels))
    sum ≤ 2 ^ 53 → Decimal.value? (l.total (.ofGiven labels)) = some (sum : ℚ)
  /-- A value of a label is listed if it was ever given with an amount that is not negative. -/
  listed (label v : String) : v ∈ (l.byLabel label).map Prod.fst ↔
    ∃ i ∈ calls, 0 ≤ i.amount ∧ Keyed.get? (Labels.entriesOf i.labels) label = some v
  /-- No value is listed twice. -/
  once (label : String) : ((l.byLabel label).map Prod.fst).Nodup
  /-- With a value of a label there is the sum of what was accepted with this value. -/
  group (label v : String) :
    let sum := Increment.sum (accepted.filter fun i ↦
      Keyed.get? (Labels.entriesOf i.labels) label = some v)
    sum ≤ 2 ^ 53 → Decimal.value? (((l.byLabel label).get? v).getD 0) = some (sum : ℚ)
  /-- The values of a label add up to what was accepted with the label, and so do the samples that
  have it. -/
  groups (label : String) :
    let sum := Increment.sum (accepted.filter fun i ↦ Keyed.has (Labels.entriesOf i.labels) label)
    sum ≤ 2 ^ 53 → Decimal.value? (Ledger.sum (l.byLabel label)) = some (sum : ℚ) ∧
      Decimal.value? ((l.filter fun e ↦ Keyed.has e.1 label).foldl (fun s e ↦ s + e.2) 0) =
        some (sum : ℚ)

theorem Tally.Kept.accountsFor {t : Tally} {calls : List Increment} {l : Ledger Float}
    {exact : Ledger Nat} (h : t.Kept calls l exact) : l.AccountsFor calls t.accepted := by
  have hread {p : Labels → Bool} {f : Ledger Nat → Nat} (hf : Keyed.Sums p f) {x : Float}
      (hx : Decimal.Held x (f exact)) {q : Increment → Bool} (hq : ∀ i : Increment, p i.key = q i)
      (hsum : Increment.sum (t.accepted.filter q) ≤ 2 ^ 53) :
      Decimal.value? x = some (Increment.sum (t.accepted.filter q) : ℚ) := by
    rw [← funext hq, ← h.sums hf] at hsum ⊢
    exact hx.value (by exact_mod_cast hsum)
  have hkey (i : Increment) (label : String) :
      Keyed.get? i.key label = Keyed.get? (Labels.entriesOf i.labels) label :=
    Labels.get?_ofGiven _ _
  refine ⟨fun labels ↦ ?_, fun label v ↦ ?_, Ledger.nodup_keys_byLabel l, fun label v ↦ ?_,
    fun label hsum ↦ ⟨?_, ?_⟩⟩
  · refine hread (Keyed.sums_getD (Labels.ofGiven labels)) (h.held.getD _) fun i ↦ ?_
    rw [decide_eq_decide, eq_comm]
    exact Labels.ofGiven_eq_iff _ _
  · rw [Ledger.mem_keys_byLabel]
    constructor
    · rintro ⟨k, hk, hv⟩
      obtain ⟨i, hi, hpos, rfl⟩ := (h.keys k).mp hk
      exact ⟨i, hi, hpos, (hkey i label).symm.trans hv⟩
    · rintro ⟨i, hi, hpos, hv⟩
      exact ⟨i.key, (h.keys i.key).mpr ⟨i, hi, hpos, rfl⟩, (hkey i label).trans hv⟩
  · refine hread (Keyed.sums_weigh _) (Ledger.held_getD_byLabel label h.held v) fun i ↦ ?_
    rw [hkey]
    cases Keyed.get? (Labels.entriesOf i.labels) label <;> simp [eq_comm]
  · refine hread (Keyed.sums_weigh _) (Ledger.held_sum_byLabel label h.held) (fun i ↦ ?_) hsum
    rw [Keyed.has, hkey, Keyed.has]
  · have hsamples := (h.held.filter fun k ↦ Keyed.has k label).foldl_add
    refine hread (Keyed.sums_weigh fun k ↦ Keyed.has k label) hsamples (fun i ↦ ?_) hsum
    rw [Keyed.has, hkey, Keyed.has]

/-- **What a counter says adds up.** After any calls the sum over those that were accepted is read
off the ledger, for the labels of a call, for a value of a label and for a label, as long as it is
at most `2 ^ 53`. An amount that is negative is refused and changes nothing; one that is not is
accepted if it is not too large, and no call makes an amount smaller. -/
theorem Metric.counter_accounts_for (calls : List Increment) :
    ∃ l, (Tally.of calls).counter = .counter l ∧ l.AccountsFor calls (Tally.of calls).accepted ∧
      ∀ i : Increment,
        (i.amount < 0 → ∃ refusal, refusal.kind = "ValueError" ∧
          (counter l).increase i.key i.given = (counter l, some refusal)) ∧
        (0 ≤ i.amount → i.amount < 2 ^ 1023 → ((counter l).increase i.key i.given).2 = none) ∧
        ∃ l', ((counter l).increase i.key i.given).1 = .counter l' ∧
          ∀ labels, l.total (.ofGiven labels) ≤ l'.total (.ofGiven labels) := by
  obtain ⟨l, exact, hkept⟩ := Tally.exists_kept calls
  refine ⟨l, hkept.counter, hkept.accountsFor, fun i ↦ ?_⟩
  have hmonotone {x : Float} (hx : 0 ≤ x) (labels : Option Labels.Given) :
      l.total (.ofGiven labels) ≤ (l.add i.key x).total (.ofGiven labels) :=
    Ledger.le_total_add hkept.held hx _ _
  rcases i.increase_cases l with ⟨hneg, hcall⟩ | ⟨n, x, hn, hx, hcall⟩ | ⟨hlarge, hcall⟩ <;>
    rw [hcall]
  · exact ⟨fun _ ↦ ⟨_, rfl, rfl⟩, fun hpos ↦ absurd hneg (not_lt.mpr hpos), l, rfl,
      fun labels ↦ Decimal.le_self (hkept.held.getD _).nonneg⟩
  · exact ⟨fun hneg ↦ absurd hneg (by omega), fun _ _ ↦ rfl, _, rfl, hmonotone hx.nonneg⟩
  · exact ⟨fun hneg ↦ absurd hneg (by omega), fun _ hlt ↦ absurd hlarge (not_le.mpr hlt), _, rfl,
      hmonotone Decimal.Held.zero.nonneg⟩

/-- Two labels in either order, one of them alone, and an amount that is refused. -/
theorem Metric.counter_accounts_for_overlap :
    let labels : Labels.Given := ⟨[("reason", "timeout"), ("tool", "a")], by decide⟩
    let swapped : Labels.Given := ⟨[("tool", "a"), ("reason", "timeout")], by decide⟩
    let single : Labels.Given := ⟨[("reason", "timeout")], by decide⟩
    let calls : List Increment := [⟨some labels, .whole 3, 3, rfl⟩,
      ⟨some swapped, .whole 4, 4, rfl⟩, ⟨some single, .whole 5, 5, rfl⟩, .ofInt (-1), .ofInt 2]
    (-1 : Int) < 0 ∧ ∃ l, (Tally.of calls).counter = .counter l ∧
      Decimal.value? (l.total (.ofGiven (some labels))) = some ((7 : Int) : ℚ) ∧
      Decimal.value? (((l.byLabel "reason").get? "timeout").getD 0) = some ((12 : Int) : ℚ) ∧
      Decimal.value? (Ledger.sum (l.byLabel "reason")) = some ((12 : Int) : ℚ) ∧
      ((counter l).increase (Increment.ofInt (-1)).key (Increment.ofInt (-1)).given).1 =
        counter l := by
  intro labels swapped single calls
  obtain ⟨l, hl, hsums, hcalls⟩ := counter_accounts_for calls
  obtain ⟨hrefused, -⟩ := hcalls (.ofInt (-1))
  obtain ⟨refusal, -, hunchanged⟩ := hrefused (by decide)
  have htotal : Increment.sum ((Tally.of calls).accepted.filter fun i ↦
      (Labels.entriesOf i.labels).Perm (Labels.entriesOf (some labels))) = 7 := by decide +kernel
  have hgroup : Increment.sum ((Tally.of calls).accepted.filter fun i ↦
      Keyed.get? (Labels.entriesOf i.labels) "reason" = some "timeout") = 12 := by decide +kernel
  have hall : Increment.sum ((Tally.of calls).accepted.filter fun i ↦
      Keyed.has (Labels.entriesOf i.labels) "reason") = 12 := by decide +kernel
  refine ⟨by decide, l, hl, ?_, ?_, ?_, congrArg Prod.fst hunchanged⟩
  · rw [hsums.total (some labels) (by rw [htotal]; decide), htotal]
  · rw [hsums.group "reason" "timeout" (by rw [hgroup]; decide), hgroup]
  · rw [(hsums.groups "reason" (by rw [hall]; decide)).1, hall]

/-- Past `2 ^ 53` the sum is not read off any more: of three amounts that were accepted two are
lost. -/
theorem Metric.counter_loses_ones :
    let t := Tally.of [.ofInt (2 ^ 53), .ofInt 1, .ofInt 1]
    Increment.sum (t.accepted.filter fun i ↦
        (Labels.entriesOf i.labels).Perm (Labels.entriesOf none)) = 2 ^ 53 + 2 ∧
      ∃ l, t.counter = .counter l ∧
        Decimal.value? (l.total (.ofGiven none)) = some ((2 ^ 53 : Nat) : ℚ) := by
  refine ⟨by decide +kernel, _, rfl, ?_⟩
  rw [← Decimal.value?_ofRatio le_rfl]
  refine congrArg Decimal.value? ?_
  decide +kernel

end DiagnosticFeed
