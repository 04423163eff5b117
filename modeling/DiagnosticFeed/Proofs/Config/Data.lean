import DiagnosticFeed.Config.Datum
import Mathlib.Tactic.Common

/-!
# Merged data

Data is read by paths of text keys. Merging two mappings and setting a value at the end of a path
are described by what is read afterwards, as long as there are mappings on the way.

In a mapping from a file or from variables each text key stands once. A merge needs this of the
upper mapping: an entry that stands twice there would be merged twice.
-/

namespace DiagnosticFeed.Config

namespace Datum

/-- What data holds at the end of a path of text keys. -/
def valueAt? : List String → Datum → Option Datum
  | [], d => some d
  | key :: keys, .map o => (lookup key o).bind (valueAt? keys)
  | _ :: _, _ => none

/-- A text key stands at most once. -/
def Once (key : String) (o : Entries) : Prop :=
  o.countP (·.1.isText key) ≤ 1

/-- All that is on the way along a path, up to its end, are mappings. -/
def Passable : List String → Datum → Prop
  | [], _ => True
  | key :: keys, d => ∃ o, d = .map o ∧ ∀ inner, lookup key o = some inner → Passable keys inner

/-- All that is on the way along a path are mappings, in which the keys of the path stand at most
once. -/
def Clear : List String → Datum → Prop
  | [], _ => True
  | key :: keys, d =>
    ∃ o, d = .map o ∧ Once key o ∧ ∀ inner, lookup key o = some inner → Clear keys inner

/-- Of the mappings in data, each has every text key at most once. -/
inductive Distinct : Datum → Prop
  | leaf {d : Datum} (h : ∀ o, d ≠ .map o) : Distinct d
  | map {o : Entries} (hkeys : ∀ key, Once key o) (hvalues : ∀ e ∈ o, Distinct e.2) :
      Distinct (.map o)

/-- Neither of two paths leads through the end of the other. -/
def Apart (path path' : List String) : Prop :=
  ¬path <+: path' ∧ ¬path' <+: path

/-! ## One mapping -/

section

variable {key key' : String} {d v : Datum} {o : Entries}

theorem isText_iff {k : Datum} : k.isText key = true ↔ k = .text key := by
  cases k <;> simp [isText]

theorem isText_text : (text key).isText key' = true ↔ key = key' := by
  simp [isText]

@[simp] theorem lookup_nil : lookup key [] = none :=
  rfl

theorem lookup_cons (e : Datum × Datum) :
    lookup key (e :: o) = if e.1.isText key then some e.2 else lookup key o := by
  by_cases h : e.1.isText key = true <;> simp [lookup, h]

theorem lookup_append (o o' : Entries) :
    lookup key (o ++ o') = (lookup key o).or (lookup key o') := by
  induction o with
  | nil => rfl
  | cons e o ih =>
    rw [List.cons_append, lookup_cons, lookup_cons, ih]
    split <;> rfl

theorem mem_of_lookup (h : lookup key o = some v) : (.text key, v) ∈ o := by
  induction o with
  | nil => cases h
  | cons e o ih =>
    rw [lookup_cons] at h
    split at h
    · next hkey =>
      cases h
      rw [isText_iff] at hkey
      rw [← hkey]
      exact List.mem_cons_self
    · exact List.mem_cons_of_mem _ (ih h)

theorem lookup_eq_none_iff : lookup key o = none ↔ ∀ e ∈ o, e.1.isText key = false := by
  induction o with
  | nil => simp
  | cons e o ih =>
    rw [lookup_cons, List.forall_mem_cons, ← ih]
    split <;> simp_all

theorem lookup_put (key' key : String) (v : Datum) (o : Entries) :
    lookup key (put key' v o) = if key' = key then some v else lookup key o := by
  induction o with
  | nil => simp [put, lookup_cons, isText_text]
  | cons e o ih =>
    rw [put]
    split
    · next hkey =>
      rw [isText_iff] at hkey
      rw [lookup_cons, lookup_cons, hkey]
      simp only [isText_text]
      split <;> rfl
    · next hkey =>
      rw [lookup_cons, lookup_cons, ih]
      by_cases h : e.1.isText key = true
      · have : key' ≠ key := fun heq ↦ hkey (heq ▸ h)
        simp [h, this]
      · simp [h]

theorem once_cons {e : Datum × Datum} (h : Once key (e :: o)) :
    Once key o ∧ (e.1.isText key = true → lookup key o = none) := by
  rw [Once, List.countP_cons] at h
  refine ⟨by rw [Once]; omega, fun hkey ↦ ?_⟩
  rw [if_pos hkey] at h
  have hnone : o.countP (·.1.isText key) = 0 := by omega
  rw [lookup_eq_none_iff]
  intro e he
  simpa using List.countP_eq_zero.1 hnone e he

theorem Once.lookup_of_mem (h : Once key o) (hmem : (.text key, v) ∈ o) :
    lookup key o = some v := by
  induction o with
  | nil => cases hmem
  | cons e o ih =>
    obtain ⟨honce, hnone⟩ := once_cons h
    rw [lookup_cons]
    rcases List.mem_cons.1 hmem with rfl | hmem
    · exact if_pos (isText_text.2 rfl)
    · rw [if_neg, ih honce hmem]
      intro hkey
      have hlookup := hnone hkey
      rw [ih honce hmem] at hlookup
      cases hlookup

theorem Distinct.lookup_of_mem (h : Distinct (.map o)) (hmem : (.text key, v) ∈ o) :
    lookup key o = some v := by
  cases h with
  | leaf hleaf => exact absurd rfl (hleaf o)
  | map hkeys _ => exact (hkeys key).lookup_of_mem hmem

end

/-! ## Merging -/

section

variable {key : String} {upper lower : Entries}

/-- **What is read in merged mappings** under a key that stands at most once in the upper one. -/
theorem lookup_overEntries (h : Once key upper) : lookup key (overEntries upper lower) =
    match lookup key upper, lookup key lower with
    | some u, some l => some (mergedOver u l)
    | some u, none => some u
    | none, l => l := by
  induction upper generalizing lower with
  | nil => simp [overEntries]
  | cons e upper ih =>
    obtain ⟨k, u⟩ := e
    obtain ⟨honce, hnone⟩ := once_cons h
    rw [overEntries, lookup_cons]
    cases k with
    | text key' =>
      simp only [text?, isText_text]
      simp only [isText_text] at hnone
      by_cases hkey : key' = key
      · subst hkey
        cases hl : lookup key' lower with
        | none => simp [ih honce, hnone rfl, lookup_append, hl, lookup_cons, isText_text]
        | some l => simp [ih honce, hnone rfl, lookup_put]
      · cases hl : lookup key' lower with
        | none =>
          simp [ih honce, hkey, lookup_append, lookup_cons, isText_text]
        | some l => simp [ih honce, lookup_put, hkey]
    | _ => simp [text?, isText, ih honce, lookup_append, lookup_cons]

theorem lookup_overEntries_eq_none_iff : lookup key (overEntries upper lower) = none ↔
    lookup key upper = none ∧ lookup key lower = none := by
  induction upper generalizing lower with
  | nil => simp [overEntries]
  | cons e upper ih =>
    obtain ⟨k, u⟩ := e
    rw [overEntries, lookup_cons]
    cases k with
    | text key' =>
      simp only [text?, isText_text]
      cases hl : lookup key' lower with
      | none =>
        by_cases hkey : key' = key <;>
          simp [ih, hkey, lookup_append, lookup_cons, isText_text]
      | some l =>
        by_cases hkey : key' = key <;> simp [ih, hkey, lookup_put]
    | _ => simp [text?, isText, ih, lookup_append, lookup_cons]

theorem mergedOver_eq_left {u l : Datum} (h : ∀ o, l ≠ .map o) : mergedOver u l = u := by
  cases u <;> cases l <;> first | rfl | exact absurd rfl (h _)

theorem Clear.passable {path : List String} {d : Datum} (h : Clear path d) : Passable path d := by
  induction path generalizing d with
  | nil => trivial
  | cons key path ih =>
    obtain ⟨o, rfl, -, hinner⟩ := h
    exact ⟨o, rfl, fun inner hlookup ↦ ih (hinner inner hlookup)⟩

theorem Distinct.clear {path : List String} {d : Datum} (h : Distinct d) (hd : Passable path d) :
    Clear path d := by
  induction path generalizing d with
  | nil => trivial
  | cons key path ih =>
    obtain ⟨o, rfl, hinner⟩ := hd
    cases h with
    | leaf h => exact absurd rfl (h o)
    | map hkeys hvalues =>
      exact ⟨o, rfl, hkeys key, fun inner hlookup ↦
        ih (hvalues _ (mem_of_lookup hlookup)) (hinner inner hlookup)⟩

/-- **What is read in merged data**: what the upper data holds at the end of the path, or else what
the lower data holds there, unless this is a mapping. -/
theorem valueAt?_mergedOver {path : List String} {u l : Datum} (hu : Clear path u)
    (hl : Passable path l) (hleaf : ∀ o, valueAt? path l ≠ some (.map o)) :
    valueAt? path (mergedOver u l) = (valueAt? path u).or (valueAt? path l) := by
  induction path generalizing u l with
  | nil =>
    rw [mergedOver_eq_left fun o h ↦ hleaf o (by rw [valueAt?, h])]
    rfl
  | cons key path ih =>
    obtain ⟨uo, rfl, honce, huinner⟩ := hu
    obtain ⟨lo, rfl, hlinner⟩ := hl
    rw [mergedOver, valueAt?, valueAt?, valueAt?, lookup_overEntries honce]
    cases hulookup : lookup key uo with
    | none => simp
    | some u =>
      cases hllookup : lookup key lo with
      | none => simp
      | some l =>
        simp only [Option.bind_some]
        refine ih (huinner u hulookup) (hlinner l hllookup) fun o h ↦ hleaf o ?_
        rw [valueAt?, hllookup, Option.bind_some, h]

theorem passable_mergedOver {path : List String} {u l : Datum} (hu : Clear path u)
    (hl : Passable path l) : Passable path (mergedOver u l) := by
  induction path generalizing u l with
  | nil => trivial
  | cons key path ih =>
    obtain ⟨uo, rfl, honce, huinner⟩ := hu
    obtain ⟨lo, rfl, hlinner⟩ := hl
    refine ⟨_, by rw [mergedOver], fun inner hlookup ↦ ?_⟩
    rw [lookup_overEntries honce] at hlookup
    cases hulookup : lookup key uo with
    | none =>
      rw [hulookup] at hlookup
      exact hlinner inner hlookup
    | some u =>
      have huclear := huinner u hulookup
      cases hllookup : lookup key lo with
      | none =>
        rw [hulookup, hllookup] at hlookup
        cases hlookup
        exact huclear.passable
      | some l =>
        rw [hulookup, hllookup] at hlookup
        cases hlookup
        exact ih huclear (hlinner l hllookup)

end

/-! ## Setting a value -/

section

variable {path path' : List String} {d v : Datum} {f : Option Datum → Datum}

theorem passable_empty (path : List String) : Passable path (.map []) := by
  cases path with
  | nil => trivial
  | cons key path => exact ⟨[], rfl, by simp⟩

theorem passable_getD {key : String} {o : Entries}
    (h : ∀ inner, lookup key o = some inner → Passable path inner) :
    Passable path ((lookup key o).getD (.map [])) := by
  cases hlookup : lookup key o with
  | none => exact passable_empty path
  | some inner => exact h inner hlookup

theorem alterAt_cons {key : String} {o : Entries} (h : path ≠ []) :
    alterAt f (key :: path) (.map o) =
      .map (put key (alterAt f path ((lookup key o).getD (.map []))) o) := by
  cases path with
  | nil => exact absurd rfl h
  | cons key' path =>
    rw [alterAt]
    exact h

theorem valueAt?_alterAt_self (h : path ≠ []) (hd : Passable path d) :
    valueAt? path (alterAt (fun _ ↦ v) path d) = some v := by
  induction path generalizing d with
  | nil => exact absurd rfl h
  | cons key path ih =>
    obtain ⟨o, rfl, hinner⟩ := hd
    by_cases hpath : path = []
    · subst hpath
      rw [alterAt, valueAt?, lookup_put, if_pos rfl]
      rfl
    · rw [alterAt_cons hpath, valueAt?, lookup_put, if_pos rfl, Option.bind_some]
      exact ih hpath (passable_getD hinner)

theorem Apart.tail {key : String} (h : Apart (key :: path) (key :: path')) : Apart path path' := by
  rw [Apart, List.cons_prefix_cons, List.cons_prefix_cons] at h
  simpa [Apart] using h

theorem Apart.ne_nil (h : Apart path path') : path ≠ [] ∧ path' ≠ [] := by
  constructor
  · rintro rfl
    exact h.1 List.nil_prefix
  · rintro rfl
    exact h.2 List.nil_prefix

theorem valueAt?_alterAt_of_apart (h : Apart path path') (hd : Passable path d) :
    valueAt? path' (alterAt f path d) = valueAt? path' d := by
  induction path generalizing path' d with
  | nil => exact absurd rfl h.ne_nil.1
  | cons key path ih =>
    obtain ⟨o, rfl, hinner⟩ := hd
    cases path' with
    | nil => exact absurd rfl h.ne_nil.2
    | cons key' path' =>
      by_cases hkey : key = key'
      · subst hkey
        have htail := h.tail
        obtain ⟨hpath, hpath'⟩ := htail.ne_nil
        rw [alterAt_cons hpath, valueAt?, valueAt?, lookup_put, if_pos rfl, Option.bind_some,
          ih htail (passable_getD hinner)]
        cases lookup key o with
        | none =>
          cases path' with
          | nil => exact absurd rfl hpath'
          | cons key' path' => rfl
        | some inner => rfl
      · by_cases hpath : path = []
        · subst hpath
          rw [alterAt, valueAt?, valueAt?, lookup_put, if_neg hkey]
        · rw [alterAt_cons hpath, valueAt?, valueAt?, lookup_put, if_neg hkey]

end

/-! ## Comparing data

Data has no decidable equality, as it may hold numbers with a point. What was computed from a text
is compared with what is expected as far as this can be done. -/

mutual

/-- Whether two data can be seen to be the same; two numbers with a point never can. -/
def same : Datum → Datum → Bool
  | .null, .null => true
  | .bool b, .bool b' => b == b'
  | .int n, .int n' => n == n'
  | .text s, .text s' => s == s'
  | .bytes bs, .bytes bs' => bs == bs'
  | .seq items, .seq items' => sameItems items items'
  | .map o, .map o' => sameEntries o o'
  | .other word, .other word' => word == word'
  | _, _ => false

def sameItems : List Datum → List Datum → Bool
  | [], [] => true
  | d :: items, d' :: items' => d.same d' && sameItems items items'
  | _, _ => false

def sameEntries : Entries → Entries → Bool
  | [], [] => true
  | (k, d) :: o, (k', d') :: o' => k.same k' && d.same d' && sameEntries o o'
  | _, _ => false

end

mutual

theorem eq_of_same {d d' : Datum} (h : d.same d' = true) : d = d' := by
  cases d <;> cases d' <;> simp only [same, beq_iff_eq, Bool.false_eq_true] at h <;>
    first
    | rfl
    | rw [h]
    | rw [eq_of_sameItems h]
    | rw [eq_of_sameEntries h]

theorem eq_of_sameItems {items items' : List Datum} (h : sameItems items items' = true) :
    items = items' := by
  cases items <;> cases items' <;>
    simp only [sameItems, Bool.and_eq_true, Bool.false_eq_true] at h
  · rfl
  · rw [eq_of_same h.1, eq_of_sameItems h.2]

theorem eq_of_sameEntries {o o' : Entries} (h : sameEntries o o' = true) : o = o' := by
  cases o with
  | nil =>
    cases o' with
    | nil => rfl
    | cons e' o' => simp [sameEntries] at h
  | cons e o =>
    obtain ⟨k, d⟩ := e
    cases o' with
    | nil => simp [sameEntries] at h
    | cons e' o' =>
      simp only [sameEntries, Bool.and_eq_true] at h
      obtain ⟨⟨hk, hd⟩, ho⟩ := h
      rw [eq_of_same hk, eq_of_same hd, eq_of_sameEntries ho]

end

/-- A computation of data has given what is expected. -/
theorem eq_ok_of_same {ε : Type} {r : Except ε Datum} {d : Datum}
    (h : (r.toOption.any fun d' ↦ d'.same d) = true) : r = .ok d := by
  cases r with
  | ok d' => rw [eq_of_same h]
  | error e => cases h

end Datum

end DiagnosticFeed.Config
