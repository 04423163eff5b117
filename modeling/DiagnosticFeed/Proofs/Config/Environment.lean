import DiagnosticFeed.Proofs.Config.Checks
import Mathlib.Data.List.Induction
import Mathlib.Data.List.Nodup

/-!
# Single settings from the environment

The installed library puts variables for single settings into sections one after the other. As long
as no other variables for settings are there, each setting is read back from its section as the text
of its variable; in the sections nothing is there but known names, each at most once, so bringing
names to their usual letter case changes nothing.
-/

namespace DiagnosticFeed.Config

open Datum (lookup put valueAt? alterAt Passable Clear Once)

theorem Leaf.place_cases (l : Leaf) :
    (∃ name, l.place = [name] ∧ name ∈ fieldNames l.sectionName ∧ name ≠ "file") ∨
      ∃ name, l.place = ["file", name] ∧ name ∈ fieldNames "file" ∧
        "file" ∈ fieldNames l.sectionName := by
  cases l
  case fileEnabled => exact .inr ⟨_, rfl, by decide, by decide⟩
  case file => exact .inr ⟨_, rfl, by decide, by decide⟩
  all_goals exact .inl ⟨_, rfl, by decide, by decide⟩

/-! ## Sections from variables -/

/-- The entries have some of these names as keys, each at most once. -/
def Named (names : List String) (o : Entries) : Prop :=
  ∃ keys : List String, o.map (·.1) = keys.map Datum.text ∧ keys.Nodup ∧ keys ⊆ names

/-- The entries of a section have its names as keys, and those of the section inside it have
theirs. -/
structure Settled (sectionName : String) (o : Entries) : Prop where
  names : Named (fieldNames sectionName) o
  inner : ∀ e ∈ o, e.1 = .text "file" → ∃ inner, e.2 = .map inner ∧ Named (fieldNames "file") inner

section

variable {names : List String} {o : Entries} {key : String} {v : Datum} {sectionName : String}

theorem put_of_lookup_eq_none (h : lookup key o = none) : put key v o = o ++ [(.text key, v)] := by
  induction o with
  | nil => rfl
  | cons e o ih =>
    rw [Datum.lookup_cons] at h
    split at h
    · cases h
    · next hkey => rw [put, if_neg hkey, ih h, List.cons_append]

theorem keys_put_of_lookup_ne_none (h : lookup key o ≠ none) :
    (put key v o).map (·.1) = o.map (·.1) := by
  induction o with
  | nil => exact absurd rfl h
  | cons e o ih =>
    rw [put]
    split
    · rfl
    · next hkey =>
      rw [Datum.lookup_cons, if_neg hkey] at h
      rw [List.map_cons, List.map_cons, ih h]

theorem mem_of_mem_put {e : Datum × Datum} (h : e ∈ put key v o) : e ∈ o ∨ e = (.text key, v) := by
  induction o with
  | nil => exact .inr (List.mem_singleton.1 h)
  | cons e' o ih =>
    rw [put] at h
    split at h
    · next hkey =>
      rcases List.mem_cons.1 h with rfl | h
      · rw [Datum.isText_iff] at hkey
        exact .inr (by rw [hkey])
      · exact .inl (List.mem_cons_of_mem _ h)
    · rcases List.mem_cons.1 h with rfl | h
      · exact .inl List.mem_cons_self
      · exact (ih h).imp_left (List.mem_cons_of_mem _)

theorem lookup_eq_none_of_keys {keys : List String} (hkeys : o.map (·.1) = keys.map Datum.text) :
    lookup key o = none ↔ key ∉ keys := by
  have hmem : Datum.text key ∈ o.map (·.1) ↔ key ∈ keys := by simp [hkeys]
  rw [Datum.lookup_eq_none_iff, ← hmem, List.mem_map]
  constructor
  · rintro h ⟨e, he, htext⟩
    have := h e he
    rw [htext] at this
    simp [Datum.isText] at this
  · intro h e he
    by_contra htext
    rw [Bool.not_eq_false, Datum.isText_iff] at htext
    exact h ⟨e, he, htext⟩

theorem Named.put (h : Named names o) (hkey : key ∈ names) (v : Datum) :
    Named names (put key v o) := by
  obtain ⟨keys, hkeys, hnodup, hnames⟩ := h
  by_cases hlookup : lookup key o = none
  · have hnew := (lookup_eq_none_of_keys hkeys).1 hlookup
    refine ⟨keys ++ [key], ?_, ?_, ?_⟩
    · rw [put_of_lookup_eq_none hlookup, List.map_append, hkeys, List.map_append]
      rfl
    · rw [← List.concat_eq_append]
      exact hnodup.concat hnew
    · simp [hnames, hkey]
  · exact ⟨keys, by rw [keys_put_of_lookup_ne_none hlookup, hkeys], hnodup, hnames⟩

theorem Named.once (h : Named names o) (key : String) : Once key o := by
  obtain ⟨keys, hkeys, hnodup, -⟩ := h
  have hcount : o.countP (·.1.isText key) = keys.count key := by
    have : o.countP (·.1.isText key) = (o.map (·.1)).countP (·.isText key) := by
      rw [List.countP_map]
      rfl
    rw [this, hkeys, List.countP_map, List.count]
    rfl
  rw [Once, hcount]
  exact List.nodup_iff_count_le_one.1 hnodup key

/-- The last entry of a mapping with known names. -/
theorem Named.concat {e : Datum × Datum} (h : Named names (o ++ [e])) :
    Named names o ∧ ∃ key ∈ names, e.1 = .text key ∧ lookup key o = none := by
  obtain ⟨keys, hkeys, hnodup, hnames⟩ := h
  rw [List.map_append] at hkeys
  obtain ⟨before, last, rfl, hbefore, hlast⟩ := List.map_eq_append_iff.1 hkeys.symm
  obtain ⟨key, rfl, hkey⟩ : ∃ key, last = [key] ∧ Datum.text key = e.1 := by
    simpa [List.map_eq_singleton_iff] using hlast
  refine ⟨⟨before, hbefore.symm, hnodup.of_append_left, fun k hk ↦ hnames (by simp [hk])⟩, key,
    hnames (by simp), hkey.symm, ?_⟩
  rw [lookup_eq_none_of_keys hbefore.symm]
  exact fun hmem ↦ List.disjoint_of_nodup_append hnodup hmem List.mem_cons_self

/-- Names that are exact already stay as they are. -/
theorem exactNames_of_named (hexact : ∀ k ∈ names, (names.find? fun n ↦ n == Text.lower k) = some k)
    (h : Named names o) : exactNames names o = o := by
  induction o using List.reverseRecOn with
  | nil => rfl
  | append_singleton o e ih =>
    obtain ⟨hnamed, key, hkey, htext, hnew⟩ := h.concat
    have ih := ih hnamed
    rw [exactNames] at ih
    rw [exactNames, List.foldl_append, ih]
    simp only [List.foldl_cons, List.foldl_nil, htext, Datum.text?, hexact key hkey]
    rw [put_of_lookup_eq_none hnew, ← htext]

theorem exact_fieldNames (hname : sectionName ∈ "file" :: sectionNames) :
    ∀ k ∈ fieldNames sectionName,
      ((fieldNames sectionName).find? fun n ↦ n == Text.lower k) = some k := by
  revert sectionName
  decide +kernel

theorem Settled.exactSection (h : Settled sectionName o) (hname : sectionName ∈ sectionNames) :
    exactSection sectionName (.map o) = .map o := by
  rw [Config.exactSection, exactNames_of_named (exact_fieldNames (List.mem_cons_of_mem _ hname))
    h.names]
  congr 1
  refine (List.map_congr_left fun e he ↦ ?_).trans o.map_id
  split
  · next inner =>
    split
    · obtain ⟨inner', heq, hnamed⟩ := h.inner _ he rfl
      cases heq
      rw [exactNames_of_named (exact_fieldNames List.mem_cons_self) hnamed]
      rfl
    · rfl
  · rfl

theorem Settled.alterAt (h : Settled sectionName o) {l : Leaf} (hl : l.sectionName = sectionName)
    (s : String) : ∃ o', alterAt (fun _ ↦ .text s) l.place (.map o) = .map o' ∧
      Settled sectionName o' := by
  rcases l.place_cases with ⟨name, hplace, hname, hfile⟩ | ⟨name, hplace, hname, hfile⟩
  · rw [hplace]
    refine ⟨_, rfl, h.names.put (hl ▸ hname) _, fun e he htext ↦ ?_⟩
    rcases mem_of_mem_put he with he | rfl
    · exact h.inner e he htext
    · cases htext
      exact absurd rfl hfile
  · rw [hplace]
    have hinner : ∃ inner, (lookup "file" o).getD (.map []) = .map inner ∧
        Named (fieldNames "file") inner := by
      cases hlookup : lookup "file" o with
      | none => exact ⟨[], rfl, [], rfl, List.nodup_nil, List.nil_subset _⟩
      | some d => exact h.inner _ (Datum.mem_of_lookup hlookup) rfl
    obtain ⟨inner, hinner, hnamed⟩ := hinner
    rw [Datum.alterAt_cons (by simp), hinner]
    refine ⟨_, rfl, h.names.put (hl ▸ hfile) _, fun e he htext ↦ ?_⟩
    rcases mem_of_mem_put he with he | rfl
    · exact h.inner e he htext
    · exact ⟨_, rfl, hnamed.put hname _⟩

/-- What leads to the settings of a settled section are mappings with each key at most once. -/
theorem Settled.clear (h : Settled sectionName o) (l : Leaf) : Clear l.place (.map o) := by
  rcases l.place_cases with ⟨name, hplace, -, -⟩ | ⟨name, hplace, -, -⟩ <;> rw [hplace]
  · exact ⟨o, rfl, h.names.once name, fun _ _ ↦ trivial⟩
  · refine ⟨o, rfl, h.names.once "file", fun d hd ↦ ?_⟩
    obtain ⟨inner, rfl, hnamed⟩ := h.inner _ (Datum.mem_of_lookup hd) rfl
    exact ⟨inner, rfl, hnamed.once name, fun _ _ ↦ trivial⟩

end

/-! ## Variables -/

/-- The text that the environment gives for a single setting: that of the last variable for it, in
whichever letter case. -/
def ambient? (env : Environment) (l : Leaf) : Option String :=
  (env.reverse.find? fun e ↦ Text.lower e.1 == l.variable_).map (·.2)

section

variable {env : Environment} {sectionName name : String}

theorem Leaf.apart {l l' : Leaf} (hne : l ≠ l') (hsection : l.sectionName = l'.sectionName) :
    Datum.Apart l.place l'.place := by
  have hall : ∀ l l' : Leaf, l ≠ l' → l.sectionName = l'.sectionName →
      ¬l.place <+: l'.place ∧ ¬l'.place <+: l.place := by decide +kernel
  exact hall l l' hne hsection

theorem fieldPath?_variable (l : Leaf) (hname : sectionName ∈ sectionNames) :
    ({} : Naming).fieldPath? sectionName l.variable_ =
      if l.sectionName = sectionName then some l.place else none := by
  have hall : ∀ l : Leaf, ∀ sectionName ∈ sectionNames,
      ({} : Naming).fieldPath? sectionName l.variable_ =
        if l.sectionName = sectionName then some l.place else none := by decide +kernel
  exact hall l sectionName hname

theorem fieldPath?_of_not_isOurs (h : ¬IsOurs name) (hname : sectionName ∈ sectionNames) :
    ({} : Naming).fieldPath? sectionName name = none := by
  have hstart : ∀ sectionName ∈ sectionNames, "surge_".toList <+:
      (({} : Naming).variable_ sectionName).toList ++ ({} : Naming).separator.toList := by
    decide +kernel
  rw [Naming.fieldPath?, if_neg (by decide), Option.map_eq_none_iff]
  by_contra hsome
  obtain ⟨rest, hrest⟩ := Option.ne_none_iff_exists'.1 hsome
  refine h ?_
  rw [IsOurs, Text.stripStart?_eq_some_iff.1 hrest]
  exact (hstart sectionName hname).trans (List.prefix_append _ _)

/-! The environment under plain names. -/

theorem get?_eq_none_iff {l : Environment} : l.get? name = none ↔ name ∉ l.map (·.1) := by
  induction l with
  | nil => simp [Keyed.get?]
  | cons e l ih =>
    obtain ⟨k, v⟩ := e
    rw [Keyed.get?]
    by_cases h : k = name
    · simp [h]
    · simp [h, ih, Ne.symm h]

theorem keys_set (l : Environment) (name s : String) :
    (l.set name s).map (·.1) =
      if name ∈ l.map (·.1) then l.map (·.1) else l.map (·.1) ++ [name] := by
  induction l with
  | nil => simp [Keyed.set]
  | cons e l ih =>
    obtain ⟨k, v⟩ := e
    rw [Keyed.set]
    by_cases h : k = name
    · simp [h]
    · rw [if_neg h, List.map_cons, ih]
      have hmem : name ∈ k :: l.map (·.1) ↔ name ∈ l.map (·.1) := by simp [Ne.symm h]
      simp only [List.map_cons, hmem]
      split <;> rfl

/-- Under plain names each variable is there once, with the value that counts. -/
theorem environment_spec (env : Environment) :
    ((({} : Naming).environment env).map (·.1)).Nodup ∧
      (∀ name ∈ (({} : Naming).environment env).map (·.1), ∃ e ∈ env, Text.lower e.1 = name) ∧
      ∀ name, (({} : Naming).environment env).get? name =
        (env.reverse.find? fun e ↦ Text.lower e.1 == name).map (·.2) := by
  induction env using List.reverseRecOn with
  | nil => exact ⟨List.nodup_nil, by simp [Naming.environment], fun name ↦ rfl⟩
  | append_singleton env e ih =>
    obtain ⟨hnodup, hmem, hget⟩ := ih
    have hset : ({} : Naming).environment (env ++ [e]) =
        (({} : Naming).environment env).set (Text.lower e.1) e.2 := by
      simp [Naming.environment]
    rw [hset]
    refine ⟨?_, ?_, fun name ↦ ?_⟩
    · rw [keys_set]
      split
      · exact hnodup
      · next hnew =>
        rw [← List.concat_eq_append]
        exact hnodup.concat hnew
    · intro name hname
      rw [keys_set] at hname
      have hcases : name ∈ (({} : Naming).environment env).map (·.1) ∨ name = Text.lower e.1 := by
        split at hname
        · exact .inl hname
        · simpa using hname
      rcases hcases with hold | rfl
      · obtain ⟨e', he', hlower⟩ := hmem name hold
        exact ⟨e', List.mem_append_left _ he', hlower⟩
      · exact ⟨e, by simp, rfl⟩
    · rw [Keyed.get?_set, hget]
      by_cases hname : Text.lower e.1 = name <;> simp [hname]

theorem setField_place {l : Leaf} {s : String} {d : Datum} (hname : sectionName ∈ sectionNames) :
    setField {} sectionName l.place s d = .ok (alterAt (fun _ ↦ .text s) l.place d) := by
  have hall : ∀ l : Leaf, ∀ sectionName ∈ sectionNames,
      isInnerSection {} sectionName l.place = false := by decide +kernel
  rw [setField, hall l sectionName hname]
  rfl

theorem fieldsFrom_concat {o : Entries} (h : fieldsFrom {} env sectionName = .ok (.map o))
    (e : String × String) : fieldsFrom {} (env ++ [e]) sectionName =
      (({} : Naming).fieldPath? sectionName e.1).elim (.ok (.map o)) fun path ↦
        setField {} sectionName path e.2 (.map o) := by
  rw [fieldsFrom] at h ⊢
  rw [List.foldlM_append, h]
  simp only [List.foldlM_cons, List.foldlM_nil, bind_pure]
  cases ({} : Naming).fieldPath? sectionName e.1 <;> rfl

theorem get?_concat_of_ne {e : String × String} (h : e.1 ≠ name) :
    Keyed.get? (env ++ [e]) name = Keyed.get? env name := by
  rw [Keyed.get?_append]
  simp [Keyed.get?, h]

/-- Entries that variables for single settings give for a section: each setting is read back as the
text of its variable. -/
structure GivenBy (env : Environment) (sectionName : String) (o : Entries) : Prop where
  fields : fieldsFrom {} env sectionName = .ok (.map o)
  settled : Settled sectionName o
  values (l : Leaf) (hl : l.sectionName = sectionName) :
    valueAt? l.place (.map o) = (env.get? l.variable_).map .text

theorem GivenBy.nil (sectionName : String) : GivenBy [] sectionName [] where
  fields := rfl
  settled := ⟨⟨[], rfl, List.nodup_nil, List.nil_subset _⟩, by simp⟩
  values l _ := by cases l <;> rfl

/-- A variable for none of the settings of a section gives nothing for it. -/
theorem GivenBy.pass {o : Entries} {e : String × String} (h : GivenBy env sectionName o)
    (hpath : ({} : Naming).fieldPath? sectionName e.1 = none)
    (hother : ∀ l : Leaf, l.sectionName = sectionName → e.1 ≠ l.variable_) :
    GivenBy (env ++ [e]) sectionName o where
  fields := by rw [fieldsFrom_concat h.fields, hpath, Option.elim_none]
  settled := h.settled
  values l hl := by rw [h.values l hl, get?_concat_of_ne (hother l hl)]

/-- A variable for a setting of a section gives its text there. -/
theorem GivenBy.put {o : Entries} {l : Leaf} {s : String} (h : GivenBy env sectionName o)
    (hname : sectionName ∈ sectionNames) (hsection : l.sectionName = sectionName)
    (hnew : env.get? l.variable_ = none) :
    ∃ o', GivenBy (env ++ [(l.variable_, s)]) sectionName o' := by
  obtain ⟨o', halter, hsettled⟩ := h.settled.alterAt hsection s
  refine ⟨o', ?_, hsettled, fun l' hl' ↦ ?_⟩
  · rw [fieldsFrom_concat h.fields, fieldPath?_variable l hname, if_pos hsection, ← halter]
    exact setField_place hname
  · rw [← halter]
    by_cases hsame : l = l'
    · subst hsame
      rw [Datum.valueAt?_alterAt_self l.place_ne_nil (h.settled.clear l).passable,
        Keyed.get?_append, hnew]
      simp [Keyed.get?]
    · rw [Datum.valueAt?_alterAt_of_apart (Leaf.apart hsame (hsection.trans hl'.symm))
        (h.settled.clear l).passable, h.values l' hl',
        get?_concat_of_ne fun h ↦ hsame (Leaf.variable_inj h)]

/-- **What the variables for single settings give for a section.** -/
theorem exists_givenBy (hname : sectionName ∈ sectionNames) (hnodup : (env.map (·.1)).Nodup)
    (hleaves : ∀ e ∈ env, IsOurs e.1 → ∃ l : Leaf, e.1 = l.variable_) :
    ∃ o, GivenBy env sectionName o := by
  induction env using List.reverseRecOn with
  | nil => exact ⟨[], .nil sectionName⟩
  | append_singleton env e ih =>
    rw [List.map_append, List.map_singleton] at hnodup
    obtain ⟨o, h⟩ := ih hnodup.of_append_left fun e he ↦ hleaves e (List.mem_append_left _ he)
    by_cases hours : IsOurs e.1
    · obtain ⟨name, s⟩ := e
      obtain ⟨l, rfl⟩ := hleaves _ (by simp) hours
      by_cases hsection : l.sectionName = sectionName
      · exact h.put hname hsection (get?_eq_none_iff.2 fun hmem ↦
          List.disjoint_of_nodup_append hnodup hmem List.mem_cons_self)
      · refine ⟨o, h.pass ?_ fun l' hl' heq ↦ hsection ?_⟩
        · rw [fieldPath?_variable l hname, if_neg hsection]
        · rw [Leaf.variable_inj heq, hl']
    · exact ⟨o, h.pass (fieldPath?_of_not_isOurs hours hname) fun l' _ heq ↦
        hours (heq ▸ l'.isOurs_variable)⟩

end

/-! ## All sections -/

section

variable {env : Environment} {name : String}

/-- Entries as a section; without entries there is none. -/
def sectionWith : Entries → Option Datum
  | [] => none
  | o => some (.map o)

theorem valueAt?_sectionWith {path : List String} (h : path ≠ []) (o : Entries) :
    (sectionWith o).bind (valueAt? path) = valueAt? path (.map o) := by
  cases o with
  | nil =>
    cases path with
    | nil => exact absurd rfl h
    | cons key path => rfl
  | cons e o => rfl

/-- The sections with these entries. -/
def sectionsWith (os : String → Entries) : Entries :=
  sectionNames.filterMap fun name ↦ (sectionWith (os name)).map fun d ↦ (Datum.text name, d)

theorem get?_section_eq_none (hleaves : NamesLeaves env) (hname : name ∈ sectionNames) :
    (({} : Naming).environment env).get? (({} : Naming).variable_ name) = none := by
  have hours : ∀ name ∈ sectionNames,
      "surge_".toList <+: (({} : Naming).variable_ name).toList := by decide +kernel
  have hdiffers : ∀ l : Leaf, ∀ name ∈ sectionNames,
      ({} : Naming).variable_ name ≠ l.variable_ := by decide +kernel
  rw [get?_eq_none_iff]
  intro hmem
  obtain ⟨e, he, hlower⟩ := (environment_spec env).2.1 _ hmem
  obtain ⟨l, hl⟩ := hleaves e he (by rw [IsOurs, hlower]; exact hours name hname)
  exact hdiffers l name hname (hlower.symm.trans hl)

theorem sectionFrom_eq_ok (hleaves : NamesLeaves env) (hname : name ∈ sectionNames) :
    ∃ o, sectionFrom {} (({} : Naming).environment env) name = .ok (sectionWith o) ∧
      Settled name o ∧ ∀ l : Leaf, l.sectionName = name →
        valueAt? l.place (.map o) = (ambient? env l).map .text := by
  obtain ⟨hnodup, hkeys, hget⟩ := environment_spec env
  have hplain : ∀ e ∈ ({} : Naming).environment env,
      IsOurs e.1 → ∃ l : Leaf, e.1 = l.variable_ := by
    intro e he hours
    obtain ⟨e', he', hlower⟩ := hkeys e.1 (List.mem_map_of_mem he)
    rw [← hlower] at hours ⊢
    exact hleaves e' he' hours
  obtain ⟨o, hfields, hsettled, hvalues⟩ := exists_givenBy hname hnodup hplain
  refine ⟨o, ?_, hsettled, fun l hl ↦ ?_⟩
  · rw [sectionFrom, get?_section_eq_none hleaves hname]
    change sectionFromFields {} (({} : Naming).environment env) name = _
    rw [sectionFromFields, hfields]
    cases o with
    | nil => rfl
    | cons e o => exact congrArg (fun d ↦ Except.ok (some d)) (hsettled.exactSection hname)
  · rw [hvalues l hl, hget]
    rfl

theorem lookup_filterMap (names : List String) (found : String → Option Datum) (key : String) :
    lookup key (names.filterMap fun name ↦ (found name).map fun d ↦ (Datum.text name, d)) =
      if key ∈ names then found key else none := by
  induction names with
  | nil => rfl
  | cons name names ih =>
    rw [List.filterMap_cons]
    cases hfound : found name with
    | none =>
      simp only [Option.map_none, ih, List.mem_cons]
      by_cases h : key = name <;> simp [h, hfound]
    | some d =>
      simp only [Option.map_some, Datum.lookup_cons, Datum.isText_text, ih, List.mem_cons]
      by_cases h : name = key
      · simp [h, ← hfound]
      · simp [h, Ne.symm h]

/-- **What the environment gives**: each single setting as the text of its variable, and nothing
else. -/
theorem environmentLayer_eq_ok (hleaves : NamesLeaves env) :
    ∃ below, environmentLayer {} env = .ok below ∧
      (∀ key, lookup key below ≠ none → key ∈ sectionNames) ∧
      ∀ l : Leaf, Passable l.path (.map below) ∧
        valueAt? l.path (.map below) = (ambient? env l).map .text := by
  choose! os hfrom hsettled hvalues using fun name (hname : name ∈ sectionNames) ↦
    sectionFrom_eq_ok hleaves hname
  have hlookup : ∀ key, lookup key (sectionsWith os) =
      if key ∈ sectionNames then sectionWith (os key) else none :=
    lookup_filterMap sectionNames fun name ↦ sectionWith (os name)
  have hlayer : environmentLayer {} env = .ok (sectionsWith os) := by
    rw [environmentLayer, mapM_eq_ok (g := fun name ↦
      (sectionWith (os name)).map fun d ↦ (Datum.text name, d))]
    · change Except.ok _ = _
      rw [List.filterMap_map]
      rfl
    · intro name hname
      rw [hfrom name hname]
      rfl
  refine ⟨sectionsWith os, hlayer, fun key hkey ↦ ?_, fun l ↦ ?_⟩
  · by_contra hnot
    rw [hlookup, if_neg hnot] at hkey
    exact hkey rfl
  · have hsection := l.sectionName_mem
    have hfound := hlookup l.sectionName
    rw [if_pos hsection] at hfound
    constructor
    · refine ⟨_, rfl, fun inner hinner ↦ ?_⟩
      rw [hfound] at hinner
      have hclear := ((hsettled _ hsection).clear l).passable
      cases hos : os l.sectionName with
      | nil =>
        rw [hos] at hinner
        cases hinner
      | cons e o =>
        rw [hos] at hinner hclear
        cases hinner
        exact hclear
    · rw [Leaf.path, valueAt?, hfound, valueAt?_sectionWith l.place_ne_nil]
      exact hvalues _ hsection l rfl

end

theorem isAmbient_ambient? (env : Environment) (l : Leaf) :
    Workings.IsAmbient env l ((ambient? env l).map .text) := by
  rw [ambient?]
  cases hfind : env.reverse.find? fun e ↦ Text.lower e.1 == l.variable_ with
  | none =>
    intro e he
    simpa using List.find?_eq_none.1 hfind e (List.mem_reverse.2 he)
  | some e =>
    have hname := List.find?_some hfind
    exact ⟨e, List.mem_reverse.1 (List.mem_of_find?_eq_some hfind), by simpa using hname, rfl⟩

/-- **The installed library takes single settings from their variables.** -/
theorem environmentLayer_spec {env : Environment} (hleaves : NamesLeaves env) :
    environmentLayer {} env = .ok (Workings.installed.environment env) ∧
      Workings.Mirrors env (Workings.installed.environment env) ∧
      ∀ l : Leaf, valueAt? l.path (.map (Workings.installed.environment env)) =
        (ambient? env l).map .text := by
  obtain ⟨below, hlayer, hknown, hbelow⟩ := environmentLayer_eq_ok hleaves
  have hbelow' : Workings.installed.environment env = below := by
    change (environmentLayer {} env).toOption.getD [] = below
    rw [hlayer]
    rfl
  rw [hbelow']
  refine ⟨hlayer, ⟨hknown, fun l ↦ (hbelow l).1, fun l ↦ ?_⟩, fun l ↦ (hbelow l).2⟩
  rw [(hbelow l).2]
  exact isAmbient_ambient? env l

end DiagnosticFeed.Config
