import DiagnosticFeed.Proofs.Config.Environment
import DiagnosticFeed.Proofs.Json.Reprint
import DiagnosticFeed.Proofs.Yaml.Mappings

/-!
# The installed library keeps to the laws

Of the entries of the outermost level the installed library finds the sections by their names in any
letter case, and of several entries for one section the first counts. With this, with what it makes
of variables and with its checks it keeps to all laws.
-/

namespace DiagnosticFeed.Config

open Datum (lookup overEntries Once)

/-! ## Arguments -/

/-- What a file gives for a section: the first entry whose key names it in any letter case. -/
def sectionOf? (o : Entries) (name : String) : Option Datum :=
  (o.find? fun e ↦ e.1.text?.bind sectionNamed? == some name).map (·.2)

section

variable {o : Entries} {key name : String}

theorem head?_of_isParameter (h : isParameter key = true) : key.toList.head? = some '_' := by
  have hall : ∀ key ∈ idleParameters ++ namingParameters ++
      [filesParameter, directoriesParameter, argumentsParameter],
      key.toList.head? = some '_' := by decide +kernel
  refine hall key ?_
  simpa [isParameter, or_assoc] using h

theorem not_isParameter_of_isPlain (h : Workings.IsPlain o) :
    ∀ e ∈ o, ∃ key, e.1 = .text key ∧ isParameter key = false := by
  intro e he
  obtain ⟨key, htext, hhead⟩ := h e he
  refine ⟨key, htext, ?_⟩
  by_contra hparameter
  exact hhead (head?_of_isParameter (by simpa using hparameter))

theorem lookup_of_isPlain (h : Workings.IsPlain o) {key : String}
    (hkey : key.toList.head? = some '_') : lookup key o = none := by
  rw [Datum.lookup_eq_none_iff]
  intro e he
  obtain ⟨key', htext, hhead⟩ := h e he
  by_contra hsame
  rw [Bool.not_eq_false, Datum.isText_iff, htext] at hsame
  cases hsame
  exact hhead hkey

theorem parameter?_of_isPlain (h : Workings.IsPlain o) (hkey : key.toList.head? = some '_') :
    parameter? o key = none := by
  rw [parameter?, lookup_of_isPlain h hkey]
  rfl

theorem namingOf_of_isPlain (h : Workings.IsPlain o) : namingOf o = .ok {} := by
  have hnot : lookup ownName o = none := lookup_of_isPlain h rfl
  have hown : (o.any (·.1.isText ownName)) = false := by
    rw [List.any_eq_false]
    intro e he
    rw [Datum.lookup_eq_none_iff.1 hnot e he]
    exact Bool.false_ne_true
  have hnone : ∀ key, key.toList.head? = some '_' → parameter? o key = none :=
    fun key ↦ parameter?_of_isPlain h
  rw [namingOf, hown]
  simp only [mostOf, startOf, placesAt, isSet, separatorOf, filesParameter, argumentsParameter,
    hnone "_env_nested_max_split" rfl, hnone "_env_prefix" rfl, hnone "_env_file" rfl,
    hnone "_cli_parse_args" rfl, hnone "_env_nested_delimiter" rfl, hnone "_case_sensitive" rfl,
    hnone "_env_ignore_empty" rfl, hnone "_env_parse_none_str" rfl]
  rfl

theorem placesAt_of_isPlain (h : Workings.IsPlain o) : placesAt o directoriesParameter = .ok [] := by
  rw [placesAt, parameter?_of_isPlain h rfl]
  rfl

theorem mem_of_sectionNamed? {n : String} (h : sectionNamed? key = some n) : n ∈ sectionNames :=
  List.mem_of_find?_eq_some h

theorem sectionNamed?_of_mem (h : name ∈ sectionNames) : sectionNamed? name = some name := by
  have hall : ∀ name ∈ sectionNames, sectionNamed? name = some name := by decide +kernel
  exact hall name h

theorem notMem_of_sectionNamed? (h : sectionNamed? name = none) : name ∉ sectionNames := by
  intro hmem
  rw [sectionNamed?_of_mem hmem] at h
  cases h

/-- One more entry at the outermost level that names no section is kept. -/
theorem sectionsOf_concat_of_none {d : Datum} (hkey : isParameter key = false)
    (hnamed : sectionNamed? key = none) :
    sectionsOf (o ++ [(.text key, d)]) = sectionsOf o ++ [(.text key, d)] := by
  rw [sectionsOf, List.foldl_append, ← sectionsOf]
  simp [Datum.text?, hkey, hnamed]

/-- One more entry at the outermost level that names a section counts if it is the first. -/
theorem sectionsOf_concat_of_some {d : Datum} (hkey : isParameter key = false)
    (hnamed : sectionNamed? key = some name) :
    sectionsOf (o ++ [(.text key, d)]) =
      if (lookup name (sectionsOf o)).isSome then sectionsOf o
      else sectionsOf o ++ [(.text name, d)] := by
  rw [sectionsOf, List.foldl_append, ← sectionsOf]
  simp [Datum.text?, hkey, hnamed]

theorem lookup_sectionsOf_concat_of_ne {key' : String} {d : Datum} (hkey : isParameter key' = false)
    (hnamed : sectionNamed? key' = some name) (hother : name ≠ key) :
    lookup key (sectionsOf (o ++ [(.text key', d)])) = lookup key (sectionsOf o) := by
  rw [sectionsOf_concat_of_some hkey hnamed]
  split <;> simp [Datum.lookup_append, Datum.lookup_cons, Datum.isText_text, hother]

theorem sectionOf?_concat {d : Datum} (name : String) :
    sectionOf? (o ++ [(.text key, d)]) name =
      (sectionOf? o name).or (if sectionNamed? key = some name then some d else none) := by
  rw [sectionOf?, List.find?_append, sectionOf?]
  by_cases h : sectionNamed? key = some name <;>
    cases o.find? (fun e ↦ e.1.text?.bind sectionNamed? == some name) <;>
      simp [Datum.text?, h]

/-- What is found among the sections: the first entry for a section, or what stands under a key that
names none. -/
theorem lookup_sectionsOf (hkeys : ∀ e ∈ o, ∃ key, e.1 = .text key ∧ isParameter key = false)
    (key : String) : lookup key (sectionsOf o) =
      if key ∈ sectionNames then sectionOf? o key
      else if sectionNamed? key = none then lookup key o else none := by
  induction o using List.reverseRecOn with
  | nil => simp [sectionsOf, sectionOf?]
  | append_singleton o e ih =>
    obtain ⟨k, d⟩ := e
    obtain ⟨key', rfl, hparameter⟩ := hkeys _ (List.mem_append_right _ List.mem_cons_self)
    have ih := ih fun e he ↦ hkeys e (List.mem_append_left _ he)
    rw [sectionOf?_concat]
    by_cases hkey : key ∈ sectionNames
    · rw [if_pos hkey] at ih ⊢
      cases hnamed' : sectionNamed? key' with
      | none =>
        rw [sectionsOf_concat_of_none hparameter hnamed']
        have hdiffers : key' ≠ key := by
          rintro rfl
          exact notMem_of_sectionNamed? hnamed' hkey
        simp [Datum.lookup_append, Datum.lookup_cons, Datum.isText_text, ih, hdiffers]
      | some n =>
        by_cases hn : n = key
        · subst hn
          rw [sectionsOf_concat_of_some hparameter hnamed']
          cases hfound : lookup n (sectionsOf o) <;> rw [hfound] at ih <;>
            simp [← ih, hfound, Datum.lookup_append, Datum.lookup_cons, Datum.isText_text]
        · rw [lookup_sectionsOf_concat_of_ne hparameter hnamed' hn, ih]
          simp [hn]
    · rw [if_neg hkey] at ih ⊢
      cases hnamed' : sectionNamed? key' with
      | none =>
        rw [sectionsOf_concat_of_none hparameter hnamed']
        simp only [Datum.lookup_append, ih, Datum.lookup_cons, Datum.isText_text,
          Datum.lookup_nil]
        by_cases hsame : key' = key
        · simp [← hsame, hnamed']
        · simp [hsame]
      | some n =>
        have hn : n ≠ key := fun h ↦ hkey (h ▸ mem_of_sectionNamed? hnamed')
        rw [lookup_sectionsOf_concat_of_ne hparameter hnamed' hn]
        simp only [ih, Datum.lookup_append, Datum.lookup_cons, Datum.isText_text, Datum.lookup_nil]
        by_cases hdiffers : key' = key
        · simp [← hdiffers, hnamed']
        · simp [hdiffers]

theorem once_sectionsOf (hkeys : ∀ e ∈ o, ∃ key, e.1 = .text key ∧ isParameter key = false)
    (hname : name ∈ sectionNames) : Once name (sectionsOf o) := by
  induction o using List.reverseRecOn with
  | nil => simp [sectionsOf, Once]
  | append_singleton o e ih =>
    obtain ⟨k, d⟩ := e
    obtain ⟨key', rfl, hparameter⟩ := hkeys _ (List.mem_append_right _ List.mem_cons_self)
    have ih := ih fun e he ↦ hkeys e (List.mem_append_left _ he)
    cases hnamed : sectionNamed? key' with
    | none =>
      rw [sectionsOf_concat_of_none hparameter hnamed]
      have hdiffers : key' ≠ name := by
        rintro rfl
        exact notMem_of_sectionNamed? hnamed hname
      rw [Once, List.countP_append]
      simpa [Once, Datum.isText_text, hdiffers] using ih
    | some n =>
      rw [sectionsOf_concat_of_some hparameter hnamed]
      split
      · exact ih
      · next hnone =>
        rw [Once, List.countP_append]
        by_cases hsame : n = name
        · subst hsame
          have hnone : lookup n (sectionsOf o) = none := by simpa using hnone
          have hzero : (sectionsOf o).countP (·.1.isText n) = 0 :=
            List.countP_eq_zero.2 fun e he ↦ by simp [Datum.lookup_eq_none_iff.1 hnone e he]
          rw [hzero]
          simp [Datum.isText_text]
        · simpa [Once, Datum.isText_text, hsame] using ih

/-- **The installed library finds sections by their names.** -/
theorem sorts_sectionsOf (h : Workings.IsPlain o) :
    Workings.installed.Sorts o (sectionsOf o) where
  given key d hd := by
    rw [lookup_sectionsOf (not_isParameter_of_isPlain h)] at hd
    split at hd
    · obtain ⟨e, he, rfl⟩ := Option.map_eq_some_iff.1 hd
      have hmem := List.mem_of_find?_eq_some he
      obtain ⟨key', htext, -⟩ := h e hmem
      have hnamed := List.find?_some he
      simp only [htext, Datum.text?, Option.bind_some, beq_iff_eq] at hnamed
      exact ⟨key', htext ▸ hmem, by simp [Workings.installed, hnamed]⟩
    · split at hd
      · next hstrange =>
        exact ⟨key, Datum.mem_of_lookup hd, by simp [Workings.installed, hstrange]⟩
      · cases hd
  kept key d hd := by
    rw [lookup_sectionsOf (not_isParameter_of_isPlain h)]
    cases hnamed : sectionNamed? key with
    | none =>
      have hmem := notMem_of_sectionNamed? hnamed
      have hname : Workings.installed.nameOf key = key := by simp [Workings.installed, hnamed]
      rw [hname, if_neg hmem, if_pos hnamed]
      intro hnone
      have := Datum.lookup_eq_none_iff.1 hnone _ hd
      rw [Datum.isText_text.2 rfl] at this
      cases this
    | some n =>
      have hname : Workings.installed.nameOf key = n := by simp [Workings.installed, hnamed]
      rw [hname, if_pos (mem_of_sectionNamed? hnamed)]
      intro hnone
      have := List.find?_eq_none.1 (Option.map_eq_none_iff.1 hnone) _ hd
      simp [Datum.text?, hnamed] at this
  once name hname := once_sectionsOf (not_isParameter_of_isPlain h) hname

end

/-! ## The laws -/

theorem Workings.lawful_installed : Workings.installed.Lawful where
  int_int _ := rfl
  bool_bool _ := rfl
  text_text _ := rfl
  path_text _ := rfl
  wellFormed_of_path h := Config.wellFormed_of_path (toOption_eq_some_iff.1 h)
  level_name x := by cases x <;> rfl
  format_name x := by cases x <;> rfl
  nameOf_self name hname := by simp [Workings.installed, sectionNamed?_of_mem hname]
  arguments h := sorts_sectionsOf h
  environment h := (environmentLayer_spec h).2.1

theorem natAbs_lt {n : Int} (h : 0 ≤ n ∧ n ≤ 10000) : n.natAbs < 10 ^ Decimal.maxDigits := by
  have hlimit : 10 ^ 5 ≤ 10 ^ Decimal.maxDigits := Nat.pow_le_pow_right (by decide) (by decide)
  omega

/-- All that is printed is plain: numbers are small, and no key is there twice. -/
theorem plain_toJson {s : Settings} (h : Sound s) : Json.Plain Json.maxDepth s.toJson := by
  have hdebounce := natAbs_lt (h .debounceMs)
  have hmost : s.analyzer.maxDiagnostics.natAbs < 10 ^ Decimal.maxDigits := by
    have hbounds : 1 ≤ s.analyzer.maxDiagnostics ∧ s.analyzer.maxDiagnostics ≤ 10000 :=
      h .maxDiagnostics
    exact natAbs_lt ⟨by omega, hbounds.2⟩
  have hanalyzer : Json.Plain 979 s.analyzer.toJson := by
    refine .obj (by simp) ?_
    simp only [List.forall_mem_cons]
    exact ⟨.str _, .int hdebounce, .int hmost, .str _, .str _, by simp⟩
  have hlog : Json.Plain 979 s.log.toJson := by
    refine .obj (by simp) ?_
    simp only [List.forall_mem_cons]
    refine ⟨.str _, .str _, .obj (by simp) ?_, by simp⟩
    simp only [List.forall_mem_cons]
    exact ⟨.bool _, .str _, by simp⟩
  refine .obj (by simp) ?_
  simp only [List.forall_mem_cons]
  exact ⟨hanalyzer, hlog, by simp⟩

theorem Library.installed_read (s : String) :
    Library.installed.read s = (Yaml.read s).mapError .ofFault :=
  rfl

/-- **The installed library works by its parts.** -/
theorem Library.installed_worksBy : Library.installed.WorksBy Workings.installed where
  distinct_of_read h := Yaml.distinct_of_read (ok_of_mapError h)
  makes_of_build h := by
    change layered _ _ _ = _ at h
    rw [layered] at h
    simp only [bind_eq_ok_iff] at h
    obtain ⟨_, -, _, -, _, -, h⟩ := h
    split at h
    · cases h
    · exact ⟨_, settingsOf_eq_ok_iff.1 (Except.ok.inj h)⟩
  build disk env o hplain hleaves := by
    refine ⟨settingsOf (overEntries (sectionsOf o) (Workings.installed.environment env)), ?_,
      fun s ↦ settingsOf_eq_ok_iff⟩
    change layered disk env o = _
    rw [layered, namingOf_of_isPlain hplain, placesAt_of_isPlain hplain]
    change environmentLayer {} env >>= _ = _
    rw [(environmentLayer_spec hleaves).1]
    rfl
  parse_dump h hdump := by
    cases hdump
    exact Json.parse_writeAt (plain_toJson (Workings.lawful_installed.sound_of_makes h)) .unicode
      (some 0) (by simp [Json.isSpace])

end DiagnosticFeed.Config
