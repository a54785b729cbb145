import ScopedConfig.Dict.Lemmas
import ScopedConfig.RawConfig.Basic

/-! What the operations on a configuration do to its lists of sections.  A section
that is named for the first time goes last, and so do the options that are set in
it, so that a configuration is put together from its lists again. -/
namespace ScopedConfig.RawConfig

theorem ensureSection_of_mem {raw : RawConfig} {name : Text} (h : name ∈ raw.sectionNames) :
    raw.ensureSection name = raw := by
  have : raw.sections.contains name = true := Dict.contains_iff.mpr h
  simp [ensureSection, Dict.ensure, this]

theorem mem_sectionNames_ensureSection (raw : RawConfig) (name : Text) :
    name ∈ (raw.ensureSection name).sectionNames := by
  simp only [sectionNames, ensureSection, Dict.keys_ensure]
  split
  · assumption
  · simp

theorem sectionNames_ensureSection (raw : RawConfig) (name : Text) :
    (raw.ensureSection name).sectionNames =
      if name ∈ raw.sectionNames then raw.sectionNames else raw.sectionNames ++ [name] := by
  by_cases h : name ∈ raw.sectionNames
  · rw [if_pos h, ensureSection_of_mem h]
  · rw [if_neg h]
    exact (raw.sections.keys_ensure name .empty).trans (if_neg h)

@[simp] theorem sectionNames_modifySection (raw : RawConfig) (name : Text)
    (f : Options → Options) : (raw.modifySection name f).sectionNames = raw.sectionNames := by
  simp [sectionNames, modifySection]

theorem modifySection_of_not_mem {raw : RawConfig} {name : Text} (h : name ∉ raw.sectionNames)
    (f : Options → Options) : raw.modifySection name f = raw :=
  congrArg mk (Dict.ext (Dict.Entries.modify_of_not_mem h f))

theorem modifySection_modifySection (raw : RawConfig) (name : Text) (f g : Options → Options) :
    (raw.modifySection name f).modifySection name g =
      raw.modifySection name fun options => g (f options) := by
  simp [modifySection, Dict.modify_modify]

/-- A value that is changed right after it was set might have been set so. -/
theorem modify_set (raw : RawConfig) (name option value : Text) (f : Text → Text) :
    (raw.set name option value).modify name option f = raw.set name option (f value) := by
  simp only [set, modify, modifySection_modifySection, Dict.modify_insert]

/-- Options set one after another in a section that is there are all put into
that section. -/
theorem foldl_set {raw : RawConfig} {name : Text} (h : name ∈ raw.sectionNames)
    (entries : List (Text × Text)) :
    entries.foldl (fun raw (option, value) => raw.set name option value) raw =
      raw.modifySection name fun options =>
        entries.foldl (fun d (option, value) => d.insert option value) options := by
  induction entries generalizing raw with
  | nil =>
    refine congrArg RawConfig.mk (Dict.ext ?_)
    simp [Dict.modify, Dict.Entries.modify]
  | cons entry rest ih =>
    obtain ⟨option, value⟩ := entry
    have hset : raw.set name option value = raw.modifySection name (·.insert option value) := by
      rw [set, ensureSection_of_mem h]
    show rest.foldl (fun raw (option, value) => raw.set name option value)
      (raw.set name option value) = _
    rw [hset, ih (by simpa using h), modifySection_modifySection]
    rfl

/-- A new section and its options go last. -/
theorem toLists_modifySection_ensureSection {raw : RawConfig} {name : Text}
    (h : name ∉ raw.sectionNames) (f : Options → Options) :
    ((raw.ensureSection name).modifySection name f).toLists =
      raw.toLists ++ [(name, (f Dict.empty).entries)] := by
  have hentries : (raw.ensureSection name).sections.entries =
      raw.sections.entries ++ [(name, Dict.empty)] :=
    (Dict.entries_ensure ..).trans (if_neg h)
  have hold : Dict.Entries.modify name f raw.sections.entries = raw.sections.entries :=
    Dict.Entries.modify_of_not_mem h f
  simp only [toLists, modifySection, Dict.modify, hentries]
  rw [Dict.Entries.modify, List.map_append, ← Dict.Entries.modify, hold]
  simp

theorem sectionNames_eq_map_toLists (raw : RawConfig) :
    raw.sectionNames = raw.toLists.map Prod.fst := by
  simp [sectionNames, toLists, Dict.keys, Dict.Entries.keys, Function.comp_def]

/-- Whether sections and options in lists all have names of their own. -/
def DistinctNames (sections : List (Text × List (Text × Text))) : Prop :=
  (sections.map Prod.fst).Nodup ∧ ∀ entry ∈ sections, (entry.2.map Prod.fst).Nodup

/-- **Lists without repeated names are the lists of the configuration that they
make.** -/
theorem toLists_ofLists {sections : List (Text × List (Text × Text))}
    (h : DistinctNames sections) : (ofLists sections).toLists = sections := by
  suffices key : ∀ raw : RawConfig, DistinctNames (raw.toLists ++ sections) →
      (sections.foldl (fun raw entry =>
        entry.2.foldl (fun raw pair => raw.set entry.1 pair.1 pair.2)
          (raw.ensureSection entry.1)) raw).toLists = raw.toLists ++ sections by
    exact key .empty h
  clear h
  induction sections with
  | nil => simp
  | cons entry rest ih =>
    intro raw hraw
    obtain ⟨name, options⟩ := entry
    have absent : name ∉ raw.sectionNames := by
      intro hmem
      have := hraw.1
      rw [List.map_append, List.nodup_append] at this
      exact this.2.2 name (sectionNames_eq_map_toLists raw ▸ hmem) name (by simp) rfl
    have hoptions : (options.map Prod.fst).Nodup := hraw.2 (name, options) (by simp)
    have hnext : (options.foldl (fun raw (option, value) => raw.set name option value)
        (raw.ensureSection name)).toLists = raw.toLists ++ [(name, options)] := by
      rw [foldl_set (mem_sectionNames_ensureSection raw name),
        toLists_modifySection_ensureSection absent,
        Dict.entries_foldl_insert (by simpa [Dict.empty, Dict.Entries.keys] using hoptions)]
      rfl
    show (rest.foldl _ (options.foldl (fun raw (option, value) => raw.set name option value)
      (raw.ensureSection name))).toLists = _
    rw [ih _ (by rw [hnext, List.append_assoc]; exact hraw), hnext, List.append_assoc]
    rfl

/-- Configurations with the same sections and options in the same order are the same. -/
theorem toLists_injective : Function.Injective toLists := by
  intro raw other h
  have hentries : raw.sections.entries = other.sections.entries := by
    refine List.map_injective_iff.mpr ?_ h
    rintro ⟨name, options⟩ ⟨name', options'⟩ heq
    obtain ⟨rfl, hoptions⟩ := Prod.mk.inj heq
    rw [Dict.ext hoptions]
  cases raw
  cases other
  exact congrArg mk (Dict.ext hentries)

theorem distinctNames_toLists (raw : RawConfig) : DistinctNames raw.toLists := by
  constructor
  · rw [← sectionNames_eq_map_toLists]
    exact raw.sections.nodup
  · intro entry hentry
    obtain ⟨⟨name, options⟩, -, rfl⟩ := List.mem_map.mp hentry
    exact options.nodup

/-- An option has the value that stands in the lists of its section. -/
theorem get?_eq_some_iff {raw : RawConfig} {name option value : Text} :
    raw.get? name option = some value ↔
      ∃ options, (name, options) ∈ raw.toLists ∧ (option, value) ∈ options := by
  rw [get?, Option.bind_eq_some_iff]
  constructor
  · rintro ⟨options, hs, ho⟩
    exact ⟨options.entries, List.mem_map.mpr ⟨(name, options), Dict.get?_eq_some_iff.mp hs, rfl⟩,
      Dict.get?_eq_some_iff.mp ho⟩
  · rintro ⟨entries, hs, ho⟩
    obtain ⟨⟨n, options⟩, hmem, e⟩ := List.mem_map.mp hs
    obtain ⟨rfl, rfl⟩ := Prod.mk.inj e
    exact ⟨options, Dict.get?_eq_some_iff.mpr hmem, Dict.get?_eq_some_iff.mpr ho⟩

@[simp] theorem toLists_mapValues (raw : RawConfig) (f : Text → Text) :
    (raw.mapValues f).toLists =
      raw.toLists.map fun (name, options) =>
        (name, options.map fun (option, value) => (option, f value)) := by
  simp [toLists, mapValues, Dict.map, Function.comp_def]

theorem isEmpty_iff {raw : RawConfig} : raw.isEmpty = true ↔ raw = empty := by
  constructor
  · intro h
    exact congrArg RawConfig.mk (Dict.ext (List.isEmpty_iff.mp h))
  · rintro rfl
    rfl

theorem isEmpty_eq_false_of_mem {raw : RawConfig} {name : Text} (h : name ∈ raw.sectionNames) :
    raw.isEmpty = false := by
  rw [← Bool.not_eq_true, isEmpty_iff]
  rintro rfl
  cases h

/-! ## What the operations do to the sections and values -/

theorem mem_sectionNames_ensureSection_iff {raw : RawConfig} {name other : Text} :
    other ∈ (raw.ensureSection name).sectionNames ↔ other = name ∨ other ∈ raw.sectionNames := by
  simp only [sectionNames, ensureSection, Dict.keys_ensure]
  split
  · next h =>
    constructor
    · exact .inr
    · rintro (rfl | ho)
      exacts [h, ho]
  · rw [List.mem_append, List.mem_singleton, or_comm]

theorem mem_sectionNames_set_iff {raw : RawConfig} {name other option value : Text} :
    other ∈ (raw.set name option value).sectionNames ↔
      other = name ∨ other ∈ raw.sectionNames := by
  rw [set, sectionNames_modifySection, mem_sectionNames_ensureSection_iff]

theorem sectionNames_set (raw : RawConfig) (name option value : Text) :
    (raw.set name option value).sectionNames =
      if name ∈ raw.sectionNames then raw.sectionNames else raw.sectionNames ++ [name] := by
  rw [set, sectionNames_modifySection, sectionNames_ensureSection]

@[simp] theorem sectionNames_modify (raw : RawConfig) (name option : Text) (f : Text → Text) :
    (raw.modify name option f).sectionNames = raw.sectionNames :=
  sectionNames_modifySection ..

@[simp] theorem sectionNames_mapValues (raw : RawConfig) (f : Text → Text) :
    (raw.mapValues f).sectionNames = raw.sectionNames :=
  Dict.keys_map ..

theorem get?_eq_getD (raw : RawConfig) (name option : Text) :
    raw.get? name option = ((raw.section? name).getD .empty).get? option := by
  rw [get?]
  cases raw.section? name <;> rfl

theorem optionNames_eq_getD (raw : RawConfig) (name : Text) :
    raw.optionNames name = ((raw.section? name).getD .empty).keys := by
  rw [optionNames]
  cases raw.section? name <;> rfl

/-- A section that is made is as good as none. -/
theorem getD_section?_ensureSection (raw : RawConfig) (name other : Text) :
    ((raw.ensureSection name).section? other).getD .empty =
      (raw.section? other).getD .empty := by
  simp only [section?, ensureSection, Dict.get?_ensure]
  split
  · next h => rw [h, Option.getD_some]
  · rfl

theorem getD_section?_ensureSectionFirst (raw : RawConfig) (name other : Text) :
    ((raw.ensureSectionFirst name).section? other).getD .empty =
      (raw.section? other).getD .empty := by
  simp only [section?, ensureSectionFirst, Dict.get?_ensureFirst]
  split
  · next h => rw [h, Option.getD_some]
  · rfl

@[simp] theorem get?_ensureSection (raw : RawConfig) (name other option : Text) :
    (raw.ensureSection name).get? other option = raw.get? other option := by
  rw [get?_eq_getD, getD_section?_ensureSection, ← get?_eq_getD]

@[simp] theorem get?_ensureSectionFirst (raw : RawConfig) (name other option : Text) :
    (raw.ensureSectionFirst name).get? other option = raw.get? other option := by
  rw [get?_eq_getD, getD_section?_ensureSectionFirst, ← get?_eq_getD]

@[simp] theorem optionNames_ensureSection (raw : RawConfig) (name other : Text) :
    (raw.ensureSection name).optionNames other = raw.optionNames other := by
  rw [optionNames_eq_getD, getD_section?_ensureSection, ← optionNames_eq_getD]

@[simp] theorem optionNames_ensureSectionFirst (raw : RawConfig) (name other : Text) :
    (raw.ensureSectionFirst name).optionNames other = raw.optionNames other := by
  rw [optionNames_eq_getD, getD_section?_ensureSectionFirst, ← optionNames_eq_getD]

theorem get?_eq_none_of_not_mem {raw : RawConfig} {name : Text} (h : name ∉ raw.sectionNames)
    (option : Text) : raw.get? name option = none := by
  have hsection : raw.section? name = none := Dict.get?_eq_none_iff.mpr h
  rw [get?, hsection, Option.bind_none]

theorem get?_set (raw : RawConfig) (name other option option' value : Text) :
    (raw.set name option value).get? other option' =
      if other = name ∧ option' = option then some value else raw.get? other option' := by
  have hensured := get?_ensureSection raw name other option'
  simp only [get?, section?, set, modifySection, Dict.get?_modify] at hensured ⊢
  by_cases h : other = name
  · subst h
    obtain ⟨options, ho⟩ : ∃ options, (raw.ensureSection other).sections.get? other = some options :=
      ⟨_, (Dict.get?_ensure ..).trans (if_pos rfl)⟩
    rw [ho] at hensured ⊢
    rw [← hensured]
    simp [Dict.get?_insert]
  · simp [h, hensured]

/-- An option that is set for the first time goes last in its section. -/
theorem optionNames_set (raw : RawConfig) (name other option value : Text) :
    (raw.set name option value).optionNames other = raw.optionNames other ++
      if other = name ∧ raw.get? other option = none then [option] else [] := by
  simp only [optionNames, get?, section?, set, ensureSection, modifySection, Dict.get?_modify,
    Dict.get?_ensure]
  by_cases h : other = name
  · subst h
    rcases Option.eq_none_or_eq_some (raw.sections.get? other) with hs | ⟨options, hs⟩
    · simp [hs, Dict.keys_insert]
    · by_cases hunset : options.get? option = none
      · simp [hs, Dict.keys_insert, hunset, Dict.get?_eq_none_iff.mp hunset]
      · have hmem : option ∈ options.keys := not_not.mp (mt Dict.get?_eq_none_iff.mpr hunset)
        simp [hs, Dict.keys_insert, hunset, hmem]
  · simp [h]

theorem optionNames_erase (raw : RawConfig) (name other option : Text) :
    (raw.erase name option).optionNames other =
      (raw.optionNames other).filter fun option' => ¬ (other = name ∧ option' = option) := by
  simp only [optionNames, section?, erase, modifySection, Dict.get?_modify]
  by_cases h : other = name
  · subst h
    cases raw.sections.get? other with
    | none => simp
    | some options => simp [Dict.keys_erase]
  · simp [h]

theorem optionNames_eraseSection (raw : RawConfig) (name other : Text) :
    (raw.eraseSection name).optionNames other =
      if other = name then [] else raw.optionNames other := by
  simp only [optionNames, section?, eraseSection, Dict.get?_erase]
  split <;> rfl

@[simp] theorem optionNames_mapValues (raw : RawConfig) (f : Text → Text) (name : Text) :
    (raw.mapValues f).optionNames name = raw.optionNames name := by
  simp only [optionNames, section?, mapValues, Dict.get?_map]
  cases raw.sections.get? name with
  | none => rfl
  | some options => exact Dict.keys_map ..

theorem get?_modify (raw : RawConfig) (name other option option' : Text) (f : Text → Text) :
    (raw.modify name option f).get? other option' =
      if other = name ∧ option' = option then (raw.get? other option').map f
      else raw.get? other option' := by
  simp only [get?, section?, modify, modifySection, Dict.get?_modify]
  by_cases h : other = name
  · subst h
    cases raw.sections.get? other with
    | none => simp
    | some options => simp [Dict.get?_modify]
  · simp [h]

@[simp] theorem sectionNames_erase (raw : RawConfig) (name option : Text) :
    (raw.erase name option).sectionNames = raw.sectionNames :=
  sectionNames_modifySection ..

theorem get?_erase (raw : RawConfig) (name other option option' : Text) :
    (raw.erase name option).get? other option' =
      if other = name ∧ option' = option then none else raw.get? other option' := by
  simp only [get?, section?, erase, modifySection, Dict.get?_modify]
  by_cases h : other = name
  · subst h
    cases raw.sections.get? other with
    | none => simp
    | some options => simp [Dict.get?_erase]
  · simp [h]

theorem sectionNames_eraseSection (raw : RawConfig) (name : Text) :
    (raw.eraseSection name).sectionNames = raw.sectionNames.filter (· ≠ name) :=
  raw.sections.keys_erase name

theorem get?_eraseSection (raw : RawConfig) (name other option : Text) :
    (raw.eraseSection name).get? other option =
      if other = name then none else raw.get? other option := by
  simp only [get?, section?, eraseSection, Dict.get?_erase]
  split <;> rfl

@[simp] theorem get?_mapValues (raw : RawConfig) (f : Text → Text) (name option : Text) :
    (raw.mapValues f).get? name option = (raw.get? name option).map f := by
  simp only [get?, section?, mapValues, Dict.get?_map]
  cases raw.sections.get? name with
  | none => rfl
  | some options => exact Dict.get?_map ..

/-! ## What the operations do to the lists -/

theorem toLists_eraseSection (raw : RawConfig) (name : Text) :
    (raw.eraseSection name).toLists = raw.toLists.filter fun entry => entry.1 ≠ name := by
  simp [toLists, eraseSection, Dict.erase, Dict.Entries.erase, List.filter_map,
    Function.comp_def]

theorem toLists_ensureSectionFirst (raw : RawConfig) (name : Text) :
    (raw.ensureSectionFirst name).toLists =
      if name ∈ raw.toLists.map Prod.fst then raw.toLists else (name, []) :: raw.toLists := by
  rw [← sectionNames_eq_map_toLists, toLists, ensureSectionFirst, Dict.entries_ensureFirst]
  by_cases h : name ∈ raw.sections.keys
  · rw [if_pos h, if_pos (show name ∈ raw.sectionNames from h), toLists]
  · rw [if_neg h, if_neg (show name ∉ raw.sectionNames from h), List.map_cons, toLists]
    rfl

theorem ensureSectionFirst_of_mem {raw : RawConfig} {name : Text} (h : name ∈ raw.sectionNames) :
    raw.ensureSectionFirst name = raw :=
  congrArg RawConfig.mk (Dict.ext ((Dict.entries_ensureFirst ..).trans (if_pos h)))

theorem eraseSection_of_not_mem {raw : RawConfig} {name : Text} (h : name ∉ raw.sectionNames) :
    raw.eraseSection name = raw :=
  congrArg mk (Dict.ext (Dict.Entries.erase_of_not_mem h))

theorem toLists_ensureSection (raw : RawConfig) (name : Text) :
    (raw.ensureSection name).toLists =
      if name ∈ raw.toLists.map Prod.fst then raw.toLists else raw.toLists ++ [(name, [])] := by
  rw [← sectionNames_eq_map_toLists, toLists, ensureSection, Dict.entries_ensure]
  by_cases h : name ∈ raw.sections.keys
  · rw [if_pos h, if_pos (show name ∈ raw.sectionNames from h), toLists]
  · rw [if_neg h, if_neg (show name ∉ raw.sectionNames from h), List.map_append, toLists]
    rfl

theorem sectionNames_ensureSectionFirst (raw : RawConfig) (name : Text) :
    (raw.ensureSectionFirst name).sectionNames =
      if name ∈ raw.sectionNames then raw.sectionNames else name :: raw.sectionNames := by
  rw [sectionNames_eq_map_toLists, toLists_ensureSectionFirst, ← sectionNames_eq_map_toLists]
  split
  · exact raw.sectionNames_eq_map_toLists.symm
  · rw [List.map_cons, ← sectionNames_eq_map_toLists]

theorem get?_toLists (raw : RawConfig) (name : Text) :
    Dict.Entries.get? name raw.toLists = (raw.section? name).map Dict.entries :=
  Dict.Entries.get?_mapValues Dict.entries name raw.sections.entries

theorem toLists_modifySection {raw : RawConfig} {name : Text} {options : Options}
    (h : raw.section? name = some options) (f : Options → Options) :
    (raw.modifySection name f).toLists =
      Dict.Entries.insert name (f options).entries raw.toLists := by
  have hmodify : (raw.modifySection name f).sections.entries =
      Dict.Entries.insert name (f options) raw.sections.entries :=
    Dict.Entries.modify_of_get? raw.sections.nodup h f
  rw [toLists, hmodify, toLists]
  exact (Dict.Entries.insert_mapValues Dict.entries name (f options) raw.sections.entries).symm

/-- A value is set in the options of its section, none if it is new, and the section is set
to these. -/
theorem toLists_set (raw : RawConfig) (name option value : Text) :
    (raw.set name option value).toLists =
      Dict.Entries.insert name
        (Dict.Entries.insert option value ((Dict.Entries.get? name raw.toLists).getD []))
        raw.toLists := by
  rw [get?_toLists]
  cases hsection : raw.section? name with
  | none =>
    have absent : name ∉ raw.sectionNames := Dict.get?_eq_none_iff.mp hsection
    have absent' : name ∉ raw.toLists.map Prod.fst := raw.sectionNames_eq_map_toLists ▸ absent
    rw [set, toLists_modifySection_ensureSection absent, Dict.Entries.insert_of_not_mem absent']
    rfl
  | some options =>
    have present : name ∈ raw.sectionNames := Dict.contains_iff.mp (Option.isSome_of_mem hsection)
    rw [set, ensureSection_of_mem present, toLists_modifySection hsection]
    rfl

/-- A value that is there is set in vain. -/
theorem set_of_get? {raw : RawConfig} {name option value : Text}
    (h : raw.get? name option = some value) : raw.set name option value = raw := by
  obtain ⟨options, hsection, hvalue⟩ := Option.bind_eq_some_iff.mp h
  have hlists : Dict.Entries.get? name raw.toLists = some options.entries := by
    rw [get?_toLists, hsection, Option.map_some]
  refine toLists_injective ?_
  rw [toLists_set, hlists, Option.getD_some, Dict.Entries.insert_of_get? hvalue,
    Dict.Entries.insert_of_get? hlists]

/-- A value that is there is changed by setting it again. -/
theorem modify_of_get? {raw : RawConfig} {name option value : Text}
    (h : raw.get? name option = some value) (f : Text → Text) :
    raw.modify name option f = raw.set name option (f value) := by
  have hmodify := raw.modify_set name option value f
  rwa [set_of_get? h] at hmodify

/-- A value that is set in a section that is there changes the options of that section
alone. -/
theorem toLists_set_of_mem {raw : RawConfig} {name : Text} (h : name ∈ raw.sectionNames)
    (option value : Text) :
    (raw.set name option value).toLists = raw.toLists.map fun (other, options) =>
      (other, if other = name then Dict.Entries.insert option value options else options) := by
  rw [set, ensureSection_of_mem h]
  simp only [toLists, modifySection, Dict.modify, Dict.Entries.modify, List.map_map]
  refine List.map_congr_left fun entry _ => ?_
  obtain ⟨other, options⟩ := entry
  dsimp only [Function.comp_apply]
  split <;> rfl

/-- An option of a section in the lists has no value exactly if the list of its options
lacks it. -/
theorem get?_eq_none_iff_of_mem {raw : RawConfig} {name option : Text}
    {options : List (Text × Text)} (h : (name, options) ∈ raw.toLists) :
    raw.get? name option = none ↔ option ∉ options.map Prod.fst := by
  rw [Option.eq_none_iff_forall_ne_some]
  constructor
  · intro hnone hmem
    obtain ⟨⟨_, value⟩, hpair, rfl⟩ := List.mem_map.mp hmem
    exact hnone value (get?_eq_some_iff.mpr ⟨options, h, hpair⟩)
  · intro habsent value hvalue
    obtain ⟨others, hothers, hpair⟩ := get?_eq_some_iff.mp hvalue
    have hnodup : (Dict.Entries.keys raw.toLists).Nodup := raw.distinctNames_toLists.1
    have hsame := Dict.Entries.get?_of_mem hnodup hothers
    rw [Dict.Entries.get?_of_mem hnodup h, Option.some.injEq] at hsame
    exact habsent (List.mem_map.mpr ⟨_, hsame ▸ hpair, rfl⟩)

/-! ## Sameness -/

theorem mem_sectionNames_iff {raw : RawConfig} {name : Text} :
    name ∈ raw.sectionNames ↔ (raw.section? name).isSome := by
  rw [sectionNames, ← Dict.contains_iff, Dict.contains, section?]

theorem mem_optionNames_iff {raw : RawConfig} {name option : Text} :
    option ∈ raw.optionNames name ↔ (raw.get? name option).isSome := by
  rw [optionNames, get?]
  cases raw.section? name with
  | none => simp
  | some options => exact Dict.contains_iff.symm

/-- Two configurations are the same if they have the same sections and options in the same
order, with the same values. -/
theorem ext_of_views {a b : RawConfig} (hsections : a.sectionNames = b.sectionNames)
    (hoptions : ∀ name, a.optionNames name = b.optionNames name)
    (hvalues : ∀ name option, a.get? name option = b.get? name option) : a = b := by
  have hsection : ∀ name, a.section? name = b.section? name := by
    intro name
    have hsome : (a.section? name).isSome = (b.section? name).isSome := by
      rw [Bool.eq_iff_iff, ← mem_sectionNames_iff, ← mem_sectionNames_iff, hsections]
    have hnames := hoptions name
    have hget := hvalues name
    simp only [optionNames, RawConfig.get?] at hnames hget
    cases ha : a.section? name with
    | none =>
      rw [ha] at hsome
      exact (Option.not_isSome_iff_eq_none.mp (by rw [← hsome]; exact Bool.false_ne_true)).symm
    | some options =>
      rw [ha] at hsome hnames hget
      obtain ⟨other, hb⟩ := Option.isSome_iff_exists.mp hsome.symm
      rw [hb] at hnames hget ⊢
      exact congrArg some (Dict.ext_of_views hnames hget)
  cases a
  cases b
  exact congrArg mk (Dict.ext_of_views hsections hsection)

theorem sameOptions_iff {a b : Options} :
    a.sameBy (fun x y => decide (x = y)) b = true ↔ ∀ option, a.get? option = b.get? option := by
  rw [Dict.sameBy_iff]
  refine forall_congr' fun option => ?_
  cases a.get? option <;> cases b.get? option <;> simp

/-- **Two configurations are the same up to order exactly if they have the same
sections and the same value for every option.** -/
theorem same_iff {a b : RawConfig} :
    a.same b = true ↔ (∀ name, name ∈ a.sectionNames ↔ name ∈ b.sectionNames) ∧
      ∀ name option, a.get? name option = b.get? name option := by
  rw [same, Dict.sameBy_iff]
  simp only [sameOptions_iff, mem_sectionNames_iff, get?, section?, ← forall_and]
  refine forall_congr' fun name => ?_
  cases a.sections.get? name <;> cases b.sections.get? name <;> simp

end ScopedConfig.RawConfig
