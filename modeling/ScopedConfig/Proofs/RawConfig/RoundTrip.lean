import ScopedConfig.Proofs.RawConfig.WrittenLines

/-! # Reading what was written

A configuration is **writable** when its names are names of the text format
(`Writable`); its values may be any texts.  Reading the text of a writable
configuration gives the configuration again, with the default section in front and
without the carriage returns before line feeds (`read_render`).

The proof follows the text from its parts: the lines of an option set it to its
quoted value (`reads_option`), the lines of a section put its options together
(`reads_section`), and all lines make the configuration of the lists of sections
(`reads_sections`).  The quotes go in the end, when all values are unquoted
(`unquote_dropReturns_quoteIfNeeded`).
-/
namespace ScopedConfig.RawConfig
open Text LineReader

/-- **A configuration that the text format can hold**: all of its names are names
of the format. -/
def Writable (raw : RawConfig) : Prop :=
  ∀ entry ∈ raw.toLists, IsSectionName entry.1 ∧ ∀ pair ∈ entry.2, IsOptionName pair.1

instance (raw : RawConfig) : Decidable raw.Writable := by unfold Writable; infer_instance

/-- Sections with the default section moved to the front. -/
def defaultAhead (sections : List (Text × List (Text × Text))) :
    List (Text × List (Text × Text)) :=
  sections.filter (·.1 = defaultSection) ++ sections.filter (·.1 ≠ defaultSection)

/-- Sections with a function applied to every value. -/
def mapListValues (f : Text → Text) (sections : List (Text × List (Text × Text))) :
    List (Text × List (Text × Text)) :=
  sections.map fun (name, options) => (name, options.map fun (option, value) => (option, f value))

/-! ## Quotes -/

/-- A value as it stands in the file is empty or has no blank at its ends, and if
it is not quoted its first line has none at its end. -/
structure IsWritten (value : Text) : Prop where
  starts : StartsSolid value
  ends : EndsSolid value
  firstLine : value.head? = some quote ∨ EndsSolid (value.takeWhile (· ≠ '\n'))

theorem isWritten_quoteIfNeeded (value : Text) : IsWritten (quoteIfNeeded value) := by
  have hquote : isBlank quote = false := by decide
  unfold quoteIfNeeded
  split
  · exact ⟨startsSolid_cons hquote, endsSolid_concat (quote :: value) hquote, .inl rfl⟩
  · next h =>
    simp only [needsQuotes, Bool.or_eq_true, decide_eq_true_eq, not_or, ne_eq,
      Decidable.not_not] at h
    obtain ⟨⟨-, htrim⟩, hfirst⟩ := h
    obtain ⟨hstarts, hends⟩ := trim_eq_self_iff.mp htrim.symm
    exact ⟨hstarts, hends, .inr (trimEnd_eq_self_iff.mp hfirst.symm)⟩

theorem IsWritten.isFirstLine {value first : Text} {others : List Text} (h : IsWritten value)
    (hs : splitOn '\n' value = first :: others) : IsFirstLine first := by
  have hfirst : first = value.takeWhile (· ≠ '\n') := head_splitOn hs
  cases value with
  | nil =>
    rw [hfirst]
    exact ⟨startsSolid_nil, .inr fun _ hc => by cases hc⟩
  | cons c rest =>
    have hc : isBlank c = false := h.starts c rfl
    have hne : c ≠ '\n' := by
      rintro rfl
      exact absurd hc (by decide)
    rw [List.takeWhile_cons_of_pos (by simpa using hne)] at hfirst
    rw [hfirst]
    refine ⟨startsSolid_cons hc, ?_⟩
    rcases h.firstLine with hq | he
    · exact .inl hq
    · exact .inr (by rwa [List.takeWhile_cons_of_pos (by simpa using hne)] at he)

theorem unquote_quoted (value : Text) : unquote (quote :: value ++ [quote]) = value := by
  have htrim : trimEnd (quote :: value ++ [quote]) = quote :: value ++ [quote] :=
    trimEnd_eq_self_iff.mpr (endsSolid_concat (quote :: value) (by decide))
  simp only [unquote, List.cons_append, if_true] at htrim ⊢
  rw [htrim, List.tail_cons, before?_concat, Option.getD_some]

theorem unquote_of_head_ne {value : Text} (h : value.head? ≠ some quote) :
    unquote value = value := by
  cases value with
  | nil => rfl
  | cons c rest => exact if_neg fun e : c = quote => h (by rw [e]; rfl)

/-- Unquoting gives back the value that was quoted where it needed to be. -/
theorem unquote_dropReturns_quoteIfNeeded (value : Text) :
    unquote (dropReturns (quoteIfNeeded value)) = dropReturns value := by
  have hw := isWritten_quoteIfNeeded value
  unfold quoteIfNeeded at hw ⊢
  split
  · rw [dropReturns_concat_of_ne _ (by decide), dropReturns_cons_of_ne _ (by decide)]
    exact unquote_quoted _
  · next h =>
    rw [if_neg h] at hw
    refine unquote_of_head_ne ?_
    have hhead : value.head? ≠ some quote := by
      intro e
      simp [needsQuotes, e] at h
    cases value with
    | nil => exact hhead
    | cons c rest =>
      -- a carriage return is a blank, so the value starts with another character
      have hc : c ≠ '\r' := by
        rintro rfl
        exact absurd (hw.starts '\r' rfl) (by decide)
      rw [dropReturns_cons_of_ne rest hc]
      exact hhead

/-! ## From lines to configurations -/

/-- The value of an option as it is read before it is unquoted. -/
def storedValue (value : Text) : Text := dropReturns (quoteIfNeeded value)

/-- The lines that continue a value are read as the rest of it, one after another. -/
theorem reads_continuations (reader : LineReader) {raw : RawConfig} {option value : Text}
    (hraw : reader.raw = raw.set reader.sectionName option value)
    (hopen : reader.openOption = some option) (others : List Text) :
    Reads reader (others.map fun line => dropReturn (continuationIndent ++ line))
      { reader with
        raw := raw.set reader.sectionName option
          (value ++ others.flatMap fun line => '\n' :: dropReturn line) } := by
  induction others generalizing reader value with
  | nil =>
    rw [List.flatMap_nil, List.append_nil, ← hraw]
    exact .nil reader
  | cons line others ih =>
    refine .cons (step_continuation reader hopen line) ?_
    rw [hraw, modify_set, List.flatMap_cons, ← List.append_assoc]
    exact ih { reader with raw := _ } rfl hopen

/-- The lines of an option set it to its value. -/
theorem reads_option (reader : LineReader) {option : Text} (ho : IsOptionName option) (value : Text) :
    Reads reader ((optionLines option value).map dropReturn)
      { reader with
        raw := reader.raw.set reader.sectionName option (storedValue value),
        openOption := some option } := by
  have hw := isWritten_quoteIfNeeded value
  obtain ⟨first, others, hs⟩ := exists_splitOn_eq_cons '\n' (quoteIfNeeded value)
  have hlast : (quoteIfNeeded value).getLast? ≠ some '\r' := fun e =>
    absurd (hw.ends '\r' e) (by decide)
  rw [optionLines, hs, storedValue, ← flatten_dropReturn_splitOn hlast hs, List.map_cons,
    List.map_map]
  exact .cons (step_firstLine reader ho (hw.isFirstLine hs))
    (reads_continuations { reader with raw := _, openOption := _ } rfl rfl others)

/-- The options of a section are set in the section that the reader is in. -/
theorem reads_options (reader : LineReader) {entries : List (Text × Text)}
    (h : ∀ entry ∈ entries, IsOptionName entry.1) :
    ∃ next, Reads reader
        ((entries.flatMap fun (option, value) => optionLines option value).map dropReturn) next ∧
      next.sectionName = reader.sectionName ∧
      next.raw = entries.foldl
        (fun raw (option, value) => raw.set reader.sectionName option (storedValue value))
        reader.raw := by
  induction entries generalizing reader with
  | nil => exact ⟨reader, .nil reader, rfl, rfl⟩
  | cons entry entries ih =>
    obtain ⟨option, value⟩ := entry
    have hfirst := reads_option reader (h (option, value) List.mem_cons_self) value
    obtain ⟨next, hreads, hname, hraw⟩ :=
      ih { reader with
           raw := reader.raw.set reader.sectionName option (storedValue value),
           openOption := some option }
        (fun e he => h e (List.mem_cons_of_mem _ he))
    refine ⟨next, ?_, hname, hraw⟩
    rw [List.flatMap_cons, List.map_append]
    exact hfirst.append hreads

/-- The lines of a section make the section and set its options. -/
theorem reads_section (reader : LineReader) {name : Text} {options : Options} (hn : IsSectionName name)
    (ho : ∀ entry ∈ options.entries, IsOptionName entry.1) :
    ∃ next, Reads reader ((sectionLines name options).map dropReturn) next ∧
      next.raw = options.entries.foldl
        (fun raw (option, value) => raw.set name option (storedValue value))
        (reader.raw.ensureSection name) := by
  obtain ⟨next, hreads, -, hraw⟩ := reads_options ⟨reader.raw.ensureSection name, name, none⟩ ho
  exact ⟨next, .cons (step_header reader hn) hreads, hraw⟩

/-- What reading makes of sections, before values are unquoted. -/
def putSections (sections : List (Text × Options)) (raw : RawConfig) : RawConfig :=
  sections.foldl
    (fun raw (name, options) =>
      options.entries.foldl
        (fun raw (option, value) => raw.set name option (storedValue value))
        (raw.ensureSection name))
    raw

theorem reads_sections (reader : LineReader) {sections : List (Text × Options)}
    (h : ∀ entry ∈ sections, IsSectionName entry.1 ∧
      ∀ pair ∈ entry.2.entries, IsOptionName pair.1) :
    ∃ next, Reads reader
        ((separated (sections.map fun (name, options) => sectionLines name options)).map
          dropReturn) next ∧
      next.raw = putSections sections reader.raw := by
  induction sections generalizing reader with
  | nil => exact ⟨reader, .nil reader, rfl⟩
  | cons entry sections ih =>
    obtain ⟨name, options⟩ := entry
    obtain ⟨hn, ho⟩ := h (name, options) List.mem_cons_self
    obtain ⟨mid, hmid, hraw⟩ := reads_section reader hn ho
    -- an empty line follows each section but the last one
    cases sections with
    | nil => exact ⟨mid, hmid, hraw⟩
    | cons entry' sections =>
      obtain ⟨next, hreads, hnext⟩ := ih { mid with openOption := none }
        (fun e he => h e (List.mem_cons_of_mem _ he))
      refine ⟨next, ?_, hnext.trans ?_⟩
      · show Reads reader ((sectionLines name options ++ [] :: _).map dropReturn) next
        rw [List.map_append]
        exact hmid.append (.cons (step_nil mid) hreads)
      · show putSections (entry' :: sections) mid.raw = _
        rw [hraw]
        rfl

/-! ## The whole text -/

theorem not_mem_optionLines {option value line : Text} (ho : '\n' ∉ option)
    (h : line ∈ optionLines option value) : '\n' ∉ line := by
  obtain ⟨first, others, hs⟩ := exists_splitOn_eq_cons '\n' (quoteIfNeeded value)
  have hfield : ∀ field ∈ first :: others, '\n' ∉ field := fun field hf =>
    not_mem_of_mem_splitOn (hs ▸ hf)
  rw [optionLines, hs] at h
  rcases List.mem_cons.mp h with rfl | h
  · have hfirst := hfield first List.mem_cons_self
    unfold firstLine
    split <;> simp [ho, hfirst]
  · obtain ⟨field, hf, rfl⟩ := List.mem_map.mp h
    have := hfield field (List.mem_cons_of_mem _ hf)
    simp [continuationIndent, this]

theorem not_mem_sectionLines {name line : Text} {options : Options} (hn : '\n' ∉ name)
    (ho : ∀ entry ∈ options.entries, '\n' ∉ entry.1) (h : line ∈ sectionLines name options) :
    '\n' ∉ line := by
  rcases List.mem_cons.mp h with rfl | h
  · simp [hn]
  · obtain ⟨⟨option, value⟩, he, hl⟩ := List.mem_flatMap.mp h
    exact not_mem_optionLines (ho (option, value) he) hl

theorem mem_separated {blocks : List (List Text)} {line : Text} (h : line ∈ separated blocks) :
    line = [] ∨ ∃ block ∈ blocks, line ∈ block := by
  induction blocks with
  | nil => cases h
  | cons block blocks ih =>
    cases blocks with
    | nil => exact .inr ⟨block, List.mem_cons_self, h⟩
    | cons block' blocks =>
      rcases List.mem_append.mp h with h | h
      · exact .inr ⟨block, List.mem_cons_self, h⟩
      · rcases List.mem_cons.mp h with h | h
        · exact .inl h
        · rcases ih h with h | ⟨b, hb, hl⟩
          · exact .inl h
          · exact .inr ⟨b, List.mem_cons_of_mem _ hb, hl⟩

theorem map_defaultFirst (raw : RawConfig) :
    (raw.defaultFirst.map fun (name, options) => (name, options.entries)) =
      defaultAhead raw.toLists := by
  simp only [defaultFirst, List.partition_eq_filter_filter, defaultAhead, toLists,
    List.map_append, List.filter_map]
  congr 2
  refine List.filter_congr fun entry _ => ?_
  simp

theorem mem_defaultAhead {sections : List (Text × List (Text × Text))}
    {entry : Text × List (Text × Text)} : entry ∈ defaultAhead sections ↔ entry ∈ sections := by
  by_cases h : entry.1 = defaultSection <;> simp [defaultAhead, h]

theorem mem_defaultFirst {raw : RawConfig} {name : Text} {options : Options}
    (h : (name, options) ∈ raw.defaultFirst) : (name, options.entries) ∈ raw.toLists := by
  rw [← mem_defaultAhead, ← map_defaultFirst]
  exact List.mem_map.mpr ⟨(name, options), h, rfl⟩

theorem putSections_empty (sections : List (Text × Options)) :
    putSections sections .empty =
      ofLists (mapListValues storedValue (sections.map fun (name, options) =>
        (name, options.entries))) := by
  simp only [putSections, ofLists, mapListValues, List.foldl_map]

theorem distinctNames_mapListValues {f : Text → Text}
    {sections : List (Text × List (Text × Text))} (h : DistinctNames sections) :
    DistinctNames (mapListValues f sections) := by
  constructor
  · simpa [mapListValues, Function.comp_def] using h.1
  · intro entry hentry
    obtain ⟨⟨name, options⟩, hmem, rfl⟩ := List.mem_map.mp hentry
    simpa [Function.comp_def] using h.2 (name, options) hmem

theorem distinctNames_defaultAhead {sections : List (Text × List (Text × Text))}
    (h : DistinctNames sections) : DistinctNames (defaultAhead sections) := by
  have hperm : (defaultAhead sections).Perm sections := by
    simpa [defaultAhead] using
      List.filter_append_perm (fun entry => decide (entry.1 = defaultSection)) sections
  exact ⟨(hperm.map Prod.fst).nodup_iff.mpr h.1, fun entry he => h.2 entry (hperm.mem_iff.mp he)⟩

/-- The text of a writable configuration is read as the lists of the configuration,
up to the place of the default section and the carriage returns before line
feeds. -/
theorem exists_read_render {raw : RawConfig} (h : raw.Writable) :
    ∃ r, read raw.render = .ok r ∧
      r.toLists = mapListValues dropReturns (defaultAhead raw.toLists) := by
  have hnames : ∀ entry ∈ raw.defaultFirst, IsSectionName entry.1 ∧
      ∀ pair ∈ entry.2.entries, IsOptionName pair.1 := fun entry he =>
    h (entry.1, entry.2.entries) (mem_defaultFirst he)
  have hlines : ∀ line ∈ raw.toLines, '\n' ∉ line := by
    intro line hl
    rcases mem_separated hl with rfl | ⟨block, hb, hl⟩
    · exact List.not_mem_nil
    · obtain ⟨entry, he, rfl⟩ := List.mem_map.mp hb
      obtain ⟨hn, ho⟩ := hnames entry he
      exact not_mem_sectionLines hn.oneLine (fun pair hp => (ho pair hp).oneLine) hl
  obtain ⟨next, hreads, hraw⟩ := reads_sections LineReader.initial hnames
  have hdistinct : DistinctNames (mapListValues storedValue (defaultAhead raw.toLists)) :=
    distinctNames_mapListValues (distinctNames_defaultAhead (distinctNames_toLists raw))
  refine ⟨next.raw.mapValues unquote, ?_, ?_⟩
  · rw [read, render, lines_flatMap_lineFeed hlines, readLines,
      steps_eq_ok_iff.mpr (show Reads _ (raw.toLines.map dropReturn) next from hreads)]
    rfl
  · rw [hraw, LineReader.initial, putSections_empty, map_defaultFirst, toLists_mapValues,
      toLists_ofLists hdistinct]
    simp only [mapListValues, List.map_map]
    refine List.map_congr_left fun entry _ => ?_
    simp [storedValue, unquote_dropReturns_quoteIfNeeded]

theorem mem_mapListValues {f : Text → Text} {sections : List (Text × List (Text × Text))}
    {name : Text} {options : List (Text × Text)} :
    (name, options) ∈ mapListValues f sections ↔
      ∃ entries, (name, entries) ∈ sections ∧
        options = entries.map fun (option, value) => (option, f value) := by
  simp only [mapListValues, List.mem_map, Prod.exists, Prod.mk.injEq]
  constructor
  · rintro ⟨_, entries, hmem, rfl, rfl⟩
    exact ⟨entries, hmem, rfl⟩
  · rintro ⟨entries, hmem, rfl⟩
    exact ⟨name, entries, hmem, rfl, rfl⟩

/-- The place of the default section does not matter to which sections there are. -/
theorem mem_sectionNames_of_toLists_eq {raw r : RawConfig} {f : Text → Text}
    (hr : r.toLists = mapListValues f (defaultAhead raw.toLists)) {name : Text} :
    name ∈ r.sectionNames ↔ name ∈ raw.sectionNames := by
  rw [sectionNames_eq_map_toLists, sectionNames_eq_map_toLists, hr, mapListValues, List.map_map]
  simp [mem_defaultAhead]

/-- The place of the default section does not matter to the value of an option. -/
theorem get?_of_toLists_eq {raw r : RawConfig} {f : Text → Text}
    (hr : r.toLists = mapListValues f (defaultAhead raw.toLists)) (name option : Text) :
    r.get? name option = (raw.get? name option).map f := by
  apply Option.ext
  intro value
  rw [get?_eq_some_iff, hr, Option.map_eq_some_iff]
  constructor
  · rintro ⟨options, hs, ho⟩
    obtain ⟨entries, hmem, rfl⟩ := mem_mapListValues.mp hs
    obtain ⟨⟨o, old⟩, hentry, e⟩ := List.mem_map.mp ho
    obtain ⟨rfl, rfl⟩ := Prod.mk.inj e
    exact ⟨old, get?_eq_some_iff.mpr ⟨entries, mem_defaultAhead.mp hmem, hentry⟩, rfl⟩
  · rintro ⟨old, hget, rfl⟩
    obtain ⟨entries, hmem, hentry⟩ := get?_eq_some_iff.mp hget
    exact ⟨_, mem_mapListValues.mpr ⟨entries, mem_defaultAhead.mpr hmem, rfl⟩,
      List.mem_map.mpr ⟨(option, old), hentry, rfl⟩⟩

/-- **The text format keeps a configuration.**  The text of a writable
configuration is read without an error, as the same sections and options in the
same order, but for the default section in front; every value is read without the
carriage returns right before line feeds, so that a value without such a carriage
return is read as it was. -/
theorem read_render {raw : RawConfig} (h : raw.Writable) :
    ∃ r, read raw.render = .ok r ∧
      r.toLists = mapListValues dropReturns (defaultAhead raw.toLists) ∧
      ∀ name option value, raw.get? name option = some value →
        ¬ ['\r', '\n'] <:+: value → r.get? name option = some value := by
  obtain ⟨r, hread, hlists⟩ := exists_read_render h
  refine ⟨r, hread, hlists, fun name option value hget hvalue => ?_⟩
  rw [get?_of_toLists_eq hlists, hget, Option.map_some, dropReturns_eq_self_iff.mpr hvalue]

/-- A configuration whose values hold what could be mistaken for something else. -/
def intricate : RawConfig :=
  ofLists
    [("app#0", [("start", "\"a\r\n[x] = \"\n\n  # b "), ("stop@n1", "\r;\n\t\rk=v")]),
      ("DEFAULT", [("id", ""), ("a b", " \n")]), ("[x", [])]

theorem read_render_intricate :
    intricate.Writable ∧
      ∃ r, read intricate.render = .ok r ∧
        r.toLists =
          ([("DEFAULT", [("id", ""), ("a b", " \n")]),
            ("app#0", [("start", "\"a\n[x] = \"\n\n  # b "), ("stop@n1", "\r;\n\t\rk=v")]),
            ("[x", [])] : List (Text × List (Text × Text))) ∧
        r.get? "app#0" "stop@n1" = some "\r;\n\t\rk=v" := by
  have hw : intricate.Writable := by decide
  obtain ⟨r, hread, hlists, hget⟩ := read_render hw
  exact ⟨hw, r, hread, hlists.trans (by decide), hget _ _ _ (by decide) (by decide)⟩

end ScopedConfig.RawConfig
