import ScopedConfig.Proofs.RawConfig.RoundTrip

/-! # Which configurations survive the text format

The names in a configuration that was read are names of the text format: the reader
only ever holds such names (`NamesFit`), whatever lines it takes.  So a
configuration with another name is not read back from its text, and one with names
of the format is read back up to the carriage returns before line feeds.  Together
this says exactly which configurations come back the same
(`exists_same_read_render_iff`).
-/
namespace ScopedConfig.RawConfig
open Text LineReader

theorem writable_iff {raw : RawConfig} :
    raw.Writable ↔ (∀ name ∈ raw.sectionNames, IsSectionName name) ∧
      ∀ name option, (raw.get? name option).isSome → IsOptionName option := by
  constructor
  · refine fun h => ⟨fun name hname => ?_, fun name option hset => ?_⟩
    · rw [sectionNames_eq_map_toLists] at hname
      obtain ⟨entry, he, rfl⟩ := List.mem_map.mp hname
      exact (h entry he).1
    · obtain ⟨value, hget⟩ := Option.isSome_iff_exists.mp hset
      obtain ⟨options, hs, ho⟩ := get?_eq_some_iff.mp hget
      exact (h (name, options) hs).2 (option, value) ho
  · rintro ⟨hsections, hoptions⟩ ⟨name, options⟩ he
    refine ⟨hsections name ?_, fun ⟨option, value⟩ hp => hoptions name option ?_⟩
    · rw [sectionNames_eq_map_toLists]
      exact List.mem_map.mpr ⟨(name, options), he, rfl⟩
    · exact Option.isSome_iff_exists.mpr ⟨value, get?_eq_some_iff.mpr ⟨options, he, hp⟩⟩

/-! ## Writable configurations stay writable -/

section Operations
variable {raw : RawConfig} (h : raw.Writable)
include h

/-- What gets no names but names of the format stays writable. -/
theorem Writable.of_names {other : RawConfig}
    (hs : ∀ name ∈ other.sectionNames, IsSectionName name ∨ name ∈ raw.sectionNames)
    (ho : ∀ name option, (other.get? name option).isSome →
      IsOptionName option ∨ (raw.get? name option).isSome) : other.Writable := by
  obtain ⟨hsections, hoptions⟩ := writable_iff.mp h
  exact writable_iff.mpr ⟨fun name hname => (hs name hname).elim id (hsections name),
    fun name option hset => (ho name option hset).elim id (hoptions name option)⟩

theorem Writable.ensureSection {name : Text} (hn : IsSectionName name) :
    (raw.ensureSection name).Writable := by
  refine h.of_names (fun other hother => ?_) fun other option hset => .inr ?_
  · rcases mem_sectionNames_ensureSection_iff.mp hother with rfl | hold
    exacts [.inl hn, .inr hold]
  · rwa [get?_ensureSection] at hset

theorem Writable.set {name option : Text} (hn : IsSectionName name) (ho : IsOptionName option)
    (value : Text) : (raw.set name option value).Writable := by
  refine h.of_names (fun other hother => ?_) fun other option' hset => ?_
  · rcases mem_sectionNames_set_iff.mp hother with rfl | hold
    exacts [.inl hn, .inr hold]
  · rw [get?_set] at hset
    split at hset
    · next heq => exact .inl (heq.2 ▸ ho)
    · exact .inr hset

theorem Writable.modify (name option : Text) (f : Text → Text) :
    (raw.modify name option f).Writable := by
  refine h.of_names (fun other hother => .inr ?_) fun other option' hset => .inr ?_
  · rwa [sectionNames_modify] at hother
  · rw [get?_modify] at hset
    split at hset
    · rwa [Option.isSome_map] at hset
    · exact hset

theorem Writable.mapValues (f : Text → Text) : (raw.mapValues f).Writable := by
  refine h.of_names (fun other hother => .inr ?_) fun other option hset => .inr ?_
  · rwa [sectionNames_mapValues] at hother
  · rwa [get?_mapValues, Option.isSome_map] at hset

/-- Sameness does not look at more than names and values. -/
theorem Writable.of_same {other : RawConfig} (hs : raw.same other = true) : other.Writable := by
  obtain ⟨hnames, hvalues⟩ := same_iff.mp hs
  refine h.of_names (fun name hname => .inr ?_) fun name option hset => .inr ?_
  · exact (hnames name).mpr hname
  · rwa [hvalues]

end Operations

/-! ## Names that are read -/

/-- What a line names, if it names anything, is a name of the format. -/
def Line.NamesFit : Line → Prop
  | .header name => IsSectionName name
  | .assignment option _ => IsOptionName option
  | .blank | .comment => True

/-- A name between blanks on a line is a name of the format. -/
theorem isSectionName_trim {text : Text} (hne : trim text ≠ []) (h : '\n' ∉ text) :
    IsSectionName (trim text) :=
  ⟨hne, trim_trim text, fun hn => h (mem_of_mem_trim hn)⟩

theorem namesFit_of_readHeader {inner : Text} {said : Line} (hl : '\n' ∉ inner)
    (h : readHeader inner = .ok said) : said.NamesFit := by
  unfold readHeader at h
  split at h
  · cases h
  · cases h
  · next name hne hname =>
    obtain rfl := Except.ok.inj h
    obtain ⟨text, htext, rfl⟩ := Option.map_eq_some_iff.mp hname
    have hsub : '\n' ∉ text := by
      rw [before?_eq_some htext] at hl
      exact fun hn => hl (List.mem_append_left _ hn)
    exact isSectionName_trim hne hsub

theorem namesFit_of_readAssignment {line : Text} {said : Line} (hl : '\n' ∉ line)
    (hmark : ∀ c ∈ lineMarks, (trim line).head? ≠ some c)
    (h : readAssignment line = .ok said) : said.NamesFit := by
  unfold readAssignment at h
  split at h
  · cases h
  · next before after hcut =>
    obtain ⟨rfl, hequals⟩ := cut_eq_some hcut
    dsimp only at h
    split at h
    · cases h
    · next hne =>
      obtain rfl := Except.ok.inj h
      refine ⟨isSectionName_trim hne fun hn => hl (List.mem_append_left _ hn),
        fun he => hequals (mem_of_mem_trim he), fun c hc => ?_⟩
      rw [← head?_trim_append hne]
      exact hmark c hc

theorem namesFit_of_read {line : Text} {said : Line} (hl : '\n' ∉ line)
    (h : Line.read line = .ok said) : said.NamesFit := by
  unfold Line.read at h
  split at h
  · obtain rfl := Except.ok.inj h
    trivial
  · next c inner htrim =>
    split at h
    · obtain rfl := Except.ok.inj h
      trivial
    · next hcomment =>
      split at h
      · have hinner : '\n' ∉ inner := fun hn =>
          hl (mem_of_mem_trim (htrim ▸ List.mem_cons_of_mem c hn))
        exact namesFit_of_readHeader hinner h
      · next hheader =>
        -- the marks have been told apart from the first character by now
        refine namesFit_of_readAssignment hl (fun mark hmark e => ?_) h
        rw [htrim, List.head?_cons, Option.some.injEq] at e
        subst e
        simp only [lineMarks, List.mem_cons, List.not_mem_nil, or_false] at hmark
        simp_all

/-- All names that a reader holds are names of the format. -/
structure NamesFit (reader : LineReader) : Prop where
  raw : reader.raw.Writable
  sectionName : IsSectionName reader.sectionName

theorem NamesFit.step {reader next : LineReader} {line : Text} (h : NamesFit reader)
    (hl : '\n' ∉ line) (hstep : reader.step line = .ok next) : NamesFit next := by
  unfold LineReader.step at hstep
  split at hstep
  · obtain rfl := Except.ok.inj hstep
    exact ⟨h.raw.modify _ _ _, h.sectionName⟩
  · cases hread : Line.read line with
    | error fault =>
      rw [hread] at hstep
      cases hstep
    | ok said =>
      rw [hread] at hstep
      obtain rfl := Except.ok.inj hstep
      have hfit := namesFit_of_read hl hread
      cases said with
      | blank => exact ⟨h.raw, h.sectionName⟩
      | comment => exact h
      | header name => exact ⟨h.raw.ensureSection hfit, hfit⟩
      | assignment option value => exact ⟨h.raw.set h.sectionName hfit value, h.sectionName⟩

theorem NamesFit.reads {reader last : LineReader} {ls : List Text} (h : NamesFit reader)
    (hl : ∀ line ∈ ls, '\n' ∉ line) (hreads : Reads reader ls last) : NamesFit last := by
  induction hreads with
  | nil => exact h
  | cons hstep _ ih =>
    exact ih (h.step (hl _ List.mem_cons_self) hstep)
      fun line hline => hl line (List.mem_cons_of_mem _ hline)

/-- **What is read can be written.** -/
theorem writable_of_read {text : Text} {raw : RawConfig} (h : read text = .ok raw) :
    raw.Writable := by
  obtain ⟨last, hreads, rfl⟩ := exists_reads_of_read h
  have hinitial : NamesFit .initial := ⟨by decide, by decide⟩
  have hlast := hinitial.reads (fun _ hline => not_mem_of_mem_lines hline) hreads
  exact hlast.raw.mapValues unquote

/-! ## Configurations that come back -/

/-- **A configuration that the text format keeps as it is**: its names are names of
the format, and no value has a carriage return right before a line feed. -/
structure Lossless (raw : RawConfig) : Prop where
  writable : raw.Writable
  noReturns : ∀ entry ∈ raw.toLists, ∀ pair ∈ entry.2, ¬ ['\r', '\n'] <:+: pair.2

instance (raw : RawConfig) : Decidable raw.Lossless :=
  decidable_of_iff
    (raw.Writable ∧ ∀ entry ∈ raw.toLists, ∀ pair ∈ entry.2, ¬ ['\r', '\n'] <:+: pair.2)
    ⟨fun ⟨hw, hr⟩ => ⟨hw, hr⟩, fun h => ⟨h.writable, h.noReturns⟩⟩

theorem Lossless.noReturns_of_get? {raw : RawConfig} (h : raw.Lossless) {name option value : Text}
    (hget : raw.get? name option = some value) : ¬ ['\r', '\n'] <:+: value := by
  obtain ⟨options, hs, ho⟩ := get?_eq_some_iff.mp hget
  exact h.noReturns (name, options) hs (option, value) ho

/-- **The text of a configuration is read back as the same configuration exactly if
the text format keeps it.** -/
theorem exists_same_read_render_iff {raw : RawConfig} :
    (∃ r, read raw.render = .ok r ∧ r.same raw = true) ↔ raw.Lossless := by
  constructor
  · rintro ⟨r, hread, hsame⟩
    -- what comes back has names of the format, and so has what it is the same as
    have hw : raw.Writable := (writable_of_read hread).of_same hsame
    obtain ⟨r', hread', hlists⟩ := exists_read_render hw
    obtain rfl : r = r' := Except.ok.inj (hread.symm.trans hread')
    refine ⟨hw, fun (name, options) hs (option, value) ho => ?_⟩
    have hget : raw.get? name option = some value := get?_eq_some_iff.mpr ⟨options, hs, ho⟩
    have hvalue := (same_iff.mp hsame).2 name option
    rw [get?_of_toLists_eq hlists, hget, Option.map_some, Option.some.injEq] at hvalue
    exact dropReturns_eq_self_iff.mp hvalue
  · intro h
    obtain ⟨r, hread, hlists⟩ := exists_read_render h.writable
    refine ⟨r, hread, same_iff.mpr ⟨fun name => mem_sectionNames_of_toLists_eq hlists, ?_⟩⟩
    intro name option
    rw [get?_of_toLists_eq hlists]
    cases hget : raw.get? name option with
    | none => rfl
    | some value =>
      rw [Option.map_some, dropReturns_eq_self_iff.mpr (h.noReturns_of_get? hget)]

/-- What is read back from the text of a configuration is the same exactly if the text
format keeps the configuration. -/
theorem same_of_read_render_iff {raw r : RawConfig} (hread : read raw.render = .ok r) :
    r.same raw = true ↔ raw.Lossless := by
  rw [← exists_same_read_render_iff]
  constructor
  · exact fun hsame => ⟨r, hread, hsame⟩
  · rintro ⟨r', hread', hsame⟩
    obtain rfl : r = r' := Except.ok.inj (hread.symm.trans hread')
    exact hsame

end ScopedConfig.RawConfig
