import ScopedConfig.Proofs.Store.Inertness
import ScopedConfig.RawConfig.Lemmas

/-! # The evaluated configuration is what evaluation says

The options of a section are evaluated one after another, and one whose bare form has a
text already is passed over.  It would come to the same text again, so what is passed
over makes no difference: the evaluated section is made of the texts of all options in
order (`result_evaluatedOptions`), and the evaluated configuration of the evaluated
sections, unless there is an option that cannot be evaluated (`result_evaluated`).  What
a dictionary made of a list holds then gives the names and their order, and the value of
each (`evaluated_agrees`).
-/
namespace ScopedConfig

theorem RawConfig.mem_optionNames_iff_exists {raw : RawConfig} {name option : Text} :
    option ∈ raw.optionNames name ↔
      ∃ options, raw.section? name = some options ∧ option ∈ options.keys := by
  rw [optionNames]
  cases raw.section? name <;> simp

namespace LinkedStore

variable {linked : LinkedStore} {key : Key} {node name : Text}

/-! ## One option -/

/-- **A key comes to nothing for a node**: what it is evaluated from is missing. -/
def lacks (linked : LinkedStore) (key : Key) (node : Text) : Bool :=
  match (linked.evaluateAny key node).result with
  | .ok _ => false
  | .error e => e.isMissing

/-- The text that an evaluated configuration shows for a key. -/
def shownText? (linked : LinkedStore) (key : Key) (node : Text) : Option Text :=
  (linked.evaluatedText key node).result.toOption.join

/-- An option that is shown has the text that it is evaluated to, or its raw text if the
evaluation has to wait. -/
theorem evaluatedText_eq_ok {text? : Option Text}
    (h : (linked.evaluatedText key node).result = .ok text?) :
    match (linked.evaluateAny key node).result with
    | .ok text => text? = some text
    | .error e =>
      if e.isMissing then text? = none
      else e.isPostponed = true ∧
        ∃ raw, linked.store.descope key node = .ok raw ∧ text? = some raw := by
  unfold evaluatedText at h
  cases hany : (linked.evaluateAny key node).result with
  | ok text =>
    simp only [hany] at h
    exact (Except.ok.inj h).symm
  | error e =>
    simp only [hany] at h
    dsimp only
    split
    · next hmissing =>
      rw [if_pos hmissing] at h
      exact (Except.ok.inj h).symm
    · next hmissing =>
      rw [if_neg hmissing] at h
      split at h
      · next hpostponed =>
        refine ⟨hpostponed, ?_⟩
        cases hraw : linked.store.descope key node with
        | ok raw =>
          rw [hraw] at h
          exact ⟨raw, rfl, (Except.ok.inj h).symm⟩
        | error e' =>
          rw [hraw] at h
          cases h
      · cases h

theorem isSome_of_evaluatedText {text? : Option Text}
    (h : (linked.evaluatedText key node).result = .ok text?) :
    text?.isSome = !linked.lacks key node := by
  have hcases := evaluatedText_eq_ok h
  unfold lacks
  split at hcases
  · next text hany => rw [hcases]; rfl
  · next e hany =>
    split at hcases
    · next hmissing => rw [hcases, hmissing]; rfl
    · next hmissing =>
      obtain ⟨-, raw, -, rfl⟩ := hcases
      simp [hmissing]

theorem shownText?_of_ok {text? : Option Text}
    (h : (linked.evaluatedText key node).result = .ok text?) :
    linked.shownText? key node = text? := by
  rw [shownText?, h]
  rfl

/-! ## The options of a section -/

/-- The entry that a stored option has in the evaluated section: its bare form, with the
text of that. -/
def shown? (linked : LinkedStore) (name node option : Text) : Option (Text × Text) :=
  let base := Key.baseOption ⟨name, option⟩
  (linked.shownText? ⟨name, base⟩ node).map fun text => (base, text)

theorem shown?_of_ok {option : Text} {text? : Option Text}
    (h : (linked.evaluatedText (Key.withoutScope ⟨name, option⟩) node).result = .ok text?) :
    linked.shown? name node option =
      text?.map fun text => (Key.baseOption ⟨name, option⟩, text) := by
  rw [shown?, ← shownText?_of_ok h]
  rfl

/-- **The section that options are shown as.** -/
def shownOptions (linked : LinkedStore) (name node : Text) (options : List Text) : Options :=
  Dict.ofList (options.filterMap (linked.shown? name node))

/-- **The error of the first of some keys that cannot be evaluated.** -/
def firstError? (linked : LinkedStore) (node : Text) (keys : List Key) : Option EvalError :=
  keys.findSome? fun key => (linked.evaluatedText key node).error?

theorem firstError?_cons (linked : LinkedStore) (node : Text) (key : Key) (keys : List Key) :
    linked.firstError? node (key :: keys) =
      (linked.evaluatedText key node).error?.or (linked.firstError? node keys) := by
  rw [firstError?, List.findSome?_cons]
  cases (linked.evaluatedText key node).error? <;> rfl

theorem firstError?_append (linked : LinkedStore) (node : Text) (keys more : List Key) :
    linked.firstError? node (keys ++ more) =
      (linked.firstError? node keys).or (linked.firstError? node more) :=
  List.findSome?_append

theorem firstError?_eq_none_iff {keys : List Key} :
    linked.firstError? node keys = none ↔
      ∀ key ∈ keys, ∃ text?, (linked.evaluatedText key node).result = .ok text? := by
  simp only [firstError?, List.findSome?_eq_none_iff, Outcome.error?_eq_none_iff]

/-- The stored options of a section without their scopes, each as often as it comes. -/
def bareOptions (name : Text) (options : List Text) : List Key :=
  options.map fun option => Key.withoutScope ⟨name, option⟩

/-- **Evaluated options are those that are shown**, unless one of them cannot be
evaluated.  What is done already has been evaluated to what it is. -/
theorem result_evaluatedOptions {done : Options} (options : List Text)
    (hdone : ∀ option text, done.get? option = some text →
      (linked.evaluatedText ⟨name, option⟩ node).result = .ok (some text)) :
    (linked.evaluatedOptions name node done options).result =
      match linked.firstError? node (bareOptions name options) with
      | some e => .error e
      | none => .ok ((options.filterMap (linked.shown? name node)).foldl
          (fun d (option, text) => d.insert option text) done) := by
  induction options generalizing done with
  | nil => rfl
  | cons option rest ih =>
    have hkey : Key.withoutScope ⟨name, option⟩ = ⟨name, Key.baseOption ⟨name, option⟩⟩ := rfl
    rw [bareOptions, List.map_cons, firstError?_cons, ← bareOptions, evaluatedOptions, hkey]
    dsimp only
    by_cases hcontains : done.contains (Key.baseOption ⟨name, option⟩) = true
    -- its text is there already and would be put there again
    · obtain ⟨text, htext⟩ := Option.isSome_iff_exists.mp hcontains
      have hagain := hdone _ _ htext
      have hentry : linked.shown? name node option =
          some (Key.baseOption ⟨name, option⟩, text) := shown?_of_ok hagain
      have hagain' : done.insert (Key.baseOption ⟨name, option⟩) text = done :=
        Dict.insert_of_get? htext
      rw [if_pos hcontains, ih hdone, Outcome.error?_eq_none_iff.mpr ⟨_, hagain⟩, Option.none_or,
        List.filterMap_cons_some hentry, List.foldl_cons, hagain']
    · rw [if_neg hcontains, Outcome.result_bind]
      cases hevaluated : (linked.evaluatedText ⟨name, Key.baseOption ⟨name, option⟩⟩ node).result with
      | error e => rw [Outcome.error?_eq_some_iff.mpr hevaluated]; rfl
      | ok text? =>
        rw [Outcome.error?_eq_none_iff.mpr ⟨_, hevaluated⟩, Option.none_or]
        cases text? with
        | none =>
          rw [List.filterMap_cons_none (shown?_of_ok hevaluated)]
          exact ih hdone
        | some text =>
          rw [List.filterMap_cons_some (shown?_of_ok hevaluated), List.foldl_cons]
          refine ih fun other found hfound => ?_
          rw [Dict.get?_insert] at hfound
          split at hfound
          · next hother =>
            obtain rfl := Option.some.inj hfound
            rw [hother]
            exact hevaluated
          · exact hdone other found hfound

theorem keys_filterMap_shown? (linked : LinkedStore) (name node : Text)
    (options : List Text) :
    Dict.Entries.keys (options.filterMap (linked.shown? name node)) =
      (options.map fun option => Key.baseOption ⟨name, option⟩).filter fun base =>
        (linked.shownText? ⟨name, base⟩ node).isSome := by
  induction options with
  | nil => rfl
  | cons option rest ih =>
    rw [List.map_cons, List.filter_cons, ← ih, List.filterMap_cons, shown?]
    cases linked.shownText? ⟨name, Key.baseOption ⟨name, option⟩⟩ node <;> rfl

/-- A section that is shown has the bare forms of its options that have a text, each
where it first comes. -/
theorem keys_shownOptions (linked : LinkedStore) (name node : Text) (options : List Text) :
    (linked.shownOptions name node options).keys =
      (options.map fun option => Key.baseOption ⟨name, option⟩).eraseDups.filter fun base =>
        (linked.shownText? ⟨name, base⟩ node).isSome := by
  rw [shownOptions, Dict.keys_ofList, keys_filterMap_shown?, Lists.eraseDups_filter]

/-- A bare form of a stored option has the text that is shown for it. -/
theorem get?_shownOptions {options : List Text} {option : Text} (h : option ∈ options) :
    (linked.shownOptions name node options).get? (Key.baseOption ⟨name, option⟩) =
      linked.shownText? ⟨name, Key.baseOption ⟨name, option⟩⟩ node := by
  have hentries : ∀ entry ∈ options.filterMap (linked.shown? name node),
      linked.shownText? ⟨name, entry.1⟩ node = some entry.2 := by
    intro entry hentry
    obtain ⟨stored, -, hstored⟩ := List.mem_filterMap.mp hentry
    obtain ⟨text, htext, rfl⟩ := Option.map_eq_some_iff.mp hstored
    exact htext
  rw [shownOptions,
    Dict.get?_ofList_of_forall (fun base => linked.shownText? ⟨name, base⟩ node) hentries,
    keys_filterMap_shown?]
  split
  · rfl
  · next habsent =>
    rw [List.mem_filter] at habsent
    have hmem := List.mem_map_of_mem (f := fun option => Key.baseOption ⟨name, option⟩) h
    exact (Option.not_isSome_iff_eq_none.mp fun hsome => habsent ⟨hmem, hsome⟩).symm

/-! ## Sections -/

/-- **The bare forms of the options** in sections other than the metadata, in the order
in which an evaluation comes to them. -/
def bareKeysOf (sections : List (Text × Options)) : List Key :=
  (sections.filter fun entry => entry.1 ≠ metadataSection).flatMap fun (name, options) =>
    bareOptions name options.keys

/-- The keys that an evaluated configuration is made of. -/
def bareKeys (linked : LinkedStore) : List Key :=
  bareKeysOf linked.store.data.sections.entries

/-- The sections that a configuration is shown as. -/
def shownSections (linked : LinkedStore) (node : Text) (sections : List (Text × Options)) :
    List (Text × Options) :=
  (sections.filter fun entry => entry.1 ≠ metadataSection).map fun (name, options) =>
    (name, linked.shownOptions name node options.keys)

theorem result_evaluatedSections {done : Dict Text Options} (sections : List (Text × Options)) :
    (linked.evaluatedSections node done sections).result =
      match linked.firstError? node (bareKeysOf sections) with
      | some e => .error e
      | none => .ok ((linked.shownSections node sections).foldl
          (fun d (name, options) => d.insert name options) done) := by
  induction sections generalizing done with
  | nil => rfl
  | cons entry rest ih =>
    obtain ⟨name, options⟩ := entry
    rw [evaluatedSections, bareKeysOf, shownSections]
    by_cases hname : name = metadataSection
    · rw [if_pos hname, List.filter_cons_of_neg (by simp [hname])]
      exact ih
    · have hdone : ∀ option text, (Dict.empty : Options).get? option = some text →
          (linked.evaluatedText ⟨name, option⟩ node).result = .ok (some text) := by
        intro option text htext
        cases htext
      rw [if_neg hname, Outcome.result_bind, result_evaluatedOptions options.keys hdone,
        List.filter_cons_of_pos (by simpa using hname), List.flatMap_cons, firstError?_append]
      cases linked.firstError? node (bareOptions name options.keys) with
      | some e => rfl
      | none => exact ih

/-- **An evaluation of a configuration comes to the sections that are shown, or to the
error of the first key that has one.** -/
theorem result_evaluated (linked : LinkedStore) (node : Text) :
    (linked.evaluated node).result =
      match linked.firstError? node linked.bareKeys with
      | some e => .error e
      | none => .ok ⟨Dict.ofList (linked.shownSections node linked.store.data.sections.entries)⟩ := by
  rw [evaluated, Outcome.result_bind, result_evaluatedSections, bareKeys]
  cases linked.firstError? node (bareKeysOf linked.store.data.sections.entries) <;> rfl

theorem error?_evaluated (linked : LinkedStore) (node : Text) :
    (linked.evaluated node).error? = linked.firstError? node linked.bareKeys := by
  rw [Outcome.error?, result_evaluated]
  cases linked.firstError? node linked.bareKeys <;> rfl

theorem mem_bareKeys_iff {key : Key} :
    key ∈ linked.bareKeys ↔ ∃ name, name ≠ metadataSection ∧
      ∃ option ∈ linked.store.data.optionNames name, key = Key.withoutScope ⟨name, option⟩ := by
  simp only [bareKeys, bareKeysOf, bareOptions, List.mem_flatMap, List.mem_filter, List.mem_map,
    decide_eq_true_eq, RawConfig.mem_optionNames_iff_exists]
  constructor
  · rintro ⟨⟨name, options⟩, ⟨hentry, hname⟩, option, hoption, rfl⟩
    exact ⟨name, hname, option, ⟨options, Dict.get?_eq_some_iff.mpr hentry, hoption⟩, rfl⟩
  · rintro ⟨name, hname, option, ⟨options, hsection, hoption⟩, rfl⟩
    exact ⟨(name, options), ⟨Dict.get?_eq_some_iff.mp hsection, hname⟩, option, hoption, rfl⟩

variable {out : RawConfig}

/-- Where a configuration can be evaluated, so can every key that it is made of. -/
theorem exists_evaluatedText (h : (linked.evaluated node).result = .ok out) :
    ∀ key ∈ linked.bareKeys, ∃ text?, (linked.evaluatedText key node).result = .ok text? := by
  have hnone := error?_evaluated linked node
  rw [Outcome.error?_eq_none_iff.mpr ⟨out, h⟩] at hnone
  exact firstError?_eq_none_iff.mp hnone.symm

/-- **An evaluated configuration has the sections that are shown.** -/
theorem entries_of_evaluated (h : (linked.evaluated node).result = .ok out) :
    out.sections.entries =
      linked.shownSections node linked.store.data.sections.entries := by
  have hnone := firstError?_eq_none_iff.mpr (exists_evaluatedText h)
  rw [result_evaluated, hnone] at h
  obtain rfl := Except.ok.inj h
  refine Dict.entries_foldl_insert (d := Dict.empty) ?_
  have hkeys := linked.store.data.sections.nodup_keys.filter fun name => name ≠ metadataSection
  rw [Dict.keys, Dict.Entries.keys, List.filter_map] at hkeys
  rw [Dict.Entries.keys, Dict.empty, List.nil_append, shownSections, List.map_map]
  exact hkeys

theorem sectionNames_of_evaluated (h : (linked.evaluated node).result = .ok out) :
    out.sectionNames =
      linked.store.data.sectionNames.filter fun name => name ≠ metadataSection := by
  rw [RawConfig.sectionNames, Dict.keys, entries_of_evaluated h, RawConfig.sectionNames,
    Dict.keys, Dict.Entries.keys, Dict.Entries.keys, List.filter_map, shownSections, List.map_map]
  rfl

theorem section?_of_evaluated (h : (linked.evaluated node).result = .ok out)
    (hname : name ≠ metadataSection) :
    out.section? name = (linked.store.data.section? name).map fun options =>
      linked.shownOptions name node options.keys := by
  cases hsection : linked.store.data.section? name with
  | none =>
    have habsent : name ∉ linked.store.data.sectionNames := Dict.get?_eq_none_iff.mp hsection
    refine Dict.get?_eq_none_iff.mpr fun hmem => habsent ?_
    have hnames : name ∈ out.sectionNames := hmem
    rw [sectionNames_of_evaluated h] at hnames
    exact (List.mem_filter.mp hnames).1
  | some options =>
    refine Dict.get?_eq_some_iff.mpr ?_
    rw [entries_of_evaluated h]
    exact List.mem_map.mpr ⟨(name, options),
      List.mem_filter.mpr ⟨Dict.get?_eq_some_iff.mp hsection, by simpa using hname⟩, rfl⟩

/-- An option of the store, in a section that is shown, can be evaluated, and it is there
with the text that it is shown as. -/
theorem exists_shown (h : (linked.evaluated node).result = .ok out)
    (hname : name ≠ metadataSection) {option : Text}
    (hoption : option ∈ linked.store.data.optionNames name) :
    ∃ text?, (linked.evaluatedText ⟨name, Key.baseOption ⟨name, option⟩⟩ node).result = .ok text? ∧
      out.get? name (Key.baseOption ⟨name, option⟩) = text? := by
  obtain ⟨text?, htext⟩ :=
    exists_evaluatedText h _ (mem_bareKeys_iff.mpr ⟨name, hname, option, hoption, rfl⟩)
  obtain ⟨options, hsection, hmem⟩ := RawConfig.mem_optionNames_iff_exists.mp hoption
  refine ⟨text?, htext, ?_⟩
  rw [RawConfig.get?, section?_of_evaluated h hname, hsection]
  exact (get?_shownOptions hmem).trans (shownText?_of_ok htext)

/-- The options of a section are the bare forms of those of the store, without those
that come to nothing. -/
theorem optionNames_of_evaluated (h : (linked.evaluated node).result = .ok out)
    (hname : name ≠ metadataSection) :
    out.optionNames name =
      ((linked.store.data.optionNames name).map fun option =>
        Key.baseOption ⟨name, option⟩).eraseDups.filter fun base =>
          !linked.lacks ⟨name, base⟩ node := by
  rw [RawConfig.optionNames, section?_of_evaluated h hname, RawConfig.optionNames]
  cases hsection : linked.store.data.section? name with
  | none => rfl
  | some options =>
    refine (keys_shownOptions ..).trans (List.filter_congr fun base hbase => ?_)
    obtain ⟨option, hoption, rfl⟩ := List.mem_map.mp (List.mem_eraseDups.mp hbase)
    obtain ⟨text?, htext, -⟩ :=
      exists_shown h hname (RawConfig.mem_optionNames_iff_exists.mpr ⟨options, hsection, hoption⟩)
    rw [shownText?_of_ok htext, isSome_of_evaluatedText htext]

theorem not_mem_of_evaluated {option : Text} (h : (linked.evaluated node).result = .ok out)
    (hoption : option ∈ out.optionNames name) : scopeSeparator ∉ option := by
  have hname : name ≠ metadataSection := by
    rintro rfl
    obtain ⟨options, hsection, -⟩ := RawConfig.mem_optionNames_iff_exists.mp hoption
    have hmem : metadataSection ∈ out.sectionNames :=
      Dict.contains_iff.mp (Option.isSome_of_eq_some hsection)
    rw [sectionNames_of_evaluated h] at hmem
    exact of_decide_eq_true (List.mem_filter.mp hmem).2 rfl
  rw [optionNames_of_evaluated h hname] at hoption
  obtain ⟨stored, -, rfl⟩ := List.mem_map.mp (List.mem_eraseDups.mp (List.mem_filter.mp hoption).1)
  exact Key.not_mem_baseOption _

/-! ## What an evaluated configuration holds -/

/-- **A configuration is that of a store as a node sees it.** -/
structure IsEvaluated (linked : LinkedStore) (node : Text) (out : RawConfig) : Prop where
  /-- The sections are those of the store without the metadata, in their order. -/
  sections : out.sectionNames =
    linked.store.data.sectionNames.filter fun name => name ≠ metadataSection
  /-- No option is there twice. -/
  distinct : ∀ name, (out.optionNames name).Nodup
  /-- No option has a scope. -/
  bare : ∀ name, ∀ option ∈ out.optionNames name, scopeSeparator ∉ option
  /-- The options of a section are the bare forms of those of the store, in the order in
  which they first come, without those that come to nothing. -/
  options : ∀ name, name ≠ metadataSection →
    out.optionNames name =
      ((linked.store.data.optionNames name).map fun option =>
        Key.baseOption ⟨name, option⟩).eraseDups.filter fun base => !linked.lacks ⟨name, base⟩ node
  /-- An option of the store is there unless it comes to nothing. -/
  present : ∀ name, name ≠ metadataSection → ∀ option ∈ linked.store.data.optionNames name,
    (out.get? name (Key.baseOption ⟨name, option⟩)).isSome =
      !linked.lacks ⟨name, Key.baseOption ⟨name, option⟩⟩ node
  /-- It has the text that it is evaluated to. -/
  values : ∀ name, name ≠ metadataSection → ∀ option ∈ linked.store.data.optionNames name,
    ∀ text, (linked.evaluateAny ⟨name, Key.baseOption ⟨name, option⟩⟩ node).result = .ok text →
      out.get? name (Key.baseOption ⟨name, option⟩) = some text
  /-- It has its raw text if the evaluation has to wait. -/
  waiting : ∀ name, name ≠ metadataSection → ∀ option ∈ linked.store.data.optionNames name,
    ∀ e, (linked.evaluateAny ⟨name, Key.baseOption ⟨name, option⟩⟩ node).result = .error e →
      e.isPostponed = true →
        ∃ raw, linked.store.descope ⟨name, Key.baseOption ⟨name, option⟩⟩ node = .ok raw ∧
          out.get? name (Key.baseOption ⟨name, option⟩) = some raw

/-- **The evaluated configuration agrees with evaluation.**  Where a store can be
evaluated for a node, the configuration that comes of it holds what the evaluation of
every single option says, and nothing else: sections and options in their order, each
option once and bare. -/
theorem evaluated_agrees (h : (linked.evaluated node).result = .ok out) :
    linked.IsEvaluated node out where
  sections := sectionNames_of_evaluated h
  distinct := fun name => by
    rw [RawConfig.optionNames]
    cases out.section? name with
    | none => exact List.nodup_nil
    | some options => exact options.nodup_keys
  bare := fun _ _ => not_mem_of_evaluated h
  options := fun _ => optionNames_of_evaluated h
  present := fun name hname option hoption => by
    obtain ⟨text?, htext, hget⟩ := exists_shown h hname hoption
    rw [hget, isSome_of_evaluatedText htext]
  values := fun name hname option hoption text hany => by
    obtain ⟨text?, htext, hget⟩ := exists_shown h hname hoption
    have hcases := evaluatedText_eq_ok htext
    rw [hany] at hcases
    exact hget.trans hcases
  waiting := fun name hname option hoption e hany hpostponed => by
    obtain ⟨text?, htext, hget⟩ := exists_shown h hname hoption
    have hcases := evaluatedText_eq_ok htext
    have hpresent : ¬ e.isMissing = true := by
      cases e with
      | postponed => exact Bool.false_ne_true
      | _ => cases hpostponed
    rw [hany] at hcases
    obtain ⟨-, raw, hraw, rfl⟩ := (if_neg hpresent).mp hcases
    exact ⟨raw, hraw, hget⟩

/-- A store with forms of one option before and behind another one, with an option for
another node alone, with one that has to wait, and with metadata. -/
def varied : LinkedStore where
  store :=
    { path := "/etc/web.conf"
      data := .ofLists
        [("fs#0", [("mnt@n2", "/b"), ("dev", "$(mnt)/dev"), ("mnt@n1", "/a"), ("opt@n2", "rw"),
          ("mnt", "/c")]),
         ("metadata", [("name", "web")]),
         ("env", [("host", "{ip#0.addr}")])]
      owner := ⟨.object ⟨rootNamespace, .svc, "web"⟩,
        ⟨[{ Keyword.plain "fs" "mnt" with scopable := true }]⟩, ["n1", "n2"], [], [], [], false⟩
      agent := .default }
  node? := none

theorem evaluated_agrees_varied :
    (varied.evaluated "n1").result =
        .ok (.ofLists [("fs#0", [("mnt", "/a"), ("dev", "/a/dev")]),
          ("env", [("host", "{ip#0.addr}")])]) ∧
      varied.IsEvaluated "n1" (.ofLists [("fs#0", [("mnt", "/a"), ("dev", "/a/dev")]),
        ("env", [("host", "{ip#0.addr}")])]) := by
  have h : (varied.evaluated "n1").result =
      .ok (.ofLists [("fs#0", [("mnt", "/a"), ("dev", "/a/dev")]),
        ("env", [("host", "{ip#0.addr}")])]) := by decide +kernel
  exact ⟨h, evaluated_agrees h⟩

end LinkedStore
end ScopedConfig
