import ScopedConfig.Proofs.Json.Reading
import ScopedConfig.RawConfig.Json
import ScopedConfig.RawConfig.Lemmas

/-! # Configurations survive their exchange as JSON

The JSON text of a configuration is read as a document with its sections and options in
order (`read?_toJson`), and of that document the configuration is made again.  Documents
may also come from elsewhere, with null in the place of values and with names that are
repeated.  Those that a configuration is made of are the objects of objects of strings
and nulls, and each is made what it says: null is the empty text, and a name stands
where it came first with what came last for it (`ofJson?_eq_some_iff`).  Both are put
together in `readJson?_exchange`.
-/
namespace ScopedConfig

namespace Dict.Entries

variable {κ α : Type} [DecidableEq κ]

/-- **The entries with each key once**: where it comes first, and with the value that
comes last for it. -/
def merged (entries : List (κ × α)) : List (κ × α) :=
  (keys entries).eraseDups.filterMap fun key =>
    (get? key entries.reverse).map fun value => (key, value)

end Dict.Entries

theorem Dict.entries_ofList {κ α : Type} [DecidableEq κ] (entries : List (κ × α)) :
    (ofList entries).entries = Entries.merged entries := by
  rw [entries_eq_filterMap, keys_ofList, Entries.merged]
  simp only [get?_ofList]

/-- Values are changed before or after entries are merged. -/
theorem Dict.Entries.merged_mapValues {κ α β : Type} [DecidableEq κ] (f : α → β)
    (entries : List (κ × α)) :
    merged (entries.map fun (key, value) => (key, f value)) =
      (merged entries).map fun (key, value) => (key, f value) := by
  simp only [merged, keys_mapValues, ← List.map_reverse, get?_mapValues, List.map_filterMap,
    Option.map_map, Function.comp_def]

namespace RawConfig

open Json

variable {α β γ : Type}

/-! ## The text of a configuration -/

/-- The text of an object has the tokens of an object. -/
theorem lexes_jsonObject (indent : Text) (hindent : indent.all isGap = true) (members : List α)
    (name : α → Text) {value : α → Text} {tokens : α → List Token}
    (h : ∀ member ∈ members, Lexes (value member) (tokens member)) :
    Lexes (jsonObject indent (members.map fun member => (name member, value member)))
      (objectTokens (members.map fun member => (name member, tokens member))) := by
  have hopen : Lexes ['\x7b'] [.openObject] := lexes_punctuation rfl rfl (by decide)
  have hclose : Lexes ['\x7d'] [.closeObject] := lexes_punctuation rfl rfl (by decide)
  cases members with
  | nil => exact hopen.append hclose
  | cons first rest =>
    have hinner : (' ' :: ' ' :: indent).all isGap = true := by
      rw [List.all_cons, List.all_cons, hindent]
      rfl
    have hend : ('\n' :: indent).all isGap = true := by
      rw [List.all_cons, hindent]
      rfl
    have hline : Lexes ['\n'] [] := lexes_gap rfl
    have hmembers := lexes_members name hinner first rest h
    have hobject :=
      (((hopen.append hline).append hmembers).append (lexes_gap hend)).append hclose
    have htext : jsonObject indent ((first :: rest).map fun member => (name member, value member)) =
        ['\x7b'] ++ ['\n'] ++ Text.join [',', '\n'] ((first :: rest).map fun member =>
          ' ' :: ' ' :: indent ++ quoted (name member) ++ ": " ++ value member) ++
            '\n' :: indent ++ ['\x7d'] := by
      simp [jsonObject, Function.comp_def]
    simp only [List.append_nil] at hobject
    exact htext ▸ hobject

/-! ## Documents -/

/-- The document of the value of an option, which may be null. -/
def valueDocument : Option Text → Json
  | some text => .string (some text)
  | none => .null

/-- The document of members, given those of their values. -/
def objectDocument (encode : β → Json) (members : List (Text × β)) : Json :=
  .object (members.map fun member => (some member.1, encode member.2))

/-- The document of sections and options in order, with names that may be repeated and
values that may be null. -/
def document (sections : List (Text × List (Text × Option Text))) : Json :=
  objectDocument (objectDocument valueDocument) sections

/-- The text of a configuration is read as the document of its sections and options. -/
theorem read?_toJson (raw : RawConfig) :
    read? raw.toJson = some (document (raw.toLists.map fun (name, options) =>
      (name, options.map fun (option, value) => (option, some value)))) := by
  have hlexes := lexes_jsonObject [] rfl raw.sections.entries Prod.fst
    fun entry _ => lexes_jsonObject "  " rfl entry.2.entries Prod.fst
      fun pair _ => lexes_quoted pair.2
  have hbuilds := builds_object raw.sections.entries Prod.fst
    fun entry _ => builds_object entry.2.entries Prod.fst
      fun pair _ => builds_string pair.2
  rw [toJson]
  refine (read?_of_lexes hlexes hbuilds).trans ?_
  simp [document, objectDocument, valueDocument, toLists, Function.comp_def]

/-! ## What a document says -/

/-- A list is read item by item if what each item is read as is known. -/
theorem mapM_eq_some_iff {f : α → Option β} {g : γ → α} {k : γ → β}
    (h : ∀ x y, f x = some y ↔ ∃ z, x = g z ∧ y = k z) {xs : List α} {ys : List β} :
    xs.mapM f = some ys ↔ ∃ zs : List γ, xs = zs.map g ∧ ys = zs.map k := by
  induction xs generalizing ys with
  | nil =>
    simp only [List.mapM_nil, List.nil_eq, List.map_eq_nil_iff]
    constructor
    · intro hys
      exact ⟨[], rfl, (Option.some.inj hys).symm⟩
    · rintro ⟨zs, rfl, rfl⟩
      rfl
  | cons x xs ih =>
    rw [List.mapM_cons]
    constructor
    · intro hys
      obtain ⟨y, hy, hrest⟩ := Option.bind_eq_some_iff.mp hys
      obtain ⟨ys', hys', hcons⟩ := Option.bind_eq_some_iff.mp hrest
      obtain ⟨z, rfl, rfl⟩ := (h x y).mp hy
      obtain ⟨zs, rfl, rfl⟩ := ih.mp hys'
      exact ⟨z :: zs, rfl, (Option.some.inj hcons).symm⟩
    · rintro ⟨zs, hxs, rfl⟩
      cases zs with
      | nil => cases hxs
      | cons z zs =>
        obtain ⟨rfl, rfl⟩ := List.cons.inj hxs
        have hfirst := (h (g z) (k z)).mpr ⟨z, rfl, rfl⟩
        have hrest := ih.mpr ⟨zs, rfl, rfl⟩
        rw [hfirst, hrest]
        rfl

/-- The members of an object all have names that stand for text. -/
theorem members?_eq_some_iff {json : Json} {members : List (Text × Json)} :
    json.members? = some members ↔ json = objectDocument id members := by
  have hmember : ∀ (x : Option Text × Json) (y : Text × Json),
      (x.1.map fun name => (name, x.2)) = some y ↔
        ∃ z : Text × Json, x = (some z.1, z.2) ∧ y = z := by
    rintro ⟨name?, value⟩ ⟨name, other⟩
    cases name? <;> simp [eq_comm]
  cases json with
  | object given =>
    rw [members?, mapM_eq_some_iff hmember]
    simp [objectDocument]
  | _ => simp [members?, objectDocument]

theorem members?_objectDocument (encode : β → Json) (members : List (Text × β)) :
    (objectDocument encode members).members? =
      some (members.map fun (name, value) => (name, encode value)) :=
  members?_eq_some_iff.mpr (by simp [objectDocument, Function.comp_def])

/-- A value is a string or null, and null is the empty text. -/
theorem valueOfJson?_eq_some_iff (json : Json) (text : Text) :
    valueOfJson? json = some text ↔
      ∃ value?, json = valueDocument value? ∧ text = value?.getD [] := by
  constructor
  · intro h
    cases json with
    | null => exact ⟨none, rfl, (Option.some.inj h).symm⟩
    | string content =>
      obtain rfl : content = some text := h
      exact ⟨some text, rfl, rfl⟩
    | _ => cases h
  · rintro ⟨_ | text, rfl, rfl⟩ <;> rfl

/-- **A dictionary is made of an object exactly if each of its values can be read**, and
then of its members in order. -/
theorem dictOfJson?_eq_some_iff {decode : Json → Option α} {encode : β → Json} {value : β → α}
    (hdecode : ∀ json a, decode json = some a ↔ ∃ b, json = encode b ∧ a = value b)
    (json : Json) (d : Dict Text α) :
    dictOfJson? decode json = some d ↔ ∃ members : List (Text × β),
      json = objectDocument encode members ∧
        d = Dict.ofList (members.map fun member => (member.1, value member.2)) := by
  have hmember : ∀ (x : Text × Json) (y : Text × α),
      (decode x.2).bind (fun a => some (x.1, a)) = some y ↔
        ∃ z : Text × β, x = (z.1, encode z.2) ∧ y = (z.1, value z.2) := by
    rintro ⟨name, member⟩ ⟨other, a⟩
    simp only [Option.bind_eq_some_iff, hdecode]
    constructor
    · rintro ⟨_, ⟨b, rfl, rfl⟩, h⟩
      exact ⟨(name, b), rfl, (Option.some.inj h).symm⟩
    · rintro ⟨⟨_, b⟩, hx, hy⟩
      obtain ⟨rfl, rfl⟩ := Prod.mk.inj hx
      exact ⟨_, ⟨b, rfl, rfl⟩, congrArg some hy.symm⟩
  constructor
  · intro h
    obtain ⟨given, hgiven, hrest⟩ := Option.bind_eq_some_iff.mp h
    obtain ⟨entries, hentries, hd⟩ := Option.bind_eq_some_iff.mp hrest
    obtain ⟨members, rfl, rfl⟩ := (mapM_eq_some_iff hmember).mp hentries
    refine ⟨members, ?_, (Option.some.inj hd).symm⟩
    rw [members?_eq_some_iff.mp hgiven]
    simp [objectDocument, Function.comp_def]
  · rintro ⟨members, rfl, rfl⟩
    have hentries := (mapM_eq_some_iff hmember).mpr ⟨members, rfl, rfl⟩
    exact Option.bind_eq_some_iff.mpr ⟨_, members?_objectDocument encode members,
      Option.bind_eq_some_iff.mpr ⟨_, hentries, rfl⟩⟩

/-- A configuration is made of the document of sections exactly if it is that of their
lists. -/
theorem ofJson?_eq_some_iff (json : Json) (raw : RawConfig) :
    ofJson? json = some raw ↔ ∃ sections, json = document sections ∧
      raw.sections = Dict.ofList (sections.map fun (name, options) =>
        (name, Dict.ofList (options.map fun (option, value?) => (option, value?.getD [])))) := by
  have hdict := dictOfJson?_eq_some_iff (dictOfJson?_eq_some_iff valueOfJson?_eq_some_iff) json
    raw.sections
  refine Iff.trans ?_ hdict
  rw [ofJson?, Option.map_eq_some_iff]
  constructor
  · rintro ⟨sections, h, rfl⟩
    exact h
  · intro h
    exact ⟨raw.sections, h, rfl⟩

/-- What the sections of a document come to: each section and each option once, where it
comes first, with what comes last for it. -/
def mergedSections (sections : List (Text × List (Text × Option Text))) :
    List (Text × List (Text × Text)) :=
  (Dict.Entries.merged sections).map fun (name, options) =>
    (name, (Dict.Entries.merged options).map fun (option, value?) => (option, value?.getD []))

/-- The dictionary of the sections of a document has these sections. -/
theorem sections_eq_ofList_iff {raw : RawConfig}
    {sections : List (Text × List (Text × Option Text))} :
    raw.sections = Dict.ofList (sections.map fun (name, options) =>
        (name, Dict.ofList (options.map fun (option, value?) => (option, value?.getD [])))) ↔
      raw.toLists = mergedSections sections := by
  have hsections := Dict.Entries.merged_mapValues
    (fun options : List (Text × Option Text) =>
      Dict.ofList (options.map fun (option, value?) => (option, value?.getD []))) sections
  have hoptions := Dict.Entries.merged_mapValues (κ := Text) fun value? : Option Text =>
    value?.getD []
  have hlists : RawConfig.toLists ⟨Dict.ofList (sections.map fun (name, options) =>
      (name, Dict.ofList (options.map fun (option, value?) => (option, value?.getD []))))⟩ =
        mergedSections sections := by
    rw [toLists, Dict.entries_ofList, hsections, mergedSections, List.map_map]
    refine List.map_congr_left fun entry _ => ?_
    exact congrArg (Prod.mk entry.1) ((Dict.entries_ofList _).trans (hoptions entry.2))
  rw [← hlists, toLists_injective.eq_iff]
  cases raw
  exact mk.injEq _ _ ▸ Iff.rfl

/-- **The exchange of configurations as JSON.**  Every configuration, whatever characters
its names and values have, is read again from its text with the same sections, options
and values in the same order.  And a text is read as a configuration exactly if it is an
object of objects of strings and nulls: each section and each option then stands once,
where its name came first, with what came last for it, and null is the empty text. -/
theorem readJson?_exchange :
    (∀ raw : RawConfig, readJson? raw.toJson = some raw) ∧
      ∀ (text : Text) (raw : RawConfig), readJson? text = some raw ↔
        ∃ sections, read? text = some (document sections) ∧
          raw.toLists = mergedSections sections := by
  constructor
  · intro raw
    rw [readJson?, read?_toJson]
    refine (ofJson?_eq_some_iff _ raw).mpr ⟨_, rfl, ?_⟩
    simp only [toLists, List.map_map, Function.comp_def, Option.getD_some, List.map_id',
      Dict.ofList_entries]
  · intro text raw
    rw [readJson?, Option.bind_eq_some_iff]
    constructor
    · rintro ⟨json, hjson, h⟩
      obtain ⟨sections, rfl, hraw⟩ := (ofJson?_eq_some_iff json raw).mp h
      exact ⟨sections, hjson, sections_eq_ofList_iff.mp hraw⟩
    · rintro ⟨sections, hjson, hraw⟩
      have h := (ofJson?_eq_some_iff _ raw).mpr ⟨sections, rfl, sections_eq_ofList_iff.mpr hraw⟩
      exact ⟨_, hjson, h⟩

/-- The section that came last has the place of the first of its name. -/
example :
    let text : Text := "\x7b\"s\":\x7b\"c\":\"0\"\x7d,\"t\":\x7b\x7d,\"s\":\x7b\"a\":\"1\",\"a\":null\x7d\x7d"
    (readJson? text).map toLists = some [("s".toList, [("a".toList, [])]), ("t".toList, [])] := by
  decide +kernel

end RawConfig
end ScopedConfig
