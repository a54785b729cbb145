import Mathlib.Data.List.Induction
import ScopedConfig.Proofs.RawConfig.Edits
import ScopedConfig.Proofs.RawConfig.JsonRoundTrip
import ScopedConfig.Proofs.RawConfig.WrittenLines

/-! # Configurations in the order of their sources

A configuration is made of lines or of a JSON document, and edited after that.  Lines are
edits themselves: each header makes a section last, each option is set, and each line that
goes on with a value sets the longer value again.  Which edits they are can be said of the
text alone (`script`), and what is read is what these edits make of the empty
configuration, with quotes taken off the values (`read_eq_editAll`).  A JSON document is
made into dictionaries, and a section that comes again replaces the content of the first
one of its name.

So in both formats sections and options stand where they were first named, each once, and
have what was given for them last (`Source.gives_of_read?`).  From there on edits keep it
that way, as `Edited` says.
-/
namespace ScopedConfig.RawConfig
open Text

/-! ## Lines as edits -/

/-- How far a text has been read: the section that its lines belong to, and the option
whose value may go on, with what there is of that value. -/
structure Cursor where
  sectionName : Text
  openEntry : Option (Text × Text)

namespace Cursor

/-- Where a text begins. -/
def initial : Cursor := ⟨defaultSection, none⟩

/-- The edits for what a line says that does not continue a value. -/
def take (cursor : Cursor) : Line → List Edit × Cursor
  | .blank => ([], { cursor with openEntry := none })
  | .comment => ([], cursor)
  | .header name => ([.ensureSection name], ⟨name, none⟩)
  | .assignment option value =>
    ([.set cursor.sectionName option value], { cursor with openEntry := some (option, value) })

/-- The edits for a line, none if it is faulty. -/
def step (cursor : Cursor) (line : Text) : List Edit × Cursor :=
  match cursor.openEntry, startsBlank line with
  | some (option, value), true =>
    let longer := value ++ '\n' :: continuation line
    ([.set cursor.sectionName option longer], { cursor with openEntry := some (option, longer) })
  | _, _ =>
    match Line.read line with
    | .ok said => cursor.take said
    | .error _ => ([], cursor)

/-- The edits for lines one after another. -/
def edits (cursor : Cursor) : List Text → List Edit
  | [] => []
  | line :: rest => (cursor.step line).1 ++ edits (cursor.step line).2 rest

end Cursor

/-- **The edits that a text stands for.** -/
def script (text : Text) : List Edit := Cursor.initial.edits (lines text)

/-- A reader that is where the cursor is, with the open value as it is so far. -/
structure Follows (cursor : Cursor) (reader : LineReader) : Prop where
  sectionName : reader.sectionName = cursor.sectionName
  openOption : reader.openOption = cursor.openEntry.map Prod.fst
  openValue : ∀ entry ∈ cursor.openEntry,
    reader.raw.get? cursor.sectionName entry.1 = some entry.2

variable {cursor : Cursor} {reader next last : LineReader} {line name option value text : Text}
  {edits : List Edit} {edit : Edit} {raw : RawConfig}

theorem Follows.take (h : Follows cursor reader) (said : Line) :
    (reader.take said).raw = reader.raw.editAll (cursor.take said).1 ∧
      Follows (cursor.take said).2 (reader.take said) := by
  obtain ⟨raw, sectionName, openOption⟩ := reader
  obtain ⟨rfl, hopen, hvalue⟩ := h
  cases said with
  | blank => exact ⟨rfl, rfl, rfl, by simp [Cursor.take]⟩
  | comment => exact ⟨rfl, rfl, hopen, hvalue⟩
  | header name => exact ⟨rfl, rfl, rfl, by simp [Cursor.take]⟩
  | assignment option value =>
    refine ⟨rfl, rfl, rfl, fun entry hentry => ?_⟩
    obtain rfl := Option.mem_some.mp hentry
    exact (raw.get?_set ..).trans (if_pos ⟨rfl, rfl⟩)

/-- A line that is read does what its edits do. -/
theorem Follows.step (h : Follows cursor reader) (hstep : reader.step line = .ok next) :
    next.raw = reader.raw.editAll (cursor.step line).1 ∧ Follows (cursor.step line).2 next := by
  unfold LineReader.step at hstep
  unfold Cursor.step
  rw [h.openOption] at hstep
  split
  · next option value hopen hblank =>
    rw [hopen, hblank] at hstep
    obtain rfl := Except.ok.inj hstep
    have hvalue : reader.raw.get? cursor.sectionName option = some value :=
      h.openValue (option, value) hopen
    -- the reader makes the value longer where it stands, and the edit sets it again
    dsimp only
    rw [h.sectionName, modify_of_get? hvalue]
    refine ⟨rfl, rfl, rfl, fun entry hentry => ?_⟩
    obtain rfl := Option.mem_some.mp hentry
    exact (reader.raw.get?_set ..).trans (if_pos ⟨rfl, rfl⟩)
  · next hother =>
    -- without an open value or a blank the line speaks for itself
    have hread : (Line.read line).map reader.take = .ok next := by
      split at hstep
      · next option hopen hblank =>
        obtain ⟨entry, hentry, rfl⟩ := Option.map_eq_some_iff.mp hopen
        exact absurd hblank (hother entry.1 entry.2 hentry)
      · exact hstep
    cases hline : Line.read line with
    | error fault =>
      rw [hline] at hread
      cases hread
    | ok said =>
      rw [hline] at hread
      obtain rfl := Except.ok.inj hread
      exact h.take said

theorem Follows.raw_eq {ls : List Text} (h : Follows cursor reader)
    (hreads : Reads reader ls last) :
    last.raw = reader.raw.editAll (cursor.edits ls) := by
  induction hreads generalizing cursor with
  | nil => rfl
  | cons hstep _ ih =>
    obtain ⟨hraw, hnext⟩ := h.step hstep
    rw [Cursor.edits, editAll_append, ← hraw, ih hnext]

/-- **What is read is what the edits of the text make**, with the values unquoted. -/
theorem read_eq_editAll (h : read text = .ok raw) :
    raw = (empty.editAll (script text)).mapValues unquote := by
  obtain ⟨last, hreads, rfl⟩ := exists_reads_of_read h
  have hinitial : Follows .initial .initial := ⟨rfl, rfl, by simp [Cursor.initial]⟩
  rw [hinitial.raw_eq hreads]
  rfl

/-! ## Edits that only make and set -/

namespace Edit

/-- The section that an edit names. -/
def sectionName : Edit → Text
  | set name _ _ | erase name _ | eraseSection name | ensureSection name
  | ensureSectionFirst name => name

/-- The option that an edit sets in a section. -/
def optionIn? (name : Text) : Edit → Option Text
  | set other option _ => if other = name then some option else none
  | _ => none

/-- The value that an edit sets an option to. -/
def valueOf? (name option : Text) : Edit → Option Text
  | set other option' value => if other = name ∧ option' = option then some value else none
  | _ => none

end Edit

/-- The edits of a text make sections and set options. -/
theorem Cursor.makesLast {ls : List Text} (h : edit ∈ cursor.edits ls) :
    edit.MakesLast edit.sectionName := by
  induction ls generalizing cursor with
  | nil => cases h
  | cons line rest ih =>
    rcases List.mem_append.mp h with hline | hrest
    · unfold Cursor.step at hline
      split at hline
      · obtain rfl := List.mem_singleton.mp hline
        exact .inr ⟨_, _, rfl⟩
      · split at hline
        · next said _ =>
          cases said with
          | blank | comment => cases hline
          | header name =>
            obtain rfl := List.mem_singleton.mp hline
            exact .inl rfl
          | assignment option value =>
            obtain rfl := List.mem_singleton.mp hline
            exact .inr ⟨_, _, rfl⟩
        · cases hline
    · exact ih hrest

theorem optionNames_edit_of_makesLast (h : edit.MakesLast edit.sectionName) (raw : RawConfig)
    (name : Text) : (raw.edit edit).optionNames name =
      match edit.optionIn? name with
      | some option =>
        if option ∈ raw.optionNames name then raw.optionNames name
        else raw.optionNames name ++ [option]
      | none => raw.optionNames name := by
  rcases h with hensure | ⟨option, value, hset⟩
  · rw [hensure]
    exact raw.optionNames_ensureSection ..
  · rw [hset, RawConfig.edit, optionNames_set, Edit.optionIn?]
    by_cases hname : edit.sectionName = name
    · have hunset : raw.get? name option = none ↔ option ∉ raw.optionNames name := by
        rw [mem_optionNames_iff, Option.not_isSome_iff_eq_none]
      rw [if_pos hname]
      by_cases hmem : option ∈ raw.optionNames name <;> simp [hname, hunset, hmem]
    · simp [hname, Ne.symm hname]

theorem get?_edit_of_makesLast (h : edit.MakesLast edit.sectionName) (raw : RawConfig)
    (name option : Text) :
    (raw.edit edit).get? name option = (edit.valueOf? name option).or (raw.get? name option) := by
  rcases h with hensure | ⟨option', value, hset⟩
  · rw [hensure]
    exact raw.get?_ensureSection ..
  · rw [hset, RawConfig.edit, get?_set, Edit.valueOf?]
    by_cases hsame : name = edit.sectionName ∧ option = option'
    · rw [if_pos hsame, if_pos ⟨hsame.1.symm, hsame.2.symm⟩, Option.some_or]
    · rw [if_neg hsame, if_neg fun e => hsame ⟨e.1.symm, e.2.symm⟩, Option.none_or]

/-- **What edits that make and set have made**: names stand where they first came, and
options have the value that came last. -/
theorem editAll_empty (h : ∀ edit ∈ edits, edit.MakesLast edit.sectionName) :
    (empty.editAll edits).sectionNames = (edits.map Edit.sectionName).eraseDups ∧
      (∀ name, (empty.editAll edits).optionNames name =
        (edits.filterMap (Edit.optionIn? name)).eraseDups) ∧
      ∀ name option, (empty.editAll edits).get? name option =
        edits.reverse.findSome? (Edit.valueOf? name option) := by
  -- what the last edit names has been named before or stands last
  induction edits using List.reverseRecOn with
  | nil => exact ⟨rfl, fun _ => rfl, fun _ _ => rfl⟩
  | append_singleton edits edit ih =>
    obtain ⟨hedits, hlast⟩ := List.forall_mem_append.mp h
    obtain ⟨hsections, hoptions, hvalues⟩ := ih hedits
    have hedit := hlast edit List.mem_cons_self
    have hconcat : empty.editAll (edits ++ [edit]) = (empty.editAll edits).edit edit :=
      editAll_append ..
    rw [hconcat]
    refine ⟨?_, fun name => ?_, fun name option => ?_⟩
    · rw [sectionNames_edit_of_makesLast hedit, hsections, List.map_append, List.map_singleton,
        Lists.eraseDups_concat]
    · rw [optionNames_edit_of_makesLast hedit, hoptions, List.filterMap_append]
      cases hoption : edit.optionIn? name with
      | none => simp [hoption]
      | some option => simp [hoption, Lists.eraseDups_concat]
    · rw [get?_edit_of_makesLast hedit, hvalues, List.reverse_concat, List.findSome?_cons]
      cases edit.valueOf? name option <;> rfl

/-! ## Sources -/

/-- **What a configuration is read from**: a text of lines, or one of JSON. -/
inductive Source where
  | lines (content : Text)
  | json (content : Text)

namespace Source

/-- The configuration that is read. -/
def read? : Source → Option RawConfig
  | lines content => (RawConfig.read content).toOption
  | json content => readJson? content

/-- The members of a JSON text, with their names. -/
def sectionMembers (content : Text) : List (Text × Json) :=
  ((Json.read? content).bind Json.members?).getD []

/-- The members of the last section of a name in a JSON text. -/
def optionMembers (content name : Text) : List (Text × Json) :=
  ((Dict.Entries.get? name (sectionMembers content).reverse).bind Json.members?).getD []

/-- The sections that are named, in order and as often as they are named. -/
def sections : Source → List Text
  | lines content => (script content).map Edit.sectionName
  | json content => Dict.Entries.keys (sectionMembers content)

/-- The options that are named in a section. -/
def options (name : Text) : Source → List Text
  | lines content => (script content).filterMap (Edit.optionIn? name)
  | json content => Dict.Entries.keys (optionMembers content name)

/-- The value that comes last for an option. -/
def value? (name option : Text) : Source → Option Text
  | lines content =>
    ((script content).reverse.findSome? (Edit.valueOf? name option)).map unquote
  | json content =>
    (Dict.Entries.get? option (optionMembers content name).reverse).bind valueOfJson?

/-- **A configuration in the order of its source**: it has the sections and options that
are named, each once and where it is named first, with the values that come last. -/
structure Gives (source : Source) (raw : RawConfig) : Prop where
  sections : raw.sectionNames = source.sections.eraseDups
  options : ∀ name, raw.optionNames name = (source.options name).eraseDups
  values : ∀ name option, raw.get? name option = source.value? name option

theorem gives_lines {content : Text} (h : RawConfig.read content = .ok raw) :
    (lines content).Gives raw := by
  obtain ⟨hsections, hoptions, hvalues⟩ := editAll_empty
    fun edit (hedit : edit ∈ script content) => Cursor.makesLast hedit
  rw [read_eq_editAll h]
  refine ⟨?_, fun name => ?_, fun name option => ?_⟩
  · rw [sectionNames_mapValues, hsections, sections]
  · rw [optionNames_mapValues, hoptions, options]
  · rw [get?_mapValues, hvalues, value?]

theorem sectionMembers_of_read? {content : Text}
    {given : List (Text × List (Text × Option Text))}
    (h : Json.read? content = some (document given)) :
    sectionMembers content =
      given.map fun (name, options) => (name, objectDocument valueDocument options) := by
  rw [sectionMembers, h, Option.bind_some, document, members?_objectDocument, Option.getD_some]

theorem optionMembers_of_read? {content : Text}
    {given : List (Text × List (Text × Option Text))}
    (h : Json.read? content = some (document given)) (name : Text) :
    optionMembers content name = ((Dict.Entries.get? name given.reverse).getD []).map
      fun (option, value?) => (option, valueDocument value?) := by
  rw [optionMembers, sectionMembers_of_read? h, ← List.map_reverse, Dict.Entries.get?_mapValues]
  cases Dict.Entries.get? name given.reverse with
  | none => rfl
  | some options =>
    rw [Option.map_some, Option.bind_some, members?_objectDocument, Option.getD_some,
      Option.getD_some]

/-- The options of a section in a document, where null is the empty text. -/
def optionsOf (given : List (Text × Option Text)) : Options :=
  Dict.ofList (given.map fun (option, value?) => (option, value?.getD []))

theorem keys_optionsOf (given : List (Text × Option Text)) :
    (optionsOf given).keys = (Dict.Entries.keys given).eraseDups :=
  (Dict.keys_ofList _).trans
    (congrArg List.eraseDups
      (Dict.keys_mapValues (fun value? : Option Text => value?.getD []) given))

theorem get?_optionsOf (given : List (Text × Option Text)) (option : Text) :
    (optionsOf given).get? option =
      (Dict.Entries.get? option given.reverse).map fun value? => value?.getD [] := by
  rw [optionsOf, Dict.get?_ofList, ← List.map_reverse]
  exact Dict.Entries.get?_mapValues (fun value? : Option Text => value?.getD []) ..

theorem gives_json {content : Text} (h : readJson? content = some raw) :
    (json content).Gives raw := by
  obtain ⟨_, hdocument, hraw⟩ := Option.bind_eq_some_iff.mp h
  obtain ⟨given, rfl, hsections⟩ := (ofJson?_eq_some_iff _ raw).mp hraw
  have hsections : raw.sections = Dict.ofList (given.map fun (name, options) =>
      (name, optionsOf options)) := hsections
  have hsection : ∀ name, (raw.section? name).getD .empty =
      optionsOf ((Dict.Entries.get? name given.reverse).getD []) := by
    intro name
    rw [section?, hsections, Dict.get?_ofList, ← List.map_reverse, Dict.Entries.get?_mapValues]
    cases Dict.Entries.get? name given.reverse <;> rfl
  refine ⟨?_, fun name => ?_, fun name option => ?_⟩
  · rw [sectionNames, hsections, Dict.keys_ofList, Dict.keys_mapValues, sections,
      sectionMembers_of_read? hdocument, Dict.keys_mapValues]
  · rw [optionNames_eq_getD, hsection, keys_optionsOf, options, optionMembers_of_read? hdocument,
      Dict.keys_mapValues]
  · rw [get?_eq_getD, hsection, get?_optionsOf, value?, optionMembers_of_read? hdocument,
      ← List.map_reverse, Dict.Entries.get?_mapValues]
    cases Dict.Entries.get? option ((Dict.Entries.get? name given.reverse).getD []).reverse with
    | none => rfl
    | some value? => exact ((valueOfJson?_eq_some_iff _ _).mpr ⟨value?, rfl, rfl⟩).symm

/-- **What is read stands in the order of its source.** -/
theorem gives_of_read? {source : Source} (h : source.read? = some raw) : source.Gives raw := by
  cases source with
  | lines content =>
    cases hread : RawConfig.read content with
    | error fault =>
      rw [read?, hread] at h
      cases h
    | ok start =>
      rw [read?, hread] at h
      obtain rfl := Option.some.inj h
      exact gives_lines hread
  | json content => exact gives_json h

/-- **A configuration stays a well-ordered map.**  What is read from a source has its
sections and options in the order in which they come there, each once and with the value
that comes last.  After any edits, one more edit does what it is for and leaves all other
places alone: a value that is overwritten stays where it is, and what is new goes last, save
a section that is to be first.  And from any moment of a run to any later one, all names
stay different, the sections and options that are not erased in between stay in order, and
an option has the value that was set last unless it was erased since. -/
theorem edited_of_read {source : Source} {start : RawConfig} (h : source.read? = some start)
    (earlier later : List Edit) :
    source.Gives start ∧
      (∀ edit : Edit, edit.Effect (start.editAll earlier).toLists
        (start.editAll (earlier ++ [edit])).toLists) ∧
      Edited later (start.editAll earlier) (start.editAll (earlier ++ later)) := by
  refine ⟨gives_of_read? h, fun edit => ?_, ?_⟩
  · rw [editAll_append]
    exact (start.editAll earlier).effect_edit edit
  · rw [editAll_append]
    exact (start.editAll earlier).edited_editAll later

/-- Lines that open a section twice and set an option in it twice, the second time over two
lines. -/
def reopenedLines : Text := "[web]\nport = 80\nhost = a\n[db]\nsize = 1\n[web]\nport = 81\n  82\n"

/-- What these lines are read as. -/
def reopened : RawConfig :=
  .ofLists [("web", [("port", "81\n82"), ("host", "a")]), ("db", [("size", "1")])]

/-- Edits that erase an option and set it again, and make a section first. -/
def firstEdits : List Edit :=
  [.ensureSectionFirst "DEFAULT", .erase "web" "port", .set "web" "port" "90"]

/-- Edits that overwrite a value, and erase a section and make it again. -/
def secondEdits : List Edit :=
  [.set "web" "host" "b", .eraseSection "db", .ensureSection "fs", .set "db" "size" "2",
    .ensureSectionFirst "env", .erase "db" "host"]

theorem edited_of_read_reopened :
    (lines reopenedLines).read? = some reopened ∧
      reopened.sectionNames = ["web".toList, "db".toList] ∧
      (reopened.editAll (firstEdits ++ secondEdits)).toLists =
        ([("env", []), ("DEFAULT", []), ("web", [("host", "b"), ("port", "90")]), ("fs", []),
          ("db", [("size", "2")])] : List (Text × List (Text × Text))) ∧
      DistinctNames (reopened.editAll (firstEdits ++ secondEdits)).toLists ∧
      (reopened.editAll (firstEdits ++ secondEdits)).get? "db" "size" = some "2".toList := by
  have hread : (lines reopenedLines).read? = some reopened := by decide +kernel
  obtain ⟨hgives, -, hedited⟩ := edited_of_read hread firstEdits secondEdits
  refine ⟨hread, hgives.sections.trans (by decide +kernel), by decide +kernel, hedited.distinct, ?_⟩
  -- the section is erased before the option is set, and another option is erased after that
  have hset : Edit.SetLast "db" "size" "2" secondEdits :=
    ⟨secondEdits.take 3, secondEdits.drop 4, rfl, by
      simp [secondEdits, Edit.Spares, Edit.Removes]⟩
  exact (hedited.values ..).mpr (.inl hset)

end Source

end ScopedConfig.RawConfig
