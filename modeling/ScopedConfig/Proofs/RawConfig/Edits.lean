import Mathlib.Data.List.Basic
import Mathlib.Tactic.Tauto
import ScopedConfig.RawConfig.Lemmas

/-! # Edits of a configuration

A configuration is edited by setting and erasing options and by making and erasing
sections.  Its lists of sections and options are lists with keys of their own, and what
one edit does to them is said without looking for anything (`Edit.Effect`): a value goes
over the one that is there or last, what is erased leaves the others in order, and a
section that is made goes last, or first if that is asked for.

What edits have done one after another (`Edited`) is then said for any two moments of a
run: all that was not erased in between is in the order in which it was, what is new
stands behind it or, for sections made first, before it, and an option has the value that
was set for it last unless it was erased since.  One edit does this (`edited_edit`), and
what two runs do is what the run of both does (`Edited.trans`).
-/
namespace ScopedConfig

namespace Dict.Entries

variable {κ α : Type}

/-- **A value is put under a key**: over the one that is there, in its place, or last. -/
inductive Put (key : κ) (value : α) : List (κ × α) → List (κ × α) → Prop where
  | inPlace (before : List (κ × α)) (old : α) (after : List (κ × α)) :
      Put key value (before ++ (key, old) :: after) (before ++ (key, value) :: after)
  | last {entries : List (κ × α)} :
      key ∉ keys entries → Put key value entries (entries ++ [(key, value)])

/-- **A key is taken out**, if it is there, and the others stay in order. -/
inductive Taken (key : κ) : List (κ × α) → List (κ × α) → Prop where
  | out (before : List (κ × α)) (old : α) (after : List (κ × α)) :
      Taken key (before ++ (key, old) :: after) (before ++ after)
  | absent {entries : List (κ × α)} : key ∉ keys entries → Taken key entries entries

variable [DecidableEq κ]

theorem put_insert (key : κ) (value : α) (entries : List (κ × α)) :
    Put key value entries (insert key value entries) := by
  induction entries with
  | nil => exact .last (by simp [keys])
  | cons entry rest ih =>
    obtain ⟨k, old⟩ := entry
    by_cases h : k = key
    · subst h
      rw [insert, if_pos rfl]
      exact .inPlace [] old rest
    · rw [insert, if_neg h]
      generalize insert key value rest = inserted at ih
      cases ih with
      | inPlace before old' after => exact .inPlace ((k, old) :: before) old' after
      | last absent => exact .last (by simpa [keys, Ne.symm h] using absent)

/-- Only the first entry of a key is taken out, so there must not be a second one. -/
theorem taken_erase {key : κ} {entries : List (κ × α)} (h : (keys entries).Nodup) :
    Taken key entries (erase key entries) := by
  induction entries with
  | nil => exact .absent (by simp [keys])
  | cons entry rest ih =>
    obtain ⟨k, old⟩ := entry
    obtain ⟨hk, hr⟩ := List.nodup_cons.mp h
    by_cases e : k = key
    · subst e
      rw [erase, List.filter_cons_of_neg (by simp), ← erase, erase_of_not_mem hk]
      exact .out [] old rest
    · rw [erase, List.filter_cons_of_pos (by simpa using e), ← erase]
      have hrest := ih hr
      generalize erase key rest = remaining at hrest
      cases hrest with
      | out before old' after => exact .out ((k, old) :: before) old' after
      | absent absent => exact .absent (by simpa [keys, Ne.symm e] using absent)

end Dict.Entries

namespace RawConfig

/-- **One edit of a configuration.**  A value that is written into a section that has just
been made is set by the next edit. -/
inductive Edit where
  | set (name option value : Text)
  | erase (name option : Text)
  | eraseSection (name : Text)
  | ensureSection (name : Text)
  | ensureSectionFirst (name : Text)
  deriving DecidableEq

/-- The configuration after an edit. -/
def edit (raw : RawConfig) : Edit → RawConfig
  | .set name option value => raw.set name option value
  | .erase name option => raw.erase name option
  | .eraseSection name => raw.eraseSection name
  | .ensureSection name => raw.ensureSection name
  | .ensureSectionFirst name => raw.ensureSectionFirst name

/-- The configuration after edits one after another. -/
def editAll (raw : RawConfig) (edits : List Edit) : RawConfig := edits.foldl edit raw

theorem editAll_append (raw : RawConfig) (earlier later : List Edit) :
    raw.editAll (earlier ++ later) = (raw.editAll earlier).editAll later :=
  List.foldl_append

namespace Edit

/-- **What an edit does to the lists of a configuration.** -/
def Effect : Edit → List (Text × List (Text × Text)) → List (Text × List (Text × Text)) → Prop
  | set name option value, before, after =>
    ∃ options, Dict.Entries.Put option value ((Dict.Entries.get? name before).getD []) options ∧
      Dict.Entries.Put name options before after
  | erase name option, before, after =>
    name ∉ before.map Prod.fst ∧ after = before ∨
      ∃ old options, Dict.Entries.get? name before = some old ∧
        Dict.Entries.Taken option old options ∧ Dict.Entries.Put name options before after
  | eraseSection name, before, after => Dict.Entries.Taken name before after
  | ensureSection name, before, after =>
    after = if name ∈ before.map Prod.fst then before else before ++ [(name, [])]
  | ensureSectionFirst name, before, after =>
    after = if name ∈ before.map Prod.fst then before else (name, []) :: before

/-- Whether an edit takes an option out, by itself or with its section. -/
def Removes (name option : Text) (edit : Edit) : Prop :=
  edit = erase name option ∨ edit = eraseSection name

instance (name option : Text) (edit : Edit) : Decidable (edit.Removes name option) :=
  inferInstanceAs (Decidable (_ ∨ _))

/-- Whether an edit has nothing to do with the value of an option. -/
def Spares (name option : Text) (edit : Edit) : Prop :=
  (∀ value, edit ≠ set name option value) ∧ ¬ edit.Removes name option

/-- Whether an edit puts a section last if it is not there. -/
def MakesLast (name : Text) (edit : Edit) : Prop :=
  edit = ensureSection name ∨ ∃ option value, edit = set name option value

/-- **The last value of an option**: edits set it, and none of them has to do with it after
that. -/
def SetLast (name option value : Text) (edits : List Edit) : Prop :=
  ∃ earlier later, edits = earlier ++ set name option value :: later ∧
    ∀ edit ∈ later, edit.Spares name option

/-- What an edit may have to do with an option. -/
theorem spares_or (name option : Text) (edit : Edit) :
    edit.Spares name option ∨ (∃ value, edit = set name option value) ∨
      edit.Removes name option := by
  by_cases hset : ∃ value, edit = set name option value
  · exact .inr (.inl hset)
  · by_cases hremoves : edit.Removes name option
    · exact .inr (.inr hremoves)
    · exact .inl ⟨not_exists.mp hset, hremoves⟩

variable {name option value : Text} {edit : Edit} {earlier later : List Edit}

theorem setLast_singleton_iff :
    SetLast name option value [edit] ↔ edit = set name option value := by
  constructor
  · rintro ⟨earlier, later, hsplit, -⟩
    have hmem : set name option value ∈ [edit] := by simp [hsplit]
    exact (List.mem_singleton.mp hmem).symm
  · rintro rfl
    exact ⟨[], [], rfl, by simp⟩

theorem setLast_append_iff :
    SetLast name option value (earlier ++ later) ↔
      SetLast name option value later ∨
        SetLast name option value earlier ∧ ∀ edit ∈ later, edit.Spares name option := by
  constructor
  · rintro ⟨front, back, hsplit, hback⟩
    rcases List.append_eq_append_iff.mp hsplit with ⟨rest, rfl, hlater⟩ | ⟨rest, hearlier, hrest⟩
    · exact .inl ⟨rest, back, hlater, hback⟩
    · -- the edit that sets it is the first one of the later edits, or among the earlier ones
      cases rest with
      | nil => exact .inl ⟨[], back, hrest.symm, hback⟩
      | cons edit rest =>
        obtain ⟨rfl, rfl⟩ := List.cons.inj hrest
        obtain ⟨hrest, hlater⟩ := List.forall_mem_append.mp hback
        exact .inr ⟨⟨front, rest, hearlier, hrest⟩, hlater⟩
  · rintro (⟨front, back, rfl, hback⟩ | ⟨⟨front, back, rfl, hback⟩, hlater⟩)
    · exact ⟨earlier ++ front, back, by simp, hback⟩
    · exact ⟨front, back ++ later, by simp, List.forall_mem_append.mpr ⟨hback, hlater⟩⟩

end Edit

/-! ## What one edit does -/

theorem effect_edit (raw : RawConfig) (edit : Edit) :
    edit.Effect raw.toLists (raw.edit edit).toLists := by
  cases edit with
  | set name option value =>
    refine ⟨_, Dict.Entries.put_insert .., ?_⟩
    rw [RawConfig.edit, toLists_set]
    exact Dict.Entries.put_insert ..
  | erase name option =>
    cases hsection : raw.section? name with
    | none =>
      have absent : name ∉ raw.sectionNames := Dict.get?_eq_none_iff.mp hsection
      exact .inl ⟨raw.sectionNames_eq_map_toLists ▸ absent,
        congrArg toLists (modifySection_of_not_mem absent _)⟩
    | some options =>
      refine .inr ⟨options.entries, _, ?_, Dict.Entries.taken_erase options.nodup, ?_⟩
      · rw [get?_toLists, hsection, Option.map_some]
      · rw [RawConfig.edit, RawConfig.erase, toLists_modifySection hsection]
        exact Dict.Entries.put_insert ..
  | eraseSection name =>
    rw [RawConfig.edit, toLists_eraseSection]
    exact Dict.Entries.taken_erase raw.distinctNames_toLists.1
  | ensureSection name => exact raw.toLists_ensureSection name
  | ensureSectionFirst name => exact raw.toLists_ensureSectionFirst name

variable {name option value : Text} {edit : Edit} {edits earlier later : List Edit}
  {raw middle edited : RawConfig}

theorem get?_edit_of_removes (h : edit.Removes name option) (raw : RawConfig) :
    (raw.edit edit).get? name option = none := by
  rcases h with rfl | rfl
  · exact (raw.get?_erase ..).trans (if_pos ⟨rfl, rfl⟩)
  · exact (raw.get?_eraseSection ..).trans (if_pos rfl)

theorem get?_edit_of_spares (h : edit.Spares name option) (raw : RawConfig) :
    (raw.edit edit).get? name option = raw.get? name option := by
  obtain ⟨hset, hremoves⟩ := h
  cases edit with
  | set name' option' value =>
    refine (raw.get?_set ..).trans (if_neg ?_)
    rintro ⟨rfl, rfl⟩
    exact hset value rfl
  | erase name' option' =>
    refine (raw.get?_erase ..).trans (if_neg ?_)
    rintro ⟨rfl, rfl⟩
    exact hremoves (.inl rfl)
  | eraseSection name' =>
    refine (raw.get?_eraseSection ..).trans (if_neg ?_)
    rintro rfl
    exact hremoves (.inr rfl)
  | ensureSection name' => exact raw.get?_ensureSection ..
  | ensureSectionFirst name' => exact raw.get?_ensureSectionFirst ..

theorem get?_edit_eq_some_iff :
    (raw.edit edit).get? name option = some value ↔
      edit = .set name option value ∨
        raw.get? name option = some value ∧ edit.Spares name option := by
  rcases edit.spares_or name option with hspares | ⟨value', rfl⟩ | hremoves
  · rw [get?_edit_of_spares hspares, or_iff_right (hspares.1 value), and_iff_left hspares]
  · have hset : (raw.edit (.set name option value')).get? name option = some value' :=
      (raw.get?_set ..).trans (if_pos ⟨rfl, rfl⟩)
    have hnot : ¬ (Edit.set name option value').Spares name option := fun h => h.1 value' rfl
    simp [hset, hnot]
  · have hset : edit ≠ .set name option value := by
      rcases hremoves with rfl | rfl <;> simp
    have hnot : ¬ edit.Spares name option := fun h => h.2 hremoves
    simp [get?_edit_of_removes hremoves, hset, hnot]

/-! ## Names in order -/

/-- **Names keep their order.**  Of the names before, those that stay are there in order,
and the others are new: some stand first and some last. -/
def KeepsOrder (stays first last : Text → Prop) [DecidablePred stays]
    (before after : List Text) : Prop :=
  ∃ front back, after = front ++ before.filter stays ++ back ∧
    (∀ name ∈ front, first name) ∧ ∀ name ∈ back, last name

section

variable {stays first last : Text → Prop} [DecidablePred stays] {before after : List Text}

theorem keepsOrder_of_eq_filter (h : after = before.filter stays) :
    KeepsOrder stays first last before after :=
  ⟨[], [], by rw [h, List.nil_append, List.append_nil], by simp, by simp⟩

theorem keepsOrder_self (h : ∀ name, stays name) : KeepsOrder stays first last before before :=
  keepsOrder_of_eq_filter (by simp [h])

theorem keepsOrder_concat (h : ∀ other, stays other) (hlast : last name) :
    KeepsOrder stays first last before (before ++ [name]) :=
  ⟨[], [name], by simp [h], by simp, by simpa using hlast⟩

theorem keepsOrder_cons (h : ∀ other, stays other) (hfirst : first name) :
    KeepsOrder stays first last before (name :: before) :=
  ⟨[name], [], by simp [h], by simpa using hfirst, by simp⟩

end

/-- What keeps the order twice keeps it. -/
theorem KeepsOrder.trans
    {stays stays' stays'' first first' first'' last last' last'' : Text → Prop}
    [DecidablePred stays] [DecidablePred stays'] [DecidablePred stays'']
    {before middle after : List Text}
    (h : KeepsOrder stays first last before middle)
    (h' : KeepsOrder stays' first' last' middle after)
    (hstays : ∀ name, stays'' name ↔ stays name ∧ stays' name)
    (hfirst : ∀ name, first name ∨ first' name → first'' name)
    (hlast : ∀ name, last name ∨ last' name → last'' name) :
    KeepsOrder stays'' first'' last'' before after := by
  obtain ⟨front, back, rfl, hfront, hback⟩ := h
  obtain ⟨front', back', rfl, hfront', hback'⟩ := h'
  -- what was new in the middle may be gone in the end
  refine ⟨front' ++ front.filter stays', back.filter stays' ++ back', ?_, ?_, ?_⟩
  · simp [List.filter_filter, hstays, Bool.and_comm]
  · intro name hname
    rcases List.mem_append.mp hname with hnew | hold
    · exact hfirst name (.inr (hfront' name hnew))
    · exact hfirst name (.inl (hfront name (List.mem_filter.mp hold).1))
  · intro name hname
    rcases List.mem_append.mp hname with hold | hnew
    · exact hlast name (.inl (hback name (List.mem_filter.mp hold).1))
    · exact hlast name (.inr (hback' name hnew))

theorem sectionNames_edit_of_makesLast (h : edit.MakesLast name) (raw : RawConfig) :
    (raw.edit edit).sectionNames =
      if name ∈ raw.sectionNames then raw.sectionNames else raw.sectionNames ++ [name] := by
  rcases h with rfl | ⟨option, value, rfl⟩
  · exact raw.sectionNames_ensureSection name
  · exact raw.sectionNames_set name option value

theorem keepsOrder_sectionNames_of_makesLast (h : edit.MakesLast name) (raw : RawConfig) :
    KeepsOrder (fun name => edit ≠ .eraseSection name)
      (fun name => edit = .ensureSectionFirst name) (fun name => edit.MakesLast name)
      raw.sectionNames (raw.edit edit).sectionNames := by
  have hstays : ∀ other, edit ≠ .eraseSection other := by
    rcases h with rfl | ⟨option, value, rfl⟩ <;> simp
  rw [sectionNames_edit_of_makesLast h]
  split
  · exact keepsOrder_self hstays
  · exact keepsOrder_concat hstays h

theorem keepsOrder_sectionNames_edit (raw : RawConfig) (edit : Edit) :
    KeepsOrder (fun name => edit ≠ .eraseSection name)
      (fun name => edit = .ensureSectionFirst name) (fun name => edit.MakesLast name)
      raw.sectionNames (raw.edit edit).sectionNames := by
  cases edit with
  | set name option value =>
    exact keepsOrder_sectionNames_of_makesLast (.inr ⟨option, value, rfl⟩) raw
  | ensureSection name => exact keepsOrder_sectionNames_of_makesLast (.inl rfl) raw
  | erase name option =>
    rw [RawConfig.edit, sectionNames_erase]
    exact keepsOrder_self (by simp)
  | eraseSection name =>
    refine keepsOrder_of_eq_filter ?_
    simp [RawConfig.edit, sectionNames_eraseSection, eq_comm]
  | ensureSectionFirst name =>
    rw [RawConfig.edit, sectionNames_ensureSectionFirst]
    split
    · exact keepsOrder_self (by simp)
    · exact keepsOrder_cons (by simp) rfl

theorem keepsOrder_optionNames_edit (raw : RawConfig) (edit : Edit) (name : Text) :
    KeepsOrder (fun option => ¬ edit.Removes name option) (fun _ => False)
      (fun option => ∃ value, edit = .set name option value)
      (raw.optionNames name) ((raw.edit edit).optionNames name) := by
  cases edit with
  | set name' option value =>
    rw [RawConfig.edit, optionNames_set]
    split
    · next h => exact keepsOrder_concat (by simp [Edit.Removes]) ⟨value, by rw [h.1]⟩
    · rw [List.append_nil]
      exact keepsOrder_self (by simp [Edit.Removes])
  | erase name' option =>
    refine keepsOrder_of_eq_filter ?_
    rw [RawConfig.edit, optionNames_erase]
    refine List.filter_congr fun other _ => ?_
    simp [Edit.Removes, eq_comm]
  | eraseSection name' =>
    refine keepsOrder_of_eq_filter ?_
    rw [RawConfig.edit, optionNames_eraseSection]
    by_cases h : name = name' <;> simp [Edit.Removes, h, eq_comm]
  | ensureSection name' =>
    rw [RawConfig.edit, optionNames_ensureSection]
    exact keepsOrder_self (by simp [Edit.Removes])
  | ensureSectionFirst name' =>
    rw [RawConfig.edit, optionNames_ensureSectionFirst]
    exact keepsOrder_self (by simp [Edit.Removes])

/-! ## What edits do one after another -/

/-- **What edits have done to a configuration.** -/
structure Edited (edits : List Edit) (raw edited : RawConfig) : Prop where
  /-- No two sections have one name, and no section has two options of one name. -/
  distinct : DistinctNames edited.toLists
  /-- The sections that were never erased are in order, between those made first and those
  made last. -/
  sections : KeepsOrder (fun name => .eraseSection name ∉ edits)
    (fun name => .ensureSectionFirst name ∈ edits)
    (fun name => ∃ edit ∈ edits, edit.MakesLast name)
    raw.sectionNames edited.sectionNames
  /-- The options that were never taken out are in order, and those that are new are
  behind them. -/
  options : ∀ name, KeepsOrder (fun option => ∀ edit ∈ edits, ¬ edit.Removes name option)
    (fun _ => False) (fun option => ∃ value, .set name option value ∈ edits)
    (raw.optionNames name) (edited.optionNames name)
  /-- An option has the value that was set last, or the one it had. -/
  values : ∀ name option value, edited.get? name option = some value ↔
    Edit.SetLast name option value edits ∨
      raw.get? name option = some value ∧ ∀ edit ∈ edits, edit.Spares name option

theorem edited_nil (raw : RawConfig) : Edited [] raw raw where
  distinct := raw.distinctNames_toLists
  sections := keepsOrder_self (by simp)
  options _ := keepsOrder_self (by simp)
  values := by simp [Edit.SetLast]

theorem edited_edit (raw : RawConfig) (edit : Edit) : Edited [edit] raw (raw.edit edit) where
  distinct := distinctNames_toLists _
  sections := by simpa [eq_comm] using raw.keepsOrder_sectionNames_edit edit
  options name := by simpa [eq_comm] using raw.keepsOrder_optionNames_edit edit name
  values := by simp [Edit.setLast_singleton_iff, get?_edit_eq_some_iff]

theorem Edited.trans (h : Edited earlier raw middle) (h' : Edited later middle edited) :
    Edited (earlier ++ later) raw edited where
  distinct := h'.distinct
  sections := by
    refine h.sections.trans h'.sections (fun name => ?_) (fun name => ?_) fun name => ?_
    · rw [List.mem_append, not_or]
    · exact List.mem_append.mpr
    · rintro (⟨edit, hedit, hmakes⟩ | ⟨edit, hedit, hmakes⟩)
      · exact ⟨edit, List.mem_append_left _ hedit, hmakes⟩
      · exact ⟨edit, List.mem_append_right _ hedit, hmakes⟩
  options name := by
    refine (h.options name).trans (h'.options name) (fun option => ?_) (fun option => ?_)
      fun option => ?_
    · exact List.forall_mem_append
    · exact or_self_iff.mp
    · rintro (⟨value, hvalue⟩ | ⟨value, hvalue⟩)
      · exact ⟨value, List.mem_append_left _ hvalue⟩
      · exact ⟨value, List.mem_append_right _ hvalue⟩
  values name option value := by
    rw [h'.values, h.values, Edit.setLast_append_iff, List.forall_mem_append]
    tauto

/-- **What edits do one after another.** -/
theorem edited_editAll (raw : RawConfig) (edits : List Edit) :
    Edited edits raw (raw.editAll edits) := by
  induction edits generalizing raw with
  | nil => exact edited_nil raw
  | cons edit rest ih =>
    -- the run of the rest starts from what the first edit leaves
    exact (raw.edited_edit edit).trans (ih (raw.edit edit))

end RawConfig
end ScopedConfig
