import ScopedConfig.Proofs.Text.Cut
import ScopedConfig.Proofs.Text.Lines
import ScopedConfig.RawConfig.Lemmas
import ScopedConfig.RawConfig.Writer

/-! # Reading one written line

The names that the text format can hold are those that a line of it can be read as
again: `IsSectionName` and `IsOptionName` say which.  For such names each line that
the writer makes is read as what it was made for, in whatever state the reader is:
a header starts its section (`step_header`), a first line sets its option
(`step_firstLine`), and an indented line goes on with the value, whatever
characters it holds (`step_continuation`).

All three are stated for the line without the carriage return that reading takes
away with the line feed.
-/
namespace ScopedConfig

/-- **What a section can be named** in the text format. -/
structure IsSectionName (name : Text) : Prop where
  nonempty : name ≠ []
  trimmed : Text.trim name = name
  oneLine : '\n' ∉ name

/-- The characters that a line of an option cannot start with: those of comments
and headers. -/
def lineMarks : List Char := ['#', ';', '[']

/-- **What an option can be named** in the text format. -/
structure IsOptionName (option : Text) : Prop extends IsSectionName option where
  noEquals : '=' ∉ option
  noMark : ∀ c ∈ lineMarks, option.head? ≠ some c

instance (name : Text) : Decidable (IsSectionName name) :=
  decidable_of_iff (name ≠ [] ∧ Text.trim name = name ∧ '\n' ∉ name)
    ⟨fun ⟨hn, ht, ho⟩ => ⟨hn, ht, ho⟩, fun h => ⟨h.nonempty, h.trimmed, h.oneLine⟩⟩

-- the marks are tried one by one, not all characters
instance (option : Text) : Decidable (IsOptionName option) :=
  decidable_of_iff
    (IsSectionName option ∧ '=' ∉ option ∧ (lineMarks.all (option.head? ≠ some ·)) = true)
    ⟨fun ⟨hn, he, hm⟩ => ⟨hn, he, by simpa using hm⟩,
      fun h => ⟨h.toIsSectionName, h.noEquals, by simpa using h.noMark⟩⟩

theorem IsSectionName.solid {name : Text} (h : IsSectionName name) :
    Text.StartsSolid name ∧ Text.EndsSolid name :=
  Text.trim_eq_self_iff.mp h.trimmed

namespace RawConfig
open Text LineReader

/-! ## Runs of the reader -/

/-- The reader takes the lines one after another, from one state to another. -/
inductive Reads : LineReader → List Text → LineReader → Prop where
  | nil (reader : LineReader) : Reads reader [] reader
  | cons {reader next last : LineReader} {line : Text} {rest : List Text} :
      reader.step line = .ok next → Reads next rest last → Reads reader (line :: rest) last

theorem Reads.append {reader next last : LineReader} {ls rest : List Text}
    (h : Reads reader ls next) (hr : Reads next rest last) : Reads reader (ls ++ rest) last := by
  induction h with
  | nil => exact hr
  | cons hstep _ ih => exact .cons hstep (ih hr)

/-- Lines are read without an error exactly if there is such a run. -/
theorem steps_eq_ok_iff {reader last : LineReader} {number : Nat} {ls : List Text} :
    reader.steps number ls = .ok last ↔ Reads reader ls last := by
  constructor
  · intro h
    induction ls generalizing reader number with
    | nil =>
      obtain rfl := Except.ok.inj h
      exact .nil reader
    | cons line ls ih =>
      rw [LineReader.steps] at h
      split at h
      · next next hstep => exact .cons hstep (ih h)
      · cases h
  · intro h
    induction h generalizing number with
    | nil => rfl
    | cons hstep _ ih =>
      rw [LineReader.steps, hstep]
      exact ih

/-- A text that is read is one such run, with the values unquoted behind it. -/
theorem exists_reads_of_read {text : Text} {raw : RawConfig} (h : read text = .ok raw) :
    ∃ last, Reads .initial (lines text) last ∧ raw = last.raw.mapValues unquote := by
  unfold read readLines at h
  cases hsteps : LineReader.initial.steps 1 (lines text) with
  | error e =>
    rw [hsteps] at h
    cases h
  | ok last =>
    rw [hsteps] at h
    exact ⟨last, steps_eq_ok_iff.mp hsteps, (Except.ok.inj h).symm⟩

variable (reader : LineReader)

/-! ## Headers -/

theorem step_of_startsSolid {line : Text} (h : StartsSolid line) :
    reader.step line = (Line.read line).map reader.take := by
  unfold LineReader.step
  rw [startsBlank_eq_false h]
  split
  · contradiction
  · rfl

theorem step_nil : reader.step [] = .ok { reader with openOption := none } := by
  rw [step_of_startsSolid reader startsSolid_nil]
  rfl

theorem read_header {name : Text} (h : IsSectionName name) :
    Line.read ('[' :: name ++ [']']) = .ok (.header name) := by
  have hblank : isBlank '[' = false := by decide
  have htrim : Text.trim ('[' :: name ++ [']']) = '[' :: (name ++ [']']) :=
    trim_of_solid (startsSolid_cons hblank) (endsSolid_concat ('[' :: name) (by decide))
  have hheader : readHeader (name ++ [']']) = .ok (.header name) := by
    obtain ⟨c, rest, rfl⟩ := List.exists_cons_of_ne_nil h.nonempty
    rw [readHeader, before?_concat, Option.map_some, h.trimmed]
  unfold Line.read
  rw [htrim]
  exact hheader

/-- The header of a section starts the section. -/
theorem step_header {name : Text} (h : IsSectionName name) :
    reader.step (dropReturn ('[' :: name ++ [']'])) =
      .ok ⟨reader.raw.ensureSection name, name, none⟩ := by
  have hsolid : StartsSolid ('[' :: name ++ [']']) := startsSolid_cons (by decide)
  rw [dropReturn_concat_of_ne ('[' :: name) (by decide), step_of_startsSolid reader hsolid, read_header h]
  rfl

/-! ## First lines -/

/-- What the first line of a value looks like: no blank starts it, and none ends
it unless it is quoted. -/
structure IsFirstLine (first : Text) : Prop where
  starts : StartsSolid first
  ends : first.head? = some quote ∨ EndsSolid first

theorem IsFirstLine.dropReturn {first : Text} (h : IsFirstLine first) :
    IsFirstLine (Text.dropReturn first) := by
  cases first with
  | nil => exact h
  | cons c rest =>
    have hc : isBlank c = false := h.starts c rfl
    have hne : c ≠ '\r' := by
      rintro rfl
      exact absurd hc (by decide)
    refine ⟨dropReturn_cons_of_ne rest hne ▸ startsSolid_cons hc, ?_⟩
    rcases h.ends with hq | he
    · exact .inl (by rw [dropReturn_cons_of_ne rest hne]; exact hq)
    · exact .inr (by rw [dropReturn_of_endsSolid he]; exact he)

theorem dropReturn_firstLine (option : Text) {first : Text} (h : StartsSolid first) :
    dropReturn (firstLine option first) = firstLine option (dropReturn first) := by
  cases first with
  | nil =>
    rw [dropReturn_nil, firstLine, if_pos rfl]
    exact (dropReturn_append option (by simp)).trans rfl
  | cons c rest =>
    have hne : c ≠ '\r' := by
      rintro rfl
      exact absurd (h '\r' rfl) (by decide)
    rw [dropReturn_cons_of_ne rest hne, firstLine, if_neg (List.cons_ne_nil _ _),
      firstLine, if_neg (List.cons_ne_nil _ _), dropReturn_append _ (List.cons_ne_nil _ _),
      dropReturn_cons_of_ne rest hne]

theorem readValue_of_isFirstLine {first : Text} (h : IsFirstLine first) :
    readValue first = first ∧ readValue (' ' :: first) = first := by
  have hstart : trimStart first = first := trimStart_eq_self_iff.mpr h.starts
  have hblank : trimStart (' ' :: first) = trimStart first := rfl
  rw [readValue, readValue, hblank, hstart]
  rcases h.ends with hq | he
  · simp [hq]
  · simp [trimEnd_eq_self_iff.mpr he]

theorem readAssignment_firstLine {option first : Text} (ho : IsOptionName option)
    (hf : IsFirstLine first) :
    readAssignment (firstLine option first) = .ok (.assignment option first) := by
  have hequals : '=' ∉ option ++ [' '] := by simpa using ho.noEquals
  have htrim : Text.trim (option ++ [' ']) = option :=
    trim_concat_of_blank ho.trimmed ho.nonempty (by decide)
  obtain ⟨hvalue, hvalue'⟩ := readValue_of_isFirstLine hf
  unfold readAssignment
  by_cases hnil : first = []
  · subst hnil
    rw [firstLine, if_pos rfl,
      show (option ++ " =" : Text) = (option ++ [' ']) ++ '=' :: [] by simp, cut_append hequals]
    simp [htrim, ho.nonempty, hvalue]
  · rw [firstLine, if_neg hnil,
      show (option ++ " = " ++ first : Text) = (option ++ [' ']) ++ '=' :: ' ' :: first by simp,
      cut_append hequals]
    simp [htrim, ho.nonempty, hvalue']

theorem read_firstLine {option first : Text} (ho : IsOptionName option)
    (hf : IsFirstLine first) :
    Line.read (firstLine option first) = .ok (.assignment option first) := by
  obtain ⟨c, rest, rfl⟩ := List.exists_cons_of_ne_nil ho.nonempty
  have hc : isBlank c = false := ho.solid.1 c rfl
  have hmark : ∀ m ∈ lineMarks, c ≠ m := fun m hm e => ho.noMark m hm (e ▸ rfl)
  obtain ⟨tail, htail⟩ : ∃ tail, firstLine (c :: rest) first = c :: tail := by
    unfold firstLine
    split <;> exact ⟨_, rfl⟩
  unfold Line.read
  rw [readAssignment_firstLine ho hf, htail, trim_cons_of_solid tail hc]
  simp [hmark '#' (by decide), hmark ';' (by decide), hmark '[' (by decide)]

/-- The first line of an option sets the option. -/
theorem step_firstLine {option first : Text} (ho : IsOptionName option)
    (hf : IsFirstLine first) :
    reader.step (dropReturn (firstLine option first)) =
      .ok { reader with
            raw := reader.raw.set reader.sectionName option (dropReturn first),
            openOption := some option } := by
  rw [dropReturn_firstLine option hf.starts]
  have hsolid : StartsSolid (firstLine option (dropReturn first)) := by
    obtain ⟨c, rest, rfl⟩ := List.exists_cons_of_ne_nil ho.nonempty
    unfold firstLine
    split <;> exact startsSolid_cons (ho.solid.1 c rfl)
  rw [step_of_startsSolid reader hsolid, read_firstLine ho hf.dropReturn]
  rfl

/-! ## Continuing lines -/

theorem dropReturn_indented (line : Text) :
    dropReturn (continuationIndent ++ line) = continuationIndent ++ dropReturn line := by
  cases line with
  | nil => rfl
  | cons c rest => exact dropReturn_append _ (List.cons_ne_nil c rest)

/-- An indented line goes on with the open value, whatever it holds. -/
theorem step_continuation {option : Text} (ho : reader.openOption = some option)
    (line : Text) :
    reader.step (dropReturn (continuationIndent ++ line)) =
      .ok { reader with
            raw := reader.raw.modify reader.sectionName option
              fun value => value ++ '\n' :: dropReturn line } := by
  have hblank : startsBlank (continuationIndent ++ dropReturn line) = true := rfl
  have hadded : continuation (continuationIndent ++ dropReturn line) = dropReturn line := by
    rw [continuation, after?_append, Option.getD_some]
  rw [dropReturn_indented]
  unfold LineReader.step
  rw [ho, hblank, hadded]

end RawConfig
end ScopedConfig
