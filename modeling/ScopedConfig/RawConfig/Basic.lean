import ScopedConfig.Dict
import ScopedConfig.Text.Basic

/-! Raw configurations: named sections of named options with text values, all in
the order in which they came.  An empty section is a section; removing the last
option of a section leaves it empty. -/
namespace ScopedConfig

/-- The options of a section and their values. -/
abbrev Options := Dict Text Text

/-- Sections of options. -/
structure RawConfig where
  sections : Dict Text Options
  deriving DecidableEq, Inhabited

namespace RawConfig

/-- The configuration without sections. -/
def empty : RawConfig := ⟨.empty⟩

/-- Whether there is no section. -/
def isEmpty (raw : RawConfig) : Bool := raw.sections.isEmpty

/-- The number of sections. -/
def size (raw : RawConfig) : Nat := raw.sections.size

/-- The names of the sections, in order. -/
def sectionNames (raw : RawConfig) : List Text := raw.sections.keys

/-- The options of a section. -/
def section? (raw : RawConfig) (name : Text) : Option Options := raw.sections.get? name

/-- Whether there is a section of the name. -/
def hasSection (raw : RawConfig) (name : Text) : Bool := raw.sections.contains name

/-- The options of a section, none if there is no such section. -/
def optionNames (raw : RawConfig) (name : Text) : List Text :=
  ((raw.section? name).map Dict.keys).getD []

/-- The value of an option. -/
def get? (raw : RawConfig) (sectionName option : Text) : Option Text :=
  (raw.section? sectionName).bind (·.get? option)

/-- The configuration with a section of the name, which goes last if it is new. -/
def ensureSection (raw : RawConfig) (name : Text) : RawConfig :=
  ⟨raw.sections.ensure name .empty⟩

/-- The configuration with a section of the name, which goes first if it is new. -/
def ensureSectionFirst (raw : RawConfig) (name : Text) : RawConfig :=
  ⟨raw.sections.ensureFirst name .empty⟩

/-- The configuration with `f` applied to the options of a section, if it has
that section. -/
def modifySection (raw : RawConfig) (name : Text) (f : Options → Options) : RawConfig :=
  ⟨raw.sections.modify name f⟩

/-- The configuration with a value for an option, in a section that is made if
it is missing. -/
def set (raw : RawConfig) (sectionName option value : Text) : RawConfig :=
  (raw.ensureSection sectionName).modifySection sectionName (·.insert option value)

/-- The configuration with `f` applied to the value of an option, if it has
one. -/
def modify (raw : RawConfig) (sectionName option : Text) (f : Text → Text) : RawConfig :=
  raw.modifySection sectionName (·.modify option f)

/-- The configuration without an option. -/
def erase (raw : RawConfig) (sectionName option : Text) : RawConfig :=
  raw.modifySection sectionName (·.erase option)

/-- The configuration without a section. -/
def eraseSection (raw : RawConfig) (name : Text) : RawConfig := ⟨raw.sections.erase name⟩

/-- The configuration with `f` applied to every value. -/
def mapValues (raw : RawConfig) (f : Text → Text) : RawConfig := ⟨raw.sections.map (·.map f)⟩

/-- The sections and their options as lists. -/
def toLists (raw : RawConfig) : List (Text × List (Text × Text)) :=
  raw.sections.entries.map fun (name, options) => (name, options.entries)

/-- The configuration of a list of sections; sections and options that are
repeated are merged into the first of their name. -/
def ofLists (sections : List (Text × List (Text × Text))) : RawConfig :=
  sections.foldl
    (fun raw (name, options) =>
      options.foldl (fun raw (option, value) => raw.set name option value)
        (raw.ensureSection name))
    empty

/-- Whether two configurations hold the same values, whatever their order. -/
def same (a b : RawConfig) : Bool :=
  a.sections.sameBy (Dict.sameBy (fun x y => decide (x = y))) b.sections

end RawConfig
end ScopedConfig
