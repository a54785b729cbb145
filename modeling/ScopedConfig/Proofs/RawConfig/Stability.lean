import ScopedConfig.Proofs.RawConfig.Fidelity

/-! # Texts settle when they are read

The reader takes more texts than the writer makes: indented options, sections and options
that come again, comments in the middle of a value, quotes that are never closed, tabs and
carriage returns.  Whatever it takes, what it makes of it has names of the text format, so
that the writer's text of it is read again (`read_render_of_read`).  That text is settled:
unless a value has a carriage return right before a line feed, it is the text of what is
read from it.
-/
namespace ScopedConfig.RawConfig
open Text

variable {raw r : RawConfig}

theorem lossless_iff :
    raw.Lossless ↔ raw.Writable ∧ ∀ name option value,
      raw.get? name option = some value → ¬ ['\r', '\n'] <:+: value := by
  constructor
  · exact fun h => ⟨h.writable, fun _ _ _ => h.noReturns_of_get?⟩
  · rintro ⟨hwritable, hreturns⟩
    refine ⟨hwritable, fun entry hentry pair hpair => ?_⟩
    exact hreturns entry.1 pair.1 pair.2 (get?_eq_some_iff.mpr ⟨entry.2, hentry, hpair⟩)

/-! ## Settled texts -/

/-- The lines of a section, given its options in a list. -/
def listLines (entry : Text × List (Text × Text)) : List Text :=
  ('[' :: entry.1 ++ [']']) :: entry.2.flatMap fun (option, value) => optionLines option value

/-- The lines of a configuration are those of its lists with the default section in
front. -/
theorem toLines_eq (raw : RawConfig) :
    raw.toLines = separated ((defaultAhead raw.toLists).map listLines) := by
  rw [← map_defaultFirst, List.map_map]
  rfl

theorem defaultAhead_defaultAhead (sections : List (Text × List (Text × Text))) :
    defaultAhead (defaultAhead sections) = defaultAhead sections := by
  simp [defaultAhead, List.filter_filter]

/-- The default section has the same place in the text wherever it stands. -/
theorem render_eq_of_toLists (h : r.toLists = defaultAhead raw.toLists) :
    r.render = raw.render := by
  rw [render, render, toLines_eq, toLines_eq, h, defaultAhead_defaultAhead]

/-- Values without carriage returns right before line feeds lose nothing. -/
theorem mapListValues_dropReturns (h : raw.Lossless) :
    mapListValues dropReturns (defaultAhead raw.toLists) = defaultAhead raw.toLists := by
  have hpairs (entry : Text × List (Text × Text)) (hentry : entry ∈ raw.toLists) :
      entry.2.map (fun pair => (pair.1, dropReturns pair.2)) = entry.2.map id :=
    List.map_congr_left fun pair hpair => by
      rw [dropReturns_eq_self_iff.mpr (h.noReturns entry hentry pair hpair), id_eq]
  have hsections : (defaultAhead raw.toLists).map
      (fun entry => (entry.1, entry.2.map fun pair => (pair.1, dropReturns pair.2))) =
      (defaultAhead raw.toLists).map id :=
    List.map_congr_left fun entry hentry => by
      rw [hpairs entry (mem_defaultAhead.mp hentry), List.map_id, id_eq]
  rwa [List.map_id] at hsections

/-- **Whatever is read can be written and read again.**  Its names are names of the text
format, and its text is read as the same sections and options in the same order, but for
the default section that comes first, with the same values but for carriage returns right
before line feeds.  If no value has one, the same comes back and has the same text. -/
theorem read_render_of_read {text : Text} (h : read text = .ok raw) :
    (∀ name ∈ raw.sectionNames, IsSectionName name) ∧
      (∀ name option, (raw.get? name option).isSome → IsOptionName option) ∧
      ∃ r, read raw.render = .ok r ∧
        r.toLists = mapListValues dropReturns (defaultAhead raw.toLists) ∧
        (r.same raw = true ↔ ∀ name option value,
          raw.get? name option = some value → ¬ ['\r', '\n'] <:+: value) ∧
        (r.same raw = true →
          r.toLists = defaultAhead raw.toLists ∧ r.render = raw.render) := by
  have hwritable := writable_of_read h
  obtain ⟨hsections, hoptions⟩ := writable_iff.mp hwritable
  obtain ⟨r, hread, hlists⟩ := exists_read_render hwritable
  refine ⟨hsections, hoptions, r, hread, hlists, ?_, fun hsame => ?_⟩
  · rw [same_of_read_render_iff hread, lossless_iff, and_iff_right hwritable]
  · have hlossless := (same_of_read_render_iff hread).mp hsame
    have hsettled := hlists.trans (mapListValues_dropReturns hlossless)
    exact ⟨hsettled, render_eq_of_toLists hsettled⟩

/-- Options that come again, sections that are opened again, indents of every kind, a comment
inside of a value, quotes that are closed late or never, and carriage returns. -/
def carelessText : Text :=
  "[app#0]\r\n  start = \"half\n\t  more\n; between\n   \"  \nkill = \" no end \nid = x\n" ++
    "stop = a\r\r\n    b\r\r\n c\n\n [ DEFAULT ]\nnodes\t= n1\nid = y\n[app#0]\n" ++
    "id = z\nlog = \n # no\n [k] = v\n"

/-- What `carelessText` is read as, with the line break of `stop` given. -/
def carelessLists (lineBreak : Text) : List (Text × List (Text × Text)) :=
  [("app#0", [("start", "half\nmore\n"), ("kill", "\" no end"), ("id", "z"),
      ("stop", "a\nb" ++ lineBreak ++ "c"), ("log", "\n# no\n[k] = v")]),
    ("DEFAULT", [("nodes", "n1"), ("id", "y")])]

theorem read_render_of_read_careless :
    read carelessText = .ok (ofLists (carelessLists "\r\n")) ∧
      ∃ r, read (ofLists (carelessLists "\r\n")).render = .ok r ∧
        r.toLists = defaultAhead (carelessLists "\n") ∧
        r.same (ofLists (carelessLists "\r\n")) = false := by
  have hread : read carelessText = .ok (ofLists (carelessLists "\r\n")) := by decide +kernel
  obtain ⟨-, -, r, hagain, hlists, hsame, -⟩ := read_render_of_read hread
  refine ⟨hread, r, hagain, hlists.trans (by decide +kernel), Bool.eq_false_iff.mpr fun h => ?_⟩
  exact hsame.mp h "app#0" "stop" "a\nb\r\nc" (by decide +kernel) (by decide)

end ScopedConfig.RawConfig
