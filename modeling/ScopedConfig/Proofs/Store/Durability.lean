import ScopedConfig.Proofs.RawConfig.Fidelity
import ScopedConfig.Proofs.Store.CommitEffect

/-! # What a commit leaves in the file

A commit that succeeds has written the text of the data it leaves in memory, to a
path that reads as that text (`read_of_commit`).  Validation looks at keywords
alone, so these data may hold what the text format cannot: a name of another shape
in a section that is free, or a carriage return before a line feed in a value.
Loading gives the data back exactly if there is neither (`load_of_commit_iff`).
-/
namespace ScopedConfig.Store

variable {store : Store} {files : FileTree} {newId : Text} {options : CommitOptions}
  {fault : Option Fault}

/-- **What a commit that is carried out leaves in memory is what the file reads as**,
whichever data it took over, wherever it wrote them, and whether or not it validated. -/
theorem read_of_carriedOut (hv : store.owner.volatile = false)
    (hne : (store.taken options).isEmpty = false)
    (h : (store.commit files newId options fault).CarriedOut files (store.target options)) :
    (store.commit files newId options fault).store.data = prepared (store.taken options) newId ∧
      (store.commit files newId options fault).files.read (options.path.getD store.path) =
        .text (store.commit files newId options fault).store.data.render := by
  have hstore : (store.commit files newId options fault).store = store.ready options newId :=
    store_commit hne
  have hkept : (store.commit files newId options fault).store.owner.volatile = false := by
    rw [hstore]
    exact hv
  obtain ⟨location, hlookup, -, -⟩ := h.written hkept
  rw [target] at hlookup
  refine ⟨congrArg Store.data hstore, ?_⟩
  simp only [FileTree.read, hlookup, Content.text?]

/-- That is so after a commit that succeeds. -/
theorem read_of_commit (hv : store.owner.volatile = false)
    (hne : (store.taken options).isEmpty = false)
    (hok : (store.commit files newId options fault).result = .ok ()) :
    (store.commit files newId options fault).store.data = prepared (store.taken options) newId ∧
      (store.commit files newId options fault).files.read (options.path.getD store.path) =
        .text (store.commit files newId options fault).store.data.render :=
  read_of_carriedOut hv hne (carriedOut_of_ok hne hok)

/-- A file with the text of data whose names are names of the format is loaded, with what
the text is read as. -/
theorem exists_loadData_of_read {path : FilePath} {data : RawConfig} (hw : data.Writable)
    (h : files.read path = .text data.render) :
    ∃ loaded, loadData files path = .ok loaded ∧
      loaded.toLists =
        RawConfig.mapListValues Text.dropReturns (RawConfig.defaultAhead data.toLists) := by
  obtain ⟨read, hparsed, hlists⟩ := RawConfig.exists_read_render hw
  refine ⟨read, ?_, hlists⟩
  rw [loadData, h]
  simp only [hparsed, Except.mapError]

/-- A file with the text of data is loaded as the same data exactly if the text
format keeps them. -/
theorem load_of_read_iff {other : Store} {path : FilePath} {data : RawConfig}
    (h : files.read path = .text data.render) :
    (∃ loaded, other.load files path = .ok loaded ∧ loaded.data.same data = true) ↔
      data.Lossless := by
  rw [← RawConfig.exists_same_read_render_iff, load, loadData, h]
  cases hread : RawConfig.read data.render with
  | error e => simp [hread, Except.mapError, Except.map]
  | ok read => simp [hread, Except.mapError, Except.map]

/-- **A commit is durable exactly for data that the text format keeps.**  After a
validating commit that succeeds, any store that loads the file gets the data that
the commit left in memory, order aside, if their names are names of the format and
no value has a carriage return right before a line feed; otherwise it gets an error
or other data. -/
theorem load_of_commit_iff {other : Store} (hv : store.owner.volatile = false)
    (hne : store.data.isEmpty = false)
    (hok : (store.commit files newId .standard fault).result = .ok ()) :
    (∃ loaded, other.load (store.commit files newId .standard fault).files store.path =
        .ok loaded ∧
      loaded.data.same (store.commit files newId .standard fault).store.data = true) ↔
      (store.commit files newId .standard fault).store.data.Lossless := by
  have hne' : (store.taken .standard).isEmpty = false := hne
  obtain ⟨-, hread⟩ := read_of_commit hv hne' hok
  exact load_of_read_iff hread

/-- A store of a node without keywords, with one free option. -/
def greeting (value : Text) : Store where
  path := "/etc/node.conf"
  data := .ofLists [("DEFAULT", [("id", "x")]), ("env", [("MOTD", value)])]
  owner := ⟨.node, .empty, [], [], [], [], false⟩
  agent := .default

theorem load_of_commit_greeting :
    (greeting "hi\nyou ").owner.volatile = false ∧ (greeting "hi\nyou ").data.isEmpty = false ∧
      ((greeting "hi\nyou ").commit .empty "y" .standard none).result = .ok () ∧
      ∃ loaded, (greeting []).load ((greeting "hi\nyou ").commit .empty "y" .standard none).files
          "/etc/node.conf" = .ok loaded ∧
        loaded.data.same ((greeting "hi\nyou ").commit .empty "y" .standard none).store.data =
          true := by
  have hok : ((greeting "hi\nyou ").commit .empty "y" .standard none).result = .ok () := by
    decide +kernel
  exact ⟨rfl, by decide, hok, (load_of_commit_iff rfl (by decide) hok).mpr (by decide +kernel)⟩

/-- A value with a carriage return before a line feed is not loaded as it was
committed. -/
theorem not_load_of_commit_greeting :
    (greeting "hi\r\nyou").owner.volatile = false ∧ (greeting "hi\r\nyou").data.isEmpty = false ∧
      ((greeting "hi\r\nyou").commit .empty "y" .standard none).result = .ok () ∧
      ¬ ∃ loaded, (greeting []).load
          ((greeting "hi\r\nyou").commit .empty "y" .standard none).files "/etc/node.conf" =
            .ok loaded ∧
        loaded.data.same ((greeting "hi\r\nyou").commit .empty "y" .standard none).store.data =
          true := by
  have hok : ((greeting "hi\r\nyou").commit .empty "y" .standard none).result = .ok () := by
    decide +kernel
  have hne : ((greeting "hi\r\nyou").taken .standard).isEmpty = false := by decide
  refine ⟨rfl, hne, hok, fun h => ?_⟩
  have hlossless := (load_of_read_iff (read_of_commit rfl hne hok).2).mp h
  exact absurd hlossless (by decide +kernel)

end ScopedConfig.Store
