import DiagnosticReport.Config
import DiagnosticReport.Proofs.FileTree
import DiagnosticReport.Proofs.Toml.Line

/-!
# Configurations that are saved and loaded

The text of a configuration has three tables, and each of its lines is read as the
statement that it was written for. The statements build a value that holds the
configuration, whatever names its lists hold (`ofText?_toText`). A saved
configuration is therefore loaded as it was (`saved_is_loaded`).
-/

set_option autoImplicit false

namespace DiagnosticReport

theorem LevelNames.strings?_map (names : List String) :
    Toml.strings? (.array (names.map .string)) = some names := by
  rw [Toml.strings?, List.mapM_map]
  simpa [Function.comp_def, Toml.string?] using List.mapM_pure (m := Option) (l := names) (f := id)

namespace Config

open Toml

/-- The statements of a configuration with the lines that they are written on. -/
def lines (config : Config) : List (List Char × List Statement) :=
  let switch (value : Bool) := (writeAssignment "enabled" (writeBoolean value),
    [Statement.assign [] "enabled" (.boolean value)])
  let names (field : String) (names : List String) := (writeAssignment field (writeStrings names),
    [Statement.assign [] field (.array (names.map .string))])
  [(writeHeader "terminal", [.openTable [] "terminal"]), switch config.terminalEnabled,
    (['\n'], []),
    (writeHeader "overlay", [.openTable [] "overlay"]), switch config.overlayEnabled,
    (['\n'], []),
    (writeHeader "log_level", [.openTable [] "log_level"]),
    names "typescript" config.levels.typeScript, names "vue_tsc" config.levels.vueTsc,
    names "vls" config.levels.vls, names "eslint" config.levels.esLint]

theorem toText_eq (config : Config) :
    config.toText = String.ofList (config.lines.flatMap Prod.fst) := by
  simp [toText, lines]

theorem lineReads_lines (config : Config) :
    ∀ line ∈ config.lines, LineReads line.1 line.2 := by
  simp only [lines, List.forall_mem_cons]
  refine ⟨?_, ?_, ?_, ?_, ?_, ?_, ?_, ?_, ?_, ?_, ?_, by simp⟩
  · exact lineReads_writeHeader (by decide)
  · exact lineReads_writeAssignment (by decide) (valueReads_writeBoolean _)
  · exact lineReads_lineFeed
  · exact lineReads_writeHeader (by decide)
  · exact lineReads_writeAssignment (by decide) (valueReads_writeBoolean _)
  · exact lineReads_lineFeed
  · exact lineReads_writeHeader (by decide)
  · exact lineReads_writeAssignment (by decide) (valueReads_writeStrings _)
  · exact lineReads_writeAssignment (by decide) (valueReads_writeStrings _)
  · exact lineReads_writeAssignment (by decide) (valueReads_writeStrings _)
  · exact lineReads_writeAssignment (by decide) (valueReads_writeStrings _)

/-- The value that the statements of a configuration build. -/
def toToml (config : Config) : Toml :=
  let names (list : List String) : Toml := .array (list.map .string)
  .table [("terminal", .table [("enabled", .boolean config.terminalEnabled)]),
    ("overlay", .table [("enabled", .boolean config.overlayEnabled)]),
    ("log_level", .table [("typescript", names config.levels.typeScript),
      ("vue_tsc", names config.levels.vueTsc), ("vls", names config.levels.vls),
      ("eslint", names config.levels.esLint)])]

theorem ofStatements?_lines (config : Config) :
    ofStatements? (config.lines.flatMap Prod.snd) = some config.toToml := by
  rfl

theorem ofToml?_toToml (config : Config) : ofToml? config.toToml = some config := by
  simp [ofToml?, toToml, members?, defaulted, List.lookup_cons, switchOfToml?, boolean?,
    LevelNames.ofToml?, LevelNames.strings?_map]

/-- **The text of a configuration holds it.** -/
theorem ofText?_toText (config : Config) : ofText? config.toText = some config := by
  have document : Toml.ofText? config.toText = some config.toToml := by
    rw [toText_eq, ofText?_lines config.lineReads_lines]
    · exact config.ofStatements?_lines
    · rfl
  rw [ofText?, document, Option.bind_some, ofToml?_toToml]

/-- A file with the text of a configuration is loaded as the configuration. -/
theorem load_of_readText (config : Config) {tree : FileTree} {path : String}
    (read : tree.readText path = .ok config.toText) : load tree path = .ok config := by
  rw [load, read]
  simp only [ofText?_toText]

/-- **A saved configuration is loaded as it was.** Saving needs a path that leads to
no directory. -/
theorem saved_is_loaded (config : Config) {tree : FileTree} {path : String} {place : Place}
    (located : tree.locate path = .ok place) (free : tree.entryAt? place ≠ some .directory) :
    ∃ saved, config.save? tree path = .ok saved ∧ load saved path = .ok config := by
  refine ⟨tree.put place config.toText, FileTree.write?_eq located free, ?_⟩
  rw [load, FileTree.readText_put _ located free]
  simp only [ofText?_toText]

/-- Names for every form of a string: with escapes, with both kinds of quotes, and
with quotes at both ends of several lines. -/
def oddNames : Config :=
  ⟨false, true,
    ⟨[], ["a\\b"], ["\n\"\"'''\r\n\"\"\"", "\x00\x7f\t", ""], ["'\"\"", "x\\y'''\nz\""]⟩⟩

theorem saved_oddNames :
    (⟨[], []⟩ : FileTree).locate "c.toml" = .ok ["c.toml"] ∧
    (⟨[], []⟩ : FileTree).entryAt? ["c.toml"] ≠ some .directory ∧
    ∃ saved, oddNames.save? ⟨[], []⟩ "c.toml" = .ok saved ∧
      load saved "c.toml" = .ok oddNames := by
  have located : (⟨[], []⟩ : FileTree).locate "c.toml" = .ok ["c.toml"] := by rfl
  have free : (⟨[], []⟩ : FileTree).entryAt? ["c.toml"] ≠ some .directory := by decide
  exact ⟨located, free, saved_is_loaded oddNames located free⟩

end Config

end DiagnosticReport
