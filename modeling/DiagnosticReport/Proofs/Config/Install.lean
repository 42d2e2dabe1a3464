import DiagnosticReport.CommandLine
import DiagnosticReport.Proofs.Config
import DiagnosticReport.Proofs.Config.Search
import DiagnosticReport.Proofs.Filter

/-!
# Writing the default configuration

The default configuration is written into a directory that has no entry for one. The
tree then has one file more, and every other place keeps what stands there (`Creates`).
The directories of the tree stay the same, so all paths lead where they led before, and
a directory has an entry afterwards exactly if it had one before or is the one that was
written into (`Creates.hasEntry_iff`). The search for a configuration therefore finds the
new file wherever it came as far as its directory, and found nothing on the way
(`Creates.find_eq`); and writing again finds the entry and leaves it (`Creates.install_eq`).

`install_settles` says which of the three results there is, for every tree and every
directory, and what each of them means.
-/

set_option autoImplicit false

namespace DiagnosticReport.Config

variable {tree written : FileTree} {place : Place} {directory : String}

theorem isName_fileName : FileTree.IsName fileName :=
  ⟨by decide, by decide, by decide, by decide⟩

/-- A path has an entry for a configuration if it leads to a directory that has one. -/
theorem hasEntry_iff :
    hasEntry tree directory = true ↔
      ∃ place, tree.LeadsTo directory place ∧ tree.entryAt? (place ++ [fileName]) ≠ none :=
  isName_fileName.holds_join_iff

/-- Writing has one of three results: there is an entry, or there is no such directory,
or there is a directory without an entry. -/
theorem install_cases (tree : FileTree) (directory : String) :
    (hasEntry tree directory = true ∧ install tree directory = .ok none) ∨
      ((∀ place, ¬ tree.LeadsTo directory place) ∧
        ∃ cause, install tree directory = .error (Path.join directory fileName, cause)) ∨
      ∃ place, tree.LeadsTo directory place ∧ tree.entryAt? (place ++ [fileName]) = none ∧
        install tree directory = .ok (some (Path.join directory fileName,
          tree.put (place ++ [fileName]) default.toText)) := by
  cases entry : hasEntry tree directory with
  | true => exact .inl ⟨rfl, if_pos entry⟩
  | false =>
      have noEntry : ¬ tree.holds (Path.join directory fileName) = true :=
        Bool.eq_false_iff.mp entry
      simp only [install, save?, if_neg noEntry]
      refine .inr ?_
      cases located : tree.locate (Path.join directory fileName) with
      | error cause =>
          refine .inl ⟨fun place leads => ?_, cause, ?_⟩
          · have found := isName_fileName.locate_join_eq_ok_iff.mpr ⟨place, leads, rfl⟩
            rw [located] at found
            cases found
          · simp only [FileTree.write?, located, bind, Except.bind]
      | ok reached =>
          obtain ⟨place, leads, rfl⟩ := isName_fileName.locate_join_eq_ok_iff.mp located
          have free : tree.entryAt? (place ++ [fileName]) = none := by
            by_contra stands
            exact Bool.eq_false_iff.mp entry (hasEntry_iff.mpr ⟨place, leads, stands⟩)
          refine .inr ⟨place, leads, free, ?_⟩
          rw [FileTree.write?_eq located (by simp [free])]

/-! ## The new file -/

/-- The default configuration has been written into the directory at a place, and nothing
else has changed. -/
structure Creates (tree written : FileTree) (place : Place) : Prop where
  workingDirectory : written.workingDirectory = tree.workingDirectory
  free : tree.entryAt? (place ++ [fileName]) = none
  created : written.entryAt? (place ++ [fileName]) =
    some (.file (Text.Utf8.encode default.toText.toList))
  kept : ∀ other, other ≠ place ++ [fileName] → written.entryAt? other = tree.entryAt? other

theorem creates_put (free : tree.entryAt? (place ++ [fileName]) = none) :
    Creates tree (tree.put (place ++ [fileName]) default.toText) place where
  workingDirectory := rfl
  free := free
  created := FileTree.entryAt?_put_self _ (List.concat_ne_nil fileName place)
  kept := fun _ differs => FileTree.entryAt?_put_of_ne _ differs

namespace Creates

variable (creates : Creates tree written place)
include creates

theorem sameDirectories : FileTree.SameDirectories tree written := by
  refine ⟨creates.workingDirectory, fun other => ?_⟩
  by_cases here : other = place ++ [fileName]
  · rw [here, creates.created, creates.free]
    simp
  · rw [creates.kept other here]

/-- A directory has an entry if it had one, or if the file was written into it. -/
theorem hasEntry_iff :
    hasEntry written directory = true ↔
      hasEntry tree directory = true ∨ tree.LeadsTo directory place := by
  simp only [Config.hasEntry_iff, creates.sameDirectories.leadsTo_iff]
  constructor
  · rintro ⟨other, leads, stands⟩
    by_cases here : other = place
    · exact .inr (here ▸ leads)
    · refine .inl ⟨other, leads, ?_⟩
      rwa [creates.kept _ fun same => here (List.append_cancel_right same)] at stands
  · rintro (⟨other, leads, stands⟩ | leads)
    · refine ⟨other, leads, ?_⟩
      have differs : other ++ [fileName] ≠ place ++ [fileName] := by
        intro same
        rw [same] at stands
        exact stands creates.free
      rwa [creates.kept _ differs]
    · exact ⟨place, leads, by rw [creates.created]; exact Option.some_ne_none _⟩

/-- The new file holds the default configuration. -/
theorem load_eq (leads : tree.LeadsTo directory place) :
    load written (Path.join directory fileName) = .ok default := by
  have located : written.locate (Path.join directory fileName) = .ok (place ++ [fileName]) :=
    isName_fileName.locate_join_eq_ok_iff.mpr
      ⟨place, creates.sameDirectories.leadsTo_iff.mpr leads, rfl⟩
  exact load_of_readText default (FileTree.readText_of_entryAt? located creates.created)

/-- **The search finds the default configuration** if it found nothing in the tree as it
was, up to the directory of the new file or to its end. -/
theorem find_eq {start : String} {below above : List String}
    (leads : Path.Chain start (below ++ above))
    (free : ∀ passed ∈ below, hasEntry tree passed = false)
    (reaches : ∀ next ∈ above.head?, tree.LeadsTo next place) :
    find written start = .ok default := by
  have nearest : ∀ nearest, (below ++ above).find? (hasEntry written) = some nearest →
      tree.LeadsTo nearest place := by
    intro nearest first
    rw [List.find?_append, Option.or_eq_some_iff] at first
    rcases first with before | ⟨-, behind⟩
    · have none := free nearest (List.mem_of_find?_eq_some before)
      have entry := creates.hasEntry_iff.mp (List.find?_some before)
      exact entry.resolve_left (Bool.eq_false_iff.mp none)
    · cases above with
      | nil => cases behind
      | cons next above =>
          have here : tree.LeadsTo next place := reaches next rfl
          rw [List.find?_cons_of_pos (creates.hasEntry_iff.mpr (.inr here))] at behind
          rwa [← Option.some.inj behind]
  rcases exists_isNearest_or_free written (below ++ above) with
    ⟨passed, first, rest, split, isNearest⟩ | none
  · have found : (below ++ above).find? (hasEntry written) = some first :=
      List.find?_eq_some_iff_append.mpr
        ⟨isNearest.entry, passed, rest, split, by simpa using isNearest.free⟩
    rw [split] at leads
    rw [find_of_isNearest leads isNearest, creates.load_eq (nearest first found)]
  · exact find_of_free leads none

/-- **Writing again changes nothing**, however the directory is spelled. -/
theorem install_eq (leads : tree.LeadsTo directory place) :
    install written directory = .ok none :=
  if_pos (creates.hasEntry_iff.mpr (.inr leads))

end Creates

/-! ## The default filters -/

/-- By default every checker reports every record that has a level. -/
theorem filterFor_default (checker : Checker) :
    ∃ filter, default.levels.filterFor checker = .ok filter ∧
      ∀ record : Record, filter.allows record = true ↔ record.level ≠ none := by
  have names : default.levels.namesFor checker = LevelNames.allNames := by
    cases checker <;> rfl
  have accepted : LevelFilter.ofNames LevelNames.allNames =
      .ok ⟨[.error, .warning, .suggestion, .message]⟩ := by decide +kernel
  refine ⟨_, by rw [LevelNames.filterFor, names, accepted], fun record => ?_⟩
  have listed (level : Level) : level ∈ [Level.error, .warning, .suggestion, .message] := by
    cases level <;> decide
  simp only [LevelFilter.allows_iff, listed, and_true]
  exact Option.ne_none_iff_exists'.symm

/-! ## All results -/

theorem run_install_of_not_written
    (kept : ∀ path written, install tree directory ≠ .ok (some (path, written))) (colors : Bool) :
    (Invocation.run tree colors (.install directory)).tree = tree := by
  rw [Invocation.run, Invocation.runInstall]
  split
  · rename_i path written result
    exact absurd result (kept path written)
  · rfl
  · rfl

/-- The file that was written into the directory at a place is found, and is not written
again. -/
structure TakesEffect (tree written : FileTree) (directory : String) (place : Place) : Prop where
  here : find written directory = .ok default
  /-- The search comes to the directory, or to its end, with no entry on the way. -/
  below : ∀ start passed above, Path.Chain start (passed ++ above) →
    (∀ path ∈ passed, hasEntry tree path = false) →
    (∀ next ∈ above.head?, tree.LeadsTo next place) → find written start = .ok default
  again : install written directory = .ok none
  againUnchanged : ∀ colors, (Invocation.run written colors (.install directory)).tree = written

theorem Creates.takesEffect (creates : Creates tree written place)
    (leads : tree.LeadsTo directory place) : TakesEffect tree written directory place := by
  have below (start : String) (passed above : List String)
      (up : Path.Chain start (passed ++ above)) (free : ∀ path ∈ passed, hasEntry tree path = false)
      (reaches : ∀ next ∈ above.head?, tree.LeadsTo next place) :
      find written start = .ok default :=
    creates.find_eq up free reaches
  have again := creates.install_eq leads
  constructor
  case here =>
    obtain ⟨chain, up⟩ := Path.exists_chain directory
    refine below directory [] chain up (by simp) fun next first => ?_
    obtain rfl : directory = next := by
      cases up <;> simpa using first
    exact leads
  case below => exact below
  case again => exact again
  case againUnchanged => exact run_install_of_not_written (by simp [again])

/-- What becomes of a tree when the default configuration is written into a directory. -/
structure Installs (tree : FileTree) (directory : String) : Prop where
  /-- Nothing is written exactly if there is an entry, whatever stands there. -/
  present_iff : install tree directory = .ok none ↔
    ∃ place, tree.LeadsTo directory place ∧ tree.entryAt? (place ++ [fileName]) ≠ none
  /-- Writing fails exactly if there is no such directory. -/
  fails_iff : (∃ error, install tree directory = .error error) ↔
    ∀ place, ¬ tree.LeadsTo directory place
  /-- In both cases the program leaves the files as they were. -/
  unchanged : (∀ path written, install tree directory ≠ .ok (some (path, written))) →
    ∀ colors, (Invocation.run tree colors (.install directory)).tree = tree
  /-- Otherwise there is one new file, which takes effect. -/
  created : ∀ path written, install tree directory = .ok (some (path, written)) →
    path = Path.join directory fileName ∧
    (∀ colors, (Invocation.run tree colors (.install directory)).tree = written) ∧
    ∃ place, tree.LeadsTo directory place ∧ Creates tree written place ∧
      TakesEffect tree written directory place
  /-- The filters of the default configuration let every record with a level pass. -/
  filters : ∀ checker, ∃ filter, default.levels.filterFor checker = .ok filter ∧
    ∀ record : Record, filter.allows record = true ↔ record.level ≠ none

/-- **Writing the default configuration** gives one of three results for every tree and
every directory: there is an entry already, there is no such directory, or one file is
created, which holds the default configuration and is found. -/
theorem install_settles (tree : FileTree) (directory : String) : Installs tree directory := by
  have results := install_cases tree directory
  constructor
  case present_iff =>
    rw [← hasEntry_iff]
    rcases results with ⟨entry, result⟩ | ⟨none, cause, result⟩ | ⟨place, leads, free, result⟩
    · exact iff_of_true result entry
    · rw [result, hasEntry_iff]
      simp [none]
    · rw [result, hasEntry_iff]
      refine iff_of_false (by simp) ?_
      rintro ⟨other, otherLeads, stands⟩
      rw [otherLeads.unique leads] at stands
      exact stands free
  case fails_iff =>
    rcases results with ⟨entry, result⟩ | ⟨none, cause, result⟩ | ⟨place, leads, free, result⟩
    · obtain ⟨place, leads, -⟩ := hasEntry_iff.mp entry
      rw [result]
      exact iff_of_false (by simp) fun none => none place leads
    · rw [result]
      exact iff_of_true ⟨_, rfl⟩ none
    · rw [result]
      exact iff_of_false (by simp) fun none => none place leads
  case unchanged => exact run_install_of_not_written
  case created =>
    intro path written created
    rcases results with ⟨entry, result⟩ | ⟨none, cause, result⟩ | ⟨place, leads, free, result⟩
    · rw [result] at created
      cases created
    · rw [result] at created
      cases created
    · rw [result] at created
      cases created
      have creates := creates_put free
      refine ⟨rfl, fun colors => ?_, place, leads, creates, creates.takesEffect leads⟩
      rw [Invocation.run, Invocation.runInstall, result]
  case filters => exact filterFor_default

end DiagnosticReport.Config
