import DiagnosticReport.FileTree
import DiagnosticReport.Proofs.Path
import DiagnosticReport.Proofs.Text.Utf8

/-!
# Where paths lead to

Writing a text puts one file into a tree (`FileTree.put`). All other places keep
what stands there, the directories on the way to the file among them, so the same
path leads to the file and its text is the one that was written
(`readText_put`).

What a path leads to depends on the places that it passes and on nothing else in a
tree (`Agree.locate`), and a name in a directory is found whichever way the
directory is spelled (`locate_join_of_same`). It is found at all exactly if the path of
the directory leads to a directory (`locate_join_eq_ok_iff`), and for that only the
directories of a tree matter, not its files (`SameDirectories.leadsTo_iff`).
-/

set_option autoImplicit false

namespace DiagnosticReport.FileTree

/-- The tree with a file of this text at a place. -/
def put (tree : FileTree) (place : Place) (text : String) : FileTree :=
  { tree with entries := (place, .file (Text.Utf8.encode text.toList)) :: tree.entries }

variable {tree : FileTree} {place : Place}

theorem write?_eq {path text : String} (located : tree.locate path = .ok place)
    (free : tree.entryAt? place ≠ some .directory) :
    tree.write? path text = .ok (tree.put place text) := by
  rw [write?, located]
  simp only [bind, Except.bind]
  rfl

/-- A directory stands at the root, so a free place lies below it. -/
theorem nonempty_of_free (free : tree.entryAt? place ≠ some .directory) : place ≠ [] := by
  rintro rfl
  exact free rfl

theorem entryAt?_put_self (text : String) (nonempty : place ≠ []) :
    (tree.put place text).entryAt? place = some (.file (Text.Utf8.encode text.toList)) := by
  rw [entryAt?, if_neg (by simpa using nonempty), put, List.lookup_cons, beq_self_eq_true]

/-- Every other place keeps what stands there. -/
theorem entryAt?_put_of_ne {other : Place} (text : String) (differs : other ≠ place) :
    (tree.put place text).entryAt? other = tree.entryAt? other := by
  rw [entryAt?, entryAt?, put, List.lookup_cons, beq_false_of_ne differs]

/-! ### Directories on the way -/

theorem follow_cons_eq_ok_iff {start reached : Place} {component : String}
    {components : List String} :
    tree.follow start (component :: components) = .ok reached ↔
      tree.entryAt? start = some .directory ∧
        tree.follow (enter start component) components = .ok reached := by
  rw [follow]
  split
  · rename_i directory
    simp [directory]
  · rename_i file
    simp [file]
  · rename_i missing
    simp [missing]

theorem follow_append_eq_ok_iff {start reached : Place} {front back : List String} :
    tree.follow start (front ++ back) = .ok reached ↔
      ∃ middle, tree.follow start front = .ok middle ∧ tree.follow middle back = .ok reached := by
  induction front generalizing start with
  | nil => simp [follow]
  | cons component front ih =>
      simp only [List.cons_append, follow_cons_eq_ok_iff, ih, and_assoc, exists_and_left]

/-- Two trees have the same directories, whatever their files are. -/
structure SameDirectories (tree other : FileTree) : Prop where
  workingDirectory : other.workingDirectory = tree.workingDirectory
  directory_iff : ∀ place,
    other.entryAt? place = some .directory ↔ tree.entryAt? place = some .directory

/-- Components lead along directories alone. -/
theorem SameDirectories.follow_eq_ok_iff {other : FileTree} (same : SameDirectories tree other)
    {start reached : Place} {components : List String} :
    other.follow start components = .ok reached ↔ tree.follow start components = .ok reached := by
  induction components generalizing start with
  | nil => rw [follow, follow]
  | cons component components ih =>
      rw [follow_cons_eq_ok_iff, follow_cons_eq_ok_iff, same.directory_iff, ih]

theorem sameDirectories_put (text : String) (free : tree.entryAt? place ≠ some .directory) :
    SameDirectories tree (tree.put place text) := by
  refine ⟨rfl, fun other => ?_⟩
  by_cases here : other = place
  · subst here
    rw [entryAt?_put_self text (nonempty_of_free free)]
    simp [free]
  · rw [entryAt?_put_of_ne text here]

theorem locate_put {path : String} (text : String) (located : tree.locate path = .ok place)
    (free : tree.entryAt? place ≠ some .directory) :
    (tree.put place text).locate path = .ok place := by
  rw [locate] at located ⊢
  split at located
  · cases located
  · split at located
    · cases located
    · rename_i noNul nonempty
      rw [if_neg noNul, if_neg nonempty]
      exact (sameDirectories_put text free).follow_eq_ok_iff.mpr located

/-- The file at a place has this text. -/
def HoldsText (tree : FileTree) (place : Place) (text : String) : Prop :=
  ∃ bytes, tree.entryAt? place = some (.file bytes) ∧
    Text.Utf8.decode? bytes = some text.toList

/-- What is read is the text of the file that the path leads to. -/
theorem readText_eq_ok_iff {path text : String} :
    tree.readText path = .ok text ↔
      ∃ place, tree.locate path = .ok place ∧ HoldsText tree place text := by
  rw [readText]
  cases located : tree.locate path with
  | error cause => simp [bind, Except.bind]
  | ok place =>
      cases stands : tree.entryAt? place with
      | none => simp [bind, Except.bind, HoldsText, stands]
      | some entry =>
          cases entry with
          | directory => simp [bind, Except.bind, HoldsText, stands]
          | file bytes =>
              cases decoded : Text.Utf8.decode? bytes with
              | none => simp [bind, Except.bind, HoldsText, stands, decoded]
              | some characters =>
                  simp [bind, Except.bind, HoldsText, stands, decoded, ← String.toList_inj]

/-- A file that holds an encoded text is read as this text. -/
theorem readText_of_entryAt? {path text : String} (located : tree.locate path = .ok place)
    (stands : tree.entryAt? place = some (.file (Text.Utf8.encode text.toList))) :
    tree.readText path = .ok text :=
  readText_eq_ok_iff.mpr ⟨place, located, _, stands, Text.Utf8.decode?_encode _⟩

/-- **A written file has the text that was written.** -/
theorem readText_put {path : String} (text : String) (located : tree.locate path = .ok place)
    (free : tree.entryAt? place ≠ some .directory) :
    (tree.put place text).readText path = .ok text :=
  readText_of_entryAt? (locate_put text located free)
    (entryAt?_put_self text (nonempty_of_free free))

/-! ## What a path depends on -/

/-- The places that a path passes, from the one where it starts to the one that it
leads to. -/
def way (workingDirectory : Place) (path : String) : List Place :=
  passed (if Path.isAbsolute path then [] else workingDirectory) (Path.pieces path)

/-- Two trees have the same entries on the way along a path. -/
structure Agree (tree other : FileTree) (path : String) : Prop where
  workingDirectory : other.workingDirectory = tree.workingDirectory
  entries : ∀ place ∈ way tree.workingDirectory path,
    other.entryAt? place = tree.entryAt? place

variable {other : FileTree}

theorem follow_congr {start : Place} {components : List String}
    (entries : ∀ place ∈ passed start components, other.entryAt? place = tree.entryAt? place) :
    other.follow start components = tree.follow start components := by
  induction components generalizing start with
  | nil => rfl
  | cons component components ih =>
      rw [passed, List.forall_mem_cons] at entries
      rw [follow, follow, entries.1, ih entries.2]

theorem mem_passed_of_follow {start reached : Place} {components : List String}
    (followed : tree.follow start components = .ok reached) :
    reached ∈ passed start components := by
  induction components generalizing start with
  | nil =>
      cases followed
      exact List.mem_singleton_self _
  | cons component components ih =>
      rw [follow] at followed
      split at followed
      · exact List.mem_cons_of_mem _ (ih followed)
      · cases followed
      · cases followed

namespace Agree

variable {path : String} (agree : Agree tree other path)
include agree

theorem locate : other.locate path = tree.locate path := by
  rw [FileTree.locate, FileTree.locate, agree.workingDirectory]
  simp only [follow_congr agree.entries]

theorem entryAt? (located : tree.locate path = .ok place) :
    other.entryAt? place = tree.entryAt? place := by
  refine agree.entries place ?_
  rw [FileTree.locate] at located
  split at located
  · cases located
  · split at located
    · cases located
    · exact mem_passed_of_follow located

theorem holds : other.holds path = tree.holds path := by
  rw [FileTree.holds, FileTree.holds, agree.locate]
  cases located : tree.locate path with
  | ok place => simp only [agree.entryAt? located]
  | error cause => rfl

theorem readText : other.readText path = tree.readText path := by
  rw [FileTree.readText, FileTree.readText, agree.locate]
  cases located : tree.locate path with
  | ok place => simp only [bind, Except.bind, agree.entryAt? located]
  | error cause => rfl

end Agree

/-! ## Spellings of a directory -/

/-- A component that stays at a place can be left out, unless it is the last one. -/
theorem follow_stay {component : String} {rest : List String}
    (stays : enter place component = place) (more : rest ≠ []) :
    tree.follow place (component :: rest) = tree.follow place rest := by
  obtain ⟨next, rest, rfl⟩ := List.exists_cons_of_ne_nil more
  rw [follow, stays, follow]
  cases tree.entryAt? place with
  | none => rfl
  | some entry => cases entry <;> rfl

theorem enter_of_not_counts {piece : String} (place : Place)
    (skipped : ¬Path.counts piece = true) : enter place piece = place := by
  rw [Path.counts_eq_true, not_and_or, not_not, not_not] at skipped
  rcases skipped with rfl | rfl
  · rfl
  · rfl

theorem follow_filter_counts (place : Place) (pieces : List String) (name : String) :
    tree.follow place (pieces.filter Path.counts ++ [name]) =
      tree.follow place (pieces ++ [name]) := by
  induction pieces generalizing place with
  | nil => rfl
  | cons piece pieces ih =>
      by_cases counted : Path.counts piece = true
      · rw [List.filter_cons_of_pos counted, List.cons_append, List.cons_append, follow, follow]
        simp only [ih]
      · rw [List.filter_cons_of_neg counted, ih, List.cons_append]
        exact (follow_stay (enter_of_not_counts place counted) (by simp)).symm

/-- The components of a directory lead where its pieces lead. -/
theorem follow_components (place : Place) (directory name : String) :
    tree.follow place (Path.components directory ++ [name]) =
      tree.follow place (Path.pieces directory ++ [name]) := by
  by_cases dot : (Path.pieces directory).head? = some "."
  · obtain ⟨rest, relative⟩ := List.head?_eq_some_iff.mp dot
    rw [Path.components_of_dot relative, relative, List.cons_append, List.cons_append,
      follow_stay rfl (by simp), follow_stay rfl (by simp), follow_filter_counts]
  · rw [Path.components_of_no_dot dot, follow_filter_counts]

section Join

variable {name : String} (oneName : '/' ∉ name.toList)
include oneName

theorem follow_pieces_join (place : Place) (directory : String) :
    tree.follow place (Path.pieces (Path.join directory name)) =
      tree.follow place (Path.components directory ++ [name]) := by
  obtain ⟨front, joined, pieces⟩ := Path.exists_pieces_join oneName directory
  rw [joined, follow_components]
  rcases pieces with pieces | pieces
  · rw [pieces]
  · rw [pieces, ← follow_filter_counts, ← follow_filter_counts place (front ++ [""]),
      List.filter_append, List.filter_cons_of_neg (by decide), List.filter_nil, List.append_nil]

/-- **A name in a directory is found however the directory is spelled.** -/
theorem locate_join_of_same {directory spelled : String} (nonempty : name ≠ "")
    (same : Path.Same directory spelled) :
    tree.locate (Path.join directory name) = tree.locate (Path.join spelled name) := by
  have nul : (Path.join directory name).toList.contains '\x00' =
      (Path.join spelled name).toList.contains '\x00' := by
    rw [Bool.eq_iff_iff, List.contains_iff_mem, List.contains_iff_mem,
      Path.mem_join_iff (by decide), Path.mem_join_iff (by decide),
      Path.mem_iff_mem_components (by decide) (by decide) directory,
      Path.mem_iff_mem_components (by decide) (by decide) spelled, same.components]
  have filled (path : String) : (Path.join path name).isEmpty = false := by
    simpa using Path.join_ne_empty nonempty path
  rw [locate, locate, nul, filled, filled]
  simp only [Path.isAbsolute_join oneName, follow_pieces_join oneName, same.absolute,
    same.components]

end Join

/-! ## Names that are entered -/

theorem enter_eq_append {name : String} (counts : Path.counts name = true)
    (noParent : name ≠ "..") (place : Place) : enter place name = place ++ [name] := by
  obtain ⟨nonempty, noDot⟩ := Path.counts_eq_true.mp counts
  simp [enter, nonempty, noDot, noParent]

theorem follow_names {start reached : Place} {names : List String}
    (entered : ∀ name ∈ names, Path.counts name = true ∧ name ≠ "..")
    (followed : tree.follow start names = .ok reached) : reached = start ++ names := by
  induction names generalizing start with
  | nil =>
      cases followed
      exact (List.append_nil _).symm
  | cons name names ih =>
      rw [List.forall_mem_cons] at entered
      have behind := (follow_cons_eq_ok_iff.mp followed).2
      rw [enter_eq_append entered.1.1 entered.1.2] at behind
      rw [ih entered.2 behind, List.append_assoc, List.singleton_append]

/-- **Names from the root lead to the place with these names**, if they lead anywhere. -/
theorem eq_of_locate_ofComponents {names : List String} (some : names ≠ [])
    (noSlash : ∀ name ∈ names, '/' ∉ name.toList)
    (entered : ∀ name ∈ names, Path.counts name = true ∧ name ≠ "..")
    (located : tree.locate (Path.ofComponents true names) = .ok place) : place = names := by
  have absolute : Path.isAbsolute (Path.ofComponents true names) = true := by
    simp [Path.isAbsolute, Path.ofComponents]
  rw [locate, absolute, Path.pieces_ofComponents_true, Path.pieces_intercalate noSlash some]
    at located
  split at located
  · cases located
  · split at located
    · cases located
    · rw [if_pos rfl, follow_stay rfl some] at located
      simpa using follow_names entered located

/-! ## Names in a directory -/

/-- A path leads to a directory at a place. The empty path leads to the working
directory, as it does in front of a name. -/
structure LeadsTo (tree : FileTree) (path : String) (place : Place) : Prop where
  noNul : '\x00' ∉ path.toList
  followed : tree.follow (if Path.isAbsolute path then [] else tree.workingDirectory)
    (Path.pieces path) = .ok place
  directory : tree.entryAt? place = some .directory

theorem LeadsTo.unique {path : String} {place other : Place} (leads : tree.LeadsTo path place)
    (otherLeads : tree.LeadsTo path other) : place = other :=
  Except.ok.inj (leads.followed.symm.trans otherLeads.followed)

/-- Where a path leads does not depend on files. -/
theorem SameDirectories.leadsTo_iff (same : SameDirectories tree other) {path : String}
    {place : Place} : other.LeadsTo path place ↔ tree.LeadsTo path place := by
  constructor
  · rintro ⟨noNul, followed, directory⟩
    rw [same.workingDirectory] at followed
    exact ⟨noNul, same.follow_eq_ok_iff.mp followed, (same.directory_iff place).mp directory⟩
  · rintro ⟨noNul, followed, directory⟩
    rw [← same.workingDirectory] at followed
    exact ⟨noNul, same.follow_eq_ok_iff.mpr followed, (same.directory_iff place).mpr directory⟩

/-- A name that is no way to a place of another name. -/
structure IsName (name : String) : Prop where
  noSlash : '/' ∉ name.toList
  noNul : '\x00' ∉ name.toList
  counts : Path.counts name = true
  noParent : name ≠ ".."

namespace IsName

variable {name : String} (isName : IsName name)
include isName

theorem nonempty : name ≠ "" := (Path.counts_eq_true.mp isName.counts).1

theorem enter_eq (place : Place) : enter place name = place ++ [name] :=
  enter_eq_append isName.counts isName.noParent place

/-- **A name is looked for in the directory that a path leads to.** -/
theorem locate_join_eq_ok_iff {directory : String} {reached : Place} :
    tree.locate (Path.join directory name) = .ok reached ↔
      ∃ place, tree.LeadsTo directory place ∧ reached = place ++ [name] := by
  have nul : (Path.join directory name).toList.contains '\x00' = true ↔
      '\x00' ∈ directory.toList := by
    rw [List.contains_iff_mem, Path.mem_join_iff (by decide), or_iff_left isName.noNul]
  have filled : (Path.join directory name).isEmpty = false := by
    simpa using Path.join_ne_empty isName.nonempty directory
  rw [locate, filled, Path.isAbsolute_join isName.noSlash]
  simp only [follow_pieces_join isName.noSlash, follow_components, nul, Bool.false_eq_true,
    if_false]
  constructor
  · intro located
    split at located
    · cases located
    · rename_i noNul
      obtain ⟨place, followed, last⟩ := follow_append_eq_ok_iff.mp located
      obtain ⟨directory, entered⟩ := follow_cons_eq_ok_iff.mp last
      rw [follow, isName.enter_eq] at entered
      exact ⟨place, ⟨noNul, followed, directory⟩, (Except.ok.inj entered).symm⟩
  · rintro ⟨place, leads, rfl⟩
    rw [if_neg leads.noNul, follow_append_eq_ok_iff]
    refine ⟨place, leads.followed, follow_cons_eq_ok_iff.mpr ⟨leads.directory, ?_⟩⟩
    rw [follow, isName.enter_eq]

theorem holds_join_iff {directory : String} :
    tree.holds (Path.join directory name) = true ↔
      ∃ place, tree.LeadsTo directory place ∧ tree.entryAt? (place ++ [name]) ≠ none := by
  rw [holds]
  cases located : tree.locate (Path.join directory name) with
  | ok reached =>
      obtain ⟨place, leads, rfl⟩ := isName.locate_join_eq_ok_iff.mp located
      simp only [Option.isSome_iff_ne_none]
      constructor
      · exact fun stands => ⟨place, leads, stands⟩
      · rintro ⟨otherPlace, otherLeads, stands⟩
        rwa [leads.unique otherLeads]
  | error cause =>
      simp only [Bool.false_eq_true, false_iff, not_exists, not_and]
      intro place leads
      have found := isName.locate_join_eq_ok_iff.mpr ⟨place, leads, rfl⟩
      rw [located] at found
      cases found

end IsName

end DiagnosticReport.FileTree
