import DiagnosticReport.Config
import DiagnosticReport.Proofs.FileTree

/-!
# The search for a configuration

The search goes along the chain of directories above its start and takes the first
one with an entry of the right name. What stands in that entry is not asked for until
it is loaded, so an entry that cannot be loaded ends the search with its error
(`find_of_isNearest`). Where no directory of the chain has an entry, the default
configuration applies (`find_of_free`).

The chain is made of paths, not of texts: the search finds the same whichever way its
directories are spelled (`rel_nearest?`). It asks the tree for the directories up to the
nearest one only, so trees that agree there have the same configuration, whatever stands
farther up (`find_of_agree`).
-/

set_option autoImplicit false

namespace DiagnosticReport.Config

/-- Whether a directory has an entry for a configuration. -/
def hasEntry (tree : FileTree) (directory : String) : Bool :=
  tree.holds (Path.join directory fileName)

variable {tree other : FileTree} {start : String} {chain : List String}

/-! ## Spellings -/

section Same

variable {directory spelled : String} (same : Path.Same directory spelled)
include same

theorem locate_fileName_of_same :
    tree.locate (Path.join directory fileName) = tree.locate (Path.join spelled fileName) :=
  FileTree.locate_join_of_same (by decide) (by decide) same

theorem hasEntry_of_same : hasEntry tree directory = hasEntry tree spelled := by
  rw [hasEntry, hasEntry, FileTree.holds, FileTree.holds, locate_fileName_of_same same]

theorem load_of_same :
    load tree (Path.join directory fileName) = load tree (Path.join spelled fileName) := by
  rw [load, load, FileTree.readText, FileTree.readText, locate_fileName_of_same same]

end Same

/-- The first directory with an entry is the same among other spellings. -/
theorem rel_find?_hasEntry {others : List String} (same : List.Forall₂ Path.Same chain others) :
    Option.Rel Path.Same (chain.find? (hasEntry tree)) (others.find? (hasEntry tree)) := by
  induction same with
  | nil => exact .none
  | @cons directory spelled chain others same _ ih =>
      rw [List.find?_cons, List.find?_cons, hasEntry_of_same same]
      split
      · exact .some same
      · exact ih

/-- **The nearest directory is the first one of the chain that has an entry.** -/
theorem rel_nearest? (tree : FileTree) (leads : Path.Chain start chain) :
    Option.Rel Path.Same (chain.find? (hasEntry tree)) (nearest? tree start) :=
  rel_find?_hasEntry leads.same_ancestors

/-! ## What is found -/

/-- A directory has an entry, and those passed before it have none. -/
structure IsNearest (tree : FileTree) (below : List String) (nearest : String) : Prop where
  free : ∀ directory ∈ below, hasEntry tree directory = false
  entry : hasEntry tree nearest = true

/-- Some directory of a chain is the nearest one with an entry, or none has an entry. -/
theorem exists_isNearest_or_free (tree : FileTree) (chain : List String) :
    (∃ below nearest above, chain = below ++ nearest :: above ∧ IsNearest tree below nearest) ∨
      ∀ directory ∈ chain, hasEntry tree directory = false := by
  cases first : chain.find? (hasEntry tree) with
  | none => exact .inr (by simpa using first)
  | some nearest =>
      obtain ⟨entry, below, above, split, free⟩ := List.find?_eq_some_iff_append.mp first
      exact .inl ⟨below, nearest, above, split, by simpa using free, entry⟩

section Nearest

variable {below above : List String} {nearest : String}
  (leads : Path.Chain start (below ++ nearest :: above)) (isNearest : IsNearest tree below nearest)
include leads isNearest

/-- The nearest directory is found, in a spelling of its own. -/
theorem exists_nearest? :
    ∃ spelled, nearest? tree start = some spelled ∧ Path.Same nearest spelled := by
  have first : (below ++ nearest :: above).find? (hasEntry tree) = some nearest :=
    List.find?_eq_some_iff_append.mpr
      ⟨isNearest.entry, below, above, rfl, by simpa using isNearest.free⟩
  have rel := rel_nearest? tree leads
  rw [first] at rel
  cases found : nearest? tree start with
  | none =>
      rw [found] at rel
      cases rel
  | some spelled =>
      rw [found] at rel
      cases rel with
      | some same => exact ⟨spelled, rfl, same⟩

/-- Whatever loading the nearest entry gives is the result, an error included. -/
theorem find_of_isNearest : find tree start = load tree (Path.join nearest fileName) := by
  obtain ⟨spelled, found, same⟩ := exists_nearest? leads isNearest
  rw [find, found, load_of_same same]

/-- The result depends on no entry but those on the way to the places asked for. -/
theorem find_of_agree
    (agree : ∀ directory ∈ below ++ [nearest],
      FileTree.Agree tree other (Path.join directory fileName)) :
    find other start = find tree start := by
  rw [List.forall_mem_append, List.forall_mem_singleton] at agree
  have stillNearest : IsNearest other below nearest := by
    refine ⟨fun directory member => ?_, ?_⟩
    · rw [hasEntry, (agree.1 directory member).holds]
      exact isNearest.free directory member
    · rw [hasEntry, agree.2.holds]
      exact isNearest.entry
  rw [find_of_isNearest leads stillNearest, find_of_isNearest leads isNearest, load, load,
    agree.2.readText]

end Nearest

/-- Nothing is found exactly if no directory of the chain has an entry. -/
theorem nearest?_eq_none_iff (leads : Path.Chain start chain) :
    nearest? tree start = none ↔ ∀ directory ∈ chain, hasEntry tree directory = false := by
  constructor
  · intro missing
    rcases exists_isNearest_or_free tree chain with ⟨below, nearest, above, rfl, isNearest⟩ | free
    · obtain ⟨spelled, found, -⟩ := exists_nearest? leads isNearest
      rw [missing] at found
      cases found
    · exact free
  · intro free
    have none : chain.find? (hasEntry tree) = none := by simpa using free
    have rel := rel_nearest? tree leads
    rw [none] at rel
    cases found : nearest? tree start with
    | none => rfl
    | some spelled =>
        rw [found] at rel
        cases rel

/-- Where no directory has an entry, the default configuration applies. -/
theorem find_of_free (leads : Path.Chain start chain)
    (free : ∀ directory ∈ chain, hasEntry tree directory = false) :
    find tree start = .ok default := by
  rw [find, (nearest?_eq_none_iff leads).mpr free]

/-- The default configuration applies where there is no entry, and where the nearest
one holds it. -/
theorem find_eq_default_iff (leads : Path.Chain start chain) :
    find tree start = .ok default ↔
      (∀ directory ∈ chain, hasEntry tree directory = false) ∨
        ∃ below nearest above, chain = below ++ nearest :: above ∧
          IsNearest tree below nearest ∧
          load tree (Path.join nearest fileName) = .ok default := by
  constructor
  · intro result
    rcases exists_isNearest_or_free tree chain with ⟨below, nearest, above, rfl, isNearest⟩ | free
    · rw [find_of_isNearest leads isNearest] at result
      exact .inr ⟨below, nearest, above, rfl, isNearest, result⟩
    · exact .inl free
  · rintro (free | ⟨below, nearest, above, rfl, isNearest, loaded⟩)
    · exact find_of_free leads free
    · exact (find_of_isNearest leads isNearest).trans loaded

/-- The nearest entry of a chain, if there is one, decides what is found. -/
structure NearestDecides (tree : FileTree) (start : String) (chain : List String) : Prop where
  /-- The nearest entry is loaded, and the result is what loading gives. -/
  nearest : ∀ {below nearest above}, chain = below ++ nearest :: above →
    IsNearest tree below nearest → find tree start = load tree (Path.join nearest fileName)
  /-- Trees that agree on the way to the entries asked for give the same result, so
  nothing farther up has an influence. -/
  apart : ∀ {below nearest above}, chain = below ++ nearest :: above →
    IsNearest tree below nearest → ∀ other : FileTree,
      (∀ directory ∈ below ++ [nearest],
        FileTree.Agree tree other (Path.join directory fileName)) →
      find other start = find tree start
  /-- Nothing is loaded exactly if no directory of the chain has an entry. -/
  free_iff : nearest? tree start = none ↔ ∀ directory ∈ chain, hasEntry tree directory = false
  /-- The default configuration is the result if no directory has an entry, and otherwise
  only if the nearest entry itself holds it. -/
  default_iff : find tree start = .ok default ↔
    (∀ directory ∈ chain, hasEntry tree directory = false) ∨
      ∃ below nearest above, chain = below ++ nearest :: above ∧
        IsNearest tree below nearest ∧
        load tree (Path.join nearest fileName) = .ok default

/-- **The nearest entry decides.** Every start has a chain, so the search ends; along
each of its spellings the first entry is loaded, an entry that cannot be loaded among
them, and nothing farther up changes the result. -/
theorem nearest_entry_decides (tree : FileTree) (start : String) :
    (∃ chain, Path.Chain start chain) ∧
      ∀ chain, Path.Chain start chain → NearestDecides tree start chain := by
  refine ⟨Path.exists_chain start, fun chain leads => ?_⟩
  constructor
  case nearest =>
    rintro below nearest above rfl isNearest
    exact find_of_isNearest leads isNearest
  case apart =>
    rintro below nearest above rfl isNearest other agree
    exact find_of_agree leads isNearest agree
  case free_iff => exact nearest?_eq_none_iff leads
  case default_iff => exact find_eq_default_iff leads

/-- A directory stands where the configuration of `s` should be. What stands farther up
is given. -/
def blockedTree (above : List (Place × Entry)) : FileTree :=
  ⟨[(["p"], .directory), (["p", "s"], .directory), (["p", "s", fileName], .directory)] ++ above,
    ["p"]⟩

theorem blocked_entry_decides :
    Path.Chain "./s//" ["./s//", ".", ""] ∧
      IsNearest (blockedTree []) [] "./s//" ∧
      hasEntry (blockedTree [(["p", fileName], .file [])]) "." = true ∧
      find (blockedTree []) "./s//" = .error (.unreadable .isADirectory) ∧
      find (blockedTree [(["p", fileName], .file [])]) "./s//" =
        .error (.unreadable .isADirectory) := by
  have leads : Path.Chain "./s//" ["./s//", ".", ""] :=
    .up ⟨by decide, by decide, by decide⟩ (.up ⟨by decide, by decide, by decide⟩ (.top (by decide)))
  have isNearest : IsNearest (blockedTree []) [] "./s//" := ⟨by simp, by decide⟩
  have split : ["./s//", ".", ""] = [] ++ "./s//" :: [".", ""] := rfl
  have decides := (nearest_entry_decides (blockedTree []) "./s//").2 _ leads
  have blocked : find (blockedTree []) "./s//" = .error (.unreadable .isADirectory) :=
    decides.nearest split isNearest
  refine ⟨leads, isNearest, by decide, blocked, ?_⟩
  rw [decides.apart split isNearest, blocked]
  rw [List.nil_append, List.forall_mem_singleton]
  exact ⟨rfl, by decide⟩

end DiagnosticReport.Config
