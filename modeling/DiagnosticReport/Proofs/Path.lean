import DiagnosticReport.Path
import DiagnosticReport.Proofs.Text.Parts
import Mathlib.Data.List.Forall2

/-!
# The chain of directories above a path

A path is known by whether it starts at the root and by its components; texts that
agree in both are spellings of one path (`Same`). Every path has a spelling made of
its components alone (`same_ofComponents`).

A directory `above` is the parent of a path if its components are those of the path
without the last one, however it is spelled (`Parent`). A chain goes from a path to
its parent and on, up to a path without components (`Chain`). Each step takes one
component away, so every path has a chain (`exists_chain`), and the ancestors of a
path are that chain (`Chain.same_ancestors`).
-/

set_option autoImplicit false

namespace DiagnosticReport.Path

/-! ## Pieces -/

/-- Whether a piece counts as a component, wherever it stands. -/
def counts (piece : String) : Bool := piece != "" && piece != "."

@[simp] theorem counts_eq_true {piece : String} :
    counts piece = true ↔ piece ≠ "" ∧ piece ≠ "." := by
  simp [counts]

theorem notMem_of_mem_pieces {path piece : String} (member : piece ∈ pieces path) :
    '/' ∉ piece.toList := by
  obtain ⟨letters, part, rfl⟩ := List.mem_map.mp member
  rw [String.toList_ofList]
  exact Text.notMem_of_mem_splitOn part

theorem pieces_append_slash (before after : String) :
    pieces (before ++ "/" ++ after) = pieces before ++ pieces after := by
  have letters : (before ++ "/" ++ after).toList = before.toList ++ '/' :: after.toList := by
    simp
  rw [pieces, letters, List.splitOn_append_cons_self, List.map_append]
  rfl

theorem pieces_empty : pieces "" = [""] := by decide

theorem pieces_of_notMem {name : String} (oneName : '/' ∉ name.toList) :
    pieces name = [name] := by
  rw [pieces, List.splitOn_eq_singleton oneName, List.map_singleton, String.ofList_toList]

/-- Names between slashes are read back. -/
theorem pieces_intercalate {names : List String} (oneName : ∀ name ∈ names, '/' ∉ name.toList)
    (some : names ≠ []) : pieces (String.intercalate "/" names) = names := by
  rw [pieces, String.toList_intercalate]
  have parted : (List.intercalate "/".toList (names.map String.toList)).splitOn '/' =
      names.map String.toList :=
    List.splitOn_intercalate '/' (by simpa using oneName) (by simpa using some)
  rw [parted, List.map_map]
  exact (List.map_congr_left fun name _ => String.ofList_toList).trans (List.map_id _)

/-- Names that count are found again among the pieces, also if there is none. -/
theorem filter_pieces_intercalate {names : List String}
    (oneName : ∀ name ∈ names, '/' ∉ name.toList) (counted : ∀ name ∈ names, counts name = true) :
    (pieces (String.intercalate "/" names)).filter counts = names := by
  cases names with
  | nil => decide
  | cons name names =>
      rw [pieces_intercalate oneName (List.cons_ne_nil name names)]
      exact List.filter_eq_self.mpr counted

/-- Nothing stands in front of the first slash of a path that starts at the root. -/
theorem head?_pieces_of_isAbsolute {path : String} (absolute : isAbsolute path = true) :
    (pieces path).head? = some "" := by
  rw [isAbsolute] at absolute
  cases letters : path.toList with
  | nil => simp [letters] at absolute
  | cons letter rest =>
      have slash : letter = '/' := by simpa [letters] using absolute
      rw [pieces, letters, slash, List.splitOn_cons_eq_if_modifyHead, if_pos (beq_self_eq_true _)]
      rfl

/-! ## Components -/

theorem components_of_dot {path : String} {rest : List String}
    (relative : pieces path = "." :: rest) : components path = "." :: rest.filter counts := by
  rw [components, relative]
  rfl

theorem components_of_no_dot {path : String} (noDot : (pieces path).head? ≠ some ".") :
    components path = (pieces path).filter counts := by
  rw [components]
  split
  · rename_i rest relative
    simp [relative] at noDot
  · rfl

/-- The names that can be the components of a path. -/
structure Spellable (absolute : Bool) (names : List String) : Prop where
  noSlash : ∀ name ∈ names, '/' ∉ name.toList
  nonempty : ∀ name ∈ names, name ≠ ""
  /-- The name of the directory itself stands at most in front, on a relative path. -/
  noDot : ∀ name ∈ if absolute then names else names.tail, name ≠ "."

theorem spellable_components (path : String) :
    Spellable (isAbsolute path) (components path) := by
  by_cases dot : (pieces path).head? = some "."
  · obtain ⟨rest, relative⟩ := List.head?_eq_some_iff.mp dot
    have notAbsolute : isAbsolute path = false := by
      rw [Bool.eq_false_iff]
      intro absolute
      rw [head?_pieces_of_isAbsolute absolute] at dot
      exact absurd dot (by decide)
    have slashes : ∀ piece ∈ rest, '/' ∉ piece.toList := by
      intro piece member
      have whole : piece ∈ pieces path := by
        rw [relative]
        exact List.mem_cons_of_mem _ member
      exact notMem_of_mem_pieces whole
    rw [components_of_dot relative, notAbsolute]
    refine ⟨?_, ?_, ?_⟩
    · simpa using fun piece member _ _ => slashes piece member
    · simp +contextual
    · simp +contextual
  · rw [components_of_no_dot dot]
    have all : ∀ piece ∈ (pieces path).filter counts, piece ≠ "" ∧ piece ≠ "." := by
      simp +contextual
    refine ⟨fun piece member => notMem_of_mem_pieces (List.mem_filter.mp member).1,
      fun piece member => (all piece member).1, fun piece member => (all piece ?_).2⟩
    split at member
    · exact member
    · exact List.mem_of_mem_tail member

theorem Spellable.dropLast {absolute : Bool} {names : List String}
    (spellable : Spellable absolute names) : Spellable absolute names.dropLast := by
  have subset := (List.dropLast_sublist names).subset
  refine ⟨fun name member => spellable.noSlash name (subset member),
    fun name member => spellable.nonempty name (subset member),
    fun name member => spellable.noDot name ?_⟩
  cases absolute with
  | true => exact subset member
  | false =>
      rw [if_neg (by decide), List.tail_dropLast] at member
      exact (List.dropLast_sublist _).subset member

/-- Nothing stands in front of the slash at the root. -/
theorem pieces_ofComponents_true (names : List String) :
    pieces (ofComponents true names) = "" :: pieces (String.intercalate "/" names) := by
  have rooted : ofComponents true names = "" ++ "/" ++ String.intercalate "/" names := by
    simp [ofComponents]
  rw [rooted, pieces_append_slash, pieces_of_notMem (by simp), List.singleton_append]

section OfComponents

variable {absolute : Bool} {names : List String} (spellable : Spellable absolute names)
include spellable

theorem isAbsolute_ofComponents : isAbsolute (ofComponents absolute names) = absolute := by
  cases absolute with
  | true => simp [isAbsolute, ofComponents]
  | false =>
      cases names with
      | nil => decide
      | cons name names =>
          obtain ⟨letter, letters, spelled⟩ : ∃ letter letters, name.toList = letter :: letters :=
            List.exists_cons_of_ne_nil
              (by simpa using spellable.nonempty name List.mem_cons_self)
          have other : letter ≠ '/' := by
            rintro rfl
            exact spellable.noSlash name List.mem_cons_self (spelled ▸ List.mem_cons_self)
          have first : (ofComponents false (name :: names)).toList.head? = some letter := by
            cases names <;> simp [ofComponents, String.toList_intercalate, spelled]
          simpa [isAbsolute, first] using other

theorem components_ofComponents : components (ofComponents absolute names) = names := by
  cases absolute with
  | true =>
      have split := pieces_ofComponents_true names
      rw [components_of_no_dot (by simp [split]), split, List.filter_cons_of_neg (by decide)]
      exact filter_pieces_intercalate spellable.noSlash fun name member =>
        counts_eq_true.mpr ⟨spellable.nonempty name member, spellable.noDot name member⟩
  | false =>
      have relative : ofComponents false names = String.intercalate "/" names := by
        simp [ofComponents]
      have behind : ∀ name ∈ names.tail, counts name = true := fun name member =>
        counts_eq_true.mpr ⟨spellable.nonempty name (List.mem_of_mem_tail member),
          spellable.noDot name member⟩
      rw [relative]
      rcases names with _ | ⟨first, rest⟩
      · decide
      have split := pieces_intercalate spellable.noSlash (List.cons_ne_nil first rest)
      by_cases dot : first = "."
      · subst dot
        rw [components_of_dot split]
        exact congrArg _ (List.filter_eq_self.mpr behind)
      · have counted : counts first = true :=
          counts_eq_true.mpr ⟨spellable.nonempty first List.mem_cons_self, dot⟩
        rw [components_of_no_dot (by simpa [split] using dot), split]
        exact List.filter_eq_self.mpr (List.forall_mem_cons.mpr ⟨counted, behind⟩)

end OfComponents

/-- Apart from slashes and points, all characters of a path are in its components. -/
theorem mem_iff_mem_components {character : Char} (slash : character ≠ '/')
    (point : character ≠ '.') (path : String) :
    character ∈ path.toList ↔ ∃ name ∈ components path, character ∈ name.toList := by
  have split : character ∈ path.toList ↔ ∃ piece ∈ pieces path, character ∈ piece.toList := by
    rw [Text.mem_iff_mem_splitOn slash]
    simp [pieces]
  have counted {piece : String} (member : character ∈ piece.toList) : counts piece = true := by
    rw [counts_eq_true]
    constructor
    · rintro rfl
      simp at member
    · rintro rfl
      simp [point] at member
  rw [split]
  by_cases dot : (pieces path).head? = some "."
  · obtain ⟨rest, relative⟩ := List.head?_eq_some_iff.mp dot
    rw [components_of_dot relative, relative]
    simp only [List.exists_mem_cons_iff, List.mem_filter]
    grind
  · rw [components_of_no_dot dot]
    simp only [List.mem_filter]
    grind

/-! ## A name in a directory -/

/-- The pieces of a joined path are those of the directory, but for an empty one
behind a last slash, and the name. -/
theorem exists_pieces_join {name : String} (oneName : '/' ∉ name.toList) (directory : String) :
    ∃ front, pieces (join directory name) = front ++ [name] ∧
      (pieces directory = front ∨ pieces directory = front ++ [""]) := by
  have lone := pieces_of_notMem oneName
  rw [join]
  split
  · rename_i empty
    exact ⟨[], by rw [lone, List.nil_append],
      .inr (by rw [String.isEmpty_iff.mp empty]; decide)⟩
  · split
    · rename_i slash
      obtain ⟨letters, split⟩ := List.getLast?_eq_some_iff.mp (by simpa using slash)
      have ends : directory = String.ofList letters ++ "/" ++ "" := by
        rw [← String.toList_inj]
        simp [split]
      refine ⟨pieces (String.ofList letters), ?_, .inr ?_⟩
      · rw [ends, String.append_empty, pieces_append_slash, lone]
      · rw [ends, pieces_append_slash, pieces_empty]
    · exact ⟨pieces directory, by rw [pieces_append_slash, lone], .inl rfl⟩

theorem mem_join_iff {character : Char} (slash : character ≠ '/') (directory name : String) :
    character ∈ (join directory name).toList ↔
      character ∈ directory.toList ∨ character ∈ name.toList := by
  rw [join]
  split
  · rename_i empty
    simp [String.isEmpty_iff.mp empty]
  · split
    · simp
    · simp [slash]

theorem isAbsolute_eq_false {name : String} (oneName : '/' ∉ name.toList) :
    isAbsolute name = false := by
  rw [isAbsolute, Bool.eq_false_iff, Ne, beq_iff_eq]
  exact fun first => oneName (List.mem_of_head? first)

theorem isAbsolute_append {directory : String} (nonempty : directory ≠ "") (rest : String) :
    isAbsolute (directory ++ rest) = isAbsolute directory := by
  rw [isAbsolute, isAbsolute, String.toList_append, List.head?_append_of_ne_nil]
  simpa using nonempty

theorem isAbsolute_join {name : String} (oneName : '/' ∉ name.toList) (directory : String) :
    isAbsolute (join directory name) = isAbsolute directory := by
  by_cases empty : directory = ""
  · subst empty
    exact isAbsolute_eq_false oneName
  · rw [join, if_neg (by simpa using empty)]
    split
    · exact isAbsolute_append empty name
    · rw [String.append_assoc, isAbsolute_append empty]

theorem join_ne_empty {name : String} (nonempty : name ≠ "") (directory : String) :
    join directory name ≠ "" := by
  rw [join]
  split
  · exact nonempty
  · split <;> simp [nonempty]

/-! ## Spellings of one path -/

/-- Two texts of one path. -/
structure Same (path other : String) : Prop where
  absolute : isAbsolute path = isAbsolute other
  components : components path = components other

theorem same_ofComponents (path : String) :
    Same path (ofComponents (isAbsolute path) (components path)) :=
  ⟨(isAbsolute_ofComponents (spellable_components path)).symm,
    (components_ofComponents (spellable_components path)).symm⟩

/-! ## Chains -/

/-- The path without its last component, however it is spelled. -/
structure Parent (path above : String) : Prop where
  absolute : isAbsolute above = isAbsolute path
  nonempty : components path ≠ []
  components : components above = (components path).dropLast

/-- Every path with a component has a parent. -/
theorem exists_parent {path : String} (nonempty : components path ≠ []) :
    ∃ above, Parent path above :=
  have spellable := (spellable_components path).dropLast
  ⟨ofComponents (isAbsolute path) (components path).dropLast,
    isAbsolute_ofComponents spellable, nonempty, components_ofComponents spellable⟩

/-- The paths from one path upwards: each but the last has the next one as its
parent, and the last has no components. -/
inductive Chain : String → List String → Prop where
  | top {path : String} (top : components path = []) : Chain path [path]
  | up {path above : String} {chain : List String} (parent : Parent path above)
      (rest : Chain above chain) : Chain path (path :: chain)

/-- **Every path has a chain.** -/
theorem exists_chain (path : String) : ∃ chain, Chain path chain := by
  -- each parent has one component less
  induction size : (components path).length generalizing path with
  | zero => exact ⟨[path], .top (List.eq_nil_of_length_eq_zero size)⟩
  | succ size ih =>
      have nonempty : components path ≠ [] := List.ne_nil_of_length_eq_add_one size
      obtain ⟨above, parent⟩ := exists_parent nonempty
      obtain ⟨chain, rest⟩ := ih above (by rw [parent.components, List.length_dropLast]; omega)
      exact ⟨path :: chain, .up parent rest⟩

theorem ancestors_of_top {path : String} (top : components path = []) :
    ancestors path = [ofComponents (isAbsolute path) (components path)] := by
  simp [ancestors, top, suffixes]

theorem ancestors_of_parent {path above : String} (parent : Parent path above) :
    ancestors path = ofComponents (isAbsolute path) (components path) :: ancestors above := by
  obtain ⟨names, last, split⟩ := (List.eq_nil_or_concat' (components path)).resolve_left
    parent.nonempty
  have shorter : components above = names := by
    rw [parent.components, split, List.dropLast_concat]
  rw [ancestors, ancestors, split, shorter, parent.absolute, List.reverse_append]
  simp [suffixes]

/-- **The ancestors of a path are its chain**, whatever the spelling of its members. -/
theorem Chain.same_ancestors {path : String} {chain : List String} (leads : Chain path chain) :
    List.Forall₂ Same chain (ancestors path) := by
  induction leads with
  | top top => exact ancestors_of_top top ▸ .cons (same_ofComponents _) .nil
  | up parent _ ih => exact ancestors_of_parent parent ▸ .cons (same_ofComponents _) ih

end DiagnosticReport.Path
