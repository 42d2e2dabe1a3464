import DiagnosticReport.Proofs.Filter
import DiagnosticReport.Proofs.Text.Trim
import Mathlib.Data.List.Basic

/-!
# Laws of filters

A level is named by the letters of its name, small or capital, with blanks around them
(`Level.Names`). This is how names are read (`Level.parse_eq_ok_iff`), and a filter is
what its names name: each level once, in the order in which they are first named
(`LevelFilter.FirstOnes`).

What passes a filter depends on the set of these levels alone. Filters behind each
other let through what is common to them, in either order, and of the errors and
warnings of a list a filter keeps all or none. `LevelFilter.laws` collects this.
-/

set_option autoImplicit false

namespace DiagnosticReport

namespace Level

/-! ## Names -/

/-- A text names a level if it is the name of the level in letters of either case,
with blanks around it. -/
def Names (text : String) (level : Level) : Prop :=
  ∃ before letters after : List Char, text.toList = before ++ letters ++ after ∧
    (∀ character ∈ before ++ after, Text.isBlank character = true) ∧
    letters.map Char.toLower = level.name.toList

theorem name_injective {level other : Level} (same : level.name = other.name) :
    level = other := by
  revert same
  cases level <;> cases other <;> decide

/-- Blanks are no capitals, so they stay among small letters. -/
theorem toLower_of_isBlank {character : Char} (blank : Text.isBlank character = true) :
    character.toLower = character := by
  refine dif_neg ?_
  rintro ⟨above, below⟩
  have lower : 0x41 ≤ character.toNat := UInt32.le_iff_toNat_le.mp above
  have upper : character.toNat ≤ 0x5A := UInt32.le_iff_toNat_le.mp below
  simp only [Text.isBlank, Bool.or_eq_true, Bool.and_eq_true, decide_eq_true_eq, beq_iff_eq]
    at blank
  omega

/-- No character of a name is blank. -/
theorem isBlank_of_mem_name {level : Level} {character : Char}
    (member : character ∈ level.name.toList) : Text.isBlank character = false := by
  have solid : (level.name.toList.all fun letter => !Text.isBlank letter) = true := by
    cases level <;> decide
  simpa using List.all_eq_true.mp solid character member

/-- A text names the level whose name is what is understood. -/
theorem names_iff {text : String} {level : Level} :
    Names text level ↔ level.name = understood text := by
  have letters : (understood text).toList =
      (Text.trimBoth Text.isBlank text.toList).map Char.toLower := by
    simp [understood, Text.lowercaseAscii, Text.trim]
  rw [← String.toList_inj, letters]
  constructor
  · rintro ⟨before, letters, after, split, blank, spelled⟩
    have solid : ∀ character ∈ letters, Text.isBlank character = false := by
      intro character member
      cases isBlank : Text.isBlank character with
      | false => rfl
      | true =>
          have inName : character ∈ level.name.toList := by
            rw [← spelled, ← toLower_of_isBlank isBlank]
            exact List.mem_map_of_mem member
          rw [← isBlank, isBlank_of_mem_name inName]
    rw [split, Text.trimBoth_around blank solid, spelled]
  · intro spelled
    obtain ⟨before, after, split, blank⟩ := Text.exists_trimBoth Text.isBlank text.toList
    exact ⟨before, _, after, split, blank, spelled.symm⟩

theorem Names.unique {text : String} {level other : Level} (names : Names text level)
    (otherNames : Names text other) : level = other :=
  name_injective ((names_iff.mp names).trans (names_iff.mp otherNames).symm)

theorem names_name (level : Level) : Names level.name level :=
  ⟨[], level.name.toList, [], by simp, by simp, by cases level <;> decide⟩

theorem ofName?_eq_some_iff {text : String} {level : Level} :
    ofName? text = some level ↔ level.name = text := by
  have named {other : Level} (found : ofName? text = some other) : other.name = text := by
    simpa using List.find?_some found
  constructor
  · exact named
  · intro isName
    cases found : ofName? text with
    | none => exact absurd isName (ofName?_eq_none_iff.mp found level)
    | some other => rw [name_injective ((named found).trans isName.symm)]

/-- **A name is read as the level that it names.** -/
theorem parse_eq_ok_iff {text : String} {level : Level} :
    parse text = .ok level ↔ Names text level := by
  rw [names_iff, ← ofName?_eq_some_iff, parse, ← understood]
  cases ofName? (understood text) with
  | none => simp
  | some other => simp

end Level

/-! ## Lists of names -/

theorem mapM_parse_eq_ok_iff {names : List String} {levels : List Level} :
    names.mapM Level.parse = .ok levels ↔ List.Forall₂ Level.Names names levels := by
  simp only [mapM_eq_ok_iff, Level.parse_eq_ok_iff]

namespace LevelFilter

/-- One of these names names the level. -/
def Named (names : List String) (level : Level) : Prop := ∃ name ∈ names, Level.Names name level

theorem mem_iff_named {names : List String} {levels : List Level}
    (named : List.Forall₂ Level.Names names levels) (level : Level) :
    level ∈ levels ↔ Named names level := by
  induction named with
  | nil => simp [Named]
  | @cons name first names levels names_first _ ih =>
      have here : level = first ↔ Level.Names name level :=
        ⟨fun same => same ▸ names_first, fun names_level => names_level.unique names_first⟩
      rw [List.mem_cons, ih, here]
      simp [Named]

theorem ofNames_eq_ok_iff {names : List String} {filter : LevelFilter} :
    ofNames names = .ok filter ↔
      ∃ levels, List.Forall₂ Level.Names names levels ∧ ofLevels levels = filter := by
  simp only [← mapM_parse_eq_ok_iff]
  rw [ofNames]
  cases names.mapM Level.parse with
  | error unknown => simp [Except.map]
  | ok levels => simp [Except.map]

/-- Names make a filter if each of them names a level. -/
theorem exists_ofNames {names : List String}
    (named : ∀ name ∈ names, ∃ level, Level.Names name level) :
    ∃ filter, ofNames names = .ok filter := by
  rw [exists_ok_iff]
  intro unknown refused
  obtain ⟨name, member, none⟩ :=
    exists_firstUnknown_iff.mp ⟨unknown, ofNames_eq_error_iff.mp refused⟩
  obtain ⟨level, names_level⟩ := named name member
  exact none level (Level.names_iff.mp names_level)

/-! ## The levels of a filter -/

/-- Each of these levels once, in the order of their first occurrences. -/
structure FirstOnes (levels kept : List Level) : Prop where
  mem_iff : ∀ level, level ∈ kept ↔ level ∈ levels
  ordered : kept.Pairwise fun earlier later => levels.idxOf earlier < levels.idxOf later

theorem FirstOnes.nodup {levels kept : List Level} (firsts : FirstOnes levels kept) :
    kept.Nodup :=
  firsts.ordered.imp fun earlier same => by
    subst same
    exact Nat.lt_irrefl _ earlier

/-- One more level is kept if it is a new one. -/
theorem FirstOnes.step {levels kept : List Level} (firsts : FirstOnes levels kept)
    (level : Level) :
    FirstOnes (levels ++ [level]) (if level ∈ kept then kept else kept ++ [level]) := by
  have still : kept.Pairwise fun earlier later =>
      (levels ++ [level]).idxOf earlier < (levels ++ [level]).idxOf later := by
    refine firsts.ordered.imp_of_mem fun {earlier later} first second before => ?_
    rwa [List.idxOf_append_of_mem ((firsts.mem_iff earlier).mp first),
      List.idxOf_append_of_mem ((firsts.mem_iff later).mp second)]
  split
  · rename_i known
    refine ⟨fun other => ?_, still⟩
    rw [firsts.mem_iff, List.mem_append, List.mem_singleton, or_iff_left_of_imp]
    rintro rfl
    exact (firsts.mem_iff other).mp known
  · rename_i new
    refine ⟨fun other => by rw [List.mem_append, List.mem_append, firsts.mem_iff], ?_⟩
    rw [List.pairwise_append]
    refine ⟨still, List.pairwise_singleton _ _, fun earlier member later last => ?_⟩
    obtain rfl := List.mem_singleton.mp last
    have known := (firsts.mem_iff earlier).mp member
    have unknown : later ∉ levels := fun known => new ((firsts.mem_iff later).mpr known)
    rw [List.idxOf_append_of_mem known, List.idxOf_append_of_notMem unknown]
    exact Nat.lt_add_right _ (List.idxOf_lt_length_iff.mpr known)

/-- **A filter keeps the first occurrences.** -/
theorem firstOnes_keepFirst (levels : List Level) : FirstOnes levels (keepFirst levels) := by
  -- the levels that have been read are followed by those that are still to come
  have run : ∀ (rest read kept : List Level), FirstOnes read kept →
      FirstOnes (read ++ rest)
        (rest.foldl (fun kept level => if level ∈ kept then kept else kept ++ [level]) kept) := by
    intro rest
    induction rest with
    | nil =>
        intro read kept firsts
        rwa [List.append_nil]
    | cons level rest ih =>
        intro read kept firsts
        have longer := ih _ _ (firsts.step level)
        rwa [List.append_assoc, List.singleton_append] at longer
  exact run levels [] [] ⟨fun _ => Iff.rfl, .nil⟩

/-- A filter lists the levels that its names name. -/
theorem mem_allowed_iff {names : List String} {filter : LevelFilter}
    (accepted : ofNames names = .ok filter) (level : Level) :
    level ∈ filter.allowed ↔ Named names level := by
  obtain ⟨levels, named, rfl⟩ := ofNames_eq_ok_iff.mp accepted
  rw [← mem_iff_named named]
  exact (firstOnes_keepFirst levels).mem_iff level

/-! ## What passes -/

variable {filter other common : LevelFilter}

/-- **Filters of the same levels are alike**, and no others are. -/
theorem apply_eq_iff :
    (∀ records, filter.apply records = other.apply records) ↔
      ∀ level, level ∈ filter.allowed ↔ level ∈ other.allowed := by
  constructor
  · intro alike level
    let record : Record := { checker := .typeScript, level := some level }
    have passes (any : LevelFilter) : record ∈ any.apply [record] ↔ level ∈ any.allowed := by
      rw [apply, List.mem_filter, and_iff_right (List.mem_singleton_self record), allows_iff]
      simp [record]
    rw [← passes filter, ← passes other, alike]
  · intro same records
    refine List.filter_congr fun record _ => ?_
    rw [Bool.eq_iff_iff, allows_iff, allows_iff]
    simp only [same]

/-- Behind each other, filters let through what a filter of their common levels does. -/
theorem apply_apply
    (both : ∀ level, level ∈ common.allowed ↔ level ∈ filter.allowed ∧ level ∈ other.allowed)
    (records : List Record) : filter.apply (other.apply records) = common.apply records := by
  rw [apply, apply, List.filter_filter]
  refine List.filter_congr fun record _ => ?_
  rw [Bool.eq_iff_iff, Bool.and_eq_true, allows_iff, allows_iff, allows_iff]
  simp only [both]
  constructor
  · rintro ⟨⟨level, has, listed⟩, ⟨otherLevel, otherHas, otherListed⟩⟩
    obtain rfl := Option.some.inj (has.symm.trans otherHas)
    exact ⟨level, has, listed, otherListed⟩
  · rintro ⟨level, has, listed, otherListed⟩
    exact ⟨⟨level, has, listed⟩, level, has, otherListed⟩

theorem apply_append (filter : LevelFilter) (records more : List Record) :
    filter.apply (records ++ more) = filter.apply records ++ filter.apply more :=
  List.filter_append records more

/-- Of the records of one level all pass or none. -/
theorem countP_apply (filter : LevelFilter) (level : Level) (records : List Record) :
    (filter.apply records).countP (fun record => record.level == some level) =
      if level ∈ filter.allowed then records.countP (fun record => record.level == some level)
      else 0 := by
  rw [apply, List.countP_filter]
  split
  · rename_i listed
    refine List.countP_congr fun record _ => ?_
    rw [Bool.and_eq_true, beq_iff_eq, allows_iff]
    exact and_iff_left_of_imp fun has => ⟨level, has, listed⟩
  · rename_i unlisted
    refine List.countP_eq_zero.mpr fun record _ => ?_
    rw [Bool.and_eq_true, beq_iff_eq, allows_iff]
    rintro ⟨has, otherLevel, otherHas, listed⟩
    obtain rfl := Option.some.inj (has.symm.trans otherHas)
    exact unlisted listed

/-- The counts without those of levels that a filter does not list. -/
def restrict (filter : LevelFilter) (counts : Counts) : Counts where
  errors := if Level.error ∈ filter.allowed then counts.errors else 0
  warnings := if Level.warning ∈ filter.allowed then counts.warnings else 0

theorem tally_apply (filter : LevelFilter) (records : List Record) :
    Counts.tally (filter.apply records) = filter.restrict (Counts.tally records) :=
  congrArg₂ Counts.mk (countP_apply filter .error records) (countP_apply filter .warning records)

/-! ## The laws -/

/-- How the filters of two lists of names behave. -/
structure Laws (names otherNames : List String) (filter other : LevelFilter) : Prop where
  /-- A filter lists each level that is named once, in the order in which they are first
  named. -/
  firsts : ∃ levels, List.Forall₂ Level.Names names levels ∧ filter.allowed.Nodup ∧
    (∀ level, level ∈ filter.allowed ↔ level ∈ levels) ∧
    filter.allowed.Pairwise fun earlier later => levels.idxOf earlier < levels.idxOf later
  /-- The filters do the same exactly if the same levels are named, in whatever order, as
  often and in whatever form. -/
  alike_iff : (∀ records, filter.apply records = other.apply records) ↔
    ∀ level, Named names level ↔ Named otherNames level
  /-- Other names of the levels are accepted as well. -/
  renamed : ∀ newNames : List String,
    (∀ name ∈ newNames, ∃ level, Level.Names name level) →
    (∀ level, Named newNames level ↔ Named names level) →
    ∃ renamed, ofNames newNames = .ok renamed ∧
      ∀ records, renamed.apply records = filter.apply records
  /-- There are names for the common levels. -/
  common : ∃ bothNames both, ofNames bothNames = .ok both ∧
    ∀ level, Named bothNames level ↔ Named names level ∧ Named otherNames level
  /-- In either order, the filters do what a filter of the common levels does. -/
  apply_both : ∀ bothNames both, ofNames bothNames = .ok both →
    (∀ level, Named bothNames level ↔ Named names level ∧ Named otherNames level) →
    ∀ records, filter.apply (other.apply records) = both.apply records ∧
      other.apply (filter.apply records) = both.apply records
  apply_twice : ∀ records, filter.apply (filter.apply records) = filter.apply records
  apply_append : ∀ records more,
    filter.apply (records ++ more) = filter.apply records ++ filter.apply more
  /-- The errors are counted as before, or none is if errors are not allowed; and so with
  the warnings. -/
  tally_apply : ∀ records,
    Counts.tally (filter.apply records) = filter.restrict (Counts.tally records)

/-- **The laws of filters** that are made of names. -/
theorem laws {names otherNames : List String} (accepted : ofNames names = .ok filter)
    (otherAccepted : ofNames otherNames = .ok other) : Laws names otherNames filter other := by
  have listed := mem_allowed_iff accepted
  have otherListed := mem_allowed_iff otherAccepted
  constructor
  case firsts =>
    obtain ⟨levels, named, rfl⟩ := ofNames_eq_ok_iff.mp accepted
    have firsts := firstOnes_keepFirst levels
    exact ⟨levels, named, firsts.nodup, firsts.mem_iff, firsts.ordered⟩
  case alike_iff => simp only [apply_eq_iff, listed, otherListed]
  case renamed =>
    intro newNames named same
    obtain ⟨renamed, newAccepted⟩ := exists_ofNames named
    refine ⟨renamed, newAccepted, apply_eq_iff.mpr fun level => ?_⟩
    rw [mem_allowed_iff newAccepted, same, listed]
  case common =>
    let levels := filter.allowed.filter (· ∈ other.allowed)
    have forall₂ : List.Forall₂ Level.Names (levels.map Level.name) levels := by
      rw [List.forall₂_map_left_iff, List.forall₂_same]
      exact fun level _ => level.names_name
    refine ⟨levels.map Level.name, ofLevels levels, ofNames_eq_ok_iff.mpr ⟨levels, forall₂, rfl⟩,
      fun level => ?_⟩
    rw [← mem_iff_named forall₂, List.mem_filter, decide_eq_true_iff, listed, otherListed]
  case apply_both =>
    intro bothNames both bothAccepted same records
    have common : ∀ level, level ∈ both.allowed ↔
        level ∈ filter.allowed ∧ level ∈ other.allowed := by
      intro level
      rw [mem_allowed_iff bothAccepted, same, listed, otherListed]
    exact ⟨apply_apply common records,
      apply_apply (fun level => (common level).trans and_comm) records⟩
  case apply_twice => exact apply_apply fun level => (and_self_iff).symm
  case apply_append => exact filter.apply_append
  case tally_apply => exact filter.tally_apply

/-- Errors and warnings are named twice each, and in different ways. -/
theorem laws_of_mixedNames :
    ofNames ["error", " Warning\t", "ERROR"] = .ok ⟨[.error, .warning]⟩ ∧
      ofNames ["message", "\u2003eRRor"] = .ok ⟨[.message, .error]⟩ ∧
      Laws ["error", " Warning\t", "ERROR"] ["message", "\u2003eRRor"]
        ⟨[.error, .warning]⟩ ⟨[.message, .error]⟩ := by
  have accepted : ofNames ["error", " Warning\t", "ERROR"] = .ok ⟨[.error, .warning]⟩ := by
    decide +kernel
  have otherAccepted : ofNames ["message", "\u2003eRRor"] = .ok ⟨[.message, .error]⟩ := by
    decide +kernel
  exact ⟨accepted, otherAccepted, laws accepted otherAccepted⟩

end LevelFilter

end DiagnosticReport
