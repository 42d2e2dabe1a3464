import DiagnosticReport.Filter
import Mathlib.Data.List.Forall2

/-!
# Names that make a filter

A filter is made of level names one after another, and the first name of no
level settles that there is none. `FirstUnknown` says which name that is, and
what is reported of it: the name as it was understood
(`LevelFilter.ofNames_eq_error_iff`). Lists of names that are read one behind
the other have the first unknown name of the whole
(`mapM_eq_error_iff_firstUnknown`).

Whatever the names, only a record with a level passes a filter
(`LevelFilter.allows_iff`).
-/

set_option autoImplicit false

namespace DiagnosticReport

namespace Level

/-- How a level name is understood: without the blanks around it and in small
letters. -/
def understood (text : String) : String := Text.lowercaseAscii (Text.trim text)

/-- A text that is the name of no level. -/
def NamesNone (text : String) : Prop := ∀ level : Level, level.name ≠ understood text

theorem mem_all (level : Level) : level ∈ all := by
  cases level with
  | warning => decide
  | error => decide
  | suggestion => decide
  | message => decide

theorem ofName?_eq_none_iff {text : String} :
    ofName? text = none ↔ ∀ level : Level, level.name ≠ text := by
  rw [ofName?, List.find?_eq_none]
  constructor
  · intro none level same
    exact none level (mem_all level) (beq_iff_eq.mpr same)
  · intro different level _ same
    exact different level (beq_iff_eq.mp same)

/-- A name is refused exactly when no level has it, and is reported as it was
understood. -/
theorem parse_eq_error_iff {text : String} {unknown : UnknownLevel} :
    parse text = .error unknown ↔ NamesNone text ∧ unknown = ⟨understood text⟩ := by
  rw [NamesNone, ← ofName?_eq_none_iff, parse, ← understood]
  cases ofName? (understood text) with
  | none => simp [eq_comm]
  | some level => simp

theorem exists_parse_iff {text : String} :
    (∃ level, parse text = .ok level) ↔ ¬ NamesNone text := by
  rw [NamesNone, ← ofName?_eq_none_iff, parse, ← understood]
  cases ofName? (understood text) with
  | none => simp
  | some level => simp

end Level

/-! ## Lists of steps that can fail -/

section Steps

variable {α β ε : Type} {step : α → Except ε β} {items later : List α} {error : ε}

theorem exists_ok_iff {result : Except ε β} :
    (∃ value, result = .ok value) ↔ ∀ error, result ≠ .error error := by
  cases result with
  | error other => simp
  | ok value => simp

theorem bind_eq_error_iff {γ : Type} {first : Except ε β} {next : β → Except ε γ} :
    (first >>= next) = .error error ↔
      first = .error error ∨ ∃ value, first = .ok value ∧ next value = .error error := by
  cases first with
  | error other => simp [bind, Except.bind]
  | ok value => simp [bind, Except.bind]

theorem bind_eq_ok_iff {γ : Type} {first : Except ε β} {next : β → Except ε γ} {result : γ} :
    (first >>= next) = .ok result ↔ ∃ value, first = .ok value ∧ next value = .ok result := by
  cases first with
  | error other => simp [bind, Except.bind]
  | ok value => simp [bind, Except.bind]

/-- A list succeeds with the values of its items. -/
theorem mapM_eq_ok_iff {values : List β} :
    items.mapM step = .ok values ↔
      List.Forall₂ (fun item value => step item = .ok value) items values := by
  induction items generalizing values with
  | nil => simp [pure, Except.pure, eq_comm]
  | cons item items ih =>
      rw [List.mapM_cons, List.forall₂_cons_left_iff]
      simp [bind_eq_ok_iff, ih, pure, Except.pure, @eq_comm _ values]

theorem mapM_cons_eq_error_iff {item : α} :
    (item :: items).mapM step = .error error ↔
      step item = .error error ∨
        (∃ value, step item = .ok value) ∧ items.mapM step = .error error := by
  simp [List.mapM_cons, bind_eq_error_iff, pure, Except.pure]

theorem mapM_append_eq_error_iff :
    (items ++ later).mapM step = .error error ↔
      items.mapM step = .error error ∨
        (∃ values, items.mapM step = .ok values) ∧ later.mapM step = .error error := by
  simp [List.mapM_append, bind_eq_error_iff, pure, Except.pure]

/-- Steps that agree on the items of a list agree on the list. -/
theorem mapM_congr {other : α → Except ε β} (same : ∀ item ∈ items, step item = other item) :
    items.mapM step = items.mapM other := by
  have through : ∀ any : α → Except ε β, items.mapM any = (items.map any).mapM id := by
    intro any
    rw [List.mapM_map, Function.id_comp]
  rw [through, through, List.map_congr_left same]

/-- A list fails with the error of its first item that fails. -/
theorem mapM_eq_error_iff :
    items.mapM step = .error error ↔
      ∃ before item after, items = before ++ item :: after ∧
        (∀ earlier ∈ before, ∃ value, step earlier = .ok value) ∧ step item = .error error := by
  induction items with
  | nil => simp [pure, Except.pure]
  | cons first items ih =>
      rw [mapM_cons_eq_error_iff, ih]
      constructor
      · rintro (here | ⟨good, before, item, after, rfl, others, bad⟩)
        · exact ⟨[], first, items, rfl, by simp, here⟩
        · exact ⟨first :: before, item, after, rfl, List.forall_mem_cons.mpr ⟨good, others⟩, bad⟩
      · rintro ⟨before, item, after, split, good, bad⟩
        cases before with
        | nil =>
            obtain ⟨rfl, -⟩ := List.cons.inj split
            exact .inl bad
        | cons other before =>
            obtain ⟨rfl, rest⟩ := List.cons.inj split
            obtain ⟨here, others⟩ := List.forall_mem_cons.mp good
            exact .inr ⟨here, before, item, after, rest, others, bad⟩

/-- A list fails exactly when one of its items does. -/
theorem exists_mapM_eq_error_iff :
    (∃ error, items.mapM step = .error error) ↔
      ∃ item ∈ items, ∃ error, step item = .error error := by
  induction items with
  | nil => simp [pure, Except.pure]
  | cons first items ih =>
      cases here : step first with
      | error other =>
          exact ⟨fun _ => ⟨first, List.mem_cons_self, other, here⟩,
            fun _ => ⟨other, mapM_cons_eq_error_iff.mpr (.inl here)⟩⟩
      | ok value =>
          simp only [mapM_cons_eq_error_iff]
          simpa [here] using ih

end Steps

/-! ## The first unknown name -/

/-- The first of these names that is the name of no level, as it was understood. -/
def FirstUnknown (names : List String) (unknown : UnknownLevel) : Prop :=
  ∃ before name after, names = before ++ name :: after ∧
    (∀ earlier ∈ before, ¬ Level.NamesNone earlier) ∧ Level.NamesNone name ∧
    unknown = ⟨Level.understood name⟩

theorem mapM_parse_eq_error_iff {names : List String} {unknown : UnknownLevel} :
    names.mapM Level.parse = .error unknown ↔ FirstUnknown names unknown := by
  simp only [mapM_eq_error_iff, FirstUnknown, Level.exists_parse_iff, Level.parse_eq_error_iff]

theorem exists_firstUnknown_iff {names : List String} :
    (∃ unknown, FirstUnknown names unknown) ↔ ∃ name ∈ names, Level.NamesNone name := by
  simp only [← mapM_parse_eq_error_iff, exists_mapM_eq_error_iff, Level.parse_eq_error_iff,
    exists_and_left, exists_eq, and_true]

/-- **A filter is refused for the first unknown name.** -/
theorem LevelFilter.ofNames_eq_error_iff {names : List String} {unknown : UnknownLevel} :
    ofNames names = .error unknown ↔ FirstUnknown names unknown := by
  rw [← mapM_parse_eq_error_iff, ofNames]
  cases names.mapM Level.parse with
  | error other => simp [Except.map]
  | ok levels => simp [Except.map]

/-- **Steps that each fail for the first unknown name of their own** fail together
for the first unknown name of all their names. -/
theorem mapM_eq_error_iff_firstUnknown {α β : Type} {namesOf : α → List String}
    {step : α → Except UnknownLevel β}
    (reads : ∀ item unknown, step item = .error unknown ↔ FirstUnknown (namesOf item) unknown)
    {items : List α} {unknown : UnknownLevel} :
    items.mapM step = .error unknown ↔ FirstUnknown (items.flatMap namesOf) unknown := by
  simp only [← mapM_parse_eq_error_iff] at reads ⊢
  induction items with
  | nil => simp [pure, Except.pure]
  | cons first items ih =>
      simp only [List.flatMap_cons, mapM_cons_eq_error_iff, mapM_append_eq_error_iff, reads,
        exists_ok_iff, ne_eq, ih]

/-- A record passes a filter exactly if it has a level and the filter lists it. -/
theorem LevelFilter.allows_iff {filter : LevelFilter} {record : Record} :
    filter.allows record = true ↔ ∃ level, record.level = some level ∧ level ∈ filter.allowed := by
  simp [allows, Option.any_eq_true]

end DiagnosticReport
