import DiagnosticReport.Json.Field
import DiagnosticReport.Proofs.Json.Plain
import Mathlib.Data.List.Nodup

/-!
# Fields that are written and read back

A structure is written as an object with its own names, each at most once, so
reading it as a structure gives the written members (`members?_record`). In them
each field is looked up. What stands there is the written value, or `null` or
nothing for a value that is absent.

`Faithful` says that a reader and a writer of one type fit together: what is
written is read back, it is plain, and it is not the `null` that stands for an
absent value. The last makes absent and present values different
(`Faithful.optionalOf_ofOption`, `Faithful.optionalOf_map`).
-/

set_option autoImplicit false

namespace DiagnosticReport.Json

variable {α : Type}

/-! ## Members -/

theorem namedMembers?_map (members : List (String × Json)) :
    namedMembers? (members.map fun member => (some member.1, member.2)) = some members := by
  induction members with
  | nil => rfl
  | cons member members ih =>
      rw [List.map_cons, namedMembers?, ih]
      rfl

/-- An object whose names differ is read as the members it was written with. -/
theorem members?_record (fields : List String) {members : List (String × Json)}
    (differ : (members.map Prod.fst).Nodup) :
    members? fields (record members) = some members := by
  have once : fields.all (fun field => members.countP (·.1 == field) ≤ 1) = true := by
    rw [List.all_eq_true]
    intro field _
    have most := List.nodup_iff_count_le_one.mp differ field
    rw [List.count_eq_countP, List.countP_map] at most
    exact decide_eq_true most
  rw [record, members?, namedMembers?_map]
  exact if_pos once

/-- A member that is written only if its value is present has the field's name. -/
theorem map_fst_present_sublist (field : String) (write : α → Json) (value : Option α) :
    ((present field write value).map Prod.fst).Sublist [field] := by
  cases value with
  | none => exact List.nil_sublist _
  | some value => exact List.Sublist.refl _

@[simp]
theorem lookup_present (name field : String) (write : α → Json) (value : Option α) :
    (present field write value).lookup name = if name == field then value.map write else none := by
  cases value with
  | none => simp [present]
  | some value => cases same : name == field <;> simp [present, List.lookup_cons, same]

/-! ## Scalars -/

@[simp]
theorem string?_string (value : String) : string? (.string value) = some value :=
  rfl

theorem integerWithin?_int {least greatest value : Int} (above : least ≤ value)
    (below : value ≤ greatest) : integerWithin? least greatest (.int value) = some value := by
  simp [int, integerWithin?, above, below]

@[simp]
theorem int64?_toInt (value : Int64) : int64? (.int value.toInt) = some value := by
  rw [int64?, integerWithin?_int value.minValue_le_toInt value.toInt_le, Option.map_some,
    Int64.ofInt_toInt]

@[simp]
theorem uint64?_toNat (value : UInt64) : uint64? (.int value.toNat) = some value := by
  have below := value.toNat_lt
  rw [uint64?, integerWithin?_int (by omega) (by omega), Option.map_some, Int.toNat_natCast,
    UInt64.ofNat_toNat]

@[simp]
theorem uint32?_toNat (value : UInt32) : uint32? (.int value.toNat) = some value := by
  have below := value.toNat_lt
  rw [uint32?, integerWithin?_int (by omega) (by omega), Option.map_some, Int.toNat_natCast,
    UInt32.ofNat_toNat]

/-- Items that are read back one by one are read back as a list. -/
theorem list?_map {read? : Json → Option α} {write : α → Json} {items : List α}
    (reads : ∀ item ∈ items, read? (write item) = some item) :
    list? read? (.array (items.map write)) = some items := by
  rw [list?, List.mapM_map]
  induction items with
  | nil => rfl
  | cons item items ih =>
      rw [List.mapM_cons, Function.comp_apply, reads item List.mem_cons_self,
        ih fun other member => reads other (List.mem_cons_of_mem _ member)]
      rfl

/-! ## Readers and writers that fit together -/

/-- What an optional field holds, if this was found under its name. -/
def optionalOf (read? : Json → Option α) : Option Json → Option (Option α)
  | none => some none
  | some .null => some none
  | some value => (read? value).map some

theorem optional_eq_optionalOf (read? : Json → Option α) (field : String)
    (members : List (String × Json)) :
    optional read? field members = optionalOf read? (members.lookup field) :=
  rfl

/-- A reader and a writer of one type that fit together. -/
structure Faithful (read? : Json → Option α) (write : α → Json) : Prop where
  /-- What is written is read back. -/
  reads (value : α) : read? (write value) = some value
  /-- What is written is a plain value. -/
  plain (value : α) : Plain (write value)
  /-- What is written does not stand for an absent value. -/
  notNull (value : α) : write value ≠ .null

namespace Faithful

variable {read? : Json → Option α} {write : α → Json}

/-- An optional value that is always written is read back. -/
theorem optionalOf_ofOption (faithful : Faithful read? write) (value : Option α) :
    optionalOf read? (some (ofOption write value)) = some value := by
  cases value with
  | none => rfl
  | some value =>
      rw [ofOption, optionalOf]
      · rw [faithful.reads, Option.map_some]
      · exact faithful.notNull value

/-- An optional value that is written only if it is present is read back. -/
theorem optionalOf_map (faithful : Faithful read? write) (value : Option α) :
    optionalOf read? (value.map write) = some value := by
  cases value with
  | none => rfl
  | some value => exact faithful.optionalOf_ofOption (some value)

theorem plain_ofOption (faithful : Faithful read? write) (value : Option α) :
    Plain (ofOption write value) := by
  cases value with
  | none => exact .null
  | some value => exact faithful.plain value

theorem plain_of_mem_present (faithful : Faithful read? write) {field : String} {value : Option α}
    {member : String × Json} (listed : member ∈ present field write value) :
    Plain member.2 := by
  cases value with
  | none => cases listed
  | some value =>
      rw [List.mem_singleton.mp listed]
      exact faithful.plain value

/-- A list of values is written and read item by item. -/
theorem list (faithful : Faithful read? write) :
    Faithful (list? read?) fun items => .array (items.map write) where
  reads _ := list?_map fun item _ => faithful.reads item
  plain items := by
    refine .array fun item member => ?_
    obtain ⟨value, -, rfl⟩ := List.mem_map.mp member
    exact faithful.plain value
  notNull _ := by simp

end Faithful

theorem faithful_string : Faithful string? .string :=
  ⟨string?_string, .string, fun _ => by simp⟩

theorem faithful_int64 : Faithful int64? fun value => .int value.toInt :=
  ⟨int64?_toInt, fun value => .integer value.toInt, fun _ => by simp [int]⟩

theorem faithful_uint64 : Faithful uint64? fun value => .int value.toNat :=
  ⟨uint64?_toNat, fun value => .integer value.toNat, fun _ => by simp [int]⟩

theorem record_ne_null (members : List (String × Json)) : record members ≠ .null := by
  simp [record]

end DiagnosticReport.Json
