import DiagnosticReport.Json.Field
import DiagnosticReport.Proofs.Decimal

/-!
# Readable values and their parts

A value that is readable within some levels of containers has readable parts
within one level less. This goes for the fields of a structure, in whichever form
it is written (`readable_of_mem_members?`), and for the items of a list
(`exists_of_mem_list?`).
-/

set_option autoImplicit false

namespace DiagnosticReport.Json

variable {room : Nat}

/-- A number of 64 bits is within the doubles, with either sign. -/
theorem isFinite_integer {value : Int} (below : value.natAbs < UInt64.size) :
    (Number.integer value).isFinite = true := by
  have short : value.natAbs < Nat.pow 10 310 := Nat.lt_of_lt_of_le below (by decide +kernel)
  rw [Number.isFinite, Decimal.isWithinDoubles_toDigits below, Bool.and_true]
  exact decide_eq_true short

theorem readable_int {value : Int} (below : value.natAbs < UInt64.size) :
    (int value).readable room = true := by
  rw [int, readable, isFinite_integer below]

theorem readable_int64 (value : Int64) : (int value.toInt).readable room = true := by
  have least := value.le_toInt
  have greatest := value.toInt_lt
  exact readable_int (by rw [UInt64.size]; omega)

/-! ## Containers -/

theorem readableItems_iff {items : List Json} :
    readableItems room items = true ↔ ∀ item ∈ items, item.readable room = true := by
  induction items with
  | nil => simp [readableItems]
  | cons item items ih => simp [readableItems, ih]

theorem readable_array_iff {items : List Json} :
    (array items).readable room = true ↔
      room ≠ 0 ∧ ∀ item ∈ items, item.readable (room - 1) = true := by
  simp [readable, readableItems_iff]

theorem readableMembers_map_iff {members : List (String × Json)} :
    readableMembers room (members.map fun member => (some member.1, member.2)) = true ↔
      ∀ member ∈ members, member.2.readable room = true := by
  induction members with
  | nil => simp [readableMembers]
  | cons member members ih => simp [readableMembers, ih]

theorem readable_record_iff {members : List (String × Json)} :
    (record members).readable room = true ↔
      room ≠ 0 ∧ ∀ member ∈ members, member.2.readable (room - 1) = true := by
  simp [record, readable, readableMembers_map_iff]

/-! ## What is read from a readable value -/

theorem eq_map_of_namedMembers? {members : List (Option String × Json)}
    {named : List (String × Json)} (read : namedMembers? members = some named) :
    members = named.map fun member => (some member.1, member.2) := by
  induction members generalizing named with
  | nil =>
      obtain rfl := Option.some.inj read
      rfl
  | cons member members ih =>
      obtain ⟨name, value⟩ := member
      cases name with
      | none => cases read
      | some name =>
          obtain ⟨others, later, read⟩ := Option.bind_eq_some_iff.mp read
          obtain rfl := Option.some.inj read
          rw [List.map_cons, ← ih later]

/-- The fields of a readable structure are readable within one level less. -/
theorem readable_of_mem_members? {fields : List String} {value : Json}
    {members : List (String × Json)} (readable : value.readable room = true)
    (read : value.members? fields = some members) :
    room ≠ 0 ∧ ∀ member ∈ members, member.2.readable (room - 1) = true := by
  cases value with
  | object inOrder =>
      obtain ⟨found, named, read⟩ := Option.bind_eq_some_iff.mp read
      rw [eq_map_of_namedMembers? named] at readable
      split at read
      · obtain rfl := Option.some.inj read
        exact readable_record_iff.mp readable
      · cases read
  | array items =>
      obtain ⟨positive, all⟩ := readable_array_iff.mp readable
      rw [members?] at read
      split at read
      · obtain rfl := Option.some.inj read
        exact ⟨positive, fun member listed => all member.2 (List.of_mem_zip listed).2⟩
      · cases read
  | _ => cases read

/-- Every value that is read from a list of items comes from one of them. -/
theorem exists_of_mem_mapM {α β : Type} {read? : α → Option β} {items : List α} {values : List β}
    {value : β} (read : items.mapM read? = some values) (member : value ∈ values) :
    ∃ item ∈ items, read? item = some value := by
  induction items generalizing values with
  | nil =>
      obtain rfl := Option.some.inj read
      cases member
  | cons item items ih =>
      rw [List.mapM_cons] at read
      obtain ⟨first, found, read⟩ := Option.bind_eq_some_iff.mp read
      obtain ⟨others, later, read⟩ := Option.bind_eq_some_iff.mp read
      obtain rfl := Option.some.inj read
      rcases List.mem_cons.mp member with rfl | member
      · exact ⟨item, List.mem_cons_self, found⟩
      · obtain ⟨other, listed, same⟩ := ih later member
        exact ⟨other, List.mem_cons_of_mem _ listed, same⟩

/-- Every value of a list that is read from a readable value comes from an item
that is readable within one level less. -/
theorem exists_of_mem_list? {α : Type} {read? : Json → Option α} {value : Json} {values : List α}
    {result : α} (readable : value.readable room = true)
    (read : value.list? read? = some values) (member : result ∈ values) :
    room ≠ 0 ∧ ∃ item : Json, item.readable (room - 1) = true ∧ read? item = some result := by
  cases value with
  | array items =>
      obtain ⟨positive, all⟩ := readable_array_iff.mp readable
      obtain ⟨item, listed, same⟩ := exists_of_mem_mapM read member
      exact ⟨positive, item, all item listed, same⟩
  | _ => cases read

end DiagnosticReport.Json
