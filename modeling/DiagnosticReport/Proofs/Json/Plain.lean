import DiagnosticReport.Proofs.Json.Spelling

/-!
# Plain values and their two texts

Everything this library writes is plain: its numbers are whole, and its strings
and names denote texts (`Json.Plain`). Of a plain value nothing is lost in
writing. Its compact text and its indented text both spell it, so both are read
back as the value (`ofText?_compact`, `ofText?_pretty`).
-/

set_option autoImplicit false

namespace DiagnosticReport.Json

/-- A value with whole numbers only, in which all strings and names denote texts. -/
inductive Plain : Json → Prop where
  | null : Plain .null
  | bool (value : Bool) : Plain (.bool value)
  | integer (value : Int) : Plain (.int value)
  | string (value : String) : Plain (.string value)
  | array {items : List Json} (all : ∀ item ∈ items, Plain item) : Plain (.array items)
  | record {members : List (String × Json)} (all : ∀ member ∈ members, Plain member.2) :
      Plain (.record members)

/-! ## The compact text -/

theorem spellsItems_writeItems {item : Json} {items : List Json}
    (spells : ∀ other ∈ item :: items, Spells other other.write) :
    SpellsItems (item :: items) (writeItems (item :: items)) := by
  induction items generalizing item with
  | nil =>
      rw [writeItems]
      exact .last (spells item List.mem_cons_self)
  | cons next items ih =>
      rw [writeItems]
      · exact .more (spells item List.mem_cons_self) blanks_nil
          (ih fun other member => spells other (List.mem_cons_of_mem _ member))
      · intro impossible
        cases impossible

theorem spellsMembers_writeMembers {member : String × Json} {members : List (String × Json)}
    (spells : ∀ other ∈ member :: members, Spells other.2 other.2.write) :
    SpellsMembers ((member :: members).map fun other => (some other.1, other.2))
      (writeMembers ((member :: members).map fun other => (some other.1, other.2))) := by
  induction members generalizing member with
  | nil =>
      rw [List.map_singleton, writeMembers]
      exact .last member.1 blanks_nil (spells member List.mem_cons_self)
  | cons next members ih =>
      have later := ih fun other listed => spells other (List.mem_cons_of_mem _ listed)
      rw [List.map_cons, writeMembers]
      · exact .more member.1 blanks_nil (spells member List.mem_cons_self) blanks_nil later
      · intro impossible
        cases impossible

/-- The compact text of a plain value spells it. -/
theorem Plain.spells_write {value : Json} (plain : Plain value) : Spells value value.write := by
  induction plain with
  | null => exact .null
  | bool value => cases value <;> exact .bool _
  | integer value => exact .integer value
  | string value => exact .string value
  | @array items all ih =>
      cases items with
      | nil => exact .emptyArray
      | cons item items => exact .array blanks_nil (spellsItems_writeItems ih) blanks_nil
  | @record members all ih =>
      cases members with
      | nil => exact .emptyObject
      | cons member members => exact .object blanks_nil (spellsMembers_writeMembers ih) blanks_nil

/-! ## The indented text -/

theorem blanks_newLine (level : Nat) : Blanks (newLine level) := by
  intro character member
  rcases List.mem_cons.mp member with rfl | spaces
  · rfl
  · rw [List.eq_of_mem_replicate spaces]
    rfl

theorem spellsItems_writeIndentedItems {level : Nat} {item : Json} {items : List Json}
    (spells : ∀ other ∈ item :: items, Spells other (other.writeIndented level)) :
    SpellsItems (item :: items) (writeIndentedItems level (item :: items)) := by
  induction items generalizing item with
  | nil =>
      rw [writeIndentedItems]
      exact .last (spells item List.mem_cons_self)
  | cons next items ih =>
      rw [writeIndentedItems]
      · exact .more (spells item List.mem_cons_self) (blanks_newLine level)
          (ih fun other member => spells other (List.mem_cons_of_mem _ member))
      · intro impossible
        cases impossible

theorem spellsMembers_writeIndentedMembers {level : Nat} {member : String × Json}
    {members : List (String × Json)}
    (spells : ∀ other ∈ member :: members, Spells other.2 (other.2.writeIndented level)) :
    SpellsMembers ((member :: members).map fun other => (some other.1, other.2))
      (writeIndentedMembers level
        ((member :: members).map fun other => (some other.1, other.2))) := by
  have space : Blanks [' '] := by
    intro character member
    rw [List.mem_singleton.mp member]
    rfl
  induction members generalizing member with
  | nil =>
      rw [List.map_singleton, writeIndentedMembers]
      exact .last member.1 space (spells member List.mem_cons_self)
  | cons next members ih =>
      have later := ih fun other listed => spells other (List.mem_cons_of_mem _ listed)
      rw [List.map_cons, writeIndentedMembers]
      · exact .more member.1 space (spells member List.mem_cons_self) (blanks_newLine level) later
      · intro impossible
        cases impossible

/-- The indented text of a plain value spells it, at every level. -/
theorem Plain.spells_writeIndented {value : Json} (plain : Plain value) (level : Nat) :
    Spells value (value.writeIndented level) := by
  induction plain generalizing level with
  | null => exact .null
  | bool value => cases value <;> exact .bool _
  | integer value => exact .integer value
  | string value => exact .string value
  | @array items all ih =>
      cases items with
      | nil => exact .emptyArray
      | cons item items =>
          exact .array (blanks_newLine _)
            (spellsItems_writeIndentedItems fun other member => ih other member _)
            (blanks_newLine _)
  | @record members all ih =>
      cases members with
      | nil => exact .emptyObject
      | cons member members =>
          exact .object (blanks_newLine _)
            (spellsMembers_writeIndentedMembers fun other listed => ih other listed _)
            (blanks_newLine _)

/-! ## Reading both texts -/

variable {value : Json}

/-- **The compact text of a plain value is read back.** -/
theorem ofText?_compact (plain : Plain value) : ofText? value.compact = some value := by
  have read := ofText?_of_spells plain.spells_write blanks_nil
  rwa [List.append_nil] at read

/-- **The indented text of a plain value is read back**, with a line feed behind it. -/
theorem ofText?_pretty (plain : Plain value) : ofText? (value.pretty ++ "\n") = some value := by
  have lineFeed : Blanks ['\n'] := blanks_newLine 0
  have read := ofText?_of_spells (plain.spells_writeIndented 0) lineFeed
  rwa [String.ofList_append] at read

end DiagnosticReport.Json
