import DiagnosticReport.Proofs.Json.NumberText
import DiagnosticReport.Proofs.Json.StringText

/-!
# Texts that spell a value

A text spells a value if it is the value's tokens with any blanks at the places
where a writer may break a line: behind an opening bracket, a comma or a colon,
and before a closing bracket (`Spells`). Numbers are whole, and strings and names
are written as the writer writes them.

A text that spells a value is read as this value (`readValue?_of_spells`,
`ofText?_of_spells`). The reader takes two steps for each bracket or comma, so
twice the length of a text is always enough.
-/

set_option autoImplicit false

namespace DiagnosticReport.Json

/-- A run of blanks. -/
def Blanks (text : List Char) : Prop := ∀ character ∈ text, isBlank character = true

mutual

/-- A text spells a value. -/
inductive Spells : Json → List Char → Prop where
  | null : Spells .null "null".toList
  | bool (value : Bool) : Spells (.bool value) (toString value).toList
  | integer (value : Int) : Spells (.int value) (toString value).toList
  | string (value : String) : Spells (.string value) (writeString value)
  | emptyArray : Spells (.array []) ['[', ']']
  | array {items : List Json} {opening text closing : List Char} (opens : Blanks opening)
      (spells : SpellsItems items text) (closes : Blanks closing) :
      Spells (.array items) ('[' :: (opening ++ (text ++ (closing ++ [']']))))
  | emptyObject : Spells (.object []) ['{', '}']
  | object {members : List (Option String × Json)} {opening text closing : List Char}
      (opens : Blanks opening) (spells : SpellsMembers members text) (closes : Blanks closing) :
      Spells (.object members) ('{' :: (opening ++ (text ++ (closing ++ ['}']))))

/-- A text spells the items of a list that is not empty. -/
inductive SpellsItems : List Json → List Char → Prop where
  | last {item : Json} {text : List Char} (spells : Spells item text) : SpellsItems [item] text
  | more {item : Json} {items : List Json} {text blanks rest : List Char}
      (spells : Spells item text) (between : Blanks blanks) (later : SpellsItems items rest) :
      SpellsItems (item :: items) (text ++ ',' :: (blanks ++ rest))

/-- A text spells the members of an object that is not empty. -/
inductive SpellsMembers : List (Option String × Json) → List Char → Prop where
  | last {value : Json} {text gap : List Char} (name : String) (behind : Blanks gap)
      (spells : Spells value text) :
      SpellsMembers [(some name, value)] (writeString name ++ ':' :: (gap ++ text))
  | more {value : Json} {members : List (Option String × Json)} {text gap blanks rest : List Char}
      (name : String) (behind : Blanks gap) (spells : Spells value text)
      (between : Blanks blanks) (later : SpellsMembers members rest) :
      SpellsMembers ((some name, value) :: members)
        (writeString name ++ ':' :: (gap ++ (text ++ ',' :: (blanks ++ rest))))

end

/-! ## Blanks -/

theorem blanks_nil : Blanks [] := by
  intro character member
  cases member

theorem skipBlanks_append {blanks : List Char} (all : Blanks blanks) (text : List Char) :
    skipBlanks (blanks ++ text) = skipBlanks text :=
  List.dropWhile_append_of_pos all

theorem skipBlanks_cons {character : Char} (solid : isBlank character = false)
    (text : List Char) : skipBlanks (character :: text) = character :: text :=
  List.dropWhile_cons_of_neg (by simp [solid])

/-- No number goes on with a blank. -/
theorem endsNumber_append {blanks : List Char} (all : Blanks blanks) {rest : List Char}
    (ends : EndsNumber rest) : EndsNumber (blanks ++ rest) := by
  cases blanks with
  | nil => exact ends
  | cons blank blanks =>
      have isBlank := all blank List.mem_cons_self
      simp only [Json.isBlank, Bool.or_eq_true, beq_iff_eq] at isBlank
      rcases isBlank with ((rfl | rfl) | rfl) | rfl <;>
        exact endsNumber_cons (by decide) (by decide) _

/-! ## The first character of a spelling -/

/-- The characters that a value starts with. -/
def startsValue (character : Char) : Bool :=
  character == '{' || character == '[' || character == '"' || character == 'n' ||
    character == 't' || character == 'f' || character == '-' || character.isDigit

theorem not_blank_of_startsValue {character : Char} (starts : startsValue character = true) :
    isBlank character = false ∧ character ≠ ']' := by
  constructor
  · rw [Bool.eq_false_iff]
    intro blank
    simp only [isBlank, Bool.or_eq_true, beq_iff_eq] at blank
    rcases blank with ((rfl | rfl) | rfl) | rfl <;> exact absurd starts (by decide)
  · rintro rfl
    exact absurd starts (by decide)

theorem Spells.exists_cons {value : Json} {text : List Char} (spells : Spells value text) :
    ∃ first rest, text = first :: rest ∧ startsValue first = true := by
  cases spells with
  | null => exact ⟨_, _, rfl, by decide⟩
  | bool value => cases value <;> exact ⟨_, _, rfl, by decide⟩
  | integer value =>
      obtain ⟨first, others, written, sign | digit⟩ := exists_cons_toString value
      · exact ⟨first, others, written, by rw [sign]; decide⟩
      · exact ⟨first, others, written, by rw [startsValue, digit, Bool.or_true]⟩
  | string value => exact ⟨_, _, rfl, by decide⟩
  | emptyArray => exact ⟨_, _, rfl, by decide⟩
  | array => exact ⟨_, _, rfl, by decide⟩
  | emptyObject => exact ⟨_, _, rfl, by decide⟩
  | object => exact ⟨_, _, rfl, by decide⟩

/-! ## Reading single tokens -/

section

variable {blanks text rest : List Char} {steps : Nat}

theorem readValue?_blanks (all : Blanks blanks) :
    readValue? steps (blanks ++ text) = readValue? steps text := by
  cases steps with
  | zero => rw [readValue?, readValue?]
  | succ steps => rw [readValue?, readValue?, skipBlanks_append all]

theorem readMembers?_blanks (all : Blanks blanks) :
    readMembers? steps (blanks ++ text) = readMembers? steps text := by
  cases steps with
  | zero => rw [readMembers?, readMembers?]
  | succ steps => rw [readMembers?, readMembers?, skipBlanks_append all]

theorem readItems?_blanks (all : Blanks blanks) :
    readItems? steps (blanks ++ text) = readItems? steps text := by
  cases steps with
  | zero => rw [readItems?, readItems?]
  | succ steps => rw [readItems?, readItems?, readValue?_blanks all]

theorem readValue?_null :
    readValue? (steps + 1) ("null".toList ++ rest) = some (.null, rest) := by
  rw [readValue?]
  rfl

theorem readValue?_bool (value : Bool) :
    readValue? (steps + 1) ((toString value).toList ++ rest) = some (.bool value, rest) := by
  cases value with
  | true =>
      rw [readValue?]
      rfl
  | false =>
      rw [readValue?]
      rfl

theorem readValue?_string (value : String) :
    readValue? (steps + 1) (writeString value ++ rest) = some (.string value, rest) := by
  rw [writeString, List.cons_append, readValue?, skipBlanks_cons (by decide), List.append_assoc,
    List.singleton_append]
  simp only [readString?_escaped]
  rfl

/-- What starts neither a container, a string nor a word is read as a number. -/
theorem readValue?_number {first : Char} (solid : isBlank first = false)
    (notOther : first ∉ ['{', '[', '"', 'n', 't', 'f']) :
    readValue? (steps + 1) (first :: rest) =
      (readNumber? (first :: rest)).map fun read => (.number read.1, read.2) := by
  simp only [List.mem_cons, List.not_mem_nil, or_false, not_or] at notOther
  obtain ⟨brace, bracket, quote, n, t, f⟩ := notOther
  rw [readValue?, skipBlanks_cons solid]
  split
  · next starts => exact absurd (List.cons.inj starts).1 brace
  · next starts => exact absurd (List.cons.inj starts).1 bracket
  · next starts => exact absurd (List.cons.inj starts).1 quote
  · next starts => exact absurd (List.cons.inj starts).1 n
  · next starts => exact absurd (List.cons.inj starts).1 t
  · next starts => exact absurd (List.cons.inj starts).1 f
  · rfl

theorem readValue?_integer (value : Int) (ends : EndsNumber rest) :
    readValue? (steps + 1) ((toString value).toList ++ rest) = some (.int value, rest) := by
  have number := readNumber?_integer value ends
  obtain ⟨first, others, written, starts⟩ := exists_cons_toString value
  have notOther : first ∉ ['{', '[', '"', 'n', 't', 'f', ' ', '\t', '\n', '\r'] := by
    intro listed
    simp only [List.mem_cons, List.not_mem_nil, or_false] at listed
    rcases listed with rfl | rfl | rfl | rfl | rfl | rfl | rfl | rfl | rfl | rfl <;>
      exact absurd starts (by decide)
  simp only [List.mem_cons, List.not_mem_nil, or_false, not_or] at notOther
  rw [written, List.cons_append] at number ⊢
  rw [readValue?_number (by simp [isBlank, notOther]) (by simp [notOther]), number,
    Option.map_some]
  rfl

end

/-! ## Reading whole spellings -/

section

variable {steps : Nat} {text : List Char}

/-- Behind an opening bracket come the items, unless the bracket closes at once. -/
theorem readValue?_openBracket {first : Char} {rest : List Char}
    (behind : skipBlanks text = first :: rest) (notEnd : first ≠ ']') :
    readValue? (steps + 1) ('[' :: text) =
      (readItems? steps (first :: rest)).map fun read => (.array read.1, read.2) := by
  rw [readValue?, skipBlanks_cons (by decide)]
  simp only [behind]
  split
  · rename_i closed
    exact absurd (List.cons.inj closed).1 notEnd
  · rfl

/-- Behind an opening brace come the members, unless the brace closes at once. -/
theorem readValue?_openBrace {first : Char} {rest : List Char}
    (behind : skipBlanks text = first :: rest) (notEnd : first ≠ '}') :
    readValue? (steps + 1) ('{' :: text) =
      (readMembers? steps (first :: rest)).map fun read => (.object read.1, read.2) := by
  rw [readValue?, skipBlanks_cons (by decide)]
  simp only [behind]
  split
  · rename_i closed
    exact absurd (List.cons.inj closed).1 notEnd
  · rfl

variable {gap after rest : List Char} {value : Json}

/-- A member and a closing brace behind it. -/
theorem readMembers?_last (name : String) (behind : Blanks gap)
    (read : readValue? steps text = some (value, after))
    (closes : skipBlanks after = '}' :: rest) :
    readMembers? (steps + 1) (writeString name ++ ':' :: (gap ++ text)) =
      some ([(some name, value)], rest) := by
  rw [writeString, List.cons_append, readMembers?, skipBlanks_cons (by decide), List.append_assoc,
    List.singleton_append]
  simp only [readString?_escaped, Option.bind_eq_bind, Option.bind_some,
    skipBlanks_cons (show isBlank ':' = false by decide), readValue?_blanks behind, read, closes]
  rfl

/-- A member and a comma behind it. -/
theorem readMembers?_more (name : String) (behind : Blanks gap)
    (read : readValue? steps text = some (value, after))
    (goesOn : skipBlanks after = ',' :: rest) :
    readMembers? (steps + 1) (writeString name ++ ':' :: (gap ++ text)) =
      (readMembers? steps rest).map fun read => ((some name, value) :: read.1, read.2) := by
  rw [writeString, List.cons_append, readMembers?, skipBlanks_cons (by decide), List.append_assoc,
    List.singleton_append]
  simp only [readString?_escaped, Option.bind_eq_bind, Option.bind_some,
    skipBlanks_cons (show isBlank ':' = false by decide), readValue?_blanks behind, read, goesOn]
  cases readMembers? steps rest <;> rfl

end

theorem SpellsItems.exists_cons {items : List Json} {text : List Char}
    (spells : SpellsItems items text) :
    ∃ first rest, text = first :: rest ∧ startsValue first = true := by
  cases spells with
  | last spells => exact spells.exists_cons
  | more spells =>
      obtain ⟨first, rest, rfl, starts⟩ := spells.exists_cons
      exact ⟨first, _, rfl, starts⟩

theorem SpellsMembers.exists_cons {members : List (Option String × Json)} {text : List Char}
    (spells : SpellsMembers members text) : ∃ rest, text = '"' :: rest := by
  cases spells with
  | last => exact ⟨_, rfl⟩
  | more => exact ⟨_, rfl⟩

mutual

/-- A text that spells a value is read as this value, up to its end. -/
theorem readValue?_of_spells : ∀ {value : Json} {text : List Char}, Spells value text →
    ∀ {steps : Nat} {rest : List Char}, 2 * text.length ≤ steps → EndsNumber rest →
      readValue? steps (text ++ rest) = some (value, rest)
  | _, _, spells, 0, _, enough, _ => by
      obtain ⟨first, rest, rfl, -⟩ := spells.exists_cons
      rw [List.length_cons] at enough
      omega
  | _, _, .null, _ + 1, _, _, _ => readValue?_null
  | _, _, .bool value, _ + 1, _, _, _ => readValue?_bool value
  | _, _, .integer value, _ + 1, _, _, ends => readValue?_integer value ends
  | _, _, .string value, _ + 1, _, _, _ => readValue?_string value
  | _, _, .emptyArray, _ + 1, _, _, _ => by
      rw [readValue?]
      rfl
  | _, _, .emptyObject, _ + 1, _, _, _ => by
      rw [readValue?]
      rfl
  | _, _, @Spells.array items opening text closing opens spells closes, steps + 1, rest,
      enough, _ => by
      have room : 2 * text.length + 1 ≤ steps := by
        simp only [List.length_cons, List.length_append, List.length_nil] at enough
        omega
      have read := @readItems?_of_spells _ _ spells steps closing rest room closes
      obtain ⟨first, others, rfl, starts⟩ := spells.exists_cons
      obtain ⟨solid, notEnd⟩ := not_blank_of_startsValue starts
      have behind : skipBlanks (opening ++ (first :: others ++ (closing ++ [']'])) ++ rest) =
          first :: (others ++ (closing ++ ']' :: rest)) := by
        rw [List.append_assoc, skipBlanks_append opens, List.cons_append, List.cons_append,
          skipBlanks_cons solid, List.append_assoc, List.append_assoc, List.singleton_append]
      rw [List.cons_append, readValue?_openBracket behind notEnd, ← List.cons_append, read,
        Option.map_some]
  | _, _, @Spells.object members opening text closing opens spells closes, steps + 1, rest,
      enough, _ => by
      have room : 2 * text.length + 1 ≤ steps := by
        simp only [List.length_cons, List.length_append, List.length_nil] at enough
        omega
      have read := @readMembers?_of_spells _ _ spells steps closing rest room closes
      obtain ⟨others, rfl⟩ := spells.exists_cons
      have behind : skipBlanks (opening ++ ('"' :: others ++ (closing ++ ['}'])) ++ rest) =
          '"' :: (others ++ (closing ++ '}' :: rest)) := by
        rw [List.append_assoc, skipBlanks_append opens, List.cons_append, List.cons_append,
          skipBlanks_cons (by decide), List.append_assoc, List.append_assoc, List.singleton_append]
      rw [List.cons_append, readValue?_openBrace behind (by decide), ← List.cons_append, read,
        Option.map_some]

/-- A text that spells items is read as these items, up to the closing bracket. -/
theorem readItems?_of_spells : ∀ {items : List Json} {text : List Char}, SpellsItems items text →
    ∀ {steps : Nat} {closing rest : List Char}, 2 * text.length + 1 ≤ steps → Blanks closing →
      readItems? steps (text ++ (closing ++ ']' :: rest)) = some (items, rest)
  | _, _, _, 0, _, _, enough, _ => absurd enough (by omega)
  | _, _, .last spells, steps + 1, closing, rest, enough, closes => by
      rw [readItems?, readValue?_of_spells spells (by omega)
        (endsNumber_append closes (endsNumber_cons (by decide) (by decide) rest))]
      simp only [Option.bind_eq_bind, Option.bind_some, skipBlanks_append closes,
        skipBlanks_cons (show isBlank ']' = false by decide)]
      rfl
  | _, _, @SpellsItems.more item items text blanks later spells between follow, steps + 1, closing,
      rest, enough, closes => by
      simp only [List.length_cons, List.length_append] at enough
      rw [List.append_assoc, List.cons_append, List.append_assoc, readItems?,
        readValue?_of_spells spells (by omega) (endsNumber_cons (by decide) (by decide) _)]
      simp only [Option.bind_eq_bind, Option.bind_some,
        skipBlanks_cons (show isBlank ',' = false by decide), readItems?_blanks between,
        @readItems?_of_spells _ _ follow steps closing rest (by omega) closes]
      rfl

/-- A text that spells members is read as these members, up to the closing brace. -/
theorem readMembers?_of_spells : ∀ {members : List (Option String × Json)} {text : List Char},
    SpellsMembers members text → ∀ {steps : Nat} {closing rest : List Char},
      2 * text.length + 1 ≤ steps → Blanks closing →
      readMembers? steps (text ++ (closing ++ '}' :: rest)) = some (members, rest)
  | _, _, _, 0, _, _, enough, _ => absurd enough (by omega)
  | _, _, .last name behind spells, steps + 1, closing, rest, enough, closes => by
      simp only [List.length_cons, List.length_append] at enough
      have read := @readValue?_of_spells _ _ spells steps (closing ++ '}' :: rest) (by omega)
        (endsNumber_append closes (endsNumber_cons (by decide) (by decide) rest))
      rw [List.append_assoc, List.cons_append, List.append_assoc]
      refine readMembers?_last name behind read ?_
      rw [skipBlanks_append closes, skipBlanks_cons (by decide)]
  | _, _, @SpellsMembers.more value members text gap blanks later name behind spells between follow,
      steps + 1, closing, rest, enough, closes => by
      simp only [List.length_cons, List.length_append] at enough
      have read := @readValue?_of_spells _ _ spells steps
        (',' :: (blanks ++ (later ++ (closing ++ '}' :: rest)))) (by omega)
        (endsNumber_cons (by decide) (by decide) _)
      simp only [List.append_assoc, List.cons_append]
      rw [readMembers?_more name behind read (skipBlanks_cons (by decide) _),
        readMembers?_blanks between,
        @readMembers?_of_spells _ _ follow steps closing rest (by omega) closes, Option.map_some]

end

/-- **A text that spells a value is read as this value**, blanks behind it included. -/
theorem ofText?_of_spells {value : Json} {text blanks : List Char} (spells : Spells value text)
    (all : Blanks blanks) : ofText? (String.ofList (text ++ blanks)) = some value := by
  have ends : EndsNumber blanks := by
    have closed := endsNumber_append all endsNumber_nil
    rwa [List.append_nil] at closed
  have consumed : (skipBlanks blanks).isEmpty = true := by
    have nothing := skipBlanks_append all []
    rw [List.append_nil] at nothing
    rw [nothing]
    rfl
  have enough : 2 * text.length ≤ 2 * (text ++ blanks).length + 2 := by
    rw [List.length_append]
    omega
  rw [ofText?, String.toList_ofList, readValue?_of_spells spells enough ends]
  exact if_pos consumed

end DiagnosticReport.Json
