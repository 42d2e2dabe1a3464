import DiagnosticReport.Proofs.Toml.StringText
import DiagnosticReport.Toml.Read

/-!
# Documents written line by line

A written document consists of headers, assignments and empty lines. Each of these
lines is read as the statements that it was written for, whatever follows it
(`LineReads`), so the document is read as the statements of its lines
(`ofText?_lines`). The values on the lines are truth values and lists of strings,
and both are read back (`ValueReads`).
-/

set_option autoImplicit false

namespace DiagnosticReport.Toml

/-! ## Blanks -/

/-- The characters at which neither blanks nor line ends nor comments start. -/
def isSolid (character : Char) : Bool :=
  !(isSpace character || character == '\n' || character == '\r' || character == '#')

section Solid

variable {first : Char} (solid : isSolid first = true) (more : List Char)
include solid

theorem isSpace_of_isSolid : isSpace first = false := by
  grind [isSolid]

theorem skipSpaces_of_isSolid : skipSpaces (first :: more) = first :: more := by
  rw [skipSpaces, List.dropWhile_cons_of_neg (by simp [isSpace_of_isSolid solid])]

theorem skipLines?_of_isSolid : skipLines? false (first :: more) = some (first :: more) := by
  simp only [isSolid, Bool.not_eq_true', Bool.or_eq_false_iff, beq_eq_false_iff_ne] at solid
  obtain ⟨⟨⟨space, lineFeed⟩, carriage⟩, comment⟩ := solid
  rw [skipLines?]
  · simp [carriage, space, comment]
  · exact lineFeed
  · intro _ isCarriage
    exact absurd isCarriage carriage

theorem endLine?_of_isSolid : endLine? (first :: more) = none := by
  have same := skipSpaces_of_isSolid solid more
  simp only [isSolid, Bool.not_eq_true', Bool.or_eq_false_iff, beq_eq_false_iff_ne] at solid
  have comment : dropComment (first :: more) = first :: more := by
    rw [dropComment]
    intro _ isComment
    exact solid.2 (List.cons.inj isComment).1
  rw [endLine?, same, comment]
  exact dropLineEnd?_none solid.1.1.2 solid.1.2 more

end Solid

theorem endLine?_lineFeed (rest : List Char) : endLine? ('\n' :: rest) = some rest := rfl

/-! ## Values -/

/-- What a written string starts with. -/
theorem exists_quote_writeString (text : String) :
    ∃ quote more, writeString text = quote :: more ∧ (quote = '"' ∨ quote = '\'') := by
  rw [writeString]
  cases formOf text.toList with
  | basic => exact ⟨_, _, rfl, .inl rfl⟩
  | literal => exact ⟨_, _, rfl, .inr rfl⟩
  | longBasic => exact ⟨_, _, rfl, .inl rfl⟩
  | longLiteral => exact ⟨_, _, rfl, .inr rfl⟩

theorem skipLines?_writeString (text : String) (rest : List Char) :
    skipLines? false (writeString text ++ rest) = some (writeString text ++ rest) := by
  obtain ⟨quote, more, written, rfl | rfl⟩ := exists_quote_writeString text
  · rw [written]
    exact skipLines?_of_isSolid (by decide) _
  · rw [written]
    exact skipLines?_of_isSolid (by decide) _

theorem readValue?_writeString (text : String) {rest : List Char}
    (notDouble : rest.head? ≠ some '"') (notSingle : rest.head? ≠ some '\'') (steps room : Nat) :
    readValue? (steps + 1) room (writeString text ++ rest) = some (.string text, rest) := by
  have read := readString?_writeString text notDouble notSingle
  obtain ⟨quote, more, written, rfl | rfl⟩ := exists_quote_writeString text
  · rw [written, List.cons_append] at read ⊢
    simp [readValue?, readScalar?, read]
  · rw [written, List.cons_append] at read ⊢
    simp [readValue?, readScalar?, read]

/-! ## Lists of strings -/

section Items

variable {lead rest : List Char} {text : String}

/-- An item with a comma behind it. -/
theorem readItems?_comma {after : List Char} {items : List Toml} {steps room : Nat}
    (blanks : skipLines? false lead = some (writeString text ++ ',' :: rest))
    (later : readItems? (steps + 1) room rest = some (items, after)) :
    readItems? (steps + 2) room lead = some (.string text :: items, after) := by
  have item : readValue? (steps + 1) room (writeString text ++ ',' :: rest) =
      some (.string text, ',' :: rest) :=
    readValue?_writeString text (by simp) (by simp) steps room
  have comma : skipLines? false (',' :: rest) = some (',' :: rest) :=
    skipLines?_of_isSolid (by decide) rest
  obtain ⟨quote, more, written, rfl | rfl⟩ := exists_quote_writeString text
  · rw [written, List.cons_append] at item blanks
    rw [readItems?]
    simp [blanks, item, comma, later]
  · rw [written, List.cons_append] at item blanks
    rw [readItems?]
    simp [blanks, item, comma, later]

/-- The last item, without a comma behind it. -/
theorem readItems?_last (blanks : skipLines? false lead = some (writeString text ++ ']' :: rest))
    (steps room : Nat) : readItems? (steps + 2) room lead = some ([.string text], rest) := by
  have item : readValue? (steps + 1) room (writeString text ++ ']' :: rest) =
      some (.string text, ']' :: rest) :=
    readValue?_writeString text (by simp) (by simp) steps room
  have bracket : skipLines? false (']' :: rest) = some (']' :: rest) :=
    skipLines?_of_isSolid (by decide) rest
  obtain ⟨quote, more, written, rfl | rfl⟩ := exists_quote_writeString text
  · rw [written, List.cons_append] at item blanks
    rw [readItems?]
    simp [blanks, item, bracket]
  · rw [written, List.cons_append] at item blanks
    rw [readItems?]
    simp [blanks, item, bracket]

end Items

theorem skipLines?_indented (text : List Char) :
    skipLines? false ('\n' :: ("    ".toList ++ text)) = skipLines? false text := rfl

/-- The items of a list, each on its line. -/
theorem readItems?_writeLines (items : List String) (rest : List Char) {steps : Nat}
    (enough : items.length < steps) (room : Nat) :
    readItems? steps room ('\n' :: (writeLines items ++ ']' :: rest)) =
      some (items.map .string, rest) := by
  induction items generalizing steps with
  | nil =>
      obtain ⟨steps, rfl⟩ := Nat.exists_eq_add_of_lt enough
      rfl
  | cons item items ih =>
      rw [List.length_cons] at enough
      obtain ⟨steps, rfl⟩ : ∃ fewer, steps = fewer + 2 := ⟨steps - 2, by omega⟩
      have written : '\n' :: (writeLines (item :: items) ++ ']' :: rest) =
          '\n' :: ("    ".toList ++ (writeString item ++
            ',' :: ('\n' :: (writeLines items ++ ']' :: rest)))) := by
        simp [writeLines]
      refine readItems?_comma ?_ (ih (by omega))
      rw [written, skipLines?_indented, skipLines?_writeString]

/-- **A written list of strings is read back.** -/
theorem readValue?_writeStrings (items : List String) (rest : List Char) {steps room : Nat}
    (enough : items.length + 2 ≤ steps) (deep : 0 < room) :
    readValue? (steps + 1) room (writeStrings items ++ rest) =
      some (.array (items.map .string), rest) := by
  have opened (text : List Char) : readValue? (steps + 1) room ('[' :: text) =
      (readItems? steps (room - 1) text).map fun read => (.array read.1, read.2) := by
    simp [readValue?, Nat.ne_of_gt deep]
  obtain ⟨steps, rfl⟩ : ∃ fewer, steps = fewer + 2 := ⟨steps - 2, by omega⟩
  rcases items with _ | ⟨item, _ | ⟨next, items⟩⟩
  · exact opened _
  · have written : writeStrings [item] ++ rest = '[' :: (writeString item ++ ']' :: rest) := by
      simp [writeStrings]
    rw [written, opened, readItems?_last (skipLines?_writeString item _)]
    rfl
  · have written : writeStrings (item :: next :: items) ++ rest =
        '[' :: ('\n' :: (writeLines (item :: next :: items) ++ ']' :: rest)) := by
      simp [writeStrings]
    rw [written, opened, readItems?_writeLines _ _ (by omega)]
    rfl

theorem readValue?_writeBoolean (value : Bool) (rest : List Char) (steps room : Nat) :
    readValue? (steps + 1) room (writeBoolean value ++ rest) = some (.boolean value, rest) := by
  cases value <;> rfl

/-! ## Names -/

/-- A name that needs no quotes. -/
def IsBare (name : String) : Prop :=
  name.toList ≠ [] ∧ name.toList.all isBareCharacter = true

instance (name : String) : Decidable (IsBare name) := inferInstanceAs (Decidable (_ ∧ _))

theorem IsBare.forall_mem {name : String} (bare : IsBare name) :
    ∀ character ∈ name.toList, isBareCharacter character = true := List.all_eq_true.mp bare.2

/-- A bare name starts with none of the characters that blanks, quoted names or other
kinds of lines start with. -/
theorem IsBare.exists_cons {name : String} (bare : IsBare name) :
    ∃ first others, name.toList = first :: others ∧ isSolid first = true ∧
      first ≠ '"' ∧ first ≠ '\'' ∧ first ≠ '[' := by
  cases letters : name.toList with
  | nil => exact absurd letters bare.1
  | cons first others =>
      have isBare : isBareCharacter first = true := by
        refine bare.forall_mem first ?_
        rw [letters]
        exact List.mem_cons_self
      have other (stranger : Char) (strange : isBareCharacter stranger = false) :
          first ≠ stranger := by
        rintro rfl
        rw [isBare] at strange
        cases strange
      refine ⟨first, others, rfl, ?_, other _ (by decide), other _ (by decide),
        other _ (by decide)⟩
      simp only [isSolid, isSpace, Bool.not_eq_true', Bool.or_eq_false_iff, beq_eq_false_iff_ne]
      exact ⟨⟨⟨⟨other _ (by decide), other _ (by decide)⟩, other _ (by decide)⟩,
        other _ (by decide)⟩, other _ (by decide)⟩

theorem readName?_bare {name : String} (bare : IsBare name) {next : Char}
    (notBare : isBareCharacter next = false) (more : List Char) :
    readName? (name.toList ++ next :: more) = some (name, next :: more) := by
  have taken : (name.toList ++ next :: more).takeWhile isBareCharacter = name.toList := by
    rw [List.takeWhile_append_of_pos bare.forall_mem,
      List.takeWhile_cons_of_neg (by simp [notBare]), List.append_nil]
  have left : (name.toList ++ next :: more).dropWhile isBareCharacter = next :: more := by
    rw [List.dropWhile_append_of_pos bare.forall_mem,
      List.dropWhile_cons_of_neg (by simp [notBare])]
  obtain ⟨first, others, letters, -, notDouble, notSingle, -⟩ := bare.exists_cons
  rw [readName?]
  · rw [taken, left, String.ofList_toList, if_neg (by simpa using bare.1)]
  · intro _ starts
    rw [letters] at starts
    exact notDouble (List.cons.inj starts).1
  · intro _ starts
    rw [letters] at starts
    exact notSingle (List.cons.inj starts).1

/-- A bare name, with spaces behind it, in front of a character that ends its
path. -/
theorem readPath?_bare {name : String} (bare : IsBare name) (spaces : List Char)
    (blank : ∀ character ∈ spaces, isSpace character = true) {stop : Char}
    (solid : isSolid stop = true) (notBare : isBareCharacter stop = false)
    (notPoint : stop ≠ '.') (rest : List Char) :
    readPath? (name.toList ++ (spaces ++ stop :: rest)) = some (([], name), stop :: rest) := by
  have starts : skipSpaces (name.toList ++ (spaces ++ stop :: rest)) =
      name.toList ++ (spaces ++ stop :: rest) := by
    obtain ⟨first, others, letters, firstSolid, -⟩ := bare.exists_cons
    rw [letters]
    exact skipSpaces_of_isSolid firstSolid _
  have read : readName? (name.toList ++ (spaces ++ stop :: rest)) =
      some (name, spaces ++ stop :: rest) := by
    cases spaces with
    | nil => exact readName?_bare bare notBare rest
    | cons space spaces =>
        have isBlank := blank space List.mem_cons_self
        refine readName?_bare bare ?_ _
        simp only [isSpace, Bool.or_eq_true, beq_iff_eq] at isBlank
        rcases isBlank with rfl | rfl
        · decide
        · decide
  have skipped : skipSpaces (spaces ++ stop :: rest) = stop :: rest := by
    rw [skipSpaces, List.dropWhile_append_of_pos blank]
    exact skipSpaces_of_isSolid solid rest
  have names (room : Nat) : readNames? (room + 1) (name.toList ++ (spaces ++ stop :: rest)) =
      some ([name], stop :: rest) := by
    rw [readNames?]
    simp [starts, read, skipped, notPoint]
  rw [readPath?, depthLimit, names]
  rfl

/-! ## Values on a line -/

/-- A text that is read as a value if a line feed follows it. -/
structure ValueReads (text : List Char) (value : Toml) : Prop where
  solid : text.head?.any isSolid = true
  read {steps : Nat} (enough : text.length ≤ steps) (rest : List Char) :
    readValue? (steps + 1) depthLimit (text ++ '\n' :: rest) = some (value, '\n' :: rest)

theorem valueReads_writeBoolean (value : Bool) :
    ValueReads (writeBoolean value) (.boolean value) where
  solid := by cases value <;> decide
  read {steps} _ rest := readValue?_writeBoolean value _ steps _

theorem length_le_length_writeLines (items : List String) :
    items.length ≤ (writeLines items).length := by
  induction items with
  | nil => exact Nat.zero_le _
  | cons item items ih =>
      simp only [writeLines, List.length_append, List.length_cons]
      omega

theorem valueReads_writeStrings (items : List String) :
    ValueReads (writeStrings items) (.array (items.map .string)) where
  solid := by rcases items with _ | ⟨item, _ | ⟨next, items⟩⟩ <;> rfl
  read {steps} enough rest := by
    refine readValue?_writeStrings items _ ?_ (by decide)
    refine le_trans ?_ enough
    rcases items with _ | ⟨item, _ | ⟨next, items⟩⟩
    · exact Nat.le_refl 2
    · obtain ⟨quote, more, written, -⟩ := exists_quote_writeString item
      simp [writeStrings, written]
    · have lines := length_le_length_writeLines (item :: next :: items)
      simp only [writeStrings, List.length_append, List.length_cons] at lines ⊢
      omega

/-! ## Lines -/

/-- A line that is read as statements, whatever follows it. -/
structure LineReads (line : List Char) (statements : List Statement) : Prop where
  nonempty : line ≠ []
  read (steps : Nat) (rest : List Char) :
    readStatements? (steps + 1) (line ++ rest) =
      (readStatements? steps rest).map (statements ++ ·)

theorem lineReads_lineFeed : LineReads ['\n'] [] where
  nonempty := by simp
  read steps rest := by
    rw [readStatements?]
    simp [skipSpaces, isSpace, endLine?_lineFeed]

/-- A line that holds a statement. -/
theorem readStatements?_of_isSolid {first : Char} (solid : isSolid first = true)
    {more rest : List Char} {statement : Statement}
    (read : readStatement? (first :: more) = some (statement, rest)) (steps : Nat) :
    readStatements? (steps + 1) (first :: more) =
      (readStatements? steps rest).map ([statement] ++ ·) := by
  rw [readStatements?, skipSpaces_of_isSolid solid]
  simp only [endLine?_of_isSolid solid, read, Option.bind_eq_bind, Option.bind_some]
  cases readStatements? steps rest <;> rfl

theorem lineReads_writeHeader {name : String} (bare : IsBare name) :
    LineReads (writeHeader name) [.openTable [] name] where
  nonempty := by simp [writeHeader]
  read steps rest := by
    have path : readPath? (name.toList ++ ']' :: '\n' :: rest) =
        some (([], name), ']' :: '\n' :: rest) :=
      readPath?_bare bare [] (by simp) (by decide) (by decide) (by decide) ('\n' :: rest)
    have written : writeHeader name ++ rest = '[' :: (name.toList ++ ']' :: '\n' :: rest) := by
      simp [writeHeader]
    rw [written]
    refine readStatements?_of_isSolid (by decide) ?_ steps
    obtain ⟨first, others, letters, -, -, -, notBracket⟩ := bare.exists_cons
    rw [letters, List.cons_append] at path ⊢
    rw [readStatement?]
    · simp [path, endLine?_lineFeed]
    · intro _ starts
      exact notBracket (List.cons.inj starts).1

theorem lineReads_writeAssignment {name : String} (bare : IsBare name) {text : List Char}
    {value : Toml} (reads : ValueReads text value) :
    LineReads (writeAssignment name text) [.assign [] name value] where
  nonempty := by simp [writeAssignment]
  read steps rest := by
    have path : readPath? (name.toList ++ ([' '] ++ '=' :: (' ' :: (text ++ '\n' :: rest)))) =
        some (([], name), '=' :: (' ' :: (text ++ '\n' :: rest))) :=
      readPath?_bare bare [' '] (by simp [isSpace]) (by decide) (by decide) (by decide) _
    have written : writeAssignment name text ++ rest =
        name.toList ++ ([' '] ++ '=' :: (' ' :: (text ++ '\n' :: rest))) := by
      simp [writeAssignment]
    have skipped : skipSpaces (' ' :: (text ++ '\n' :: rest)) = text ++ '\n' :: rest := by
      cases text with
      | nil => cases reads.solid
      | cons start more => exact skipSpaces_of_isSolid reads.solid _
    have content : readValue? (2 * (' ' :: (text ++ '\n' :: rest)).length + 2) depthLimit
        (text ++ '\n' :: rest) = some (value, '\n' :: rest) := by
      refine reads.read ?_ rest
      simp only [List.length_cons, List.length_append]
      omega
    rw [written]
    obtain ⟨first, others, letters, solid, -, -, notBracket⟩ := bare.exists_cons
    rw [letters, List.cons_append] at path ⊢
    refine readStatements?_of_isSolid solid ?_ steps
    rw [readStatement?]
    · rw [path]
      simp only [Option.bind_eq_bind, Option.bind_some, skipped, content, endLine?_lineFeed]
      rfl
    · intro _ starts
      exact notBracket (List.cons.inj starts).1
    · intro _ starts
      exact notBracket (List.cons.inj starts).1

/-! ## Documents -/

theorem readStatements?_lines {lines : List (List Char × List Statement)}
    (reads : ∀ line ∈ lines, LineReads line.1 line.2) {steps : Nat}
    (enough : (lines.flatMap Prod.fst).length < steps) :
    readStatements? steps (lines.flatMap Prod.fst) = some (lines.flatMap Prod.snd) := by
  induction lines generalizing steps with
  | nil =>
      obtain ⟨steps, rfl⟩ := Nat.exists_eq_add_of_lt enough
      rfl
  | cons line lines ih =>
      have here := reads line List.mem_cons_self
      have nonempty := List.length_pos_iff.mpr here.nonempty
      rw [List.flatMap_cons, List.length_append] at enough
      obtain ⟨steps, rfl⟩ : ∃ fewer, steps = fewer + 1 := ⟨steps - 1, by omega⟩
      rw [List.flatMap_cons, here.read,
        ih (fun other member => reads other (List.mem_cons_of_mem _ member)) (by omega),
        List.flatMap_cons, Option.map_some]

/-- **A document is read as the statements of its lines.** -/
theorem ofText?_lines {lines : List (List Char × List Statement)}
    (reads : ∀ line ∈ lines, LineReads line.1 line.2)
    (noMark : dropByteOrderMark (lines.flatMap Prod.fst) = lines.flatMap Prod.fst) :
    ofText? (String.ofList (lines.flatMap Prod.fst)) = ofStatements? (lines.flatMap Prod.snd) := by
  rw [ofText?, String.toList_ofList, noMark]
  simp only [readStatements?_lines reads (Nat.lt_succ_self _)]
  rfl

end DiagnosticReport.Toml
