/-!
# Patterns with preferences

A pattern describes words, and it also says which of several words at the front of
a text is preferred: of an alternative the first branch, of a repetition as many
items as possible. A choice that leaves nothing for the rest of the pattern is
taken back, the latest one first. So a pattern is met by a list of readings in
order of preference, each told by what it leaves of the text (`rests`). The first
of them is the match.

The order and the words are two separate things. Which words there are is said by
an inductive relation without any order (`Reads`), and the readings are exactly
those words (`mem_rests_iff`).

The matches of a pattern in a text are found from left to right, each behind the
one before (`Scan`). A text has one such scan only (`Scan.unique`).
-/

set_option autoImplicit false

namespace DiagnosticReport.Text

/-- A pattern of characters. -/
inductive Pattern where
  /-- Nothing. -/
  | empty
  /-- One character of a class. -/
  | one (holds : Char → Bool)
  | seq (first second : Pattern)
  /-- Either of two patterns, rather the first. -/
  | either (first second : Pattern)
  /-- Any number of items, rather more than fewer. -/
  | many (item : Pattern)

namespace Pattern

/-- A pattern or nothing, rather the pattern. -/
def optional (item : Pattern) : Pattern := .either item .empty

/-- At least one item. -/
def atLeastOne (item : Pattern) : Pattern := .seq item (.many item)

/-- At most so many items. -/
def upTo : Nat → Pattern → Pattern
  | 0, _ => .empty
  | most + 1, item => optional (.seq item (upTo most item))

/-! ## Readings in order of preference -/

/-- What is left behind any number of items, of which `rests` tells what is left
behind one. An item reads at least one character. -/
def restsOfMany (rests : List Char → List (List Char)) (text : List Char) : List (List Char) :=
  ((rests text).flatMap fun rest =>
    if rest.length < text.length then restsOfMany rests rest else []) ++ [text]
termination_by text.length

/-- What the readings of a pattern leave of a text, the preferred one first. -/
def rests : Pattern → List Char → List (List Char)
  | .empty, text => [text]
  | .one _, [] => []
  | .one holds, character :: text => if holds character then [text] else []
  | .seq first second, text => (first.rests text).flatMap second.rests
  | .either first second, text => first.rests text ++ second.rests text
  | .many item, text => restsOfMany item.rests text

/-- What the preferred reading leaves. -/
def preferred? (pattern : Pattern) (text : List Char) : Option (List Char) :=
  (pattern.rests text).head?

/-! ## The words of a pattern -/

/-- The words of a pattern, whichever is preferred. -/
inductive Reads : Pattern → List Char → Prop
  | empty : Reads .empty []
  | one {holds : Char → Bool} {character : Char} (inside : holds character = true) :
      Reads (.one holds) [character]
  | seq {first second : Pattern} {word next : List Char} (front : Reads first word)
      (back : Reads second next) : Reads (.seq first second) (word ++ next)
  | first {first second : Pattern} {word : List Char} (reads : Reads first word) :
      Reads (.either first second) word
  | second {first second : Pattern} {word : List Char} (reads : Reads second word) :
      Reads (.either first second) word
  | stop {item : Pattern} : Reads (.many item) []
  | more {item : Pattern} {word next : List Char} (front : Reads item word)
      (back : Reads (.many item) next) : Reads (.many item) (word ++ next)

theorem mem_restsOfMany_iff {rests : List Char → List (List Char)} {text rest : List Char} :
    rest ∈ restsOfMany rests text ↔
      (∃ middle ∈ rests text, middle.length < text.length ∧ rest ∈ restsOfMany rests middle) ∨
        rest = text := by
  rw [restsOfMany, List.mem_append, List.mem_singleton, List.mem_flatMap]
  refine or_congr (exists_congr fun middle => and_congr_right fun _ => ?_) Iff.rfl
  split
  · rename_i shorter
    rw [and_iff_right shorter]
  · rename_i longer
    simp [longer]

/-- What a pattern reads is one of its words. -/
theorem exists_reads_of_mem_rests {pattern : Pattern} {text rest : List Char}
    (member : rest ∈ pattern.rests text) : ∃ word, text = word ++ rest ∧ pattern.Reads word := by
  induction pattern generalizing text rest with
  | empty =>
      obtain rfl := List.mem_singleton.mp member
      exact ⟨[], rfl, .empty⟩
  | one holds =>
      cases text with
      | nil => cases member
      | cons character text =>
          rw [rests] at member
          split at member
          · rename_i inside
            obtain rfl := List.mem_singleton.mp member
            exact ⟨[character], rfl, .one inside⟩
          · cases member
  | seq first second firstIh secondIh =>
      obtain ⟨middle, before, behind⟩ := List.mem_flatMap.mp member
      obtain ⟨word, rfl, front⟩ := firstIh before
      obtain ⟨next, rfl, back⟩ := secondIh behind
      exact ⟨word ++ next, by rw [List.append_assoc], .seq front back⟩
  | either first second firstIh secondIh =>
      rcases List.mem_append.mp member with early | late
      · obtain ⟨word, cut, reads⟩ := firstIh early
        exact ⟨word, cut, .first reads⟩
      · obtain ⟨word, cut, reads⟩ := secondIh late
        exact ⟨word, cut, .second reads⟩
  | many item ih =>
      -- The items are read one by one, each from a shorter text.
      induction size : text.length using Nat.strongRecOn generalizing text with
      | ind size shorterIh =>
          rcases mem_restsOfMany_iff.mp member with ⟨middle, before, shorter, behind⟩ | rfl
          · obtain ⟨next, nextCut, back⟩ := shorterIh middle.length (size ▸ shorter) behind rfl
            obtain ⟨word, cut, front⟩ := ih before
            exact ⟨word ++ next, by rw [cut, nextCut, List.append_assoc], .more front back⟩
          · exact ⟨[], rfl, .stop⟩

/-- Every word of a pattern at the front of a text is one of its readings. -/
theorem mem_rests_of_reads {pattern : Pattern} {word : List Char} (reads : pattern.Reads word)
    (rest : List Char) : rest ∈ pattern.rests (word ++ rest) := by
  induction reads generalizing rest with
  | empty => exact List.mem_singleton.mpr rfl
  | one inside => rw [List.singleton_append, rests, if_pos inside, List.mem_singleton]
  | seq front back frontIh backIh =>
      rw [List.append_assoc]
      exact List.mem_flatMap.mpr ⟨_, frontIh _, backIh rest⟩
  | first reads ih => exact List.mem_append_left _ (ih rest)
  | second reads ih => exact List.mem_append_right _ (ih rest)
  | stop => exact mem_restsOfMany_iff.mpr (.inr rfl)
  | @more item word next front back frontIh backIh =>
      cases word with
      | nil => exact backIh rest
      | cons character word =>
          refine mem_restsOfMany_iff.mpr (.inl ⟨next ++ rest, ?_, ?_, backIh rest⟩)
          · rw [List.append_assoc]
            exact frontIh _
          · simp only [List.length_append, List.length_cons]
            omega

/-- **The readings of a pattern are its words** at the front of the text. -/
theorem mem_rests_iff {pattern : Pattern} {text rest : List Char} :
    rest ∈ pattern.rests text ↔ ∃ word, text = word ++ rest ∧ pattern.Reads word := by
  constructor
  · exact exists_reads_of_mem_rests
  · rintro ⟨word, rfl, reads⟩
    exact mem_rests_of_reads reads rest

/-! ## Readings with which the rest of the work can be done -/

/-- A choice that `next` cannot go on from is taken back. -/
theorem findSome?_flatMap {α β γ : Type} (list : List α) (parts : α → List β)
    (next : β → Option γ) :
    (list.flatMap parts).findSome? next = list.findSome? fun item => (parts item).findSome? next := by
  induction list with
  | nil => rfl
  | cons item list ih =>
      rw [List.flatMap_cons, List.findSome?_append, ih, List.findSome?_cons]
      cases (parts item).findSome? next with
      | none => rfl
      | some found => rfl

theorem findSome?_congr {α γ : Type} {list : List α} {next other : α → Option γ}
    (same : ∀ item ∈ list, next item = other item) : list.findSome? next = list.findSome? other := by
  induction list with
  | nil => rfl
  | cons item list ih =>
      rw [List.findSome?_cons, List.findSome?_cons, same item List.mem_cons_self,
        ih fun later member => same later (List.mem_cons_of_mem item member)]

section Next

variable {γ : Type} (next : List Char → Option γ)

theorem preferred?_eq (pattern : Pattern) (text : List Char) :
    pattern.preferred? text = (pattern.rests text).findSome? some := by
  rw [preferred?]
  cases pattern.rests text with
  | nil => rfl
  | cons rest rests => rfl

theorem findSome?_one_cons (holds : Char → Bool) (character : Char) (text : List Char) :
    ((one holds).rests (character :: text)).findSome? next =
      if holds character then next text else none := by
  rw [rests]
  split
  · exact List.findSome?_singleton
  · rfl

theorem findSome?_seq (first second : Pattern) (text : List Char) :
    ((seq first second).rests text).findSome? next =
      (first.rests text).findSome? fun rest => (second.rests rest).findSome? next :=
  findSome?_flatMap _ _ _

theorem findSome?_either (first second : Pattern) (text : List Char) :
    ((either first second).rests text).findSome? next =
      ((first.rests text).findSome? next).or ((second.rests text).findSome? next) :=
  List.findSome?_append

theorem findSome?_optional (item : Pattern) (text : List Char) :
    ((optional item).rests text).findSome? next =
      ((item.rests text).findSome? next).or (next text) := by
  rw [optional, findSome?_either]
  congr 1
  exact List.findSome?_singleton

theorem findSome?_many (item : Pattern) (text : List Char) :
    ((many item).rests text).findSome? next =
      ((item.rests text).findSome? fun rest =>
        if rest.length < text.length then ((many item).rests rest).findSome? next else none).or
          (next text) := by
  rw [rests, restsOfMany, List.findSome?_append, findSome?_flatMap, List.findSome?_singleton]
  congr 2
  funext rest
  split
  · rfl
  · rfl

/-- Any number of characters: one more, or else what comes next. -/
theorem findSome?_many_one_cons (holds : Char → Bool) (character : Char) (text : List Char) :
    ((many (one holds)).rests (character :: text)).findSome? next =
      (if holds character then ((many (one holds)).rests text).findSome? next else none).or
        (next (character :: text)) := by
  rw [findSome?_many, findSome?_one_cons]
  simp

theorem findSome?_many_one_nil (holds : Char → Bool) :
    ((many (one holds)).rests []).findSome? next = next [] := by
  rw [findSome?_many]
  rfl

/-- Any number of items that start with a character: one more, or else what comes
next. -/
theorem findSome?_many_seq_one_cons (holds : Char → Bool) (tail : Pattern) (character : Char)
    (text : List Char) :
    ((many (seq (one holds) tail)).rests (character :: text)).findSome? next =
      (if holds character then
        (tail.rests text).findSome? fun rest =>
          ((many (seq (one holds) tail)).rests rest).findSome? next
      else none).or (next (character :: text)) := by
  rw [findSome?_many, findSome?_seq, findSome?_one_cons]
  congr 2
  refine findSome?_congr fun rest member => if_pos ?_
  obtain ⟨word, rfl, -⟩ := exists_reads_of_mem_rests member
  simp only [List.length_append, List.length_cons]
  omega

theorem findSome?_many_seq_one_nil (holds : Char → Bool) (tail : Pattern) :
    ((many (seq (one holds) tail)).rests []).findSome? next = next [] := by
  rw [findSome?_many]
  rfl

end Next

/-! ## Scanning a text -/

/-- A word of the pattern stands at the front of a text. -/
def Opens (pattern : Pattern) (text : List Char) : Prop :=
  ∃ word rest, text = word ++ rest ∧ pattern.Reads word

/-- Something is preferred where there is anything to choose from. -/
theorem not_opens_iff {pattern : Pattern} {text : List Char} :
    ¬ pattern.Opens text ↔ pattern.preferred? text = none := by
  rw [preferred?, List.head?_eq_none_iff, List.eq_nil_iff_forall_not_mem, Opens]
  simp only [mem_rests_iff]
  constructor
  · rintro absent rest ⟨word, cut, reads⟩
    exact absent ⟨word, rest, cut, reads⟩
  · rintro absent ⟨word, rest, cut, reads⟩
    exact absent rest ⟨word, cut, reads⟩

/-- What stands behind the preferred reading is the end of the text. -/
theorem exists_found_of_preferred? {pattern : Pattern} {text rest : List Char}
    (preferred : pattern.preferred? text = some rest) :
    ∃ found, text = found ++ rest ∧ pattern.Reads found :=
  mem_rests_iff.mp (List.mem_of_mem_head? preferred)

theorem opens_of_preferred? {pattern : Pattern} {text rest : List Char}
    (preferred : pattern.preferred? text = some rest) : pattern.Opens text := by
  obtain ⟨found, cut, reads⟩ := exists_found_of_preferred? preferred
  exact ⟨found, rest, cut, reads⟩

/-- Behind `before` stands the match `found`: the pattern matches at no earlier place,
and here this is the reading that it prefers. -/
structure FirstMatch (pattern : Pattern) (before found after : List Char) : Prop where
  earliest : ∀ passed left, before = passed ++ left → left ≠ [] →
    ¬ pattern.Opens (left ++ (found ++ after))
  preferred : pattern.preferred? (found ++ after) = some after

/-- The matches of a pattern in a text, each with what stands between it and the
match before, and what stands behind the last one. -/
inductive Scan (pattern : Pattern) :
    List Char → List (List Char × List Char) → List Char → Prop
  | done {text : List Char} (absent : ∀ passed left, text = passed ++ left → ¬ pattern.Opens left) :
      Scan pattern text [] text
  | next {before found after last : List Char} {pieces : List (List Char × List Char)}
      (first : pattern.FirstMatch before found after) (others : Scan pattern after pieces last) :
      Scan pattern (before ++ (found ++ after)) ((before, found) :: pieces) last

/-- What is kept of a scanned text: all but the matches. -/
def kept (pieces : List (List Char × List Char)) (last : List Char) : List Char :=
  pieces.flatMap Prod.fst ++ last

variable {pattern : Pattern}

/-- Nothing matches in front of the first match. -/
theorem FirstMatch.eq_nil_of_opens {before found after left : List Char} {passed : List Char}
    (first : pattern.FirstMatch before found after) (cut : before = passed ++ left)
    (opens : pattern.Opens (left ++ (found ++ after))) : left = [] := by
  cases left with
  | nil => rfl
  | cons character left => exact absurd opens (first.earliest passed _ cut (by simp))

/-- There is one first match only. -/
theorem FirstMatch.unique {before found after otherBefore otherFound otherAfter : List Char}
    (first : pattern.FirstMatch before found after)
    (other : pattern.FirstMatch otherBefore otherFound otherAfter)
    (same : before ++ (found ++ after) = otherBefore ++ (otherFound ++ otherAfter)) :
    before = otherBefore ∧ found = otherFound ∧ after = otherAfter := by
  have place : before = otherBefore := by
    rcases List.append_eq_append_iff.mp same with ⟨left, cut, rest⟩ | ⟨left, cut, rest⟩
    · have none := other.eq_nil_of_opens cut (rest ▸ opens_of_preferred? first.preferred)
      rw [cut, none, List.append_nil]
    · have none := first.eq_nil_of_opens cut (rest ▸ opens_of_preferred? other.preferred)
      rw [cut, none, List.append_nil]
  subst place
  have rest : found ++ after = otherFound ++ otherAfter := List.append_cancel_left same
  have behind : after = otherAfter := by
    have preferred := first.preferred
    rw [rest, other.preferred] at preferred
    exact (Option.some.inj preferred).symm
  subst behind
  exact ⟨rfl, List.append_cancel_right rest, rfl⟩

namespace Scan

variable {text otherText last otherLast : List Char} {pieces others : List (List Char × List Char)}

/-- The pieces of a scan are the text. -/
theorem whole (scan : pattern.Scan text pieces last) :
    text = (pieces.flatMap fun piece => piece.1 ++ piece.2) ++ last := by
  induction scan with
  | done absent => rfl
  | next first others ih =>
      rw [List.flatMap_cons, List.append_assoc, List.append_assoc, ← ih]

/-- **A text has one scan only.** -/
theorem unique (scan : pattern.Scan text pieces last)
    (other : pattern.Scan otherText others otherLast) (same : text = otherText) :
    pieces = others ∧ last = otherLast := by
  induction scan generalizing otherText others otherLast with
  | done absent =>
      cases other with
      | done otherAbsent => exact ⟨rfl, same⟩
      | next first rest => exact absurd (opens_of_preferred? first.preferred) (absent _ _ same)
  | next first rest ih =>
      cases other with
      | done absent => exact absurd (opens_of_preferred? first.preferred) (absent _ _ same.symm)
      | next otherFirst otherRest =>
          obtain ⟨rfl, rfl, behind⟩ := first.unique otherFirst same
          obtain ⟨rfl, rfl⟩ := ih otherRest behind
          exact ⟨rfl, rfl⟩

/-- One more character in front at which nothing matches. -/
theorem exists_cons {character : Char} (absent : ¬ pattern.Opens (character :: text))
    (scan : pattern.Scan text pieces last) :
    ∃ otherPieces otherLast, pattern.Scan (character :: text) otherPieces otherLast ∧
      kept otherPieces otherLast = character :: kept pieces last := by
  cases scan with
  | done none =>
      refine ⟨[], character :: text, .done ?_, rfl⟩
      intro passed left cut
      cases passed with
      | nil =>
          obtain rfl : character :: text = left := cut
          exact absent
      | cons other passed => exact none passed left (List.cons.inj cut).2
  | @next before found after _ _ first rest =>
      have longer : pattern.FirstMatch (character :: before) found after := by
        refine ⟨?_, first.preferred⟩
        intro passed left cut nonempty
        cases passed with
        | nil =>
            obtain rfl : character :: before = left := cut
            exact absent
        | cons other passed => exact first.earliest passed left (List.cons.inj cut).2 nonempty
      exact ⟨_, _, .next longer rest, rfl⟩

/-- A match at the front. -/
theorem of_preferred? {after : List Char} (preferred : pattern.preferred? text = some after)
    (scan : pattern.Scan after pieces last) :
    ∃ found, pattern.Scan text (([], found) :: pieces) last := by
  obtain ⟨found, rfl, -⟩ := exists_found_of_preferred? preferred
  have first : pattern.FirstMatch [] found after := by
    refine ⟨?_, preferred⟩
    intro passed left cut nonempty
    exact absurd (List.append_eq_nil_iff.mp cut.symm).2 nonempty
  exact ⟨found, .next first scan⟩

end Scan

end Pattern

end DiagnosticReport.Text
