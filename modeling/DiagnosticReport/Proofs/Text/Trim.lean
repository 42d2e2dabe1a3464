import DiagnosticReport.Text.Blank

/-!
# Trimmed texts

Trimming takes characters of a class from both ends of a text and no others
(`exists_trimBoth`). What stands between such characters and holds none of them is
what remains (`trimBoth_around`).
-/

set_option autoImplicit false

namespace DiagnosticReport.Text

variable {drops : Char → Bool}

theorem dropWhile_around {before kept : List Char}
    (dropped : ∀ character ∈ before, drops character = true)
    (solid : ∀ character ∈ kept, drops character = false) :
    (before ++ kept).dropWhile drops = kept := by
  rw [List.dropWhile_append_of_pos dropped]
  cases kept with
  | nil => rfl
  | cons first kept =>
      exact List.dropWhile_cons_of_neg (by simpa using solid first List.mem_cons_self)

/-- **A text between characters of the class remains**, if it holds none of them. -/
theorem trimBoth_around {before kept after : List Char}
    (dropped : ∀ character ∈ before ++ after, drops character = true)
    (solid : ∀ character ∈ kept, drops character = false) :
    trimBoth drops (before ++ kept ++ after) = kept := by
  rw [List.forall_mem_append] at dropped
  have back : ∀ character ∈ after.reverse, drops character = true := by simpa using dropped.2
  have reversed : ∀ character ∈ kept.reverse, drops character = false := by simpa using solid
  rw [trimBoth, List.append_assoc, List.dropWhile_append_of_pos dropped.1]
  cases kept with
  | nil =>
      have all : (after ++ []).dropWhile drops = [] := dropWhile_around dropped.2 solid
      rw [List.append_nil] at all
      rw [List.nil_append, all]
      rfl
  | cons first kept =>
      have stays : drops first = false := solid first List.mem_cons_self
      rw [List.cons_append, List.dropWhile_cons_of_neg (by simp [stays]), ← List.cons_append,
        List.reverse_append, dropWhile_around back reversed, List.reverse_reverse]

/-- A text without characters of the class stays as it is. -/
theorem trimBoth_of_solid {text : List Char}
    (solid : ∀ character ∈ text, drops character = false) : trimBoth drops text = text := by
  have around : trimBoth drops ([] ++ text ++ []) = text := trimBoth_around (by simp) solid
  rwa [List.nil_append, List.append_nil] at around

/-- **Only characters of the class are trimmed.** -/
theorem exists_trimBoth (drops : Char → Bool) (text : List Char) :
    ∃ before after, text = before ++ trimBoth drops text ++ after ∧
      ∀ character ∈ before ++ after, drops character = true := by
  have dropped (part : List Char) : ∀ character ∈ part.takeWhile drops, drops character = true :=
    fun character member => List.all_eq_true.mp List.all_takeWhile character member
  refine ⟨text.takeWhile drops, ((text.dropWhile drops).reverse.takeWhile drops).reverse, ?_, ?_⟩
  · have front := List.takeWhile_append_dropWhile (p := drops) (l := text)
    have back := List.takeWhile_append_dropWhile (p := drops) (l := (text.dropWhile drops).reverse)
    rw [trimBoth, List.append_assoc, ← List.reverse_append, back, List.reverse_reverse, front]
  · rw [List.forall_mem_append]
    exact ⟨dropped text, by simpa using dropped (text.dropWhile drops).reverse⟩

end DiagnosticReport.Text
