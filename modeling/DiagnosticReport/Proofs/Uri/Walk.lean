import DiagnosticReport.Proofs.Uri.Percent
import DiagnosticReport.Uri.Resolve

/-!
# Walking over written segments

What is written of a name holds nothing that ends or changes a segment of a path
(`isWritten_of_mem_escape`). It is not read as `.` or `..`, since escaped points stand
for points (`percentDecode_points`) and only points are written as points
(`stands_escape`); and it is no drive, since the mark of one is escaped
(`isDrive_of_written`). So the walk over a path takes it as it stands
(`Walk.follow_segments`).
-/

set_option autoImplicit false

namespace DiagnosticReport.Uri

variable {capital : Bool}

/-! ## Written characters and segments -/

section Written

variable {character : Char} (written : isWritten character = true)
include written

theorem ne_of_isWritten {special : Char} (other : isWritten special = false) :
    character ≠ special := by
  rintro rfl
  rw [written] at other
  cases other

theorem isBreak_of_isWritten : isBreak character = false := by
  have tab : character ≠ '\t' := ne_of_isWritten written (by decide)
  have feed : character ≠ '\n' := ne_of_isWritten written (by decide)
  have carriage : character ≠ '\r' := ne_of_isWritten written (by decide)
  simp [isBreak, tab, feed, carriage]

theorem isSlash_of_isWritten (scheme : Scheme) : isSlash scheme character = false := by
  have slash : character ≠ '/' := ne_of_isWritten written (by decide)
  have backslash : character ≠ '\\' := ne_of_isWritten written (by decide)
  simp [isSlash, slash, backslash]

theorem endsPath_of_isWritten : endsPath character = false := by
  have query : character ≠ '?' := ne_of_isWritten written (by decide)
  have fragment : character ≠ '#' := ne_of_isWritten written (by decide)
  simp [endsPath, query, fragment]

end Written

theorem isDrive_of_written {segment : List Char}
    (written : ∀ character ∈ segment, isWritten character = true) : isDrive segment = false := by
  fun_cases isDrive segment with
  | case1 letter mark =>
      have isMark : isWritten mark = true := written mark (by simp)
      have colon : mark ≠ ':' := ne_of_isWritten isMark (by decide)
      have bar : mark ≠ '|' := ne_of_isWritten isMark (by decide)
      simp [colon, bar]
  | case2 => rfl

/-- Escaped points stand for points. -/
theorem percentDecode_points (segment : List Char) :
    percentDecode (points segment) = percentDecode segment := by
  fun_induction points segment with
  | case1 letter rest isPoint ih =>
      rw [Bool.or_eq_true, beq_iff_eq, beq_iff_eq] at isPoint
      have point : percentDecode ('.' :: points rest) = 0x2E :: percentDecode (points rest) := rfl
      rcases isPoint with rfl | rfl
      · rw [point, ih]
        rfl
      · rw [point, ih]
        rfl
  | case2 => rfl
  | case3 rest ih =>
      have point (text : List Char) :
          percentDecode ('.' :: text) = 0x2E :: percentDecode text := rfl
      rw [point, point, ih]
  | case4 => rfl

/-- A segment that stands in a path as it is. -/
structure Stands (segment : List Char) : Prop where
  written : ∀ character ∈ segment, isWritten character = true
  noPoint : points segment ≠ ['.']
  noPoints : points segment ≠ ['.', '.']

/-- Only points are written as points. -/
theorem eq_of_points_escape {name others : List Char}
    (same : points (escape capital name) = others)
    (plain : percentDecode others = Text.Utf8.encode others) : name = others := by
  have decoded : percentDecode (points (escape capital name)) = Text.Utf8.encode name := by
    rw [percentDecode_points, percentDecode_escape]
  rw [same, plain] at decoded
  exact Text.Utf8.encode_injective decoded.symm

/-- The name of a file or of a directory is written as a segment that stands. -/
theorem stands_escape {name : List Char} (noSlash : '/' ∉ name) (noPoint : name ≠ ['.'])
    (noPoints : name ≠ ['.', '.']) : Stands (escape capital name) where
  written := isWritten_of_mem_escape noSlash
  noPoint := fun point => noPoint (eq_of_points_escape point rfl)
  noPoints := fun points => noPoints (eq_of_points_escape points rfl)

/-! ## The walk over a written path -/

namespace Walk

variable {walk : Walk}

theorem append_append (text more : List Char) :
    (walk.append text).append more = walk.append (text ++ more) := by
  simp [append]

theorem addSegment_of_stands {segment : List Char} (stands : Stands segment) (slashed : Bool) :
    walk.addSegment .file segment slashed =
      walk.append (segment ++ if slashed then ['/'] else []) := by
  rw [addSegment]
  split
  · rename_i points
    exact absurd points stands.noPoints
  · rename_i point
    exact absurd point stands.noPoint
  · rw [isDrive_of_written stands.written, Bool.and_false, if_neg Bool.false_ne_true]

/-- Written characters are added to the segment. -/
theorem follow_written {written : List Char}
    (all : ∀ character ∈ written, isWritten character = true) (segment rest : List Char) :
    follow .file walk segment (written ++ rest) =
      follow .file walk (written.reverse ++ segment) rest := by
  induction written generalizing segment with
  | nil => rfl
  | cons character written ih =>
      rw [List.forall_mem_cons] at all
      rw [List.cons_append, follow, isBreak_of_isWritten all.1, isSlash_of_isWritten all.1,
        endsPath_of_isWritten all.1]
      simp only [Bool.false_eq_true, if_false]
      rw [ih all.2, List.reverse_cons, List.append_assoc, List.singleton_append]

/-- **Segments that stand are taken as they are.** -/
theorem follow_segments {first : List Char} {segments : List (List Char)}
    (stands : ∀ segment ∈ first :: segments, Stands segment) :
    follow .file walk [] (first ++ segments.flatMap ('/' :: ·)) =
      walk.append (first ++ segments.flatMap ('/' :: ·)) := by
  induction segments generalizing walk first with
  | nil =>
      rw [List.forall_mem_singleton] at stands
      rw [List.flatMap_nil, follow_written stands.written, follow, List.append_nil,
        List.reverse_reverse, addSegment_of_stands stands]
      rfl
  | cons next segments ih =>
      rw [List.forall_mem_cons] at stands
      rw [follow_written stands.1.written, List.append_nil, List.flatMap_cons, List.cons_append,
        follow]
      have slash : isBreak '/' = false ∧ isSlash .file '/' = true := by decide
      rw [slash.1, slash.2, if_neg Bool.false_ne_true, if_pos rfl, List.reverse_reverse,
        addSegment_of_stands stands.1, ih stands.2, append_append]
      simp

end Walk

end DiagnosticReport.Uri
