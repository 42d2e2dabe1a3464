import DiagnosticReport.LanguageServer
import DiagnosticReport.Proofs.FileTree
import DiagnosticReport.Proofs.Text.Trim
import DiagnosticReport.Proofs.Uri.Walk

/-!
# The URI of a document leads back to it

The path of a document is written behind `file://` (`ofPath`). The walk over the URI
takes its segments as they stand, so the path of the URI is the one that was written
(`IsDocument.path?_ofPath`). At the end of a path a drive would be closed with a slash,
so a path that ends in one is no path of a document (`IsDocument`).

`document_leadsBack` says what follows: the URI is resolved to the path it was made from,
no other path is resolved to the same one, and the records of a notification about the
document have this path and frames of its text.
-/

set_option autoImplicit false

namespace DiagnosticReport.Uri

variable {capital : Bool}

/-! ## The URI of a document -/

/-- Whether a text ends in a drive. -/
def endsInDrive (text : List Char) : Bool :=
  match text.reverse with
  | mark :: letter :: _ => isDrive [letter, mark]
  | _ => false

/-- The names that lead from the root to a document. -/
structure IsDocument (names : List String) : Prop where
  nonempty : names ≠ []
  spellable : Path.Spellable true names
  noParent : ∀ name ∈ names, name ≠ ".."
  /-- Behind a drive at the end of a path a slash is added. -/
  noDrive : endsInDrive (Path.ofComponents true names).toList = false

/-- The URI of the document with this path. -/
def ofPath (capital : Bool) (path : String) : String :=
  "file://" ++ String.ofList (escape capital path.toList)

theorem toList_ofPath (path : String) :
    (ofPath capital path).toList = "file://".toList ++ escape capital path.toList := by
  simp [ofPath]

theorem toList_ofComponents {names : List String} (nonempty : names ≠ []) :
    (Path.ofComponents true names).toList = names.flatMap fun name => '/' :: name.toList := by
  obtain ⟨first, rest, rfl⟩ := List.exists_cons_of_ne_nil nonempty
  rw [Path.ofComponents, if_pos rfl, String.toList_append, String.toList_intercalate]
  clear nonempty
  induction rest generalizing first with
  | nil => simp
  | cons next rest ih => simpa [List.intercalate_cons_cons] using ih next

theorem escape_flatMap (names : List String) :
    escape capital (names.flatMap fun name => '/' :: name.toList) =
      (names.map fun name => escape capital name.toList).flatMap ('/' :: ·) := by
  induction names with
  | nil => rfl
  | cons name names ih =>
      rw [List.flatMap_cons, List.map_cons, List.flatMap_cons, escape_append, ih,
        escape_slash_cons]

/-! ## Resolving it -/

/-- A `file` URI is resolved from what stands behind its two slashes. -/
theorem path?_of_file {uri : String} {behind : List Char}
    (written : uri.toList = "file://".toList ++ behind)
    (solid : ∀ character ∈ behind, 0x20 < character.toNat) :
    path? uri = pathOfFileHost? behind := by
  have kept : ∀ character ∈ uri.toList, decide (character.toNat ≤ 0x20) = false := by
    rw [written, List.forall_mem_append]
    exact ⟨by simp, fun character member => decide_eq_false (Nat.not_le.mpr (solid _ member))⟩
  have scheme (rest : List Char) :
      splitScheme? ("file:".toList ++ rest) = some (.file, rest) := rfl
  have slashes : pathOfFile? ('/' :: '/' :: behind) = pathOfFileHost? behind := rfl
  have split : "file://".toList ++ behind = "file:".toList ++ '/' :: '/' :: behind := by simp
  rw [path?, Text.trimBoth_of_solid kept, written, split, scheme, Option.bind_eq_bind,
    Option.bind_some]
  exact slashes

/-- A third slash leaves no room for a host. -/
theorem pathOfFileHost?_slash (rest : List Char) :
    pathOfFileHost? ('/' :: rest) = some (filePath ['/'] ('/' :: rest)) := rfl

/-- The path of a `file` URI without a host, given its segments. -/
theorem pathOfFileHost?_of_stands {first : List Char} {segments : List (List Char)}
    (nonempty : first ≠ []) (stands : ∀ segment ∈ first :: segments, Stands segment) :
    pathOfFileHost? ((first :: segments).flatMap ('/' :: ·)) =
      some ((first :: segments).flatMap ('/' :: ·)) := by
  obtain ⟨letter, letters, rfl⟩ := List.exists_cons_of_ne_nil nonempty
  have noSlash : letter ≠ '/' :=
    ne_of_isWritten ((stands _ List.mem_cons_self).written letter List.mem_cons_self) (by decide)
  have empty : Stands [] := ⟨by simp, by decide, by decide⟩
  -- The slash in front of the path ends an empty segment, which is dropped in the end.
  have walked : (walkFrom .file ['/'] (((letter :: letters) :: segments).flatMap ('/' :: ·))).path =
      '/' :: ((letter :: letters) :: segments).flatMap ('/' :: ·) := by
    rw [walkFrom, ← List.nil_append (List.flatMap _ _),
      Walk.follow_segments (List.forall_mem_cons.mpr ⟨empty, stands⟩)]
    simp [Walk.path, Walk.append]
  rw [List.flatMap_cons, List.cons_append] at walked ⊢
  rw [pathOfFileHost?_slash, filePath, walked, singleSlash]
  simp [noSlash]

theorem isDrive_of_bytes {letter mark : UInt8}
    (isLetter : ((0x41 ≤ letter && letter ≤ 0x5A) || (0x61 ≤ letter && letter ≤ 0x7A)) = true)
    (isMark : (mark == 0x3A || mark == 0x7C) = true) :
    letter.toNat < 0x80 ∧ mark.toNat < 0x80 ∧
      isDrive [Char.ofNat letter.toNat, Char.ofNat mark.toNat] = true := by
  have reads : ∀ byte : UInt8,
      ((0x41 ≤ byte && byte ≤ 0x5A) || (0x61 ≤ byte && byte ≤ 0x7A)) = true →
        byte.toNat < 0x80 ∧ (Char.ofNat byte.toNat).isAlpha = true :=
    forall_byte _ (by decide +kernel)
  obtain ⟨ascii, alpha⟩ := reads letter isLetter
  rw [Bool.or_eq_true, beq_iff_eq, beq_iff_eq] at isMark
  rcases isMark with rfl | rfl
  · exact ⟨ascii, by decide, by simp [isDrive, alpha]⟩
  · exact ⟨ascii, by decide, by simp [isDrive, alpha]⟩

/-- Only a drive at the end of a path is closed. -/
theorem closeDrive_encode {text : List Char} (noDrive : endsInDrive text = false) :
    closeDrive (Text.Utf8.encode text) = Text.Utf8.encode text := by
  fun_cases closeDrive (Text.Utf8.encode text) with
  | case1 mark letter next rest reversed isLetter drive =>
      have bytes : Text.Utf8.encode text = (next :: rest).reverse ++ [letter] ++ [mark] := by
        rw [← List.reverse_reverse (Text.Utf8.encode text), reversed]
        simp
      -- Both bytes are ASCII, so what ends in them ends in their characters.
      obtain ⟨letterReads, markReads⟩ := Bool.and_eq_true_iff.mp drive
      obtain ⟨letterAscii, markAscii, isDrive⟩ := isDrive_of_bytes letterReads markReads
      obtain ⟨before, rfl, encoded⟩ := Text.Utf8.exists_of_encode_eq_concat bytes markAscii
      obtain ⟨front, rfl, -⟩ := Text.Utf8.exists_of_encode_eq_concat encoded letterAscii
      simp [endsInDrive, isDrive] at noDrive
  | case2 => rfl
  | case3 => rfl

namespace IsDocument

variable {names : List String} (document : IsDocument names)
include document

theorem stands : ∀ segment ∈ names.map fun name => escape capital name.toList, Stands segment := by
  intro segment member
  obtain ⟨name, isName, rfl⟩ := List.mem_map.mp member
  refine stands_escape (document.spellable.noSlash name isName) ?_ ?_
  · exact fun point => document.spellable.noDot name isName (String.toList_inj.mp point)
  · exact fun points => document.noParent name isName (String.toList_inj.mp points)

/-- The path in the URI is the path as it was written. -/
theorem path?_ofPath :
    path? (ofPath capital (Path.ofComponents true names)) =
      some (escape capital (Path.ofComponents true names).toList) := by
  have written : escape capital (Path.ofComponents true names).toList =
      (names.map fun name => escape capital name.toList).flatMap ('/' :: ·) := by
    rw [toList_ofComponents document.nonempty, escape_flatMap]
  rw [path?_of_file (toList_ofPath _) lt_toNat_of_mem_escape, written]
  obtain ⟨first, rest, rfl⟩ := List.exists_cons_of_ne_nil document.nonempty
  have nonempty : first ≠ "" := document.spellable.nonempty first List.mem_cons_self
  exact pathOfFileHost?_of_stands (escape_ne_nil (by simpa using nonempty)) document.stands

theorem filePath?_ofPath :
    filePath? (ofPath capital (Path.ofComponents true names)) =
      some (Text.Utf8.encode (Path.ofComponents true names).toList) := by
  have rooted : (escape capital (Path.ofComponents true names).toList).head? = some '/' := by
    obtain ⟨first, rest, rfl⟩ := List.exists_cons_of_ne_nil document.nonempty
    rw [toList_ofComponents document.nonempty, List.flatMap_cons, List.cons_append,
      escape_slash_cons, List.head?_cons]
  rw [filePath?, document.path?_ofPath, Option.bind_eq_bind, Option.bind_some, rooted,
    if_pos (beq_self_eq_true _), percentDecode_escape, closeDrive_encode document.noDrive]

end IsDocument

end DiagnosticReport.Uri

namespace DiagnosticReport.Notification

open Uri (IsDocument ofPath)

variable {capital : Bool} {names : List String}

/-! ## The records of a document -/

/-- A record has the path of a document, and its frames are cut from the text of it. -/
structure Shows (path text : String) (record : Record) : Prop where
  id : record.id = some path
  frames : ∃ location, record.location = some location ∧
    record.codeFrame = some (CodeFrame.render text location).decorated ∧
    record.plainFrame = some (CodeFrame.render text location).stripped

/-- What the URI of the document with this path leads to, if these names lead to it. -/
structure LeadsBack (capital : Bool) (names : List String) (path : String) : Prop where
  resolves : documentPath (ofPath capital path) = .ok (Text.Utf8.encode path.toList)
  /-- No other document has a URI that is resolved to the same path. -/
  unique : ∀ otherCapital others, IsDocument others →
    documentPath (ofPath otherCapital (Path.ofComponents true others)) =
      documentPath (ofPath capital path) → others = names ∧ Path.ofComponents true others = path
  normalized : ∀ (tree : FileTree) text diagnostics, tree.readText path = .ok text →
    normalize tree ⟨ofPath capital path, diagnostics⟩ =
      .ok (diagnostics.map (ServerDiagnostic.normalize path text))
  unreadable : ∀ (tree : FileTree) cause diagnostics, tree.readText path = .error cause →
    normalize tree ⟨ofPath capital path, diagnostics⟩ = .error (.unreadable path cause)
  shows : ∀ tree diagnostics records,
    normalize tree ⟨ofPath capital path, diagnostics⟩ = .ok records →
      ∃ text, tree.HoldsText names text ∧ ∀ record ∈ records, Shows path text record

theorem shows_normalize (path text : String) (diagnostic : ServerDiagnostic) :
    Shows path text (diagnostic.normalize path text) :=
  ⟨rfl, diagnostic.range.toLocation, rfl, rfl, rfl⟩

section Document

variable (document : IsDocument names)
include document

theorem documentPath_ofPath :
    documentPath (ofPath capital (Path.ofComponents true names)) =
      .ok (Text.Utf8.encode (Path.ofComponents true names).toList) := by
  rw [documentPath, document.filePath?_ofPath]

/-- A notification about a document is settled by the text of the document. -/
theorem normalize_ofPath (tree : FileTree) (diagnostics : List ServerDiagnostic) :
    normalize tree ⟨ofPath capital (Path.ofComponents true names), diagnostics⟩ =
      match tree.readText (Path.ofComponents true names) with
      | .ok text =>
          .ok (diagnostics.map (ServerDiagnostic.normalize (Path.ofComponents true names) text))
      | .error cause => .error (.unreadable (Path.ofComponents true names) cause) := by
  have bytes : tree.readBytesPath (Text.Utf8.encode (Path.ofComponents true names).toList) =
      tree.readText (Path.ofComponents true names) := by
    simp only [FileTree.readBytesPath, Text.Utf8.decode?_encode, String.ofList_toList]
  have shown : showPath (Text.Utf8.encode (Path.ofComponents true names).toList) =
      Path.ofComponents true names := by
    rw [showPath, Text.Utf8.decodeLossy_encode, String.ofList_toList]
  cases read : tree.readText (Path.ofComponents true names) with
  | ok text =>
      simp only [normalize, documentPath_ofPath document, bind, Except.bind, bytes, shown, read]
  | error cause =>
      simp only [normalize, documentPath_ofPath document, bind, Except.bind, bytes, shown, read]

/-- What is read of a document stands where its names lead. -/
theorem holdsText_of_readText {tree : FileTree} {text : String}
    (read : tree.readText (Path.ofComponents true names) = .ok text) :
    tree.HoldsText names text := by
  obtain ⟨place, located, holds⟩ := FileTree.readText_eq_ok_iff.mp read
  have entered : ∀ name ∈ names, Path.counts name = true ∧ name ≠ ".." := fun name member =>
    ⟨Path.counts_eq_true.mpr
      ⟨document.spellable.nonempty name member, document.spellable.noDot name member⟩,
      document.noParent name member⟩
  obtain rfl := FileTree.eq_of_locate_ofComponents document.nonempty document.spellable.noSlash
    entered located
  exact holds

end Document

/-- **The URI of a document leads back to the document**, whatever its path holds, and to
no other. -/
theorem document_leadsBack (document : IsDocument names) (capital : Bool) :
    LeadsBack capital names (Path.ofComponents true names) := by
  have settled := @normalize_ofPath capital names document
  constructor
  case resolves => exact documentPath_ofPath document
  case unique =>
    intro otherCapital others otherDocument same
    rw [documentPath_ofPath otherDocument, documentPath_ofPath document] at same
    have paths : Path.ofComponents true others = Path.ofComponents true names :=
      String.toList_inj.mp (Text.Utf8.encode_injective (Except.ok.inj same))
    refine ⟨?_, paths⟩
    rw [← Path.components_ofComponents otherDocument.spellable, paths,
      Path.components_ofComponents document.spellable]
  case normalized =>
    intro tree text diagnostics read
    rw [settled, read]
  case unreadable =>
    intro tree cause diagnostics read
    rw [settled, read]
  case shows =>
    intro tree diagnostics records normalized
    rw [settled] at normalized
    cases read : tree.readText (Path.ofComponents true names) with
    | error cause =>
        rw [read] at normalized
        cases normalized
    | ok text =>
        rw [read] at normalized
        cases normalized
        refine ⟨text, holdsText_of_readText document read, fun record member => ?_⟩
        obtain ⟨diagnostic, -, rfl⟩ := List.mem_map.mp member
        exact shows_normalize _ text diagnostic

/-- Names that look like a drive, like escaped points and like the end of a path. -/
theorem lookalikes_leadBack :
    IsDocument ["C:", "%2e", "..?#\\", "日 |"] ∧
      LeadsBack true ["C:", "%2e", "..?#\\", "日 |"] "/C:/%2e/..?#\\/日 |" := by
  have document : IsDocument ["C:", "%2e", "..?#\\", "日 |"] :=
    ⟨by decide, ⟨by decide, by decide, by decide⟩, by decide, by decide⟩
  have path : Path.ofComponents true ["C:", "%2e", "..?#\\", "日 |"] = "/C:/%2e/..?#\\/日 |" := by
    decide
  exact ⟨document, path ▸ document_leadsBack document true⟩

example : ofPath true "/C:/%2e/..?#\\/日 |" =
    "file:///C%3A/%252e/%2E%2E%3F%23%5C/%E6%97%A5%20%7C" := by
  decide +kernel

end DiagnosticReport.Notification
