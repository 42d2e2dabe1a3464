import DiagnosticReport.Text.Blank
import DiagnosticReport.Uri.Host

/-!
# From document URIs to files

`Uri.filePath?` gives the bytes of the file path that a URI stands for.  The URI
is read as browsers read one: blanks around it and line breaks in it are
ignored, the scheme decides how the rest is cut, `.` and `..` segments are
resolved, and a drive letter at the start of a `file` path is kept from being
resolved away.  Query and fragment do not matter.

A URI of any scheme stands for a file if it has no host or the host
`localhost`, and its path starts with a slash.  All else stands for none.
-/

set_option autoImplicit false

namespace DiagnosticReport.Uri

/-! ## Schemes -/

/-- The classes of schemes that differ in how a URI is cut. -/
inductive Scheme where
  | file
  /-- A scheme of the web, which needs a host and takes backslashes as slashes. -/
  | web
  /-- Any other scheme. -/
  | generic
  deriving DecidableEq, Repr

/-- The class of a scheme with this name in small letters. -/
def Scheme.ofName (name : String) : Scheme :=
  if name == "file" then .file
  else if ["http", "https", "ws", "wss", "ftp"].contains name then .web
  else .generic

/-- Whether backslashes count as slashes. -/
def Scheme.isSpecial : Scheme → Bool
  | .file => true
  | .web => true
  | .generic => false

/-- A tab or a line break, which does not count as part of a URI. -/
def isBreak (character : Char) : Bool :=
  character == '\t' || character == '\n' || character == '\r'

/-- A text without its tabs and line breaks. -/
def withoutBreaks (text : List Char) : List Char := text.filter fun character => !isBreak character

/-- The first character of a text that is no break, and what follows it. -/
def firstVisible? (text : List Char) : Option (Char × List Char) :=
  match text.dropWhile isBreak with
  | [] => none
  | character :: rest => some (character, rest)

/-- The characters of a scheme behind its first one. -/
def isSchemeCharacter (character : Char) : Bool :=
  character.isAlphanum || character == '+' || character == '-' || character == '.'

/-- The scheme of a URI, and what follows its colon. -/
def splitScheme? (uri : List Char) : Option (Scheme × List Char) :=
  let belongs (character : Char) : Bool := isSchemeCharacter character || isBreak character
  if uri.head?.any Char.isAlpha then
    match uri.dropWhile belongs with
    | ':' :: rest =>
        let name := (withoutBreaks (uri.takeWhile belongs)).map Char.toLower
        some (.ofName (String.ofList name), rest)
    | _ => none
  else none

/-- A slash, or what counts as one. -/
def isSlash (scheme : Scheme) (character : Char) : Bool :=
  character == '/' || (scheme.isSpecial && character == '\\')

/-- The start of a query or of a fragment. -/
def endsPath (character : Char) : Bool := character == '?' || character == '#'

/-! ## Paths -/

/-- A letter with a colon or a bar behind it. -/
def isDrive : List Char → Bool
  | [letter, mark] => letter.isAlpha && (mark == ':' || mark == '|')
  | _ => false

/-- A letter with a colon behind it. -/
def isCanonicalDrive : List Char → Bool
  | [letter, mark] => letter.isAlpha && mark == ':'
  | _ => false

/-- Whether a path starts with a slash and a segment that is a drive. -/
def startsWithDrive : List Char → Bool
  | '/' :: letter :: mark :: rest =>
      isDrive [letter, mark] &&
        rest.head?.all fun next => next == '/' || next == '\\' || endsPath next
  | _ => false

/-- A segment with its escaped points decoded, if it consists of points. -/
def points : List Char → List Char
  | '%' :: '2' :: letter :: rest =>
      if letter == 'e' || letter == 'E' then '.' :: points rest
      else '%' :: '2' :: letter :: rest
  | '.' :: rest => '.' :: points rest
  | segment => segment

/-- A path that is being read. -/
structure Walk where
  /-- The segments so far, with the slashes between and behind them, read from the
  end of the path to its start. -/
  reversed : List Char
  /-- Whether a whole segment at the start of the path was a drive. -/
  hasDrive : Bool := false
  deriving DecidableEq, Repr

namespace Walk

/-- The path so far. -/
def path (walk : Walk) : List Char := walk.reversed.reverse

/-- The last segment of a path that is read from its end. -/
def lastSegment (reversed : List Char) : List Char := (reversed.takeWhile (· != '/')).reverse

/-- A path without the slash at its end, if the slash closes a segment that may
go: not the first slash of all, and not the one behind a drive. -/
def openLast : List Char → List Char
  | '/' :: before =>
      if before.contains '/' && !startsWithDrive ('/' :: (lastSegment before ++ ['/'])) then before
      else '/' :: before
  | reversed => reversed

/-- The path without its last segment, unless that is a drive. -/
def parent (scheme : Scheme) (walk : Walk) : Walk :=
  let opened := openLast walk.reversed
  let keepsLast := scheme == .file && isCanonicalDrive (lastSegment opened)
  { walk with reversed := if keepsLast then opened else opened.dropWhile (· != '/') }

/-- The path with a slash at its end. -/
def closed (walk : Walk) : Walk :=
  if walk.reversed.head? == some '/' then walk else { walk with reversed := '/' :: walk.reversed }

/-- The path with a text at its end. -/
def append (walk : Walk) (text : List Char) : Walk :=
  { walk with reversed := text.reverseAux walk.reversed }

/-- Whether a segment that comes next is the first one. -/
def isAtStart (walk : Walk) : Bool := walk.reversed == ['/']

/-- The path with one more segment; `slashed` tells whether a slash follows it.
A drive that starts a `file` path is marked with a colon. -/
def addSegment (scheme : Scheme) (walk : Walk) (segment : List Char) (slashed : Bool) : Walk :=
  let slash := if slashed then ['/'] else []
  match points segment with
  | ['.', '.'] => if slashed then (walk.parent scheme).closed else walk.parent scheme
  | ['.'] => walk.closed
  | _ =>
      if scheme == .file && walk.isAtStart && isDrive segment then
        { walk.append (segment.take 1 ++ ':' :: slash) with hasDrive := true }
      else walk.append (segment ++ slash)

/-- Whether a break ends a drive: the segment, read from its end, is a drive at the
start of the path, and an ordinary character follows the break. -/
def breakEndsDrive (scheme : Scheme) (walk : Walk) (segment rest : List Char) : Bool :=
  match segment with
  | [mark, letter] =>
      walk.isAtStart && isCanonicalDrive [letter, mark] &&
        rest.head?.any fun next => !isBreak next && !isSlash scheme next && !endsPath next
  | _ => false

/-- The path that `text` continues, where `segment` is the part of its current
segment that has been read, from its end.  Breaks are dropped, but one that ends
a drive is read as a slash that does not end the segment. -/
def follow (scheme : Scheme) (walk : Walk) (segment : List Char) : List Char → Walk
  | [] => walk.addSegment scheme segment.reverse false
  | character :: rest =>
      if isBreak character then
        if walk.breakEndsDrive scheme segment rest then follow scheme walk ('/' :: segment) rest
        else follow scheme walk segment rest
      else if isSlash scheme character then
        follow scheme (walk.addSegment scheme segment.reverse true) [] rest
      else if endsPath character then walk.addSegment scheme segment.reverse false
      else follow scheme walk (character :: segment) rest

end Walk

/-- The path that starts with `start` and goes on with `text`. -/
def walkFrom (scheme : Scheme) (start text : List Char) : Walk :=
  Walk.follow scheme ⟨start.reverse, false⟩ [] text

/-- A path without the empty segments at its start. -/
def singleSlash (path : List Char) : List Char := '/' :: path.dropWhile (· == '/')

/-- A `file` path, continued from the given start. -/
def filePath (start text : List Char) : List Char :=
  singleSlash (walkFrom .file start text).path

/-- The path behind a host. -/
def pathBehindHost (scheme : Scheme) (text : List Char) : List Char :=
  match text with
  | [] => if scheme.isSpecial then ['/'] else []
  | character :: rest =>
      if scheme.isSpecial then
        if isSlash scheme character then (walkFrom scheme ['/'] rest).path
        else (walkFrom scheme ['/'] text).path
      else if endsPath character then []
      else if character == '/' then (walkFrom scheme [] text).path
      else (walkFrom scheme ['/'] text).path

/-! ## Hosts -/

/-- What an authority can end before. -/
def endsAuthority (scheme : Scheme) (character : Char) : Bool :=
  isSlash scheme character || endsPath character

/-- The text behind the user information, and whether there is any.  None if an
`@` at the very start has nothing behind it. -/
def dropUserInfo? (scheme : Scheme) (text : List Char) : Option (Bool × List Char) :=
  let authority := text.takeWhile fun character => !endsAuthority scheme character
  let rest := text.dropWhile fun character => !endsAuthority scheme character
  if authority.contains '@' then
    let host := (authority.reverse.takeWhile (· != '@')).reverse
    let info := authority.take (authority.length - host.length - 1)
    if info.isEmpty && host.isEmpty && !rest.isEmpty then none
    else some (!info.isEmpty && info != [':'], host ++ rest)
  else some (false, text)

/-- The text of a host and what follows it.  A colon in brackets does not end
the host. -/
def splitHost (scheme : Scheme) (bracketed : Bool) : List Char → List Char × List Char
  | [] => ([], [])
  | character :: rest =>
      if (character == ':' && !bracketed) || endsAuthority scheme character then
        ([], character :: rest)
      else
        let inside :=
          if character == '[' then true else if character == ']' then false else bracketed
        let (host, behind) := splitHost scheme inside rest
        (character :: host, behind)

/-- What follows the digits of a service number, which is at most 65535. -/
def dropServiceDigits? (value : Nat) : List Char → Option (List Char)
  | [] => some []
  | character :: rest =>
      if character.isDigit then
        let value := value * 10 + (character.toNat - '0'.toNat)
        if value > 65535 then none else dropServiceDigits? value rest
      else if character == '/' || character == '\\' || endsPath character then
        some (character :: rest)
      else none

/-- What follows the number of a service at a host, if there is one. -/
def dropService? : List Char → Option (List Char)
  | ':' :: rest => dropServiceDigits? 0 rest
  | text => some text

/-- The path of a URI whose two slashes have been read, unless its host is some
other machine. -/
def pathOfAuthority? (scheme : Scheme) (text : List Char) : Option (List Char) := do
  let (hasUserInfo, text) ← dropUserInfo? scheme text
  let (host, rest) := splitHost scheme false text
  let isLocal ←
    if host.isEmpty then
      if scheme.isSpecial || hasUserInfo || rest.head? == some ':' then none else some true
    else if scheme.isSpecial then (Host.read? host).map (· == .localhost)
    else some (host == "localhost".toList)
  let rest ← dropService? rest
  if isLocal then some (pathBehindHost scheme rest) else none

/-- The path of a `file` URI whose two slashes have been read.  A drive in the
place of the host is the start of the path; a drive at the start of the path
takes the place of the host. -/
def pathOfFileHost? (text : List Char) : Option (List Char) :=
  let host := withoutBreaks (text.takeWhile fun character => !endsAuthority .file character)
  let rest := text.dropWhile fun character => !endsAuthority .file character
  if isDrive host then some (filePath ['/'] text)
  else if host.isEmpty then some (filePath ['/'] rest)
  else
    match Host.read? host with
    | none => none
    | some .remote =>
        let behind := if rest.head?.any (isSlash .file) then rest.tail else rest
        if (walkFrom .file ['/'] behind).hasDrive then some (filePath ['/'] behind) else none
    | some _ => some (filePath ['/'] rest)

/-! ## Whole URIs -/

/-- The path of a `file` URI, given what follows its scheme. -/
def pathOfFile? (text : List Char) : Option (List Char) :=
  match firstVisible? text with
  | some (first, behind) =>
      if isSlash .file first then
        match firstVisible? behind with
        | some (second, behind) =>
            if isSlash .file second then pathOfFileHost? behind else some (filePath [] text)
        | none => some (filePath [] text)
      else some (filePath ['/'] text)
  | none => some (filePath ['/'] text)

/-- The path of a URI that stands for a file, with its escapes.  Control
characters and spaces at the ends of a URI are ignored, breaks everywhere; only
in a `file` path a break can matter. -/
def path? (uri : String) : Option (List Char) := do
  let (scheme, rest) ← splitScheme? (Text.trimBoth (·.toNat ≤ 0x20) uri.toList)
  match scheme with
  | .file => pathOfFile? rest
  | .web => pathOfAuthority? .web ((withoutBreaks rest).dropWhile (isSlash .web))
  | .generic =>
      match withoutBreaks rest with
      | '/' :: '/' :: behind => pathOfAuthority? .generic behind
      | '/' :: behind => some (walkFrom .generic ['/'] behind).path
      | _ => none

/-- The bytes of a path, with a slash behind a drive at its end. -/
def closeDrive (bytes : List UInt8) : List UInt8 :=
  match bytes.reverse with
  | mark :: letter :: _ :: _ =>
      let isLetter := (0x41 ≤ letter && letter ≤ 0x5A) || (0x61 ≤ letter && letter ≤ 0x7A)
      if isLetter && (mark == 0x3A || mark == 0x7C) then bytes ++ [0x2F] else bytes
  | _ => bytes

/-- The bytes of the file path that a URI stands for. -/
def filePath? (uri : String) : Option (List UInt8) := do
  let path ← path? uri
  if path.head? == some '/' then some (closeDrive (percentDecode path)) else none

end DiagnosticReport.Uri
