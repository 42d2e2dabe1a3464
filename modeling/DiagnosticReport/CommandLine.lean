import DiagnosticReport.Report

/-!
# Command line

The words behind the name of the program are read into an `Invocation`: a
report, the making of a configuration, the version, the help, or a mistake.  The
first word that settles the matter does so at once, so a mistake behind
`--version` goes unnoticed and one in front of it does not.

`Invocation.run` carries out an invocation on a file tree and says what is
printed, what the exit status is and what the files are afterwards.
-/

set_option autoImplicit false

namespace DiagnosticReport

/-- What the user wants. -/
inductive Invocation where
  | mistake
  | version
  | help
  /-- A configuration file in a directory. -/
  | install (directory : String)
  | report (request : ReportRequest)
  deriving DecidableEq, Repr

namespace Invocation

/-! ## Words -/

/-- Words that are no value of an option: those that start with a hyphen, a
hyphen on its own apart. -/
def looksLikeOption (word : String) : Bool :=
  word.toList.head? == some '-' && word != "-"

/-- The name of a long option, and the value behind an equals sign. -/
def splitLong? (word : String) : Option (String × Option String) :=
  match word.toList with
  | '-' :: '-' :: first :: rest =>
      let text := first :: rest
      let name := String.ofList (text.takeWhile (· != '='))
      match text.dropWhile (· != '=') with
      | _ :: value => some (name, some (String.ofList value))
      | [] => some (name, none)
  | _ => none

/-- What the flags of a word ask for. -/
inductive FlagResult where
  /-- The flag for more output, once. -/
  | verbose
  | help
  | version
  /-- Not a flag, or one too many. -/
  | mistake
  deriving DecidableEq, Repr

/-- Reads the letters of a word of short flags.  `verbose` tells whether the flag
for more output has been given; the version is known at the top only. -/
def readLetters (atTop verbose : Bool) : List Char → FlagResult
  | [] => .verbose
  | 'v' :: letters => if verbose then .mistake else readLetters atTop true letters
  | 'h' :: _ => .help
  | 'V' :: _ => if atTop then .version else .mistake
  | _ => .mistake

/-- Reads a word that may be a flag. -/
def readFlag (atTop verbose : Bool) (word : String) : FlagResult :=
  if word == "--verbose" then if verbose then .mistake else .verbose
  else if word == "--help" then .help
  else if word == "--version" then if atTop then .version else .mistake
  else
    match word.toList with
    | '-' :: first :: letters =>
        if first == '-' then .mistake else readLetters atTop verbose (first :: letters)
    | _ => .mistake

/-! ## Making a configuration -/

/-- Reads the words behind `init`.  `plain` tells that all further words are
paths. -/
def readInstall (verbose plain : Bool) (directory : Option String) : List String → Invocation
  | [] => .install (directory.getD ".")
  | word :: words =>
      if !plain && word == "--" then readInstall verbose true directory words
      else if !plain && looksLikeOption word then
        match readFlag false verbose word with
        | .verbose => readInstall true plain directory words
        | .help => .help
        | .version => .mistake
        | .mistake => .mistake
      else if directory.isSome || word.isEmpty then .mistake
      else readInstall verbose plain (some word) words

/-! ## Reports -/

/-- The level names in the value of an option. -/
def splitNames (value : String) : List String :=
  (value.toList.splitOn ',').map String.ofList

/-- The format with this name. -/
def formatOfName? (name : String) : Option OutputFormat :=
  if name == "terminal" then some .terminal
  else if name == "overlay" then some .overlay
  else none

/-- A request with one more option.  `formatted` tells whether the format has
been given. -/
def addOption? (request : ReportRequest) (formatted : Bool) (name value : String) :
    Option (ReportRequest × Bool) :=
  if name == "format" then
    if formatted then none
    else (formatOfName? value).map fun format => ({ request with format }, true)
  else if name == "level" then
    some ({ request with levels := some (request.levels.getD [] ++ splitNames value) }, formatted)
  else if value.isEmpty then none
  else if name == "tsc" then
    some ({ request with typeScript := request.typeScript ++ [value] }, formatted)
  else if name == "vue-tsc" then
    some ({ request with vueTsc := request.vueTsc ++ [value] }, formatted)
  else if name == "eslint" then
    some ({ request with esLint := request.esLint ++ [value] }, formatted)
  else if name == "lsp" then
    some ({ request with vls := request.vls ++ [value] }, formatted)
  else none

/-- The options that take a value. -/
def valuedOptions : List String := ["tsc", "vue-tsc", "eslint", "lsp", "format", "level"]

/-- Reads the words behind `report`. -/
def readReport (verbose formatted : Bool) (request : ReportRequest) : List String → Invocation
  | [] => .report request
  | ["--"] => .report request
  | word :: words =>
      match splitLong? word with
      | some (name, some value) =>
          match addOption? request formatted name value with
          | some (request, formatted) => readReport verbose formatted request words
          | none => .mistake
      | some (name, none) =>
          if valuedOptions.contains name then
            match words with
            | [] => .mistake
            | value :: words =>
                if looksLikeOption value then .mistake
                else
                  match addOption? request formatted name value with
                  | some (request, formatted) => readReport verbose formatted request words
                  | none => .mistake
          else
            match readFlag false verbose word with
            | .verbose => readReport true formatted request words
            | .help => .help
            | .version => .mistake
            | .mistake => .mistake
      | none =>
          if looksLikeOption word && word != "--" then
            match readFlag false verbose word with
            | .verbose => readReport true formatted request words
            | .help => .help
            | .version => .mistake
            | .mistake => .mistake
          else .mistake

/-! ## The top -/

/-- Reads the words behind the name of the program. -/
def readTop (verbose : Bool) : List String → Invocation
  | [] => .mistake
  | word :: words =>
      if word == "init" then readInstall false false none words
      else if word == "report" then readReport false false {} words
      else if word == "help" then
        if words.isEmpty || words == ["init"] || words == ["report"] || words == ["help"] then .help
        else .mistake
      else if looksLikeOption word && word != "--" then
        match readFlag true verbose word with
        | .verbose => readTop true words
        | .help => .help
        | .version => .version
        | .mistake => .mistake
      else .mistake

/-- Reads the words behind the name of the program. -/
def ofWords (words : List String) : Invocation := readTop false words

/-! ## Files that an invocation looks at -/

/-- Where a configuration may be for the working directory. -/
def configPaths (workingDirectory : Place) : List String :=
  (Path.ancestors (Path.ofComponents true workingDirectory)).map fun directory =>
    Path.join directory Config.fileName

/-- The paths that an invocation names. -/
def namedPaths : Invocation → List String
  | .install directory => [Path.join directory Config.fileName]
  | .report request => request.jobs.map Job.input
  | _ => []

/-- The documents that the dumps of an invocation refer to. -/
def documentPaths (tree : FileTree) : Invocation → List String
  | .report request =>
      request.vls.flatMap fun input =>
        let dump := do Notification.dumpOfJson? (← Json.ofText? (← (tree.readText input).toOption))
        (dump.getD []).filterMap fun notification =>
          (Notification.documentPath notification.uri).toOption.map Notification.showPath
  | _ => []

/-! ## Carrying out an invocation -/

/-- What an invocation leaves behind. -/
structure Result where
  exit : Nat
  output : String := ""
  errorOutput : String := ""
  /-- The files afterwards. -/
  tree : FileTree

/-- The version of the program. -/
def versionNumber : String := "0.2.2"

/-- A short reminder of what can be asked for. -/
def helpText : String :=
  "Usage: checkframe init [PATH]\n" ++
  "       checkframe report [--tsc FILE] [--vue-tsc FILE] [--eslint FILE] [--lsp FILE]\n" ++
  "                         [--format terminal|overlay] [--level NAMES]\n"

/-- The text of an error, with its cause. -/
def errorText (message : String) (cause : Option String) : String :=
  "Error: " ++ message ++ "\n" ++
    cause.elim "" fun cause => "\nCaused by:\n    " ++ cause ++ "\n"

/-- The result of an invocation that fails. -/
def failed (tree : FileTree) (message : String) (cause : Option String) : Result :=
  { exit := 1, errorOutput := errorText message cause, tree }

/-- What is printed for a new configuration file. -/
def installedText (colors : Bool) (path : String) : String :=
  "✅ Created " ++ path ++ "\n" ++
  "\nEdit [log_level] to choose what each checker reports, then run:\n" ++
  "  " ++ Text.Style.bold.paint colors
    "checkframe report --tsc tsc.json --eslint eslint.json" ++ "\n"

/-- What is printed if there is a configuration already. -/
def presentText (directory : String) : String :=
  "⚠️  " ++ Config.fileName ++ " already exists in " ++ directory ++ "\n"

/-- Makes a configuration file. -/
def runInstall (tree : FileTree) (colors : Bool) (directory : String) : Result :=
  match Config.install tree directory with
  | .ok (some (path, tree)) => { exit := 0, output := installedText colors path, tree }
  | .ok none => { exit := 0, output := presentText directory, tree }
  | .error (path, cause) => failed tree ("write " ++ path) (some cause.message)

/-- The path of the working directory. -/
def workingPath (tree : FileTree) : String := Path.ofComponents true tree.workingDirectory

/-- The envelopes as they are printed behind the console texts. -/
def envelopesText (envelopes : List Envelope) : String :=
  (Json.array (envelopes.map Envelope.toJson)).pretty ++ "\n"

/-- Makes a report. -/
def runReport (tree : FileTree) (colors : Bool) (request : ReportRequest) : Result :=
  match Config.find tree (workingPath tree) with
  | .error error => failed tree error.message none
  | .ok config =>
      match Report.execute ⟨tree, config, colors⟩ request {} with
      | .error error => failed tree error.message none
      | .ok (writer, outcome) =>
          let envelopes :=
            if request.format == .overlay && config.overlayEnabled then
              envelopesText outcome.envelopes
            else ""
          { exit := if outcome.foundErrors then 1 else 0
            output := String.join writer.written ++ envelopes
            tree }

/-- Carries out an invocation. -/
def run (tree : FileTree) (colors : Bool) : Invocation → Result
  | .mistake => { exit := 2, errorOutput := helpText, tree }
  | .help => { exit := 0, output := helpText, tree }
  | .version => { exit := 0, output := "checkframe " ++ versionNumber ++ "\n", tree }
  | .install directory => runInstall tree colors directory
  | .report request => runReport tree colors request

end Invocation

end DiagnosticReport
