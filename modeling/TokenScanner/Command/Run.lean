/-
A run of the command.

A run reads the configuration, then every input in order, and stops at the first that cannot be read, before anything is
printed. Then it reports what was not recognized, prints the tokens, and writes the archive, where it stops if the
streams are not serialized, if the bytes are not valid or if the path cannot be written (`writeArchive`). It fails at
the end if it was asked to deny errors and there are some. What it prints on the standard error is a list of notices
(`Notice`), and `Outcome` holds all that a run leaves behind.
-/
import TokenScanner.Command.Options
import TokenScanner.Command.World
import TokenScanner.Config.Json
import TokenScanner.Diagnostic
import TokenScanner.Scan
import TokenScanner.Token.Display
import TokenScanner.Token.Json

namespace TokenScanner.Command

/-! ## Notices -/

/-- why a run fails -/
inductive Failure where
  /-- the configuration cannot be read -/
  | configUnreadable (path : String) (cause : FileError)
  /-- the configuration is not one -/
  | configMalformed (path : String) (cause : Json.Fault)
  /-- the names of the configuration do not make tables -/
  | configInvalid (cause : SymbolError)
  /-- the standard input cannot be read -/
  | inputUnreadable (cause : FileError)
  /-- a file cannot be read -/
  | fileUnreadable (path : String) (cause : FileError)
  /-- the streams cannot be serialized -/
  | archiveUnserialized (cause : String)
  /-- the bytes of the archive are not valid -/
  | archiveInvalid (cause : String)
  /-- the archive cannot be written -/
  | archiveUnwritable (path : String) (cause : FileError)
  /-- there is unrecognized input, which was to be denied -/
  | errorsDenied (count : Nat)
  deriving DecidableEq, Repr

/-- what failed -/
def Failure.context : Failure → String
  | configUnreadable path _ => s!"failed to read configuration {path}"
  | configMalformed path _ => s!"failed to parse configuration {path}"
  | configInvalid _ => "invalid lexer configuration"
  | inputUnreadable _ => "failed to read standard input"
  | fileUnreadable path _ => s!"failed to read {path}"
  | archiveUnserialized cause => s!"failed to archive token streams: {cause}"
  | archiveInvalid cause => s!"archive failed validation: {cause}"
  | archiveUnwritable path _ => s!"failed to write {path}"
  | errorsDenied count => s!"{count} lexical error(s)"

/-- why it failed, if that is more to say -/
def Failure.cause? : Failure → Option String
  | configUnreadable _ cause => some cause.message
  | configMalformed _ cause => some cause.message
  | configInvalid cause => some cause.message
  | inputUnreadable cause => some cause.message
  | fileUnreadable _ cause => some cause.message
  | archiveUnserialized _ => none
  | archiveInvalid _ => none
  | archiveUnwritable _ cause => some cause.message
  | errorsDenied _ => none

/-- a text with four spaces at the start of each line -/
def indented (text : String) : List Char :=
  List.replicate 4 ' ' ++ text.toList.flatMap fun c => if c = '\n' then c :: List.replicate 4 ' ' else [c]

/-- a failure as it is printed, without the last line break -/
def Failure.text (f : Failure) : String :=
  let cause := match f.cause? with
    | none => ""
    | some cause => "\n\nCaused by:\n" ++ String.ofList (indented cause)
  s!"Error: {f.context}{cause}"

/-- how grave a diagnostic is -/
inductive Level where
  | warning
  | error
  deriving DecidableEq, Repr

/-- the word for a level -/
def Level.word : Level → String
  | warning => "warning"
  | error => "error"

/-- what a run says on the standard error -/
inductive Notice where
  /-- the configuration is about to be read -/
  | configReading (path : String)
  /-- an input has been scanned -/
  | scanned (name : String) (bytes tokens : Nat)
  /-- a token was not recognized -/
  | found (level : Level) (d : Diagnostic)
  /-- the archive is written -/
  | archived (path : String)
  /-- the run fails -/
  | failed (f : Failure)
  deriving DecidableEq, Repr

/-- the notice is one of those that only a verbose run gives -/
def Notice.isProgress : Notice → Bool
  | configReading _ => true
  | scanned .. => true
  | archived _ => true
  | _ => false

/-- a path between double quotes -/
def quotedPath (path : String) : String :=
  String.ofList (Text.quote path.toList)

/-- a notice as it is printed, without the last line break -/
def Notice.text : Notice → String
  | configReading path => s!"Reading lexer configuration from {quotedPath path}..."
  | scanned name bytes tokens => s!"Scanned {name} ({bytes} bytes) into {tokens} tokens"
  | found level d => s!"{level.word}: {d.text}"
  | archived path => s!"Archive written to {quotedPath path}"
  | failed f => f.text

/-! ## Inputs -/

/-- an input and the name its tokens carry -/
structure Source where
  name : String
  text : List Char
  deriving DecidableEq, Repr

/-- the path that stands for the standard input -/
def inputPath : String := "-"

/-- the name of the standard input -/
def inputName : String := "<stdin>"

/-- the input at a path; `input` is what is left of the standard input -/
def readSource (w : World) (input : Except FileError ByteArray) (path : String) : Except Failure Source :=
  if path = inputPath then
    match input >>= textOfBytes with
    | .ok text => .ok ⟨inputName, text⟩
    | .error cause => .error (.inputUnreadable cause)
  else
    match w.read path >>= textOfBytes with
    | .ok text => .ok ⟨path, text⟩
    | .error cause => .error (.fileUnreadable path cause)

/-- the inputs up to the first that cannot be read, and the failure of that one; the standard input is read once -/
def readSources (w : World) (input : Except FileError ByteArray) : List String → List Source × Option Failure
  | [] => ([], none)
  | path :: rest =>
    match readSource w input path with
    | .error f => ([], some f)
    | .ok source =>
      let (sources, failure) := readSources w (if path = inputPath then .ok .empty else input) rest
      (source :: sources, failure)

/-- the lexer of a configuration file, or the standard one -/
def readLexer (w : World) : Option String → Except Failure Lexer
  | none => .ok .standard
  | some path =>
    match w.read path >>= textOfBytes with
    | .error cause => .error (.configUnreadable path cause)
    | .ok text =>
      match Config.ofJson? text with
      | .error cause => .error (.configMalformed path cause)
      | .ok config => (Lexer.ofConfig? config).mapError .configInvalid

/-! ## Output -/

/-- the tokens of the streams as text, each on a line -/
def textReport (streams : List TokenStream) : String :=
  String.join ((streams.flatMap TokenStream.tokens).map fun t => t.text ++ "\n")

/-- a diagnostic in a JSON report -/
def diagnosticJson (d : Diagnostic) : Json.Value :=
  .object [.mk "file" (.string d.file), .mk "line" (.natural d.line.toNat), .mk "column" (.natural d.column.toNat),
    .mk "message" (.string d.message)]

/-- the streams and their diagnostics -/
def reportJson (streams : List TokenStream) : Json.Value :=
  .object [.mk "streams" (.array (streams.map TokenStream.json)),
    .mk "diagnostics" (.array ((streams.flatMap diagnose).map diagnosticJson))]

/-- the streams and their diagnostics as a JSON text -/
def jsonReport (streams : List TokenStream) : String :=
  String.ofList ((reportJson streams).text ++ ['\n'])

/-- what is printed in a format -/
def report : Format → List TokenStream → String
  | .text => textReport
  | .json => jsonReport

/-! ## Runs -/

/-- what a run leaves behind -/
structure Outcome where
  exit : Nat
  /-- the standard output -/
  stdout : String
  /-- the standard error, notice by notice -/
  notices : List Notice
  /-- the path and the bytes of the archive, if it is written to its end -/
  archive : Option (String × List UInt8)
  deriving DecidableEq, Repr

/-- the standard error -/
def Outcome.stderr (o : Outcome) : String :=
  String.join (o.notices.map fun n => n.text ++ "\n")

/-- the notices of a verbose run -/
def progress (o : Options) (notices : List Notice) : List Notice :=
  if o.verbose then notices else []

/-- how grave unrecognized input is -/
def Options.level (o : Options) : Level :=
  if o.denyErrors then .error else .warning

/-- the notice of a scanned input -/
def scannedNotice (source : Source) (stream : TokenStream) : Notice :=
  .scanned source.name (Text.byteWidth source.text) stream.tokens.length

/-- the outcome of a run that failed before its output -/
def Outcome.failure (notices : List Notice) (f : Failure) : Outcome :=
  ⟨1, "", notices ++ [.failed f], none⟩

/-- the bytes written as the archive of the streams, or why it cannot be written -/
def writeArchive (w : World) (path : String) (streams : List TokenStream) : Except Failure (List UInt8) :=
  match w.archiver.serialize streams with
  | .error cause => .error (.archiveUnserialized cause)
  | .ok bytes =>
    match w.archiver.validate bytes with
    | .error cause => .error (.archiveInvalid cause)
    | .ok () =>
      match w.refusal path with
      | some cause => .error (.archiveUnwritable path cause)
      | none => .ok bytes

/-- the rest of a run, after all inputs are scanned -/
def conclude (o : Options) (w : World) (notices : List Notice) (streams : List TokenStream) : Outcome :=
  let diagnostics := streams.flatMap diagnose
  let notices := notices ++ diagnostics.map (.found o.level)
  let stdout := if o.quiet then "" else report o.format streams
  let denied := if o.denyErrors && !diagnostics.isEmpty then [Notice.failed (.errorsDenied diagnostics.length)] else []
  let exit := if denied.isEmpty then 0 else 1
  match o.archive with
  | none => ⟨exit, stdout, notices ++ denied, none⟩
  | some path =>
    match writeArchive w path streams with
    | .error f => ⟨1, stdout, notices ++ [.failed f], none⟩
    | .ok bytes => ⟨exit, stdout, notices ++ progress o [.archived path] ++ denied, some (path, bytes)⟩

/-- a run -/
def run (o : Options) (w : World) : Outcome :=
  let reading := progress o (o.config.toList.map .configReading)
  match readLexer w o.config with
  | .error f => .failure reading f
  | .ok lexer =>
    let (sources, failure) := readSources w w.input o.files
    let streams := sources.map fun source => lexer.lex source.name source.text
    let notices := reading ++ progress o (sources.zipWith scannedNotice streams)
    match failure with
    | some f => .failure notices f
    | none => conclude o w notices streams

/-! ## Invocations -/

/-- what the command prints and how it ends -/
structure Response where
  exit : Nat
  stdout : String
  stderr : String
  /-- the path and the bytes of the archive, if it is written to its end -/
  archive : Option (String × List UInt8)
  deriving DecidableEq, Repr

/-- what the command does when it is invoked -/
def respond (w : World) : Invocation → Response
  | .run o =>
    let outcome := run o w
    ⟨outcome.exit, outcome.stdout, outcome.stderr, outcome.archive⟩
  | .help => ⟨0, helpText, "", none⟩
  | .version => ⟨0, versionText, "", none⟩
  | .misuse e => ⟨2, "", e.message ++ "\n", none⟩

end TokenScanner.Command
