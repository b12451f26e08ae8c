/-
How the command is used: its options, its help, and the wording of arguments that it does not take.

An option is a flag, which stands alone, or a setting, which takes a value. Every setting has a long and a short name,
as have all flags but one. A complaint shows what stands in the arguments without the control sequences in it.
-/
import TokenScanner.Text.Unstyled

namespace TokenScanner.Command

/-! ## Options -/

/-- the options that stand alone -/
inductive Flag where
  /-- fail if a file holds unrecognized input -/
  | denyErrors
  /-- print no tokens -/
  | quiet
  /-- report progress -/
  | verbose
  /-- print the help and stop -/
  | help
  /-- print the version and stop -/
  | version
  deriving DecidableEq, Repr

/-- the options that take a value -/
inductive Setting where
  /-- the file of the configuration -/
  | config
  /-- the format of the output -/
  | format
  /-- the file to archive the streams in -/
  | archive
  deriving DecidableEq, Repr

/-- an option of either sort -/
inductive Switch where
  | flag (f : Flag)
  | setting (s : Setting)
  deriving DecidableEq, Repr

/-- the long name of a flag -/
def Flag.long : Flag → String
  | denyErrors => "deny-errors"
  | quiet => "quiet"
  | verbose => "verbose"
  | help => "help"
  | version => "version"

/-- the short name of a flag, if it has one -/
def Flag.short? : Flag → Option Char
  | denyErrors => none
  | quiet => some 'q'
  | verbose => some 'v'
  | help => some 'h'
  | version => some 'V'

/-- the long name of a setting -/
def Setting.long : Setting → String
  | config => "config"
  | format => "format"
  | archive => "archive"

/-- the short name of a setting -/
def Setting.short : Setting → Char
  | config => 'c'
  | format => 'f'
  | archive => 'a'

/-- what the value of a setting is called -/
def Setting.valueName : Setting → String
  | config => "<FILE>"
  | format => "<FORMAT>"
  | archive => "<FILE>"

/-- every option -/
def Switch.all : List Switch :=
  [.setting .config, .setting .format, .setting .archive, .flag .denyErrors, .flag .quiet, .flag .verbose, .flag .help,
    .flag .version]

/-- the long name of an option -/
def Switch.long : Switch → String
  | flag f => f.long
  | setting s => s.long

/-- the short name of an option, if it has one -/
def Switch.short? : Switch → Option Char
  | flag f => f.short?
  | setting s => some s.short

/-- the option of that long name -/
def Switch.ofLong? (name : List Char) : Option Switch :=
  all.find? (·.long.toList == name)

/-- the option of that short name -/
def Switch.ofShort? (name : Char) : Option Switch :=
  all.find? (·.short? == some name)

/-- an option as a complaint names it -/
def Switch.usage : Switch → String
  | flag f => s!"--{f.long}"
  | setting s => s!"--{s.long} {s.valueName}"

/-- the files as a complaint names them -/
def filesUsage : String := "<FILE>..."

/-! ## Complaints -/

/-- what is wrong with the arguments -/
inductive UsageError where
  /-- no option has that name -/
  | unexpectedArgument (name : String)
  /-- a flag has a value -/
  | unexpectedValue (value usage : String)
  /-- a value is not one of those allowed -/
  | invalidValue (value usage : String)
  /-- a value is missing or empty -/
  | missingValue (usage : String)
  /-- an option stands twice -/
  | repeated (usage : String)
  /-- there is no file -/
  | missingFiles
  deriving DecidableEq, Repr

/-- a part of an argument as a complaint shows it -/
def shown (part : String) : String :=
  String.ofList (Text.unstyled part.toList)

/-- the wording of a complaint -/
def UsageError.message : UsageError → String
  | unexpectedArgument name => s!"error: unexpected argument '{shown name}' found"
  | unexpectedValue value usage =>
    s!"error: unexpected value '{shown value}' for '{usage}' found; no more were expected"
  | invalidValue value usage => s!"error: invalid value '{shown value}' for '{usage}'"
  | missingValue usage => s!"error: a value is required for '{usage}' but none was supplied"
  | repeated usage => s!"error: the argument '{usage}' cannot be used multiple times"
  | missingFiles => "error: the following required arguments were not provided:"

/-! ## Texts -/

/-- what `--version` prints -/
def versionText : String := "steve-lex 0.1.0\n"

/-- the lines that `--help` prints -/
def helpLines : List String :=
  ["Scans steve source files and prints their tokens",
    "",
    "Usage: steve-lex [OPTIONS] <FILE>...",
    "",
    "Arguments:",
    "  <FILE>...  Source files to scan. `-` reads standard input",
    "",
    "Options:",
    "  -c, --config <FILE>    JSON lexer configuration (symbol tables, classifiers, recovery policy)",
    "  -f, --format <FORMAT>  [default: text] [possible values: text, json]",
    "  -a, --archive <FILE>   Also write the token streams as a validated rkyv archive",
    "      --deny-errors      Exit with an error if any input produced ERROR tokens",
    "  -q, --quiet            Do not print tokens",
    "  -v, --verbose          Report progress on stderr",
    "  -h, --help             Print help",
    "  -V, --version          Print version"]

/-- what `--help` prints -/
def helpText : String :=
  String.join (helpLines.map (· ++ "\n"))

end TokenScanner.Command
