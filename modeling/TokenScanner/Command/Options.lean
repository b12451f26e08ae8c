/-
The options of a run, read from the arguments of the command.

Arguments are read from left to right. An option's value may follow as an argument of its own, and is then held back
with the files until the next option, where it is checked; so an argument that is no option at all is reported before
a bad value to its left. `--help` and `--version` end the reading where they stand. After `--` all arguments are files.

Arguments, and paths among them, are texts: a path whose bytes are not UTF-8, which a system may have and which is shown
with replacements for what is not text, is not an argument here.
-/
import TokenScanner.Command.Usage

namespace TokenScanner.Command

/-- how tokens are printed -/
inductive Format where
  | text
  | json
  deriving DecidableEq, Repr

/-- the format of that name -/
def Format.ofName? : String → Option Format
  | "text" => some text
  | "json" => some json
  | _ => none

/-- what a run is asked to do -/
structure Options where
  files : List String
  config : Option String
  format : Format
  archive : Option String
  denyErrors : Bool
  quiet : Bool
  verbose : Bool
  deriving DecidableEq, Repr

/-- what the arguments ask for -/
inductive Invocation where
  | run (options : Options)
  | help
  | version
  | misuse (error : UsageError)
  deriving DecidableEq, Repr

/-- what is held back until the next option -/
inductive Pending where
  | nothing
  /-- a setting whose value is to come -/
  | awaiting (s : Setting)
  /-- a setting with its value -/
  | value (s : Setting) (text : String)
  /-- files, the last first -/
  | files (paths : List String)
  deriving DecidableEq, Repr

/-- the arguments as far as they were read -/
structure Progress where
  files : List String
  config : Option String
  format : Option Format
  archive : Option String
  flags : List Flag
  pending : Pending
  /-- `--` has been read -/
  filesOnly : Bool
  deriving DecidableEq, Repr

namespace Progress

/-- nothing read yet -/
def start : Progress :=
  ⟨[], none, none, none, [], .nothing, false⟩

/-- the setting has its value -/
def has (p : Progress) : Setting → Bool
  | .config => p.config.isSome
  | .format => p.format.isSome
  | .archive => p.archive.isSome

/-- the setting with a value, which is checked -/
def set (p : Progress) (s : Setting) (text : String) : Except Invocation Progress :=
  if p.has s then .error (.misuse (.repeated (Switch.setting s).usage))
  else if text.isEmpty then .error (.misuse (.missingValue (Switch.setting s).usage))
  else
    match s with
    | .config => .ok { p with config := some text }
    | .archive => .ok { p with archive := some text }
    | .format =>
      match Format.ofName? text with
      | some format => .ok { p with format := some format }
      | none => .error (.misuse (.invalidValue text (Switch.setting s).usage))

/-- nothing is held back any more -/
def settle (p : Progress) : Except Invocation Progress :=
  let free := { p with pending := .nothing }
  match p.pending with
  | .nothing => .ok p
  | .awaiting s => .error (.misuse (.missingValue (Switch.setting s).usage))
  | .value s text => free.set s text
  | .files paths =>
    if paths.any String.isEmpty then .error (.misuse (.missingValue filesUsage))
    else .ok { free with files := p.files ++ paths.reverse }

/-- the flag is met -/
def meet (p : Progress) (f : Flag) : Except Invocation Progress := do
  let p ← p.settle
  match f with
  | .help => throw .help
  | .version => throw .version
  | _ =>
    if f ∈ p.flags then throw (.misuse (.repeated (Switch.flag f).usage))
    else return { p with flags := f :: p.flags }

/-- the setting is met, perhaps with a value attached -/
def meetSetting (p : Progress) (s : Setting) (attached : Option String) : Except Invocation Progress := do
  let p ← p.settle
  match attached with
  | some text => p.set s text
  | none => return { p with pending := .awaiting s }

/-- the file is met -/
def meetFile (p : Progress) (path : String) : Except Invocation Progress :=
  match p.pending with
  | .files paths => .ok { p with pending := .files (path :: paths) }
  | _ => do
    let p ← p.settle
    return { p with pending := .files [path] }

/-- the characters after a single dash -/
def meetShort (p : Progress) : List Char → Except Invocation Progress
  | [] => .ok p
  | c :: rest =>
    match Switch.ofShort? c with
    | none => .error (.misuse (.unexpectedArgument (String.ofList ['-', c])))
    | some (.flag f) => do (← p.meet f).meetShort rest
    | some (.setting s) =>
      match rest with
      | [] => p.meetSetting s none
      | '=' :: text => p.meetSetting s (some (String.ofList text))
      | text => p.meetSetting s (some (String.ofList text))

/-- the characters after two dashes, parted at the first `=` -/
def meetLong (p : Progress) (name : List Char) (attached : Option String) : Except Invocation Progress :=
  match Switch.ofLong? name, attached with
  | none, _ => .error (.misuse (.unexpectedArgument (String.ofList ('-' :: '-' :: name))))
  | some (.flag f), none => p.meet f
  | some (.flag f), some value => .error (.misuse (.unexpectedValue value (Switch.flag f).usage))
  | some (.setting s), _ => p.meetSetting s attached

/-- the argument is neither an option nor after `--` -/
def meetPlain (p : Progress) (text : String) : Except Invocation Progress :=
  match p.pending with
  | .awaiting s => .ok { p with pending := .value s text }
  | _ => p.meetFile text

/-- one argument more -/
def step (p : Progress) (argument : String) : Except Invocation Progress :=
  if p.filesOnly then p.meetFile argument
  else
    match argument.toList with
    | ['-', '-'] => .ok { p with filesOnly := true }
    | '-' :: '-' :: text =>
      match text.dropWhile (· != '=') with
      | '=' :: value => p.meetLong (text.takeWhile (· != '=')) (some (String.ofList value))
      | _ => p.meetLong text none
    | '-' :: c :: rest => p.meetShort (c :: rest)
    | _ => p.meetPlain argument

/-- the options, when no argument is left -/
def finish (p : Progress) : Except Invocation Options := do
  let p ← p.settle
  if p.files.isEmpty then throw (.misuse .missingFiles)
  return {
    files := p.files
    config := p.config
    format := p.format.getD .text
    archive := p.archive
    denyErrors := p.flags.contains .denyErrors
    quiet := p.flags.contains .quiet
    verbose := p.flags.contains .verbose }

end Progress

/-- what the arguments ask for -/
def Invocation.ofArguments (arguments : List String) : Invocation :=
  match arguments.foldlM Progress.step .start >>= Progress.finish with
  | .ok options => .run options
  | .error invocation => invocation

end TokenScanner.Command
