/-
The command line: reads the files that the arguments name, asks what the run makes of them, and prints and writes that.
-/
import TokenScanner.Archiver.Plain
import TokenScanner.Command.Run

namespace TokenScanner.Command

/-- the reason that a code of the system stands for; some of its calls answer with the code below 0 -/
def FileError.ofCode (code : UInt32) (message : String) : FileError :=
  match if code < 0x80000000 then code else -code with
  | 2 => notFound
  | 20 => notDirectory
  | 21 => isDirectory
  | 36 => nameTooLong
  | _ => other message

/-- the reason of a failed reading or writing -/
def FileError.ofSystem (e : IO.Error) : FileError :=
  match e with
  | .noFileOrDirectory _ _ _ => notFound
  | .inappropriateType _ code _ => ofCode code (toString e)
  | .invalidArgument _ code _ => ofCode code (toString e)
  | _ => other (toString e)

/-- what an action gives, or the reason why it fails -/
def attempt {α : Type} (action : IO α) : IO (Except FileError α) := do
  try return .ok (← action) catch e => return .error (.ofSystem e)

/-- the bytes up to the end of a stream -/
partial def readToEnd (stream : IO.FS.Stream) (bytes : ByteArray) : IO ByteArray := do
  let more ← stream.read 65536
  if more.isEmpty then return bytes else readToEnd stream (bytes ++ more)

/-- the world as far as the options reach into it; every path is taken to be writable -/
def observe (o : Options) : IO World := do
  let paths := o.config.toList ++ o.files.filter (· != inputPath)
  let found ← paths.mapM fun (path : String) => do return (path, ← attempt (IO.FS.readBinFile path))
  let input ← if o.files.contains inputPath then attempt do readToEnd (← IO.getStdin) .empty else pure (.ok .empty)
  return ⟨fun path => (found.lookup path).getD (.error .notFound), fun _ => none, input, .plain⟩

/-- the world that an invocation reaches into -/
def observeFor : Invocation → IO World
  | .run o => observe o
  | _ => return ⟨fun _ => .error .notFound, fun _ => none, .ok .empty, .plain⟩

end TokenScanner.Command

open TokenScanner.Command in
def main (arguments : List String) : IO UInt32 := do
  let invocation := Invocation.ofArguments arguments
  let world ← observeFor invocation
  let response := respond world invocation
  IO.print response.stdout
  (← IO.getStdout).flush
  let response ← match response.archive with
    | none => pure response
    | some (path, bytes) =>
      match ← attempt (IO.FS.writeBinFile path ⟨bytes.toArray⟩) with
      | .ok () => pure response
      | .error cause => pure (respond { world with refusal := fun _ => some cause } invocation)
  IO.eprint response.stderr
  return UInt32.ofNat response.exit
