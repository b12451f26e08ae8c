/-
What a run meets outside: the files, the standard input and the library that makes archives.

A world tells what reading a path gives, and whether a path can be written. What is at a path after a writing that
failed is not told: it may be a part of what was to be written. `Directory` is a world of one directory of plain files,
where a path is followed name by name. The directories above it are there too, but nothing is known to be in them: what
is looked for there is not found, and what is written there is not seen again.

- `Directory.read_write`: what was written to a file is what reading it gives.
-/
import TokenScanner.Archiver

namespace TokenScanner.Command

/-- why a file cannot be read or written -/
inductive FileError where
  | notFound
  | notDirectory
  | isDirectory
  /-- a name or the path is longer than the system takes -/
  | nameTooLong
  /-- the bytes are not UTF-8 -/
  | notText
  /-- any other reason, in the words of the system -/
  | other (message : String)
  deriving DecidableEq, Repr

/-- the wording of a reason -/
def FileError.message : FileError → String
  | notFound => "No such file or directory (os error 2)"
  | notDirectory => "Not a directory (os error 20)"
  | isDirectory => "Is a directory (os error 21)"
  | nameTooLong => "File name too long (os error 36)"
  | notText => "stream did not contain valid UTF-8"
  | other message => message

/-- the files, the standard input and the archiver -/
structure World where
  /-- the bytes at a path -/
  read : String → Except FileError ByteArray
  /-- why a path cannot be written, if it cannot -/
  refusal : String → Option FileError
  /-- the bytes of the standard input, or why it cannot be read -/
  input : Except FileError ByteArray
  /-- the library that makes archives -/
  archiver : Archiver

/-- the characters that bytes hold -/
def textOfBytes (bytes : ByteArray) : Except FileError (List Char) :=
  match String.fromUTF8? bytes with
  | some text => .ok text.toList
  | none => .error .notText

/-! ## A directory -/

/-- the files of a directory, by name -/
abbrev Directory := List (String × ByteArray)

/-- the most bytes in a name -/
def maxNameSize : Nat := 255

/-- the most bytes in a path -/
def maxPathSize : Nat := 4095

namespace Directory

/-- where a path leads -/
inductive Place where
  /-- to a directory -/
  | directory
  /-- to a name in the directory, or in one above it; `slash` tells that it is written as the name of a directory -/
  | name (inside slash : Bool) (name : String)
  deriving DecidableEq, Repr

/-- the bytes of the file of that name -/
def file? (d : Directory) (name : String) : Option ByteArray :=
  (d.find? (·.1 == name)).map (·.2)

/-- why nothing is found under a name that is not of a directory -/
def dead (d : Directory) (inside : Bool) (name : String) : FileError :=
  if maxNameSize < name.utf8ByteSize then .nameTooLong
  else if inside && (d.file? name).isSome then .notDirectory
  else .notFound

/-- where some names lead from the directory, or from one above it -/
def follow (d : Directory) (slash : Bool) : Bool → List String → Except FileError Place
  | _, [] => .ok .directory
  | inside, name :: rest =>
    if name = "." then follow d slash inside rest
    else if name = ".." then follow d slash false rest
    else if rest.isEmpty then .ok (.name inside slash name)
    else .error (d.dead inside name)

/-- where a path leads -/
def place (d : Directory) (path : String) : Except FileError Place :=
  let parts := path.splitOn "/"
  if maxPathSize < path.utf8ByteSize then .error .nameTooLong
  else if path.isEmpty then .error .notFound
  else d.follow (parts.getLast? == some "") (parts.head? != some "") (parts.filter (· != ""))

/-- what reading a path gives -/
def read (d : Directory) (path : String) : Except FileError ByteArray := do
  match ← d.place path with
  | .directory => throw .isDirectory
  | .name inside slash name =>
    match if inside && !slash then d.file? name else none with
    | some bytes => return bytes
    | none => throw (d.dead inside name)

/-- why a path cannot be written, if it cannot -/
def refusal (d : Directory) (path : String) : Option FileError :=
  match d.place path with
  | .error cause => some cause
  | .ok .directory => some .isDirectory
  | .ok (.name _ slash name) =>
    if slash then some .isDirectory
    else if maxNameSize < name.utf8ByteSize then some .nameTooLong
    else none

/-- the world of a directory, the bytes of a standard input and an archiver -/
def world (d : Directory) (input : ByteArray) (archiver : Archiver) : World :=
  ⟨d.read, d.refusal, .ok input, archiver⟩

/-- the directory after the file that a path leads to was written -/
def write (d : Directory) (path : String) (bytes : ByteArray) : Directory :=
  match d.place path with
  | .ok (.name true false name) => (name, bytes) :: d.filter (·.1 != name)
  | _ => d

theorem follow_eq_ok {d : Directory} (e : Directory) {slash inside : Bool} {names : List String} {p : Place}
    (h : d.follow slash inside names = .ok p) : e.follow slash inside names = .ok p := by
  induction names generalizing inside with
  | nil => exact h
  | cons name rest ih =>
    simp only [follow] at h ⊢
    split at h
    · rw [if_pos ‹_›]
      exact ih h
    rw [if_neg ‹_›]
    split at h
    · rw [if_pos ‹_›]
      exact ih h
    rw [if_neg ‹_›]
    split at h
    · rw [if_pos ‹_›]
      exact h
    · simp at h

/-- where a path leads to is the same in every directory -/
theorem place_eq_ok {d : Directory} (e : Directory) {path : String} {p : Place} (h : d.place path = .ok p) :
    e.place path = .ok p := by
  unfold place at h ⊢
  split at h
  · simp at h
  rw [if_neg ‹_›]
  split at h
  · simp at h
  rw [if_neg ‹_›]
  exact follow_eq_ok e h

/-- what was written to a file of the directory is what reading it gives -/
theorem read_write {d : Directory} {path name : String} (h : d.place path = .ok (.name true false name))
    (bytes : ByteArray) : (d.write path bytes).read path = .ok bytes := by
  have hwrite : d.write path bytes = (name, bytes) :: d.filter (·.1 != name) := by simp [write, h]
  have hplace := place_eq_ok (d.write path bytes) h
  have hfile : (d.write path bytes).file? name = some bytes := by
    rw [hwrite]
    simp [file?]
  simp only [read, hplace, bind, Except.bind, Bool.not_false, Bool.and_self, if_true, hfile]
  rfl

end Directory

end TokenScanner.Command
