/-
Reading values of a certain sort from JSON.

A decoder takes a tree to a value or a fault, and walks along the tree from left to right, so the first fault of a text
is the one reported. `Shape` is for records: values that are written as an object of named fields, or as a list of the
fields in order. The fields that were read so far are a draft, and the draft is completed at the end.
-/
import TokenScanner.Json.Fault

namespace TokenScanner.Json

/-- what takes a tree to a value or a fault -/
abbrev Decoder (α : Type) : Type := Tree → Except Fault α

/-- the fault of a tree of another sort -/
def mismatch {α : Type} (t : Tree) (expected : String) : Except Fault α :=
  .error (.ofTree t expected)

/-! ## Plain values -/

/-- a string; `expected` is what it is asked for as -/
def readStringAs (expected : String) : Decoder (List Char)
  | .string (.ok text) => .ok text
  | t => mismatch t expected

/-- a string -/
def readString : Decoder String :=
  fun t => (readStringAs "a string" t).map String.ofList

/-- a whole number in a word of 32 bits -/
def readWord : Decoder UInt32
  | .number n =>
    match n.value? with
    | none => .error (.malformed .numberTooLarge)
    | some (.natural n) =>
      if n.toNat < UInt32.size then .ok (UInt32.ofNat n.toNat) else .error (.wrongValue n.toNat "u32")
    | some (.negative n) => .error (.wrongValue (-(n : Int)) "u32")
    | some (.real x) => .error (.wrongType (.real (realText x)) "u32")
  | t => mismatch t "u32"

/-- nothing -/
def readNull : Decoder Unit
  | .null => .ok ()
  | t => mismatch t "unit"

/-- a list of values -/
def readList {α : Type} (item : Decoder α) : Decoder (List α)
  | .array items => items.mapM item
  | t => mismatch t "a sequence"

/-- one of some words, as a string or as the only key of an object with nothing under it -/
def readWordOf {α : Type} (words : List (String × α)) : Decoder α :=
  let find := fun (word : List Char) =>
    match words.find? (·.1.toList == word) with
    | some (_, a) => Except.ok a
    | none => .error (.unknownWord (String.ofList word) (words.map (·.1)))
  fun
    | .string (.ok word) => find word
    | .object (.field (.ok word) value :: rest) => do
      let a ← find word
      readNull value
      match rest with
      | [] => return a
      | .stray .endInObject :: _ => throw (.malformed .endInObject)
      | _ => throw (.malformed .noValue)
    | .object (.field (.error flaw) _ :: _) => .error (.malformed flaw)
    | .object (.stray flaw :: _) => .error (.malformed flaw)
    | .object [] => .error (.malformed .keyNotString)
    | .string (.error flaw) => .error (.malformed flaw)
    | .broken flaw => .error (.malformed flaw)
    | _ => .error (.malformed .noValue)

/-! ## Records -/

/-- a field of a record whose draft is a `δ` -/
structure Slot (δ : Type) where
  name : String
  /-- the draft has the field -/
  filled : δ → Bool
  /-- the draft with the field read from a tree -/
  fill : Tree → δ → Except Fault δ

/-- the field that a draft keeps in an `Option` -/
def Slot.of {α δ : Type} (name : String) (get : δ → Option α) (set : α → δ → δ) (read : Decoder α) : Slot δ :=
  ⟨name, fun d => (get d).isSome, fun t d => (read t).map fun a => set a d⟩

/-- how records are written -/
structure Shape (δ α : Type) where
  /-- what a record is called in a fault -/
  what : String
  /-- the fields, in order -/
  slots : List (Slot δ)
  /-- fields of other names are refused, not skipped -/
  strict : Bool
  /-- the draft without fields -/
  start : δ
  /-- the record of a draft, or the name of a field that it lacks -/
  complete : δ → Except String α

namespace Shape

variable {δ α : Type}

/-- the draft after the members of an object -/
def readMembers (s : Shape δ α) (d : δ) : List Member → Except Fault δ
  | [] => .ok d
  | .field (.ok key) value :: rest =>
    match s.slots.find? (·.name.toList == key) with
    | some slot =>
      if slot.filled d then .error (.duplicateField slot.name)
      else do s.readMembers (← slot.fill value d) rest
    | none =>
      if s.strict then .error (.unknownField (String.ofList key) (s.slots.map Slot.name))
      else
        match value.flaw? with
        | none => s.readMembers d rest
        | some flaw => .error (.malformed flaw)
  | .field (.error flaw) _ :: _ => .error (.malformed flaw)
  | .stray flaw :: _ => .error (.malformed flaw)

/-- the flaw of an item that stands after those of all fields -/
def surplus : Tree → Flaw
  | .broken .endInList => .endInList
  | .broken .trailingComma => .trailingComma
  | _ => .trailingText

/-- the draft after the items of a list -/
def readItems (d : δ) : List (Slot δ) → List Tree → Except Fault δ
  | _, [] => .ok d
  | [], item :: _ => .error (.malformed (surplus item))
  | slot :: slots, item :: rest => do readItems (← slot.fill item d) slots rest

/-- a record -/
def read (s : Shape δ α) : Decoder α
  | .object members => do
    match s.complete (← s.readMembers s.start members) with
    | .ok a => return a
    | .error name => throw (.missingField name)
  | .array items => do
    match s.complete (← readItems s.start s.slots items) with
    | .ok a => return a
    | .error _ => throw (.wrongLength items.length s!"{s.what} with {s.slots.length} elements")
  | t => mismatch t s.what

end Shape

/-! ## Texts -/

/-- a value from a text that holds nothing else -/
def ofText {α : Type} (read : Decoder α) (text : List Char) : Except Fault α := do
  let (tree, rest) := Tree.ofPieces (Piece.ofText text)
  let a ← read tree
  if rest.isEmpty then return a else throw (.malformed .trailingText)

end TokenScanner.Json
