/-
The written form of a set of patterns.

A set is written as the names of its patterns in order, then its unassigned bits in hexadecimal after `0x`, with ` | `
between them; the empty set is the empty text. Reading takes more: the parts may come in any order and more than once,
with white space around them, any part may be a hexadecimal number, and `QUOTES` names both kinds of quoted literal. The
first part that is none of these refuses the text.

- `FlagError.message`: the wording of a refusal.
-/
import TokenScanner.PatternSet
import TokenScanner.Text.Hexadecimal
import TokenScanner.Text.WhiteSpace

namespace TokenScanner

/-- why a text is not a set of patterns -/
inductive FlagError where
  /-- nothing stands before, between or after the separators -/
  | emptyPart
  /-- what follows `0x` is not a hexadecimal number of eight bits -/
  | badHex
  /-- the part is not a name -/
  | unknownName
  deriving DecidableEq, Repr

/-- the wording of a refusal -/
def FlagError.message : FlagError → String
  | emptyPart => "encountered empty flag"
  | badHex => "invalid hex flag"
  | unknownName => "unrecognized named flag"

/-- the name of a pattern in the written form of a set -/
def Pattern.flagName : Pattern → List Char
  | digits => "DIGITS".toList
  | ident => "IDENT".toList
  | newline => "NEWLINE".toList
  | singleQuoted => "SQUOTE".toList
  | doubleQuoted => "DQUOTE".toList

namespace PatternSet

/-! ## Reading -/

/-- the byte that hexadecimal digits write, a plus sign before them being allowed -/
def hexByte? (text : List Char) : Option UInt8 := do
  let digits := match text with
    | '+' :: rest => rest
    | _ => text
  if digits.isEmpty then none
  let n ← Text.hexNumber? digits
  if n < UInt8.size then some (UInt8.ofNat n) else none

/-- the set with that name -/
def ofName? (name : List Char) : Option PatternSet :=
  if name = "QUOTES".toList then some quotes
  else (Pattern.all.find? (·.flagName == name)).map single

/-- the set that one part of a text stands for -/
def ofPart? (part : List Char) : Except FlagError PatternSet :=
  match part with
  | [] => .error .emptyPart
  | '0' :: 'x' :: digits =>
    match hexByte? digits with
    | some bits => .ok ⟨bits⟩
    | none => .error .badHex
  | name =>
    match ofName? name with
    | some set => .ok set
    | none => .error .unknownName

/-- the set that a text stands for -/
def ofText? (text : List Char) : Except FlagError PatternSet :=
  match Text.trim text with
  | [] => .ok empty
  | trimmed => (Text.splitOn '|' trimmed).foldlM (fun set part => (ofPart? (Text.trim part)).map set.union) empty

/-! ## Writing -/

/-- the parts of the written form -/
def parts (set : PatternSet) : List (List Char) :=
  set.patterns.map Pattern.flagName ++
    if set.unassigned = 0 then [] else ['0' :: 'x' :: Nat.toDigits 16 set.unassigned.toNat]

/-- the written form -/
def text (set : PatternSet) : List Char :=
  List.intercalate " | ".toList set.parts

/-- a set as it is shown to a programmer, where the empty set is a number too -/
def shown (set : PatternSet) : String :=
  let inside := if set.isEmpty then "0x0" else String.ofList set.text
  s!"ClassifierSet({inside})"

end PatternSet

end TokenScanner
