/-
What is wrong with a JSON text.

A text has a flaw that keeps it from being JSON, or it is JSON as far as it was read but does not fit what was asked
for. A fault of the second sort names what was found and what was expected; `Fault.message` is the wording of a fault.
Where in the text it was found is not kept: the words `at line .. column ..` that a reader puts behind the wording are
left out.

A floating-point number is shown by the fewest digits that read back: with a point between 10^-5 and 10^16, and else
with the point after the first digit and an exponent that always has its sign.
-/
import TokenScanner.Json.Tree
import TokenScanner.PatternSet.Text
import TokenScanner.Text.Escape

namespace TokenScanner.Json

/-! ## Floating-point numbers -/

/-- an exponent as it is shown, with its sign -/
def exponentText (e : Int) : List Char :=
  (if e < 0 then '-' else '+') :: Nat.toDigits 10 e.natAbs

/-- a decimal as it is shown -/
def decimalText (d : Decimal) : List Char :=
  let digits := Nat.toDigits 10 d.digits
  let width : Int := digits.length
  let point : Int := width + d.exponent
  if 0 ≤ d.exponent ∧ point ≤ 16 then digits ++ List.replicate d.exponent.toNat '0' ++ ['.', '0']
  else if 0 < point ∧ point ≤ 16 then digits.take point.toNat ++ ['.'] ++ digits.drop point.toNat
  else if -5 < point ∧ point ≤ 0 then ['0', '.'] ++ List.replicate (-point).toNat '0' ++ digits
  else
    let mantissa := match digits with
      | first :: second :: rest => first :: '.' :: second :: rest
      | _ => digits
    mantissa ++ 'e' :: exponentText (point - 1)

/-- a finite floating-point number as it is shown -/
def realText (x : Float) : List Char :=
  let sign := if x.toBits >>> 63 = 1 then ['-'] else []
  if x == 0 then sign ++ ['0', '.', '0'] else sign ++ decimalText (.shortest x)

/-! ## Faults -/

/-- what was found in the place of something else -/
inductive Found where
  | null
  | bool (b : Bool)
  | integer (n : Int)
  | real (shown : List Char)
  | string (text : List Char)
  | sequence
  | map
  deriving DecidableEq, Repr

/-- what was found, in words -/
def Found.text : Found → String
  | null => "null"
  | bool b => s!"boolean `{b}`"
  | integer n => s!"integer `{n}`"
  | real shown => "floating point `" ++ String.ofList shown ++ "`"
  | string text => "string " ++ String.ofList (Text.quote text)
  | sequence => "sequence"
  | map => "map"

/-- why a text is not what was asked for -/
inductive Fault where
  /-- the text is not JSON -/
  | malformed (flaw : Flaw)
  /-- a value of one sort stands in the place of another -/
  | wrongType (found : Found) (expected : String)
  /-- a whole number does not fit -/
  | wrongValue (number : Int) (expected : String)
  /-- a list has too few items -/
  | wrongLength (length : Nat) (expected : String)
  /-- an object lacks a field -/
  | missingField (name : String)
  /-- an object has a field twice -/
  | duplicateField (name : String)
  /-- an object has a field that is not one of those allowed -/
  | unknownField (name : String) (allowed : List String)
  /-- a word is not one of those allowed -/
  | unknownWord (name : String) (allowed : List String)
  /-- a name is no kind's -/
  | unknownKind (name : String)
  /-- a text is not a set of patterns -/
  | badFlags (cause : FlagError)
  deriving DecidableEq, Repr

/-- the names that are allowed, in words -/
def alternatives (names : List String) : String :=
  match names.map fun name => s!"`{name}`" with
  | [] => "nothing"
  | [one] => one
  | [one, other] => s!"{one} or {other}"
  | several => "one of " ++ ", ".intercalate several

/-- the wording of a fault -/
def Fault.message : Fault → String
  | malformed flaw => flaw.message
  | wrongType found expected => s!"invalid type: {found.text}, expected {expected}"
  | wrongValue number expected => s!"invalid value: integer `{number}`, expected {expected}"
  | wrongLength length expected => s!"invalid length {length}, expected {expected}"
  | missingField name => s!"missing field `{name}`"
  | duplicateField name => s!"duplicate field `{name}`"
  | unknownField name allowed => s!"unknown field `{name}`, expected {alternatives allowed}"
  | unknownWord name allowed => s!"unknown variant `{name}`, expected {alternatives allowed}"
  | unknownKind name => s!"unknown token kind `{name}`"
  | badFlags cause => cause.message

/-- what a numeral is found to be -/
def Found.ofNumeral (n : Numeral) : Except Flaw Found :=
  match n.value? with
  | some (.natural n) => .ok (.integer n.toNat)
  | some (.negative n) => .ok (.integer (-(n : Int)))
  | some (.real x) => .ok (.real (realText x))
  | none => .error .numberTooLarge

/-- what a tree is found to be; brackets are not looked into -/
def Found.ofTree : Tree → Except Flaw Found
  | .null => .ok null
  | .bool b => .ok (bool b)
  | .number n => ofNumeral n
  | .string value => value.map string
  | .array _ => .ok sequence
  | .object _ => .ok map
  | .brokenWord flaw => .error flaw
  | .broken flaw => .error flaw

/-- the fault of a tree of another sort than the one expected -/
def Fault.ofTree (t : Tree) (expected : String) : Fault :=
  match Found.ofTree t with
  | .ok found => .wrongType found expected
  | .error flaw => .malformed flaw

end TokenScanner.Json
