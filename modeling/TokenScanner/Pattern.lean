/-
Patterns: the lexemes that are recognized by their shape.

There are five, tried in the order of `Pattern.all`. `Pattern.match? p input` is the part of the input, from its start,
that `p` takes. Blanks are the spaces and tabs that a scan skips between tokens.

- `Pattern.match?_ne_nil`: no pattern takes nothing.
-/
import TokenScanner.Kind

namespace TokenScanner

/-! ## Characters -/

/-- a space or a tab -/
def isBlank (c : Char) : Bool :=
  c == ' ' || c == '\t'

/-- an ASCII digit -/
def isDigit (c : Char) : Bool :=
  '0' ≤ c && c ≤ '9'

/-- an ASCII letter or an underscore -/
def isNameStart (c : Char) : Bool :=
  ('a' ≤ c && c ≤ 'z') || ('A' ≤ c && c ≤ 'Z') || c == '_'

/-- a character that continues a name -/
def isNamePart (c : Char) : Bool :=
  isNameStart c || isDigit c

/-- a character that may stand inside a double-quoted literal -/
def isQuotable (c : Char) : Bool :=
  c != '"' && c != '\n'

/-- the blanks at the start of the input, if there are any -/
def blank? (input : List Char) : Option (List Char) :=
  match input.takeWhile isBlank with
  | [] => none
  | skipped => some skipped

/-! ## Patterns -/

/-- the shapes of lexemes, in the order they are tried -/
inductive Pattern where
  /-- the longest run of digits -/
  | digits
  /-- the longest run of name characters that does not start with a digit -/
  | ident
  /-- one line break -/
  | newline
  /-- two single quotes with at most one character between them, neither a single quote nor a line break -/
  | singleQuoted
  /-- two double quotes on one line with no other between them -/
  | doubleQuoted
  deriving DecidableEq, Repr

namespace Pattern

/-- every pattern, in order -/
def all : List Pattern :=
  [digits, ident, newline, singleQuoted, doubleQuoted]

theorem mem_all (p : Pattern) : p ∈ all := by cases p <;> decide

/-- the kind of the tokens a pattern makes -/
def kind : Pattern → Kind
  | digits => .digits
  | ident => .ident
  | newline => .symbol .newline
  | singleQuoted => .singleQuoted
  | doubleQuoted => .doubleQuoted

/-- the digits at the start of the input -/
def digits? (input : List Char) : Option (List Char) :=
  match input.takeWhile isDigit with
  | [] => none
  | run => some run

/-- the name at the start of the input -/
def ident? : List Char → Option (List Char)
  | [] => none
  | c :: rest => if isNameStart c then some (c :: rest.takeWhile isNamePart) else none

/-- the line break at the start of the input -/
def newline? : List Char → Option (List Char)
  | '\n' :: _ => some ['\n']
  | _ => none

/-- the single-quoted literal at the start of the input; two quotes in a row are a whole literal -/
def singleQuoted? : List Char → Option (List Char)
  | '\'' :: '\'' :: _ => some ['\'', '\'']
  | '\'' :: c :: '\'' :: _ => if c = '\n' then none else some ['\'', c, '\'']
  | _ => none

/-- the double-quoted literal at the start of the input -/
def doubleQuoted? : List Char → Option (List Char)
  | '"' :: rest =>
    match rest.dropWhile isQuotable with
    | '"' :: _ => some ('"' :: rest.takeWhile isQuotable ++ ['"'])
    | _ => none
  | _ => none

/-- the part of the input that a pattern takes -/
def match? : Pattern → List Char → Option (List Char)
  | digits => digits?
  | ident => ident?
  | newline => newline?
  | singleQuoted => singleQuoted?
  | doubleQuoted => doubleQuoted?

theorem match?_ne_nil {p : Pattern} {input lexeme : List Char} (h : p.match? input = some lexeme) : lexeme ≠ [] := by
  rintro rfl
  cases p with
  | digits =>
    simp only [match?, digits?] at h
    split at h <;> simp_all
  | ident =>
    cases input with
    | nil => simp [match?, ident?] at h
    | cons c rest =>
      simp only [match?, ident?] at h
      split at h <;> simp_all
  | newline =>
    simp only [match?, newline?] at h
    split at h <;> simp_all
  | singleQuoted =>
    simp only [match?, singleQuoted?] at h
    split at h
    · simp at h
    · split at h <;> simp_all
    · simp at h
  | doubleQuoted =>
    simp only [match?, doubleQuoted?] at h
    split at h
    · split at h <;> simp_all
    · simp at h

end Pattern

end TokenScanner
