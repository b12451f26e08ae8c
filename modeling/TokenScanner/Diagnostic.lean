/-
Diagnostics: what is said about the unrecognized tokens of a stream.

Each `error` token makes one diagnostic, but for the second of two like quotes. A quote that stands alone as an `error`
token opens a literal that was not read; a quote of the same form on the same line, with no other `error` token
between, is taken for its end and not reported. The one after that opens a literal again.

A message shows at most 32 characters of the lexeme, escaped, with three dots if there are more.
-/
import TokenScanner.Token
import TokenScanner.Text.Escape
import TokenScanner.Text.Width

namespace TokenScanner

/-- what is wrong with a token -/
inductive Diagnostic.Fault where
  /-- no rule recognized the input -/
  | unrecognizedInput
  /-- a literal has no end, or a form that is not allowed -/
  | unterminatedLiteral
  deriving DecidableEq, Repr

/-- a fault and its place -/
structure Diagnostic where
  fault : Diagnostic.Fault
  file : String
  line : UInt32
  column : UInt32
  lexeme : String
  deriving DecidableEq, Repr

namespace Diagnostic

/-- the fault of a lexeme, told by its first character -/
def Fault.ofLexeme : List Char → Fault
  | '\'' :: _ => unterminatedLiteral
  | '"' :: _ => unterminatedLiteral
  | _ => unrecognizedInput

/-- the diagnostic of a token -/
def ofToken (t : Token) : Diagnostic :=
  ⟨.ofLexeme t.lexeme.toList, t.file, t.line, t.column, t.lexeme⟩

/-- how many characters of a lexeme a message shows -/
def shownWidth : Nat := 32

/-- the lexeme as a message shows it; there is more of it if it takes more bytes than what is shown -/
def shown (lexeme : List Char) : List Char :=
  let front := lexeme.take shownWidth
  Text.escape front ++ if Text.byteWidth front < Text.byteWidth lexeme then "...".toList else []

/-- the words for a fault -/
def Fault.words : Fault → String
  | unrecognizedInput => "unrecognized input"
  | unterminatedLiteral => "unterminated or malformed literal starting at"

/-- what is said -/
def message (d : Diagnostic) : String :=
  let lexeme := String.ofList (shown d.lexeme.toList)
  s!"{d.fault.words} `{lexeme}`"

/-- what is said, with the place before it -/
def text (d : Diagnostic) : String :=
  s!"{d.file}:{d.line}:{d.column}: {d.message}"

end Diagnostic

/-! ## Diagnostics of a stream -/

/-- a quote that opened a literal, and its line -/
structure OpenQuote where
  lexeme : String
  line : UInt32
  deriving DecidableEq, Repr

/-- the open quote that a token leaves, if it is a quote alone -/
def OpenQuote.ofToken? (t : Token) : Option OpenQuote :=
  if t.lexeme = "'" ∨ t.lexeme = "\"" then some ⟨t.lexeme, t.line⟩ else none

/-- the tokens to report of a list of unrecognized ones, after an open quote -/
def reported : Option OpenQuote → List Token → List Token
  | _, [] => []
  | pending, t :: rest =>
    let quote := OpenQuote.ofToken? t
    if quote.isSome ∧ quote = pending then reported none rest else t :: reported quote rest

/-- the diagnostics of a stream, in order -/
def diagnose (s : TokenStream) : List Diagnostic :=
  (reported none s.errors).map .ofToken

end TokenScanner
