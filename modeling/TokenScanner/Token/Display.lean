/-
Tokens and streams as records.

A token shows its file, line, column, lexeme and kind, in that order. The lexeme of a line break is left out, since the
kind says it.
-/
import TokenScanner.Record.Writer
import TokenScanner.Token

namespace TokenScanner

/-- the fields that show a token -/
def Token.record (t : Token) : Record :=
  .mk "Token" (
    [.plain "File" t.file, .plain "Line #" (toString t.line), .plain "Col #" (toString t.column)] ++
    (if t.kind = .symbol .newline then [] else [.plain "Value" t.lexeme]) ++
    [.plain "Type" t.kind.name])

/-- the fields that show a stream -/
def TokenStream.record (s : TokenStream) : Record :=
  .mk "TokenStream" [.plain "File" s.file, .records "Tokens" (s.tokens.map Token.record)]

/-- a token as text -/
def Token.text (t : Token) : String :=
  Record.written t.record.calls

/-- a stream as text -/
def TokenStream.text (s : TokenStream) : String :=
  Record.written s.record.calls

end TokenScanner
