/-
Tokens and token streams.

A token is a lexeme with its kind and the place where it starts. A stream is what a scan of one file leaves: the tokens
in order. Tokens of kind `error` stay in the stream.
-/
import TokenScanner.Kind
import TokenScanner.Position

namespace TokenScanner

/-- a lexeme with its kind and the place of its first character -/
structure Token where
  file : String
  line : UInt32
  column : UInt32
  lexeme : String
  kind : Kind
  deriving DecidableEq, Repr

namespace Token

/-- the place of the first character -/
def position (t : Token) : Position :=
  ⟨t.line, t.column⟩

/-- the token is input that no rule recognized -/
def isError (t : Token) : Bool :=
  t.kind = .error

/-- how many characters the lexeme has -/
def width (t : Token) : Nat :=
  t.lexeme.length

end Token

/-- the tokens of one file, in order -/
structure TokenStream where
  file : String
  tokens : List Token
  deriving DecidableEq, Repr

namespace TokenStream

/-- the kinds of the tokens, in order -/
def kinds (s : TokenStream) : List Kind :=
  s.tokens.map Token.kind

/-- the tokens that no rule recognized, in order -/
def errors (s : TokenStream) : List Token :=
  s.tokens.filter Token.isError

/-- some token was not recognized -/
def hasErrors (s : TokenStream) : Bool :=
  s.tokens.any Token.isError

end TokenStream

end TokenScanner
