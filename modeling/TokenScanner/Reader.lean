/-
Readers: walking along a finished stream.

A reader stands at a place in its stream, from the first token to just after the last. `advance` moves over one token,
`eat` and `expect` only over one of a given kind. A checkpoint is a place by itself: it may be restored on any reader,
and one that lies beyond a stream leads to its end. Places and offsets are words of 64 bits: to look ahead is to add
them, and a sum that does not fit the word is no place at all (`Panic.overflow`).

- `ExpectError.message`: the wording of what `expect` found instead.
-/
import TokenScanner.Token
import TokenScanner.Text.Escape

namespace TokenScanner

/-- what stood where a kind was expected -/
inductive ExpectError where
  /-- a token of another kind -/
  | unexpected (expected found : Kind) (lexeme file : String) (line column : UInt32)
  /-- the end of the file's tokens -/
  | endOfInput (expected : Kind) (file : String)
  deriving DecidableEq, Repr

/-- the kind that was expected -/
def ExpectError.expected : ExpectError → Kind
  | unexpected expected .. => expected
  | endOfInput expected _ => expected

/-- the wording of what was found -/
def ExpectError.message : ExpectError → String
  | unexpected expected found lexeme file line column =>
    let shown := String.ofList (Text.escape lexeme.toList)
    s!"{file}:{line}:{column}: expected {expected.name}, found {found.name} `{shown}`"
  | endOfInput expected file => s!"{file}: expected {expected.name}, found end of input"

/-- why a call has no answer -/
inductive Panic where
  /-- a sum does not fit its word -/
  | overflow
  deriving DecidableEq, Repr

/-- a place in some stream -/
structure Checkpoint where
  position : Nat
  deriving DecidableEq, Repr

/-- a stream and a place in it -/
structure Reader where
  stream : TokenStream
  position : Nat
  deriving DecidableEq, Repr

namespace Reader

/-- a reader at the first token -/
def ofStream (stream : TokenStream) : Reader :=
  ⟨stream, 0⟩

/-- no token is left -/
def atEnd (r : Reader) : Bool :=
  r.stream.tokens.length ≤ r.position

/-- the tokens that are left -/
def remaining (r : Reader) : List Token :=
  r.stream.tokens.drop r.position

/-- the next token -/
def peek (r : Reader) : Option Token :=
  r.stream.tokens[r.position]?

/-- the token `offset` places after the next, if the sum of the two is a place -/
def peekAhead (r : Reader) (offset : UInt64) : Except Panic (Option Token) :=
  if r.position + offset.toNat < UInt64.size then .ok r.stream.tokens[r.position + offset.toNat]?
  else .error .overflow

/-- the kind of the next token -/
def peekKind (r : Reader) : Option Kind :=
  r.peek.map Token.kind

/-- the next token is of that kind -/
def check (r : Reader) (kind : Kind) : Bool :=
  r.peekKind = some kind

/-- the next token, and the reader after it -/
def advance (r : Reader) : Option Token × Reader :=
  match r.peek with
  | none => (none, r)
  | some t => (some t, { r with position := r.position + 1 })

/-- the next token, if it is of that kind, and the reader after it -/
def eat (r : Reader) (kind : Kind) : Option Token × Reader :=
  if r.check kind then r.advance else (none, r)

/-- the next token, which has to be of that kind, and the reader after it -/
def expect (r : Reader) (kind : Kind) : Except ExpectError Token × Reader :=
  match r.peek with
  | none => (.error (.endOfInput kind r.stream.file), r)
  | some t =>
    if t.kind = kind then (.ok t, { r with position := r.position + 1 })
    else (.error (.unexpected kind t.kind t.lexeme t.file t.line t.column), r)

/-- the place of the reader -/
def checkpoint (r : Reader) : Checkpoint :=
  ⟨r.position⟩

/-- the reader at a place, or at the end if the stream does not reach so far -/
def restore (r : Reader) (c : Checkpoint) : Reader :=
  { r with position := min c.position r.stream.tokens.length }

end Reader

end TokenScanner
