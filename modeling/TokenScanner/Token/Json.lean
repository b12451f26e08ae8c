/-
Tokens and streams in JSON.

A kind is its name. A token is an object with `file`, `line`, `column`, `lexeme` and `kind`, a stream one with `file`
and `tokens`. Both may also be read from a list of their fields in that order, and fields of other names are skipped.
-/
import TokenScanner.Json.Read
import TokenScanner.Json.Value
import TokenScanner.Token

namespace TokenScanner

open Json (Slot Shape Fault)

/-! ## Kinds -/

/-- a kind to write -/
def Kind.json (k : Kind) : Json.Value :=
  .string k.name

/-- reads a kind -/
def Kind.read : Json.Decoder Kind := fun t => do
  let name ← Json.readString t
  match ofName? name with
  | some k => return k
  | none => throw (.unknownKind name)

/-! ## Tokens -/

namespace Token

/-- a token to write -/
def json (t : Token) : Json.Value :=
  .object [.mk "file" (.string t.file), .mk "line" (.natural t.line.toNat), .mk "column" (.natural t.column.toNat),
    .mk "lexeme" (.string t.lexeme), .mk "kind" t.kind.json]

/-- a token as far as it was read -/
structure Draft where
  file : Option String
  line : Option UInt32
  column : Option UInt32
  lexeme : Option String
  kind : Option Kind

/-- the token of a draft, or the name of the first field that it lacks -/
def Draft.complete (d : Draft) : Except String Token :=
  match d.file, d.line, d.column, d.lexeme, d.kind with
  | none, _, _, _, _ => .error "file"
  | _, none, _, _, _ => .error "line"
  | _, _, none, _, _ => .error "column"
  | _, _, _, none, _ => .error "lexeme"
  | _, _, _, _, none => .error "kind"
  | some file, some line, some column, some lexeme, some kind => .ok ⟨file, line, column, lexeme, kind⟩

/-- how tokens are written -/
def shape : Shape Draft Token where
  what := "struct Token"
  slots := [
    .of "file" Draft.file (fun a d => { d with file := some a }) Json.readString,
    .of "line" Draft.line (fun a d => { d with line := some a }) Json.readWord,
    .of "column" Draft.column (fun a d => { d with column := some a }) Json.readWord,
    .of "lexeme" Draft.lexeme (fun a d => { d with lexeme := some a }) Json.readString,
    .of "kind" Draft.kind (fun a d => { d with kind := some a }) Kind.read]
  strict := false
  start := ⟨none, none, none, none, none⟩
  complete := Draft.complete

/-- reads a token -/
def read : Json.Decoder Token :=
  shape.read

end Token

/-! ## Streams -/

namespace TokenStream

/-- a stream to write -/
def json (s : TokenStream) : Json.Value :=
  .object [.mk "file" (.string s.file), .mk "tokens" (.array (s.tokens.map Token.json))]

/-- a stream as far as it was read -/
structure Draft where
  file : Option String
  tokens : Option (List Token)

/-- the stream of a draft, or the name of the first field that it lacks -/
def Draft.complete (d : Draft) : Except String TokenStream :=
  match d.file, d.tokens with
  | none, _ => .error "file"
  | _, none => .error "tokens"
  | some file, some tokens => .ok ⟨file, tokens⟩

/-- how streams are written -/
def shape : Shape Draft TokenStream where
  what := "struct TokenStream"
  slots := [
    .of "file" Draft.file (fun a d => { d with file := some a }) Json.readString,
    .of "tokens" Draft.tokens (fun a d => { d with tokens := some a }) (Json.readList Token.read)]
  strict := false
  start := ⟨none, none⟩
  complete := Draft.complete

/-- reads a stream -/
def read : Json.Decoder TokenStream :=
  shape.read

end TokenStream

end TokenScanner
