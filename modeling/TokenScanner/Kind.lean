/-
Kinds of tokens.

A kind is one of six lexical classes or a registered symbol. A symbol has one lexeme, so the two parts are two types:
`Symbol` with total `lexeme`, and `Kind` with the classes and one constructor for symbols.

Every kind has a name (`Kind.name`, read back by `Kind.ofName?`), a place in the list of all kinds (`Kind.index`) and a
code of one byte, which is that place (`Kind.code`, read back by `Kind.ofCode?`).

- `Symbol.lexeme_injective`: a lexeme belongs to one symbol.
- `Kind.name_injective`: a name belongs to one kind.
- `Kind.ofName?_name`, `Kind.ofCode?_code`: both readers give back the kind that was written.
-/

namespace TokenScanner

/-! ## Symbols -/

/-- the registered symbols, in the order of their codes -/
inductive Symbol where
  | newline | dot | colon | semi | comma
  | leftParen | rightParen | leftBrace | rightBrace | leftBracket | rightBracket
  | plus | minus | times | divide | modulo
  | negate | and | or | xor
  | atSign | pound | dollar | backslash
  | equal | not | less | greater
  | equalEqual | notEqual | lessEqual | greaterEqual
  deriving DecidableEq, Repr

namespace Symbol

/-- every symbol, in order -/
def all : List Symbol :=
  [newline, dot, colon, semi, comma, leftParen, rightParen, leftBrace, rightBrace, leftBracket, rightBracket, plus,
    minus, times, divide, modulo, negate, and, or, xor, atSign, pound, dollar, backslash, equal, not, less, greater,
    equalEqual, notEqual, lessEqual, greaterEqual]

/-- the name a symbol is configured and printed under -/
def name : Symbol → String
  | newline => "NEWLINE" | dot => "DOT" | colon => "COLON" | semi => "SEMI" | comma => "COMMA"
  | leftParen => "LPAREN" | rightParen => "RPAREN" | leftBrace => "LBRACE" | rightBrace => "RBRACE"
  | leftBracket => "LBRACK" | rightBracket => "RBRACK"
  | plus => "PLUS" | minus => "MINUS" | times => "MULT" | divide => "DIV" | modulo => "MOD"
  | negate => "NEG" | and => "AND" | or => "OR" | xor => "XOR"
  | atSign => "AT" | pound => "POUND" | dollar => "DOLLAR" | backslash => "BACKSLASH"
  | equal => "EQ" | not => "NOT" | less => "LT" | greater => "GT"
  | equalEqual => "EQEQ" | notEqual => "NTEQ" | lessEqual => "LTEQ" | greaterEqual => "GTEQ"

/-- the characters a symbol is written with -/
def lexeme : Symbol → List Char
  | newline => ['\n'] | dot => ['.'] | colon => [':'] | semi => [';'] | comma => [',']
  | leftParen => ['('] | rightParen => [')'] | leftBrace => ['{'] | rightBrace => ['}']
  | leftBracket => ['['] | rightBracket => [']']
  | plus => ['+'] | minus => ['-'] | times => ['*'] | divide => ['/'] | modulo => ['%']
  | negate => ['~'] | and => ['&'] | or => ['|'] | xor => ['^']
  | atSign => ['@'] | pound => ['#'] | dollar => ['$'] | backslash => ['\\']
  | equal => ['='] | not => ['!'] | less => ['<'] | greater => ['>']
  | equalEqual => ['=', '='] | notEqual => ['!', '='] | lessEqual => ['<', '='] | greaterEqual => ['>', '=']

/-- how many characters the lexeme has -/
def width (s : Symbol) : Nat :=
  s.lexeme.length

theorem mem_all (s : Symbol) : s ∈ all := by cases s <;> decide

/-- a lexeme belongs to one symbol -/
theorem lexeme_injective {a b : Symbol} (h : a.lexeme = b.lexeme) : a = b := by
  have table : ∀ a ∈ all, ∀ b ∈ all, a.lexeme = b.lexeme → a = b := by decide +kernel
  exact table a a.mem_all b b.mem_all h

end Symbol

/-! ## Kinds -/

/-- what a token is: a lexical class or a symbol -/
inductive Kind where
  /-- a maximal run of decimal digits -/
  | digits
  /-- a letter or underscore followed by letters, digits or underscores -/
  | ident
  /-- spaces and tabs; a scan leaves no token of this kind -/
  | whitespace
  /-- a single-quoted literal of no or one character -/
  | singleQuoted
  /-- a double-quoted literal without escapes or line breaks -/
  | doubleQuoted
  /-- input that no other rule recognizes -/
  | error
  /-- a registered symbol -/
  | symbol (s : Symbol)
  deriving DecidableEq, Repr

namespace Kind

/-- the lexical classes, in order -/
def classes : List Kind :=
  [digits, ident, whitespace, singleQuoted, doubleQuoted, error]

/-- every kind: the classes, then the symbols -/
def all : List Kind :=
  classes ++ Symbol.all.map symbol

/-- the name a kind is printed under -/
def name : Kind → String
  | digits => "DIGITS"
  | ident => "IDENT"
  | whitespace => "WHITESPACE"
  | singleQuoted => "SQUOTE"
  | doubleQuoted => "DQUOTE"
  | error => "ERROR"
  | symbol s => s.name

/-- the kind of that name -/
def ofName? (name : String) : Option Kind :=
  all.find? (·.name == name)

/-- the symbol a kind stands for -/
def symbol? : Kind → Option Symbol
  | symbol s => some s
  | _ => none

/-- the place of a kind in `all` -/
def index (k : Kind) : Nat :=
  all.idxOf k

/-- the one-byte code of a kind: its place -/
def code (k : Kind) : UInt8 :=
  UInt8.ofNat k.index

/-- the kind of that code -/
def ofCode? (code : UInt8) : Option Kind :=
  all[code.toNat]?

theorem mem_all (k : Kind) : k ∈ all := by
  cases k with
  | symbol s => exact List.mem_append_right _ (List.mem_map.2 ⟨s, s.mem_all, rfl⟩)
  | _ => decide

/-- a property of all kinds is checked on the list of them -/
theorem forall_iff {p : Kind → Prop} : (∀ k, p k) ↔ ∀ k ∈ all, p k :=
  ⟨fun h k _ => h k, fun h k => h k k.mem_all⟩

theorem ofName?_name (k : Kind) : ofName? k.name = some k := by
  revert k
  rw [forall_iff]
  decide

/-- a name belongs to one kind -/
theorem name_injective {a b : Kind} (h : a.name = b.name) : a = b := by
  have := ofName?_name a
  rw [h, ofName?_name b] at this
  exact (Option.some.inj this).symm

theorem ofCode?_code (k : Kind) : ofCode? k.code = some k := by
  revert k
  rw [forall_iff]
  decide

end Kind

/-- the symbol of that name -/
def Symbol.ofName? (name : String) : Option Symbol :=
  (Kind.ofName? name).bind Kind.symbol?

end TokenScanner
