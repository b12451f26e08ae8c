/-
Tables of symbols.

A table holds symbols of one width, each once, in the order in which they were named. It is built from names
(`SymbolTable.ofNames?`), and the first name that breaks a rule is the one reported: it must name a symbol, of the
table's width, that is not in the table yet. `SymbolTable.match? input` is the entry that the input starts with.

- `SymbolTable.lexeme_ne_nil`: no entry of a table of positive width has an empty lexeme.
-/
import TokenScanner.Kind

namespace TokenScanner

/-- why names do not make a table -/
inductive SymbolError where
  /-- the name is no symbol's -/
  | unknown (name : String)
  /-- the symbol is not as wide as the table's symbols -/
  | width (name : String) (expected found : Nat)
  /-- the symbol is already in the table -/
  | duplicate (name : String)
  deriving DecidableEq, Repr

/-- the wording of a refusal -/
def SymbolError.message : SymbolError → String
  | unknown name => s!"unknown symbol `{name}`"
  | width name expected found =>
    s!"symbol `{name}` is {found} character(s) wide, table holds {expected}-character symbols"
  | duplicate name => s!"symbol `{name}` listed more than once"

/-- symbols of one width, each once -/
structure SymbolTable (width : Nat) where
  symbols : List Symbol
  width_eq : ∀ s ∈ symbols, s.width = width
  nodup : symbols.Nodup

namespace SymbolTable

variable {width : Nat}

/-- the table without symbols -/
def empty : SymbolTable width :=
  ⟨[], by simp, by simp⟩

/-- the table with one symbol more, at its end -/
def push (table : SymbolTable width) (s : Symbol) (hw : s.width = width) (hs : ¬ s ∈ table.symbols) :
    SymbolTable width where
  symbols := table.symbols ++ [s]
  width_eq := by
    intro t ht
    rcases List.mem_append.1 ht with ht | ht
    · exact table.width_eq t ht
    · rw [List.mem_singleton.1 ht, hw]
  nodup := by
    refine List.nodup_append.2 ⟨table.nodup, by simp, ?_⟩
    intro t ht u hu
    rw [List.mem_singleton.1 hu]
    rintro rfl
    exact hs ht

/-- the table with the symbol of one more name -/
def insert? (table : SymbolTable width) (name : String) : Except SymbolError (SymbolTable width) :=
  match Symbol.ofName? name with
  | none => .error (.unknown name)
  | some s =>
    if hw : s.width = width then
      if hs : s ∈ table.symbols then .error (.duplicate name) else .ok (table.push s hw hs)
    else .error (.width name width s.width)

/-- the table with the symbols of the names, in order -/
def ofNames? (names : List String) : Except SymbolError (SymbolTable width) :=
  names.foldlM insert? empty

/-- the names of the symbols, in order -/
def names (table : SymbolTable width) : List String :=
  table.symbols.map Symbol.name

/-- the first entry that the input starts with -/
def match? (table : SymbolTable width) (input : List Char) : Option Symbol :=
  table.symbols.find? fun s => s.lexeme.isPrefixOf input

theorem lexeme_ne_nil (hw : width ≠ 0) {table : SymbolTable width} {s : Symbol} (hs : s ∈ table.symbols) :
    s.lexeme ≠ [] := by
  intro h
  have := table.width_eq s hs
  simp only [Symbol.width, h, List.length_nil] at this
  exact hw this.symm

end SymbolTable

/-- the two-character symbols of the standard language -/
def SymbolTable.standardTwo : SymbolTable 2 :=
  ⟨[.equalEqual, .notEqual, .lessEqual, .greaterEqual], by decide, by decide⟩

/-- the one-character symbols of the standard language -/
def SymbolTable.standardOne : SymbolTable 1 :=
  ⟨[.dot, .equal, .semi, .comma, .colon, .leftParen, .rightParen, .leftBrace, .rightBrace, .leftBracket, .rightBracket,
    .plus, .minus, .times, .divide, .modulo, .not, .less, .greater], by decide, by decide⟩

end TokenScanner
