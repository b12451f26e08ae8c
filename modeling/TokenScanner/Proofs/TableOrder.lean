/-
The order of names in a table.

A table is searched from its first entry on, but an input starts with one of its entries at most, since they are
different and of one width. So a table answers by what it holds, and configurations that list the same names in other
orders give lexers that scan alike. Only which error is reported depends on the order of names.

- `SymbolTable.eq_of_lexeme_prefix`: one entry at most starts an input.
- `SymbolTable.match?_congr`: tables that hold the same symbols answer alike.
- `Lexer.classify_congr`, `Lexer.exists_ofConfig?_congr`: the same for the classification and for the making of a lexer.
- `Lexer.lex_reordered`: all of these, and the streams of the two lexers.
-/
import TokenScanner.Proofs.Grouping
import TokenScanner.Proofs.NamedTables

namespace TokenScanner

namespace SymbolTable

variable {width : Nat} {table other : SymbolTable width} {input : List Char} {names others : List String}

/-- one entry at most starts an input -/
theorem eq_of_lexeme_prefix {s t : Symbol} (hs : s ∈ table.symbols) (ht : t ∈ table.symbols) (ps : s.lexeme <+: input)
    (pt : t.lexeme <+: input) : s = t := by
  have found : table.match? input = some s := match?_eq_some_iff.2 ⟨hs, ps⟩
  rw [match?_eq_some_iff.2 ⟨ht, pt⟩] at found
  exact (Option.some.inj found).symm

/-- tables that hold the same symbols answer alike -/
theorem match?_congr (same : ∀ s, s ∈ table.symbols ↔ s ∈ other.symbols) (input : List Char) :
    table.match? input = other.match? input := by
  apply Option.ext
  intro s
  rw [match?_eq_some_iff, match?_eq_some_iff, same s]

/-- tables built from the same names in two orders hold the same symbols -/
theorem mem_symbols_congr (perm : names.Perm others) (built : ofNames? names = .ok table)
    (built' : ofNames? others = .ok other) (s : Symbol) : s ∈ table.symbols ↔ s ∈ other.symbols := by
  rw [mem_symbols_iff, mem_symbols_iff, names_of_ofNames? built, names_of_ofNames? built']
  exact perm.mem_iff

/-- names that make a table make one in every order -/
theorem lists_perm (perm : names.Perm others) : Lists width names ↔ Lists width others := by
  constructor
  · exact fun h => ⟨fun name hn => h.named name (perm.mem_iff.2 hn), perm.nodup_iff.1 h.nodup⟩
  · exact fun h => ⟨fun name hn => h.named name (perm.mem_iff.1 hn), perm.nodup_iff.2 h.nodup⟩

end SymbolTable

namespace Lexer

variable {config other : Config} {lexer lexer' : Lexer}

/-- a lexer classifies by what its tables answer -/
theorem classify_congr (two : ∀ input, lexer.twoChar.match? input = lexer'.twoChar.match? input)
    (one : ∀ input, lexer.oneChar.match? input = lexer'.oneChar.match? input)
    (patterns : lexer.patterns = lexer'.patterns) (recovery : lexer.recovery = lexer'.recovery) (input : List Char) :
    lexer.classify input = lexer'.classify input := by
  simp only [classify, classifyPattern, classifySymbol, two, one, patterns, recovery]

/-- configurations of the same names in two orders both give a lexer, or neither does -/
theorem exists_ofConfig?_congr (two : config.twoChar.Perm other.twoChar) (one : config.oneChar.Perm other.oneChar) :
    (∃ lexer, ofConfig? config = .ok lexer) ↔ ∃ lexer, ofConfig? other = .ok lexer := by
  rw [exists_ofConfig?_iff, exists_ofConfig?_iff, SymbolTable.lists_perm two, SymbolTable.lists_perm one]

/-- **The order of names in a table is irrelevant to scanning.** One entry of a table at most starts an input, and that
is the one found; so tables of the same entries answer alike in every order. Two configurations with the same patterns
and recovery that list the same names in other orders both give a lexer or both do not, and the two lexers make the same
stream of every source. -/
theorem lex_reordered :
    (∀ width (table : SymbolTable width) input,
      (∀ s ∈ table.symbols, ∀ t ∈ table.symbols, s.lexeme <+: input → t.lexeme <+: input → s = t) ∧
        (∀ s, table.match? input = some s ↔ s ∈ table.symbols ∧ s.lexeme <+: input) ∧
        ∀ other : SymbolTable width, table.symbols.Perm other.symbols → table.match? input = other.match? input) ∧
      ∀ config other : Config, config.twoChar.Perm other.twoChar → config.oneChar.Perm other.oneChar →
        config.patterns = other.patterns → config.recovery = other.recovery →
        ((∃ lexer, ofConfig? config = .ok lexer) ↔ ∃ lexer, ofConfig? other = .ok lexer) ∧
          ∀ lexer lexer', ofConfig? config = .ok lexer → ofConfig? other = .ok lexer' →
            ∀ file source, lexer.lex file source = lexer'.lex file source := by
  constructor
  · intro width table input
    refine ⟨fun s hs t ht => SymbolTable.eq_of_lexeme_prefix hs ht, fun s => SymbolTable.match?_eq_some_iff, ?_⟩
    exact fun other perm => SymbolTable.match?_congr (fun s => perm.mem_iff) input
  · intro config other two one patterns recovery
    refine ⟨exists_ofConfig?_congr two one, fun lexer lexer' made made' file source => ?_⟩
    obtain ⟨hTwo, hOne, hPatterns, hRecovery⟩ := ofConfig?_eq_ok_iff.1 made
    obtain ⟨hTwo', hOne', hPatterns', hRecovery'⟩ := ofConfig?_eq_ok_iff.1 made'
    have alike : ∀ input, lexer.classify input = lexer'.classify input := by
      apply classify_congr
      · exact SymbolTable.match?_congr (SymbolTable.mem_symbols_congr two hTwo hTwo')
      · exact SymbolTable.match?_congr (SymbolTable.mem_symbols_congr one hOne hOne')
      · rw [← hPatterns, ← hPatterns', patterns]
      · rw [← hRecovery, ← hRecovery', recovery]
    exact lex_congr alike file source

/-- names in two orders, on a source in which every pair starts with a character that is a symbol by itself -/
theorem lex_reordered_shared_characters :
    let config : Config := ⟨["EQEQ", "LTEQ"], ["LT", "EQ", "NEWLINE"], .empty, .singleChar⟩
    let other : Config := ⟨["LTEQ", "EQEQ"], ["EQ", "NEWLINE", "LT"], .empty, .singleChar⟩
    let lexer : Lexer :=
      ⟨⟨[.equalEqual, .lessEqual], by decide, by decide⟩, ⟨[.less, .equal, .newline], by decide, by decide⟩, .empty,
        .singleChar⟩
    let lexer' : Lexer :=
      ⟨⟨[.lessEqual, .equalEqual], by decide, by decide⟩, ⟨[.equal, .newline, .less], by decide, by decide⟩, .empty,
        .singleChar⟩
    let source := ['<', '=', '=', '\n', '=', '=', '>']
    config.twoChar.Perm other.twoChar ∧ config.oneChar.Perm other.oneChar ∧
      ofConfig? config = .ok lexer ∧ ofConfig? other = .ok lexer' ∧
      lexer.lex "t.st" source = lexer'.lex "t.st" source ∧
      (lexer.lex "t.st" source).kinds =
        [.symbol .lessEqual, .symbol .equal, .symbol .newline, .symbol .equalEqual, .error] := by
  intro config other lexer lexer' source
  have two : config.twoChar.Perm other.twoChar := by decide
  have one : config.oneChar.Perm other.oneChar := by decide
  have made : ofConfig? config = .ok lexer := rfl
  have made' : ofConfig? other = .ok lexer' := rfl
  have alike := (lex_reordered.2 config other two one rfl rfl).2 lexer lexer' made made' "t.st" source
  exact ⟨two, one, made, made', alike, by decide +kernel⟩

end Lexer

end TokenScanner
