/-
What a lexer takes off the start of an input.

`Lexer.recognize` is the part of `Lexer.classify` that the recovery has no say in: the patterns in use, then the two
tables. Whatever is recognized, or else recovered, is a lexeme that the input starts with, given by its width.

- `Pattern.match?_prefix`, `SymbolTable.match?_prefix`: what a rule takes stands at the start of the input.
- `Lexer.recognize_cases`: what is recognized is the lexeme of a pattern in use or of a symbol in one of the tables.
- `Lexer.classify_cases`: a lexer answers with what it recognizes, and with an error where that is nothing.
- `Lexer.exists_classify`: every input that is not empty starts with a lexeme of its class, and no lexeme is a blank.
-/
import Mathlib.Tactic
import Mathlib.Data.List.TakeWhile
import TokenScanner.Scan

namespace TokenScanner

/-! ## Patterns -/

namespace Pattern

variable {input lexeme : List Char}

theorem digits?_eq_some_iff : digits? input = some lexeme ↔ lexeme = input.takeWhile isDigit ∧ lexeme ≠ [] := by
  unfold digits?
  split
  · rename_i h
    simp only [h, reduceCtorEq, false_iff, not_and, not_not]
    exact id
  · rename_i h
    simp only [Option.some.injEq]
    constructor
    · rintro rfl
      exact ⟨rfl, h⟩
    · exact fun hl => hl.1.symm

theorem ident?_eq_some_iff :
    ident? input = some lexeme ↔
      ∃ c rest, input = c :: rest ∧ isNameStart c = true ∧ lexeme = c :: rest.takeWhile isNamePart := by
  cases input with
  | nil => simp [ident?]
  | cons c rest =>
    simp only [ident?, Option.ite_none_right_eq_some, Option.some.injEq]
    constructor
    · rintro ⟨hc, rfl⟩
      exact ⟨c, rest, rfl, hc, rfl⟩
    · rintro ⟨c', rest', he, hc, rfl⟩
      cases he
      exact ⟨hc, rfl⟩

theorem newline?_eq_some_iff : newline? input = some lexeme ↔ ∃ rest, input = '\n' :: rest ∧ lexeme = ['\n'] := by
  unfold newline?
  split
  · rename_i rest
    simp only [Option.some.injEq]
    constructor
    · rintro rfl
      exact ⟨rest, rfl, rfl⟩
    · rintro ⟨-, -, rfl⟩
      rfl
  · rename_i h
    simp only [reduceCtorEq, false_iff, not_exists, not_and]
    intro rest he
    exact absurd he (h rest)

theorem singleQuoted?_eq_some_iff :
    singleQuoted? input = some lexeme ↔
      (∃ rest, input = '\'' :: '\'' :: rest ∧ lexeme = ['\'', '\'']) ∨
        ∃ c rest, c ≠ '\'' ∧ c ≠ '\n' ∧ input = '\'' :: c :: '\'' :: rest ∧ lexeme = ['\'', c, '\''] := by
  unfold singleQuoted?
  split
  · rename_i rest
    simp only [Option.some.injEq]
    constructor
    · rintro rfl
      exact Or.inl ⟨rest, rfl, rfl⟩
    · rintro (⟨-, -, rfl⟩ | ⟨c, rest', hc, -, he, -⟩)
      · rfl
      · simp only [List.cons.injEq, true_and] at he
        exact absurd he.1.symm hc
  · rename_i c rest hne
    simp only [Option.ite_none_left_eq_some, Option.some.injEq]
    constructor
    · rintro ⟨hn, rfl⟩
      exact Or.inr ⟨c, rest, hne, hn, rfl, rfl⟩
    · rintro (⟨rest', he, -⟩ | ⟨c', rest', -, hn, he, rfl⟩)
      · simp only [List.cons.injEq, true_and] at he
        exact absurd he.1 hne
      · simp only [List.cons.injEq, true_and] at he
        rw [he.1]
        exact ⟨hn, rfl⟩
  · rename_i h1 h2
    simp only [reduceCtorEq, false_iff, not_or, not_exists, not_and]
    exact ⟨fun rest he => absurd he (h1 rest), fun c rest _ _ he => absurd he (h2 c rest)⟩

theorem doubleQuoted?_eq_some_iff :
    doubleQuoted? input = some lexeme ↔
      ∃ body rest, (∀ c ∈ body, isQuotable c = true) ∧ input = '"' :: (body ++ '"' :: rest) ∧
        lexeme = '"' :: (body ++ ['"']) := by
  unfold doubleQuoted?
  split
  · rename_i text
    split
    · rename_i rest hr
      simp only [Option.some.injEq]
      constructor
      · rintro rfl
        refine ⟨text.takeWhile isQuotable, rest, fun c hc => List.mem_takeWhile_imp hc, ?_, rfl⟩
        rw [← hr, List.takeWhile_append_dropWhile]
      · rintro ⟨body, rest', hb, he, rfl⟩
        have stop : isQuotable '"' = false := by decide
        rw [List.cons.injEq] at he
        rw [he.2, List.takeWhile_append_of_pos hb, List.takeWhile_cons, stop]
        simp
    · rename_i h
      simp only [reduceCtorEq, false_iff, not_exists, not_and]
      intro body rest hb he
      have stop : isQuotable '"' = false := by decide
      rw [List.cons.injEq] at he
      refine absurd ?_ (h rest)
      rw [he.2, List.dropWhile_append_of_pos hb, List.dropWhile_cons, stop]
      simp
  · rename_i h
    simp only [reduceCtorEq, false_iff, not_exists, not_and]
    intro body rest _ he
    exact absurd he (h _)

/-- a match stands at the start of the input -/
theorem match?_prefix {p : Pattern} (h : p.match? input = some lexeme) : lexeme <+: input := by
  cases p with
  | digits =>
    rw [(digits?_eq_some_iff.1 h).1]
    exact List.takeWhile_prefix isDigit
  | ident =>
    obtain ⟨c, rest, rfl, -, rfl⟩ := ident?_eq_some_iff.1 h
    exact (List.prefix_cons_inj c).2 (List.takeWhile_prefix isNamePart)
  | newline =>
    obtain ⟨rest, rfl, rfl⟩ := newline?_eq_some_iff.1 h
    exact ⟨rest, rfl⟩
  | singleQuoted =>
    obtain ⟨rest, rfl, rfl⟩ | ⟨c, rest, -, -, rfl, rfl⟩ := singleQuoted?_eq_some_iff.1 h
    · exact ⟨rest, rfl⟩
    · exact ⟨rest, rfl⟩
  | doubleQuoted =>
    obtain ⟨body, rest, -, rfl, rfl⟩ := doubleQuoted?_eq_some_iff.1 h
    exact ⟨rest, by simp⟩

theorem kind_ne_error (p : Pattern) : p.kind ≠ .error := by cases p <;> decide

theorem kind_ne_whitespace (p : Pattern) : p.kind ≠ .whitespace := by cases p <;> decide

end Pattern

/-! ## Symbols -/

/-- the entry that matches is in the table, and the input starts with its lexeme -/
theorem SymbolTable.match?_prefix {width : Nat} {table : SymbolTable width} {input : List Char} {s : Symbol}
    (h : table.match? input = some s) : s ∈ table.symbols ∧ s.lexeme <+: input := by
  have written := List.find?_some h
  exact ⟨List.mem_of_find?_eq_some h, List.isPrefixOf_iff_prefix.1 written⟩

/-! ## Lexers -/

namespace Lexer

/-- kind and width of what the patterns in use and the tables find at the start of the input -/
def recognize (lexer : Lexer) (input : List Char) : Option (Kind × Nat) :=
  (lexer.classifyPattern Pattern.all input).or (lexer.classifySymbol input)

/-- what lets a lexer recognize a lexeme: a pattern in use that takes it, or a symbol in a table that is written so -/
inductive Recognizes (lexer : Lexer) (input : List Char) : Kind → List Char → Prop where
  | pattern {p : Pattern} {lexeme : List Char} (used : p ∈ lexer.patterns) (taken : p.match? input = some lexeme) :
    Recognizes lexer input p.kind lexeme
  | symbol {s : Symbol} (listed : s ∈ lexer.twoChar.symbols ∨ s ∈ lexer.oneChar.symbols)
    (written : s.lexeme <+: input) : Recognizes lexer input (.symbol s) s.lexeme

variable {lexer : Lexer} {input lexeme : List Char} {kind : Kind} {width : Nat}

theorem classifyPattern_cases {order : List Pattern} (h : lexer.classifyPattern order input = some (kind, width)) :
    ∃ lexeme, width = Text.byteWidth lexeme ∧ lexer.Recognizes input kind lexeme := by
  obtain ⟨p, -, hp⟩ := List.exists_of_findSome?_eq_some h
  split at hp
  · rename_i used
    obtain ⟨lexeme, taken, he⟩ := Option.map_eq_some_iff.1 hp
    simp only [Prod.mk.injEq] at he
    obtain ⟨rfl, rfl⟩ := he
    exact ⟨lexeme, rfl, .pattern used taken⟩
  · simp at hp

theorem classifySymbol_cases (h : lexer.classifySymbol input = some (kind, width)) :
    ∃ lexeme, width = Text.byteWidth lexeme ∧ lexer.Recognizes input kind lexeme := by
  obtain ⟨s, hs, he⟩ := Option.map_eq_some_iff.1 h
  simp only [Prod.mk.injEq] at he
  obtain ⟨rfl, rfl⟩ := he
  refine ⟨s.lexeme, rfl, ?_⟩
  rcases Option.or_eq_some_iff.1 hs with hs | ⟨-, hs⟩
  · obtain ⟨listed, written⟩ := SymbolTable.match?_prefix hs
    exact .symbol (Or.inl listed) written
  · obtain ⟨listed, written⟩ := SymbolTable.match?_prefix hs
    exact .symbol (Or.inr listed) written

theorem recognize_cases (h : lexer.recognize input = some (kind, width)) :
    ∃ lexeme, width = Text.byteWidth lexeme ∧ lexer.Recognizes input kind lexeme := by
  rcases Option.or_eq_some_iff.1 h with hp | ⟨-, hs⟩
  · exact classifyPattern_cases hp
  · exact classifySymbol_cases hs

namespace Recognizes

theorem lexeme_prefix (h : lexer.Recognizes input kind lexeme) : lexeme <+: input := by
  cases h with
  | pattern used taken => exact Pattern.match?_prefix taken
  | symbol listed written => exact written

theorem lexeme_ne_nil (h : lexer.Recognizes input kind lexeme) : lexeme ≠ [] := by
  cases h with
  | pattern used taken => exact Pattern.match?_ne_nil taken
  | symbol listed written =>
    rcases listed with listed | listed
    · exact SymbolTable.lexeme_ne_nil (by decide) listed
    · exact SymbolTable.lexeme_ne_nil (by decide) listed

theorem kind_ne_error (h : lexer.Recognizes input kind lexeme) : kind ≠ .error := by
  cases h with
  | pattern used taken => exact Pattern.kind_ne_error _
  | symbol listed written => exact Kind.noConfusion

theorem kind_ne_whitespace (h : lexer.Recognizes input kind lexeme) : kind ≠ .whitespace := by
  cases h with
  | pattern used taken => exact Pattern.kind_ne_whitespace _
  | symbol listed written => exact Kind.noConfusion

end Recognizes

theorem classify_eq_recognize (h : input ≠ []) :
    lexer.classify input = some ((lexer.recognize input).getD (.error, lexer.recovery.width input)) := by
  simp only [classify, List.isEmpty_iff, h, if_false, recognize]

/-- recovered input is one character or all of it -/
theorem exists_recovery (recovery : Recovery) (h : input ≠ []) :
    ∃ lexeme, lexeme <+: input ∧ lexeme ≠ [] ∧ recovery.width input = Text.byteWidth lexeme := by
  cases recovery with
  | singleChar =>
    refine ⟨input.take 1, List.take_prefix 1 input, ?_, rfl⟩
    simpa using h
  | remainder => exact ⟨input, List.prefix_rfl, h, rfl⟩

theorem exists_classify (lexer : Lexer) (h : input ≠ []) :
    ∃ kind lexeme, lexer.classify input = some (kind, Text.byteWidth lexeme) ∧ lexeme <+: input ∧ lexeme ≠ [] := by
  rw [classify_eq_recognize h]
  cases hr : lexer.recognize input with
  | none =>
    obtain ⟨lexeme, hp, hne, hw⟩ := exists_recovery lexer.recovery h
    exact ⟨.error, lexeme, by rw [Option.getD_none, hw], hp, hne⟩
  | some found =>
    obtain ⟨kind, width⟩ := found
    obtain ⟨lexeme, rfl, hl⟩ := recognize_cases hr
    exact ⟨kind, lexeme, rfl, hl.lexeme_prefix, hl.lexeme_ne_nil⟩

/-- a lexer answers with what it recognizes, or else with as much as its recovery takes -/
theorem classify_cases (h : lexer.classify input = some (kind, width)) :
    lexer.recognize input = some (kind, width) ∨
      lexer.recognize input = none ∧ kind = .error ∧ width = lexer.recovery.width input := by
  have hne := ne_nil_of_classify h
  rw [classify_eq_recognize hne, Option.some.injEq] at h
  cases hr : lexer.recognize input with
  | none =>
    rw [hr, Option.getD_none, Prod.mk.injEq] at h
    exact Or.inr ⟨rfl, h.1.symm, h.2.symm⟩
  | some found =>
    rw [hr, Option.getD_some] at h
    exact Or.inl (congrArg some h)

theorem classify_ne_whitespace (h : lexer.classify input = some (kind, width)) : kind ≠ .whitespace := by
  rcases classify_cases h with hr | ⟨-, rfl, -⟩
  · obtain ⟨lexeme, -, hl⟩ := recognize_cases hr
    exact hl.kind_ne_whitespace
  · exact Kind.noConfusion

end Lexer

end TokenScanner
