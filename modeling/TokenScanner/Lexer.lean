/-
Lexers.

A lexer is two tables of symbols, a set of patterns and a recovery. `Lexer.classify` says what token the input starts
with: its kind and its width in bytes. The patterns in use are tried first, then the two-character symbols, then the
one-character symbols; where none applies the recovery says how much is an `error` token. Blanks are not classified
apart, a scan skips them before it asks.

- `Lexer.classify_eq_none_iff`: only the empty input has no token.
- `Lexer.classify_pos`: no token is 0 bytes wide.
-/
import TokenScanner.Config
import TokenScanner.Text.Width

namespace TokenScanner

/-- the rules of a scan -/
structure Lexer where
  twoChar : SymbolTable 2
  oneChar : SymbolTable 1
  patterns : PatternSet
  recovery : Recovery

/-- how many bytes of input that no rule recognizes are one token -/
def Recovery.width : Recovery → List Char → Nat
  | singleChar, input => Text.byteWidth (input.take 1)
  | remainder, input => Text.byteWidth input

namespace Lexer

/-- the lexer of a configuration; of two bad tables the two-character one is reported -/
def ofConfig? (config : Config) : Except SymbolError Lexer := do
  let twoChar ← SymbolTable.ofNames? config.twoChar
  let oneChar ← SymbolTable.ofNames? config.oneChar
  return ⟨twoChar, oneChar, config.patterns, config.recovery⟩

/-- the lexer of the standard language -/
def standard : Lexer :=
  ⟨.standardTwo, .standardOne, .full, .singleChar⟩

/-- the first of the patterns in use that matches, and the width of its match -/
def classifyPattern (lexer : Lexer) (order : List Pattern) (input : List Char) : Option (Kind × Nat) :=
  order.findSome? fun p =>
    if p ∈ lexer.patterns then (p.match? input).map fun lexeme => (p.kind, Text.byteWidth lexeme) else none

/-- the symbol that matches, a two-character one before a one-character one, and its width -/
def classifySymbol (lexer : Lexer) (input : List Char) : Option (Kind × Nat) :=
  ((lexer.twoChar.match? input).or (lexer.oneChar.match? input)).map fun s =>
    (.symbol s, Text.byteWidth s.lexeme)

/-- kind and width of the token at the start of the input -/
def classify (lexer : Lexer) (input : List Char) : Option (Kind × Nat) :=
  if input.isEmpty then none
  else
    ((lexer.classifyPattern Pattern.all input).or (lexer.classifySymbol input)).getD
      (.error, lexer.recovery.width input)

theorem classify_eq_none_iff {lexer : Lexer} {input : List Char} : lexer.classify input = none ↔ input = [] := by
  cases input <;> simp [classify]

/-- only an input with a character in it is classified -/
theorem ne_nil_of_classify {lexer : Lexer} {input : List Char} {found : Kind × Nat}
    (h : lexer.classify input = some found) : input ≠ [] := by
  intro empty
  rw [classify_eq_none_iff.2 empty] at h
  cases h

theorem classifyPattern_pos {lexer : Lexer} {order : List Pattern} {input : List Char} {kind : Kind} {width : Nat}
    (h : lexer.classifyPattern order input = some (kind, width)) : width ≠ 0 := by
  obtain ⟨p, -, hp⟩ := List.exists_of_findSome?_eq_some h
  split at hp
  · obtain ⟨lexeme, hm, he⟩ := Option.map_eq_some_iff.1 hp
    have := Text.byteWidth_pos (Pattern.match?_ne_nil hm)
    simp only [Prod.mk.injEq] at he
    omega
  · simp at hp

theorem classifySymbol_pos {lexer : Lexer} {input : List Char} {kind : Kind} {width : Nat}
    (h : lexer.classifySymbol input = some (kind, width)) : width ≠ 0 := by
  obtain ⟨s, hs, he⟩ := Option.map_eq_some_iff.1 h
  have hne : s.lexeme ≠ [] := by
    rcases Option.or_eq_some_iff.1 hs with hs | ⟨-, hs⟩
    · exact SymbolTable.lexeme_ne_nil (by decide) (List.mem_of_find?_eq_some hs)
    · exact SymbolTable.lexeme_ne_nil (by decide) (List.mem_of_find?_eq_some hs)
  have := Text.byteWidth_pos hne
  simp only [Prod.mk.injEq] at he
  omega

theorem recoveryWidth_pos (recovery : Recovery) {input : List Char} (h : input ≠ []) : recovery.width input ≠ 0 := by
  cases input with
  | nil => exact absurd rfl h
  | cons c rest =>
    have one := Text.byteWidth_pos (List.cons_ne_nil c [])
    have all := Text.byteWidth_pos h
    cases recovery with
    | singleChar => exact Nat.ne_of_gt one
    | remainder => exact Nat.ne_of_gt all

theorem classify_pos {lexer : Lexer} {input : List Char} {kind : Kind} {width : Nat}
    (h : lexer.classify input = some (kind, width)) : width ≠ 0 := by
  have hne := ne_nil_of_classify h
  simp only [classify, List.isEmpty_iff, hne, if_false, Option.some.injEq] at h
  cases hp : (lexer.classifyPattern Pattern.all input).or (lexer.classifySymbol input) with
  | none =>
    rw [hp, Option.getD_none, Prod.mk.injEq] at h
    rw [← h.2]
    exact recoveryWidth_pos _ hne
  | some found =>
    rw [hp, Option.getD_some] at h
    subst h
    rcases Option.or_eq_some_iff.1 hp with hp | ⟨-, hp⟩
    · exact classifyPattern_pos hp
    · exact classifySymbol_pos hp

end Lexer

end TokenScanner
