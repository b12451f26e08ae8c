/-
Maximal munch.

A lexer takes numbers and names as far as they go, and two characters before one. So a token is never the first part of
something longer: where two tokens touch, without a blank between them, the second does not go on with a number or a name
that the first one is, and a character that stands alone makes no symbol with the first character behind it
(`Lexer.Apart`). It is the text that decides this, not the place where the scan came from: every token was taken with the
rest of the source in view.

- `Lexer.Takes.digits_run`, `Lexer.Takes.name_run`: a number and a name end where their characters end.
- `Lexer.Takes.pair_stop`: a character that is taken alone starts no symbol of two characters.
- `Lexer.Takes.apart`: from the text behind a lexeme to the token that touches it.
- `Lexer.touching_tokens_apart`: in a stream, all tokens that touch are apart.
-/
import TokenScanner.Proofs.Context
import TokenScanner.Proofs.Tiling

namespace TokenScanner

theorem isNamePart_of_isDigit {c : Char} (h : isDigit c = true) : isNamePart c = true := by
  simp [isNamePart, h]

/-- a text of a class of characters does not touch a run of that class -/
theorem not_touching_of_run {p : Char → Bool} {a b rest : List Char} (run : (a ++ (b ++ rest)).takeWhile p = a)
    (hb : b ≠ []) (same : ∀ c ∈ b, p c = true) : False := by
  obtain ⟨c, tail, rfl⟩ := List.exists_cons_of_ne_nil hb
  have stop : p c = false := (takeWhile_append_eq_left_iff.1 run).2 c rfl
  rw [same c List.mem_cons_self] at stop
  cases stop

namespace Lexer

/-- the second token does not go on with what the first one is -/
structure Apart (lexer : Lexer) (t u : Token) : Prop where
  /-- no number is cut in two -/
  number : ¬ (t.kind = .digits ∧ u.kind = .digits)
  /-- no name is cut in two -/
  name : ¬ (t.kind = .ident ∧ (u.kind = .ident ∨ u.kind = .digits))
  /-- no two-character symbol is cut in two -/
  pair : ∀ c d tail, t.lexeme.toList = [c] → u.lexeme.toList = d :: tail → ∀ s ∈ lexer.twoChar.symbols,
    s.lexeme ≠ [c, d]

variable {lexer : Lexer} {chunk other : Chunk} {rest : List Char}

/-! ## Where a lexeme ends -/

theorem Takes.digits_run (h : lexer.Takes chunk rest) (hk : chunk.kind = .digits) :
    (chunk.lexeme ++ rest).takeWhile isDigit = chunk.lexeme := by
  have taken : Pattern.digits? (chunk.lexeme ++ rest) = some chunk.lexeme :=
    h.match?_of_kind (p := .digits) hk (by decide)
  exact (Pattern.digits?_eq_some_iff.1 taken).1.symm

theorem Takes.name_run (h : lexer.Takes chunk rest) (hk : chunk.kind = .ident) :
    (chunk.lexeme ++ rest).takeWhile isNamePart = chunk.lexeme := by
  have taken : Pattern.ident? (chunk.lexeme ++ rest) = some chunk.lexeme :=
    h.match?_of_kind (p := .ident) hk (by decide)
  obtain ⟨c, tail, he, hc, hl⟩ := Pattern.ident?_eq_some_iff.1 taken
  have part : isNamePart c = true := by simp [isNamePart, hc]
  rw [he, List.takeWhile_cons_of_pos part, ← hl]

/-- a character that is taken alone starts no symbol of two characters -/
theorem Takes.pair_stop {c d : Char} (h : lexer.Takes chunk (d :: rest)) (alone : chunk.lexeme = [c]) :
    ∀ s ∈ lexer.twoChar.symbols, s.lexeme ≠ [c, d] := by
  intro s listed pair
  have grouped : lexer.Groups (chunk.lexeme ++ d :: rest) (.symbol s) s.lexeme := by
    apply Groups.symbol listed
    rw [pair, alone]
    exact ⟨rest, rfl⟩
  have whole : s.lexeme = chunk.lexeme := (grouped.eq_of_classify h.classify_eq).2
  rw [pair, alone] at whole
  cases whole

/-! ## Tokens that touch -/

/-- chunks that touch make tokens that are apart, wherever they are placed -/
theorem Takes.apart {behind : List Char} (h : lexer.Takes chunk (other.lexeme ++ rest))
    (next : lexer.Takes other behind) (file : String) (p q : Position) :
    lexer.Apart (chunk.token file p) (other.token file q) where
  number := by
    rintro ⟨first, second⟩
    have digits := (takeWhile_append_eq_left_iff.1 (next.digits_run second)).1
    exact not_touching_of_run (h.digits_run first) next.ne_nil digits
  name := by
    rintro ⟨first, second⟩
    have parts : ∀ c ∈ other.lexeme, isNamePart c = true := by
      rcases second with second | second
      · exact (takeWhile_append_eq_left_iff.1 (next.name_run second)).1
      · intro c hc
        apply isNamePart_of_isDigit
        exact (takeWhile_append_eq_left_iff.1 (next.digits_run second)).1 c hc
    exact not_touching_of_run (h.name_run first) next.ne_nil parts
  pair := by
    intro c d tail alone start
    rw [Chunk.token, String.toList_ofList] at alone start
    rw [start, List.cons_append] at h
    exact h.pair_stop alone

/-- **Maximal munch.** Under every lexer, tokens that follow each other without a blank between them are apart: no
number, no name and no symbol of two characters is cut in two, whatever the first character of it is scanned as. -/
theorem touching_tokens_apart (lexer : Lexer) (file : String) (source : List Char) :
    let tokens := (lexer.lex file source).tokens
    ∃ gaps last, Tiling source tokens gaps last ∧
      ∀ i t u, tokens[i]? = some t → tokens[i + 1]? = some u → gaps[i + 1]? = some [] → lexer.Apart t u := by
  intro tokens
  obtain ⟨chunks, last, cuts, blank⟩ := lexer.exists_cuts source
  have placed : tokens = Chunk.tokens file .start chunks := tokens_eq_of_cuts file cuts blank
  rw [placed]
  refine ⟨chunks.map Chunk.gap, last, cuts.tiling blank file .start, ?_⟩
  intro i t u ht hu touching
  obtain ⟨front, c, middle, d, back, rfl, rfl, hj, rfl, rfl⟩ := Chunk.exists_split_pair ht hu (Nat.lt_succ_self i)
  obtain rfl : middle = [] := by simpa using hj
  have none : d.gap = [] := by simpa using touching
  obtain ⟨first, others⟩ := cuts.takes_middle
  obtain ⟨second, -⟩ := others.takes_middle
  rw [List.nil_append, Chunk.texts_cons, Chunk.text, none, List.nil_append, List.append_assoc] at first
  exact first.apart second file _ _

/-- of three equality signs the first two are one token, and a lone `!` that no table lists is an error before a name -/
example :
    let lexer : Lexer := ⟨.standardTwo, .empty, .full, .singleChar⟩
    (lexer.lex "m.st" ['=', '=', '=', '!', 'x', '1']).kinds = [.symbol .equalEqual, .error, .error, .ident] := by
  decide +kernel

end Lexer

end TokenScanner
