/-
One-character symbols are labels.

Where an unrecognized character is an error of its own, the table of one-character symbols has no say in where a token
ends. Two lexers that group characters alike (`Lexer.GroupAlike`), whatever characters they know, go side by side
through every source: a group is the same for both, and a character that stands alone is one token for both, under the
label that each has for it.

- `Lexer.Takes.relabel`: what one lexer takes off a source the other takes, under a label of its own.
- `Lexer.Cuts.relabel`: the same of cuts.
- `Lexer.lex_relabelled`: two such streams differ in the labels of single characters at most.
-/
import TokenScanner.Proofs.Grouping

namespace TokenScanner

/-- the chunks differ in their kinds at most, and then each is a character under the label of its lexer -/
structure Chunk.Relabelled (a b : Lexer) (c d : Chunk) : Prop where
  gap_eq : c.gap = d.gap
  lexeme_eq : c.lexeme = d.lexeme
  labelled : c.kind ≠ d.kind → ∃ x, c.lexeme = [x] ∧ c.kind = a.label x ∧ d.kind = b.label x

/-- the tokens differ in their kinds at most, and then each is a character under the label of its lexer -/
structure Token.Relabelled (a b : Lexer) (t u : Token) : Prop where
  file_eq : t.file = u.file
  line_eq : t.line = u.line
  column_eq : t.column = u.column
  lexeme_eq : t.lexeme = u.lexeme
  labelled : t.kind ≠ u.kind → ∃ x, t.lexeme = String.ofList [x] ∧ t.kind = a.label x ∧ u.kind = b.label x

theorem Chunk.Relabelled.text_eq {a b : Lexer} {c d : Chunk} (h : Chunk.Relabelled a b c d) : c.text = d.text := by
  rw [text, text, h.gap_eq, h.lexeme_eq]

/-- relabelled chunks are placed alike -/
theorem Chunk.forall₂_tokens {a b : Lexer} {cs ds : List Chunk} (h : List.Forall₂ (Chunk.Relabelled a b) cs ds)
    (file : String) (p : Position) :
    List.Forall₂ (Token.Relabelled a b) (tokens file p cs) (tokens file p ds) := by
  induction h generalizing p with
  | nil => exact .nil
  | @cons c d cs ds first others ih =>
    rw [tokens_cons, tokens_cons, first.text_eq]
    refine .cons ⟨rfl, ?_, ?_, ?_, ?_⟩ (ih _)
    · rw [token, token, first.gap_eq]
    · rw [token, token, first.gap_eq]
    · rw [token, token, first.lexeme_eq]
    · intro hk
      obtain ⟨x, hx, hc, hd⟩ := first.labelled hk
      exact ⟨x, congrArg String.ofList hx, hc, hd⟩

namespace Lexer

/-- the lexers have the same two-character symbols and use the same patterns, but perhaps for the line break -/
structure GroupAlike (a b : Lexer) : Prop where
  twoChar_eq : a.twoChar = b.twoChar
  patterns_iff : ∀ p, p ≠ .newline → (p ∈ a.patterns ↔ p ∈ b.patterns)

variable {a b : Lexer} {source rest last lexeme : List Char} {kind : Kind} {chunk : Chunk} {chunks : List Chunk}

theorem GroupAlike.symm (h : GroupAlike a b) : GroupAlike b a :=
  ⟨h.twoChar_eq.symm, fun p hp => (h.patterns_iff p hp).symm⟩

theorem GroupAlike.groups (h : GroupAlike a b) (hg : a.Groups source kind lexeme) : b.Groups source kind lexeme := by
  cases hg with
  | pattern used longer taken => exact .pattern ((h.patterns_iff _ longer).1 used) longer taken
  | symbol listed written => exact .symbol (h.twoChar_eq ▸ listed) written

theorem GroupAlike.ungrouped (h : GroupAlike a b) (hu : a.Ungrouped source) : b.Ungrouped source :=
  fun kind lexeme hg => hu kind lexeme (h.symm.groups hg)

theorem Takes.relabel (alike : GroupAlike a b) (ha : a.recovery = .singleChar) (hb : b.recovery = .singleChar)
    (h : a.Takes chunk rest) : ∃ other, b.Takes other rest ∧ Chunk.Relabelled a b chunk other := by
  obtain ⟨gap, kind, lexeme⟩ := chunk
  have picked : a.Picks kind lexeme rest := h.picks
  cases picked with
  | group grouped =>
    refine ⟨⟨gap, kind, lexeme⟩, h.of_picks (.group (alike.groups grouped)), rfl, rfl, ?_⟩
    exact fun hk => absurd rfl hk
  | @single x _ alone kept =>
    refine ⟨⟨gap, b.label x, [x]⟩, h.of_picks (.single (alike.ungrouped alone) (Or.inr hb)), rfl, rfl, ?_⟩
    exact fun _ => ⟨x, rfl, rfl, rfl⟩
  | swallow alone unknown all =>
    rw [ha] at all
    cases all

theorem Cuts.relabel (alike : GroupAlike a b) (ha : a.recovery = .singleChar) (hb : b.recovery = .singleChar)
    (h : a.Cuts source chunks last) :
    ∃ others, b.Cuts source others last ∧ List.Forall₂ (Chunk.Relabelled a b) chunks others := by
  induction h with
  | done rest => exact ⟨[], .done rest, .nil⟩
  | @take chunk source chunks rest first _ ih =>
    obtain ⟨other, taken, same⟩ := first.relabel alike ha hb
    obtain ⟨others, cut, all⟩ := ih
    rw [same.text_eq]
    exact ⟨other :: others, .take taken cut, .cons same all⟩

/-- **The one-character table only labels.** Where an unrecognized character is an error of its own, the streams of two
lexers that group alike agree in the number of tokens, in their places and in their lexemes. Tokens that differ in kind
are one character long, and each has the label of its lexer: the symbol of the character where the lexer knows it, and
else an error. -/
theorem lex_relabelled (alike : GroupAlike a b) (ha : a.recovery = .singleChar) (hb : b.recovery = .singleChar)
    (file : String) (source : List Char) :
    List.Forall₂ (Token.Relabelled a b) (a.lex file source).tokens (b.lex file source).tokens := by
  obtain ⟨chunks, last, hc, hl⟩ := a.exists_cuts source
  obtain ⟨others, cut, same⟩ := hc.relabel alike ha hb
  rw [lex_eq_of_cuts file hc hl, lex_eq_of_cuts file cut hl]
  exact Chunk.forall₂_tokens same file .start

/-- a lexer that knows `@` and `=` and no line break, beside the standard one -/
theorem lex_relabelled_at_sign :
    let other : Lexer :=
      ⟨.standardTwo, ⟨[.atSign, .equal], by decide, by decide⟩, PatternSet.full.without (.single .newline), .singleChar⟩
    let source := ['@', '=', '=', '+', '\n', 'x']
    GroupAlike standard other ∧ standard.recovery = .singleChar ∧ other.recovery = .singleChar ∧
      (standard.lex "c.st" source).kinds =
        [.error, .symbol .equalEqual, .symbol .plus, .symbol .newline, .ident] ∧
      (other.lex "c.st" source).kinds = [.symbol .atSign, .symbol .equalEqual, .error, .error, .ident] ∧
      List.Forall₂ (Token.Relabelled standard other) (standard.lex "c.st" source).tokens
        (other.lex "c.st" source).tokens := by
  intro other source
  have alike : GroupAlike standard other := by
    refine ⟨rfl, fun p hp => ?_⟩
    cases p with
    | newline => exact absurd rfl hp
    | _ => decide
  exact ⟨alike, rfl, rfl, by decide +kernel, by decide +kernel, lex_relabelled alike rfl rfl "c.st" source⟩

end Lexer

end TokenScanner
