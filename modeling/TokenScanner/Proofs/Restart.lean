/-
Scans that start at a token.

What a lexer takes depends on what is left of the source, not on what it took before. So a scan may be broken off before
any lexeme and taken up there by a scan of its own: the second gives the tokens that the first would have gone on with.
Only their places differ, since the second counts from line 1 and column 1. They are moved by where the lexeme stood:
down by its line, and to the right by its column while the second scan is on its first line (`Token.StartedAt`).

- `Lexer.Cuts.restart`: a cut goes on from any lexeme as a cut of what is left there.
- `Chunk.tokens_from_lexeme`: the tokens of a scan from a lexeme on, placed from there.
- `Chunk.tokens_startedAt`: chunks placed from a position against the same chunks placed from the start.
- `Lexer.lex_restart`: the scan of what is left at a token gives that token and all behind it.
-/
import TokenScanner.Proofs.Context
import TokenScanner.Proofs.Opening

namespace TokenScanner

/-- the second token is what the first is in a source where the text of the first starts at that position -/
structure Token.StartedAt (origin : Position) (t u : Token) : Prop where
  file : u.file = t.file
  kind : u.kind = t.kind
  lexeme : u.lexeme = t.lexeme
  line : u.line.toNat = t.line.toNat + (origin.line.toNat - 1)
  column : u.column.toNat = if t.line = 1 then t.column.toNat + (origin.column.toNat - 1) else t.column.toNat

theorem Token.startedAt_shift {origin : Position} {above before : List Char} {t : Token} (ho : origin.Counts above)
    (ht : t.position.Counts before) (short : (above ++ before).length + 1 < UInt32.size) :
    Token.StartedAt origin t (t.shift (above.count '\n') (Text.lastLine above).length) := by
  obtain ⟨line, column⟩ := ht.toNat_shift short
  have lines : origin.line.toNat - 1 = above.count '\n' := by rw [ho.line, Nat.add_sub_cancel_left]
  have columns : origin.column.toNat - 1 = (Text.lastLine above).length := by rw [ho.column, Nat.add_sub_cancel_left]
  constructor
  · rfl
  · rfl
  · rfl
  · rw [lines]
    exact line
  · rw [columns]
    exact column

/-- the tokens from a lexeme on are placed from where the gap before it ends -/
theorem Chunk.tokens_from_lexeme {file : String} {p : Position} {front back : List Chunk} {c : Chunk} :
    (tokens file p (front ++ c :: back)).drop front.length =
      tokens file (p.advance (texts front ++ c.gap)) ({ c with gap := [] } :: back) := by
  have whole : behind c.gap ({ c with gap := [] } :: back) = c :: back := by rw [behind, List.append_nil]
  calc (tokens file p (front ++ c :: back)).drop front.length
    _ = tokens file (p.advance (texts front)) (c :: back) := drop_tokens
    _ = tokens file (p.advance (texts front)) (behind c.gap ({ c with gap := [] } :: back)) := by rw [whole]
    _ = tokens file ((p.advance (texts front)).advance c.gap) ({ c with gap := [] } :: back) := tokens_behind ..
    _ = tokens file (p.advance (texts front ++ c.gap)) ({ c with gap := [] } :: back) := by
      rw [Position.advance_append]

/-- chunks placed from a position against the same chunks placed from the start -/
theorem Chunk.tokens_startedAt {origin : Position} {above : List Char} {chunks : List Chunk} (file : String)
    (ho : origin.Counts above) (short : (above ++ texts chunks).length + 1 < UInt32.size) :
    List.Forall₂ (Token.StartedAt origin) (tokens file .start chunks) (tokens file origin chunks) := by
  have moved : tokens file origin chunks =
      (tokens file .start chunks).map (Token.shift (above.count '\n') (Text.lastLine above).length) := by
    have here : origin.Counts (above ++ []) := by rwa [List.append_nil]
    exact tokens_shift here Position.counts_start short
  rw [moved, List.forall₂_map_right_iff, List.forall₂_same]
  intro t ht
  have alone : ([] ++ texts chunks).length + 1 < UInt32.size := by
    rw [List.length_append] at short
    rw [List.nil_append]
    omega
  obtain ⟨front, within, counts⟩ := exists_counts Position.counts_start alone t ht
  apply Token.startedAt_shift ho counts
  have length := within.length_le
  simp only [List.nil_append, List.length_append] at short ⊢
  omega

namespace Lexer

variable {lexer : Lexer} {source last : List Char} {front back : List Chunk} {c : Chunk}

/-- a cut goes on from any lexeme as a cut of what is left there -/
theorem Cuts.restart (h : lexer.Cuts source (front ++ c :: back) last) :
    lexer.Cuts (source.drop (Chunk.texts front ++ c.gap).length) ({ c with gap := [] } :: back) last := by
  obtain ⟨first, others⟩ := h.takes_middle
  rw [h.drop_middle]
  exact .take (first.with_gap blank_nil) others

/-- **A scan can restart at any token.** Under every lexer, the scan of what is left of a source at the start of a token
gives that token and all behind it, each as it is in the whole source but for its place: the lines are counted on from
the line of the token, and on the first line the columns are counted on from its column. The source is short enough for
its positions to fit their words. -/
theorem lex_restart (lexer : Lexer) (file : String) (source : List Char) (short : source.length < UInt32.size - 1) :
    let tokens := (lexer.lex file source).tokens
    ∃ gaps last, Tiling source tokens gaps last ∧
      ∀ i t, tokens[i]? = some t →
        List.Forall₂ (Token.StartedAt t.position)
          (lexer.lex file (source.drop (textBefore gaps tokens i).length)).tokens (tokens.drop i) := by
  intro tokens
  obtain ⟨chunks, last, cuts, blank⟩ := lexer.exists_cuts source
  have placed : tokens = Chunk.tokens file .start chunks := tokens_eq_of_cuts file cuts blank
  rw [placed]
  refine ⟨chunks.map Chunk.gap, last, cuts.tiling blank file .start, ?_⟩
  intro i t ht
  obtain ⟨front, c, back, rfl, rfl, rfl⟩ := Chunk.exists_split_of_getElem? ht
  rw [Chunk.textBefore_tokens, lex_eq_of_cuts file cuts.restart blank]
  have fits : ((Chunk.texts front ++ c.gap) ++ Chunk.texts ({ c with gap := [] } :: back)).length + 1 < UInt32.size := by
    have parts := congrArg List.length cuts.source_eq
    simp only [Chunk.texts_append, Chunk.texts_cons, Chunk.text, List.length_append, List.length_nil] at parts ⊢
    omega
  have counts : (Position.start.advance (Chunk.texts front ++ c.gap)).Counts (Chunk.texts front ++ c.gap) := by
    apply Position.Counts.advance_start
    rw [List.length_append] at fits
    omega
  rw [Chunk.tokens_from_lexeme, Chunk.token, ← Position.advance_append]
  exact Chunk.tokens_startedAt file counts fits

/-- an error that takes the end of one line and all of the next, behind a tab, a symbol and a line break -/
theorem lex_restart_swallowed_lines :
    let lexer : Lexer := { standard with recovery := .remainder }
    let source := ['\t', 'x', ' ', '<', '=', '\n', ' ', 'y', '@', ' ', 'a', '\n', 'b']
    let tokens := (lexer.lex "r.st" source).tokens
    source.length < UInt32.size - 1 ∧
      (lexer.lex "r.st" source).kinds =
        [.ident, .symbol .lessEqual, .symbol .newline, .ident, .error] ∧
      ∃ gaps last, Tiling source tokens gaps last ∧
        ∀ i t, tokens[i]? = some t →
          List.Forall₂ (Token.StartedAt t.position)
            (lexer.lex "r.st" (source.drop (textBefore gaps tokens i).length)).tokens (tokens.drop i) := by
  intro lexer source tokens
  exact ⟨by decide, by decide +kernel, lex_restart lexer "r.st" source (by decide)⟩

end Lexer

end TokenScanner
