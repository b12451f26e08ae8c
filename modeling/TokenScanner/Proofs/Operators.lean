/-
Two-character symbols.

A lexer without two-character symbols takes the characters of one as two lexemes: neither of them starts a pattern, so
each stands alone, whatever follows. All else it takes as before. So the table of two-character symbols does nothing but
put two neighbours together, each of which the table of one-character symbols would have named.

- `Symbol.exists_chars`: a two-character symbol has two characters that start no pattern.
- `Lexer.opens_twoChar`: where one lexer takes a two-character symbol the other takes its characters.
- `Lexer.lex_without_twoChar`: the stream without two-character symbols, made from the stream with them.
-/
import TokenScanner.Proofs.Opening
import TokenScanner.Proofs.Rescan

namespace TokenScanner

/-! ## Characters of symbols -/

/-- the kind that the table has for a character: its symbol, or an error where it is not in the table -/
def SymbolTable.kindOf (table : SymbolTable 1) (c : Char) : Kind :=
  match table.match? [c] with
  | some s => .symbol s
  | none => .error

/-- a token of two characters as a token for each, of the kind that the table has for it -/
def Token.parted (table : SymbolTable 1) (t : Token) : List Token :=
  match t.lexeme.toList with
  | [x, y] =>
    [{ t with lexeme := String.ofList [x], kind := table.kindOf x },
      { t with column := (t.position.right 1).column, lexeme := String.ofList [y], kind := table.kindOf y }]
  | _ => [t]

theorem Symbol.exists_chars {s : Symbol} (h : s.width = 2) :
    ∃ x y, s.lexeme = [x, y] ∧ Pattern.ofFirst? x = none ∧ Pattern.ofFirst? y = none := by
  cases s with
  | equalEqual => exact ⟨'=', '=', rfl, by decide⟩
  | notEqual => exact ⟨'!', '=', rfl, by decide⟩
  | lessEqual => exact ⟨'<', '=', rfl, by decide⟩
  | greaterEqual => exact ⟨'>', '=', rfl, by decide⟩
  | _ => cases h

/-- a character that starts no pattern is no line break -/
theorem Pattern.ne_newline_of_ofFirst? {c : Char} (h : ofFirst? c = none) : c ≠ '\n' := by
  rintro rfl
  cases h

namespace Lexer

/-- the kind is a two-character symbol that the lexer knows -/
def Fuses (lexer : Lexer) (kind : Kind) : Prop :=
  ∃ s ∈ lexer.twoChar.symbols, kind = .symbol s

instance (lexer : Lexer) (kind : Kind) : Decidable (lexer.Fuses kind) :=
  inferInstanceAs (Decidable (∃ s ∈ lexer.twoChar.symbols, kind = .symbol s))

variable {lexer : Lexer} {rest : List Char} {c x y : Char} {chunk : Chunk}

/-- but for the line break the label of a character is the kind that the one-character table has for it -/
theorem label_eq_kindOf (hc : c ≠ '\n') : lexer.label c = lexer.oneChar.kindOf c := by
  rw [SymbolTable.kindOf]
  cases hm : lexer.oneChar.match? [c] with
  | some s =>
    obtain ⟨listed, written⟩ := SymbolTable.match?_eq_some_iff.1 hm
    have width : s.lexeme.length = 1 := lexer.oneChar.width_eq s listed
    exact label_eq_symbol_iff.2 ⟨written.eq_of_length width, Or.inl listed⟩
  | none =>
    rcases label_eq_error_or_symbol lexer c with hl | ⟨s, hl⟩
    · exact hl
    · obtain ⟨hs, listed | ⟨rfl, -⟩⟩ := label_eq_symbol_iff.1 hl
      · exact absurd (hs ▸ List.prefix_rfl) (SymbolTable.match?_eq_none_iff.1 hm s listed)
      · cases hs
        exact absurd rfl hc

/-! ## Without two-character symbols -/

theorem drops_twoChar (lexer : Lexer) : Drops lexer.Fuses lexer { lexer with twoChar := .empty } where
  label_eq := fun _ => rfl
  groups := by
    intro input kind lexeme hg
    cases hg with
    | pattern used longer taken => exact .pattern used longer taken
    | symbol listed written => exact absurd listed List.not_mem_nil
  kept := by
    intro input kind lexeme hg hk
    cases hg with
    | pattern used longer taken => exact .pattern used longer taken
    | @symbol s listed written => exact absurd ⟨s, listed, rfl⟩ hk

/-- what is taken under a two-character symbol is its lexeme -/
theorem Takes.fused (h : lexer.Takes chunk rest) (hk : lexer.Fuses chunk.kind) :
    ∃ s ∈ lexer.twoChar.symbols, chunk.lexeme = s.lexeme := by
  obtain ⟨gap, kind, lexeme⟩ := chunk
  obtain ⟨s, listed, hs⟩ := hk
  have picked : lexer.Picks kind lexeme rest := h.picks
  cases picked with
  | group grouped =>
    cases grouped with
    | @pattern p _ used longer taken =>
      -- the only symbol that a pattern makes is the line break
      cases p with
      | newline => exact absurd rfl longer
      | _ => cases hs
    | @symbol t _ written =>
      cases hs
      exact ⟨s, listed, rfl⟩
  | single alone kept =>
    have wide : s.lexeme.length = 2 := lexer.twoChar.width_eq s listed
    rw [(label_eq_symbol_iff.1 hs).1] at wide
    cases wide
  | swallow => cases hs

/-- without two-character symbols a character that starts no pattern stands alone -/
theorem ungrouped_without_twoChar (lexer : Lexer) (hc : Pattern.ofFirst? c = none) (rest : List Char) :
    ({ lexer with twoChar := .empty } : Lexer).Ungrouped (c :: rest) := by
  intro kind lexeme hg
  cases hg with
  | pattern used longer taken =>
    rw [Pattern.ofFirst?_of_match? taken] at hc
    cases hc
  | symbol listed written => exact absurd listed List.not_mem_nil

/-- the tokens of two characters, made from the token of both -/
theorem tokens_parted (lexer : Lexer) (kind : Kind) (file : String) (p : Position) (gap : List Char)
    (hx : x ≠ '\n') (hy : y ≠ '\n') :
    Chunk.tokens file p [⟨gap, lexer.label x, [x]⟩, ⟨[], lexer.label y, [y]⟩] =
      (Chunk.token file p ⟨gap, kind, [x, y]⟩).parted lexer.oneChar := by
  have second : p.advance (gap ++ [x]) = (p.advance gap).right 1 := by
    rw [Position.advance_append, Position.advance_eq_right (by simpa using hx.symm)]
    rfl
  simp only [Chunk.tokens_cons, Chunk.tokens_nil, Chunk.token, Chunk.text, Token.parted, String.toList_ofList, second,
    Position.advance_nil, label_eq_kindOf hx, label_eq_kindOf hy]
  rfl

theorem opens_twoChar (hr : lexer.recovery = .singleChar) (file : String) :
    lexer.Opens { lexer with twoChar := .empty } file
      fun t => if lexer.Fuses t.kind then t.parted lexer.oneChar else [t] := by
  intro chunk rest h
  by_cases hk : lexer.Fuses chunk.kind
  · obtain ⟨s, listed, hl⟩ := h.fused hk
    obtain ⟨x, y, hs, hx, hy⟩ := Symbol.exists_chars (lexer.twoChar.width_eq s listed)
    obtain ⟨gap, kind, lexeme⟩ := chunk
    obtain rfl : lexeme = [x, y] := hl.trans hs
    have solid := s.isBlank_of_mem_lexeme
    rw [hs, List.forall_mem_cons, List.forall_mem_singleton] at solid
    have first := takes_single h.blank solid.1 (ungrouped_without_twoChar lexer hx (y :: rest)) hr
    have second := takes_single blank_nil solid.2 (ungrouped_without_twoChar lexer hy rest) hr
    have cut := Cuts.take first (.take second (.done rest))
    refine ⟨_, by simpa [Chunk.text] using cut, fun p _ => ?_⟩
    have made := tokens_parted lexer kind file p gap (Pattern.ne_newline_of_ofFirst? hx)
      (Pattern.ne_newline_of_ofFirst? hy)
    exact made.trans (if_pos hk).symm
  · refine ⟨[chunk], .take (h.keep (drops_twoChar lexer) hr hr hk) (.done rest), fun p _ => ?_⟩
    exact (if_neg hk).symm

/-- **Two-character symbols only fuse.** Where an unrecognized character is an error of its own: without two-character
symbols the stream is the same, but for two tokens in the place of each two-character symbol, one for each character,
side by side, of the kinds that the one-character table has for them. In a source whose positions fit their words the
second is one column further. -/
theorem lex_without_twoChar (lexer : Lexer) (hr : lexer.recovery = .singleChar) (file : String) (source : List Char) :
    let plain : Lexer := { lexer with twoChar := .empty }
    let stream := lexer.lex file source
    plain.lex file source =
        { stream with
          tokens := stream.tokens.flatMap fun t => if lexer.Fuses t.kind then t.parted lexer.oneChar else [t] } ∧
      ∀ t ∈ stream.tokens, lexer.Fuses t.kind →
        (∃ x y, t.lexeme = String.ofList [x, y]) ∧
          (source.length < UInt32.size - 1 → (t.position.right 1).column.toNat = t.column.toNat + 1) := by
  intro plain stream
  have opened : plain.lex file source = _ := (opens_twoChar hr file).lex_eq source
  refine ⟨opened, fun t ht hk => ?_⟩
  obtain ⟨s, listed, hs⟩ := (takes_of_mem_lex ht).fused hk
  obtain ⟨x, y, hxy, -, -⟩ := Symbol.exists_chars (lexer.twoChar.width_eq s listed)
  have chars : t.lexeme.toList = [x, y] := hs.trans hxy
  refine ⟨⟨x, y, by rw [← chars, String.ofList_toList]⟩, fun short => Position.column_right_eq_add ?_⟩
  -- the second token is one of the other stream, where no column is at the end of its word
  have second : { t with
      column := (t.position.right 1).column, lexeme := String.ofList [y], kind := lexer.oneChar.kindOf y } ∈
        (plain.lex file source).tokens := by
    rw [opened, List.mem_flatMap]
    refine ⟨t, ht, ?_⟩
    rw [if_pos hk, Token.parted, chars]
    exact List.mem_cons_of_mem _ List.mem_cons_self
  exact plain.column_lt file short _ second

/-- a run of signs that the greedy choice cuts in twos, the last of them alone -/
theorem lex_without_twoChar_run :
    let lexer : Lexer := { standard with oneChar := ⟨[.equal, .less], by decide, by decide⟩ }
    let plain : Lexer := { lexer with twoChar := .empty }
    let source := ['<', '=', '=', '!', '=', '=', '=', '<']
    let stream := lexer.lex "s.st" source
    lexer.recovery = .singleChar ∧
      stream.kinds =
        [.symbol .lessEqual, .symbol .equal, .symbol .notEqual, .symbol .equalEqual, .symbol .less] ∧
      plain.lex "s.st" source =
        { stream with
          tokens := stream.tokens.flatMap fun t => if lexer.Fuses t.kind then t.parted lexer.oneChar else [t] } ∧
      ∀ t ∈ stream.tokens, lexer.Fuses t.kind →
        (∃ x y, t.lexeme = String.ofList [x, y]) ∧
          (source.length < UInt32.size - 1 → (t.position.right 1).column.toNat = t.column.toNat + 1) := by
  intro lexer plain source stream
  exact ⟨rfl, by decide +kernel, lex_without_twoChar lexer rfl "s.st" source⟩

end Lexer

end TokenScanner
