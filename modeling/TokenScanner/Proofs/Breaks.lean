/-
Where the line breaks of a source go.

Where an unrecognized character is an error of its own, a line break is a lexeme by itself and is in no other: names and
numbers stop at it, literals do not go over it, and no symbol of two characters holds one. So the kind that the lexer
has for a line break (`Lexer.breakKind`) tells which tokens hold one, and a lexer that knows the line break has a kind
for it that no other lexeme gets.

- `Lexer.Groups.break_not_mem`: characters that are put together stand on one line.
- `Lexer.Takes.break_cases`: what a lexer takes is the line break, or it holds none and is of another kind than that of
  a known one.
- `Lexer.LineAware`: the lexers that take a known line break by itself.
- `Lexer.Cuts.idxsOf_break`: the tokens of the line break start where the line breaks of the source stand.
- `Lexer.lex_breaks`: one token for each line break, in order, all of one kind.
-/
import TokenScanner.Proofs.LineLocality
import TokenScanner.Proofs.Literals
import TokenScanner.Proofs.Tiling

namespace TokenScanner

variable {input lexeme rest : List Char} {kind : Kind}

/-! ## Patterns and symbols -/

/-- no pattern but that of the line break takes one -/
theorem Pattern.break_not_mem {p : Pattern} (hp : p ≠ .newline) (h : p.match? input = some lexeme) : '\n' ∉ lexeme := by
  intro hm
  cases p with
  | digits =>
    rw [(digits?_eq_some_iff.1 h).1] at hm
    have digit : isDigit '\n' = true := List.mem_takeWhile_imp hm
    exact absurd digit (by decide)
  | ident =>
    obtain ⟨c, tail, -, hc, rfl⟩ := ident?_eq_some_iff.1 h
    rcases List.mem_cons.1 hm with rfl | hm
    · exact absurd hc (by decide)
    · have part : isNamePart '\n' = true := List.mem_takeWhile_imp hm
      exact absurd part (by decide)
  | newline => exact hp rfl
  | singleQuoted => exact (quoted_lexeme (Or.inl rfl) h).1 hm
  | doubleQuoted => exact (quoted_lexeme (Or.inr rfl) h).1 hm

theorem Symbol.break_not_mem {s : Symbol} (hs : s ≠ .newline) : '\n' ∉ s.lexeme := by
  cases s with
  | newline => exact absurd rfl hs
  | _ => decide

theorem Pattern.kind_eq_newline_iff {p : Pattern} : p.kind = .symbol .newline ↔ p = .newline := by
  cases p <;> decide

/-- a symbol of two characters is not the line break -/
theorem SymbolTable.ne_newline {table : SymbolTable 2} {s : Symbol} (listed : s ∈ table.symbols) : s ≠ .newline := by
  rintro rfl
  exact absurd (table.width_eq _ listed) (by decide)

theorem idxsOf_eq_nil_of_not_mem {text : List Char} {c : Char} (h : c ∉ text) (start : Nat) :
    text.idxsOf c start = [] := by
  apply List.eq_nil_of_length_eq_zero
  rw [List.length_idxsOf, List.count_eq_zero_of_not_mem h]

/-- what is made of the places of a text in a list, the first entry apart -/
theorem map_idxsOf_cons (f : Nat → Nat) (a b : String) (texts : List String) :
    ((a :: texts).idxsOf b).map f = (if a = b then [f 0] else []) ++ (texts.idxsOf b).map fun i => f (i + 1) := by
  rw [List.idxsOf_cons, Nat.zero_add, List.idxsOf_start]
  by_cases same : a = b
  · simp [same, Function.comp_def]
  · simp [same, Function.comp_def]

/-- the token is a line break that the lexer knew, or stands on one line and is of another kind -/
def Token.Lined (t : Token) : Prop :=
  t.lexeme = "\n" ∧ t.kind = .symbol .newline ∨ '\n' ∉ t.lexeme.toList ∧ t.kind ≠ .symbol .newline

namespace Lexer

variable {lexer : Lexer}

/-! ## What is taken -/

/-- characters that are put together stand on one line -/
theorem Groups.break_not_mem (h : lexer.Groups input kind lexeme) : '\n' ∉ lexeme := by
  cases h with
  | pattern used longer taken => exact Pattern.break_not_mem longer taken
  | symbol listed written => exact Symbol.break_not_mem (SymbolTable.ne_newline listed)

theorem Groups.kind_ne_newline (h : lexer.Groups input kind lexeme) : kind ≠ .symbol .newline := by
  cases h with
  | pattern used longer taken => exact fun hk => longer (Pattern.kind_eq_newline_iff.1 hk)
  | symbol listed written => exact fun hk => SymbolTable.ne_newline listed (Kind.symbol.inj hk)

/-- the label of a line break is the kind it has where it is taken -/
theorem label_break (lexer : Lexer) : lexer.label '\n' = lexer.breakKind := by
  have written : Symbol.newline.lexeme = ['\n'] := rfl
  by_cases known : .newline ∈ lexer.patterns ∨ .newline ∈ lexer.oneChar.symbols
  · rw [breakKind, if_pos known]
    exact label_eq_symbol_iff.2 ⟨written, known.symm.imp_right fun used => ⟨rfl, used⟩⟩
  · rw [breakKind, if_neg known]
    rcases label_eq_error_or_symbol lexer '\n' with unknown | ⟨s, hs⟩
    · exact unknown
    · obtain ⟨hl, listed⟩ := label_eq_symbol_iff.1 hs
      obtain rfl : s = .newline := Symbol.lexeme_injective (hl.trans written.symm)
      exact absurd (listed.symm.imp_left And.right) known

theorem label_ne_newline {c : Char} (hc : c ≠ '\n') : lexer.label c ≠ .symbol .newline := by
  intro h
  have written : ['\n'] = [c] := (label_eq_symbol_iff.1 h).1
  exact hc (List.singleton_injective written).symm

/-- a lexer that goes on behind errors picks a line break alone, under the kind that it has for it -/
theorem Picks.break_cases (hr : lexer.recovery = .singleChar) (h : lexer.Picks kind lexeme rest) :
    lexeme = ['\n'] ∧ kind = lexer.breakKind ∨ '\n' ∉ lexeme ∧ kind ≠ .symbol .newline := by
  cases h with
  | group grouped => exact Or.inr ⟨grouped.break_not_mem, grouped.kind_ne_newline⟩
  | @single c rest alone kept =>
    by_cases hc : c = '\n'
    · subst hc
      exact Or.inl ⟨rfl, lexer.label_break⟩
    · exact Or.inr ⟨fun hm => hc (List.mem_singleton.1 hm).symm, label_ne_newline hc⟩
  | swallow alone unknown last =>
    rw [hr] at last
    cases last

theorem Takes.break_cases (hr : lexer.recovery = .singleChar) {chunk : Chunk} (h : lexer.Takes chunk rest) :
    chunk.lexeme = ['\n'] ∧ chunk.kind = lexer.breakKind ∨
      '\n' ∉ chunk.lexeme ∧ chunk.kind ≠ .symbol .newline :=
  h.picks.break_cases hr

/-! ## Lexers that know the line break -/

/-- an unrecognized character is an error of its own, and the line break is recognized, as a pattern or as a symbol -/
structure LineAware (lexer : Lexer) : Prop where
  single : lexer.recovery = .singleChar
  known : .newline ∈ lexer.patterns ∨ .newline ∈ lexer.oneChar.symbols

theorem LineAware.breakKind_eq (h : lexer.LineAware) : lexer.breakKind = .symbol .newline := by
  rw [breakKind, if_pos h.known]

/-- the tokens of such a lexer are line breaks by themselves, or stand on one line -/
theorem LineAware.lined (h : lexer.LineAware) (file : String) (source : List Char) :
    ∀ t ∈ (lexer.lex file source).tokens, t.Lined := by
  obtain ⟨chunks, last, cuts, blank⟩ := lexer.exists_cuts source
  have each : ∀ c ∈ chunks, c.lexeme = ['\n'] ∧ c.kind = lexer.breakKind ∨
      '\n' ∉ c.lexeme ∧ c.kind ≠ .symbol .newline :=
    cuts.forall_mem fun _ _ taken => taken.break_cases h.single
  rw [lexer.lex_eq_of_cuts file cuts blank]
  refine Chunk.forall_mem_tokens (fun c hc p => ?_) .start
  rcases each c hc with ⟨alone, kind⟩ | ⟨unbroken, kind⟩
  · refine Or.inl ⟨?_, kind.trans h.breakKind_eq⟩
    rw [Chunk.token, alone]
  · refine Or.inr ⟨?_, kind⟩
    rwa [Chunk.token, String.toList_ofList]

/-! ## The line breaks of a source -/

/-- the line break in the text of a chunk, if it has one, is its lexeme -/
theorem Takes.idxsOf_break (hr : lexer.recovery = .singleChar) {chunk : Chunk} (h : lexer.Takes chunk rest) :
    chunk.text.idxsOf '\n' = if String.ofList chunk.lexeme = "\n" then [chunk.gap.length] else [] := by
  have gap : chunk.gap.idxsOf '\n' = [] := idxsOf_eq_nil_of_not_mem (h.blank.not_mem (by decide)) 0
  rw [Chunk.text, List.idxsOf_append, gap, List.nil_append, Nat.zero_add]
  rcases h.break_cases hr with ⟨alone, -⟩ | ⟨unbroken, -⟩
  · rw [alone, if_pos rfl]
    rfl
  · have other : String.ofList chunk.lexeme ≠ "\n" := by
      intro he
      have alone : chunk.lexeme = ['\n'] := String.ofList_injective he
      exact unbroken (by simp [alone])
    rw [if_neg other, idxsOf_eq_nil_of_not_mem unbroken]

/-- the tokens of the line break start where the line breaks of the source stand -/
theorem Cuts.idxsOf_break (hr : lexer.recovery = .singleChar) {source last : List Char} {chunks : List Chunk}
    (h : lexer.Cuts source chunks last) (hl : Blank last) (file : String) (p : Position) :
    (((Chunk.tokens file p chunks).map Token.lexeme).idxsOf "\n").map
        (fun i => (textBefore (chunks.map Chunk.gap) (Chunk.tokens file p chunks) i).length) =
      source.idxsOf '\n' := by
  induction h generalizing p with
  | done rest =>
    rw [idxsOf_eq_nil_of_not_mem (hl.not_mem (by decide))]
    rfl
  | @take chunk source chunks rest first others ih =>
    -- behind the first chunk every offset is moved by the text of that chunk
    have behind : source.idxsOf '\n' chunk.text.length =
        (((Chunk.tokens file (p.advance chunk.text) chunks).map Token.lexeme).idxsOf "\n").map fun i =>
          (textBefore (chunks.map Chunk.gap) (Chunk.tokens file (p.advance chunk.text) chunks) i).length +
            chunk.text.length := by
      rw [List.idxsOf_start, ← ih hl (p.advance chunk.text), List.map_map]
      rfl
    rw [List.idxsOf_append, first.idxsOf_break hr, Nat.zero_add, behind, Chunk.tokens_cons,
      List.map_cons (f := Token.lexeme), map_idxsOf_cons]
    congr 1
    apply List.map_congr_left
    intro i _
    simp only [List.map_cons, textBefore, Chunk.token, String.toList_ofList, Chunk.text, List.length_append]
    omega

/-- **One token for each line break.** Where an unrecognized character is an error of its own, the tokens with the line
break for a lexeme start, in order, where the line breaks of the source stand. No other token holds a line break. All of
them are symbols if the lexer knows the line break, by its pattern or from the table, and errors if it does not; and no
other token is that symbol. -/
theorem lex_breaks (lexer : Lexer) (hr : lexer.recovery = .singleChar) (file : String) (source : List Char) :
    let tokens := (lexer.lex file source).tokens
    (∃ gaps last, Tiling source tokens gaps last ∧
        ((tokens.map Token.lexeme).idxsOf "\n").map (fun i => (textBefore gaps tokens i).length) =
          source.idxsOf '\n') ∧
      ∀ t ∈ tokens,
        ('\n' ∈ t.lexeme.toList → t.lexeme = "\n") ∧
        (t.lexeme = "\n" → t.kind =
          if .newline ∈ lexer.patterns ∨ .newline ∈ lexer.oneChar.symbols then .symbol .newline else .error) ∧
        (t.kind = .symbol .newline → t.lexeme = "\n") := by
  intro tokens
  obtain ⟨chunks, last, cuts, blank⟩ := lexer.exists_cuts source
  have placed : tokens = Chunk.tokens file .start chunks := tokens_eq_of_cuts file cuts blank
  rw [placed]
  constructor
  · exact ⟨chunks.map Chunk.gap, last, cuts.tiling blank file .start, cuts.idxsOf_break hr blank file .start⟩
  · refine Chunk.forall_mem_tokens (fun c hc p => ?_) .start
    have held := cuts.forall_mem (fun _ _ taken => taken.break_cases hr) c hc
    rw [Chunk.token, String.toList_ofList]
    rcases held with ⟨alone, kind⟩ | ⟨unbroken, kind⟩
    · rw [alone]
      exact ⟨fun _ => rfl, fun _ => kind, fun _ => rfl⟩
    · refine ⟨fun broken => absurd broken unbroken, fun alone => ?_, fun known => absurd known kind⟩
      have whole : c.lexeme = ['\n'] := String.ofList_injective alone
      exact absurd (by simp [whole]) unbroken

/-- line breaks behind an open double quote and between single quotes, under a lexer that does not know them -/
theorem lex_breaks_unknown :
    let lexer : Lexer := ⟨.standardTwo, .standardOne, .quotes, .singleChar⟩
    let source := ['"', '=', '\n', '\'', '\n', '\'', '\t', '\n']
    let tokens := (lexer.lex "n.st" source).tokens
    lexer.recovery = .singleChar ∧
      (lexer.lex "n.st" source).kinds = [.error, .symbol .equal, .error, .error, .error, .error, .error] ∧
      source.idxsOf '\n' = [2, 4, 7] ∧
      (∃ gaps last, Tiling source tokens gaps last ∧
        ((tokens.map Token.lexeme).idxsOf "\n").map (fun i => (textBefore gaps tokens i).length) =
          source.idxsOf '\n') ∧
      ∀ t ∈ tokens,
        ('\n' ∈ t.lexeme.toList → t.lexeme = "\n") ∧
        (t.lexeme = "\n" → t.kind =
          if .newline ∈ lexer.patterns ∨ .newline ∈ lexer.oneChar.symbols then .symbol .newline else .error) ∧
        (t.kind = .symbol .newline → t.lexeme = "\n") := by
  intro lexer source tokens
  exact ⟨rfl, by decide +kernel, by decide +kernel, lex_breaks lexer rfl "n.st" source⟩

end Lexer

end TokenScanner
