/-
Lines are scanned on their own.

Where an unrecognized character is an error of its own, what a lexer takes off a text does not depend on what stands
behind a line break further on: no pattern and no symbol goes on over a line break, and quotes that are open at one are
not literals. So a cut of the text before the break stays a cut, the break is a chunk, and the text behind it is cut as
a source of its own.

- `Lexer.classify_append_break`: what stands behind a line break has no say in what a text starts with.
- `Lexer.classify_break`: a line break is a token, a symbol where the lexer knows it and else an error.
- `Lexer.lex_append_break`: the tokens of two texts with a line break between them.
-/
import TokenScanner.Proofs.Placement

namespace TokenScanner

/-! ## Matches before a stop -/

theorem takeWhile_append_stop {p : Char → Bool} {c : Char} (h : p c = false) (a b : List Char) :
    (a ++ c :: b).takeWhile p = a.takeWhile p := by
  rw [List.takeWhile_append]
  split
  · rename_i hl
    rw [List.takeWhile_cons, h, (List.takeWhile_prefix p).eq_of_length hl]
    simp
  · rfl

theorem isPrefixOf_append_stop {text : List Char} {c : Char} (h : c ∉ text) (a b : List Char) :
    text.isPrefixOf (a ++ c :: b) = text.isPrefixOf a := by
  induction text generalizing a with
  | nil => rw [List.isPrefixOf_nil_left, List.isPrefixOf_nil_left]
  | cons d text ih =>
    rw [List.mem_cons, not_or] at h
    cases a with
    | nil => simp [List.isPrefixOf_cons_cons, Ne.symm h.1]
    | cons e a => rw [List.cons_append, List.isPrefixOf_cons_cons, List.isPrefixOf_cons_cons, ih h.2]

/-- a line break stands in no symbol behind its first character -/
theorem Symbol.break_not_mem_tail (s : Symbol) : '\n' ∉ s.lexeme.tail := by cases s <;> decide

variable {a : List Char}

namespace Pattern

theorem digits?_append_stop {c : Char} (h : isDigit c = false) (a b : List Char) :
    digits? (a ++ c :: b) = digits? a := by
  rw [digits?, takeWhile_append_stop h, ← digits?]

theorem ident?_append_stop {c : Char} (h : isNamePart c = false) (hne : a ≠ []) (b : List Char) :
    ident? (a ++ c :: b) = ident? a := by
  obtain ⟨d, rest, rfl⟩ := List.exists_cons_of_ne_nil hne
  rw [List.cons_append, ident?, ident?, takeWhile_append_stop h]

theorem newline?_append (hne : a ≠ []) (b : List Char) : newline? (a ++ b) = newline? a := by
  obtain ⟨d, rest, rfl⟩ := List.exists_cons_of_ne_nil hne
  refine Option.ext fun lexeme => ?_
  simp [newline?_eq_some_iff]

theorem singleQuoted?_append_break (hne : a ≠ []) (b : List Char) :
    singleQuoted? (a ++ '\n' :: b) = singleQuoted? a := by
  refine Option.ext fun lexeme => ?_
  rw [singleQuoted?_eq_some_iff, singleQuoted?_eq_some_iff]
  -- at most three characters are looked at
  match a, hne with
  | [x], _ => simp
  | [x, y], _ => simp
  | x :: y :: z :: rest, _ => simp

theorem doubleQuoted?_append_break (hne : a ≠ []) (b : List Char) :
    doubleQuoted? (a ++ '\n' :: b) = doubleQuoted? a := by
  have stop : isQuotable '\n' = false := by decide
  obtain ⟨c, rest, rfl⟩ := List.exists_cons_of_ne_nil hne
  by_cases hc : c = '"'
  · subst hc
    simp only [List.cons_append, doubleQuoted?, takeWhile_append_stop stop, List.dropWhile_append]
    cases hd : rest.dropWhile isQuotable with
    | nil => simp [stop]
    | cons d tail => by_cases hq : d = '"' <;> simp [hq]
  · simp [doubleQuoted?, hc]

theorem match?_append_break (p : Pattern) (hne : a ≠ []) (b : List Char) :
    p.match? (a ++ '\n' :: b) = p.match? a := by
  cases p with
  | digits => exact digits?_append_stop (by decide) a b
  | ident => exact ident?_append_stop (by decide) hne b
  | newline => exact newline?_append hne _
  | singleQuoted => exact singleQuoted?_append_break hne b
  | doubleQuoted => exact doubleQuoted?_append_break hne b

end Pattern

theorem SymbolTable.match?_append_break {width : Nat} (table : SymbolTable width) (hne : a ≠ []) (b : List Char) :
    table.match? (a ++ '\n' :: b) = table.match? a := by
  have each : ∀ s : Symbol, s.lexeme.isPrefixOf (a ++ '\n' :: b) = s.lexeme.isPrefixOf a := by
    intro s
    have htail := s.break_not_mem_tail
    obtain ⟨c, rest, rfl⟩ := List.exists_cons_of_ne_nil hne
    cases hs : s.lexeme with
    | nil => rw [List.isPrefixOf_nil_left, List.isPrefixOf_nil_left]
    | cons d tail =>
      rw [hs, List.tail_cons] at htail
      rw [List.cons_append, List.isPrefixOf_cons_cons, List.isPrefixOf_cons_cons, isPrefixOf_append_stop htail]
  simp only [SymbolTable.match?, each]

namespace Lexer

variable {lexer : Lexer}

/-- more text behind an input has no say in what the input starts with, if it has none for any pattern or table -/
theorem classify_append (hr : lexer.recovery = .singleChar) {b : List Char} (hne : a ≠ [])
    (patterns : ∀ p : Pattern, p.match? (a ++ b) = p.match? a)
    (tables : ∀ {width : Nat} (table : SymbolTable width), table.match? (a ++ b) = table.match? a) :
    lexer.classify (a ++ b) = lexer.classify a := by
  have same : lexer.recognize (a ++ b) = lexer.recognize a := by
    simp only [recognize, classifyPattern, classifySymbol, patterns, tables]
  have behind : a ++ b ≠ [] := List.append_ne_nil_of_left_ne_nil hne b
  rw [classify_eq_recognize hne, classify_eq_recognize behind, same, hr]
  obtain ⟨c, rest, rfl⟩ := List.exists_cons_of_ne_nil hne
  rfl

theorem classify_append_break (hr : lexer.recovery = .singleChar) (hne : a ≠ []) (b : List Char) :
    lexer.classify (a ++ '\n' :: b) = lexer.classify a :=
  classify_append hr hne (fun p => p.match?_append_break hne b) fun table => table.match?_append_break hne b

end Lexer

/-! ## The line break itself -/

theorem Pattern.match?_break (p : Pattern) (rest : List Char) :
    p.match? ('\n' :: rest) = if p = .newline then some ['\n'] else none := by
  cases p <;> rfl

theorem Symbol.isPrefixOf_break (s : Symbol) (rest : List Char) :
    s.lexeme.isPrefixOf ('\n' :: rest) = decide (s = .newline) := by
  cases s <;> rfl

theorem SymbolTable.match?_break {width : Nat} (table : SymbolTable width) (rest : List Char) :
    table.match? ('\n' :: rest) = if .newline ∈ table.symbols then some .newline else none := by
  simp only [SymbolTable.match?, Symbol.isPrefixOf_break]
  by_cases h : .newline ∈ table.symbols
  · cases hf : table.symbols.find? (fun s => decide (s = .newline)) with
    | none =>
      rw [List.find?_eq_none] at hf
      exact absurd (by simp) (hf _ h)
    | some s =>
      have hs : s = .newline := by simpa using List.find?_some hf
      rw [if_pos h, hs]
  · rw [if_neg h, List.find?_eq_none]
    intro s hs
    rw [decide_eq_true_eq]
    rintro rfl
    exact h hs

namespace Lexer

variable {lexer : Lexer}

/-- the kind of a line break -/
def breakKind (lexer : Lexer) : Kind :=
  if .newline ∈ lexer.patterns ∨ .newline ∈ lexer.oneChar.symbols then .symbol .newline else .error

theorem recognize_break (lexer : Lexer) (rest : List Char) :
    lexer.recognize ('\n' :: rest) =
      if .newline ∈ lexer.patterns ∨ .newline ∈ lexer.oneChar.symbols then some (.symbol .newline, 1) else none := by
  have one : Text.byteWidth ['\n'] = 1 := by decide
  have two : .newline ∉ lexer.twoChar.symbols := fun h => absurd (lexer.twoChar.width_eq _ h) (by decide)
  have pattern : lexer.classifyPattern Pattern.all ('\n' :: rest) =
      if .newline ∈ lexer.patterns then some (.symbol .newline, 1) else none := by
    simp only [classifyPattern, Pattern.all, List.findSome?_cons, List.findSome?_nil, Pattern.match?_break]
    by_cases h : .newline ∈ lexer.patterns
    · simp [h, one, Pattern.kind]
    · simp [h]
  have symbol : lexer.classifySymbol ('\n' :: rest) =
      if .newline ∈ lexer.oneChar.symbols then some (.symbol .newline, 1) else none := by
    rw [classifySymbol, SymbolTable.match?_break, SymbolTable.match?_break, if_neg two, Option.none_or]
    split
    · rw [Option.map_some, Symbol.lexeme, one]
    · rfl
  rw [recognize, pattern, symbol]
  by_cases h : .newline ∈ lexer.patterns
  · simp [h]
  · simp [h]

theorem classify_break (hr : lexer.recovery = .singleChar) (rest : List Char) :
    lexer.classify ('\n' :: rest) = some (lexer.breakKind, 1) := by
  have one : Recovery.width .singleChar ('\n' :: rest) = 1 := rfl
  rw [classify_eq_recognize (by simp), recognize_break, hr, one, breakKind]
  split
  · rfl
  · rfl

/-! ## Cuts -/

/-- a cut of the text before a line break goes as far where more text follows the break -/
theorem Cuts.append_break (hr : lexer.recovery = .singleChar) {source rest : List Char} {chunks : List Chunk}
    (h : lexer.Cuts source chunks rest) (b : List Char) :
    lexer.Cuts (source ++ '\n' :: b) chunks (rest ++ '\n' :: b) :=
  h.append_behind fun _ hne _ => classify_append_break hr hne b

theorem takes_break (hr : lexer.recovery = .singleChar) {gap : List Char} (hg : Blank gap) (rest : List Char) :
    lexer.Takes ⟨gap, lexer.breakKind, ['\n']⟩ rest where
  blank := hg
  solid := ⟨'\n', [], rfl, by decide, by decide⟩
  classify_eq := classify_break hr rest

/-- the cut of two texts with a line break between them: the blanks before the break go to its chunk -/
theorem cuts_append_break (hr : lexer.recovery = .singleChar) {a b lastA lastB : List Char} {as bs : List Chunk}
    (ha : lexer.Cuts a as lastA) (hl : Blank lastA) (hb : lexer.Cuts b bs lastB) :
    lexer.Cuts (a ++ '\n' :: b) (as ++ ⟨lastA, lexer.breakKind, ['\n']⟩ :: bs) lastB := by
  refine (ha.append_break hr b).append ?_
  have := Cuts.take (takes_break hr hl b) hb
  rwa [Chunk.text, List.append_assoc] at this

end Lexer

/-! ## Tokens -/

theorem Token.shift_zero (lines : Nat) :
    Token.shift lines 0 = fun t => { t with line := t.line + UInt32.ofNat lines } := by
  funext t
  simp [Token.shift, Position.shift, Token.position]

/-- chunks behind the chunk of a line break stand as in a source of their own, lines further down -/
theorem Chunk.tokens_append_break (file : String) {a gap : List Char} {as bs : List Chunk} (kind : Kind)
    (ha : texts as ++ gap = a) (short : (a ++ '\n' :: texts bs).length + 1 < UInt32.size) :
    tokens file .start (as ++ ⟨gap, kind, ['\n']⟩ :: bs) =
      tokens file .start as ++ ⟨file, (Position.start.advance a).line, (Position.start.advance a).column, "\n", kind⟩ ::
        (tokens file .start bs).map (fun u => { u with line := u.line + UInt32.ofNat (1 + a.count '\n') }) := by
  rw [List.length_append, List.length_cons] at short
  have hbehind : (Position.start.advance (a ++ ['\n'])).Counts (a ++ ['\n']) := by
    refine .advance_start ?_
    rw [List.length_append, List.length_singleton]
    omega
  have hbs : tokens file (Position.start.advance (a ++ ['\n'])) bs =
      (tokens file .start bs).map (Token.shift ((a ++ ['\n']).count '\n') (Text.lastLine (a ++ ['\n'])).length) := by
    refine tokens_shift (by rwa [List.append_nil]) Position.counts_start ?_
    rw [List.nil_append, List.length_append, List.length_append, List.length_singleton]
    omega
  have hlines : (a ++ ['\n']).count '\n' = 1 + a.count '\n' := by
    rw [List.count_append, List.count_singleton_self, Nat.add_comm]
  rw [hlines, Text.lastLine_concat, if_pos rfl, List.length_nil, Token.shift_zero] at hbs
  have hadvance : (Position.start.advance (texts as)).advance (text ⟨gap, kind, ['\n']⟩) =
      Position.start.advance (a ++ ['\n']) := by
    rw [text, ← Position.advance_append, ← List.append_assoc, ha]
  rw [tokens_append, tokens_cons, hadvance, hbs, token, ← Position.advance_append, ha]

namespace Lexer

/-- **Line locality.** Where an unrecognized character is an error of its own, the tokens of two texts with a line break
between them are the tokens of the first, one for the break, and the tokens of the second, moved down by the lines of
the first. No line number leaves its word on the way. -/
theorem lex_append_break (lexer : Lexer) (hr : lexer.recovery = .singleChar) (file : String) (a b : List Char)
    (short : (a ++ '\n' :: b).length < UInt32.size - 1) :
    ∃ t : Token,
      (lexer.lex file (a ++ '\n' :: b)).tokens =
          (lexer.lex file a).tokens ++ t :: (lexer.lex file b).tokens.map
            (fun u => { u with line := u.line + UInt32.ofNat (1 + a.count '\n') }) ∧
        (t.lexeme = "\n" ∧ t.kind = lexer.breakKind ∧ t.file = file ∧ t.position.Counts a) ∧
        ∀ u ∈ (lexer.lex file b).tokens, u.line.toNat + (1 + a.count '\n') < UInt32.size := by
  obtain ⟨as, lastA, ha, hla⟩ := lexer.exists_cuts a
  obtain ⟨bs, lastB, hb, hlb⟩ := lexer.exists_cuts b
  have hlen : (Chunk.texts bs).length ≤ b.length := by
    rw [hb.source_eq, List.length_append]
    omega
  rw [List.length_append, List.length_cons] at short
  rw [lex_eq_of_cuts file (cuts_append_break hr ha hla hb) hlb, lex_eq_of_cuts file ha hla, lex_eq_of_cuts file hb hlb]
  refine ⟨_, Chunk.tokens_append_break file lexer.breakKind ha.source_eq.symm ?_, ⟨rfl, rfl, rfl, ?_⟩, fun u hu => ?_⟩
  · rw [List.length_append, List.length_cons]
    omega
  · exact Position.Counts.advance_start (by omega)
  · have hline := Chunk.line_le Position.counts_start (by rw [List.nil_append]; omega) u hu
    have hcount : (Chunk.texts bs).count '\n' ≤ (Chunk.texts bs).length := List.count_le_length
    have habove : a.count '\n' ≤ a.length := List.count_le_length
    rw [List.nil_append] at hline
    omega

/-- a double quote before the break and one behind it make no literal -/
theorem lex_append_break_open_quote :
    standard.recovery = .singleChar ∧ ['"', 'a', '\n', 'd', '"'].length < UInt32.size - 1 ∧
      ∃ t : Token,
        (standard.lex "q.st" ['"', 'a', '\n', 'd', '"']).tokens =
            (standard.lex "q.st" ['"', 'a']).tokens ++ t :: (standard.lex "q.st" ['d', '"']).tokens.map
              (fun u => { u with line := u.line + UInt32.ofNat 1 }) ∧
          (t.lexeme = "\n" ∧ t.kind = .symbol .newline ∧ t.file = "q.st" ∧ t.position.Counts ['"', 'a']) ∧
          ∀ u ∈ (standard.lex "q.st" ['d', '"']).tokens, u.line.toNat + 1 < UInt32.size :=
  ⟨rfl, by decide, lex_append_break standard rfl "q.st" ['"', 'a'] ['d', '"'] (by decide)⟩

end Lexer

end TokenScanner
