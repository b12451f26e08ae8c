/-
Literals opened up.

A lexer without the quote patterns sees two characters at most of what comes: no other group needs more to start or not
to start (`Lexer.Quoteless.ungrouped`), and none has a quote in it (`Lexer.Quoteless.not_mem_group`). So a text that
ends with a quote is cut the same whatever follows it (`Lexer.Cuts.extend`), and the text of a literal, in its place in
a source, is cut as it is alone. All else the lexer takes as one with those patterns does.

- `Pattern.quoted_lexeme`: a literal is on one line and ends with a quote.
- `Lexer.Cuts.extend`: a cut of a text that ends with a quote goes on over what follows.
- `Lexer.opens_quotes`: where one lexer takes a literal the other takes what the literal alone gives.
- `Lexer.lex_without_quotes`: the stream without literals, made from the stream with them.
-/
import TokenScanner.Proofs.Opening
import TokenScanner.Proofs.Rescan

namespace TokenScanner

/-! ## Quotes -/

/-- a single or a double quote -/
def IsQuote (c : Char) : Prop :=
  c = '\'' ∨ c = '"'

theorem IsQuote.isBlank_eq_false {q : Char} (hq : IsQuote q) : isBlank q = false := by
  rcases hq with rfl | rfl
  · decide
  · decide

theorem Symbol.not_mem_lexeme_of_quote (s : Symbol) {q : Char} (hq : IsQuote q) : q ∉ s.lexeme := by
  rcases hq with rfl | rfl
  · cases s <;> decide
  · cases s <;> decide

/-- the kind is one of the two of literals -/
def Kind.IsLiteral (kind : Kind) : Prop :=
  kind = .singleQuoted ∨ kind = .doubleQuoted

instance (kind : Kind) : Decidable kind.IsLiteral :=
  inferInstanceAs (Decidable (kind = .singleQuoted ∨ kind = .doubleQuoted))

namespace Pattern

variable {p : Pattern} {input lexeme : List Char} {c : Char}

/-- the pattern is one of the two of literals -/
def Quoted (p : Pattern) : Prop :=
  p = singleQuoted ∨ p = doubleQuoted

instance (p : Pattern) : Decidable p.Quoted :=
  inferInstanceAs (Decidable (p = singleQuoted ∨ p = doubleQuoted))

theorem mem_without_quotes {set : PatternSet} : p ∈ set.without .quotes ↔ p ∈ set ∧ ¬ p.Quoted := by
  have quotes : p ∈ PatternSet.quotes ↔ p.Quoted := by cases p <;> decide
  rw [PatternSet.mem_without, quotes]

theorem isLiteral_kind_iff : p.kind.IsLiteral ↔ p.Quoted := by cases p <;> decide

/-- a literal is on one line and ends with a quote -/
theorem quoted_lexeme (hp : p.Quoted) (h : p.match? input = some lexeme) :
    '\n' ∉ lexeme ∧ ∃ q, IsQuote q ∧ lexeme.getLast? = some q := by
  rcases hp with rfl | rfl
  · rcases singleQuoted?_eq_some_iff.1 h with ⟨-, -, rfl⟩ | ⟨c, -, -, hn, -, rfl⟩
    · exact ⟨by decide, '\'', Or.inl rfl, rfl⟩
    · exact ⟨by simp [hn.symm], '\'', Or.inl rfl, rfl⟩
  · obtain ⟨body, -, hb, -, rfl⟩ := doubleQuoted?_eq_some_iff.1 h
    have unbroken : '\n' ∉ body := fun hn => absurd (hb _ hn) (by decide)
    exact ⟨by simp [unbroken], '"', Or.inr rfl, by simp [List.getLast?_cons]⟩

/-- no other pattern looks further than its first character to find out if it matches -/
theorem exists_match?_of_first (hp : ¬ p.Quoted) {a b : List Char} (h : p.match? (c :: a) = some lexeme) :
    ∃ lexeme', p.match? (c :: b) = some lexeme' := by
  cases p with
  | digits =>
    have hc := isDigit_of_digits? h
    exact ⟨_, digits?_eq_some_iff.2 ⟨rfl, by simp [hc]⟩⟩
  | ident =>
    change ident? (c :: a) = some lexeme at h
    obtain ⟨d, rest, he, hd, -⟩ := ident?_eq_some_iff.1 h
    cases he
    exact ⟨_, ident?_eq_some_iff.2 ⟨c, b, rfl, hd, rfl⟩⟩
  | newline =>
    obtain ⟨rest, he, -⟩ := newline?_eq_some_iff.1 h
    cases he
    exact ⟨_, newline?_eq_some_iff.2 ⟨b, rfl, rfl⟩⟩
  | singleQuoted => exact absurd (Or.inl rfl) hp
  | doubleQuoted => exact absurd (Or.inr rfl) hp

/-- no other pattern takes a quote -/
theorem not_mem_of_quote (hp : ¬ p.Quoted) (h : p.match? input = some lexeme) {q : Char} (hq : IsQuote q) :
    q ∉ lexeme := by
  intro hm
  cases p with
  | digits =>
    rw [(digits?_eq_some_iff.1 h).1] at hm
    have digit := List.mem_takeWhile_imp hm
    rcases hq with rfl | rfl
    · cases digit
    · cases digit
  | ident =>
    obtain ⟨c, rest, -, hc, rfl⟩ := ident?_eq_some_iff.1 h
    have part : isNamePart q = true := by
      rcases List.mem_cons.1 hm with rfl | hm
      · rw [isNamePart, hc, Bool.true_or]
      · exact List.mem_takeWhile_imp hm
    rcases hq with rfl | rfl
    · cases part
    · cases part
  | newline =>
    obtain ⟨-, -, rfl⟩ := newline?_eq_some_iff.1 h
    rcases hq with rfl | rfl
    · cases hm with | tail _ hm => cases hm
    · cases hm with | tail _ hm => cases hm
  | singleQuoted => exact hp (Or.inl rfl)
  | doubleQuoted => exact hp (Or.inr rfl)

end Pattern

namespace Lexer

/-! ## Quotes that start no literal -/

/-- no lexer knows a quote by itself -/
theorem label_quote (lexer : Lexer) {q : Char} (hq : IsQuote q) : lexer.label q = .error := by
  rcases hq with rfl | rfl
  · rfl
  · rfl

/-- a quote stands alone where it starts no literal of its pattern -/
theorem ungrouped_of_quote {lexer : Lexer} {q : Char} {p : Pattern} {rest : List Char} (hq : IsQuote q)
    (first : Pattern.ofFirst? q = some p) (h : p.match? (q :: rest) = none) : lexer.Ungrouped (q :: rest) := by
  intro kind lexeme hg
  cases hg with
  | @pattern other _ used longer taken =>
    obtain rfl : p = other := Option.some.inj (first.symm.trans (Pattern.ofFirst?_of_match? taken))
    rw [h] at taken
    cases taken
  | @symbol s listed written =>
    obtain ⟨d, tail, hd⟩ := List.exists_cons_of_ne_nil (SymbolTable.lexeme_ne_nil (by decide) listed)
    rw [hd] at written
    obtain ⟨rfl, -⟩ := List.cons_prefix_cons.1 written
    exact s.not_mem_lexeme_of_quote hq (by rw [hd]; exact List.mem_cons_self)

/-! ## Lexers without the quote patterns -/

/-- the lexer uses neither pattern of literals -/
def Quoteless (lexer : Lexer) : Prop :=
  ∀ p ∈ lexer.patterns, ¬ p.Quoted

variable {lexer : Lexer} {source input lexeme rest rest' : List Char} {kind : Kind} {c d q : Char} {chunk : Chunk}
  {chunks : List Chunk}

theorem Quoteless.not_mem_group (hl : lexer.Quoteless) (h : lexer.Groups input kind lexeme) (hq : IsQuote q) :
    q ∉ lexeme := by
  cases h with
  | pattern used longer taken => exact Pattern.not_mem_of_quote (hl _ used) taken hq
  | @symbol s listed written => exact s.not_mem_lexeme_of_quote hq

theorem Quoteless.ungrouped_quote (hl : lexer.Quoteless) (hq : IsQuote q) (rest : List Char) :
    lexer.Ungrouped (q :: rest) := by
  intro kind lexeme hg
  obtain ⟨c, tail, rfl⟩ := List.exists_cons_of_ne_nil hg.lexeme_ne_nil
  obtain ⟨rfl, -⟩ := List.cons_prefix_cons.1 hg.lexeme_prefix
  exact hl.not_mem_group hg hq List.mem_cons_self

/-- two characters are enough to tell that a character stands alone -/
theorem Quoteless.ungrouped (hl : lexer.Quoteless) (h : lexer.Ungrouped (c :: d :: rest)) (rest' : List Char) :
    lexer.Ungrouped (c :: d :: rest') := by
  intro kind lexeme hg
  cases hg with
  | pattern used longer taken =>
    obtain ⟨lexeme', taken'⟩ := Pattern.exists_match?_of_first (hl _ used) taken
    exact h _ _ (.pattern used longer taken')
  | @symbol s listed written =>
    obtain ⟨x, y, hs⟩ := List.length_eq_two.1 (lexer.twoChar.width_eq s listed)
    refine h _ _ (.symbol listed ?_)
    rw [hs] at written ⊢
    obtain ⟨rfl, tail⟩ := List.cons_prefix_cons.1 written
    obtain ⟨rfl, -⟩ := List.cons_prefix_cons.1 tail
    exact ⟨rest, rfl⟩

theorem Takes.with_next (hl : lexer.Quoteless) (h : lexer.Takes chunk (d :: rest)) (rest' : List Char) :
    lexer.Takes chunk (d :: rest') := by
  obtain ⟨gap, kind, lexeme⟩ := chunk
  have picked : lexer.Picks kind lexeme (d :: rest) := h.picks
  cases picked with
  | group grouped =>
    refine h.of_picks (.group (grouped.of_head fun e he => Or.inr ?_))
    exact he
  | single alone kept => exact h.of_picks (.single (hl.ungrouped alone rest') kept)

/-- a quote at the end of the text is taken alone, whatever follows -/
theorem Takes.last_quote (hl : lexer.Quoteless) (hr : lexer.recovery = .singleChar) (h : lexer.Takes chunk [])
    (hq : IsQuote q) (hlast : chunk.lexeme.getLast? = some q) (rest : List Char) : lexer.Takes chunk rest := by
  obtain ⟨gap, kind, lexeme⟩ := chunk
  have picked : lexer.Picks kind lexeme [] := h.picks
  cases picked with
  | group grouped => exact absurd (List.mem_of_getLast? hlast) (hl.not_mem_group grouped hq)
  | @single c _ alone kept =>
    obtain rfl : c = q := by simpa using hlast
    exact h.of_picks (.single (hl.ungrouped_quote hq rest) kept)
  | swallow alone unknown all =>
    rw [hr] at all
    cases all

theorem Cuts.extend (hl : lexer.Quoteless) (hr : lexer.recovery = .singleChar) (hq : IsQuote q)
    (h : lexer.Cuts source chunks []) (hlast : source.getLast? = some q) (rest : List Char) :
    lexer.Cuts (source ++ rest) chunks rest := by
  generalize hend : ([] : List Char) = last at h
  induction h with
  | done =>
    subst hend
    cases hlast
  | @take chunk source chunks last first others ih =>
    subst hend
    rw [List.append_assoc]
    cases others with
    | done =>
      rw [List.append_nil, Chunk.text, List.getLast?_append_of_ne_nil _ first.ne_nil] at hlast
      exact .take (first.last_quote hl hr hq hlast rest) (.done rest)
    | @take second behind _ _ taken left =>
      have hne : second.text ++ behind ≠ [] := by simp [Chunk.text, taken.ne_nil]
      rw [List.getLast?_append_of_ne_nil _ hne] at hlast
      have cut := ih hlast rfl
      obtain ⟨d, tail, hd⟩ := List.exists_cons_of_ne_nil hne
      rw [hd] at first cut ⊢
      exact .take (first.with_next hl (tail ++ rest)) cut

/-- a text that ends with a quote is cut to its end -/
theorem exists_cuts_of_last_quote (lexer : Lexer) (hq : IsQuote q) (hlast : source.getLast? = some q) :
    ∃ chunks, lexer.Cuts source chunks [] ∧ chunks ≠ [] := by
  obtain ⟨chunks, last, hc, blank⟩ := lexer.exists_cuts source
  have parts := hc.source_eq
  obtain rfl : last = [] := by
    by_contra hne
    rw [parts, List.getLast?_append_of_ne_nil _ hne] at hlast
    have solid := hq.isBlank_eq_false
    rw [blank.all_isBlank q (List.mem_of_getLast? hlast)] at solid
    cases solid
  refine ⟨chunks, hc, ?_⟩
  rintro rfl
  rw [parts] at hlast
  cases hlast

/-! ## Without literals -/

theorem quoteless_without_quotes (lexer : Lexer) :
    ({ lexer with patterns := lexer.patterns.without .quotes } : Lexer).Quoteless :=
  fun _ used => (Pattern.mem_without_quotes.1 used).2

theorem drops_quotes (lexer : Lexer) :
    Drops Kind.IsLiteral lexer { lexer with patterns := lexer.patterns.without .quotes } where
  label_eq := by
    have same : Pattern.newline ∈ lexer.patterns.without .quotes ↔ .newline ∈ lexer.patterns := by
      rw [Pattern.mem_without_quotes]
      exact and_iff_left (by decide)
    intro c
    simp only [label, same]
  groups := by
    intro input kind lexeme hg
    cases hg with
    | pattern used longer taken => exact .pattern (Pattern.mem_without_quotes.1 used).1 longer taken
    | symbol listed written => exact .symbol listed written
  kept := by
    intro input kind lexeme hg hk
    cases hg with
    | @pattern p _ used longer taken =>
      exact .pattern (Pattern.mem_without_quotes.2 ⟨used, fun hp => hk (Pattern.isLiteral_kind_iff.2 hp)⟩) longer taken
    | symbol listed written => exact .symbol listed written

/-- what is taken as a literal is on one line and ends with a quote -/
theorem Takes.literal (h : lexer.Takes chunk rest) (hk : chunk.kind.IsLiteral) :
    '\n' ∉ chunk.lexeme ∧ ∃ q, IsQuote q ∧ chunk.lexeme.getLast? = some q := by
  rcases hk with single | double
  · exact Pattern.quoted_lexeme (Or.inl rfl) (h.match?_of_kind (p := .singleQuoted) single (by decide))
  · exact Pattern.quoted_lexeme (Or.inr rfl) (h.match?_of_kind (p := .doubleQuoted) double (by decide))

theorem opens_quotes (hr : lexer.recovery = .singleChar) (file : String) :
    let plain : Lexer := { lexer with patterns := lexer.patterns.without .quotes }
    lexer.Opens plain file fun t =>
      if t.kind.IsLiteral then (plain.lex file t.lexeme.toList).tokens.map (Token.movedTo t.position) else [t] := by
  intro plain chunk rest h
  by_cases hk : chunk.kind.IsLiteral
  · obtain ⟨unbroken, q, hq, hlast⟩ := h.literal hk
    obtain ⟨parts, cut, hne⟩ := plain.exists_cuts_of_last_quote hq hlast
    have extended := cut.extend lexer.quoteless_without_quotes hr hq hlast rest
    refine ⟨Chunk.behind chunk.gap parts, ?_, fun p hp => ?_⟩
    · rw [Chunk.text, List.append_assoc]
      exact extended.behind h.blank hne
    · have alone : plain.lex file chunk.lexeme = ⟨file, Chunk.tokens file .start parts⟩ :=
        lex_eq_of_cuts file cut blank_nil
      rw [cut.source_eq, List.append_nil] at unbroken
      rw [Chunk.tokens_behind, Chunk.tokens_movedTo (Position.one_le_column_advance hp chunk.gap) unbroken]
      refine Eq.trans ?_ (if_pos hk).symm
      simp only [Chunk.token, String.toList_ofList, alone]
      rfl
  · refine ⟨[chunk], .take (h.keep (drops_quotes lexer) hr hr hk) (.done rest), fun p _ => ?_⟩
    exact (if_neg hk).symm

/-- **Without the quote patterns literals are opened up.** Where an unrecognized character is an error of its own:
without those patterns the stream is the same, but for the tokens that each literal gives alone, moved to where the
literal stands. They are on its line, and in a source whose positions fit their words their columns are the columns in
the literal, counted on from the column of the literal. -/
theorem lex_without_quotes (lexer : Lexer) (hr : lexer.recovery = .singleChar) (file : String) (source : List Char) :
    let plain : Lexer := { lexer with patterns := lexer.patterns.without .quotes }
    let stream := lexer.lex file source
    plain.lex file source =
        { stream with
          tokens := stream.tokens.flatMap fun t =>
            if t.kind.IsLiteral then (plain.lex file t.lexeme.toList).tokens.map (Token.movedTo t.position) else [t] } ∧
      ∀ t ∈ stream.tokens, t.kind.IsLiteral → ∀ u ∈ (plain.lex file t.lexeme.toList).tokens,
        u.line = 1 ∧ (u.movedTo t.position).line = t.line ∧
          (source.length < UInt32.size - 1 →
            (u.movedTo t.position).column.toNat = u.column.toNat + (t.column.toNat - 1)) := by
  intro plain stream
  have opened : plain.lex file source = _ := (opens_quotes hr file).lex_eq source
  refine ⟨opened, fun t ht hk u hu => ⟨?_, rfl, fun short => Position.column_right_eq_add ?_⟩⟩
  · exact plain.line_eq_one file ((takes_of_mem_lex ht).literal hk).1 u hu
  · -- the moved token is one of the other stream, where no column is at the end of its word
    have moved : u.movedTo t.position ∈ (plain.lex file source).tokens := by
      rw [opened, List.mem_flatMap]
      refine ⟨t, ht, ?_⟩
      rw [if_pos hk]
      exact List.mem_map_of_mem hu
    exact plain.column_lt file short _ moved

/-- a literal with blanks, an operator and a literal of the other kind in it, and one behind it that is written with its
last quote -/
theorem lex_without_quotes_nested :
    let plain : Lexer := { standard with patterns := standard.patterns.without .quotes }
    let source := ['\t', '"', ' ', '=', '=', '\'', 'a', '\'', '"', '\'', '"', '\'']
    let stream := standard.lex "n.st" source
    standard.recovery = .singleChar ∧ stream.kinds = [.doubleQuoted, .singleQuoted] ∧
      plain.lex "n.st" source =
        { stream with
          tokens := stream.tokens.flatMap fun t =>
            if t.kind.IsLiteral then (plain.lex "n.st" t.lexeme.toList).tokens.map (Token.movedTo t.position)
            else [t] } ∧
      ∀ t ∈ stream.tokens, t.kind.IsLiteral → ∀ u ∈ (plain.lex "n.st" t.lexeme.toList).tokens,
        u.line = 1 ∧ (u.movedTo t.position).line = t.line ∧
          (source.length < UInt32.size - 1 →
            (u.movedTo t.position).column.toNat = u.column.toNat + (t.column.toNat - 1)) := by
  intro plain source stream
  exact ⟨rfl, by decide +kernel, lex_without_quotes standard rfl "n.st" source⟩

end Lexer

end TokenScanner
