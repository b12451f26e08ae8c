/-
Strings that are left open.

With the pattern of double-quoted literals, a double quote that a scan comes to starts a literal exactly if there is
another one behind it on its line. If there is none, it is an error alone (`Token.OpensString`), and all that is left of
its line has no double quote. What comes in between on that line, blanks, other errors and literals in single quotes,
makes no difference, since none of it goes over the line break.

- `Pattern.exists_doubleQuoted?_iff`: a double quote starts a literal if its line has another.
- `Lexer.Takes.quote_cases`: a double quote that is taken starts a literal, or is an error alone.
- `Lexer.Takes.double_quoted`: a literal in double quotes has one in it, and no line break.
- `Lexer.Cuts.unquoted_behind`: behind an open double quote no lexeme of its line has one.
- `Lexer.lex_open_strings`: the errors that are double quotes are the strings left open.
-/
import TokenScanner.Proofs.Breaks

namespace TokenScanner

/-! ## Lines -/

/-- the characters before the first line break -/
def Text.firstLine (text : List Char) : List Char :=
  text.takeWhile (· != '\n')

namespace Text

variable {a b text : List Char} {c : Char}

theorem firstLine_append (h : '\n' ∉ a) (b : List Char) : firstLine (a ++ b) = a ++ firstLine b := by
  apply List.takeWhile_append_of_pos
  intro c hc
  have other : c ≠ '\n' := ne_of_mem_of_not_mem hc h
  simp [other]

theorem break_not_mem_firstLine (text : List Char) : '\n' ∉ firstLine text := by
  intro h
  have other := List.mem_takeWhile_imp h
  simp at other

/-- a character of the first line stands behind others of it, and then comes the rest of the text -/
theorem exists_of_mem_firstLine (h : c ∈ firstLine text) :
    ∃ body rest, text = body ++ c :: rest ∧ c ∉ body ∧ '\n' ∉ body := by
  obtain ⟨body, others, line, fresh⟩ := List.eq_append_cons_of_mem h
  refine ⟨body, others ++ text.dropWhile (· != '\n'), ?_, fresh, ?_⟩
  · have parts : firstLine text ++ text.dropWhile (· != '\n') = text := List.takeWhile_append_dropWhile
    rw [line, List.append_assoc, List.cons_append] at parts
    exact parts.symm
  · intro broken
    have within : '\n' ∈ firstLine text := by
      rw [line]
      exact List.mem_append_left _ broken
    exact break_not_mem_firstLine text within

end Text

/-! ## Double quotes -/

/-- a double quote starts a literal if its line has another -/
theorem Pattern.exists_doubleQuoted?_iff {rest : List Char} :
    (∃ lexeme, doubleQuoted? ('"' :: rest) = some lexeme) ↔ '"' ∈ Text.firstLine rest := by
  constructor
  · rintro ⟨lexeme, taken⟩
    obtain ⟨body, behind, inside, parts, -⟩ := doubleQuoted?_eq_some_iff.1 taken
    obtain rfl : rest = body ++ '"' :: behind := (List.cons.inj parts).2
    have unbroken : '\n' ∉ body ++ ['"'] := by
      intro broken
      rcases List.mem_append.1 broken with broken | broken
      · exact absurd (inside _ broken) (by decide)
      · exact absurd broken (by decide)
    rw [List.append_cons, Text.firstLine_append unbroken, List.mem_append]
    exact Or.inl (List.mem_append_right body List.mem_cons_self)
  · intro closed
    obtain ⟨body, behind, rfl, unquoted, unbroken⟩ := Text.exists_of_mem_firstLine closed
    refine ⟨'"' :: (body ++ ['"']), doubleQuoted?_eq_some_iff.2 ⟨body, behind, ?_, rfl, rfl⟩⟩
    intro c hc
    have other : c ≠ '"' ∧ c ≠ '\n' := ⟨ne_of_mem_of_not_mem hc unquoted, ne_of_mem_of_not_mem hc unbroken⟩
    simp [isQuotable, other]

/-- the token is a double quote that starts no literal -/
def Token.OpensString (t : Token) : Prop :=
  t.kind = .error ∧ t.lexeme = "\""

instance (t : Token) : Decidable t.OpensString :=
  inferInstanceAs (Decidable (t.kind = .error ∧ t.lexeme = "\""))

theorem Chunk.opensString_token_iff {file : String} {p : Position} {c : Chunk} :
    (c.token file p).OpensString ↔ c.kind = .error ∧ c.lexeme = ['"'] := by
  have written : String.ofList c.lexeme = "\"" ↔ c.lexeme = ['"'] := @String.ofList_inj c.lexeme ['"']
  rw [Token.OpensString, Chunk.token, written]

namespace Lexer

variable {lexer : Lexer} {chunk : Chunk} {source rest behind last : List Char}

/-! ## What is taken at a double quote -/

/-- a double quote that is taken starts a literal if its line has another, and is an error alone if it has none -/
theorem Takes.quote_cases (used : .doubleQuoted ∈ lexer.patterns) (hr : lexer.recovery = .singleChar)
    (h : lexer.Takes chunk behind) (start : chunk.lexeme ++ behind = '"' :: rest) :
    '"' ∈ Text.firstLine rest ∧ chunk.kind = .doubleQuoted ∨
      '"' ∉ Text.firstLine rest ∧ chunk.kind = .error ∧ chunk.lexeme = ['"'] := by
  by_cases closed : '"' ∈ Text.firstLine rest
  · left
    obtain ⟨lexeme, taken⟩ := Pattern.exists_doubleQuoted?_iff.2 closed
    have grouped : lexer.Groups (chunk.lexeme ++ behind) .doubleQuoted lexeme := by
      rw [start]
      exact .pattern (p := .doubleQuoted) used (by decide) taken
    exact ⟨closed, (grouped.eq_of_classify h.classify_eq).1.symm⟩
  · right
    have unmatched : Pattern.doubleQuoted? ('"' :: rest) = none := by
      rw [Option.eq_none_iff_forall_ne_some]
      exact fun lexeme taken => closed (Pattern.exists_doubleQuoted?_iff.1 ⟨lexeme, taken⟩)
    have alone : lexer.Ungrouped ('"' :: rest) := ungrouped_of_quote (Or.inr rfl) (p := .doubleQuoted) rfl unmatched
    obtain ⟨gap, kind, lexeme⟩ := chunk
    have picked : lexer.Picks kind lexeme behind := h.picks
    cases picked with
    | group grouped =>
      rw [← start] at alone
      exact absurd grouped (alone _ _)
    | @single c _ _ kept =>
      obtain rfl : c = '"' := (List.cons.inj start).1
      exact ⟨closed, lexer.label_quote (Or.inr rfl), rfl⟩
    | swallow _ _ all =>
      rw [hr] at all
      cases all

/-- the line of a double quote that is an error has no other -/
theorem Takes.unclosed (used : .doubleQuoted ∈ lexer.patterns) (hr : lexer.recovery = .singleChar)
    (h : lexer.Takes chunk rest) (kind : chunk.kind = .error) (alone : chunk.lexeme = ['"']) :
    '"' ∉ Text.firstLine rest := by
  have start : chunk.lexeme ++ rest = '"' :: rest := by rw [alone, List.singleton_append]
  rcases h.quote_cases used hr start with ⟨-, literal⟩ | ⟨unclosed, -⟩
  · rw [kind] at literal
    cases literal
  · exact unclosed

/-- a literal in double quotes has one in it, and no line break -/
theorem Takes.double_quoted (h : lexer.Takes chunk rest) (hk : chunk.kind = .doubleQuoted) :
    '"' ∈ chunk.lexeme ∧ '\n' ∉ chunk.lexeme := by
  constructor
  · have taken : Pattern.doubleQuoted? (chunk.lexeme ++ rest) = some chunk.lexeme :=
      h.match?_of_kind (p := .doubleQuoted) hk (by decide)
    obtain ⟨body, -, -, -, written⟩ := Pattern.doubleQuoted?_eq_some_iff.1 taken
    rw [written]
    exact List.mem_cons_self
  · exact (h.literal (Or.inr hk)).1

/-! ## The rest of the line -/

/-- behind an open double quote no lexeme of its line has one -/
theorem Cuts.unquoted_behind (hr : lexer.recovery = .singleChar) {middle back : List Chunk} {d : Chunk}
    (h : lexer.Cuts source (middle ++ d :: back) last) (unclosed : '"' ∉ Text.firstLine source)
    (line : '\n' ∉ Chunk.texts middle ++ d.gap) : '"' ∉ d.lexeme := by
  obtain ⟨taken, -⟩ := h.takes_middle
  rw [h.source_eq_middle, Text.firstLine_append line] at unclosed
  intro quoted
  rcases taken.break_cases hr with ⟨alone, -⟩ | ⟨unbroken, -⟩
  · rw [alone] at quoted
    exact absurd quoted (by decide)
  · rw [Text.firstLine_append unbroken] at unclosed
    exact unclosed (List.mem_append_right _ (List.mem_append_left _ quoted))

/-- the tokens of a source that are double quotes alone are the strings left open -/
structure OpenStrings (source : List Char) (tokens : List Token) (gaps : List (List Char)) : Prop where
  /-- a token opens a string exactly if it starts at a double quote and its line has no other behind that -/
  unclosed : ∀ i t, tokens[i]? = some t →
    (t.OpensString ↔ ∃ rest, source = textBefore gaps tokens i ++ '"' :: rest ∧ '"' ∉ Text.firstLine rest)
  /-- behind such a token none that starts on its line has a double quote, so none is a literal in them -/
  last : ∀ i j t u, i < j → tokens[i]? = some t → tokens[j]? = some u → t.OpensString →
    (textBefore gaps tokens i).count '\n' = (textBefore gaps tokens j).count '\n' →
      '"' ∉ u.lexeme.toList ∧ u.kind ≠ .doubleQuoted
  /-- a line has one such token at most -/
  once : ∀ i j t u, tokens[i]? = some t → tokens[j]? = some u → t.OpensString → u.OpensString →
    (textBefore gaps tokens i).count '\n' = (textBefore gaps tokens j).count '\n' → i = j
  /-- a literal in double quotes does not go over a line break -/
  lined : ∀ t ∈ tokens, t.kind = .doubleQuoted → '\n' ∉ t.lexeme.toList

namespace Cuts

variable {chunks front middle back : List Chunk} {c d : Chunk}

theorem opensString_iff (used : .doubleQuoted ∈ lexer.patterns) (hr : lexer.recovery = .singleChar)
    (h : lexer.Cuts source (front ++ c :: back) last) (file : String) (p : Position) :
    (c.token file p).OpensString ↔
      ∃ rest, source = (Chunk.texts front ++ c.gap) ++ '"' :: rest ∧ '"' ∉ Text.firstLine rest := by
  obtain ⟨taken, -⟩ := h.takes_middle
  rw [Chunk.opensString_token_iff]
  constructor
  · rintro ⟨kind, alone⟩
    refine ⟨Chunk.texts back ++ last, ?_, taken.unclosed used hr kind alone⟩
    rw [h.source_eq_middle, alone, List.singleton_append]
  · rintro ⟨rest, parts, unclosed⟩
    have start : c.lexeme ++ (Chunk.texts back ++ last) = '"' :: rest :=
      List.append_cancel_left (h.source_eq_middle.symm.trans parts)
    rcases taken.quote_cases used hr start with ⟨closed, -⟩ | ⟨-, alone⟩
    · exact absurd closed unclosed
    · exact alone

/-- behind an open double quote no chunk of its line has one -/
theorem unquoted_on_line (used : .doubleQuoted ∈ lexer.patterns) (hr : lexer.recovery = .singleChar)
    (h : lexer.Cuts source (front ++ c :: (middle ++ d :: back)) last) (kind : c.kind = .error)
    (alone : c.lexeme = ['"'])
    (line : (Chunk.texts front ++ c.gap).count '\n' = (Chunk.texts (front ++ c :: middle) ++ d.gap).count '\n') :
    '"' ∉ d.lexeme ∧ d.kind ≠ .doubleQuoted := by
  obtain ⟨taken, others⟩ := h.takes_middle
  have unbroken : '\n' ∉ Chunk.texts middle ++ d.gap := by
    rw [← List.count_eq_zero]
    simp only [Chunk.texts_append, Chunk.texts_cons, Chunk.text, List.count_append] at line ⊢
    omega
  have unquoted : '"' ∉ d.lexeme := others.unquoted_behind hr (taken.unclosed used hr kind alone) unbroken
  exact ⟨unquoted, fun literal => unquoted (others.takes_middle.1.double_quoted literal).1⟩

theorem openStrings (used : .doubleQuoted ∈ lexer.patterns) (hr : lexer.recovery = .singleChar)
    (h : lexer.Cuts source chunks last) (file : String) (p : Position) :
    OpenStrings source (Chunk.tokens file p chunks) (chunks.map Chunk.gap) := by
  have behind : ∀ i j t u, i < j → (Chunk.tokens file p chunks)[i]? = some t →
      (Chunk.tokens file p chunks)[j]? = some u → t.OpensString →
      (textBefore (chunks.map Chunk.gap) (Chunk.tokens file p chunks) i).count '\n' =
        (textBefore (chunks.map Chunk.gap) (Chunk.tokens file p chunks) j).count '\n' →
      '"' ∉ u.lexeme.toList ∧ u.kind ≠ .doubleQuoted := by
    intro i j t u hij ht hu opens line
    obtain ⟨front, c, middle, d, back, rfl, rfl, rfl, rfl, rfl⟩ := Chunk.exists_split_pair ht hu hij
    obtain ⟨kind, alone⟩ := Chunk.opensString_token_iff.1 opens
    have regroup : front ++ c :: (middle ++ d :: back) = (front ++ c :: middle) ++ d :: back := by simp
    rw [Chunk.textBefore_tokens, regroup, Chunk.textBefore_tokens] at line
    rw [Chunk.token, String.toList_ofList]
    exact h.unquoted_on_line used hr kind alone line
  refine ⟨?unclosed, behind, ?once, ?lined⟩
  case unclosed =>
    intro i t ht
    obtain ⟨front, c, back, rfl, rfl, rfl⟩ := Chunk.exists_split_of_getElem? ht
    rw [Chunk.textBefore_tokens]
    exact h.opensString_iff used hr file _
  case once =>
    intro i j t u ht hu first second line
    -- the later of two would have a double quote behind the earlier
    have quoted : ∀ v : Token, v.OpensString → '"' ∈ v.lexeme.toList := by
      rintro v ⟨-, written⟩
      rw [written]
      exact List.mem_cons_self
    rcases Nat.lt_trichotomy i j with hij | hij | hij
    · exact absurd (quoted u second) (behind i j t u hij ht hu first line).1
    · exact hij
    · exact absurd (quoted t first) (behind j i u t hij hu ht second line.symm).1
  case lined =>
    refine Chunk.forall_mem_tokens (fun c hc q hk => ?_) p
    rw [Chunk.token, String.toList_ofList]
    exact (h.forall_mem (p := fun c => c.kind = .doubleQuoted → '\n' ∉ c.lexeme)
      (fun _ _ taken literal => (taken.double_quoted literal).2) c hc) hk

end Cuts

/-- **Strings left open are reported exactly.** With the pattern of double-quoted literals, where an unrecognized
character is an error of its own: a double quote is an error exactly if its line has no other behind it. So a line has
one such error at most, no token behind it on the line has a double quote, and no literal in double quotes goes over a
line break. -/
theorem lex_open_strings (lexer : Lexer) (used : .doubleQuoted ∈ lexer.patterns) (hr : lexer.recovery = .singleChar)
    (file : String) (source : List Char) :
    let tokens := (lexer.lex file source).tokens
    ∃ gaps last, Tiling source tokens gaps last ∧ OpenStrings source tokens gaps := by
  intro tokens
  obtain ⟨chunks, last, cuts, blank⟩ := lexer.exists_cuts source
  have placed : tokens = Chunk.tokens file .start chunks := tokens_eq_of_cuts file cuts blank
  rw [placed]
  exact ⟨chunks.map Chunk.gap, last, cuts.tiling blank file .start, cuts.openStrings used hr file .start⟩

/-- a double quote in single quotes, then one that is left open before another error, and on the next line a string
before one that is left open -/
theorem lex_open_strings_two_lines :
    let source := ['\'', '"', '\'', ' ', '"', '\t', '@', ' ', 'x', '\n', '"', ' ', '"', '"', 'y']
    let stream := standard.lex "o.st" source
    .doubleQuoted ∈ standard.patterns ∧ standard.recovery = .singleChar ∧
      stream.kinds =
        [.singleQuoted, .error, .error, .ident, .symbol .newline, .doubleQuoted, .error, .ident] ∧
      (stream.tokens.filter fun t => t.OpensString).map Token.position = [⟨1, 5⟩, ⟨2, 4⟩] ∧
      ∃ gaps last, Tiling source stream.tokens gaps last ∧ OpenStrings source stream.tokens gaps := by
  intro source stream
  exact ⟨by decide, rfl, by decide +kernel, by decide +kernel, lex_open_strings standard (by decide) rfl "o.st" source⟩

end Lexer

end TokenScanner
