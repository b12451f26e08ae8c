/-
Overlong literals.

Two characters or more between single quotes are no literal: the first quote is an error, the text behind it is scanned
as it is alone, and the last quote is an error again (`Lexer.lex_overlong`). In the diagnosis the last quote ends the
literal that the first one opened, but only if it is the next error. With an unrecognized character in the text the
quote in mind is lost, and the last quote is reported as well.

- `Lexer.classify_append_quote`, `Lexer.Cuts.append_quote`: a text without quotes is cut the same before a quote.
- `Lexer.lex_overlong`: the tokens of an overlong literal.
- `reported_between`: two like quotes with other errors between them.
- `diagnose_overlong`: the diagnostics of an overlong literal, and when the last quote is one of them.
-/
import TokenScanner.Proofs.LineLocality
import TokenScanner.Proofs.Literals
import TokenScanner.Proofs.Reporting

namespace TokenScanner

variable {lexer : Lexer} {a rest last w : List Char} {c q : Char} {chunks : List Chunk}

/-- on one line and without quotes, the text is too long to be a literal between single quotes -/
structure Overlong (text : List Char) : Prop where
  long : 2 ≤ text.length
  plain : ∀ c ∈ text, ¬ IsQuote c
  unbroken : '\n' ∉ text

/-! ## Before a quote -/

/-- a pattern matches the same before a quote, where the input does not start with one -/
theorem Pattern.match?_append_quote (p : Pattern) (hc : ¬ IsQuote c) (hq : IsQuote q) (a b : List Char) :
    p.match? (c :: a ++ q :: b) = p.match? (c :: a) := by
  have stop : isDigit q = false ∧ isNamePart q = false := by
    rcases hq with rfl | rfl
    · decide
    · decide
  have hne : c :: a ≠ [] := List.cons_ne_nil c a
  cases p with
  | digits => exact digits?_append_stop stop.1 _ b
  | ident => exact ident?_append_stop stop.2 hne b
  | newline => exact newline?_append hne _
  | singleQuoted =>
    have other : c ≠ '\'' := fun he => hc (Or.inl he)
    simp [match?, singleQuoted?, other]
  | doubleQuoted =>
    have other : c ≠ '"' := fun he => hc (Or.inr he)
    simp [match?, doubleQuoted?, other]

theorem SymbolTable.match?_append_quote {width : Nat} (table : SymbolTable width) (hq : IsQuote q) (a b : List Char) :
    table.match? (a ++ q :: b) = table.match? a := by
  have each : ∀ s : Symbol, s.lexeme.isPrefixOf (a ++ q :: b) = s.lexeme.isPrefixOf a :=
    fun s => isPrefixOf_append_stop (s.not_mem_lexeme_of_quote hq) a b
  simp only [SymbolTable.match?, each]

namespace Lexer

theorem classify_append_quote (hr : lexer.recovery = .singleChar) (hc : ¬ IsQuote c) (hq : IsQuote q)
    (a b : List Char) : lexer.classify (c :: a ++ q :: b) = lexer.classify (c :: a) :=
  classify_append hr (List.cons_ne_nil c a) (fun p => p.match?_append_quote hc hq a b)
    fun table => table.match?_append_quote hq (c :: a) b

/-- a text without quotes is cut the same before a quote -/
theorem Cuts.append_quote (hr : lexer.recovery = .singleChar) (hq : IsQuote q) (plain : ∀ c ∈ w, ¬ IsQuote c)
    (h : lexer.Cuts w chunks last) (b : List Char) : lexer.Cuts (w ++ q :: b) chunks (last ++ q :: b) := by
  refine h.append_behind fun input hne hs => ?_
  obtain ⟨c, a, rfl⟩ := List.exists_cons_of_ne_nil hne
  exact classify_append_quote hr (plain c (hs.subset List.mem_cons_self)) hq a b

/-! ## Quotes that start no literal -/

theorem takes_single_quote {gap : List Char} (hr : lexer.recovery = .singleChar) (hg : Blank gap)
    (h : Pattern.singleQuoted? ('\'' :: rest) = none) : lexer.Takes ⟨gap, .error, ['\'']⟩ rest := by
  have alone : lexer.Ungrouped ('\'' :: rest) := ungrouped_of_quote (Or.inl rfl) (p := .singleQuoted) rfl h
  have taken := takes_single hg (by decide) alone hr
  rwa [label_quote lexer (Or.inl rfl)] at taken

/-- two characters that are no quotes make a single quote before them start no literal -/
theorem singleQuoted?_overlong (h : Overlong w) (rest : List Char) :
    Pattern.singleQuoted? ('\'' :: (w ++ rest)) = none := by
  obtain ⟨long, plain, -⟩ := h
  match w, long with
  | c :: d :: tail, _ =>
    have hc : c ≠ '\'' := fun he => plain c (by simp) (Or.inl he)
    have hd : d ≠ '\'' := fun he => plain d (by simp) (Or.inl he)
    simp [Pattern.singleQuoted?, hc, hd]

/-! ## The tokens of an overlong literal -/

/-- the cut of two single quotes with a text between them that is too long for a literal: blanks at its end go to the
last quote -/
theorem cuts_overlong (hr : lexer.recovery = .singleChar) (h : Overlong w) (hw : lexer.Cuts w chunks last)
    (blank : Blank last) :
    lexer.Cuts ('\'' :: (w ++ ['\''])) (⟨[], .error, ['\'']⟩ :: (chunks ++ [⟨last, .error, ['\'']⟩])) [] := by
  have opening : lexer.Takes ⟨[], .error, ['\'']⟩ (w ++ ['\'']) :=
    takes_single_quote hr blank_nil (singleQuoted?_overlong h _)
  have closing : lexer.Takes ⟨last, .error, ['\'']⟩ [] := takes_single_quote hr blank rfl
  have behind := Cuts.take closing (.done [])
  rw [Chunk.text, List.append_nil] at behind
  exact .take opening ((hw.append_quote hr (Or.inl rfl) h.plain []).append behind)

/-- **The tokens of an overlong literal** are an error for each quote and the tokens of the text between them, moved one
column to the right. -/
theorem lex_overlong (hr : lexer.recovery = .singleChar) (file : String) (h : Overlong w) :
    (lexer.lex file ('\'' :: (w ++ ['\'']))).tokens =
      ⟨file, 1, 1, "'", .error⟩ :: ((lexer.lex file w).tokens.map (Token.movedTo ⟨1, 2⟩) ++
        [⟨file, 1, (Position.start.right (w.length + 1)).column, "'", .error⟩]) := by
  obtain ⟨chunks, last, hw, blank⟩ := lexer.exists_cuts w
  have parts := hw.source_eq
  have within : '\n' ∉ Chunk.texts chunks := fun hn => h.unbroken (parts ▸ List.mem_append_left _ hn)
  have second : Position.start.advance ['\''] = ⟨1, 2⟩ := by decide
  have behind : ((⟨1, 2⟩ : Position).advance (Chunk.texts chunks)).advance last =
      Position.start.right (w.length + 1) := by
    have quoted : '\n' ∉ '\'' :: w := by simp [h.unbroken]
    rw [← second, ← Position.advance_append, ← Position.advance_append, ← parts, List.singleton_append,
      Position.advance_eq_right quoted, List.length_cons]
  have closing : Chunk.tokens file ((⟨1, 2⟩ : Position).advance (Chunk.texts chunks)) [⟨last, .error, ['\'']⟩] =
      [⟨file, 1, (Position.start.right (w.length + 1)).column, "'", .error⟩] := by
    rw [Chunk.tokens_cons, Chunk.token, behind]
    rfl
  rw [lex_eq_of_cuts file (cuts_overlong hr h hw blank) blank_nil, lex_eq_of_cuts file hw blank]
  simp only [Chunk.tokens_cons, Chunk.tokens_append, Chunk.text, List.nil_append, second, closing,
    Chunk.tokens_movedTo (show 1 ≤ (⟨1, 2⟩ : Position).column by decide) within]
  rfl

/-- a token of a text without quotes is no quote -/
theorem lexeme_ne_quote (plain : ∀ c ∈ w, ¬ IsQuote c) {file : String} {t : Token}
    (ht : t ∈ (lexer.lex file w).tokens) : t.lexeme ≠ "'" ∧ t.lexeme ≠ "\"" := by
  constructor
  · intro he
    have written : '\'' ∈ t.lexeme.toList := by rw [he]; decide
    exact plain _ (mem_of_mem_lexeme ht written) (Or.inl rfl)
  · intro he
    have written : '"' ∈ t.lexeme.toList := by rw [he]; decide
    exact plain _ (mem_of_mem_lexeme ht written) (Or.inr rfl)

end Lexer

/-! ## Quotes with other errors between them -/

/-- errors that are no quotes are all reported, and leave no quote in mind -/
theorem reported_of_no_quotes {tokens : List Token} (h : ∀ t ∈ tokens, OpenQuote.ofToken? t = none)
    (pending : Option OpenQuote) :
    reported pending tokens = tokens ∧ openAfter pending tokens = if tokens = [] then pending else none := by
  induction tokens generalizing pending with
  | nil => exact ⟨rfl, rfl⟩
  | cons t rest ih =>
    obtain ⟨first, others⟩ := List.forall_mem_cons.1 h
    have behind := ih others none
    rw [ite_self] at behind
    rw [reported, openAfter, first, if_neg (by simp), if_neg (by simp), behind.1, behind.2, if_neg (by simp)]
    exact ⟨rfl, rfl⟩

/-- between two like quotes on one line: the second is reported exactly if there is another error -/
theorem reported_between {t u : Token} {between : List Token} {quote : OpenQuote}
    (ht : OpenQuote.ofToken? t = some quote) (hu : OpenQuote.ofToken? u = some quote)
    (h : ∀ m ∈ between, OpenQuote.ofToken? m = none) :
    reported none (t :: (between ++ [u])) = t :: (between ++ if between = [] then [] else [u]) := by
  obtain ⟨all, kept⟩ := reported_of_no_quotes h (some quote)
  rw [reported_none_cons, ht, reported_append, all, kept]
  by_cases empty : between = []
  · rw [if_pos empty, if_pos empty, reported, hu, if_pos ⟨rfl, rfl⟩, reported]
  · rw [if_neg empty, if_neg empty, reported_none_cons, reported]

/-! ## The diagnostics of an overlong literal -/

/-- the diagnostic is about a quote alone -/
def Diagnostic.isQuote (d : Diagnostic) : Bool :=
  d.lexeme = "'" ∨ d.lexeme = "\""

theorem Diagnostic.ofToken_single_quote (file : String) (line column : UInt32) (kind : Kind) :
    ofToken ⟨file, line, column, "'", kind⟩ = ⟨.unterminatedLiteral, file, line, column, "'"⟩ := by
  have fault : Fault.ofLexeme "'".toList = .unterminatedLiteral := by decide
  rw [ofToken, fault]

theorem TokenStream.errors_eq_nil_iff {s : TokenStream} : s.errors = [] ↔ s.hasErrors = false := by
  rw [errors, hasErrors, List.filter_eq_nil_iff, List.any_eq_false]

namespace Lexer

theorem errors_overlong (hr : lexer.recovery = .singleChar) (file : String) (h : Overlong w) :
    (lexer.lex file ('\'' :: (w ++ ['\'']))).errors =
      ⟨file, 1, 1, "'", .error⟩ :: ((lexer.lex file w).errors.map (Token.movedTo ⟨1, 2⟩) ++
        [⟨file, 1, (Position.start.right (w.length + 1)).column, "'", .error⟩]) := by
  have unmoved : Token.isError ∘ Token.movedTo ⟨1, 2⟩ = Token.isError := rfl
  rw [TokenStream.errors, lex_overlong hr file h, List.filter_cons_of_pos rfl, List.filter_append,
    List.filter_map, unmoved, List.filter_cons_of_pos rfl, List.filter_nil, TokenStream.errors]

/-- the last quote is reported exactly if there is an error in the text -/
theorem diagnose_overlong_eq (hr : lexer.recovery = .singleChar) (file : String) (h : Overlong w) :
    diagnose (lexer.lex file ('\'' :: (w ++ ['\'']))) =
      ⟨.unterminatedLiteral, file, 1, 1, "'"⟩ ::
        ((lexer.lex file w).errors.map (fun t => .ofToken (t.movedTo ⟨1, 2⟩)) ++
          if (lexer.lex file w).hasErrors then
            [⟨.unterminatedLiteral, file, 1, (Position.start.right (w.length + 1)).column, "'"⟩]
          else []) := by
  have between : ∀ m ∈ (lexer.lex file w).errors.map (Token.movedTo ⟨1, 2⟩), OpenQuote.ofToken? m = none := by
    intro m hm
    obtain ⟨t, ht, rfl⟩ := List.mem_map.1 hm
    have other := lexeme_ne_quote h.plain (List.mem_of_mem_filter ht)
    exact OpenQuote.ofToken?_eq_none_iff.2 other
  have first : OpenQuote.ofToken? ⟨file, 1, 1, "'", .error⟩ = some ⟨"'", 1⟩ :=
    OpenQuote.ofToken?_eq_some_iff.2 ⟨Or.inl rfl, rfl⟩
  have second : OpenQuote.ofToken? ⟨file, 1, (Position.start.right (w.length + 1)).column, "'", .error⟩ =
      some ⟨"'", 1⟩ := OpenQuote.ofToken?_eq_some_iff.2 ⟨Or.inl rfl, rfl⟩
  rw [diagnose, errors_overlong hr file h, reported_between first second between, List.map_cons,
    List.map_append, List.map_map, Diagnostic.ofToken_single_quote]
  simp only [List.map_eq_nil_iff, TokenStream.errors_eq_nil_iff]
  cases (lexer.lex file w).hasErrors with
  | false => rfl
  | true =>
    rw [if_neg (by decide), if_pos rfl, List.map_singleton, Diagnostic.ofToken_single_quote]
    rfl

end Lexer

/-- **The last quote of an overlong literal.** Two characters or more between single quotes, with no quote and no line
break among them: the first quote is reported, and so is all that is not recognized between the quotes, in its place.
The last quote is reported as well exactly if there is anything of that kind. So the first quote is the only one that is
reported exactly for a text without errors. -/
theorem diagnose_overlong (file : String) (w : List Char) (long : 2 ≤ w.length)
    (plain : ∀ c ∈ w, c ≠ '\'' ∧ c ≠ '"' ∧ c ≠ '\n') :
    let inside := Lexer.standard.lex file w
    let found := diagnose (Lexer.standard.lex file ('\'' :: (w ++ ['\''])))
    let opening : Diagnostic := ⟨.unterminatedLiteral, file, 1, 1, "'"⟩
    let closing : Diagnostic :=
      ⟨.unterminatedLiteral, file, 1, (Position.start.right (w.length + 1)).column, "'"⟩
    found = opening :: (inside.errors.map (fun t => .ofToken (t.movedTo ⟨1, 2⟩)) ++
        if inside.hasErrors then [closing] else []) ∧
      (found.filter Diagnostic.isQuote = [opening] ↔ inside.hasErrors = false) := by
  intro inside found opening closing
  have overlong : Overlong w :=
    ⟨long, fun c hc => not_or.2 ⟨(plain c hc).1, (plain c hc).2.1⟩, fun hn => (plain _ hn).2.2 rfl⟩
  have all : found = _ := Lexer.diagnose_overlong_eq rfl file overlong
  refine ⟨all, ?_⟩
  have between : (inside.errors.map fun t => Diagnostic.ofToken (t.movedTo ⟨1, 2⟩)).filter Diagnostic.isQuote = [] := by
    refine List.filter_eq_nil_iff.2 fun d hd quoted => ?_
    obtain ⟨t, ht, rfl⟩ := List.mem_map.1 hd
    have other := Lexer.lexeme_ne_quote overlong.plain (List.mem_of_mem_filter ht)
    exact not_or.2 other (of_decide_eq_true quoted)
  rw [all, List.filter_cons_of_pos rfl, List.filter_append, between, List.nil_append]
  change opening :: List.filter Diagnostic.isQuote (if inside.hasErrors then [closing] else []) = [opening] ↔ _
  cases inside.hasErrors with
  | false => exact ⟨fun _ => rfl, fun _ => rfl⟩
  | true => exact ⟨fun h => absurd h (by simp [closing, Diagnostic.isQuote]), fun h => absurd h (by decide)⟩

/-- letters between the quotes: only the first quote is reported -/
theorem diagnose_overlong_letters :
    let w := ['a', 'b']
    let inside := Lexer.standard.lex "q.st" w
    let found := diagnose (Lexer.standard.lex "q.st" ('\'' :: (w ++ ['\''])))
    let opening : Diagnostic := ⟨.unterminatedLiteral, "q.st", 1, 1, "'"⟩
    2 ≤ w.length ∧ (∀ c ∈ w, c ≠ '\'' ∧ c ≠ '"' ∧ c ≠ '\n') ∧ inside.hasErrors = false ∧
      found.filter Diagnostic.isQuote = [opening] := by
  intro w inside found opening
  have plain : ∀ c ∈ w, c ≠ '\'' ∧ c ≠ '"' ∧ c ≠ '\n' := by simp [w]
  have clean : inside.hasErrors = false := by decide +kernel
  exact ⟨by decide, plain, clean, (diagnose_overlong "q.st" w (by decide) plain).2.2 clean⟩

/-- the last quote of an overlong literal is not always left out: behind an unrecognized character it is reported -/
theorem overlong_not_reported_once :
    ¬ ∀ (file : String) (w : List Char), 2 ≤ w.length → (∀ c ∈ w, c ≠ '\'' ∧ c ≠ '"' ∧ c ≠ '\n') →
      (diagnose (Lexer.standard.lex file ('\'' :: (w ++ ['\''])))).filter Diagnostic.isQuote =
        [⟨.unterminatedLiteral, file, 1, 1, "'"⟩] := by
  intro once
  have both : (diagnose (Lexer.standard.lex "q.st" ['\'', 'a', '@', '\''])).filter Diagnostic.isQuote =
      [⟨.unterminatedLiteral, "q.st", 1, 1, "'"⟩, ⟨.unterminatedLiteral, "q.st", 1, 4, "'"⟩] := by
    decide +kernel
  have one := once "q.st" ['a', '@'] (by decide) (by simp)
  exact absurd (both.symm.trans one) (by decide)

end TokenScanner
