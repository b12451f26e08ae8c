/-
Lines are diagnosed on their own.

Behind a line break every token stands as in a source of its own, some lines further down. A diagnosis that comes to the
break may have an open quote in mind, but one of an earlier line, which ends with no token behind the break. So the
diagnostics of two texts with a line break between them are those of the first, break included, and those of the second,
moved down.

The lines are words, and a word that is full stays full: from the line of the largest word on all lines bear one number,
and there quotes of different lines do meet. The law holds just as far as the numbers that it speaks of are words, and
a source with fewer than `UInt32.size - 1` line breaks never leaves them.

- `Position.advance_down`, `Chunk.tokens_down`: moving down and going along a text commute, full words included.
- `Token.down_eq_shift`: as far as the words hold the lines, moving down is adding.
- `Lexer.tokens_append_break`: the tokens behind a line break, in sources of any length.
- `Lexer.diagnose_append_break`: the diagnostics behind a line break.
-/
import TokenScanner.Proofs.LineLocality
import TokenScanner.Proofs.Reporting

namespace TokenScanner

/-! ## Lines further down -/

/-- the position some lines down, as far as the word goes -/
def Position.down (lines : Nat) (p : Position) : Position :=
  ⟨successor^[lines] p.line, p.column⟩

/-- the token some lines down, as far as the word goes -/
def Token.down (lines : Nat) (t : Token) : Token :=
  { t with line := Position.successor^[lines] t.line }

/-- the second diagnostic is the first, that many lines down -/
structure Diagnostic.Below (lines : Nat) (d e : Diagnostic) : Prop where
  line_eq : e.line.toNat = d.line.toNat + lines
  same : e = { d with line := e.line }

namespace Position

theorem next_down (p : Position) (lines : Nat) (c : Char) : (p.down lines).next c = (p.next c).down lines := by
  unfold next
  split
  · simp only [down, Position.mk.injEq, and_true]
    rw [← Function.iterate_succ_apply' successor, Function.iterate_succ_apply]
  · rfl

theorem advance_down (p : Position) (lines : Nat) (text : List Char) :
    (p.down lines).advance text = (p.advance text).down lines := by
  induction text generalizing p with
  | nil => rfl
  | cons c text ih => rw [advance_cons, next_down, ih, advance_cons]

/-- a line break leads to the first column, whatever stands before it -/
theorem advance_start_break (text : List Char) :
    start.advance (text ++ ['\n']) = start.down (1 + text.count '\n') := by
  rw [advance_append, advance_cons, advance_nil, next, if_pos rfl, line_advance]
  rw [← Function.iterate_succ_apply' successor, Nat.add_comm]
  rfl

end Position

namespace Chunk

variable {file : String} {p : Position} {t : Token} {chunks : List Chunk}

theorem tokens_down (file : String) (p : Position) (lines : Nat) (chunks : List Chunk) :
    tokens file (p.down lines) chunks = (tokens file p chunks).map (Token.down lines) := by
  induction chunks generalizing p with
  | nil => rfl
  | cons c rest ih =>
    rw [tokens_cons, Position.advance_down, ih, tokens_cons, List.map_cons, token, Position.advance_down]
    rfl

/-- no token stands above the first line or below the last, full words or not -/
theorem line_bounds (ht : t ∈ tokens file .start chunks) :
    1 ≤ t.line.toNat ∧ t.line.toNat ≤ 1 + (texts chunks).count '\n' := by
  obtain ⟨front, hpre, hpos⟩ := exists_position_of_mem ht
  have hcount : front.count '\n' ≤ (texts chunks).count '\n' := hpre.sublist.count_le '\n'
  have first : Position.start.line.toNat = 1 := rfl
  have hline : t.line.toNat = min (1 + front.count '\n') (UInt32.size - 1) := by
    change t.position.line.toNat = _
    rw [hpos, Position.line_advance, Position.toNat_iterate_successor, first]
  have wide : 2 < UInt32.size := by decide
  omega

end Chunk

/-! ## Lines that the words hold -/

section Shift

variable {t : Token} {lines : Nat}

theorem Token.line_shift (fits : t.line.toNat + lines < UInt32.size) :
    (t.shift lines 0).line.toNat = t.line.toNat + lines := by
  have small : lines < UInt32.size := by omega
  rw [Token.shift_zero, UInt32.toNat_add, UInt32.toNat_ofNat_of_lt' small]
  exact Nat.mod_eq_of_lt fits

/-- to go down line by line is to add the lines, as far as the word goes -/
theorem Token.down_eq_shift (fits : t.line.toNat + lines < UInt32.size) : t.down lines = t.shift lines 0 := by
  have far := Token.line_shift fits
  rw [Token.shift_zero] at far ⊢
  rw [Token.down, Token.mk.injEq]
  refine ⟨rfl, ?_, rfl, rfl, rfl⟩
  apply UInt32.toNat.inj
  rw [far, Position.toNat_iterate_successor]
  omega

/-- the quote, that many lines added to its line -/
def OpenQuote.shift (lines : Nat) (quote : OpenQuote) : OpenQuote :=
  { quote with line := quote.line + UInt32.ofNat lines }

theorem OpenQuote.shift_injective (lines : Nat) : Function.Injective (OpenQuote.shift lines) := by
  intro x y same
  obtain ⟨lexeme, line⟩ := x
  obtain ⟨lexeme', line'⟩ := y
  simpa only [OpenQuote.shift, OpenQuote.mk.injEq, UInt32.add_left_inj] using same

theorem OpenQuote.ofToken?_shift (lines : Nat) (t : Token) :
    OpenQuote.ofToken? (t.shift lines 0) = (OpenQuote.ofToken? t).map (OpenQuote.shift lines) := by
  rw [Token.shift_zero]
  unfold OpenQuote.ofToken?
  split
  · rfl
  · rfl

end Shift

/-! ## The two streams -/

namespace Lexer

variable {lexer : Lexer} {t : Token}

/-- **Behind a line break all is as at the start, lines further down,** in sources of any length. -/
theorem tokens_append_break (hr : lexer.recovery = .singleChar) (file : String) (a b : List Char) :
    (lexer.lex file (a ++ '\n' :: b)).tokens =
      (lexer.lex file (a ++ ['\n'])).tokens ++ (lexer.lex file b).tokens.map (Token.down (1 + a.count '\n')) := by
  obtain ⟨as, lastA, ha, hla⟩ := lexer.exists_cuts a
  obtain ⟨bs, lastB, hb, hlb⟩ := lexer.exists_cuts b
  have front := cuts_append_break hr ha hla (.done [])
  have whole := cuts_append_break hr ha hla hb
  have place : Position.start.advance (Chunk.texts (as ++ [⟨lastA, lexer.breakKind, ['\n']⟩])) =
      Position.start.down (1 + a.count '\n') := by
    rw [← Position.advance_start_break, front.source_eq, List.append_nil]
  rw [lex_eq_of_cuts file whole hlb, lex_eq_of_cuts file front blank_nil, lex_eq_of_cuts file hb hlb]
  rw [List.append_cons, Chunk.tokens_append, place, Chunk.tokens_down]

theorem line_bounds {file : String} {source : List Char} (ht : t ∈ (lexer.lex file source).tokens) :
    1 ≤ t.line.toNat ∧ t.line.toNat ≤ 1 + source.count '\n' := by
  obtain ⟨chunks, last, hc, hl⟩ := lexer.exists_cuts source
  rw [lex_eq_of_cuts file hc hl] at ht
  have bounds := Chunk.line_bounds ht
  have hcount : source.count '\n' = (Chunk.texts chunks).count '\n' + last.count '\n' := by
    rw [hc.source_eq, List.count_append]
  omega

/-- a line break stands on the line that it ends -/
theorem line_le_of_break (hr : lexer.recovery = .singleChar) {file : String} {a : List Char}
    (ht : t ∈ (lexer.lex file (a ++ ['\n'])).tokens) : t.line.toNat ≤ 1 + a.count '\n' := by
  obtain ⟨as, lastA, ha, hla⟩ := lexer.exists_cuts a
  have cut := cuts_append_break hr ha hla (.done [])
  rw [lex_eq_of_cuts file cut blank_nil, Chunk.tokens_append] at ht
  rcases List.mem_append.1 ht with ht | ht
  · have bounds := Chunk.line_bounds ht
    have hcount : a.count '\n' = (Chunk.texts as).count '\n' + lastA.count '\n' := by
      rw [ha.source_eq, List.count_append]
    omega
  · have first : Position.start.line.toNat = 1 := rfl
    have hline : t.line = (Position.start.advance a).line := by
      rw [Chunk.tokens_cons, Chunk.tokens_nil, List.mem_singleton] at ht
      rw [ht, ha.source_eq, Position.advance_append]
      rfl
    rw [hline, Position.line_advance, Position.toNat_iterate_successor, first]
    omega

/-! ## Their diagnostics -/

theorem mem_errors_of_mem_reported {pending : Option OpenQuote} {s : TokenStream}
    (ht : t ∈ reported pending s.errors) : t ∈ s.tokens :=
  List.mem_of_mem_filter ((reported_sublist pending s.errors).subset ht)

/-- where the words hold the lines of what is reported, they hold those of all unrecognized tokens -/
theorem fits_of_mem_errors {s : TokenStream} {lines : Nat}
    (fits : ∀ d ∈ diagnose s, d.line.toNat + lines < UInt32.size) (ht : t ∈ s.errors) :
    t.line.toNat + lines < UInt32.size := by
  obtain ⟨u, hu, line⟩ := exists_reported_line ht
  have := fits (.ofToken u) (List.mem_map_of_mem hu)
  rwa [← line]

/-- tokens moved down by lines that their words hold are reported as before, moved down -/
theorem forall₂_reported_down {tokens : List Token} {lines : Nat}
    (fits : ∀ t ∈ tokens, t.line.toNat + lines < UInt32.size) :
    List.Forall₂ (Diagnostic.Below lines) ((reported none tokens).map .ofToken)
      ((reported none (tokens.map (Token.down lines))).map .ofToken) := by
  -- where an addition to the words fits it is what moves the tokens, and it makes no two quotes one
  have same : tokens.map (Token.down lines) = tokens.map (Token.shift lines 0) :=
    List.map_congr_left fun t ht => Token.down_eq_shift (fits t ht)
  have below : reported none (tokens.map (Token.shift lines 0)) = (reported none tokens).map (Token.shift lines 0) :=
    reported_map (OpenQuote.shift_injective lines) (OpenQuote.ofToken?_shift lines) none tokens
  rw [same, below, List.map_map, List.forall₂_map_left_iff, List.forall₂_map_right_iff, List.forall₂_same]
  intro t ht
  refine ⟨Token.line_shift (fits t ((reported_sublist none tokens).subset ht)), ?_⟩
  rw [Function.comp_apply, Token.shift_zero]
  rfl

/-- the quote in mind at a line break stands above all that is behind it -/
theorem line_ne_of_openAfter (hr : lexer.recovery = .singleChar) {file : String} {a b : List Char} {quote : OpenQuote}
    (hq : openAfter none (lexer.lex file (a ++ ['\n'])).errors = some quote) (ht : t ∈ (lexer.lex file b).errors)
    (fits : t.line.toNat + (1 + a.count '\n') < UInt32.size) :
    (Token.down (1 + a.count '\n') t).line ≠ quote.line := by
  intro same
  rcases exists_line_of_openAfter hq with none_open | ⟨u, hu, line⟩
  · cases none_open
  · have above := line_le_of_break hr (List.mem_of_mem_filter hu)
    have first := (line_bounds (List.mem_of_mem_filter ht)).1
    rw [Token.down_eq_shift fits] at same
    have far : u.line.toNat = t.line.toNat + (1 + a.count '\n') := by
      rw [line, ← same, Token.line_shift fits]
    omega

/-- **Lines are diagnosed on their own.** Where an unrecognized character is an error of its own, the diagnostics of two
texts with a line break between them start with those of the first and its break. What follows are those of the second,
moved down by the lines of the first, exactly if the lines so far down are words; and they are where the texts have
fewer than `UInt32.size - 1` line breaks. -/
theorem diagnose_append_break (lexer : Lexer) (hr : lexer.recovery = .singleChar) (file : String) (a b : List Char) :
    ∃ behind,
      diagnose (lexer.lex file (a ++ '\n' :: b)) = diagnose (lexer.lex file (a ++ ['\n'])) ++ behind ∧
        (List.Forall₂ (Diagnostic.Below (1 + a.count '\n')) (diagnose (lexer.lex file b)) behind ↔
          ∀ d ∈ diagnose (lexer.lex file b), d.line.toNat + (1 + a.count '\n') < UInt32.size) ∧
        ((a ++ '\n' :: b).count '\n' < UInt32.size - 1 →
          ∀ d ∈ diagnose (lexer.lex file b), d.line.toNat + (1 + a.count '\n') < UInt32.size) := by
  generalize hlines : 1 + a.count '\n' = lines
  have errors : (lexer.lex file (a ++ '\n' :: b)).errors =
      (lexer.lex file (a ++ ['\n'])).errors ++ (lexer.lex file b).errors.map (Token.down lines) := by
    simp only [TokenStream.errors, tokens_append_break hr file a b, hlines, List.filter_append, List.filter_map]
    rfl
  refine ⟨(reported (openAfter none (lexer.lex file (a ++ ['\n'])).errors)
    ((lexer.lex file b).errors.map (Token.down lines))).map .ofToken, ?_, ⟨?_, ?_⟩, ?_⟩
  · rw [diagnose, errors, reported_append, List.map_append]
    rfl
  · intro below
    refine ((List.forall₂_and_left _ _).1 (below.imp fun d e h => ⟨?_, h⟩)).1
    rw [← h.line_eq]
    exact e.line.toNat_lt
  · intro fits
    have words : ∀ t ∈ (lexer.lex file b).errors, t.line.toNat + lines < UInt32.size :=
      fun t ht => fits_of_mem_errors fits ht
    have apart : ∀ quote ∈ openAfter none (lexer.lex file (a ++ ['\n'])).errors,
        ∀ u ∈ (lexer.lex file b).errors.map (Token.down lines), u.line ≠ quote.line := by
      intro quote hq u hu
      obtain ⟨t, ht, rfl⟩ := List.mem_map.1 hu
      have fit := words t ht
      rw [← hlines] at fit ⊢
      exact line_ne_of_openAfter hr hq ht fit
    rw [reported_of_line_ne apart]
    exact forall₂_reported_down words
  · intro short d hd
    obtain ⟨t, ht, rfl⟩ := List.mem_map.1 hd
    have bounds := (line_bounds (mem_errors_of_mem_reported ht)).2
    rw [List.count_append, List.count_cons_self] at short
    change t.line.toNat + lines < UInt32.size
    omega

/-- two like quotes on two lines, with a line break between them that is an error itself -/
theorem diagnose_append_break_open_quote :
    let lexer := { standard with patterns := PatternSet.full.without (.single .newline) }
    lexer.recovery = .singleChar ∧
      ∃ behind,
        diagnose (lexer.lex "q.st" ['"', 'a', '\n', 'b', '"']) =
            diagnose (lexer.lex "q.st" ['"', 'a', '\n']) ++ behind ∧
          List.Forall₂ (Diagnostic.Below 1) (diagnose (lexer.lex "q.st" ['b', '"'])) behind ∧
          (diagnose (lexer.lex "q.st" ['"', 'a', '\n', 'b', '"'])).map (fun d => (d.line, d.lexeme)) =
            [(1, "\""), (1, "\n"), (2, "\"")] := by
  intro lexer
  obtain ⟨behind, whole, law, short⟩ := diagnose_append_break lexer rfl "q.st" ['"', 'a'] ['b', '"']
  exact ⟨rfl, behind, whole, law.2 (short (by decide)), by decide +kernel⟩

end Lexer

end TokenScanner
