/-
The memory of a diagnosis.

Going along the unrecognized tokens of a stream, a diagnosis keeps one quote in mind: the last token, if that is a quote
alone that ends no literal. Whether a token is reported depends on this quote and on the token. `openAfter` is the
quote in mind after a list of tokens.

- `reported_append`: tokens in two parts are reported part by part, with the quote handed on between them.
- `reported_of_head_ne`, `reported_of_line_ne`: a quote that the next token does not repeat has no say, nor has one on
  another line.
- `ofToken?_of_openAfter`: the quote in mind is the last token.
- `reported_map`: tokens that are all moved alike are reported alike.
- `exists_reported_line`: with no quote in mind, every line of an unrecognized token is the line of a reported one.
-/
import Mathlib.Tactic
import TokenScanner.Diagnostic

namespace TokenScanner

variable {pending : Option OpenQuote} {quote : OpenQuote} {t : Token} {tokens : List Token}

/-- the quote in mind after a list of unrecognized tokens -/
def openAfter : Option OpenQuote → List Token → Option OpenQuote
  | pending, [] => pending
  | pending, t :: rest =>
    let quote := OpenQuote.ofToken? t
    openAfter (if quote.isSome ∧ quote = pending then none else quote) rest

theorem OpenQuote.ofToken?_eq_some_iff :
    OpenQuote.ofToken? t = some quote ↔ (t.lexeme = "'" ∨ t.lexeme = "\"") ∧ quote = ⟨t.lexeme, t.line⟩ := by
  rw [OpenQuote.ofToken?, Option.ite_none_right_eq_some, Option.some.injEq]
  exact and_congr_right fun _ => eq_comm

theorem OpenQuote.ofToken?_eq_none_iff : OpenQuote.ofToken? t = none ↔ t.lexeme ≠ "'" ∧ t.lexeme ≠ "\"" := by
  rw [OpenQuote.ofToken?, ite_eq_right_iff, ← not_or]
  exact imp_congr_right fun _ => iff_false_intro (Option.some_ne_none _)

theorem OpenQuote.line_eq (h : OpenQuote.ofToken? t = some quote) : quote.line = t.line := by
  rw [(OpenQuote.ofToken?_eq_some_iff.1 h).2]

/-! ## What is reported -/

theorem reported_sublist (quote : Option OpenQuote) (tokens : List Token) : (reported quote tokens).Sublist tokens := by
  induction tokens generalizing quote with
  | nil => exact .slnil
  | cons t rest ih =>
    rw [reported]
    split
    next closes => exact (ih none).cons t
    next => exact (ih _).cons_cons t

/-- with no quote in mind the first token is reported -/
theorem reported_none_cons (t : Token) (rest : List Token) :
    reported none (t :: rest) = t :: reported (OpenQuote.ofToken? t) rest := by
  -- a token is left out only if it is the quote that is open
  rw [reported, if_neg]
  rintro ⟨quotes, none_quoted⟩
  rw [none_quoted] at quotes
  cases quotes

theorem reported_append (pending : Option OpenQuote) (front back : List Token) :
    reported pending (front ++ back) = reported pending front ++ reported (openAfter pending front) back := by
  induction front generalizing pending with
  | nil => rfl
  | cons t rest ih =>
    simp only [List.cons_append, reported, openAfter]
    split
    · exact ih none
    · rw [ih, List.cons_append]

/-- a quote that the first token is not has no say -/
theorem reported_of_head_ne (h : ∀ quote ∈ pending, ∀ t ∈ tokens.head?, OpenQuote.ofToken? t ≠ some quote) :
    reported pending tokens = reported none tokens := by
  cases tokens with
  | nil => rfl
  | cons t rest =>
    rw [reported_none_cons, reported, if_neg]
    rintro ⟨quotes, same⟩
    obtain ⟨quote, found⟩ := Option.isSome_iff_exists.1 quotes
    rw [found] at same
    exact h quote same.symm t rfl found

/-- a quote on another line than all tokens ends with none of them -/
theorem reported_of_line_ne (h : ∀ quote ∈ pending, ∀ t ∈ tokens, t.line ≠ quote.line) :
    reported pending tokens = reported none tokens := by
  refine reported_of_head_ne fun quote kept t first found => ?_
  exact h quote kept t (List.mem_of_mem_head? first) (OpenQuote.line_eq found).symm

/-- where no two quotes are made one, moved tokens are reported as those they are made of -/
theorem reported_map {f : Token → Token} {g : OpenQuote → OpenQuote} (hg : Function.Injective g)
    (hf : ∀ t, OpenQuote.ofToken? (f t) = (OpenQuote.ofToken? t).map g) (pending : Option OpenQuote)
    (tokens : List Token) : reported (pending.map g) (tokens.map f) = (reported pending tokens).map f := by
  induction tokens generalizing pending with
  | nil => rfl
  | cons t rest ih =>
    have ends : ((OpenQuote.ofToken? (f t)).isSome ∧ OpenQuote.ofToken? (f t) = pending.map g) ↔
        (OpenQuote.ofToken? t).isSome ∧ OpenQuote.ofToken? t = pending := by
      rw [hf, Option.isSome_map, (Option.map_injective hg).eq_iff]
    rw [List.map_cons, reported, reported]
    simp only [ends]
    split
    · exact ih none
    · rw [hf, ih, List.map_cons]

/-- the line of a token is that of a reported one, or that of the quote in mind before -/
theorem exists_line_of_mem (pending : Option OpenQuote) (ht : t ∈ tokens) :
    (∃ u ∈ reported pending tokens, u.line = t.line) ∨ ∃ quote ∈ pending, quote.line = t.line := by
  induction tokens generalizing pending with
  | nil => cases ht
  | cons first rest ih =>
    rw [reported]
    split
    next ends =>
      obtain ⟨quote, found⟩ := Option.isSome_iff_exists.1 ends.1
      have held : quote ∈ pending := by rw [Option.mem_def, ← ends.2, found]
      rcases List.mem_cons.1 ht with rfl | ht
      · exact Or.inr ⟨quote, held, OpenQuote.line_eq found⟩
      · rcases ih none ht with reported_line | ⟨quote, absent, -⟩
        · exact Or.inl reported_line
        · cases absent
    next =>
      left
      rcases List.mem_cons.1 ht with rfl | ht
      · exact ⟨t, List.mem_cons_self, rfl⟩
      · rcases ih _ ht with ⟨u, hu, line⟩ | ⟨quote, found, line⟩
        · exact ⟨u, List.mem_cons_of_mem _ hu, line⟩
        · exact ⟨first, List.mem_cons_self, by rw [← line, OpenQuote.line_eq found]⟩

theorem exists_reported_line (ht : t ∈ tokens) : ∃ u ∈ reported none tokens, u.line = t.line := by
  rcases exists_line_of_mem none ht with reported_line | ⟨quote, absent, -⟩
  · exact reported_line
  · cases absent

/-! ## What is kept in mind -/

/-- the quote in mind is the last token, unless there is no token -/
theorem ofToken?_of_openAfter (h : openAfter pending tokens = some quote) :
    tokens = [] ∧ pending = some quote ∨ ∃ t ∈ tokens.getLast?, OpenQuote.ofToken? t = some quote := by
  induction tokens generalizing pending with
  | nil => exact Or.inl ⟨rfl, h⟩
  | cons first rest ih =>
    right
    rw [openAfter] at h
    rcases ih h with ⟨rfl, left_open⟩ | ⟨t, last, found⟩
    · split at left_open
      · cases left_open
      · exact ⟨first, rfl, left_open⟩
    · refine ⟨t, ?_, found⟩
      rw [List.getLast?_cons, Option.mem_def.1 last]
      rfl

/-- the quote in mind stands on the line of a token, unless it was in mind before -/
theorem exists_line_of_openAfter (h : openAfter pending tokens = some quote) :
    pending = some quote ∨ ∃ t ∈ tokens, t.line = quote.line := by
  rcases ofToken?_of_openAfter h with ⟨-, left_open⟩ | ⟨t, last, found⟩
  · exact Or.inl left_open
  · exact Or.inr ⟨t, List.mem_of_getLast? last, (OpenQuote.line_eq found).symm⟩

end TokenScanner
