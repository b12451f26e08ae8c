/-
Two recoveries.

The recovery decides how much of an unrecognized input is one error, and nothing else. So the scan that takes one
character and the scan that takes all the rest go side by side until the first error; there the second ends.

- `Lexer.Takes.with_recovery`, `Lexer.Takes.swallow`: chunks that are recognized are taken under both recoveries, and at
  an error the second takes the rest.
- `Lexer.Cuts.with_recovery`, `Lexer.Cuts.swallow`: the same of cuts.
- `Lexer.remainder_refines_singleChar`: the stream of the second, made from the stream of the first and the source.
-/
import TokenScanner.Proofs.Tiling

namespace TokenScanner

namespace Lexer

variable {lexer : Lexer}

/-! ## One chunk -/

theorem recognize_with_recovery (lexer : Lexer) (recovery : Recovery) (input : List Char) :
    ({ lexer with recovery := recovery } : Lexer).recognize input = lexer.recognize input := rfl

theorem Takes.with_recovery {chunk : Chunk} {rest : List Char} (h : lexer.Takes chunk rest)
    (hk : chunk.kind ≠ .error) (recovery : Recovery) :
    ({ lexer with recovery := recovery } : Lexer).Takes chunk rest where
  blank := h.blank
  solid := h.solid
  classify_eq := by
    have hne : chunk.lexeme ++ rest ≠ [] := (h.solid.append rest).ne_nil
    rcases classify_cases h.classify_eq with hr | ⟨-, he, -⟩
    · rw [classify_eq_recognize hne, recognize_with_recovery, hr, Option.getD_some]
    · exact absurd he hk

/-- at an error the other recovery takes all that is left -/
theorem Takes.swallow {chunk : Chunk} {rest : List Char} (h : lexer.Takes chunk rest) (hk : chunk.kind = .error) :
    ({ lexer with recovery := .remainder } : Lexer).Takes ⟨chunk.gap, .error, chunk.lexeme ++ rest⟩ [] where
  blank := h.blank
  solid := h.solid.append rest
  classify_eq := by
    have hne : chunk.lexeme ++ rest ≠ [] := (h.solid.append rest).ne_nil
    rcases classify_cases h.classify_eq with hr | ⟨hr, -, -⟩
    · obtain ⟨lexeme, -, hl⟩ := recognize_cases hr
      exact absurd hk hl.kind_ne_error
    · rw [List.append_nil, classify_eq_recognize hne, recognize_with_recovery, hr, Option.getD_none]
      rfl

/-! ## Cuts -/

variable {source last : List Char} {chunks front back : List Chunk} {c : Chunk}

theorem Cuts.with_recovery (h : lexer.Cuts source chunks last) (hk : ∀ c ∈ chunks, c.kind ≠ .error)
    (recovery : Recovery) : ({ lexer with recovery := recovery } : Lexer).Cuts source chunks last := by
  induction h with
  | done rest => exact .done rest
  | take first others ih =>
    exact .take (first.with_recovery (hk _ List.mem_cons_self) recovery)
      (ih fun c hc => hk c (List.mem_cons_of_mem _ hc))

/-- the cut that ends in the first error of another -/
theorem Cuts.swallow (h : lexer.Cuts source (front ++ c :: back) last) (hf : ∀ d ∈ front, d.kind ≠ .error)
    (hc : c.kind = .error) :
    ({ lexer with recovery := .remainder } : Lexer).Cuts source
      (front ++ [⟨c.gap, .error, c.lexeme ++ (Chunk.texts back ++ last)⟩]) [] := by
  obtain ⟨middle, hfront, hrest⟩ := h.split
  cases hrest with
  | take first others =>
    rw [others.source_eq] at first hfront
    have hend := Cuts.take (first.swallow hc) (.done [])
    rw [Chunk.text, List.append_nil, ← List.append_assoc] at hend
    exact (hfront.with_recovery hf .remainder).append hend

/-! ## Streams -/

/-- the stream that ends in the first error of another -/
theorem lex_swallow (file : String) (h : lexer.Cuts source (front ++ c :: back) last)
    (hf : ∀ d ∈ front, d.kind ≠ .error) (hc : c.kind = .error) :
    ({ lexer with recovery := .remainder } : Lexer).lex file source =
      ⟨file, Chunk.tokens file .start front ++
        [{ c.token file (Position.start.advance (Chunk.texts front)) with
            lexeme := String.ofList (source.drop (Chunk.texts front ++ c.gap).length) }]⟩ := by
  rw [lex_eq_of_cuts file (h.swallow hf hc) blank_nil, Chunk.tokens_append, h.drop_middle]
  simp only [Chunk.tokens_cons, Chunk.tokens_nil, Chunk.token, hc]

/-- **One error, and it is the last.** With `S` the stream where an error is one character and `R` the one where it is
all the rest: without errors they are the same; else `R` is `S` up to its first error, which keeps its place and holds
the source from there on. -/
theorem remainder_refines_singleChar (lexer : Lexer) (file : String) (source : List Char) :
    let S := ({ lexer with recovery := .singleChar } : Lexer).lex file source
    let R := ({ lexer with recovery := .remainder } : Lexer).lex file source
    (S.hasErrors = false → R = S) ∧
      (∃ gaps last, Tiling source S.tokens gaps last ∧
        ∀ i, (hi : i < S.tokens.length) → S.tokens[i].kind = .error → (∀ t ∈ S.tokens.take i, t.kind ≠ .error) →
          R = ⟨file, S.tokens.take i ++
            [{ S.tokens[i] with lexeme := String.ofList (source.drop (textBefore gaps S.tokens i).length) }]⟩) ∧
      ∀ t ∈ R.tokens.dropLast, t.kind ≠ .error := by
  intro S R
  obtain ⟨chunks, last, hcuts, hlast⟩ := ({ lexer with recovery := .singleChar } : Lexer).exists_cuts source
  have hS : S = ⟨file, Chunk.tokens file .start chunks⟩ := lex_eq_of_cuts file hcuts hlast
  have hsame : (∀ c ∈ chunks, c.kind ≠ .error) → R = S := by
    intro hk
    rw [hS]
    exact lex_eq_of_cuts file (hcuts.with_recovery hk .remainder) hlast
  refine ⟨fun hno => ?_, ⟨chunks.map Chunk.gap, last, ?_, ?_⟩, ?_⟩
  · refine hsame ((Chunk.forall_kind_ne file .start).1 fun t ht he => ?_)
    rw [hS, TokenStream.hasErrors, List.any_eq_false] at hno
    exact hno t ht (by rw [Token.isError, he]; rfl)
  · rw [hS]
    exact hcuts.tiling hlast file .start
  · intro i hi hk hbefore
    simp only [hS] at hi hk hbefore ⊢
    obtain ⟨front, c, back, rfl, rfl⟩ := Chunk.exists_split (Chunk.length_tokens file .start chunks ▸ hi)
    rw [Chunk.getElem_tokens] at hk ⊢
    rw [Chunk.take_tokens] at hbefore ⊢
    rw [Chunk.textBefore_tokens]
    have hR := lex_swallow file hcuts ((Chunk.forall_kind_ne file .start).1 hbefore) hk
    exact hR
  · rcases Chunk.exists_first chunks .error with hk | ⟨front, c, back, rfl, hc, hfront⟩
    · rw [hsame hk, hS]
      intro t ht
      exact (Chunk.forall_kind_ne file .start).2 hk t (List.mem_of_mem_dropLast ht)
    · have hR := lex_swallow file hcuts hfront hc
      change R = _ at hR
      rw [hR, List.dropLast_concat]
      exact (Chunk.forall_kind_ne file .start).2 hfront

end Lexer

end TokenScanner
