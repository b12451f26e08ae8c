/-
Where the tokens of a cut stand.

Chunks are placed one behind the other, each position made from the last. Counted in the source instead, a token stands
behind all that the tiling has before its lexeme.

- `Chunk.counts_tokens`: every token is placed by counting in the text before it.
- `Chunk.tokens_shift`: chunks behind another text are placed as in a source of their own, then moved behind that text.
-/
import TokenScanner.Proofs.Tiling
import TokenScanner.Proofs.Counting

namespace TokenScanner

/-- the token moved some lines down, and on the first line some columns to the right -/
def Token.shift (lines columns : Nat) (t : Token) : Token :=
  { t with
    line := (t.position.shift lines columns).line
    column := (t.position.shift lines columns).column }

namespace Chunk

variable {file : String} {p q : Position} {before above : List Char} {chunks : List Chunk}

/-- every token is placed by counting in the text before its lexeme -/
theorem counts_tokens (h : p.Counts before) (hb : (before ++ texts chunks).length + 1 < UInt32.size) (i : Nat)
    (hi : i < (tokens file p chunks).length) :
    (tokens file p chunks)[i].position.Counts
      (before ++ textBefore (chunks.map gap) (tokens file p chunks) i) := by
  obtain ⟨front, c, back, rfl, rfl⟩ := exists_split (length_tokens file p chunks ▸ hi)
  rw [getElem_tokens, textBefore_tokens]
  change ((p.advance (texts front)).advance c.gap).Counts _
  rw [← Position.advance_append]
  apply h.advance
  simp only [texts_append, texts_cons, text, List.length_append] at hb ⊢
  omega

/-- a token stands behind some first part of the text -/
theorem exists_position_of_mem {t : Token} (ht : t ∈ tokens file p chunks) :
    ∃ front, front <+: texts chunks ∧ t.position = p.advance front := by
  obtain ⟨i, hi, rfl⟩ := List.getElem_of_mem ht
  obtain ⟨front, c, back, rfl, rfl⟩ := exists_split (length_tokens file p chunks ▸ hi)
  refine ⟨texts front ++ c.gap, ⟨c.lexeme ++ texts back, ?_⟩, ?_⟩
  · rw [texts_append, texts_cons, text]
    simp only [List.append_assoc]
  · rw [getElem_tokens, Position.advance_append]
    rfl

/-- where the numbers fit, it is placed by counting there -/
theorem exists_counts (h : p.Counts before) (hb : (before ++ texts chunks).length + 1 < UInt32.size) :
    ∀ t ∈ tokens file p chunks, ∃ front, front <+: texts chunks ∧ t.position.Counts (before ++ front) := by
  intro t ht
  obtain ⟨front, within, place⟩ := exists_position_of_mem ht
  refine ⟨front, within, ?_⟩
  rw [place]
  apply h.advance
  have length := within.length_le
  simp only [List.length_append] at hb ⊢
  omega

/-- no token stands on a line that the text does not have -/
theorem line_le (h : p.Counts before) (hb : (before ++ texts chunks).length + 1 < UInt32.size) :
    ∀ t ∈ tokens file p chunks, t.line.toNat ≤ 1 + (before ++ texts chunks).count '\n' := by
  intro t ht
  obtain ⟨front, within, counts⟩ := exists_counts h hb t ht
  have hline : t.line.toNat = 1 + (before ++ front).count '\n' := counts.line
  have hcount := ((List.prefix_append_right_inj before).2 within).sublist.count_le '\n'
  omega

theorem tokens_shift (hp : p.Counts (above ++ before)) (hq : q.Counts before)
    (hb : (above ++ (before ++ texts chunks)).length + 1 < UInt32.size) :
    tokens file p chunks =
      (tokens file q chunks).map (Token.shift (above.count '\n') (Text.lastLine above).length) := by
  induction chunks generalizing p q before with
  | nil => rfl
  | cons c rest ih =>
    -- both positions move over the same text, and the one behind `above` is the other, shifted
    have move : ∀ front back, front ++ back = texts (c :: rest) →
        (p.advance front).Counts (above ++ (before ++ front)) ∧ (q.advance front).Counts (before ++ front) := by
      intro front back hparts
      rw [← hparts] at hb
      simp only [List.length_append] at hb
      rw [← List.append_assoc]
      refine ⟨hp.advance ?_, hq.advance ?_⟩
      · simp only [List.length_append]
        omega
      · simp only [List.length_append]
        omega
    obtain ⟨hpg, hqg⟩ := move c.gap (c.lexeme ++ texts rest) (by rw [texts_cons, text, List.append_assoc])
    obtain ⟨hpt, hqt⟩ := move c.text (texts rest) rfl
    have hgap : p.advance c.gap = (q.advance c.gap).shift (above.count '\n') (Text.lastLine above).length := by
      refine hpg.unique (hqg.shift ?_)
      simp only [texts_cons, text, List.length_append] at hb ⊢
      omega
    rw [texts_cons, ← List.append_assoc before] at hb
    rw [tokens_cons, tokens_cons, List.map_cons, ih hpt hqt hb, token, hgap]
    rfl

end Chunk

end TokenScanner
