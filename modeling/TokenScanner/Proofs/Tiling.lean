/-
Tokens tile their source.

`Tiling source tokens gaps last` says that the source is gap, lexeme, gap, lexeme and so on, with the gap `last` after
the last lexeme, where gaps are blank and lexemes are solid. A source and its tokens leave no choice for the gaps
(`Tiling.unique`), so the place of a token in the source, the end of `textBefore`, is well defined.

- `Lexer.tokens_tile_source`: the tokens of every source tile it, under every lexer; no character is lost, doubled,
  moved or changed, and blanks are all that is left out.
-/
import TokenScanner.Proofs.Chunk

namespace TokenScanner

/-! ## Tilings -/

/-- gap, lexeme, gap, lexeme and so on -/
def weave : List (List Char) → List Token → List Char
  | gap :: gaps, token :: tokens => gap ++ (token.lexeme.toList ++ weave gaps tokens)
  | _, _ => []

/-- all of `weave` that stands before the lexeme of that place -/
def textBefore : List (List Char) → List Token → Nat → List Char
  | gap :: _, _ :: _, 0 => gap
  | gap :: gaps, token :: tokens, i + 1 => gap ++ (token.lexeme.toList ++ textBefore gaps tokens i)
  | _, _, _ => []

/-- the gaps and the lexemes of the tokens make up the source -/
structure Tiling (source : List Char) (tokens : List Token) (gaps : List (List Char)) (last : List Char) : Prop where
  length_eq : gaps.length = tokens.length
  source_eq : source = weave gaps tokens ++ last
  gap_blank : ∀ gap ∈ gaps, Blank gap
  last_blank : Blank last
  lexeme_solid : ∀ t ∈ tokens, Solid t.lexeme.toList

/-- blanks before a solid text end where it starts -/
theorem blank_append_inj {a b x y : List Char} (ha : Blank a) (hb : Blank b) (hx : x = [] ∨ Solid x)
    (hy : y = [] ∨ Solid y) (h : a ++ x = b ++ y) : a = b ∧ x = y := by
  obtain ⟨ha1, ha2⟩ := takeWhile_blank_append ha hx
  obtain ⟨hb1, hb2⟩ := takeWhile_blank_append hb hy
  rw [h] at ha1 ha2
  exact ⟨ha1.symm.trans hb1, ha2.symm.trans hb2⟩

/-- a tiling without its first gap and token -/
theorem Tiling.tail {source : List Char} {t : Token} {tokens : List Token} {gap : List Char}
    {gaps : List (List Char)} {last : List Char} (h : Tiling source (t :: tokens) (gap :: gaps) last) :
    Tiling (weave gaps tokens ++ last) tokens gaps last where
  length_eq := Nat.succ.inj h.length_eq
  source_eq := rfl
  gap_blank := fun g hg => h.gap_blank g (List.mem_cons_of_mem gap hg)
  last_blank := h.last_blank
  lexeme_solid := fun t' ht => h.lexeme_solid t' (List.mem_cons_of_mem t ht)

/-- **Only one tiling.** The gaps follow from the source and the tokens. -/
theorem Tiling.unique {source : List Char} {tokens : List Token} {gaps gaps' : List (List Char)}
    {last last' : List Char} (h : Tiling source tokens gaps last) (h' : Tiling source tokens gaps' last') :
    gaps' = gaps ∧ last' = last := by
  induction tokens generalizing source gaps gaps' with
  | nil =>
    have hg := List.eq_nil_of_length_eq_zero h.length_eq
    have hg' := List.eq_nil_of_length_eq_zero h'.length_eq
    subst hg hg'
    exact ⟨rfl, h'.source_eq.symm.trans h.source_eq⟩
  | cons t tokens ih =>
    obtain ⟨gap, gaps, rfl⟩ := List.exists_cons_of_length_eq_add_one h.length_eq
    obtain ⟨gap', gaps', rfl⟩ := List.exists_cons_of_length_eq_add_one h'.length_eq
    have solid := h.lexeme_solid t List.mem_cons_self
    have he : gap' ++ (t.lexeme.toList ++ (weave gaps' tokens ++ last')) =
        gap ++ (t.lexeme.toList ++ (weave gaps tokens ++ last)) := by
      have := h'.source_eq.symm.trans h.source_eq
      simpa only [weave, List.append_assoc] using this
    obtain ⟨hgap, htail⟩ := blank_append_inj (h'.gap_blank gap' List.mem_cons_self)
      (h.gap_blank gap List.mem_cons_self) (Or.inr (solid.append _)) (Or.inr (solid.append _)) he
    have hrest := h'.tail
    rw [List.append_cancel_left htail] at hrest
    obtain ⟨hgaps, hlast⟩ := ih h.tail hrest
    exact ⟨by rw [hgap, hgaps], hlast⟩

/-! ## The tiling of a cut -/

namespace Chunk

/-- a property of the tokens of chunks is checked on the chunks -/
theorem forall_mem_tokens {q : Token → Prop} {file : String} {chunks : List Chunk}
    (h : ∀ c ∈ chunks, ∀ p, q (c.token file p)) (p : Position) : ∀ t ∈ tokens file p chunks, q t := by
  induction chunks generalizing p with
  | nil => exact fun _ ht => absurd ht List.not_mem_nil
  | cons c rest ih =>
    intro t ht
    rcases List.mem_cons.1 ht with rfl | ht
    · exact h c List.mem_cons_self p
    · exact ih (fun c' hc => h c' (List.mem_cons_of_mem c hc)) _ t ht

theorem weave_tokens (file : String) (p : Position) (chunks : List Chunk) :
    weave (chunks.map gap) (tokens file p chunks) = texts chunks := by
  induction chunks generalizing p with
  | nil => rfl
  | cons c rest ih =>
    rw [List.map_cons, tokens_cons, weave, ih, token, String.toList_ofList, texts_cons, text, List.append_assoc]

theorem textBefore_tokens (file : String) (p : Position) (front : List Chunk) (c : Chunk) (back : List Chunk) :
    textBefore ((front ++ c :: back).map gap) (tokens file p (front ++ c :: back)) front.length =
      texts front ++ c.gap := by
  induction front generalizing p with
  | nil => rfl
  | cons d front ih =>
    rw [List.cons_append, List.map_cons, tokens_cons, List.length_cons, textBefore, ih, token, String.toList_ofList,
      texts_cons, text, List.append_assoc, List.append_assoc]

end Chunk

namespace Lexer

variable {lexer : Lexer}

/-- the gaps of a complete cut tile the source -/
theorem Cuts.tiling {source : List Char} {chunks : List Chunk} {last : List Char}
    (h : lexer.Cuts source chunks last) (hl : Blank last) (file : String) (p : Position) :
    Tiling source (Chunk.tokens file p chunks) (chunks.map Chunk.gap) last where
  length_eq := by rw [List.length_map, Chunk.length_tokens]
  source_eq := by rw [Chunk.weave_tokens, ← h.source_eq]
  gap_blank := by
    intro gap hg
    obtain ⟨c, hc, rfl⟩ := List.mem_map.1 hg
    exact h.forall_mem (fun _ _ ht => ht.blank) c hc
  last_blank := hl
  lexeme_solid := by
    refine Chunk.forall_mem_tokens (fun c hc q => ?_) p
    rw [Chunk.token, String.toList_ofList]
    exact h.forall_mem (fun _ _ ht => ht.solid) c hc

/-- a stream and its tokens carry the file that was scanned -/
theorem file_lex (lexer : Lexer) (file : String) (source : List Char) :
    (lexer.lex file source).file = file ∧ ∀ t ∈ (lexer.lex file source).tokens, t.file = file := by
  obtain ⟨chunks, last, cuts, blank⟩ := lexer.exists_cuts source
  rw [lex_eq_of_cuts file cuts blank]
  exact ⟨rfl, Chunk.forall_mem_tokens (fun _ _ _ => rfl) .start⟩

/-- a character of a token is one of the source -/
theorem mem_of_mem_lexeme {source : List Char} {file : String} {t : Token} (ht : t ∈ (lexer.lex file source).tokens)
    {c : Char} (hc : c ∈ t.lexeme.toList) : c ∈ source := by
  obtain ⟨chunks, last, cuts, blank⟩ := lexer.exists_cuts source
  rw [lex_eq_of_cuts file cuts blank] at ht
  rw [cuts.source_eq, List.mem_append]
  left
  have within : ∀ t ∈ Chunk.tokens file .start chunks, ∀ c ∈ t.lexeme.toList, c ∈ Chunk.texts chunks := by
    refine Chunk.forall_mem_tokens (fun chunk hm p c hc => ?_) .start
    rw [Chunk.token, String.toList_ofList] at hc
    exact List.mem_flatMap.2 ⟨chunk, hm, List.mem_append_right chunk.gap hc⟩
  exact within t ht c hc

/-- **Tokens tile the source.** Under every lexer a source is blanks and the lexemes of its tokens in turn, in one way
only. No lexeme is empty or starts with a blank, no token is of the kind of blanks, and all carry the file. -/
theorem tokens_tile_source (lexer : Lexer) (file : String) (source : List Char) :
    let stream := lexer.lex file source
    (∃ gaps last, Tiling source stream.tokens gaps last ∧
        ∀ gaps' last', Tiling source stream.tokens gaps' last' → gaps' = gaps ∧ last' = last) ∧
      (∀ t ∈ stream.tokens, t.kind ≠ .whitespace ∧ t.file = file) ∧ stream.file = file := by
  intro stream
  obtain ⟨chunks, last, hc, hl⟩ := lexer.exists_cuts source
  have hs : stream = ⟨file, Chunk.tokens file .start chunks⟩ := lex_eq_of_cuts file hc hl
  have ht := hc.tiling hl file .start
  rw [hs]
  refine ⟨⟨chunks.map Chunk.gap, last, ht, fun gaps' last' => ht.unique⟩, ?_, rfl⟩
  refine Chunk.forall_mem_tokens (fun c hm p => ⟨?_, rfl⟩) .start
  exact hc.forall_mem (fun _ _ h => h.kind_ne_whitespace) c hm

end Lexer

end TokenScanner
