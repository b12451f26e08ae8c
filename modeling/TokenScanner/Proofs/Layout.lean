/-
Tokens keep the layout of their source.

The places of the tokens and their lexemes say what the source looked like. Written out from the start, spaces up to the
column of each token and then its lexeme (`TokenStream.layout`), they give the source back, with spaces for the tabs
between tokens and without the blanks at the end. No token is missed on the way: the writing is on its line when its
turn comes, and not past its column (`Position.Meets`). The text so written is a weaker one than the source, so it is
scanned into the same tokens at the same places.

- `Lexer.Cuts.spaced`: the cut of a source, its gaps made spaces, is a cut of the text so made.
- `Chunk.layoutFrom_tokens`: placed chunks, written out from their tokens, are those chunks with spaces for gaps.
- `Lexer.lex_layout`: the stream of the text written from a stream is that stream.
-/
import TokenScanner.Proofs.Context
import TokenScanner.Proofs.Placement

namespace TokenScanner

/-! ## Writing tokens out -/

namespace Position

/-- the spaces from a position to the column of a token -/
def spacesTo (p : Position) (t : Token) : List Char :=
  List.replicate (t.column.toNat - p.column.toNat) ' '

/-- tokens written out from a position: for each the spaces up to its column, then its lexeme -/
def layoutFrom : Position → List Token → List Char
  | _, [] => []
  | p, t :: tokens =>
    let written := p.spacesTo t ++ t.lexeme.toList
    written ++ (p.advance written).layoutFrom tokens

/-- at its turn each token is on the line of the writing and not before its column, and the spaces lead to it -/
def Meets : Position → List Token → Prop
  | _, [] => True
  | p, t :: tokens =>
    (p.line = t.line ∧ p.column ≤ t.column ∧ p.advance (p.spacesTo t) = t.position) ∧
      (p.advance (p.spacesTo t ++ t.lexeme.toList)).Meets tokens

end Position

/-- the text written from the tokens of a stream -/
def TokenStream.layout (s : TokenStream) : List Char :=
  Position.start.layoutFrom s.tokens

/-- the text with spaces for its tabs -/
def Text.spaced (text : List Char) : List Char :=
  text.map fun c => if c = '\t' then ' ' else c

/-! ## Spaces for blanks -/

theorem Position.advance_spaced (p : Position) (text : List Char) : p.advance (Text.spaced text) = p.advance text := by
  induction text generalizing p with
  | nil => rfl
  | cons c text ih =>
    have step : p.next (if c = '\t' then ' ' else c) = p.next c := by
      split
      · rename_i hc
        rw [hc]
        rfl
      · rfl
    rw [Text.spaced, List.map_cons, advance_cons, advance_cons, step]
    exact ih (p.next c)

theorem Blank.spaced_eq {gap : List Char} (h : Blank gap) : Text.spaced gap = List.replicate gap.length ' ' := by
  rw [List.eq_replicate_iff]
  refine ⟨List.length_map _, fun c hc => ?_⟩
  obtain ⟨d, hd, rfl⟩ := List.mem_map.1 hc
  rcases h d hd with rfl | rfl
  · rfl
  · rfl

theorem Blank.spaced {gap : List Char} (h : Blank gap) : Blank (Text.spaced gap) := by
  rw [h.spaced_eq]
  intro c hc
  exact Or.inl (List.eq_of_mem_replicate hc)

theorem Weakens.append_spaced {gap a b : List Char} (h : Blank gap) (w : Weakens a b) :
    Weakens (gap ++ a) (Text.spaced gap ++ b) := by
  induction gap with
  | nil => exact w
  | cons c gap ih =>
    refine .cons ?_ (ih fun d hd => h d (List.mem_cons_of_mem c hd))
    rcases h c List.mem_cons_self with rfl | rfl
    · exact Or.inl rfl
    · exact Or.inr ⟨rfl, rfl⟩

/-- blanks move the column by their number -/
theorem Position.Counts.advance_blank {p : Position} {before gap : List Char} (h : p.Counts before) (hg : Blank gap)
    (short : (before ++ gap).length + 1 < UInt32.size) :
    (p.advance gap).line = p.line ∧ (p.advance gap).column.toNat = p.column.toNat + gap.length := by
  have behind := h.advance short
  have unbroken : '\n' ∉ gap := hg.not_mem (by decide)
  constructor
  · rw [← UInt32.toNat_inj, behind.line, h.line, List.count_append, List.count_eq_zero.2 unbroken]
    rfl
  · rw [behind.column, h.column, Text.lastLine_append, if_neg unbroken, List.length_append, Nat.add_assoc]

/-! ## Chunks with spaces -/

namespace Chunk

/-- the chunk with spaces for the tabs of its gap -/
def spaced (c : Chunk) : Chunk :=
  { c with gap := Text.spaced c.gap }

variable {file : String} {p : Position} {before : List Char} {chunks : List Chunk}

theorem advance_text_spaced (p : Position) (c : Chunk) : p.advance c.spaced.text = p.advance c.text := by
  rw [text, text, Position.advance_append, Position.advance_append, spaced, Position.advance_spaced]

/-- chunks with spaces are placed as they were -/
theorem tokens_spaced (file : String) (p : Position) (chunks : List Chunk) :
    tokens file p (chunks.map spaced) = tokens file p chunks := by
  induction chunks generalizing p with
  | nil => rfl
  | cons c rest ih =>
    have first : c.spaced.token file p = c.token file p := by
      rw [token, token, spaced, Position.advance_spaced]
    rw [List.map_cons, tokens_cons, tokens_cons, advance_text_spaced, ih, first]

theorem spacesTo_token (hp : p.Counts before) {c : Chunk} (hg : Blank c.gap)
    (short : (before ++ c.gap).length + 1 < UInt32.size) : p.spacesTo (c.token file p) = c.spaced.gap := by
  have column := (hp.advance_blank hg short).2
  rw [Position.spacesTo, spaced, hg.spaced_eq, token, column, Nat.add_sub_cancel_left]

/-- **Writing the tokens of chunks meets each of them, and writes the chunks with spaces for their gaps.** -/
theorem layoutFrom_tokens (file : String) (hp : p.Counts before) (hg : ∀ c ∈ chunks, Blank c.gap)
    (short : (before ++ texts chunks).length + 1 < UInt32.size) :
    p.Meets (tokens file p chunks) ∧ p.layoutFrom (tokens file p chunks) = texts (chunks.map spaced) := by
  induction chunks generalizing p before with
  | nil => exact ⟨trivial, rfl⟩
  | cons c rest ih =>
    have blank := hg c List.mem_cons_self
    rw [texts_cons, ← List.append_assoc] at short
    have short' : (before ++ c.gap).length + 1 < UInt32.size := by
      simp only [text, List.length_append] at short ⊢
      omega
    have spaces : p.spacesTo (c.token file p) = c.spaced.gap := spacesTo_token hp blank short'
    have written : p.spacesTo (c.token file p) ++ (c.token file p).lexeme.toList = c.spaced.text := by
      rw [spaces, token, String.toList_ofList]
      rfl
    have behind : (p.advance c.text).Counts (before ++ c.text) := by
      refine hp.advance ?_
      rw [List.length_append] at short
      omega
    obtain ⟨meets, layout⟩ := ih behind (fun d hd => hg d (List.mem_cons_of_mem c hd)) short
    have here : p.line = (c.token file p).line ∧ p.column ≤ (c.token file p).column ∧
        p.advance (p.spacesTo (c.token file p)) = (c.token file p).position := by
      obtain ⟨line, column⟩ := hp.advance_blank blank short'
      refine ⟨line.symm, ?_, ?_⟩
      · rw [UInt32.le_iff_toNat_le, token, column]
        exact Nat.le_add_right _ _
      · rw [spaces, spaced, Position.advance_spaced]
        rfl
    constructor
    · rw [tokens_cons, Position.Meets, written, advance_text_spaced]
      exact ⟨here, meets⟩
    · rw [tokens_cons, Position.layoutFrom, List.map_cons, texts_cons]
      simp only [written, advance_text_spaced, layout]

end Chunk

/-! ## Cuts with spaces -/

namespace Lexer

variable {lexer : Lexer} {source last : List Char} {chunks : List Chunk}

/-- chunks with spaces for their gaps are cut off the text that they make, which is weaker than the source -/
theorem Cuts.spaced (h : lexer.Cuts source chunks last) :
    Weakens source (Chunk.texts (chunks.map Chunk.spaced)) ∧
      lexer.Cuts (Chunk.texts (chunks.map Chunk.spaced)) (chunks.map Chunk.spaced) [] := by
  induction h with
  | done rest => exact ⟨.cut rest, .done []⟩
  | @take chunk source chunks rest first others ih =>
    obtain ⟨weaker, cut⟩ := ih
    rw [List.map_cons, Chunk.texts_cons]
    constructor
    · rw [Chunk.text, Chunk.text, List.append_assoc, List.append_assoc]
      exact .append_spaced first.blank (weaker.append_left chunk.lexeme)
    · exact .take ((first.weakens weaker).with_gap first.blank.spaced) cut

/-- **Positions determine the layout.** For a source whose positions fit their words: writing its tokens out meets
each of them, and writes the source with spaces for the tabs between tokens and without the blanks behind the last. What
is written is scanned into the same stream. -/
theorem lex_layout (lexer : Lexer) (file : String) (source : List Char) (short : source.length < UInt32.size - 1) :
    let stream := lexer.lex file source
    Position.start.Meets stream.tokens ∧
      (∃ gaps last, Tiling source stream.tokens gaps last ∧
        stream.layout = weave (gaps.map Text.spaced) stream.tokens) ∧
      lexer.lex file stream.layout = stream := by
  intro stream
  obtain ⟨chunks, last, hc, hl⟩ := lexer.exists_cuts source
  have hs : stream = ⟨file, Chunk.tokens file .start chunks⟩ := lex_eq_of_cuts file hc hl
  have blank : ∀ c ∈ chunks, Blank c.gap := hc.forall_mem fun _ _ ht => ht.blank
  have fits : ([] ++ Chunk.texts chunks).length + 1 < UInt32.size := by
    have hlen := congrArg List.length hc.source_eq
    rw [List.length_append] at hlen
    rw [List.nil_append]
    omega
  obtain ⟨meets, written⟩ := Chunk.layoutFrom_tokens file Position.counts_start blank fits
  have layout : stream.layout = Chunk.texts (chunks.map Chunk.spaced) := by rw [hs, TokenStream.layout, written]
  refine ⟨by rw [hs]; exact meets, ⟨chunks.map Chunk.gap, last, ?_, ?_⟩, ?_⟩
  · rw [hs]
    exact hc.tiling hl file .start
  · have gaps : (chunks.map Chunk.gap).map Text.spaced = (chunks.map Chunk.spaced).map Chunk.gap := by
      rw [List.map_map, List.map_map]
      rfl
    rw [layout, gaps, hs, ← Chunk.tokens_spaced, Chunk.weave_tokens]
  · rw [layout, lex_eq_of_cuts file hc.spaced.2 blank_nil, Chunk.tokens_spaced, hs]

/-- a tab before a quote and one behind it, a line break, and an error that takes the tab and the blank at the end -/
theorem lex_layout_swallowed_blanks :
    let lexer : Lexer := { standard with recovery := .remainder }
    let source := ['\t', 'x', '\t', '\n', ' ', '\'', '\t', 'y', '\n', ' ']
    let stream := lexer.lex "l.st" source
    source.length < UInt32.size - 1 ∧
      stream.layout = [' ', 'x', ' ', '\n', ' ', '\'', '\t', 'y', '\n', ' '] ∧
      Position.start.Meets stream.tokens ∧
      (∃ gaps last, Tiling source stream.tokens gaps last ∧
        stream.layout = weave (gaps.map Text.spaced) stream.tokens) ∧
      lexer.lex "l.st" stream.layout = stream := by
  intro lexer source stream
  obtain ⟨meets, tiled, again⟩ := lex_layout lexer "l.st" source (by decide)
  exact ⟨by decide, by decide +kernel, meets, tiled, again⟩

end Lexer

end TokenScanner
