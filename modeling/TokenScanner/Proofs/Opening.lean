/-
Lexemes opened up.

Two lexers may cut a source differently and still agree on where the larger pieces end: what the first takes as one
lexeme the second takes in parts, without a character more or less (`Lexer.Opens`). Then the stream of the second is the
stream of the first with the tokens of the parts in the place of each token. Parts that are scanned alone stand on one
line, from column 1; for their place in the source they are moved there (`Token.movedTo`), as far as a column goes.

- `Position.advance_eq_movedTo`: a text without line breaks leads on from any position as it does from the start.
- `Lexer.Takes.keep`: a lexer that lacks some groups of another takes all else like it.
- `Lexer.Opens.cuts`, `Lexer.Opens.lex_eq`: from one lexeme to a whole cut, and to the streams.
- `Lexer.column_lt`: in a source whose positions fit their words no column is at the end of its word.
-/
import TokenScanner.Proofs.Context
import TokenScanner.Proofs.Placement

namespace TokenScanner

/-! ## To the right on one line -/

namespace Position

/-- the position some columns to the right, as far as the word goes -/
def right (p : Position) (columns : Nat) : Position :=
  ⟨p.line, successor^[columns] p.column⟩

/-- a position on the first line of a text, moved to a place where the text starts -/
def movedTo (p origin : Position) : Position :=
  ⟨origin.line, (p.right (origin.column.toNat - 1)).column⟩

variable {p q : Position} {text : List Char} {m n : UInt32} {k : Nat}

theorem toNat_le_successor (n : UInt32) : n.toNat ≤ (successor n).toNat := by
  by_cases h : n.toNat + 1 < UInt32.size
  · rw [toNat_successor h]
    exact Nat.le_succ _
  · rw [successor_of_full (Nat.le_of_not_lt h)]

/-- where the numbers fit, moving to the right is an addition -/
theorem column_right_of_lt (h : p.column.toNat + k < UInt32.size) : (p.right k).column.toNat = p.column.toNat + k := by
  rw [right, toNat_iterate_successor]
  omega

/-- a column short of the end of its word was not cut off on the way -/
theorem column_right_eq_add (h : (p.right k).column.toNat < UInt32.size - 1) :
    (p.right k).column.toNat = p.column.toNat + k := by
  rw [right, toNat_iterate_successor] at h ⊢
  omega

theorem advance_eq_right (ht : '\n' ∉ text) : p.advance text = p.right text.length := by
  have line : p.line = (p.advance text).line := by
    rw [line_advance, List.count_eq_zero.2 ht, Function.iterate_zero_apply]
  have column : successor^[text.length] p.column = (p.advance text).column := by rw [column_advance, if_neg ht]
  rw [right, line, column]

/-- **On one line all starts are alike.** A text without line breaks leads on from any position as it does from the
start, moved there. -/
theorem advance_eq_movedTo (hq : 1 ≤ q.column) (ht : '\n' ∉ text) :
    q.advance text = (start.advance text).movedTo q := by
  have least : 1 ≤ q.column.toNat := UInt32.le_iff_toNat_le.1 hq
  have bound : q.column.toNat < UInt32.size := q.column.toNat_lt
  have reach : (start.right (q.column.toNat - 1)).column = q.column := by
    have one : start.column.toNat = 1 := rfl
    rw [← UInt32.toNat_inj, column_right_of_lt (by omega), one]
    omega
  have behind : ((start.right text.length).right (q.column.toNat - 1)).column =
      successor^[text.length] (start.right (q.column.toNat - 1)).column := by
    simp only [right, ← Function.iterate_add_apply, Nat.add_comm]
  rw [advance_eq_right ht, advance_eq_right ht, movedTo, behind, reach, right]

theorem one_le_column_advance (hp : 1 ≤ p.column) (text : List Char) : 1 ≤ (p.advance text).column := by
  induction text generalizing p with
  | nil => exact hp
  | cons c text ih =>
    refine ih ?_
    rw [next]
    split
    · exact UInt32.le_refl 1
    · rw [UInt32.le_iff_toNat_le] at hp ⊢
      exact Nat.le_trans hp (toNat_le_successor p.column)

end Position

/-- a token on the first line of a text, moved to a place where the text starts -/
def Token.movedTo (origin : Position) (t : Token) : Token :=
  { t with
    line := (t.position.movedTo origin).line
    column := (t.position.movedTo origin).column }

/-! ## Chunks in another place -/

namespace Chunk

/-- chunks in a row, with more blanks before the first -/
def behind (gap : List Char) : List Chunk → List Chunk
  | [] => []
  | c :: rest => { c with gap := gap ++ c.gap } :: rest

variable {file : String} {p q : Position} {before : List Char} {chunks : List Chunk}

theorem tokens_behind (file : String) (p : Position) (gap : List Char) (chunks : List Chunk) :
    tokens file p (behind gap chunks) = tokens file (p.advance gap) chunks := by
  cases chunks with
  | nil => rfl
  | cons c rest => simp only [behind, tokens_cons, token, text, Position.advance_append]

theorem tokens_advance_movedTo (hq : 1 ≤ q.column) (unbroken : '\n' ∉ before ++ texts chunks) :
    tokens file (q.advance before) chunks =
      (tokens file (Position.start.advance before) chunks).map (Token.movedTo q) := by
  induction chunks generalizing before with
  | nil => rfl
  | cons c rest ih =>
    rw [texts_cons, ← List.append_assoc] at unbroken
    have others := ih unbroken
    have place : (q.advance before).advance c.gap = ((Position.start.advance before).advance c.gap).movedTo q := by
      rw [← Position.advance_append, ← Position.advance_append]
      refine Position.advance_eq_movedTo hq fun hn => unbroken ?_
      rw [text]
      simp only [List.mem_append] at hn ⊢
      tauto
    rw [Position.advance_append, Position.advance_append] at others
    rw [tokens_cons, tokens_cons, List.map_cons, others, token, place]
    rfl

/-- **Chunks on one line are placed as at the start, moved to where they stand.** -/
theorem tokens_movedTo (hq : 1 ≤ q.column) (unbroken : '\n' ∉ texts chunks) :
    tokens file q chunks = (tokens file .start chunks).map (Token.movedTo q) :=
  @tokens_advance_movedTo file q [] chunks hq unbroken

/-- no column is at the end of its word, since the lexeme is still to come -/
theorem column_lt (hp : p.Counts before) (hne : ∀ c ∈ chunks, c.lexeme ≠ [])
    (short : (before ++ texts chunks).length + 1 < UInt32.size) :
    ∀ t ∈ tokens file p chunks, t.column.toNat < UInt32.size - 1 := by
  induction chunks generalizing p before with
  | nil => exact fun _ ht => absurd ht List.not_mem_nil
  | cons c rest ih =>
    rw [texts_cons, ← List.append_assoc] at short
    have long := List.length_pos_of_ne_nil (hne c List.mem_cons_self)
    have lengths : (before ++ c.gap).length + c.lexeme.length ≤ (before ++ c.text ++ texts rest).length := by
      simp only [text, List.length_append]
      omega
    have here : (p.advance c.gap).Counts (before ++ c.gap) := hp.advance (by omega)
    have next : (p.advance c.text).Counts (before ++ c.text) := by
      refine hp.advance ?_
      rw [List.length_append] at short
      omega
    intro t ht
    rcases List.mem_cons.1 ht with rfl | ht
    · have column := here.column
      have line := Text.length_lastLine_le (before ++ c.gap)
      change (p.advance c.gap).column.toNat < _
      omega
    · exact ih next (fun d hd => hne d (List.mem_cons_of_mem c hd)) short t ht

end Chunk

namespace Lexer

variable {a b lexer : Lexer} {source rest last lexeme : List Char} {chunk : Chunk} {chunks : List Chunk}

theorem column_lt (lexer : Lexer) (file : String) (short : source.length < UInt32.size - 1) :
    ∀ t ∈ (lexer.lex file source).tokens, t.column.toNat < UInt32.size - 1 := by
  obtain ⟨chunks, last, hc, hl⟩ := lexer.exists_cuts source
  rw [lex_eq_of_cuts file hc hl]
  refine Chunk.column_lt Position.counts_start (hc.forall_mem fun _ _ h => h.ne_nil) ?_
  have hlen := congrArg List.length hc.source_eq
  rw [List.length_append] at hlen
  rw [List.nil_append]
  omega

/-- without line breaks all tokens are on the first line -/
theorem line_eq_one (lexer : Lexer) (file : String) (unbroken : '\n' ∉ source) :
    ∀ t ∈ (lexer.lex file source).tokens, t.line = 1 := by
  obtain ⟨chunks, last, hc, hl⟩ := lexer.exists_cuts source
  rw [hc.source_eq, List.mem_append, not_or] at unbroken
  rw [lex_eq_of_cuts file hc hl]
  intro t ht
  rw [Chunk.tokens_movedTo (UInt32.le_refl 1) unbroken.1] at ht
  obtain ⟨u, -, rfl⟩ := List.mem_map.1 ht
  rfl

theorem Cuts.behind {gap : List Char} (hg : Blank gap) (h : lexer.Cuts source chunks rest) (hne : chunks ≠ []) :
    lexer.Cuts (gap ++ source) (Chunk.behind gap chunks) rest := by
  cases h with
  | done => exact absurd rfl hne
  | @take c source chunks _ first others =>
    have blank : Blank (gap ++ c.gap) := fun d hd => (List.mem_append.1 hd).elim (hg d) (first.blank d)
    have cut := Cuts.take (first.with_gap blank) others
    rw [Chunk.text, List.append_assoc, List.append_assoc] at cut
    rwa [Chunk.text, List.append_assoc]

/-! ## A lexer with fewer groups -/

/-- the second lexer has the labels and the groups of the first, but for the groups of some kinds -/
structure Drops (dropped : Kind → Prop) (a b : Lexer) : Prop where
  label_eq : ∀ c, b.label c = a.label c
  groups : ∀ {input kind lexeme}, b.Groups input kind lexeme → a.Groups input kind lexeme
  kept : ∀ {input kind lexeme}, a.Groups input kind lexeme → ¬ dropped kind → b.Groups input kind lexeme

theorem Takes.keep {dropped : Kind → Prop} (d : Drops dropped a b) (ha : a.recovery = .singleChar)
    (hb : b.recovery = .singleChar) (h : a.Takes chunk rest) (hk : ¬ dropped chunk.kind) : b.Takes chunk rest := by
  obtain ⟨gap, kind, lexeme⟩ := chunk
  have picked : a.Picks kind lexeme rest := h.picks
  cases picked with
  | group grouped => exact h.of_picks (.group (d.kept grouped hk))
  | @single c _ alone kept =>
    have picked : b.Picks (b.label c) [c] rest := .single (fun k l hg => alone k l (d.groups hg)) (Or.inr hb)
    rw [d.label_eq] at picked
    exact h.of_picks picked
  | swallow alone unknown all =>
    rw [ha] at all
    cases all

/-- a character that stands alone, taken under its label -/
theorem takes_single {gap : List Char} {c : Char} (hg : Blank gap) (hc : isBlank c = false)
    (alone : lexer.Ungrouped (c :: rest)) (hr : lexer.recovery = .singleChar) :
    lexer.Takes ⟨gap, lexer.label c, [c]⟩ rest where
  blank := hg
  solid := ⟨c, [], rfl, isBlank_eq_false_iff.1 hc⟩
  classify_eq := (Picks.single alone (Or.inr hr)).classify_eq

/-! ## From lexemes to streams -/

/-- each chunk that the first lexer takes the second takes in parts, whose tokens are made of its token -/
def Opens (a b : Lexer) (file : String) (opening : Token → List Token) : Prop :=
  ∀ chunk rest, a.Takes chunk rest →
    ∃ parts, b.Cuts (chunk.text ++ rest) parts rest ∧
      ∀ p : Position, 1 ≤ p.column → Chunk.tokens file p parts = opening (chunk.token file p)

variable {file : String} {opening : Token → List Token}

theorem Opens.cuts (h : Opens a b file opening) (hc : a.Cuts source chunks last) :
    ∃ parts, b.Cuts source parts last ∧
      ∀ p : Position, 1 ≤ p.column → Chunk.tokens file p parts = (Chunk.tokens file p chunks).flatMap opening := by
  induction hc with
  | done rest => exact ⟨[], .done rest, fun _ _ => rfl⟩
  | @take chunk source chunks last first _ ih =>
    obtain ⟨parts, cut, made⟩ := h chunk source first
    obtain ⟨others, cuts, all⟩ := ih
    have same : Chunk.texts parts = chunk.text := List.append_cancel_right cut.source_eq.symm
    refine ⟨parts ++ others, cut.append cuts, fun p hp => ?_⟩
    rw [Chunk.tokens_append, made p hp, same, all _ (Position.one_le_column_advance hp _), Chunk.tokens_cons,
      List.flatMap_cons]

/-- **Streams are opened token by token.** -/
theorem Opens.lex_eq (h : Opens a b file opening) (source : List Char) :
    b.lex file source = { a.lex file source with tokens := (a.lex file source).tokens.flatMap opening } := by
  obtain ⟨chunks, last, hc, hl⟩ := a.exists_cuts source
  obtain ⟨parts, cut, made⟩ := h.cuts hc
  rw [lex_eq_of_cuts file hc hl, lex_eq_of_cuts file cut hl, made .start (UInt32.le_refl 1)]

end Lexer

end TokenScanner
