/-
Scanning lexemes again.

A lexeme keeps what it is without the text around it. Cut out of any source, under either recovery, and scanned alone,
it is the same token again; so the kind of a token is a function of its lexeme. In the other direction, texts that are
one token each stay so when they are written one behind the other with blanks between them. Errors are left out there: a
quote that closes nowhere, alone, may be closed by a word further on.

- `Lexer.lexemes_stand_alone`: every token of a stream, scanned alone, is that token.
- `Lexer.lex_joined`: tokens written with blanks between them are read back.
-/
import TokenScanner.Proofs.Context
import TokenScanner.Proofs.Tiling

namespace TokenScanner

namespace Lexer

variable {lexer : Lexer} {file : String} {source text : List Char} {kind : Kind}

/-! ## Single lexemes -/

theorem takes_of_mem_lex {t : Token} (h : t ∈ (lexer.lex file source).tokens) :
    lexer.Takes ⟨[], t.kind, t.lexeme.toList⟩ [] := by
  obtain ⟨chunks, last, hc, hl⟩ := lexer.exists_cuts source
  have alone : ∀ c ∈ chunks, lexer.Takes ⟨[], c.kind, c.lexeme⟩ [] :=
    hc.forall_mem fun c rest ht => (ht.weakens (.cut rest)).with_gap blank_nil
  rw [lex_eq_of_cuts file hc hl] at h
  have tokens : ∀ t ∈ Chunk.tokens file .start chunks, lexer.Takes ⟨[], t.kind, t.lexeme.toList⟩ [] := by
    refine Chunk.forall_mem_tokens (fun c hm p => ?_) .start
    rw [Chunk.token, String.toList_ofList]
    exact alone c hm
  exact tokens t h

theorem lex_of_takes (file : String) (h : lexer.Takes ⟨[], kind, text⟩ []) :
    lexer.lex file text = ⟨file, [⟨file, 1, 1, String.ofList text, kind⟩]⟩ := by
  have cut := Cuts.take h (.done [])
  rw [Chunk.text, List.nil_append, List.append_nil] at cut
  exact lex_eq_of_cuts file cut blank_nil

/-- **Lexemes stand alone.** A token of any stream, its lexeme scanned alone, is the one token of that scan, at the
start. So under one lexer two tokens with one lexeme are of one kind, wherever they come from. -/
theorem lexemes_stand_alone (lexer : Lexer) (file : String) (source : List Char) :
    (∀ t ∈ (lexer.lex file source).tokens,
        lexer.lex file t.lexeme.toList = ⟨file, [⟨file, 1, 1, t.lexeme, t.kind⟩]⟩) ∧
      ∀ file' source', ∀ t ∈ (lexer.lex file source).tokens, ∀ u ∈ (lexer.lex file' source').tokens,
        t.lexeme = u.lexeme → t.kind = u.kind := by
  constructor
  · intro t ht
    rw [lex_of_takes file (takes_of_mem_lex ht), String.ofList_toList]
  · intro file' source' t ht u hu same
    have first := (takes_of_mem_lex ht).classify_eq
    have second := (takes_of_mem_lex hu).classify_eq
    rw [same] at first
    have hpair := Option.some.inj (first.symm.trans second)
    exact (Prod.mk.inj hpair).1

/-! ## Words with blanks between them -/

/-- scanned alone, the text is one token of that kind, with the whole text as its lexeme -/
def IsToken (lexer : Lexer) (text : List Char) (kind : Kind) : Prop :=
  ∃ file t, (lexer.lex file text).tokens = [t] ∧ t.lexeme = String.ofList text ∧ t.kind = kind

/-- the words in a row with the separators between them, as long as there are any -/
def joined : List (List Char) → List (List Char) → List Char
  | word :: words, separator :: separators => word ++ (separator ++ joined words separators)
  | words, _ => words.flatten

theorem IsToken.takes (h : lexer.IsToken text kind) : lexer.Takes ⟨[], kind, text⟩ [] := by
  obtain ⟨file, t, ht, hlexeme, rfl⟩ := h
  obtain ⟨chunks, last, hc, hl⟩ := lexer.exists_cuts text
  rw [lex_eq_of_cuts file hc hl] at ht
  change Chunk.tokens file .start chunks = [t] at ht
  have one : chunks.length = 1 := by rw [← Chunk.length_tokens file .start chunks, ht, List.length_singleton]
  obtain ⟨⟨gap, kind, lexeme⟩, rfl⟩ := List.length_eq_one_iff.1 one
  obtain rfl : Chunk.token file .start ⟨gap, kind, lexeme⟩ = t := by simpa using ht
  cases hc with
  | take first others =>
    cases others
    -- the lexeme is all of the text, so nothing is left for the gap and the rest
    have parts : lexeme = gap ++ lexeme ++ last := String.ofList_injective hlexeme
    have hlen := congrArg List.length parts
    simp only [List.length_append] at hlen
    obtain rfl : gap = [] := List.eq_nil_of_length_eq_zero (by omega)
    obtain rfl : last = [] := List.eq_nil_of_length_eq_zero (by omega)
    rwa [Chunk.text, List.append_nil]

/-- the cut of words with blanks before them and between them -/
theorem exists_cuts_joined {words separators : List (List Char)} {kinds : List Kind} {gap : List Char}
    (each : List.Forall₂ (fun word kind => lexer.IsToken word kind ∧ kind ≠ .error) words kinds)
    (between : separators.length = words.length - 1) (blank : ∀ s ∈ separators, Blank s ∧ s ≠ []) (hg : Blank gap) :
    ∃ chunks last, lexer.Cuts (gap ++ joined words separators) chunks last ∧ Blank last ∧
      chunks.map Chunk.kind = kinds ∧ chunks.map Chunk.lexeme = words := by
  induction each generalizing separators gap with
  | nil =>
    refine ⟨[], gap, ?_, hg, rfl, rfl⟩
    cases separators with
    | nil => simpa [joined] using Cuts.done gap
    | cons s separators => cases between
  | @cons word kind words kinds first others ih =>
    have alone : lexer.Takes ⟨gap, kind, word⟩ [] := first.1.takes.with_gap hg
    cases separators with
    | nil =>
      obtain rfl : words = [] := List.eq_nil_of_length_eq_zero (by simpa using between.symm)
      cases others
      have cut := Cuts.take alone (.done [])
      refine ⟨[⟨gap, kind, word⟩], [], ?_, blank_nil, rfl, rfl⟩
      simpa [joined, Chunk.text] using cut
    | cons s separators =>
      obtain ⟨hs, hne⟩ := blank s List.mem_cons_self
      obtain ⟨d, tail, rfl⟩ := List.exists_cons_of_ne_nil hne
      have before : lexer.Takes ⟨gap, kind, word⟩ ((d :: tail) ++ joined words separators) := by
        refine alone.follow first.2 fun e he => Or.inl ?_
        cases he
        exact hs.all_isBlank d List.mem_cons_self
      have between' : separators.length = words.length - 1 := by
        simp only [List.length_cons] at between
        omega
      obtain ⟨chunks, last, hc, hl, hk, hx⟩ := ih between' (fun s hs => blank s (List.mem_cons_of_mem _ hs)) hs
      refine ⟨⟨gap, kind, word⟩ :: chunks, last, ?_, hl, by rw [List.map_cons, hk], by rw [List.map_cons, hx]⟩
      have cut := Cuts.take before hc
      rwa [Chunk.text, List.append_assoc] at cut

/-- **Written tokens are read back.** Texts that are one token each, none of them an error, joined with blanks between
them, are scanned into the same tokens in order, no more and no fewer. -/
theorem lex_joined (lexer : Lexer) (file : String) {words separators : List (List Char)} {kinds : List Kind}
    (each : List.Forall₂ (fun word kind => lexer.IsToken word kind ∧ kind ≠ .error) words kinds)
    (between : separators.length = words.length - 1) (blank : ∀ s ∈ separators, Blank s ∧ s ≠ []) :
    (lexer.lex file (joined words separators)).kinds = kinds ∧
      (lexer.lex file (joined words separators)).tokens.map Token.lexeme = words.map String.ofList := by
  obtain ⟨chunks, last, hc, hl, hk, hx⟩ := exists_cuts_joined each between blank blank_nil
  rw [List.nil_append] at hc
  rw [lex_eq_of_cuts file hc hl, TokenStream.kinds, Chunk.map_kind_tokens, Chunk.map_lexeme_tokens, hk, hx]
  exact ⟨rfl, rfl⟩

/-- words that end or start with quotes, and a symbol that would be longer with the next one -/
theorem lex_joined_quotes :
    let lexer : Lexer := { standard with recovery := .remainder }
    let words := [['<'], ['='], ['\'', '\''], ['\'', 'a', '\''], ['"', ' ', '"'], ['x', '1']]
    let separators := [[' '], ['\t'], [' ', '\t'], [' '], ['\t', '\t']]
    let kinds := [.symbol .less, .symbol .equal, .singleQuoted, .singleQuoted, .doubleQuoted, .ident]
    List.Forall₂ (fun word kind => lexer.IsToken word kind ∧ kind ≠ .error) words kinds ∧
      separators.length = words.length - 1 ∧ (∀ s ∈ separators, Blank s ∧ s ≠ []) ∧
      (lexer.lex "j.st" (joined words separators)).kinds = kinds ∧
      (lexer.lex "j.st" (joined words separators)).tokens.map Token.lexeme = words.map String.ofList := by
  intro lexer words separators kinds
  have isToken : ∀ word kind, (lexer.lex "w.st" word).tokens = [⟨"w.st", 1, 1, String.ofList word, kind⟩] →
      lexer.IsToken word kind := fun word kind h => ⟨"w.st", _, h, rfl, rfl⟩
  have each : List.Forall₂ (fun word kind => lexer.IsToken word kind ∧ kind ≠ .error) words kinds := by
    refine .cons ⟨isToken _ _ ?_, ?_⟩ (.cons ⟨isToken _ _ ?_, ?_⟩ (.cons ⟨isToken _ _ ?_, ?_⟩
      (.cons ⟨isToken _ _ ?_, ?_⟩ (.cons ⟨isToken _ _ ?_, ?_⟩ (.cons ⟨isToken _ _ ?_, ?_⟩ .nil)))))
    all_goals decide +kernel
  have between : separators.length = words.length - 1 := rfl
  have blank : ∀ s ∈ separators, Blank s ∧ s ≠ [] := by simp [separators, Blank]
  exact ⟨each, between, blank, lex_joined lexer "j.st" each between blank⟩

end Lexer

end TokenScanner
