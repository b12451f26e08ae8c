/-
Scans as cuts.

A scan cuts its source into chunks: blanks, then the lexeme that the lexer takes after them. `Lexer.Cuts source chunks
rest` says that the first chunks are these and that `rest` is left; nothing in it speaks of positions, of widths in
bytes or of a scan under way. A cut is complete when only blanks are left.

- `Lexer.exists_cuts`: every source has a complete cut.
- `Lexer.lex_eq_of_cuts`: the tokens of a source are the chunks of a complete cut, each placed behind the ones before.
- `Lexer.Cuts.append`, `Lexer.Cuts.source_eq`: cuts compose, and lose nothing of the source.
- `Lexer.lex_congr`: lexers that classify alike scan alike.

A statement about the tokens of a source is an induction on its cut; one about two scans gives the second cut.
-/
import TokenScanner.Proofs.Recognition

namespace TokenScanner

/-! ## Blank and solid texts -/

/-- the text is spaces and tabs -/
def Blank (text : List Char) : Prop :=
  ∀ c ∈ text, c = ' ' ∨ c = '\t'

/-- the text starts with a character that is neither a space nor a tab -/
def Solid (text : List Char) : Prop :=
  ∃ c rest, text = c :: rest ∧ c ≠ ' ' ∧ c ≠ '\t'

instance (text : List Char) : Decidable (Blank text) :=
  inferInstanceAs (Decidable (∀ c ∈ text, c = ' ' ∨ c = '\t'))

theorem isBlank_iff {c : Char} : isBlank c = true ↔ c = ' ' ∨ c = '\t' := by
  simp [isBlank]

theorem isBlank_eq_false_iff {c : Char} : isBlank c = false ↔ c ≠ ' ' ∧ c ≠ '\t' := by
  simp [isBlank]

theorem blank_nil : Blank [] := fun _ h => absurd h List.not_mem_nil

theorem Blank.all_isBlank {text : List Char} (h : Blank text) : ∀ c ∈ text, isBlank c = true :=
  fun c hc => isBlank_iff.2 (h c hc)

/-- only blanks are in a blank text -/
theorem Blank.not_mem {text : List Char} {c : Char} (h : Blank text) (hc : isBlank c = false) : c ∉ text := by
  intro hm
  rw [h.all_isBlank c hm] at hc
  cases hc

theorem Solid.ne_nil {text : List Char} (h : Solid text) : text ≠ [] := by
  obtain ⟨c, rest, rfl, -, -⟩ := h
  exact List.cons_ne_nil c rest

theorem Solid.append {a : List Char} (h : Solid a) (b : List Char) : Solid (a ++ b) := by
  obtain ⟨c, tail, rfl, hs, ht⟩ := h
  exact ⟨c, tail ++ b, rfl, hs, ht⟩

theorem blank_takeWhile (text : List Char) : Blank (text.takeWhile isBlank) :=
  fun _ hc => isBlank_iff.1 (List.mem_takeWhile_imp hc)

theorem blank_or_solid_dropWhile (text : List Char) :
    text.dropWhile isBlank = [] ∨ Solid (text.dropWhile isBlank) := by
  cases h : text.dropWhile isBlank with
  | nil => exact Or.inl rfl
  | cons c rest =>
    have hc : isBlank c = false := by
      have := List.head_dropWhile_not isBlank (l := text) (by simp [h])
      simpa [h] using this
    exact Or.inr ⟨c, rest, rfl, isBlank_eq_false_iff.1 hc⟩

/-- the blanks before a solid text are what a scan skips -/
theorem takeWhile_blank_append {gap text : List Char} (hg : Blank gap) (ht : text = [] ∨ Solid text) :
    (gap ++ text).takeWhile isBlank = gap ∧ (gap ++ text).dropWhile isBlank = text := by
  rw [List.takeWhile_append_of_pos hg.all_isBlank, List.dropWhile_append_of_pos hg.all_isBlank]
  rcases ht with rfl | ⟨c, rest, rfl, hc⟩
  · simp
  · simp [isBlank_eq_false_iff.2 hc]

/-! ## Chunks -/

/-- blanks and the lexeme behind them -/
structure Chunk where
  gap : List Char
  kind : Kind
  lexeme : List Char
  deriving DecidableEq, Repr

namespace Chunk

/-- the characters of a chunk -/
def text (c : Chunk) : List Char :=
  c.gap ++ c.lexeme

/-- the characters of chunks in a row -/
def texts (chunks : List Chunk) : List Char :=
  chunks.flatMap text

/-- the token of a chunk that starts at a position -/
def token (file : String) (p : Position) (c : Chunk) : Token :=
  ⟨file, (p.advance c.gap).line, (p.advance c.gap).column, String.ofList c.lexeme, c.kind⟩

/-- the tokens of chunks in a row, the first of which starts at a position -/
def tokens (file : String) : Position → List Chunk → List Token
  | _, [] => []
  | p, c :: rest => c.token file p :: tokens file (p.advance c.text) rest

@[simp] theorem texts_nil : texts [] = [] := rfl

@[simp] theorem texts_cons (c : Chunk) (rest : List Chunk) : texts (c :: rest) = c.text ++ texts rest := rfl

@[simp] theorem texts_append (a b : List Chunk) : texts (a ++ b) = texts a ++ texts b :=
  List.flatMap_append

@[simp] theorem tokens_nil (file : String) (p : Position) : tokens file p [] = [] := rfl

@[simp] theorem tokens_cons (file : String) (p : Position) (c : Chunk) (rest : List Chunk) :
    tokens file p (c :: rest) = c.token file p :: tokens file (p.advance c.text) rest := rfl

theorem tokens_append (file : String) (p : Position) (a b : List Chunk) :
    tokens file p (a ++ b) = tokens file p a ++ tokens file (p.advance (texts a)) b := by
  induction a generalizing p with
  | nil => rfl
  | cons c rest ih =>
    rw [List.cons_append, tokens_cons, ih, tokens_cons, texts_cons, Position.advance_append, List.cons_append]

@[simp] theorem length_tokens (file : String) (p : Position) (chunks : List Chunk) :
    (tokens file p chunks).length = chunks.length := by
  induction chunks generalizing p with
  | nil => rfl
  | cons c rest ih => rw [tokens_cons, List.length_cons, ih, List.length_cons]

theorem map_kind_tokens (file : String) (p : Position) (chunks : List Chunk) :
    (tokens file p chunks).map Token.kind = chunks.map kind := by
  induction chunks generalizing p with
  | nil => rfl
  | cons c rest ih => rw [tokens_cons, List.map_cons, ih, List.map_cons, token]

theorem map_lexeme_tokens (file : String) (p : Position) (chunks : List Chunk) :
    (tokens file p chunks).map Token.lexeme = (chunks.map lexeme).map String.ofList := by
  induction chunks generalizing p with
  | nil => rfl
  | cons c rest ih => rw [tokens_cons, List.map_cons, ih, List.map_cons, List.map_cons, token]

/-- a kind stands among the tokens where it stands among the chunks -/
theorem forall_kind_ne (file : String) (p : Position) {k : Kind} {chunks : List Chunk} :
    (∀ t ∈ tokens file p chunks, t.kind ≠ k) ↔ ∀ c ∈ chunks, c.kind ≠ k := by
  have h : k ∉ (tokens file p chunks).map Token.kind ↔ k ∉ chunks.map kind := by rw [map_kind_tokens]
  simpa only [List.mem_map, not_exists, not_and] using h

/-- a kind is not among the chunks, or there is a first chunk of it -/
theorem exists_first (chunks : List Chunk) (k : Kind) :
    (∀ c ∈ chunks, c.kind ≠ k) ∨
      ∃ front c back, chunks = front ++ c :: back ∧ c.kind = k ∧ ∀ d ∈ front, d.kind ≠ k := by
  cases h : chunks.find? (fun c => decide (c.kind = k)) with
  | none => exact Or.inl (by simpa using h)
  | some c =>
    obtain ⟨hc, front, back, rfl, hf⟩ := List.find?_eq_some_iff_append.1 h
    exact Or.inr ⟨front, c, back, rfl, by simpa using hc, by simpa using hf⟩

theorem exists_split {chunks : List Chunk} {i : Nat} (h : i < chunks.length) :
    ∃ front c back, chunks = front ++ c :: back ∧ front.length = i :=
  ⟨chunks.take i, chunks[i], chunks.drop (i + 1), by simp, by simp [Nat.le_of_lt h]⟩

section

variable {file : String} {p : Position} {front back : List Chunk} {c : Chunk}

theorem take_tokens : (tokens file p (front ++ c :: back)).take front.length = tokens file p front := by
  rw [tokens_append, ← length_tokens file p front, List.take_left]

theorem drop_tokens : (tokens file p (front ++ c :: back)).drop front.length =
    tokens file (p.advance (texts front)) (c :: back) := by
  rw [tokens_append, ← length_tokens file p front, List.drop_left]

theorem getElem_tokens (h : front.length < (tokens file p (front ++ c :: back)).length) :
    (tokens file p (front ++ c :: back))[front.length] = c.token file (p.advance (texts front)) := by
  simp only [tokens_append, tokens_cons]
  rw [List.getElem_append_right (by rw [length_tokens])]
  simp

end

section

variable {file : String} {p : Position} {chunks : List Chunk} {i j : Nat} {t u : Token}

/-- the chunk of a token, between the chunks before it and those behind it -/
theorem exists_split_of_getElem? (h : (tokens file p chunks)[i]? = some t) :
    ∃ front c back, chunks = front ++ c :: back ∧ front.length = i ∧ t = c.token file (p.advance (texts front)) := by
  obtain ⟨hi, rfl⟩ := List.getElem?_eq_some_iff.1 h
  obtain ⟨front, c, back, rfl, rfl⟩ := exists_split (length_tokens file p chunks ▸ hi)
  exact ⟨front, c, back, rfl, rfl, getElem_tokens hi⟩

/-- the chunks of two tokens -/
theorem exists_split_pair (hi : (tokens file p chunks)[i]? = some t) (hj : (tokens file p chunks)[j]? = some u)
    (hij : i < j) :
    ∃ front c middle d back, chunks = front ++ c :: (middle ++ d :: back) ∧ front.length = i ∧
      (front ++ c :: middle).length = j ∧ t = c.token file (p.advance (texts front)) ∧
      u = d.token file (p.advance (texts (front ++ c :: middle))) := by
  obtain ⟨before, d, back, rfl, rfl, rfl⟩ := exists_split_of_getElem? hj
  rw [tokens_append, List.getElem?_append_left (by rwa [length_tokens])] at hi
  obtain ⟨front, c, middle, rfl, rfl, rfl⟩ := exists_split_of_getElem? hi
  exact ⟨front, c, middle, d, back, by simp, rfl, rfl, rfl, rfl⟩

end

end Chunk

namespace Lexer

/-! ## Cuts -/

/-- the chunk is what the lexer takes off first where `rest` follows it -/
structure Takes (lexer : Lexer) (chunk : Chunk) (rest : List Char) : Prop where
  blank : Blank chunk.gap
  solid : Solid chunk.lexeme
  classify_eq : lexer.classify (chunk.lexeme ++ rest) = some (chunk.kind, Text.byteWidth chunk.lexeme)

/-- the lexer takes the chunks off the source in turn and leaves the rest -/
inductive Cuts (lexer : Lexer) : List Char → List Chunk → List Char → Prop where
  | done (rest : List Char) : Cuts lexer rest [] rest
  | take {chunk : Chunk} {source : List Char} {chunks : List Chunk} {rest : List Char}
    (first : lexer.Takes chunk source) (others : Cuts lexer source chunks rest) :
    Cuts lexer (chunk.text ++ source) (chunk :: chunks) rest

variable {lexer : Lexer}

namespace Cuts

variable {source middle rest : List Char} {a b chunks : List Chunk}

/-- a cut loses nothing -/
theorem source_eq (h : lexer.Cuts source chunks rest) : source = Chunk.texts chunks ++ rest := by
  induction h with
  | done => rfl
  | take first others ih => rw [Chunk.texts_cons, List.append_assoc, ← ih]

theorem append (ha : lexer.Cuts source a middle) (hb : lexer.Cuts middle b rest) :
    lexer.Cuts source (a ++ b) rest := by
  induction ha with
  | done => exact hb
  | take first others ih => exact .take first (ih hb)

/-- a cut may be stopped at any chunk -/
theorem split (h : lexer.Cuts source (a ++ b) rest) :
    ∃ middle, lexer.Cuts source a middle ∧ lexer.Cuts middle b rest := by
  induction a generalizing source with
  | nil => exact ⟨source, .done source, h⟩
  | cons c a ih =>
    cases h with
    | take first others =>
      obtain ⟨middle, ha, hb⟩ := ih others
      exact ⟨middle, .take first ha, hb⟩

/-- a chunk of a cut is taken before all that comes behind it, and the cut goes on from there -/
theorem takes_middle {front back : List Chunk} {c : Chunk} (h : lexer.Cuts source (front ++ c :: back) rest) :
    lexer.Takes c (Chunk.texts back ++ rest) ∧ lexer.Cuts (Chunk.texts back ++ rest) back rest := by
  obtain ⟨middle, -, behind⟩ := h.split
  cases behind with
  | take first others =>
    rw [← others.source_eq]
    exact ⟨first, others⟩

/-- the source before the lexeme of a chunk, and from there on -/
theorem source_eq_middle {front back : List Chunk} {c : Chunk} (h : lexer.Cuts source (front ++ c :: back) rest) :
    source = (Chunk.texts front ++ c.gap) ++ (c.lexeme ++ (Chunk.texts back ++ rest)) := by
  rw [h.source_eq, Chunk.texts_append, Chunk.texts_cons, Chunk.text]
  simp only [List.append_assoc]

theorem drop_middle {front back : List Chunk} {c : Chunk} (h : lexer.Cuts source (front ++ c :: back) rest) :
    source.drop (Chunk.texts front ++ c.gap).length = c.lexeme ++ (Chunk.texts back ++ rest) := by
  rw [h.source_eq_middle, List.drop_left]

/-- a cut goes as far with more text behind it, if that has no say in what any rest of the source starts with -/
theorem append_behind {behind : List Char}
    (same : ∀ input, input ≠ [] → input <:+ source → lexer.classify (input ++ behind) = lexer.classify input)
    (h : lexer.Cuts source chunks rest) : lexer.Cuts (source ++ behind) chunks (rest ++ behind) := by
  induction h with
  | done rest => exact .done _
  | @take chunk source _ _ first _ ih =>
    rw [List.append_assoc]
    refine .take ⟨first.blank, first.solid, ?_⟩ (ih fun input hne hs => same input hne (hs.trans ⟨chunk.text, rfl⟩))
    have behind_gap : chunk.lexeme ++ source <:+ chunk.text ++ source := ⟨chunk.gap, (List.append_assoc ..).symm⟩
    rw [← List.append_assoc, same _ (first.solid.append source).ne_nil behind_gap, first.classify_eq]

/-- what holds of every chunk that the lexer takes holds of the chunks of a cut -/
theorem forall_mem {p : Chunk → Prop} (hp : ∀ chunk rest, lexer.Takes chunk rest → p chunk)
    (h : lexer.Cuts source chunks rest) : ∀ chunk ∈ chunks, p chunk := by
  induction h with
  | done => exact fun _ hc => absurd hc List.not_mem_nil
  | take first others ih =>
    intro chunk hc
    rcases List.mem_cons.1 hc with rfl | hc
    · exact hp _ _ first
    · exact ih chunk hc

end Cuts

/-! ## The cut of a scan -/

theorem Takes.ne_nil {chunk : Chunk} {rest : List Char} (h : lexer.Takes chunk rest) : chunk.lexeme ≠ [] :=
  h.solid.ne_nil

theorem Takes.kind_ne_whitespace {chunk : Chunk} {rest : List Char} (h : lexer.Takes chunk rest) :
    chunk.kind ≠ .whitespace :=
  classify_ne_whitespace h.classify_eq

/-- a source is blank, or the lexer takes a chunk off it -/
theorem blank_or_exists_takes (lexer : Lexer) (source : List Char) :
    Blank source ∨ ∃ chunk rest, source = chunk.text ++ rest ∧ lexer.Takes chunk rest := by
  have parts : source.takeWhile isBlank ++ source.dropWhile isBlank = source := List.takeWhile_append_dropWhile
  rcases blank_or_solid_dropWhile source with hd | hd
  · rw [hd, List.append_nil] at parts
    rw [← parts]
    exact Or.inl (blank_takeWhile source)
  · obtain ⟨kind, lexeme, hc, ⟨rest, hr⟩, hne⟩ := lexer.exists_classify hd.ne_nil
    have hsolid : Solid lexeme := by
      obtain ⟨c, tail, he, hs, ht⟩ := hd
      obtain ⟨d, lexeme', rfl⟩ := List.exists_cons_of_ne_nil hne
      rw [← hr, List.cons_append, List.cons.injEq] at he
      exact ⟨d, lexeme', rfl, he.1 ▸ hs, he.1 ▸ ht⟩
    refine Or.inr ⟨⟨source.takeWhile isBlank, kind, lexeme⟩, rest, ?_, blank_takeWhile source, hsolid, ?_⟩
    · rw [Chunk.text, List.append_assoc, hr, parts]
    · rw [hr, hc]

/-- every source is cut until only blanks are left -/
theorem exists_cuts (lexer : Lexer) (source : List Char) :
    ∃ chunks last, lexer.Cuts source chunks last ∧ Blank last := by
  induction hn : source.length using Nat.strong_induction_on generalizing source with
  | _ n ih =>
    rcases blank_or_exists_takes lexer source with hb | ⟨chunk, rest, rfl, ht⟩
    · exact ⟨[], source, .done source, hb⟩
    · have shorter : rest.length < n := by
        have := List.length_pos_of_ne_nil ht.ne_nil
        simp only [Chunk.text, List.length_append] at hn
        omega
      obtain ⟨chunks, last, hc, hl⟩ := ih rest.length shorter rest rfl
      exact ⟨chunk :: chunks, last, .take ht hc, hl⟩

/-- the scan after one chunk -/
theorem scan_of_takes {s : Scan} {chunk : Chunk} {rest : List Char} (h : lexer.Takes chunk rest)
    (hs : s.remaining = chunk.text ++ rest) :
    lexer.scan s =
      lexer.scan ⟨s.file, s.position.advance chunk.text, rest, s.tokens.push (chunk.token s.file s.position)⟩ := by
  have parts := takeWhile_blank_append h.blank (Or.inr (h.solid.append rest))
  rw [← List.append_assoc] at parts
  have htrim : s.trim = ⟨s.file, s.position.advance chunk.gap, chunk.lexeme ++ rest, s.tokens⟩ := by
    rw [Scan.trim, Scan.blanks, hs, Chunk.text, parts.1, parts.2]
  have hclass : lexer.classify s.trim.remaining = some (chunk.kind, Text.byteWidth chunk.lexeme) := by
    rw [htrim, h.classify_eq]
  rw [scan_of_some hclass]
  simp only [htrim, Scan.step, Scan.token, Scan.lexeme, Text.splitAtWidth_append, if_neg h.kind_ne_whitespace,
    Chunk.text, Chunk.token, Position.advance_append]

/-- the scan of blanks leaves the tokens as they are -/
theorem scan_of_blank {s : Scan} (h : Blank s.remaining) : lexer.scan s = s.trim := by
  have htrim : s.trim.remaining = [] := by
    have := (takeWhile_blank_append h (Or.inl rfl)).2
    rwa [List.append_nil] at this
  exact scan_of_none (classify_eq_none_iff.2 htrim)

theorem Cuts.scan_finish {s : Scan} {chunks : List Chunk} {last : List Char}
    (h : lexer.Cuts s.remaining chunks last) (hl : Blank last) :
    (lexer.scan s).finish = ⟨s.file, s.tokens.toList ++ Chunk.tokens s.file s.position chunks⟩ := by
  generalize hsource : s.remaining = source at h
  induction h generalizing s with
  | done rest =>
    rw [← hsource] at hl
    rw [scan_of_blank hl, Chunk.tokens_nil, List.append_nil]
    rfl
  | take first others ih =>
    rw [scan_of_takes first hsource, ih hl rfl, Array.toList_push, List.append_assoc]
    rfl

/-- **The tokens of a source are the chunks of its cut.** -/
theorem lex_eq_of_cuts {source : List Char} {chunks : List Chunk} {last : List Char} (file : String)
    (h : lexer.Cuts source chunks last) (hl : Blank last) :
    lexer.lex file source = ⟨file, Chunk.tokens file .start chunks⟩ :=
  Cuts.scan_finish (s := Scan.start file source) h hl

theorem tokens_eq_of_cuts {source : List Char} {chunks : List Chunk} {last : List Char} (file : String)
    (h : lexer.Cuts source chunks last) (hl : Blank last) :
    (lexer.lex file source).tokens = Chunk.tokens file .start chunks := by
  rw [lex_eq_of_cuts file h hl]

/-! ## Lexers that classify alike -/

theorem Cuts.congr {other : Lexer} {source rest : List Char} {chunks : List Chunk}
    (alike : ∀ input, other.classify input = lexer.classify input) (h : lexer.Cuts source chunks rest) :
    other.Cuts source chunks rest := by
  induction h with
  | done rest => exact .done rest
  | take first others ih => exact .take ⟨first.blank, first.solid, (alike _).trans first.classify_eq⟩ ih

/-- a lexer scans as it classifies -/
theorem lex_congr {other : Lexer} (alike : ∀ input, other.classify input = lexer.classify input) (file : String)
    (source : List Char) : other.lex file source = lexer.lex file source := by
  obtain ⟨chunks, last, cut, blank⟩ := lexer.exists_cuts source
  rw [lex_eq_of_cuts file cut blank, lex_eq_of_cuts file (cut.congr alike) blank]

end Lexer

end TokenScanner
