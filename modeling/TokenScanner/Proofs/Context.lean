/-
What a lexeme needs of the text behind it.

A lexer chooses a lexeme with the whole rest of the source in view. Little of that view matters. A group, once taken,
depends on the first character behind it alone, and a blank there ends it (`Groups.of_head`). A character that stands
alone may depend on text far behind, on a closing quote; but then it depends on what is there and not on what is
missing: in a text that is weaker, cut off somewhere or with other blanks in it, it stands alone again
(`Ungrouped.weakens`).

- `Picks.weakens`: what is picked before a text is picked before a weaker text.
- `Picks.follow`: what is picked at the end of the input, other than an error, is picked before any blank.
-/
import TokenScanner.Proofs.Grouping

namespace TokenScanner

/-! ## Weaker texts -/

/-- the same character, or two blanks -/
def Alike (c d : Char) : Prop :=
  c = d ∨ isBlank c = true ∧ isBlank d = true

/-- the second text is the first with blanks exchanged for blanks, cut off somewhere -/
inductive Weakens : List Char → List Char → Prop where
  | cut (a : List Char) : Weakens a []
  | cons {c d : Char} {a b : List Char} (alike : Alike c d) (tail : Weakens a b) : Weakens (c :: a) (d :: b)

/-- the second text starts with a blank if it does not start like the first -/
def NoNewHead (rest rest' : List Char) : Prop :=
  ∀ d ∈ rest'.head?, isBlank d = true ∨ d ∈ rest.head?

theorem Alike.refl (c : Char) : Alike c c := Or.inl rfl

theorem Alike.eq_of_solid {c d : Char} (h : Alike c d) (hd : isBlank d = false) : c = d := by
  rcases h with h | ⟨-, h⟩
  · exact h
  · rw [hd] at h
    cases h

theorem Alike.ne_of_ne {c d x : Char} (h : Alike c d) (hx : isBlank x = false) (hd : d ≠ x) : c ≠ x := by
  rintro rfl
  rcases h with h | ⟨hc, -⟩
  · exact hd h.symm
  · rw [hx] at hc
    cases hc

namespace Weakens

variable {a b text : List Char}

theorem append_left (text : List Char) (w : Weakens a b) : Weakens (text ++ a) (text ++ b) := by
  induction text with
  | nil => exact w
  | cons c text ih => exact .cons (.refl c) ih

theorem noNewHead (w : Weakens a b) : NoNewHead a b := by
  intro d hd
  cases w with
  | cut => cases hd
  | cons alike tail =>
    cases hd
    rcases alike with rfl | ⟨-, hd⟩
    · exact Or.inr rfl
    · exact Or.inl hd

/-- a text without blanks that starts the weaker text starts the other as well -/
theorem prefix_of_solid (w : Weakens a b) (solid : ∀ d ∈ text, isBlank d = false) (h : text <+: b) : text <+: a := by
  induction text generalizing a b with
  | nil => exact List.nil_prefix
  | cons e text ih =>
    cases w with
    | cut => exact absurd (List.prefix_nil.1 h) (List.cons_ne_nil e text)
    | cons alike tail =>
      obtain ⟨rfl, ht⟩ := List.cons_prefix_cons.1 h
      obtain rfl := alike.eq_of_solid (solid e List.mem_cons_self)
      exact (List.prefix_cons_inj _).2 (ih tail (fun d hd => solid d (List.mem_cons_of_mem _ hd)) ht)

end Weakens

/-! ## Blanks and rules -/

theorem isDigit_of_isBlank {c : Char} (h : isBlank c = true) : isDigit c = false := by
  rcases isBlank_iff.1 h with rfl | rfl
  · decide
  · decide

theorem isNamePart_of_isBlank {c : Char} (h : isBlank c = true) : isNamePart c = false := by
  rcases isBlank_iff.1 h with rfl | rfl
  · decide
  · decide

theorem isQuotable_of_isBlank {c : Char} (h : isBlank c = true) : isQuotable c = true := by
  rcases isBlank_iff.1 h with rfl | rfl
  · decide
  · decide

theorem Pattern.ofFirst?_of_isBlank {c : Char} (h : isBlank c = true) : ofFirst? c = none := by
  rcases isBlank_iff.1 h with rfl | rfl
  · decide
  · decide

theorem Symbol.isBlank_of_mem_lexeme (s : Symbol) : ∀ c ∈ s.lexeme, isBlank c = false := by
  cases s <;> simp [lexeme, isBlank]

/-! ## A group sees one character -/

variable {lexeme rest rest' input input' : List Char}

theorem takeWhile_append_eq_left_iff {p : Char → Bool} {a b : List Char} :
    (a ++ b).takeWhile p = a ↔ (∀ c ∈ a, p c = true) ∧ ∀ d ∈ b.head?, p d = false := by
  constructor
  · intro h
    have ha : ∀ c ∈ a, p c = true := by
      intro c hc
      rw [← h] at hc
      exact List.mem_takeWhile_imp hc
    refine ⟨ha, fun d hd => ?_⟩
    cases b with
    | nil => cases hd
    | cons e b =>
      cases hd
      rw [List.takeWhile_append_of_pos ha, List.append_right_eq_self] at h
      by_contra hp
      rw [List.takeWhile_cons_of_pos (Bool.eq_true_of_not_eq_false hp)] at h
      cases h
  · rintro ⟨ha, hb⟩
    rw [List.takeWhile_append_of_pos ha]
    cases b with
    | nil => exact List.append_nil a
    | cons d b => rw [List.takeWhile_cons_of_neg (by simp [hb d rfl]), List.append_nil]

/-- a run that ends before one text ends before another that starts with a blank or alike -/
theorem takeWhile_of_noNewHead {p : Char → Bool} (hp : ∀ d, isBlank d = true → p d = false)
    (hd : NoNewHead rest rest') (h : (lexeme ++ rest).takeWhile p = lexeme) :
    (lexeme ++ rest').takeWhile p = lexeme := by
  rw [takeWhile_append_eq_left_iff] at h ⊢
  refine ⟨h.1, fun d hm => ?_⟩
  rcases hd d hm with hb | hm
  · exact hp d hb
  · exact h.2 d hm

theorem Pattern.match?_of_head {p : Pattern} (hd : NoNewHead rest rest')
    (h : p.match? (lexeme ++ rest) = some lexeme) : p.match? (lexeme ++ rest') = some lexeme := by
  cases p with
  | digits =>
    obtain ⟨run, hne⟩ := digits?_eq_some_iff.1 h
    exact digits?_eq_some_iff.2 ⟨(takeWhile_of_noNewHead (fun _ => isDigit_of_isBlank) hd run.symm).symm, hne⟩
  | ident =>
    obtain ⟨c, tail, he, hc, hl⟩ := ident?_eq_some_iff.1 h
    have hparts : lexeme = c :: lexeme.tail ∧ lexeme.tail ++ rest = tail := by
      rw [hl, List.cons_append, List.cons.injEq] at he
      rw [hl]
      exact ⟨rfl, he.2⟩
    have run : (lexeme.tail ++ rest).takeWhile isNamePart = lexeme.tail := by
      rw [hparts.2, hl, List.tail_cons]
    refine ident?_eq_some_iff.2 ⟨c, lexeme.tail ++ rest', ?_, hc, ?_⟩
    · rw [← List.cons_append, ← hparts.1]
    · rw [takeWhile_of_noNewHead (fun _ => isNamePart_of_isBlank) hd run, ← hparts.1]
  | newline =>
    obtain ⟨-, -, rfl⟩ := newline?_eq_some_iff.1 h
    exact newline?_eq_some_iff.2 ⟨rest', rfl, rfl⟩
  | singleQuoted =>
    -- the two quotes are in the lexeme, so the text behind it is not looked at
    rcases singleQuoted?_eq_some_iff.1 h with ⟨-, -, rfl⟩ | ⟨c, -, hq, hn, -, rfl⟩
    · exact singleQuoted?_eq_some_iff.2 (Or.inl ⟨rest', rfl, rfl⟩)
    · exact singleQuoted?_eq_some_iff.2 (Or.inr ⟨c, rest', hq, hn, rfl, rfl⟩)
  | doubleQuoted =>
    obtain ⟨body, -, hb, -, hl⟩ := doubleQuoted?_eq_some_iff.1 h
    refine doubleQuoted?_eq_some_iff.2 ⟨body, rest', hb, ?_, hl⟩
    rw [hl, List.cons_append, List.append_assoc, List.singleton_append]

/-! ## A weaker text has no more matches -/

theorem Weakens.quoted {a b body : List Char} (w : Weakens a (body ++ '"' :: b))
    (hb : ∀ c ∈ body, isQuotable c = true) :
    ∃ body' a', a = body' ++ '"' :: a' ∧ ∀ c ∈ body', isQuotable c = true := by
  induction body generalizing a with
  | nil =>
    cases w with
    | @cons c _ a' _ alike tail =>
      obtain rfl := alike.eq_of_solid (by decide)
      exact ⟨[], a', rfl, fun c hc => absurd hc List.not_mem_nil⟩
  | cons d body ih =>
    cases w with
    | @cons c _ a' _ alike tail =>
      obtain ⟨body', a', rfl, hb'⟩ := ih tail fun c hc => hb c (List.mem_cons_of_mem d hc)
      refine ⟨c :: body', a', rfl, List.forall_mem_cons.2 ⟨?_, hb'⟩⟩
      rcases alike with rfl | ⟨hc, -⟩
      · exact hb c List.mem_cons_self
      · exact isQuotable_of_isBlank hc

namespace Pattern

variable {a b : List Char} {c : Char}

theorem singleQuoted?_of_weakens (w : Weakens a b) (h : singleQuoted? (c :: b) = some lexeme) :
    ∃ lexeme', singleQuoted? (c :: a) = some lexeme' := by
  rcases singleQuoted?_eq_some_iff.1 h with ⟨rest, he, -⟩ | ⟨e, rest, hq, hn, he, -⟩
  · cases he
    cases w with
    | @cons d _ a _ alike tail =>
      obtain rfl := alike.eq_of_solid (by decide)
      exact ⟨_, singleQuoted?_eq_some_iff.2 (Or.inl ⟨a, rfl, rfl⟩)⟩
  · cases he
    -- the character between the quotes may be another blank, the quotes are the same
    cases w with
    | @cons d _ _ _ alike tail =>
      cases tail with
      | @cons g _ a _ alike' tail =>
        obtain rfl := alike'.eq_of_solid (by decide)
        have hq' : d ≠ '\'' := alike.ne_of_ne (by decide) hq
        have hn' : d ≠ '\n' := alike.ne_of_ne (by decide) hn
        exact ⟨_, singleQuoted?_eq_some_iff.2 (Or.inr ⟨d, a, hq', hn', rfl, rfl⟩)⟩

theorem doubleQuoted?_of_weakens (w : Weakens a b) (h : doubleQuoted? (c :: b) = some lexeme) :
    ∃ lexeme', doubleQuoted? (c :: a) = some lexeme' := by
  obtain ⟨body, rest, hb, he, -⟩ := doubleQuoted?_eq_some_iff.1 h
  cases he
  obtain ⟨body', rest', rfl, hb'⟩ := w.quoted hb
  exact ⟨_, doubleQuoted?_eq_some_iff.2 ⟨body', rest', hb', rfl, rfl⟩⟩

theorem exists_match?_of_weakens {p : Pattern} (w : Weakens input input') (h : p.match? input' = some lexeme) :
    ∃ lexeme', p.match? input = some lexeme' := by
  cases w with
  | cut =>
    have start := match?_prefix h
    exact absurd (List.prefix_nil.1 start) (match?_ne_nil h)
  | @cons c d a b alike tail =>
    -- no pattern starts with a blank, so the first character is the same in both texts
    have first := ofFirst?_of_match? h
    obtain rfl : c = d := by
      refine alike.eq_of_solid ?_
      by_contra hd
      rw [ofFirst?_of_isBlank (Bool.eq_true_of_not_eq_false hd)] at first
      cases first
    cases p with
    | digits =>
      have hc := isDigit_of_digits? h
      exact ⟨_, digits?_eq_some_iff.2 ⟨rfl, by simp [hc]⟩⟩
    | ident =>
      change ident? (c :: b) = some lexeme at h
      obtain ⟨e, b', he, hc, -⟩ := ident?_eq_some_iff.1 h
      cases he
      exact ⟨_, ident?_eq_some_iff.2 ⟨c, a, rfl, hc, rfl⟩⟩
    | newline =>
      obtain ⟨b', he, -⟩ := newline?_eq_some_iff.1 h
      cases he
      exact ⟨_, newline?_eq_some_iff.2 ⟨a, rfl, rfl⟩⟩
    | singleQuoted => exact singleQuoted?_of_weakens tail h
    | doubleQuoted => exact doubleQuoted?_of_weakens tail h

end Pattern

namespace Lexer

variable {lexer : Lexer} {kind : Kind}

theorem Groups.of_head (hd : NoNewHead rest rest') (h : lexer.Groups (lexeme ++ rest) kind lexeme) :
    lexer.Groups (lexeme ++ rest') kind lexeme := by
  cases h with
  | pattern used longer taken => exact .pattern used longer (Pattern.match?_of_head hd taken)
  | symbol listed written => exact .symbol listed (List.prefix_append _ rest')

theorem Ungrouped.weakens (h : lexer.Ungrouped input) (w : Weakens input input') : lexer.Ungrouped input' := by
  intro kind lexeme hg
  cases hg with
  | pattern used longer taken =>
    obtain ⟨lexeme', taken'⟩ := Pattern.exists_match?_of_weakens w taken
    exact h _ _ (.pattern used longer taken')
  | symbol listed written =>
    exact h _ _ (.symbol listed (w.prefix_of_solid (Symbol.isBlank_of_mem_lexeme _) written))

/-! ## What is picked in another context -/

theorem Picks.weakens (h : lexer.Picks kind lexeme rest) (w : Weakens rest rest') :
    lexer.Picks kind lexeme rest' := by
  cases h with
  | group grouped => exact .group (grouped.of_head w.noNewHead)
  | single alone kept => exact .single (alone.weakens (.cons (.refl _) w)) kept
  | swallow alone unknown last =>
    cases w
    exact .swallow alone unknown last

/-- a symbol at the end of the input stands alone before a blank -/
theorem ungrouped_symbol {s : Symbol} {c : Char} (hs : s.lexeme = [c]) (hd : NoNewHead [] rest) :
    lexer.Ungrouped (c :: rest) := by
  intro kind lexeme hg
  cases hg with
  | pattern used longer taken =>
    have first := Pattern.ofFirst?_of_match? taken
    rw [Symbol.ofFirst?_lexeme hs] at first
    split at first
    · exact longer (Option.some.inj first).symm
    · cases first
  | @symbol t listed written =>
    obtain ⟨d, e, ht⟩ := List.length_eq_two.1 (lexer.twoChar.width_eq t listed)
    have he : isBlank e = false := t.isBlank_of_mem_lexeme e (by rw [ht]; simp)
    rw [ht] at written
    obtain ⟨-, tail, rfl⟩ := List.cons_prefix_cons.1 written
    rcases hd e rfl with hb | hb
    · rw [he] at hb
      cases hb
    · cases hb

theorem Picks.follow (h : lexer.Picks kind lexeme []) (hk : kind ≠ .error) (hd : NoNewHead [] rest) :
    lexer.Picks kind lexeme rest := by
  cases h with
  | group grouped => exact .group (grouped.of_head hd)
  | @single c _ alone kept =>
    obtain ⟨s, hl⟩ := (label_eq_error_or_symbol lexer c).resolve_left hk
    exact .single (ungrouped_symbol (label_eq_symbol_iff.1 hl).1 hd) kept
  | swallow => exact absurd rfl hk

theorem Takes.weakens {chunk : Chunk} (h : lexer.Takes chunk rest) (w : Weakens rest rest') :
    lexer.Takes chunk rest' :=
  h.of_picks (h.picks.weakens w)

theorem Takes.follow {chunk : Chunk} (h : lexer.Takes chunk []) (hk : chunk.kind ≠ .error) (hd : NoNewHead [] rest) :
    lexer.Takes chunk rest :=
  h.of_picks (h.picks.follow hk hd)

theorem Takes.with_gap {chunk : Chunk} {gap : List Char} (h : lexer.Takes chunk rest) (hg : Blank gap) :
    lexer.Takes { chunk with gap := gap } rest where
  blank := hg
  solid := h.solid
  classify_eq := h.classify_eq

end Lexer

end TokenScanner
