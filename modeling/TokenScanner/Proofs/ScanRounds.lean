/-
A scan in rounds.

A scan is a loop: as long as something remains, a round skips the blanks, classifies what is behind them, and steps over
that. `Lexer.loop` is this loop with all that could go wrong in it: a step is made only if it is allowed, which means a
width other than 0 that ends between two characters of what remains, and the rounds are counted down. It neither meets a
step that is not allowed nor runs out of rounds, because whatever a lexer classifies is the start of the input, not
empty, and so each round that goes on leaves less.

- `Lexer.classify_bounds`: what is classified is a part of the input, cut off between characters, and no blank.
- `Lexer.round_cases`: a round takes something off, or only blanks were left and the scan is over.
- `Lexer.loop_eq`: as many rounds as characters remain are enough, and lead where the scan leads.
- `Lexer.scan_ends`: both for the scan of every source.
-/
import TokenScanner.Proofs.Chunk
import TokenScanner.Proofs.Moves

namespace TokenScanner.Lexer

/-! ## Rounds -/

/-- what a round comes to -/
inductive Round where
  /-- a lexeme is taken off, and the loop goes on -/
  | taken (s : Scan)
  /-- nothing is left behind the blanks, and the loop is left -/
  | left (s : Scan)
  /-- the step is not allowed -/
  | refused (kind : Kind) (width : Nat)
  deriving DecidableEq, Repr

/-- one round: skip the blanks, classify, and step if that is allowed -/
def round (lexer : Lexer) (s : Scan) : Round :=
  match lexer.classify s.trim.remaining with
  | none => .left s.trim
  | some (kind, width) =>
    if s.trim.Allows (.step kind width) then .taken (s.trim.step kind width) else .refused kind width

/-- how a loop ends -/
inductive Ending where
  /-- the scan is over -/
  | finished (s : Scan)
  /-- a step was not allowed -/
  | refused (kind : Kind) (width : Nat)
  /-- something remains after the last round -/
  | unfinished (s : Scan)
  deriving DecidableEq, Repr

/-- the loop, in so many rounds at most -/
def loop (lexer : Lexer) : Nat → Scan → Ending
  | 0, s => if s.isDone then .finished s else .unfinished s
  | rounds + 1, s =>
    if s.isDone then .finished s
    else
      match lexer.round s with
      | .taken t => lexer.loop rounds t
      | .left t => .finished t
      | .refused kind width => .refused kind width

variable {lexer : Lexer} {input : List Char} {kind : Kind} {width : Nat} {s t : Scan}

/-! ## What is classified -/

/-- the width of a classification is that of a start of the input -/
theorem exists_lexeme_of_classify (h : lexer.classify input = some (kind, width)) :
    ∃ lexeme, lexeme <+: input ∧ Text.byteWidth lexeme = width := by
  obtain ⟨kind', lexeme, found, start, -⟩ := lexer.exists_classify (ne_nil_of_classify h)
  rw [found, Option.some.injEq, Prod.mk.injEq] at h
  exact ⟨lexeme, start, h.2⟩

/-- **The bounds of a classification:** a width other than 0 that ends in the input, between two of its characters, and
a kind other than blanks. -/
theorem classify_bounds (h : lexer.classify input = some (kind, width)) :
    width ≠ 0 ∧ width ≤ Text.byteWidth input ∧ (∃ front, front <+: input ∧ Text.byteWidth front = width) ∧
      kind ≠ .whitespace := by
  refine ⟨classify_pos h, ?_, exists_lexeme_of_classify h, classify_ne_whitespace h⟩
  obtain ⟨lexeme, ⟨rest, split⟩, wide⟩ := exists_lexeme_of_classify h
  calc
    width = Text.byteWidth lexeme := wide.symm
    _ ≤ Text.byteWidth lexeme + Text.byteWidth rest := Nat.le_add_right _ _
    _ = Text.byteWidth input := by rw [← split, Text.byteWidth_append]

/-- a step over what was classified is allowed -/
theorem allows_of_classify (h : lexer.classify s.remaining = some (kind, width)) : s.Allows (.step kind width) := by
  obtain ⟨positive, -, between, -⟩ := classify_bounds h
  exact ⟨positive, between⟩

/-! ## What a round leaves -/

/-- **What a round comes to:** the scan is over, or a lexeme is taken off and the scan goes on from there. -/
theorem round_cases (lexer : Lexer) (s : Scan) :
    lexer.round s = .left (lexer.scan s) ∨
      ∃ t, lexer.round s = .taken t ∧ t.remaining <:+ s.remaining ∧ t.remaining.length < s.remaining.length ∧
        lexer.scan s = lexer.scan t := by
  cases found : lexer.classify s.trim.remaining with
  | none =>
    left
    rw [round, found, scan_of_none found]
  | some classified =>
    obtain ⟨kind, width⟩ := classified
    right
    refine ⟨s.trim.step kind width, ?_, ?_, length_step_lt found, scan_of_some found⟩
    · rw [round, found]
      exact if_pos (allows_of_classify found)
    · have behind : (s.trim.step kind width).remaining <:+ s.trim.remaining := ⟨_, s.trim.step_remaining kind width⟩
      exact behind.trans ⟨_, s.trim_remaining⟩

/-- a round that goes on leaves less than remained before -/
theorem round_shortens (h : lexer.round s = .taken t) :
    t.remaining <:+ s.remaining ∧ t.remaining.length < s.remaining.length := by
  rcases lexer.round_cases s with left | ⟨t', taken, behind, shorter, -⟩
  · rw [left] at h
    cases h
  · rw [taken] at h
    cases h
    exact ⟨behind, shorter⟩

/-! ## The loop -/

/-- where nothing remains the scan is over -/
theorem scan_of_isDone (h : s.isDone = true) : lexer.scan s = s := by
  have empty : s.remaining = [] := List.isEmpty_iff.1 h
  have blank : Blank s.remaining := by
    rw [empty]
    exact blank_nil
  obtain ⟨file, position, remaining, tokens⟩ := s
  obtain rfl : remaining = [] := empty
  exact scan_of_blank blank

/-- as many rounds as characters remain lead the loop where the scan leads; the round in which only blanks are left is
among them, as there is one blank at least -/
theorem loop_eq {rounds : Nat} (enough : s.remaining.length ≤ rounds) :
    lexer.loop rounds s = .finished (lexer.scan s) := by
  induction rounds generalizing s with
  | zero =>
    have done : s.isDone = true := List.isEmpty_iff.2 (List.length_eq_zero_iff.1 (Nat.le_zero.1 enough))
    rw [loop, if_pos done, scan_of_isDone done]
  | succ rounds ih =>
    rw [loop]
    by_cases done : s.isDone = true
    · rw [if_pos done, scan_of_isDone done]
    · rw [if_neg done]
      rcases lexer.round_cases s with left | ⟨t, taken, -, shorter, onward⟩
      · rw [left]
      · rw [taken, onward]
        exact ih (by omega)

/-- **The scan of every source is safe and ends.** Every input that is not empty is classified, with a width other than
0 that ends in the input between two of its characters, and a kind other than blanks. So every step that a scan makes is
allowed, wherever it stands, and every round that goes on leaves less than remained before. The loop, which makes no
step without asking whether it is allowed, reaches the end of every source in as many rounds as the source has
characters, or in any greater number; nothing remains then, and the tokens are those of the source. -/
theorem scan_ends (lexer : Lexer) :
    (∀ input, input ≠ [] → ∃ kind width, lexer.classify input = some (kind, width) ∧ width ≠ 0 ∧
        width ≤ Text.byteWidth input ∧ (∃ front, front <+: input ∧ Text.byteWidth front = width) ∧
          kind ≠ .whitespace) ∧
      (∀ (s : Scan) kind width, lexer.classify s.trim.remaining = some (kind, width) →
        s.trim.Allows (.step kind width)) ∧
      (∀ s t, lexer.round s = .taken t → t.remaining <:+ s.remaining ∧ t.remaining.length < s.remaining.length) ∧
      ∀ file source, ∃ last : Scan, last.finish = lexer.lex file source ∧ last.remaining = [] ∧
        ∀ rounds, source.length ≤ rounds → lexer.loop rounds (Scan.start file source) = .finished last := by
  refine ⟨fun input hne => ?_, fun s kind width => allows_of_classify, fun s t => round_shortens, fun file source => ?_⟩
  · obtain ⟨kind, lexeme, found, -, -⟩ := lexer.exists_classify hne
    exact ⟨kind, Text.byteWidth lexeme, found, classify_bounds found⟩
  · exact ⟨lexer.scan (Scan.start file source), rfl, lexer.scan_remaining _, fun rounds enough => loop_eq enough⟩

/-- an error of two bytes, and blanks that make a round of their own -/
theorem scan_ends_trailing_blanks :
    let source := ['λ', ' ', '\t']
    let s := Scan.start "a.st" source
    source ≠ [] ∧ (∃ kind width, standard.classify source = some (kind, width) ∧ width ≠ 0 ∧ width ≤ 4) ∧
      standard.classify s.trim.remaining = some (.error, 2) ∧ s.trim.Allows (.step .error 2) ∧
      ¬ s.trim.Allows (.step .error 1) ∧
      standard.loop 1 s = .unfinished ⟨"a.st", ⟨1, 2⟩, [' ', '\t'], #[⟨"a.st", 1, 1, "λ", .error⟩]⟩ ∧
      source.length ≤ 4 ∧
      ∃ last : Scan, last.finish = standard.lex "a.st" source ∧ standard.loop 4 s = .finished last := by
  intro source s
  obtain ⟨classified, allowed, -, ends⟩ := scan_ends standard
  obtain ⟨kind, width, found, positive, inside, -⟩ := classified source (by decide)
  have error : standard.classify s.trim.remaining = some (.error, 2) := by decide +kernel
  obtain ⟨last, finished, -, reached⟩ := ends "a.st" source
  exact ⟨by decide, ⟨kind, width, found, positive, inside⟩, error, allowed s .error 2 error, by decide +kernel,
    by decide +kernel, by decide, last, finished, reached 4 (by decide)⟩

end TokenScanner.Lexer
