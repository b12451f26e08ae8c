/-
Scans moved by hand.

A scan may be moved by any calls of `trim` and `step`, of any kinds and with lexemes of several lines, as long as each
width ends between two characters of what remains (`Scan.Allows`). `Scan.trace` notes the text that every call takes.
Whatever the calls, the scan knows where it is: `Scan.Follows` says that the texts taken and what remains make up the
input, that the position is the one counted in the texts taken, and that the tokens are the steps of a kind other than
blanks, in order, each with its text and the position counted before it.

- `Scan.Follows.move`, `Scan.Follows.run`: one call, and any number of calls, keep this.
- `Scan.moves_keep_position`: it holds after all calls on a new scan; and the tokens that a lexer makes of a source are
  placed by counting as well.
-/
import TokenScanner.Proofs.Placement

namespace TokenScanner

namespace Scan

/-! ## Calls -/

/-- a call on a scan -/
inductive Move where
  | trim
  | step (kind : Kind) (width : Nat)
  deriving DecidableEq, Repr

/-- the scan after a call -/
def move (s : Scan) : Move → Scan
  | .trim => s.trim
  | .step kind width => s.step kind width

/-- the text that a call takes -/
def consumed (s : Scan) : Move → List Char
  | .trim => s.blanks
  | .step _ width => s.lexeme width

/-- a step takes something, and its width ends between two characters of what remains -/
def Allows (s : Scan) : Move → Prop
  | .trim => True
  | .step _ width => width ≠ 0 ∧ ∃ front, front <+: s.remaining ∧ Text.byteWidth front = width

instance (s : Scan) (m : Move) : Decidable (s.Allows m) :=
  match m with
  | .trim => inferInstanceAs (Decidable True)
  | .step _ _ => decidable_of_iff _ (and_congr_right' Text.exists_byteWidth_iff.symm)

/-- the scan after calls in a row -/
def run (s : Scan) (moves : List Move) : Scan :=
  moves.foldl move s

/-- every call is allowed where it is made -/
def AllowsAll : Scan → List Move → Prop
  | _, [] => True
  | s, m :: moves => s.Allows m ∧ (s.move m).AllowsAll moves

/-- the calls and the texts they take -/
def trace : Scan → List Move → List (Move × List Char)
  | _, [] => []
  | s, m :: moves => (m, s.consumed m) :: (s.move m).trace moves

/-! ## What calls should leave -/

/-- the texts that calls took, in a row -/
def taken (trace : List (Move × List Char)) : List Char :=
  trace.flatMap Prod.snd

/-- a text that is to be a token: what stands before it, and its kind -/
structure Emission where
  before : List Char
  kind : Kind
  text : List Char

/-- the steps of a kind other than blanks, `before` being all that was taken earlier -/
def emissions : List Char → List (Move × List Char) → List Emission
  | _, [] => []
  | before, (.trim, text) :: rest => emissions (before ++ text) rest
  | before, (.step kind _, text) :: rest =>
    if kind = .whitespace then emissions (before ++ text) rest
    else ⟨before, kind, text⟩ :: emissions (before ++ text) rest

/-- the token is of that text and kind, and stands where the text before it ends -/
structure Emission.Made (file : String) (e : Emission) (t : Token) : Prop where
  file_eq : t.file = file
  kind_eq : t.kind = e.kind
  lexeme_eq : t.lexeme = String.ofList e.text
  counts : t.position.Counts e.before

/-- the scan is where the calls of a trace lead -/
structure Follows (file : String) (input : List Char) (trace : List (Move × List Char)) (s : Scan) : Prop where
  file_eq : s.file = file
  input_eq : taken trace ++ s.remaining = input
  counts : s.position.Counts (taken trace)
  tokens : List.Forall₂ (Emission.Made file) (emissions [] trace) s.tokens.toList

theorem taken_append (a b : List (Move × List Char)) : taken (a ++ b) = taken a ++ taken b :=
  List.flatMap_append

theorem taken_singleton (m : Move) (text : List Char) : taken [(m, text)] = text :=
  List.append_nil text

theorem emissions_append (before : List Char) (a b : List (Move × List Char)) :
    emissions before (a ++ b) = emissions before a ++ emissions (before ++ taken a) b := by
  induction a generalizing before with
  | nil => simp [emissions, taken]
  | cons entry a ih =>
    obtain ⟨m, text⟩ := entry
    have htaken : taken ((m, text) :: a) = text ++ taken a := rfl
    rw [htaken, ← List.append_assoc]
    cases m with
    | trim => exact ih (before ++ text)
    | step kind width =>
      rw [List.cons_append, emissions, emissions]
      split
      · exact ih (before ++ text)
      · rw [ih (before ++ text), List.cons_append]

/-! ## Every call keeps the scan in place -/

theorem consumed_append (s : Scan) (m : Move) : s.consumed m ++ (s.move m).remaining = s.remaining := by
  cases m with
  | trim => exact s.trim_remaining
  | step kind width => exact s.step_remaining kind width

theorem position_move (s : Scan) (m : Move) : (s.move m).position = s.position.advance (s.consumed m) := by
  cases m <;> rfl

theorem file_move (s : Scan) (m : Move) : (s.move m).file = s.file := by
  cases m <;> rfl

theorem follows_start (file : String) (input : List Char) : Follows file input [] (start file input) where
  file_eq := rfl
  input_eq := rfl
  counts := Position.counts_start
  tokens := .nil

variable {file : String} {input : List Char} {s : Scan} {tr : List (Move × List Char)}

/-- a step of a kind other than blanks leaves its token, and no other call leaves one -/
theorem Follows.tokens_move (h : Follows file input tr s) (m : Move) :
    List.Forall₂ (Emission.Made file) (emissions [] (tr ++ [(m, s.consumed m)])) (s.move m).tokens.toList := by
  rw [emissions_append]
  cases m with
  | trim =>
    rw [emissions, emissions, List.append_nil]
    exact h.tokens
  | step kind width =>
    by_cases hk : kind = .whitespace
    · simp only [emissions, move, step, if_pos hk, List.append_nil]
      exact h.tokens
    · simp only [emissions, move, step, if_neg hk, Array.toList_push]
      refine List.rel_append h.tokens (.cons ⟨h.file_eq, rfl, rfl, ?_⟩ .nil)
      exact h.counts

theorem Follows.move (h : Follows file input tr s) (short : input.length + 1 < UInt32.size) (m : Move) :
    Follows file input (tr ++ [(m, s.consumed m)]) (s.move m) where
  file_eq := (s.file_move m).trans h.file_eq
  input_eq := by rw [taken_append, taken_singleton, List.append_assoc, consumed_append, h.input_eq]
  counts := by
    rw [position_move, taken_append, taken_singleton]
    refine h.counts.advance ?_
    have hlen : ((taken tr ++ s.consumed m) ++ (s.move m).remaining).length = input.length := by
      rw [List.append_assoc, consumed_append, h.input_eq]
    rw [List.length_append] at hlen
    omega
  tokens := h.tokens_move m

theorem Follows.run (h : Follows file input tr s) (short : input.length + 1 < UInt32.size) (moves : List Move) :
    Follows file input (tr ++ s.trace moves) (s.run moves) := by
  induction moves generalizing s tr with
  | nil => rwa [trace, List.append_nil]
  | cons m moves ih =>
    have := ih (h.move short m)
    rwa [List.append_assoc] at this

/-- an allowed step takes a text of its width -/
theorem Allows.byteWidth_consumed {kind : Kind} {width : Nat} (h : s.Allows (.step kind width)) :
    s.consumed (.step kind width) ≠ [] ∧ Text.byteWidth (s.consumed (.step kind width)) = width := by
  obtain ⟨hne, front, ⟨back, hr⟩, rfl⟩ := h
  have hc : s.consumed (.step kind (Text.byteWidth front)) = front := by
    rw [consumed, lexeme, ← hr, Text.splitAtWidth_append]
  rw [hc]
  refine ⟨?_, rfl⟩
  rintro rfl
  exact hne rfl

/-- the text suits the call: blanks for `trim`, a text of its width for a step -/
def Move.Fits : Move → List Char → Prop
  | .trim, text => Blank text
  | .step _ width, text => text ≠ [] ∧ Text.byteWidth text = width

theorem AllowsAll.fits {moves : List Move} (h : s.AllowsAll moves) :
    List.Forall₂ (fun m entry => entry.1 = m ∧ m.Fits entry.2) moves (s.trace moves) := by
  induction moves generalizing s with
  | nil => exact .nil
  | cons m moves ih =>
    refine .cons ⟨rfl, ?_⟩ (ih h.2)
    cases m with
    | trim => exact blank_takeWhile s.remaining
    | step kind width => exact Allows.byteWidth_consumed h.1

/-- **Scans know where they are.** After any number of allowed calls on a new scan of a text whose positions fit their
words: the trace has one entry a call, with a text that suits it; the texts taken and what remains are the input; line
and column are counted in the texts taken; and the tokens are the steps of a kind other than blanks, each placed by
counting. The tokens that a lexer makes of the text are placed by counting in what the text has before them. -/
theorem moves_keep_position (file : String) (input : List Char) (moves : List Move)
    (short : input.length < UInt32.size - 1) (allowed : (start file input).AllowsAll moves) :
    (∀ n, Follows file input ((start file input).trace (moves.take n)) ((start file input).run (moves.take n))) ∧
      List.Forall₂ (fun m entry => entry.1 = m ∧ m.Fits entry.2) moves ((start file input).trace moves) ∧
      ∀ lexer : Lexer, ∃ gaps last, Tiling input (lexer.lex file input).tokens gaps last ∧
        ∀ i, (hi : i < (lexer.lex file input).tokens.length) →
          (lexer.lex file input).tokens[i].position.Counts (textBefore gaps (lexer.lex file input).tokens i) := by
  have fits : input.length + 1 < UInt32.size := Nat.add_lt_of_lt_sub short
  refine ⟨fun n => (follows_start file input).run fits (moves.take n), allowed.fits, fun lexer => ?_⟩
  obtain ⟨chunks, last, hc, hl⟩ := lexer.exists_cuts input
  rw [Lexer.lex_eq_of_cuts file hc hl]
  refine ⟨chunks.map Chunk.gap, last, hc.tiling hl file .start, fun i hi => ?_⟩
  have hlen := congrArg List.length hc.source_eq
  rw [List.length_append] at hlen
  exact Chunk.counts_tokens Position.counts_start (by rw [List.nil_append]; omega) i hi

/-- a character of two bytes and a line break in one step, blanks, and a step that leaves no token -/
theorem moves_keep_position_over_break :
    let input := ['λ', '\n', '\t', 'x']
    let moves := [.step .error 3, .trim, .step .whitespace 1]
    input.length < UInt32.size - 1 ∧ (start "a.st" input).AllowsAll moves ∧
      ((start "a.st" input).run moves).position.Counts input ∧
      ((start "a.st" input).run moves).position = ⟨2, 3⟩ ∧
      ((start "a.st" input).run moves).tokens = #[⟨"a.st", 1, 1, "λ\n", .error⟩] := by
  intro input moves
  have allowed : (start "a.st" input).AllowsAll moves := by
    refine ⟨⟨by decide, ['λ', '\n'], ⟨_, rfl⟩, by decide⟩, trivial, ⟨by decide, ['x'], ⟨_, rfl⟩, by decide⟩, trivial⟩
  have hfollows := (moves_keep_position "a.st" input moves (by decide) allowed).1 3
  exact ⟨by decide, allowed, hfollows.counts, by decide, by decide⟩

end Scan

end TokenScanner
