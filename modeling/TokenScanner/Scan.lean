/-
Scans.

A scan is under way with a position, the text that remains and the tokens so far. It moves by two operations: `trim`
skips the blanks at the start of what remains, and `step kind width` turns as many bytes of it into a token. A step of
kind `whitespace` moves on without leaving a token. `Lexer.scan` repeats trim, classify and step until nothing remains.

- `Scan.trim_remaining`, `Scan.step_remaining`: what an operation takes off and what it leaves make up what remained.
- `Lexer.scan_of_none`, `Lexer.scan_of_some`: a scan ends behind the blanks, or goes on behind a token.
- `Lexer.scan_remaining`: a scan ends with nothing left.
-/
import TokenScanner.Lexer
import TokenScanner.Token

namespace TokenScanner

/-- a scan under way -/
structure Scan where
  file : String
  position : Position
  remaining : List Char
  tokens : Array Token
  deriving DecidableEq, Repr

namespace Scan

/-- a scan at the start of a source -/
def start (file : String) (source : List Char) : Scan :=
  ⟨file, .start, source, #[]⟩

/-- nothing remains -/
def isDone (s : Scan) : Bool :=
  s.remaining.isEmpty

/-- the blanks before the next token -/
def blanks (s : Scan) : List Char :=
  s.remaining.takeWhile isBlank

/-- the scan after those blanks -/
def trim (s : Scan) : Scan :=
  { s with position := s.position.advance s.blanks, remaining := s.remaining.dropWhile isBlank }

/-- the lexeme that a width cuts off -/
def lexeme (s : Scan) (width : Nat) : List Char :=
  (Text.splitAtWidth width s.remaining).1

/-- the token that a step makes -/
def token (s : Scan) (kind : Kind) (width : Nat) : Token :=
  ⟨s.file, s.position.line, s.position.column, String.ofList (s.lexeme width), kind⟩

/-- the scan after a token of that kind and width -/
def step (s : Scan) (kind : Kind) (width : Nat) : Scan where
  file := s.file
  position := s.position.advance (s.lexeme width)
  remaining := (Text.splitAtWidth width s.remaining).2
  tokens := if kind = .whitespace then s.tokens else s.tokens.push (s.token kind width)

/-- the tokens so far, as a stream -/
def finish (s : Scan) : TokenStream :=
  ⟨s.file, s.tokens.toList⟩

theorem trim_remaining (s : Scan) : s.blanks ++ s.trim.remaining = s.remaining :=
  List.takeWhile_append_dropWhile

theorem step_remaining (s : Scan) (kind : Kind) (width : Nat) :
    s.lexeme width ++ (s.step kind width).remaining = s.remaining :=
  Text.splitAtWidth_parts width s.remaining

theorem length_trim_le (s : Scan) : s.trim.remaining.length ≤ s.remaining.length :=
  (List.dropWhile_sublist isBlank).length_le

end Scan

namespace Lexer

/-- a step of a classified width leaves less than remained before the blanks -/
theorem length_step_lt {lexer : Lexer} {s : Scan} {kind : Kind} {width : Nat}
    (h : lexer.classify s.trim.remaining = some (kind, width)) :
    (s.trim.step kind width).remaining.length < s.remaining.length := by
  have shorter := Text.splitAtWidth_shortens (classify_pos h) (ne_nil_of_classify h)
  exact Nat.lt_of_lt_of_le shorter s.length_trim_le

/-- the scan, carried on to the end of what remains -/
def scan (lexer : Lexer) (s : Scan) : Scan :=
  match _h : lexer.classify s.trim.remaining with
  | none => s.trim
  | some (kind, width) => lexer.scan (s.trim.step kind width)
termination_by s.remaining.length
decreasing_by exact length_step_lt _h

/-- the tokens of a source -/
def lex (lexer : Lexer) (file : String) (source : List Char) : TokenStream :=
  (lexer.scan (Scan.start file source)).finish

/-- a scan is over where nothing is left behind the blanks -/
theorem scan_of_none {lexer : Lexer} {s : Scan} (h : lexer.classify s.trim.remaining = none) :
    lexer.scan s = s.trim := by
  rw [scan]
  split
  · rfl
  · rename_i kind width found
    rw [h] at found
    cases found

/-- a scan goes on behind the token that is classified -/
theorem scan_of_some {lexer : Lexer} {s : Scan} {kind : Kind} {width : Nat}
    (h : lexer.classify s.trim.remaining = some (kind, width)) :
    lexer.scan s = lexer.scan (s.trim.step kind width) := by
  rw [scan]
  split
  · rename_i missing
    rw [h] at missing
    cases missing
  · rename_i kind' width' found
    rw [h] at found
    cases found
    rfl

theorem scan_remaining (lexer : Lexer) (s : Scan) : (lexer.scan s).remaining = [] := by
  fun_induction lexer.scan s with
  | case1 s h => exact classify_eq_none_iff.1 h
  | case2 s kind width h ih => exact ih

end Lexer

end TokenScanner
