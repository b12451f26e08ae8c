/-
The pieces of a JSON text: brackets, separators, words, numerals and strings.

A text is cut into pieces from left to right. Where no whole piece can be cut off, the last piece says why, and what
follows is not looked at.

- `Piece.next_shortens`: cutting off a whole piece uses up some of the text.
-/
import TokenScanner.Json.Numeral
import TokenScanner.Json.Quoted

namespace TokenScanner.Json

/-- a piece of a text -/
inductive Piece where
  | leftBrace
  | rightBrace
  | leftBracket
  | rightBracket
  | comma
  | colon
  | null
  | bool (b : Bool)
  | number (n : Numeral)
  /-- a string with its text, or why that cannot be read -/
  | string (value : Except Flaw (List Char))
  /-- a string that goes wrong, the last piece -/
  | brokenString (flaw : Flaw)
  /-- a word or a numeral that goes wrong, the last piece -/
  | brokenWord (flaw : Flaw)
  /-- a character that starts no piece, the last piece -/
  | foreign

/-- the characters between pieces -/
def isSpace (c : Char) : Bool :=
  c == ' ' || c == '\n' || c == '\t' || c == '\r'

/-- the text without the space at its start -/
def skipSpace (text : List Char) : List Char :=
  text.dropWhile isSpace

/-- the text after the letters of a word -/
def skipWord : List Char → List Char → Except Flaw (List Char)
  | [], rest => .ok rest
  | _ :: _, [] => .error .endInValue
  | letter :: word, c :: rest => if c = letter then skipWord word rest else .error .wrongWord

theorem skipWord_le {word text rest : List Char} (h : skipWord word text = .ok rest) : rest.length ≤ text.length := by
  fun_induction skipWord word text with
  | case1 => exact Nat.le_of_eq (congrArg List.length (Except.ok.inj h).symm)
  | case2 => simp at h
  | case3 letter word tail ih => exact Nat.le_succ_of_le (ih h)
  | case4 => simp at h

namespace Piece

/-- the piece of a word, and the rest of the text; or a broken piece -/
def ofWord (piece : Piece) (word text : List Char) : Except Piece (Piece × List Char) :=
  match skipWord word text with
  | .ok rest => .ok (piece, rest)
  | .error flaw => .error (brokenWord flaw)

/-- the piece of a numeral, and the rest of the text; or a broken piece -/
def ofNumeral (text : List Char) : Except Piece (Piece × List Char) :=
  match Numeral.scan text with
  | .ok (n, rest) => .ok (number n, rest)
  | .error flaw => .error (brokenWord flaw)

/-- the piece of a string after its quote, and the rest of the text; or a broken piece -/
def ofQuoted (text : List Char) : Except Piece (Piece × List Char) :=
  let scanned := Quoted.scan text
  match scanned.rest with
  | .ok rest => .ok (string (Quoted.value scanned.elements), rest)
  | .error flaw => .error (brokenString ((Quoted.flaw? (some flaw) scanned.elements).getD flaw))

/-- the whole piece that a text starts with, and the rest of the text; or the broken piece that it starts with -/
def next : List Char → Except Piece (Piece × List Char)
  | '\x7b' :: rest => .ok (leftBrace, rest)
  | '\x7d' :: rest => .ok (rightBrace, rest)
  | '[' :: rest => .ok (leftBracket, rest)
  | ']' :: rest => .ok (rightBracket, rest)
  | ',' :: rest => .ok (comma, rest)
  | ':' :: rest => .ok (colon, rest)
  | 'n' :: rest => ofWord null ['u', 'l', 'l'] rest
  | 't' :: rest => ofWord (bool true) ['r', 'u', 'e'] rest
  | 'f' :: rest => ofWord (bool false) ['a', 'l', 's', 'e'] rest
  | '"' :: rest => ofQuoted rest
  | c :: rest => if c = '-' || c.isDigit then ofNumeral (c :: rest) else .error foreign
  | [] => .error foreign

theorem ofWord_le {piece found : Piece} {word text rest : List Char} (h : ofWord piece word text = .ok (found, rest)) :
    rest.length ≤ text.length := by
  unfold ofWord at h
  split at h
  next hs =>
    simp only [Except.ok.injEq, Prod.mk.injEq] at h
    exact h.2 ▸ skipWord_le hs
  · simp at h

theorem ofNumeral_shortens {found : Piece} {text rest : List Char} (h : ofNumeral text = .ok (found, rest)) :
    rest.length < text.length := by
  unfold ofNumeral at h
  split at h
  next hs =>
    simp only [Except.ok.injEq, Prod.mk.injEq] at h
    exact h.2 ▸ Numeral.scan_shortens hs
  · simp at h

theorem ofQuoted_shortens {found : Piece} {text rest : List Char} (h : ofQuoted text = .ok (found, rest)) :
    rest.length < text.length := by
  unfold ofQuoted at h
  simp only at h
  split at h
  next hs =>
    simp only [Except.ok.injEq, Prod.mk.injEq] at h
    exact h.2 ▸ Quoted.scan_shortens hs
  · simp at h

theorem next_shortens {text rest : List Char} {piece : Piece} (h : next text = .ok (piece, rest)) :
    rest.length < text.length := by
  unfold next at h
  split at h
  case h_7 => exact Nat.lt_succ_of_le (ofWord_le h)
  case h_8 => exact Nat.lt_succ_of_le (ofWord_le h)
  case h_9 => exact Nat.lt_succ_of_le (ofWord_le h)
  case h_10 => exact Nat.lt_succ_of_lt (ofQuoted_shortens h)
  case h_11 =>
    split at h
    · exact ofNumeral_shortens h
    · simp at h
  case h_12 => simp at h
  all_goals
    simp only [Except.ok.injEq, Prod.mk.injEq] at h
    exact h.2 ▸ Nat.lt_succ_self _

/-- the pieces of a text -/
def ofText (text : List Char) : List Piece :=
  if skipSpace text = [] then []
  else
    match _h : next (skipSpace text) with
    | .error piece => [piece]
    | .ok (piece, rest) => piece :: ofText rest
termination_by text.length
decreasing_by
  exact Nat.lt_of_lt_of_le (next_shortens _h) (List.dropWhile_sublist isSpace).length_le

end Piece

end TokenScanner.Json
