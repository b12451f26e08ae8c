/-
JSON strings.

Between its quotes a string holds characters and escapes. An escape by number gives a unit of 16 bits, and a character
beyond them is two such units in a row, a high and a low surrogate. A string whose escapes leave a surrogate by itself
can be skipped but not read.

`Quoted.escape` writes the quote, the backslash and the characters below U+0020 as escapes and everything else as it
stands.

- `Quoted.scan_shortens`: scanning a string uses up some of the text.
-/
import TokenScanner.Json.Flaw
import TokenScanner.Text.Hexadecimal
import TokenScanner.Text.Width

namespace TokenScanner.Json.Quoted

/-! ## Reading -/

/-- what one character or escape of a string gives -/
inductive Element where
  | char (c : Char)
  /-- a unit of 16 bits -/
  | unit (n : Nat)
  deriving DecidableEq, Repr

/-- the unit of 16 bits that four hexadecimal digits write -/
def unit? (a b c d : Char) : Option Nat :=
  Text.hexNumber? [a, b, c, d]

/-- the unit is the first of a pair -/
def isHigh (n : Nat) : Bool :=
  0xD800 ≤ n && n < 0xDC00

/-- the unit is the second of a pair -/
def isLow (n : Nat) : Bool :=
  0xDC00 ≤ n && n < 0xE000

/-- the character that a letter or sign after a backslash stands for -/
def shortEscape? : Char → Option Char
  | '"' => some '"'
  | '\\' => some '\\'
  | '/' => some '/'
  | 'b' => some '\x08'
  | 'f' => some '\x0C'
  | 'n' => some '\n'
  | 'r' => some '\r'
  | 't' => some '\t'
  | _ => none

/-- a string as far as it could be scanned -/
structure Scanned where
  elements : List Element
  /-- the text after the closing quote, or why that is not reached -/
  rest : Except Flaw (List Char)

/-- the scanned string with an element before it -/
def Scanned.after (s : Scanned) (e : Element) : Scanned :=
  ⟨e :: s.elements, s.rest⟩

/-- the string after its opening quote; the width of an escape by number is four bytes -/
def scan : List Char → Scanned
  | [] => ⟨[], .error .endInString⟩
  | '"' :: rest => ⟨[], .ok rest⟩
  | '\\' :: 'u' :: a :: b :: c :: d :: rest =>
    match unit? a b c d with
    | none => ⟨[], .error .wrongUnit⟩
    | some n => (scan rest).after (.unit n)
  | '\\' :: 'u' :: rest => ⟨[], .error (if Text.byteWidth rest < 4 then .endInString else .wrongUnit)⟩
  | '\\' :: e :: rest =>
    match shortEscape? e with
    | none => ⟨[], .error .unknownEscape⟩
    | some c => (scan rest).after (.char c)
  | c :: rest =>
    if c = '\\' then ⟨[], .error .endInString⟩
    else if c.toNat < 0x20 then ⟨[], .error .bareControl⟩
    else (scan rest).after (.char c)

/-- the first flaw of a string that is read; `ending` is the flaw after the elements, if the string is not closed there.
A high surrogate has to be followed by an escape by number, whether or not the string goes wrong in that -/
def flaw? (ending : Option Flaw) : List Element → Option Flaw
  | [] => ending
  | .char _ :: rest => flaw? ending rest
  | .unit n :: rest =>
    if isLow n then some .unpairedUnit
    else if isHigh n then
      match rest with
      | .unit l :: rest => if isLow l then flaw? ending rest else some .unpairedUnit
      | .char _ :: _ => some .unpairedHigh
      | [] => if ending = some .endInString ∨ ending = some .wrongUnit then ending else some .unpairedHigh
    else flaw? ending rest

/-- the character of a pair -/
def joined (high low : Nat) : Char :=
  Char.ofNat (0x10000 + 0x400 * (high - 0xD800) + (low - 0xDC00))

/-- the characters that the elements stand for -/
def characters : List Element → List Char
  | [] => []
  | .char c :: rest => c :: characters rest
  | .unit h :: .unit l :: rest =>
    if isHigh h then joined h l :: characters rest else Char.ofNat h :: characters (.unit l :: rest)
  | .unit n :: rest => Char.ofNat n :: characters rest

/-- the text of a closed string, or why it cannot be read -/
def value (elements : List Element) : Except Flaw (List Char) :=
  match flaw? none elements with
  | some flaw => .error flaw
  | none => .ok (characters elements)

theorem scan_shortens {text rest : List Char} (h : (scan text).rest = .ok rest) : rest.length < text.length := by
  fun_induction scan text with
  | case1 => simp at h
  | case2 tail =>
    simp only [Except.ok.injEq] at h
    rw [← h]
    exact Nat.lt_succ_self _
  | case3 => simp at h
  | case4 a b c d tail n _ ih =>
    have := ih h
    simp only [List.length_cons]
    omega
  | case5 => simp at h
  | case6 => simp at h
  | case7 e tail c _ _ _ ih =>
    have := ih h
    simp only [List.length_cons]
    omega
  | case8 => simp at h
  | case9 => simp at h
  | case10 c tail _ _ _ _ _ _ ih =>
    have := ih h
    simp only [List.length_cons]
    omega

/-! ## Writing -/

/-- a character as it stands in a string -/
def escapeChar (c : Char) : List Char :=
  if c = '"' then ['\\', '"']
  else if c = '\\' then ['\\', '\\']
  else if c = '\x08' then ['\\', 'b']
  else if c = '\t' then ['\\', 't']
  else if c = '\n' then ['\\', 'n']
  else if c = '\x0C' then ['\\', 'f']
  else if c = '\r' then ['\\', 'r']
  else if c.toNat < 0x20 then
    ['\\', 'u', '0', '0', Nat.digitChar (c.toNat / 16), Nat.digitChar (c.toNat % 16)]
  else [c]

/-- a text as it stands in a string -/
def escape (text : List Char) : List Char :=
  text.flatMap escapeChar

/-- a text as a string, quotes included -/
def string (text : List Char) : List Char :=
  '"' :: escape text ++ ['"']

end TokenScanner.Json.Quoted
