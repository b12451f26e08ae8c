/-
Escaped text: a way to show any text on one line.

A backslash marks what is not shown as it stands: NUL, tab, line feed and carriage return by a letter, a quote or a
backslash by itself, any other character by the hexadecimal number of its code point in braces after `u`. `escape` is
for text shown between other text, where a character that extends the one before it is escaped only at the start, since
there it would change the text before it. `quote` is for text between double quotes, where every such character is
escaped and a single quote is not.

- `escapeChar_single_line`: no line feed or carriage return is ever shown.
-/
import TokenScanner.Text.Extender
import TokenScanner.Text.Hexadecimal
import TokenScanner.Text.Unprintable

namespace TokenScanner.Text

/-- the escape by code point -/
def escapeCode (c : Char) : List Char :=
  ['\\', 'u', '\x7b'] ++ Nat.toDigits 16 c.toNat ++ ['\x7d']

/-- a character as it is shown: `quotes` are the quotes to escape, and `extenders` tells whether to escape those -/
def escapeChar (quotes : List Char) (extenders : Bool) (c : Char) : List Char :=
  if c = '\x00' then ['\\', '0']
  else if c = '\t' then ['\\', 't']
  else if c = '\r' then ['\\', 'r']
  else if c = '\n' then ['\\', 'n']
  else if c = '\\' || quotes.contains c then ['\\', c]
  else if (extenders && isExtender c) || isUnprintable c then escapeCode c
  else [c]

/-- the text as it is shown between other text -/
def escape : List Char → List Char
  | [] => []
  | c :: rest => escapeChar ['\'', '"'] true c ++ rest.flatMap (escapeChar ['\'', '"'] false)

/-- the text as it is shown between double quotes, with them -/
def quote (text : List Char) : List Char :=
  '"' :: text.flatMap (escapeChar ['"'] true) ++ ['"']

/-- digits break no line -/
theorem not_mem_toDigits {c : Char} (hc : c = '\n' ∨ c = '\r') (n : Nat) : ¬ c ∈ Nat.toDigits 16 n := by
  intro h
  obtain ⟨d, small, rfl⟩ := exists_digitChar_of_mem_toDigits h
  have table : ∀ d < 16, ¬ (Nat.digitChar d = '\n' ∨ Nat.digitChar d = '\r') := by decide
  exact table d small hc

theorem escapeChar_single_line (quotes : List Char) (extenders : Bool) (c : Char) :
    ¬ '\n' ∈ escapeChar quotes extenders c ∧ ¬ '\r' ∈ escapeChar quotes extenders c := by
  unfold escapeChar
  split
  · decide
  split
  · decide
  split
  · decide
  split
  · decide
  next h0 ht hr hn =>
    have hn' : '\n' ≠ c := fun h => hn h.symm
    have hr' : '\r' ≠ c := fun h => hr h.symm
    split
    · simp [hn', hr']
    split
    · have codeN := not_mem_toDigits (Or.inl rfl) c.toNat
      have codeR := not_mem_toDigits (Or.inr rfl) c.toNat
      simp [escapeCode, codeN, codeR]
    · simp [hn', hr']

end TokenScanner.Text
