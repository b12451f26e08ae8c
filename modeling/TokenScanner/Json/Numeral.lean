/-
JSON numerals.

A numeral is kept as it is written (`Numeral`). What it stands for (`Numeral.value?`) is a whole number where it has
neither fraction nor exponent and fits a word of 64 bits, and a floating-point number otherwise. That number is the one
of the leading digits that fit a word of 64 bits, times or divided by a power of ten; a numeral too large for it stands
for nothing.

- `Numeral.scan_shortens`: reading a numeral uses up some of the text.
-/
import TokenScanner.Decimal.Shortest
import TokenScanner.Json.Flaw

namespace TokenScanner.Json

/-- the part of a numeral that moves its point -/
structure Exponent where
  negative : Bool
  digits : List Char
  deriving DecidableEq, Repr

/-- a numeral as it is written; a fraction without digits is no fraction -/
structure Numeral where
  negative : Bool
  whole : List Char
  fraction : List Char
  exponent : Option Exponent
  deriving DecidableEq, Repr

namespace Numeral

/-! ## Reading -/

/-- the digits at the start of a text, and the rest of it -/
def digits (text : List Char) : List Char × List Char :=
  (text.takeWhile Char.isDigit, text.dropWhile Char.isDigit)

/-- the flaw of a text that does not start with a digit where one must stand -/
def noDigit : List Char → Flaw
  | [] => .endInValue
  | _ => .wrongNumeral

/-- the digits at the start of a text, which must have some, and the rest of it -/
def someDigits (text : List Char) : Except Flaw (List Char × List Char) :=
  match digits text with
  | ([], _) => .error (noDigit text)
  | found => .ok found

/-- the whole part: digits that start with 0 only if they are nothing else -/
def scanWhole (text : List Char) : Except Flaw (List Char × List Char) :=
  match someDigits text with
  | .ok ('0' :: _ :: _, _) => .error .wrongNumeral
  | found => found

/-- the fraction, if a point stands at the start of the text -/
def scanFraction : List Char → Except Flaw (List Char × List Char)
  | '.' :: rest => someDigits rest
  | text => .ok ([], text)

/-- the text without a sign at its start, and whether that is a minus -/
def sign : List Char → Bool × List Char
  | '-' :: rest => (true, rest)
  | '+' :: rest => (false, rest)
  | text => (false, text)

/-- the exponent after its letter -/
def scanExponentBody (text : List Char) : Except Flaw (Option Exponent × List Char) := do
  let (found, rest) ← someDigits (sign text).2
  return (some ⟨(sign text).1, found⟩, rest)

/-- the exponent, if its letter stands at the start of the text -/
def scanExponent : List Char → Except Flaw (Option Exponent × List Char)
  | 'e' :: rest => scanExponentBody rest
  | 'E' :: rest => scanExponentBody rest
  | text => .ok (none, text)

/-- the numeral without a sign at the start of a text, and the rest of the text -/
def scanUnsigned (negative : Bool) (text : List Char) : Except Flaw (Numeral × List Char) := do
  let (whole, rest) ← scanWhole text
  let (fraction, rest) ← scanFraction rest
  let (exponent, rest) ← scanExponent rest
  return (⟨negative, whole, fraction, exponent⟩, rest)

/-- the numeral at the start of a text, and the rest of the text -/
def scan : List Char → Except Flaw (Numeral × List Char)
  | '-' :: rest => scanUnsigned true rest
  | text => scanUnsigned false text

theorem length_digits (text : List Char) : (digits text).1.length + (digits text).2.length = text.length := by
  rw [← List.length_append]
  exact congrArg List.length List.takeWhile_append_dropWhile

theorem someDigits_shortens {text rest found : List Char} (h : someDigits text = .ok (found, rest)) :
    rest.length < text.length := by
  have total := length_digits text
  unfold someDigits at h
  split at h
  · simp at h
  next hne =>
    simp only [Except.ok.injEq] at h
    rw [h] at total
    cases found with
    | nil => exact absurd h (hne rest)
    | cons c cs =>
      simp only [List.length_cons] at total
      omega

theorem scanWhole_shortens {text rest found : List Char} (h : scanWhole text = .ok (found, rest)) :
    rest.length < text.length := by
  unfold scanWhole at h
  split at h
  · simp at h
  · exact someDigits_shortens h

theorem scanFraction_le {text rest found : List Char} (h : scanFraction text = .ok (found, rest)) :
    rest.length ≤ text.length := by
  unfold scanFraction at h
  split at h
  · exact Nat.le_of_lt (Nat.lt_succ_of_lt (someDigits_shortens h))
  · simp only [Except.ok.injEq, Prod.mk.injEq] at h
    exact Nat.le_of_eq (congrArg List.length h.2.symm)

theorem sign_le (text : List Char) : (sign text).2.length ≤ text.length := by
  unfold sign
  split
  · exact Nat.le_succ _
  · exact Nat.le_succ _
  · exact Nat.le_refl _

theorem scanExponentBody_le {text rest : List Char} {e : Option Exponent} (h : scanExponentBody text = .ok (e, rest)) :
    rest.length ≤ text.length := by
  have hsign := sign_le text
  unfold scanExponentBody at h
  cases hd : someDigits (sign text).2 with
  | error flaw => simp [hd, bind, Except.bind] at h
  | ok found =>
    have := someDigits_shortens (show someDigits (sign text).2 = .ok (found.1, found.2) from hd)
    simp only [hd, bind, Except.bind, pure, Except.pure, Except.ok.injEq, Prod.mk.injEq] at h
    rw [← h.2]
    omega

theorem scanExponent_le {text rest : List Char} {e : Option Exponent} (h : scanExponent text = .ok (e, rest)) :
    rest.length ≤ text.length := by
  unfold scanExponent at h
  split at h
  · exact Nat.le_succ_of_le (scanExponentBody_le h)
  · exact Nat.le_succ_of_le (scanExponentBody_le h)
  · simp only [Except.ok.injEq, Prod.mk.injEq] at h
    exact Nat.le_of_eq (congrArg List.length h.2.symm)

theorem scanUnsigned_shortens {negative : Bool} {text rest : List Char} {n : Numeral}
    (h : scanUnsigned negative text = .ok (n, rest)) : rest.length < text.length := by
  unfold scanUnsigned at h
  cases hw : scanWhole text with
  | error flaw => simp [hw, bind, Except.bind] at h
  | ok w =>
    cases hf : scanFraction w.2 with
    | error flaw => simp [hw, hf, bind, Except.bind] at h
    | ok f =>
      cases he : scanExponent f.2 with
      | error flaw => simp [hw, hf, he, bind, Except.bind] at h
      | ok e =>
        simp only [hw, hf, he, bind, Except.bind, pure, Except.pure, Except.ok.injEq, Prod.mk.injEq] at h
        have h₁ := scanWhole_shortens (show scanWhole text = .ok (w.1, w.2) from hw)
        have h₂ := scanFraction_le (show scanFraction w.2 = .ok (f.1, f.2) from hf)
        have h₃ := scanExponent_le (show scanExponent f.2 = .ok (e.1, e.2) from he)
        rw [← h.2]
        omega

theorem scan_shortens {text rest : List Char} {n : Numeral} (h : scan text = .ok (n, rest)) :
    rest.length < text.length := by
  unfold scan at h
  split at h
  · exact Nat.lt_succ_of_lt (scanUnsigned_shortens h)
  · exact scanUnsigned_shortens h

/-! ## Value -/

/-- what a numeral stands for -/
inductive Value where
  /-- a whole number of at least 0 -/
  | natural (n : UInt64)
  /-- a whole number below 0, given by its distance from 0 -/
  | negative (n : Nat)
  /-- a floating-point number -/
  | real (x : Float)

/-- the number that the digits make with those before them, as far as it fits a word of 64 bits, and the digits that are
left over -/
def accumulate (n : Nat) : List Char → Nat × List Char
  | [] => (n, [])
  | d :: rest =>
    let next := 10 * n + (d.toNat - '0'.toNat)
    if next < UInt64.size then accumulate next rest else (n, d :: rest)

/-- the largest power of ten that is one floating-point number times another -/
def largestPower : Nat := 308

/-- ten to a power of at most `largestPower` -/
def powerOfTen (n : Nat) : Float :=
  Float.ofScientific 1 false n

/-- the number divided by ten to the power `n`, in steps of `largestPower` -/
def divide (x : Float) (n : Nat) : Float :=
  if n ≤ largestPower then x / powerOfTen n
  else if x == 0 then x
  else divide (x / powerOfTen largestPower) (n - largestPower)
termination_by n
decreasing_by simp only [largestPower] at *; omega

/-- the number times ten to a power, unless that is too large -/
def scaled? (significand : Nat) (exponent : Int) : Option Float :=
  let x := (UInt64.ofNat significand).toFloat
  if exponent < 0 then some (divide x exponent.natAbs)
  else if exponent.toNat ≤ largestPower then
    let product := x * powerOfTen exponent.toNat
    if product.isInf then none else some product
  else if x == 0 then some x
  else none

/-- the largest exponent that is taken as it is written -/
def largestExponent : Nat := 2147483647

/-- the largest distance from 0 of a whole number below 0 -/
def largestNegative : Nat := 9223372036854775808

/-- the floating-point number that a numeral stands for, without its sign -/
def magnitude? (n : Numeral) : Option Float :=
  let (whole, dropped) := accumulate 0 n.whole
  let (significand, left) := accumulate whole n.fraction
  let shift : Int := (dropped.length : Int) - ((n.fraction.length - left.length : Nat) : Int)
  match n.exponent with
  | none => scaled? significand shift
  | some e =>
    let written := Nat.ofDigitChars 10 e.digits 0
    if largestExponent < written then
      if significand ≠ 0 ∧ ¬ e.negative then none else some 0
    else scaled? significand (if e.negative then shift - written else shift + written)

/-- the floating-point number that a numeral stands for -/
def real? (n : Numeral) : Option Value :=
  n.magnitude?.map fun x => .real (if n.negative then -x else x)

/-- what a numeral stands for, unless it is too large -/
def value? (n : Numeral) : Option Value :=
  if n.fraction.isEmpty && n.exponent.isNone then
    let whole := Nat.ofDigitChars 10 n.whole 0
    if n.negative then
      if 0 < whole ∧ whole ≤ largestNegative then some (.negative whole) else n.real?
    else if whole < UInt64.size then some (.natural (UInt64.ofNat whole))
    else n.real?
  else n.real?

end Numeral

end TokenScanner.Json
