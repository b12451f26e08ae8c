/-
Numbers in decimal.

The digits of a number are read as far as they go, so they are told from what follows them where that does not start
with a digit (`Undigited`), and the number is known from them. A reader of JSON is stricter: it takes no 0 before
another digit, and goes on at a point and at the letter of an exponent. The digits of a number never start with a 0
unless it is 0, and behind the numbers that are written stands nothing of the kind (`Json.Numeral.Ended`).

- `toDigits_append_inj`: two numbers with other texts behind them are written alike only if they are the same.
- `Json.Numeral.scan_toDigits`: a number is read as its digits, and what follows it is left.
- `Json.Numeral.value?_toDigits`: the digits stand for the number.
-/
import Mathlib.Tactic
import TokenScanner.Json.Numeral

namespace TokenScanner

open Json (Numeral)

variable {m n : Nat} {rest : List Char}

/-! ## Where digits end -/

/-- no digit stands at the start -/
def Undigited (rest : List Char) : Prop :=
  ∀ c ∈ rest.head?, c.isDigit = false

theorem undigited_append {c : Char} {front : List Char} (first : front.head? = some c) (h : c.isDigit = false)
    (rest : List Char) : Undigited (front ++ rest) := by
  intro d hd
  rw [List.head?_append, first, Option.some_or] at hd
  obtain rfl : c = d := Option.some.inj hd
  exact h

theorem undigited_cons {c : Char} (h : c.isDigit = false) (rest : List Char) : Undigited (c :: rest) := by
  have first : [c].head? = some c := rfl
  exact undigited_append first h rest

theorem all_isDigit_toDigits (n : Nat) : ∀ c ∈ Nat.toDigits 10 n, c.isDigit = true :=
  fun _ hc => Nat.isDigit_of_mem_toDigits (by decide) (by decide) hc

theorem digits_append {run : List Char} (hrun : ∀ c ∈ run, c.isDigit = true) (h : Undigited rest) :
    Numeral.digits (run ++ rest) = (run, rest) := by
  rw [Numeral.digits, List.takeWhile_append_of_pos hrun, List.dropWhile_append_of_pos hrun]
  cases rest with
  | nil => rw [List.takeWhile_nil, List.dropWhile_nil, List.append_nil]
  | cons c rest =>
    have stop : ¬ c.isDigit = true := by
      rw [h c rfl]
      exact Bool.false_ne_true
    rw [List.takeWhile_cons_of_neg stop, List.dropWhile_cons_of_neg stop, List.append_nil]

/-- a number and what follows it are known from their text -/
theorem toDigits_append_inj {a b : List Char} (ha : Undigited a) (hb : Undigited b)
    (h : Nat.toDigits 10 m ++ a = Nat.toDigits 10 n ++ b) : m = n ∧ a = b := by
  have parts : (Nat.toDigits 10 m, a) = (Nat.toDigits 10 n, b) := by
    calc (Nat.toDigits 10 m, a)
        = Numeral.digits (Nat.toDigits 10 m ++ a) := (digits_append (all_isDigit_toDigits m) ha).symm
      _ = Numeral.digits (Nat.toDigits 10 n ++ b) := by rw [h]
      _ = (Nat.toDigits 10 n, b) := digits_append (all_isDigit_toDigits n) hb
  obtain ⟨digits, following⟩ := Prod.mk.inj parts
  refine ⟨?_, following⟩
  calc m = Nat.ofDigitChars 10 (Nat.toDigits 10 m) 0 := Nat.ofDigitChars_ten_toDigits.symm
    _ = Nat.ofDigitChars 10 (Nat.toDigits 10 n) 0 := by rw [digits]
    _ = n := Nat.ofDigitChars_ten_toDigits

/-- no number but 0 starts with a 0 -/
theorem head?_toDigits_ne (h : n ≠ 0) : (Nat.toDigits 10 n).head? ≠ some '0' := by
  induction n using Nat.strongRecOn with
  | ind n ih =>
    rw [Nat.toDigits_eq_if (by decide)]
    split
    next small =>
      intro zero
      exact h (Nat.digitChar_eq_zero.1 (Option.some.inj zero))
    next large =>
      rw [List.head?_append_of_ne_nil _ Nat.toDigits_ne_nil]
      exact ih (n / 10) (by omega) (by omega)

namespace Json.Numeral

/-! ## Numbers as numerals -/

/-- nothing that goes on with a number stands at the start: no digit, no point and no letter of an exponent -/
structure Ended (rest : List Char) : Prop where
  digit : Undigited rest
  point : ∀ c ∈ rest.head?, c ≠ '.'
  exponent : ∀ c ∈ rest.head?, c ≠ 'e' ∧ c ≠ 'E'

theorem ended_nil : Ended [] :=
  ⟨fun _ hc => (nomatch hc), fun _ hc => (nomatch hc), fun _ hc => (nomatch hc)⟩

theorem ended_cons {c : Char} (h : c = ',' ∨ c = '\n') (rest : List Char) : Ended (c :: rest) := by
  rcases h with rfl | rfl
  · exact ⟨undigited_cons rfl rest, by simp, by simp⟩
  · exact ⟨undigited_cons rfl rest, by simp, by simp⟩

/-- the digits of a number -/
def ofNat (n : Nat) : Numeral :=
  ⟨false, Nat.toDigits 10 n, [], none⟩

theorem scanWhole_toDigits (h : Undigited rest) :
    scanWhole (Nat.toDigits 10 n ++ rest) = .ok (Nat.toDigits 10 n, rest) := by
  have found : someDigits (Nat.toDigits 10 n ++ rest) = .ok (Nat.toDigits 10 n, rest) := by
    rw [someDigits, digits_append (all_isDigit_toDigits n) h]
    split
    next none => exact absurd (Prod.mk.inj none).1 Nat.toDigits_ne_nil
    next => rfl
  rw [scanWhole, found]
  split
  next d tail rest' zero =>
    -- a 0 before another digit: the number would be 0, and that has one digit
    have digits : Nat.toDigits 10 n = '0' :: d :: tail := (Prod.mk.inj (Except.ok.inj zero)).1
    by_cases hn : n = 0
    · rw [hn] at digits
      cases digits
    · refine absurd ?_ (head?_toDigits_ne hn)
      rw [digits]
      rfl
  next => rfl

theorem scanFraction_of_ended (h : Ended rest) : scanFraction rest = .ok ([], rest) := by
  unfold scanFraction
  split
  next tail => exact absurd rfl (h.point '.' rfl)
  next => rfl

theorem scanExponent_of_ended (h : Ended rest) : scanExponent rest = .ok (none, rest) := by
  unfold scanExponent
  split
  next tail => exact absurd rfl (h.exponent 'e' rfl).1
  next tail => exact absurd rfl (h.exponent 'E' rfl).2
  next => rfl

/-- a number starts with a digit -/
theorem exists_toDigits_cons (n : Nat) : ∃ d tail, Nat.toDigits 10 n = d :: tail ∧ d.isDigit = true := by
  obtain ⟨d, tail, digits⟩ := List.exists_cons_of_ne_nil (@Nat.toDigits_ne_nil n 10)
  refine ⟨d, tail, digits, all_isDigit_toDigits n d ?_⟩
  rw [digits]
  exact List.mem_cons_self

/-- a number is read as its digits -/
theorem scan_toDigits (h : Ended rest) : scan (Nat.toDigits 10 n ++ rest) = .ok (ofNat n, rest) := by
  obtain ⟨d, tail, digits, digit⟩ := exists_toDigits_cons n
  have unsigned : scan (Nat.toDigits 10 n ++ rest) = scanUnsigned false (Nat.toDigits 10 n ++ rest) := by
    rw [digits, List.cons_append]
    unfold scan
    split
    next _ minus =>
      obtain rfl := (List.cons.inj minus).1
      exact absurd digit (by decide)
    next => rfl
  rw [unsigned]
  unfold scanUnsigned
  rw [scanWhole_toDigits h.digit]
  simp only [bind, Except.bind, scanFraction_of_ended h, scanExponent_of_ended h]
  rfl

/-- the digits stand for the number -/
theorem value?_toDigits (h : n < UInt64.size) : (ofNat n).value? = some (.natural (UInt64.ofNat n)) := by
  have whole : Nat.ofDigitChars 10 (ofNat n).whole 0 = n := Nat.ofDigitChars_ten_toDigits
  simp only [value?, whole, h]
  rfl

end Json.Numeral

end TokenScanner
