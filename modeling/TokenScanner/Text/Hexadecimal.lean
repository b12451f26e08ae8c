/-
Hexadecimal digits of either case, and the numbers they write.

- `exists_digitChar_of_mem_toDigits`: the digits of a number are digits.
- `hexNumber?_toDigits`: a number is read from its digits.
-/

namespace TokenScanner.Text

/-- the value of a hexadecimal digit -/
def hexDigit? (c : Char) : Option Nat :=
  if '0' ≤ c && c ≤ '9' then some (c.toNat - '0'.toNat)
  else if 'a' ≤ c && c ≤ 'f' then some (c.toNat - 'a'.toNat + 10)
  else if 'A' ≤ c && c ≤ 'F' then some (c.toNat - 'A'.toNat + 10)
  else none

/-- the number that hexadecimal digits write, if all are digits; no digits write 0 -/
def hexNumber? (digits : List Char) : Option Nat :=
  digits.foldlM (fun n c => (hexDigit? c).map (16 * n + ·)) 0

theorem hexDigit?_digitChar {d : Nat} (h : d < 16) : hexDigit? (Nat.digitChar d) = some d := by
  revert d
  decide

/-- the digits of a number are digits -/
theorem exists_digitChar_of_mem_toDigits {n : Nat} {c : Char} (h : c ∈ Nat.toDigits 16 n) :
    ∃ d < 16, c = Nat.digitChar d := by
  induction n using Nat.strongRecOn with
  | ind n ih =>
    rw [Nat.toDigits_eq_if (by decide)] at h
    split at h
    next small => exact ⟨n, small, List.mem_singleton.1 h⟩
    next large =>
      rcases List.mem_append.1 h with front | last
      · exact ih (n / 16) (by omega) front
      · exact ⟨n % 16, Nat.mod_lt n (by decide), List.mem_singleton.1 last⟩

/-- a number is read from its digits -/
theorem hexNumber?_toDigits (n : Nat) : hexNumber? (Nat.toDigits 16 n) = some n := by
  induction n using Nat.strongRecOn with
  | ind n ih =>
    rw [Nat.toDigits_eq_if (by decide)]
    split
    next small => simp [hexNumber?, hexDigit?_digitChar small]
    next large =>
      have front := ih (n / 16) (by omega)
      have last := hexDigit?_digitChar (Nat.mod_lt n (by decide : 0 < 16))
      unfold hexNumber? at front ⊢
      rw [List.foldlM_append, front]
      simp only [List.foldlM_cons, List.foldlM_nil, last, Option.bind_eq_bind, Option.bind_some, Option.map_some]
      exact congrArg some (Nat.div_add_mod n 16)

end TokenScanner.Text
