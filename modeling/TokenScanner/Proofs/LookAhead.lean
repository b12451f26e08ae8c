/-
Looking ahead.

A reader looks ahead by adding an offset to its place. As long as the sum fits a word of 64 bits, the answer is the
token that is so many places behind the next one, or none if fewer remain. A sum that does not fit has no answer: the
reader breaks off with an overflow, though none remains so far ahead and that would be the answer.

- `Reader.peekAhead_of_fits`, `Reader.peekAhead_of_overflow`: the two cases.
- `Reader.Sound.remaining_of_overflow`: none remains where the sum does not fit.
- `Reader.peekAhead_largest`: the largest offset overflows on every reader that has moved.
- `Reader.peekAhead_eq_remaining_iff`: a reader looks ahead exactly as long as the sum fits.
-/
import TokenScanner.Proofs.Reading

namespace TokenScanner.Reader

variable {stream : TokenStream} {r : Reader} {offset : UInt64}

/-- where the sum fits, the token is found among those that remain -/
theorem peekAhead_of_fits (fits : r.position + offset.toNat < UInt64.size) :
    r.peekAhead offset = .ok r.remaining[offset.toNat]? := by
  rw [peekAhead, if_pos fits, remaining, List.getElem?_drop]

theorem peekAhead_of_overflow (overflow : UInt64.size ≤ r.position + offset.toNat) :
    r.peekAhead offset = .error .overflow := by
  rw [peekAhead, if_neg (Nat.not_lt.2 overflow)]

/-- where the sum does not fit, none remains so far ahead -/
theorem Sound.remaining_of_overflow (h : Sound stream r) (short : stream.tokens.length < UInt64.size)
    (overflow : UInt64.size ≤ r.position + offset.toNat) : r.remaining[offset.toNat]? = none := by
  rw [remaining, List.getElem?_drop, List.getElem?_eq_none_iff, h.1]
  exact Nat.le_trans short.le overflow

/-- the largest offset overflows on just those readers that are not at the first token -/
theorem peekAhead_largest (r : Reader) : r.peekAhead 18446744073709551615 = .error .overflow ↔ 0 < r.position := by
  have largest : (18446744073709551615 : UInt64).toNat + 1 = UInt64.size := rfl
  constructor
  · intro panics
    by_contra unmoved
    rw [peekAhead_of_fits (by omega)] at panics
    cases panics
  · intro moved
    exact peekAhead_of_overflow (by omega)

/-- **A reader looks ahead exactly as long as the sum fits its word.** After any calls on a new reader of a stream that
a word can count, an offset finds the token that many places behind the next one, or none if fewer remain, just if place
and offset add up to less than the size of the word. Else none remains so far ahead, but the reader overflows where it
should say so. Whatever it answers is right: a token that it has passed is never given. -/
theorem peekAhead_eq_remaining_iff (stream : TokenStream) (moves : List Move) (offset : UInt64)
    (short : stream.tokens.length < UInt64.size) :
    let r := (ofStream stream).run moves
    (r.peekAhead offset = .ok r.remaining[offset.toNat]? ↔ r.position + offset.toNat < UInt64.size) ∧
      (UInt64.size ≤ r.position + offset.toNat →
        r.remaining[offset.toNat]? = none ∧ r.peekAhead offset = .error .overflow) ∧
      ∀ answer, r.peekAhead offset = .ok answer → answer = r.remaining[offset.toNat]? := by
  intro r
  have reached : Sound stream r := (sound_ofStream stream).run moves
  have fits_of_answer : ∀ answer, r.peekAhead offset = .ok answer → r.position + offset.toNat < UInt64.size := by
    intro answer given
    by_contra overflow
    rw [peekAhead_of_overflow (Nat.le_of_not_lt overflow)] at given
    cases given
  refine ⟨⟨fits_of_answer _, peekAhead_of_fits⟩, fun overflow => ?_, fun answer given => ?_⟩
  · exact ⟨reached.remaining_of_overflow short overflow, peekAhead_of_overflow overflow⟩
  · rw [peekAhead_of_fits (fits_of_answer answer given)] at given
    exact (Except.ok.inj given).symm

/-- three tokens, looked at from the second: the next but one, and far behind the last -/
theorem peekAhead_eq_remaining_iff_three :
    let last : Token := ⟨"p.st", 1, 3, ")", .symbol .rightParen⟩
    let stream : TokenStream := ⟨"p.st", [⟨"p.st", 1, 1, "(", .symbol .leftParen⟩, ⟨"p.st", 1, 2, "x", .ident⟩, last]⟩
    let r := (ofStream stream).run [.expect (.symbol .leftParen), .eat .digits]
    stream.tokens.length < UInt64.size ∧ r.peekAhead 1 = .ok r.remaining[1]? ∧ r.peekAhead 1 = .ok (some last) ∧
      r.peekAhead 18446744073709551614 = .ok none ∧ r.peekAhead 18446744073709551615 = .error .overflow := by
  intro last stream r
  have short : stream.tokens.length < UInt64.size := by decide
  have near := peekAhead_eq_remaining_iff stream [.expect (.symbol .leftParen), .eat .digits] 1 short
  have far := peekAhead_eq_remaining_iff stream [.expect (.symbol .leftParen), .eat .digits] 18446744073709551615 short
  exact ⟨short, near.1.2 (by decide), by decide +kernel, by decide +kernel, (far.2.1 (by decide)).2⟩

/-- **Looking far ahead overflows:** with the largest offset, from the second of two tokens, a reader breaks off, where
none remains and the answer should be that there is none. -/
theorem peekAhead_overflows :
    let stream : TokenStream := ⟨"p.st", [⟨"p.st", 1, 1, "a", .ident⟩, ⟨"p.st", 1, 3, "b", .ident⟩]⟩
    let r := (ofStream stream).run [.advance]
    let offset : UInt64 := 18446744073709551615
    r.remaining[offset.toNat]? = none ∧ r.peekAhead offset = .error .overflow ∧
      r.peekAhead offset ≠ .ok r.remaining[offset.toNat]? := by
  decide +kernel

end TokenScanner.Reader
