/-
Asking for a kind.

A reader can be asked whether the next token is of a kind (`check`), to take the token if it is (`eat`), and to take a
token that has to be (`expect`). The second asks the first and then advances; the third looks at the token by itself,
moves the reader by itself and says what it found instead. So they are brought together by what they look at: the next
token is of the kind (`Reader.Offers`), or it is not. Where it is, all three take the one step that `advance` takes,
which stays in the stream. Where it is not, no reader moves, and what was found is the end of the stream or the very
token that stands there.

- `Reader.check_eq_true_iff`: what is checked is what is offered.
- `Reader.Offers.eat_eq`, `Reader.Offers.expect_eq`: a token that is offered is taken.
- `Reader.eat_of_not_offers`, `Reader.expect_of_not_offers`: nothing else is taken, and what is said about it.
- `Reader.requests_agree`: the calls agree after any calls on a new reader.
-/
import TokenScanner.Proofs.Reading

namespace TokenScanner.Reader

variable {stream : TokenStream} {r : Reader} {kind : Kind} {t : Token}

/-- the reader one place further -/
def behind (r : Reader) : Reader :=
  { r with position := r.position + 1 }

/-- the next token is `t`, and it is of the kind -/
def Offers (r : Reader) (kind : Kind) (t : Token) : Prop :=
  r.peek = some t ∧ t.kind = kind

/-- what is found where a token of the kind should be: the end of the stream, or the next token -/
def found (r : Reader) (kind : Kind) : ExpectError :=
  match r.peek with
  | none => .endOfInput kind r.stream.file
  | some t => .unexpected kind t.kind t.lexeme t.file t.line t.column

theorem check_eq_true_iff : r.check kind = true ↔ ∃ t, r.Offers kind t := by
  unfold check peekKind Offers
  simp only [decide_eq_true_eq, Option.map_eq_some_iff]

theorem peek_eq_none_iff : r.peek = none ↔ r.atEnd = true := by
  unfold peek atEnd
  simp only [List.getElem?_eq_none_iff, decide_eq_true_eq]

/-! ## A token of the kind -/

theorem advance_of_peek (h : r.peek = some t) : r.advance = (some t, r.behind) := by
  simp only [advance, h, behind]

theorem Offers.eat_eq (h : r.Offers kind t) : r.eat kind = (some t, r.behind) := by
  rw [eat, if_pos (check_eq_true_iff.2 ⟨t, h⟩), advance_of_peek h.1]

theorem Offers.expect_eq (h : r.Offers kind t) : r.expect kind = (.ok t, r.behind) := by
  simp only [expect, h.1, if_pos h.2, behind]

/-- the reader stays in its stream -/
theorem Sound.behind (h : Sound stream r) (next : r.peek = some t) : Sound stream r.behind := by
  have passed := h.move .advance
  rwa [Reader.move, advance_of_peek next] at passed

/-! ## Another token, or none -/

theorem eat_of_not_offers (h : ∀ t, ¬ r.Offers kind t) : r.eat kind = (none, r) := by
  have refused : ¬ r.check kind = true := by
    intro checked
    obtain ⟨t, offered⟩ := check_eq_true_iff.1 checked
    exact h t offered
  rw [eat, if_neg refused]

theorem expect_of_not_offers (h : ∀ t, ¬ r.Offers kind t) : r.expect kind = (.error (r.found kind), r) := by
  unfold expect found
  cases next : r.peek with
  | none => rfl
  | some t =>
    have other : ¬ t.kind = kind := fun same => h t ⟨next, same⟩
    simp only [if_neg other]

theorem found_eq_endOfInput_iff : r.found kind = .endOfInput kind r.stream.file ↔ r.atEnd = true := by
  rw [← peek_eq_none_iff, found]
  cases r.peek with
  | none => simp
  | some t => simp

theorem found_of_peek (next : r.peek = some t) :
    r.found kind = .unexpected kind t.kind t.lexeme t.file t.line t.column := by
  simp only [found, next]

theorem expected_found (r : Reader) (kind : Kind) : (r.found kind).expected = kind := by
  unfold found
  cases r.peek with
  | none => rfl
  | some t => rfl

/-! ## All calls -/

/-- the calls that may take a token of a kind agree on one that is offered -/
structure Taken (r : Reader) (kind : Kind) (t : Token) : Prop where
  offers : r.Offers kind t
  eat : r.eat kind = (some t, r.behind)
  expect : r.expect kind = (.ok t, r.behind)
  advance : r.advance = (some t, r.behind)

/-- the calls that may take a token of a kind leave the reader where it is, and `expect` says why -/
structure Refused (r : Reader) (kind : Kind) (e : ExpectError) : Prop where
  eat : r.eat kind = (none, r)
  expect : r.expect kind = (.error e, r)
  expected : e.expected = kind
  atEnd : e = .endOfInput kind r.stream.file ↔ r.atEnd = true
  other : r.atEnd = false →
    ∃ t, r.peek = some t ∧ e = .unexpected kind t.kind t.lexeme t.file t.line t.column

theorem Offers.taken (h : r.Offers kind t) : r.Taken kind t where
  offers := h
  eat := h.eat_eq
  expect := h.expect_eq
  advance := advance_of_peek h.1

theorem refused_of_not_offers (h : ∀ t, ¬ r.Offers kind t) : r.Refused kind (r.found kind) where
  eat := eat_of_not_offers h
  expect := expect_of_not_offers h
  expected := r.expected_found kind
  atEnd := found_eq_endOfInput_iff
  other := by
    intro inside
    have some_left : r.peek ≠ none := by
      rw [Ne, peek_eq_none_iff, inside]
      exact Bool.false_ne_true
    obtain ⟨t, next⟩ := Option.ne_none_iff_exists'.1 some_left
    exact ⟨t, next, found_of_peek next⟩

/-- **The calls for a kind agree.** After any calls on a new reader, restored to whatever places: a kind is found by
`check` in just those states where `eat` gives a token, and where `expect` does. There the two and `advance` give the
same token, the next one, and leave the same reader, one place further and still in its stream. Elsewhere `eat` gives
none and `expect` an error, and neither moves the reader. The error names the kind; it tells the end of the stream's
file exactly at the end, and else kind, lexeme, file, line and column of the token that stands there. -/
theorem requests_agree (stream : TokenStream) (moves : List Move) (kind : Kind) :
    let r := (ofStream stream).run moves
    (r.check kind = true ↔ ∃ t, (r.eat kind).1 = some t) ∧
      (r.check kind = true ↔ ∃ t, (r.expect kind).1 = .ok t) ∧
      (r.check kind = true → ∃ t, r.Taken kind t ∧
        r.behind.position = r.position + 1 ∧ r.behind.position ≤ stream.tokens.length) ∧
      (r.check kind = false → r.stream = stream ∧ ∃ e, r.Refused kind e) := by
  intro r
  have reached : Sound stream r := (sound_ofStream stream).run moves
  by_cases offered : ∃ t, r.Offers kind t
  · have checked : r.check kind = true := check_eq_true_iff.2 offered
    obtain ⟨t, offers⟩ := offered
    refine ⟨?_, ?_, fun _ => ⟨t, offers.taken, rfl, (reached.behind offers.1).2⟩, ?_⟩
    · simp only [checked, offers.eat_eq, true_iff]
      exact ⟨t, rfl⟩
    · simp only [checked, offers.expect_eq, true_iff]
      exact ⟨t, rfl⟩
    · intro unchecked
      rw [checked] at unchecked
      cases unchecked
  · have unchecked : r.check kind = false := by
      rw [← Bool.not_eq_true, check_eq_true_iff]
      exact offered
    have missing : ∀ t, ¬ r.Offers kind t := not_exists.1 offered
    refine ⟨?_, ?_, ?_, fun _ => ⟨reached.1, r.found kind, refused_of_not_offers missing⟩⟩
    · simp [unchecked, eat_of_not_offers missing]
    · simp [unchecked, expect_of_not_offers missing]
    · intro checked
      rw [unchecked] at checked
      cases checked

/-- a name, asked for as a name and as digits; and the end, to which a place leads that lies beyond the stream -/
theorem requests_agree_foreign_place :
    let x : Token := ⟨"p.st", 1, 2, "x", .ident⟩
    let stream : TokenStream :=
      ⟨"p.st", [⟨"p.st", 1, 1, "(", .symbol .leftParen⟩, x, ⟨"p.st", 1, 3, ")", .symbol .rightParen⟩]⟩
    let inside := (ofStream stream).run [.restore ⟨1⟩]
    let outside := (ofStream stream).run [.advance, .restore ⟨7⟩]
    (inside.check .ident = true ∧ inside.Taken .ident x) ∧
      (inside.check .digits = false ∧
        inside.expect .digits = (.error (.unexpected .digits .ident "x" "p.st" 1 2), inside)) ∧
      outside.check .digits = false ∧ outside.expect .digits = (.error (.endOfInput .digits "p.st"), outside) := by
  intro x stream inside outside
  have known : inside.check .ident = true := by decide
  have unknown : inside.check .digits = false := by decide
  have ended : outside.check .digits = false := by decide
  refine ⟨⟨known, ?_⟩, ⟨unknown, ?_⟩, ended, ?_⟩
  · obtain ⟨t, taken, -⟩ := (requests_agree stream [.restore ⟨1⟩] .ident).2.2.1 known
    have next : inside.peek = some x := by decide
    obtain rfl : t = x := Option.some.inj (taken.offers.1.symm.trans next)
    exact taken
  · obtain ⟨-, e, refused⟩ := (requests_agree stream [.restore ⟨1⟩] .digits).2.2.2 unknown
    obtain ⟨t, next, rfl⟩ := refused.other (by decide)
    obtain rfl : x = t := Option.some.inj next
    exact refused.expect
  · obtain ⟨-, e, refused⟩ := (requests_agree stream [.advance, .restore ⟨7⟩] .digits).2.2.2 ended
    obtain rfl := refused.atEnd.2 (by decide)
    exact refused.expect

end TokenScanner.Reader
