/-
Readers give each token once.

A reader is moved by any calls, and restored to any places: its own, those of readers of the same stream, and those of
readers of other streams, which may lie beyond its end. `Reader.move` brings the calls into one form, the token that a
call gives and the reader after it. A call does one of three things (`Reader.move_cases`): it restores the reader, it
leaves the reader where it is and gives nothing, or it gives the next token and leads behind it.

- `Reader.Sound.move`, `Reader.Sound.run`: no call leads a reader out of its stream.
- `Reader.given_eq`: calls that do not restore give the tokens between the place before them and the place after them.
- `Reader.run_gives_tokens`: where a reader stands after any calls, and what it has given since it was last restored.
-/
import Mathlib.Data.List.DropRight
import Mathlib.Tactic
import TokenScanner.Reader

namespace TokenScanner.Reader

/-! ## Calls -/

/-- a call that moves a reader or notes its place -/
inductive Move where
  | advance
  | eat (kind : Kind)
  | expect (kind : Kind)
  | checkpoint
  | restore (c : Checkpoint)
  deriving DecidableEq, Repr

/-- the call restores a reader -/
def Move.restores : Move → Bool
  | restore _ => true
  | _ => false

/-- the token that a call gives, if it does, and the reader after it -/
def move (r : Reader) : Move → Option Token × Reader
  | .advance => r.advance
  | .eat kind => r.eat kind
  | .expect kind => ((r.expect kind).1.toOption, (r.expect kind).2)
  | .checkpoint => (none, r)
  | .restore c => (none, r.restore c)

/-- the reader after calls -/
def run : Reader → List Move → Reader
  | r, [] => r
  | r, m :: moves => (r.move m).2.run moves

/-- the tokens that calls give, in order -/
def given : Reader → List Move → List Token
  | _, [] => []
  | r, m :: moves => (r.move m).1.toList ++ (r.move m).2.given moves

/-- the calls up to the last that restores -/
def untilRestored (moves : List Move) : List Move :=
  moves.rdropWhile fun m => !m.restores

/-- the calls after the last that restores -/
def sinceRestored (moves : List Move) : List Move :=
  moves.rtakeWhile fun m => !m.restores

/-- the reader stands in its stream or at the end of it -/
def Sound (stream : TokenStream) (r : Reader) : Prop :=
  r.stream = stream ∧ r.position ≤ stream.tokens.length

variable {stream : TokenStream} {r : Reader} {moves : List Move}

theorem run_append (r : Reader) (front back : List Move) : r.run (front ++ back) = (r.run front).run back := by
  induction front generalizing r with
  | nil => rfl
  | cons m front ih => exact ih (r.move m).2

theorem untilRestored_append (moves : List Move) : untilRestored moves ++ sinceRestored moves = moves :=
  List.rdropWhile_append_rtakeWhile

theorem not_restores_of_mem {m : Move} (hm : m ∈ sinceRestored moves) : m.restores = false := by
  simpa using List.mem_rtakeWhile_imp hm

/-! ## What a call does -/

/-- the next token is given, and the reader stands behind it -/
def Gives (r : Reader) (m : Move) : Prop :=
  ∃ t, r.peek = some t ∧ r.move m = (some t, { r with position := r.position + 1 })

theorem advance_cases (r : Reader) : r.move .advance = (none, r) ∨ r.Gives .advance := by
  unfold Gives
  cases h : r.peek with
  | none => simp [move, advance, h]
  | some t => simp [move, advance, h]

theorem eat_cases (r : Reader) (kind : Kind) : r.move (.eat kind) = (none, r) ∨ r.Gives (.eat kind) := by
  simp only [Gives, move, eat]
  split
  · exact r.advance_cases
  · exact Or.inl rfl

theorem expect_cases (r : Reader) (kind : Kind) : r.move (.expect kind) = (none, r) ∨ r.Gives (.expect kind) := by
  unfold Gives
  cases h : r.peek with
  | none => simp [move, expect, h, Except.toOption]
  | some t =>
    by_cases hk : t.kind = kind
    · simp [move, expect, h, hk, Except.toOption]
    · simp [move, expect, h, hk, Except.toOption]

/-- **What a call does:** it restores, gives nothing and stays, or gives the next token and passes it. -/
theorem move_cases (r : Reader) (m : Move) :
    (∃ c, m = .restore c ∧ r.move m = (none, r.restore c)) ∨ r.move m = (none, r) ∨ r.Gives m := by
  cases m with
  | advance => exact Or.inr r.advance_cases
  | eat kind => exact Or.inr (r.eat_cases kind)
  | expect kind => exact Or.inr (r.expect_cases kind)
  | checkpoint => exact Or.inr (Or.inl rfl)
  | restore c => exact Or.inl ⟨c, rfl, rfl⟩

/-! ## Readers stay in their stream -/

theorem sound_ofStream (stream : TokenStream) : Sound stream (ofStream stream) :=
  ⟨rfl, Nat.zero_le _⟩

theorem Sound.restore (h : Sound stream r) (c : Checkpoint) : Sound stream (r.restore c) := by
  refine ⟨h.1, ?_⟩
  rw [← h.1]
  exact Nat.min_le_right _ _

theorem Sound.move (h : Sound stream r) (m : Move) : Sound stream (r.move m).2 := by
  rcases r.move_cases m with ⟨c, -, restored⟩ | stays | ⟨t, next, passed⟩
  · rw [restored]
    exact h.restore c
  · rwa [stays]
  · rw [passed]
    refine ⟨h.1, ?_⟩
    have inside : r.position < r.stream.tokens.length := (List.getElem?_eq_some_iff.1 next).1
    rw [h.1] at inside
    exact inside

theorem Sound.run (h : Sound stream r) (moves : List Move) : Sound stream (r.run moves) := by
  induction moves generalizing r with
  | nil => exact h
  | cons m moves ih => exact ih (h.move m)

/-- the tokens before the place and those that remain are all of them -/
theorem Sound.passed (h : Sound stream r) :
    ∃ passed, stream.tokens = passed ++ r.remaining ∧ passed.length = r.position := by
  refine ⟨stream.tokens.take r.position, ?_, ?_⟩
  · rw [remaining, h.1, List.take_append_drop]
  · rw [List.length_take, Nat.min_eq_left h.2]

/-- a place in the stream is restored as it is -/
theorem Sound.restore_checkpoint {q : Reader} (h : Sound stream r) (hq : Sound stream q) :
    r.restore q.checkpoint = q := by
  unfold Reader.restore checkpoint
  obtain ⟨s, n⟩ := q
  obtain ⟨rfl, inside⟩ := hq
  rw [h.1, Nat.min_eq_left inside]

theorem peek_eq_head? (r : Reader) : r.peek = r.remaining.head? := by
  rw [peek, remaining, List.head?_drop]

theorem atEnd_iff (r : Reader) : r.atEnd = true ↔ r.remaining = [] := by
  rw [atEnd, remaining, decide_eq_true_iff, List.drop_eq_nil_iff]

/-! ## What calls give -/

/-- a call that does not restore gives the tokens between the two places, of which there is one at most -/
theorem given_move (h : Sound stream r) {m : Move} (hm : m.restores = false) :
    r.position ≤ (r.move m).2.position ∧
      stream.tokens.take (r.move m).2.position = stream.tokens.take r.position ++ (r.move m).1.toList := by
  rcases r.move_cases m with ⟨c, rfl, -⟩ | stays | ⟨t, next, passed⟩
  · cases hm
  · rw [stays]
    exact ⟨le_rfl, (List.append_nil _).symm⟩
  · rw [passed]
    refine ⟨Nat.le_succ _, ?_⟩
    rw [peek, h.1] at next
    rw [List.take_add_one, next]

theorem take_run (h : Sound stream r) (hm : ∀ m ∈ moves, m.restores = false) :
    r.position ≤ (r.run moves).position ∧
      stream.tokens.take (r.run moves).position = stream.tokens.take r.position ++ r.given moves := by
  induction moves generalizing r with
  | nil => exact ⟨le_rfl, (List.append_nil _).symm⟩
  | cons m moves ih =>
    obtain ⟨first, taken⟩ := given_move h (hm m List.mem_cons_self)
    obtain ⟨later, others⟩ := ih (h.move m) fun m' hm' => hm m' (List.mem_cons_of_mem m hm')
    refine ⟨le_trans first later, ?_⟩
    rw [run, given, others, taken, List.append_assoc]

/-- **Calls that do not restore give the tokens between two places,** each once and in order. -/
theorem given_eq (h : Sound stream r) (hm : ∀ m ∈ moves, m.restores = false) :
    r.given moves = (stream.tokens.take (r.run moves).position).drop r.position := by
  obtain ⟨-, taken⟩ := take_run h hm
  have passed : (stream.tokens.take r.position).length = r.position := by
    rw [List.length_take, Nat.min_eq_left h.2]
  rw [taken]
  exact (List.drop_left' passed).symm

/-- **Readers give each token once.** After any calls on a new reader, restored to whatever places: it stands in its
stream, the tokens before its place and those that remain are all tokens, the next token is the first that remains, and
it is at the end just if none remains. The calls since it was last restored, or since the start, have given the tokens
between the place where it stood then and the place where it stands now. A place that was taken on a reader of the same
stream, after whatever calls, is restored as it was. -/
theorem run_gives_tokens (stream : TokenStream) (moves : List Move) :
    let r := (ofStream stream).run moves
    let restored := (ofStream stream).run (untilRestored moves)
    (r.stream = stream ∧ r.position ≤ stream.tokens.length) ∧
      (∃ passed, stream.tokens = passed ++ r.remaining ∧ passed.length = r.position) ∧
      r.peek = r.remaining.head? ∧
      (r.atEnd = true ↔ r.remaining = []) ∧
      (r = restored.run (sinceRestored moves) ∧ restored.position ≤ r.position ∧
        restored.given (sinceRestored moves) = (stream.tokens.take r.position).drop restored.position) ∧
      ∀ others, r.restore ((ofStream stream).run others).checkpoint = (ofStream stream).run others := by
  intro r restored
  have reached : Sound stream r := (sound_ofStream stream).run moves
  have before : Sound stream restored := (sound_ofStream stream).run _
  have since : r = restored.run (sinceRestored moves) := by
    rw [← run_append, untilRestored_append]
  refine ⟨reached, reached.passed, r.peek_eq_head?, r.atEnd_iff, ⟨since, ?_, ?_⟩, fun others => ?_⟩
  · rw [since]
    exact (take_run before fun m hm => not_restores_of_mem hm).1
  · rw [since]
    exact given_eq before fun m hm => not_restores_of_mem hm
  · exact reached.restore_checkpoint ((sound_ofStream stream).run others)

end TokenScanner.Reader
