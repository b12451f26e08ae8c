/-
The lexical grammar.

What a lexer may take off an input is said here by the shape of the lexemes: the longest run of digits, the longest run
of name characters, a line break, the two forms of literals, the entries of the tables (`Stage.Gives`). The first stage
that gives something decides; where none does, the input starts with an error as long as the recovery says
(`Lexer.Begins`). A lexer classifies by this grammar, in both directions.

- `longest_iff`: the longest run at the start of an input is what is taken while the characters are of the class.
- `Stage.take?_eq_some_iff`: a stage finds what the grammar gives.
- `Lexer.classify_iff_begins`: a lexer answers with what the input begins with, and with its width.
-/
import TokenScanner.Proofs.Stages

namespace TokenScanner

variable {lexer : Lexer} {input lexeme : List Char} {kind : Kind} {stage : Stage}

/-! ## Runs -/

/-- the text starts the input, is of that class, and no longer text is both -/
structure Longest (p : Char → Prop) (input text : List Char) : Prop where
  start : text <+: input
  all : ∀ c ∈ text, p c
  maximal : ∀ other, other <+: input → (∀ c ∈ other, p c) → other.length ≤ text.length

theorem longest_takeWhile {p : Char → Bool} (input : List Char) :
    Longest (fun c => p c = true) input (input.takeWhile p) where
  start := List.takeWhile_prefix p
  all := fun _ hc => List.mem_takeWhile_imp hc
  maximal := by
    intro other start all
    obtain ⟨rest, rfl⟩ := start
    rw [List.takeWhile_append_of_pos all, List.length_append]
    exact Nat.le_add_right _ _

theorem longest_iff {p : Char → Bool} : Longest (fun c => p c = true) input lexeme ↔ lexeme = input.takeWhile p := by
  constructor
  · intro h
    have run := longest_takeWhile (p := p) input
    have lengths : lexeme.length = (input.takeWhile p).length :=
      Nat.le_antisymm (run.maximal lexeme h.start h.all) (h.maximal _ run.start run.all)
    exact (List.prefix_of_prefix_length_le h.start run.start lengths.le).eq_of_length lengths
  · rintro rfl
    exact longest_takeWhile input

/-! ## The classes of characters -/

theorem isDigit_eq (c : Char) : isDigit c = c.isDigit := rfl

theorem isNameStart_iff (c : Char) : isNameStart c = true ↔ c.isAlpha = true ∨ c = '_' := by
  have upper : (decide ('A' ≤ c) && decide (c ≤ 'Z')) = c.isUpper := (Bool.decide_and _ _).symm
  have lower : (decide ('a' ≤ c) && decide (c ≤ 'z')) = c.isLower := rfl
  have letter : (c.isUpper || c.isLower) = c.isAlpha := rfl
  rw [isNameStart, upper, lower, Bool.or_comm c.isLower, letter, Bool.or_eq_true, beq_iff_eq]

theorem isNamePart_iff (c : Char) : isNamePart c = true ↔ c.isAlphanum = true ∨ c = '_' := by
  have either : (c.isAlpha || c.isDigit) = c.isAlphanum := rfl
  rw [isNamePart, Bool.or_eq_true, isNameStart_iff, isDigit_eq, or_right_comm, ← Bool.or_eq_true, either]

theorem isNamePart_of_isNameStart {c : Char} (h : isNameStart c = true) : isNamePart c = true :=
  Bool.or_eq_true_iff.2 (Or.inl h)

theorem isQuotable_iff (c : Char) : isQuotable c = true ↔ c ≠ '"' ∧ c ≠ '\n' := by
  rw [isQuotable, Bool.and_eq_true, bne_iff_ne, bne_iff_ne]

theorem longest_digits_iff : Longest (fun c => c.isDigit = true) input lexeme ↔ lexeme = input.takeWhile isDigit :=
  longest_iff

theorem longest_name_iff :
    Longest (fun c => c.isAlphanum = true ∨ c = '_') input lexeme ↔ lexeme = input.takeWhile isNamePart := by
  simp only [← isNamePart_iff, longest_iff]

/-! ## What the stages give -/

/-- the kinds and the lexemes that a stage gives for an input -/
inductive Stage.Gives (lexer : Lexer) (input : List Char) : Stage → Kind → List Char → Prop where
  /-- the longest run of digits, if there is one -/
  | digits {run : List Char} (used : .digits ∈ lexer.patterns) (longest : Longest (fun c => c.isDigit = true) input run)
    (nonempty : run ≠ []) : Gives lexer input (.pattern .digits) .digits run
  /-- the longest run of letters, digits and underscores, if it does not start with a digit -/
  | ident {c : Char} {tail run : List Char} (used : .ident ∈ lexer.patterns) (start : input = c :: tail)
    (first : c.isAlpha = true ∨ c = '_') (longest : Longest (fun c => c.isAlphanum = true ∨ c = '_') input run) :
    Gives lexer input (.pattern .ident) .ident run
  /-- a line break -/
  | newline {rest : List Char} (used : .newline ∈ lexer.patterns) (start : input = '\n' :: rest) :
    Gives lexer input (.pattern .newline) (.symbol .newline) ['\n']
  /-- two single quotes -/
  | emptyLiteral {rest : List Char} (used : .singleQuoted ∈ lexer.patterns) (start : input = '\'' :: '\'' :: rest) :
    Gives lexer input (.pattern .singleQuoted) .singleQuoted ['\'', '\'']
  /-- a character between two single quotes, neither a single quote nor a line break -/
  | literal {c : Char} {rest : List Char} (used : .singleQuoted ∈ lexer.patterns)
    (start : input = '\'' :: c :: '\'' :: rest) (quote : c ≠ '\'') (unbroken : c ≠ '\n') :
    Gives lexer input (.pattern .singleQuoted) .singleQuoted ['\'', c, '\'']
  /-- a double quote and all up to the next one, if that comes before a line break -/
  | string {body rest : List Char} (used : .doubleQuoted ∈ lexer.patterns)
    (start : input = '"' :: (body ++ '"' :: rest)) (next : '"' ∉ body) (unbroken : '\n' ∉ body) :
    Gives lexer input (.pattern .doubleQuoted) .doubleQuoted ('"' :: (body ++ ['"']))
  /-- the entry of the table of two-character symbols that the input starts with -/
  | twoChar {s : Symbol} (listed : s ∈ lexer.twoChar.symbols) (start : s.lexeme <+: input) :
    Gives lexer input .twoChar (.symbol s) s.lexeme
  /-- the entry of the table of one-character symbols that the input starts with -/
  | oneChar {s : Symbol} (listed : s ∈ lexer.oneChar.symbols) (start : s.lexeme <+: input) :
    Gives lexer input .oneChar (.symbol s) s.lexeme

theorem Stage.gives_of_take? (h : stage.take? lexer input = some (kind, lexeme)) :
    stage.Gives lexer input kind lexeme := by
  cases stage with
  | pattern p =>
    obtain ⟨used, taken, rfl⟩ := take?_pattern.1 h
    cases p with
    | digits =>
      obtain ⟨run, nonempty⟩ := Pattern.digits?_eq_some_iff.1 taken
      exact .digits used (longest_digits_iff.2 run) nonempty
    | ident =>
      obtain ⟨c, rest, rfl, first, rfl⟩ := Pattern.ident?_eq_some_iff.1 taken
      have run : c :: rest.takeWhile isNamePart = (c :: rest).takeWhile isNamePart := by
        rw [List.takeWhile_cons_of_pos (isNamePart_of_isNameStart first)]
      exact .ident used rfl ((isNameStart_iff c).1 first) (longest_name_iff.2 run)
    | newline =>
      obtain ⟨rest, rfl, rfl⟩ := Pattern.newline?_eq_some_iff.1 taken
      exact .newline used rfl
    | singleQuoted =>
      obtain ⟨rest, rfl, rfl⟩ | ⟨c, rest, quote, unbroken, rfl, rfl⟩ := Pattern.singleQuoted?_eq_some_iff.1 taken
      · exact .emptyLiteral used rfl
      · exact .literal used rfl quote unbroken
    | doubleQuoted =>
      obtain ⟨body, rest, inside, rfl, rfl⟩ := Pattern.doubleQuoted?_eq_some_iff.1 taken
      exact .string used rfl (fun hm => ((isQuotable_iff _).1 (inside _ hm)).1 rfl)
        fun hm => ((isQuotable_iff _).1 (inside _ hm)).2 rfl
  | twoChar =>
    obtain ⟨s, listed, start, rfl, rfl⟩ := take?_twoChar.1 h
    exact .twoChar listed start
  | oneChar =>
    obtain ⟨s, listed, start, rfl, rfl⟩ := take?_oneChar.1 h
    exact .oneChar listed start

theorem Stage.Gives.take?_eq (h : stage.Gives lexer input kind lexeme) :
    stage.take? lexer input = some (kind, lexeme) := by
  cases h with
  | digits used longest nonempty =>
    exact take?_pattern.2 ⟨used, Pattern.digits?_eq_some_iff.2 ⟨longest_digits_iff.1 longest, nonempty⟩, rfl⟩
  | @ident c tail _ used start first longest =>
    have first : isNameStart c = true := (isNameStart_iff c).2 first
    have run := longest_name_iff.1 longest
    rw [start, List.takeWhile_cons_of_pos (isNamePart_of_isNameStart first)] at run
    exact take?_pattern.2 ⟨used, Pattern.ident?_eq_some_iff.2 ⟨c, tail, start, first, run⟩, rfl⟩
  | newline used start =>
    exact take?_pattern.2 ⟨used, Pattern.newline?_eq_some_iff.2 ⟨_, start, rfl⟩, rfl⟩
  | emptyLiteral used start =>
    exact take?_pattern.2 ⟨used, Pattern.singleQuoted?_eq_some_iff.2 (Or.inl ⟨_, start, rfl⟩), rfl⟩
  | literal used start quote unbroken =>
    have taken := Pattern.singleQuoted?_eq_some_iff.2 (Or.inr ⟨_, _, quote, unbroken, start, rfl⟩)
    exact take?_pattern.2 ⟨used, taken, rfl⟩
  | @string body rest used start next unbroken =>
    have inside : ∀ c ∈ body, isQuotable c = true := by
      intro c hc
      exact (isQuotable_iff c).2 ⟨fun he => next (he ▸ hc), fun he => unbroken (he ▸ hc)⟩
    exact take?_pattern.2 ⟨used, Pattern.doubleQuoted?_eq_some_iff.2 ⟨body, rest, inside, start, rfl⟩, rfl⟩
  | twoChar listed start => exact take?_twoChar.2 ⟨_, listed, start, rfl, rfl⟩
  | oneChar listed start => exact take?_oneChar.2 ⟨_, listed, start, rfl, rfl⟩

/-- **A stage finds what the grammar gives.** -/
theorem Stage.take?_eq_some_iff :
    stage.take? lexer input = some (kind, lexeme) ↔ stage.Gives lexer input kind lexeme :=
  ⟨gives_of_take?, Gives.take?_eq⟩

/-- no stage finds anything in the empty input -/
theorem Stage.ne_nil_of_take? (h : stage.take? lexer input = some (kind, lexeme)) : input ≠ [] := by
  rintro rfl
  rcases take?_cases h with ⟨p, -, taken, -⟩ | ⟨-, s, start, -⟩
  · obtain ⟨c, rest, empty⟩ := Pattern.exists_cons_of_match? taken
    cases empty
  · exact s.lexeme_ne_nil (List.prefix_nil.1 start)

/-- the stage gives something for the input -/
def Stage.Applies (lexer : Lexer) (input : List Char) (stage : Stage) : Prop :=
  ∃ kind lexeme, stage.Gives lexer input kind lexeme

theorem Stage.take?_eq_none_iff : stage.take? lexer input = none ↔ ¬ stage.Applies lexer input := by
  rw [Option.eq_none_iff_forall_ne_some]
  constructor
  · rintro h ⟨kind, lexeme, given⟩
    exact h (kind, lexeme) (take?_eq_some_iff.2 given)
  · rintro h ⟨kind, lexeme⟩ found
    exact h ⟨kind, lexeme, take?_eq_some_iff.1 found⟩

/-- no stage finds anything where none applies -/
theorem Stage.findSome?_eq_none_iff :
    all.findSome? (take? lexer input) = none ↔ ∀ stage : Stage, ¬ stage.Applies lexer input := by
  rw [List.findSome?_eq_none_iff]
  exact ⟨fun h stage => take?_eq_none_iff.1 (h stage stage.mem_all), fun h stage _ => take?_eq_none_iff.2 (h stage)⟩

/-! ## What an input begins with -/

/-- the kind and the lexeme that an input begins with -/
inductive Lexer.Begins (lexer : Lexer) (input : List Char) : Kind → List Char → Prop where
  /-- what the first stage that applies gives -/
  | stage {before after : List Stage} {stage : Stage} {kind : Kind} {lexeme : List Char}
    (order : Stage.all = before ++ stage :: after) (earlier : ∀ other ∈ before, ¬ other.Applies lexer input)
    (given : stage.Gives lexer input kind lexeme) : Begins lexer input kind lexeme
  /-- where no stage applies, one character -/
  | character {c : Char} {rest : List Char} (nothing : ∀ stage : Stage, ¬ stage.Applies lexer input)
    (start : input = c :: rest) (recovery : lexer.recovery = .singleChar) : Begins lexer input .error [c]
  /-- or all that there is -/
  | remainder (nothing : ∀ stage : Stage, ¬ stage.Applies lexer input) (nonempty : input ≠ [])
    (recovery : lexer.recovery = .remainder) : Begins lexer input .error input

namespace Lexer

/-- what the stages find is what the input begins with -/
theorem begins_of_findSome? (h : Stage.all.findSome? (Stage.take? lexer input) = some (kind, lexeme)) :
    lexer.Begins input kind lexeme := by
  obtain ⟨before, stage, after, order, found, earlier⟩ := List.findSome?_eq_some_iff.1 h
  exact .stage order (fun other ho => Stage.take?_eq_none_iff.1 (earlier other ho)) (Stage.gives_of_take? found)

/-- where they find nothing, the input begins with an error -/
theorem begins_of_findSome?_none (h : Stage.all.findSome? (Stage.take? lexer input) = none) (hne : input ≠ []) :
    ∃ lexeme, lexer.Begins input .error lexeme ∧ lexer.recovery.width input = Text.byteWidth lexeme := by
  have nothing := Stage.findSome?_eq_none_iff.1 h
  obtain ⟨c, rest, rfl⟩ := List.exists_cons_of_ne_nil hne
  cases hr : lexer.recovery with
  | singleChar => exact ⟨[c], .character nothing rfl hr, rfl⟩
  | remainder => exact ⟨c :: rest, .remainder nothing hne hr, rfl⟩

theorem Begins.classify (h : lexer.Begins input kind lexeme) :
    lexer.classify input = some (kind, Text.byteWidth lexeme) := by
  cases h with
  | @stage before after stage _ _ order earlier given =>
    have found := given.take?_eq
    have first : Stage.all.findSome? (Stage.take? lexer input) = some (kind, lexeme) :=
      List.findSome?_eq_some_iff.2
        ⟨before, stage, after, order, found, fun other ho => Stage.take?_eq_none_iff.2 (earlier other ho)⟩
    rw [← classifyBy_all, classifyBy, first, if_neg (by simpa using Stage.ne_nil_of_take? found)]
  | character nothing start recovery =>
    subst start
    rw [← classifyBy_all, classifyBy, Stage.findSome?_eq_none_iff.2 nothing, recovery]
    rfl
  | remainder nothing nonempty recovery =>
    rw [← classifyBy_all, classifyBy, Stage.findSome?_eq_none_iff.2 nothing, recovery, if_neg (by simpa using nonempty)]
    rfl

/-- **A lexer classifies by the grammar.** It has no answer for the empty input alone. For any other it answers with
what the input begins with: the longest run of digits; else the longest run of name characters, if it starts with a
letter or an underscore; else a line break, a literal in single quotes or one in double quotes; all these only if their
patterns are in use; else the entry of a table, one of two characters first; else an error of one character or of all
that there is. -/
theorem classify_iff_begins (lexer : Lexer) (input : List Char) :
    (lexer.classify input = none ↔ input = []) ∧
      ∀ kind width, lexer.classify input = some (kind, width) ↔
        ∃ lexeme, lexer.Begins input kind lexeme ∧ width = Text.byteWidth lexeme := by
  refine ⟨classify_eq_none_iff, fun kind width => ⟨fun h => ?_, ?_⟩⟩
  · have hne : input ≠ [] := by
      intro empty
      rw [classify_eq_none_iff.2 empty] at h
      cases h
    rw [← classifyBy_all, classifyBy, if_neg (by simpa using hne)] at h
    cases hf : Stage.all.findSome? (Stage.take? lexer input) with
    | some found =>
      obtain ⟨kind', lexeme⟩ := found
      rw [hf] at h
      cases h
      exact ⟨lexeme, begins_of_findSome? hf, rfl⟩
    | none =>
      obtain ⟨lexeme, begins, hw⟩ := begins_of_findSome?_none hf hne
      rw [hf] at h
      cases h
      exact ⟨lexeme, begins, hw⟩
  · rintro ⟨lexeme, begins, rfl⟩
    exact begins.classify

/-- of three single quotes the first two are a literal -/
example : standard.classify ['\'', '\'', '\''] = some (.singleQuoted, 2) := by decide +kernel

end Lexer

end TokenScanner
