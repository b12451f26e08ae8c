/-
Messages on one line.

A message shows the start of a lexeme, and dots where there is more of it. Whether there is more is told by the widths
in bytes, which comes to the same as counting the characters, since each character is at least one byte wide. What is
shown is escaped, so it has no line break, and neither do the words and the numbers around it; a file may have one in
its name. A line of the standard error ends with its notice, so a notice without a line break is one line there.

- `Text.unbroken_escape`: escaped text is on one line.
- `Diagnostic.shown_eq`: the dots stand where the lexeme has more characters than are shown.
- `Diagnostic.unbroken_message`, `Diagnostic.unbroken_text`: messages are on one line, and so is a diagnostic whose file
  has a name on one line.
- `Command.Outcome.splitOn_stderr`: the lines of the standard error, notice by notice.
- `Command.messages_on_one_line`: messages and the lines that they are printed on.
-/
import TokenScanner.Archiver.Plain
import TokenScanner.Proofs.Listing

namespace TokenScanner

/-! ## Text on one line -/

namespace Text

/-- no line ends in the text -/
def Unbroken (text : List Char) : Prop :=
  ∀ c ∈ text, c ≠ '\n' ∧ c ≠ '\r'

instance (text : List Char) : Decidable (Unbroken text) :=
  List.decidableBAll (fun c => c ≠ '\n' ∧ c ≠ '\r') text

theorem unbroken_append {a b : List Char} : Unbroken (a ++ b) ↔ Unbroken a ∧ Unbroken b :=
  List.forall_mem_append

theorem unbroken_iff {text : List Char} : Unbroken text ↔ '\n' ∉ text ∧ '\r' ∉ text := by
  constructor
  · intro h
    exact ⟨fun hm => (h '\n' hm).1 rfl, fun hm => (h '\r' hm).2 rfl⟩
  · rintro ⟨feed, carriage⟩ c hc
    constructor
    · rintro rfl
      exact feed hc
    · rintro rfl
      exact carriage hc

theorem unbroken_escapeChar (quotes : List Char) (extenders : Bool) (c : Char) :
    Unbroken (escapeChar quotes extenders c) :=
  unbroken_iff.2 (escapeChar_single_line quotes extenders c)

/-- escaped text is on one line -/
theorem unbroken_escape (text : List Char) : Unbroken (escape text) := by
  cases text with
  | nil => exact List.forall_mem_nil _
  | cons c rest =>
    refine unbroken_append.2 ⟨unbroken_escapeChar _ _ c, ?_⟩
    intro d hd
    obtain ⟨e, -, shown⟩ := List.mem_flatMap.1 hd
    exact unbroken_escapeChar _ _ e d shown

theorem unbroken_toString (n : UInt32) : Unbroken (toString n).toList := by
  intro c hc
  have digits : (toString n).toList = Nat.toDigits 10 n.toNat := Nat.toList_repr
  have digit : c.isDigit = true := all_isDigit_toDigits n.toNat c (digits ▸ hc)
  constructor
  · rintro rfl
    exact absurd digit (by decide)
  · rintro rfl
    exact absurd digit (by decide)

end Text

/-! ## Diagnostics -/

namespace Diagnostic

open Text (Unbroken unbroken_append)

variable {d : Diagnostic}

/-- **Dots stand where there is more:** the widths in bytes tell whether a lexeme has more characters than are shown. -/
theorem shown_eq (lexeme : List Char) : shown lexeme =
    Text.escape (lexeme.take shownWidth) ++ if shownWidth < lexeme.length then "...".toList else [] := by
  simp only [shown, Text.byteWidth_take_lt_iff]

/-- the fault is told by what is shown -/
theorem Fault.ofLexeme_take (lexeme : List Char) : ofLexeme (lexeme.take shownWidth) = ofLexeme lexeme := by
  cases lexeme with
  | nil => rfl
  | cons c rest =>
    rw [shownWidth, List.take_succ_cons]
    by_cases single : c = '\''
    · subst single
      rfl
    by_cases double : c = '"'
    · subst double
      rfl
    simp [ofLexeme, single, double]

theorem unbroken_shown (lexeme : List Char) : Unbroken (shown lexeme) := by
  rw [shown_eq]
  refine unbroken_append.2 ⟨Text.unbroken_escape _, ?_⟩
  split
  · decide
  · decide

theorem Fault.unbroken_words (f : Fault) : Unbroken f.words.toList := by
  cases f with
  | unrecognizedInput => decide
  | unterminatedLiteral => decide

/-- a message, part by part -/
theorem message_eq (d : Diagnostic) :
    d.message = d.fault.words ++ " `" ++ String.ofList (shown d.lexeme.toList) ++ "`" := rfl

/-- a diagnostic, part by part -/
theorem text_eq (d : Diagnostic) :
    d.text = d.file ++ ":" ++ toString d.line ++ ":" ++ toString d.column ++ ": " ++ d.message := rfl

/-- **A message is on one line,** whatever the lexeme. -/
theorem unbroken_message (d : Diagnostic) : Unbroken d.message.toList := by
  rw [message_eq]
  simp only [String.toList_append, String.toList_ofList, unbroken_append]
  exact ⟨⟨⟨d.fault.unbroken_words, by decide⟩, unbroken_shown _⟩, by decide⟩

/-- a diagnostic is on one line if the name of its file is -/
theorem unbroken_text (file : Unbroken d.file.toList) : Unbroken d.text.toList := by
  have line : Unbroken (toString d.line).toList := Text.unbroken_toString d.line
  have column : Unbroken (toString d.column).toList := Text.unbroken_toString d.column
  rw [text_eq]
  simp only [String.toList_append, unbroken_append, file, line, column, d.unbroken_message, and_true, true_and]
  decide

/-- the message of a token, part by part -/
theorem message_ofToken (t : Token) : (ofToken t).message = (Fault.ofLexeme t.lexeme.toList).words ++ " `" ++
    String.ofList (Text.escape (t.lexeme.toList.take shownWidth)) ++
    (if shownWidth < t.lexeme.toList.length then "..." else "") ++ "`" := by
  have dots : String.ofList (if shownWidth < t.lexeme.toList.length then "...".toList else []) =
      if shownWidth < t.lexeme.toList.length then "..." else "" := by
    split
    next => rfl
    next => rfl
  calc (ofToken t).message
      = (Fault.ofLexeme t.lexeme.toList).words ++ " `" ++ String.ofList (shown t.lexeme.toList) ++ "`" := message_eq _
    _ = (Fault.ofLexeme t.lexeme.toList).words ++ " `" ++
          (String.ofList (Text.escape (t.lexeme.toList.take shownWidth)) ++
            if shownWidth < t.lexeme.toList.length then "..." else "") ++ "`" := by
      rw [shown_eq, String.ofList_append, dots]
    _ = _ := by rw [← String.append_assoc]

/-- tokens with long lexemes that start alike make the same message -/
theorem message_ofToken_congr {t u : Token} (ht : shownWidth < t.lexeme.toList.length)
    (hu : shownWidth < u.lexeme.toList.length)
    (same : t.lexeme.toList.take shownWidth = u.lexeme.toList.take shownWidth) :
    (ofToken t).message = (ofToken u).message := by
  have fault : Fault.ofLexeme t.lexeme.toList = Fault.ofLexeme u.lexeme.toList := by
    rw [← Fault.ofLexeme_take, same, Fault.ofLexeme_take]
  rw [message_ofToken, message_ofToken, fault, same, if_pos ht, if_pos hu]

end Diagnostic

/-! ## Lines of the standard error -/

namespace Command

open Text (Unbroken unbroken_append)

/-- the lines of the standard error are those of its notices, and nothing behind the last line break -/
theorem Outcome.splitOn_stderr (outcome : Outcome) :
    outcome.stderr.toList.splitOn '\n' =
      (outcome.notices.flatMap fun n => n.text.toList.splitOn '\n') ++ [[]] := by
  rw [stderr, toList_join_lines]
  generalize outcome.notices = notices
  induction notices with
  | nil => exact List.splitOn_nil '\n'
  | cons n rest ih =>
    rw [List.flatMap_cons, List.append_assoc, List.singleton_append, List.splitOn_append_cons_self, ih,
      List.flatMap_cons, List.append_assoc]

/-- the notice of a diagnostic is on one line if the name of its file is -/
theorem Notice.unbroken_text_found (level : Level) {d : Diagnostic} (file : Unbroken d.file.toList) :
    Unbroken (Notice.found level d).text.toList := by
  have parts : (Notice.found level d).text = level.word ++ ": " ++ d.text := rfl
  have word : Unbroken level.word.toList := by
    cases level with
    | warning => decide
    | error => decide
  rw [parts]
  simp only [String.toList_append, unbroken_append]
  exact ⟨⟨word, by decide⟩, Diagnostic.unbroken_text file⟩

/-- **A message is one line, and shortened exactly when needed.** The message of a token, whatever its lexeme, shows the
first 32 characters of it, escaped, between backquotes; three dots stand behind them if and only if the lexeme has more
characters. No line ends in a message, and tokens whose lexemes have more than these and start with the same have one
message. So the notice of a diagnostic is one line of the standard error if no line ends in the name of its file. -/
theorem messages_on_one_line :
    (∀ t : Token, (Diagnostic.ofToken t).message = (Diagnostic.Fault.ofLexeme t.lexeme.toList).words ++ " `" ++
        String.ofList (Text.escape (t.lexeme.toList.take 32)) ++
        (if 32 < t.lexeme.toList.length then "..." else "") ++ "`" ∧
      Unbroken (Diagnostic.ofToken t).message.toList) ∧
    (∀ t u : Token, 32 < t.lexeme.toList.length → 32 < u.lexeme.toList.length →
      t.lexeme.toList.take 32 = u.lexeme.toList.take 32 →
      (Diagnostic.ofToken t).message = (Diagnostic.ofToken u).message) ∧
    ∀ (o : Options) (w : World),
      (run o w).stderr.toList.splitOn '\n' =
        ((run o w).notices.flatMap fun n => n.text.toList.splitOn '\n') ++ [[]] ∧
      ∀ level d, .found level d ∈ (run o w).notices → Unbroken d.file.toList →
        Unbroken (Notice.found level d).text.toList ∧
        (Notice.found level d).text.toList.splitOn '\n' = [(Notice.found level d).text.toList] := by
  refine ⟨fun t => ⟨Diagnostic.message_ofToken t, Diagnostic.unbroken_message _⟩,
    fun t u ht hu same => Diagnostic.message_ofToken_congr ht hu same, fun o w => ⟨(run o w).splitOn_stderr, ?_⟩⟩
  intro level d _ file
  have unbroken := Notice.unbroken_text_found level file
  exact ⟨unbroken, List.splitOn_eq_singleton (Text.unbroken_iff.1 unbroken).1⟩

/-- two literals that go on differently behind 32 characters, a lexeme of just 32, and a run that takes all of its input
for one token -/
theorem messages_on_one_line_remainder :
    let t : Token := ⟨"a.st", 1, 1, "'\r\nééééééééééééééééééééééééééééé\n", .error⟩
    let u : Token := ⟨"b.st", 7, 1, "'\r\néééééééééééééééééééééééééééééab", .error⟩
    let v : Token := ⟨"b.st", 9, 1, "@\r\nééééééééééééééééééééééééééééé", .error⟩
    let w : World :=
      ⟨fun _ => .ok "\x7b\"recovery\":\"remainder\"\x7d".toUTF8, fun _ => none, .ok "@\n'\r".toUTF8, .plain⟩
    let o : Options := ⟨["-"], some "c.json", .text, none, false, true, false⟩
    let d : Diagnostic := ⟨.unrecognizedInput, "<stdin>", 1, 1, "@\n'\r"⟩
    32 < t.lexeme.toList.length ∧ 32 < u.lexeme.toList.length ∧
    t.lexeme.toList.take 32 = u.lexeme.toList.take 32 ∧
    (Diagnostic.ofToken t).message = (Diagnostic.ofToken u).message ∧
    (Diagnostic.ofToken v).message = "unrecognized input `@\\r\\nééééééééééééééééééééééééééééé`" ∧
    .found .warning d ∈ (run o w).notices ∧ Unbroken d.file.toList ∧
    (run o w).stderr.toList.splitOn '\n' =
      ["warning: <stdin>:1:1: unrecognized input `@\\n\\'\\r`".toList, []] := by
  intro t u v w o d
  obtain ⟨messages, alike, lines⟩ := messages_on_one_line
  have ht : 32 < t.lexeme.toList.length := by decide +kernel
  have hu : 32 < u.lexeme.toList.length := by decide +kernel
  have same : t.lexeme.toList.take 32 = u.lexeme.toList.take 32 := by decide +kernel
  have notices : (run o w).notices = [.found .warning d] := by decide +kernel
  have listed : .found .warning d ∈ (run o w).notices := by
    rw [notices]
    exact List.mem_singleton_self _
  have file : Unbroken d.file.toList := by decide
  refine ⟨ht, hu, same, alike t u ht hu same, ?_, listed, file, ?_⟩
  · rw [(messages v).1]
    decide +kernel
  · obtain ⟨whole, single⟩ := lines o w
    rw [whole, notices, List.flatMap_singleton, (single .warning d listed file).2]
    decide +kernel

end Command

end TokenScanner
