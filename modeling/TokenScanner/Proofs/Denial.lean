/-
Errors that are denied.

A run that is to deny errors looks at the diagnostics of its streams. These leave out the closing quotes, so there may
be fewer of them than of unrecognized tokens; but the first unrecognized token of a stream is always among them. So the
run fails just if some stream holds an unrecognized token. It has done all its work by then: nothing but the exit code,
the word before each diagnostic and the last notice tells it from a run that does not deny errors.

- `diagnose_eq_nil_iff`: a stream without diagnostics is one without unrecognized tokens.
- `run_denying`: how a run exits, and what it says when it exits with 1.
-/
import TokenScanner.Proofs.Archiving
import TokenScanner.Proofs.Course
import TokenScanner.Proofs.Reporting

namespace TokenScanner

/-! ## Streams without diagnostics -/

theorem diagnose_eq_nil_iff {s : TokenStream} : diagnose s = [] ↔ s.errors = [] := by
  rw [diagnose, List.map_eq_nil_iff]
  cases s.errors with
  | nil => rfl
  | cons t rest => simp only [reported_none_cons, reduceCtorEq]

theorem diagnose_ne_nil_iff {s : TokenStream} : diagnose s ≠ [] ↔ ∃ t ∈ s.tokens, t.kind = .error := by
  simp [diagnose_eq_nil_iff, TokenStream.errors, Token.isError, List.filter_eq_nil_iff]

theorem length_diagnose_le (s : TokenStream) : (diagnose s).length ≤ s.errors.length := by
  rw [diagnose, List.length_map]
  exact (reported_sublist none s.errors).length_le

namespace Command

variable {o : Options} {w : World} {streams : List TokenStream}

theorem diagnostics_ne_nil_iff :
    streams.flatMap diagnose ≠ [] ↔ ∃ s ∈ streams, ∃ t ∈ s.tokens, t.kind = .error := by
  rw [Ne, List.flatMap_eq_nil_iff]
  push Not
  simp only [diagnose_ne_nil_iff]

theorem length_diagnostics_le (streams : List TokenStream) :
    (streams.flatMap diagnose).length ≤ (streams.flatMap TokenStream.errors).length := by
  induction streams with
  | nil => exact Nat.le_refl 0
  | cons s rest ih =>
    rw [List.flatMap_cons, List.flatMap_cons, List.length_append, List.length_append]
    exact Nat.add_le_add (length_diagnose_le s) ih

/-! ## Denial -/

theorem denialNotices_of_denied (denied : o.denyErrors = true ∧ streams.flatMap diagnose ≠ []) :
    denialNotices o streams = [.failed (.errorsDenied (streams.flatMap diagnose).length)] := by
  rw [denialNotices, if_pos]
  simpa using denied

theorem denialNotices_of_not_denied (free : ¬ (o.denyErrors = true ∧ streams.flatMap diagnose ≠ [])) :
    denialNotices o streams = [] := by
  rw [denialNotices, if_neg]
  simpa using free

/-- the last words of a run that denies errors -/
theorem text_errorsDenied (count : Nat) :
    (Notice.failed (.errorsDenied count)).text = s!"Error: {count} lexical error(s)" := by
  show "Error: " ++ (toString count ++ " lexical error(s)") ++ "" = "Error: " ++ toString count ++ " lexical error(s)"
  rw [String.append_empty, String.append_assoc]

theorem Outcome.stderr_concat {out : Outcome} {before : List Notice} {n : Notice} (h : out.notices = before ++ [n]) :
    out.stderr = String.join (before.map fun n => n.text ++ "\n") ++ n.text ++ "\n" := by
  have nothing : String.join [] = "" := rfl
  rw [stderr, h, List.map_append, String.join_append, List.map_singleton, String.join_cons, nothing,
    String.append_empty, ← String.append_assoc]

section

variable {lexer : Lexer} {sources : List Source} (configures : w.Configures o.config lexer)
  (reads : w.Reads w.input o.files sources)

include configures reads

/-- what is denied has no part in what is printed and written -/
theorem effects_without_denial :
    (run o w).stdout = (run { o with denyErrors := false } w).stdout ∧
      (run o w).archive = (run { o with denyErrors := false } w).archive := by
  have stdout : (run { o with denyErrors := false } w).stdout = _ := stdout_of_reads configures reads
  have archive : (run { o with denyErrors := false } w).archive = _ := archive_of_reads configures reads
  rw [stdout_of_reads configures reads, archive_of_reads configures reads, stdout, archive]
  exact ⟨rfl, rfl⟩

variable (archives : ∀ path ∈ o.archive, w.Archives path (scanned lexer sources))

include archives

theorem exit_of_denied (denied : o.denyErrors = true ∧ (scanned lexer sources).flatMap diagnose ≠ []) :
    (run o w).exit = 1 := by
  obtain ⟨archive, archived⟩ := exists_archiving archives
  rw [run_of_reads configures reads, conclude_of_ok archived, denialNotices_of_denied denied]
  rfl

theorem exit_of_not_denied (free : ¬ (o.denyErrors = true ∧ (scanned lexer sources).flatMap diagnose ≠ [])) :
    (run o w).exit = 0 := by
  obtain ⟨archive, archived⟩ := exists_archiving archives
  rw [run_of_reads configures reads, conclude_of_ok archived, denialNotices_of_not_denied free]
  rfl

/-- a run that denies errors ends with their number, which is the number of its diagnostics -/
theorem notices_of_denied (denied : o.denyErrors = true ∧ (scanned lexer sources).flatMap diagnose ≠ []) :
    ∃ before count, (run o w).notices = before ++ [.failed (.errorsDenied count)] ∧
      count = ((run o w).notices.filter Notice.isFound).length ∧
      count = ((scanned lexer sources).flatMap diagnose).length := by
  obtain ⟨archive, archived⟩ := exists_archiving archives
  have notices : (run o w).notices = scanningNotices o lexer sources ++ diagnosticNotices o (scanned lexer sources) ++
      archivedNotices o ++ [.failed (.errorsDenied ((scanned lexer sources).flatMap diagnose).length)] := by
    rw [run_of_reads configures reads, conclude_of_ok archived, denialNotices_of_denied denied]
  refine ⟨_, _, notices, ?_, rfl⟩
  rw [filter_isFound_run configures reads, diagnosticNotices, List.length_map]

end

/-- **Denied errors.** Where all can be read, what a run prints and writes does not depend on what it denies. Where the
archive can be written too, if one is asked for, which is to say that the archiver takes the streams and the path is
writable, the run exits with 1 if it denies errors and some stream has an unrecognized token, and with 0 otherwise. If
it exits with 1, the number in its last notice is the number of diagnostics it gave: at least 1, and no more than the
unrecognized tokens. -/
theorem run_denying (o : Options) (w : World) (readable : ¬ Blocked o w) :
    ∃ lexer sources, w.Configures o.config lexer ∧ w.Reads w.input o.files sources ∧
      (run o w).stdout = (run { o with denyErrors := false } w).stdout ∧
      (run o w).archive = (run { o with denyErrors := false } w).archive ∧
      ((∀ path ∈ o.archive, w.Archives path (scanned lexer sources)) →
        ((run o w).exit = 1 ↔
          o.denyErrors = true ∧ ∃ s ∈ scanned lexer sources, ∃ t ∈ s.tokens, t.kind = .error) ∧
        ((run o w).exit = 0 ↔
          ¬ (o.denyErrors = true ∧ ∃ s ∈ scanned lexer sources, ∃ t ∈ s.tokens, t.kind = .error)) ∧
        ((run o w).exit = 1 → ∃ before count, (run o w).notices = before ++ [.failed (.errorsDenied count)] ∧
          (∃ said, (run o w).stderr = said ++ s!"Error: {count} lexical error(s)" ++ "\n") ∧
          count = ((run o w).notices.filter Notice.isFound).length ∧
          1 ≤ count ∧ count ≤ ((scanned lexer sources).flatMap TokenStream.errors).length)) := by
  rcases run_cases o w with ⟨blocked, -⟩ | ⟨-, lexer, sources, configures, reads⟩
  · exact absurd blocked readable
  obtain ⟨stdout, archive⟩ := effects_without_denial configures reads
  refine ⟨lexer, sources, configures, reads, stdout, archive, fun archives => ?_⟩
  rw [← diagnostics_ne_nil_iff]
  by_cases denied : o.denyErrors = true ∧ (scanned lexer sources).flatMap diagnose ≠ []
  · have fails := exit_of_denied configures reads archives denied
    obtain ⟨before, count, notices, given, counted⟩ := notices_of_denied configures reads archives denied
    have stderr := Outcome.stderr_concat notices
    rw [text_errorsDenied] at stderr
    refine ⟨by simp [fails, denied], by simp [fails, denied], fun _ =>
      ⟨before, count, notices, ⟨_, stderr⟩, given, ?_, ?_⟩⟩
    · rw [counted]
      exact List.length_pos_iff.2 denied.2
    · rw [counted]
      exact length_diagnostics_le _
  · have succeeds := exit_of_not_denied configures reads archives denied
    refine ⟨by simpa [succeeds] using denied, by simpa [succeeds] using denied, fun fails => ?_⟩
    rw [succeeds] at fails
    cases fails

/-- two unrecognized quotes, of which the second is taken for the end of a literal -/
theorem run_denying_closing_quote :
    let w : World := ⟨fun _ => .error .notFound, fun _ => none, .ok "'ab'".toUTF8, .plain⟩
    let o : Options := ⟨["-", "-"], none, .text, some "out", true, false, false⟩
    ¬ Blocked o w ∧ (run o w).exit = 1 ∧ ∃ before, (run o w).notices = before ++ [.failed (.errorsDenied 1)] := by
  intro w o
  have free : ¬ Blocked o w := by
    rintro (⟨given, -⟩ | ⟨listed, unreadable⟩)
    · cases given
    · obtain rfl : _ = inputPath := by simpa [o, inputPath] using listed
      exact unreadable "'ab'".toList rfl
  have fails : (run o w).exit = 1 := by decide +kernel
  have once : ((run o w).notices.filter Notice.isFound).length = 1 := by decide +kernel
  obtain ⟨lexer, sources, -, -, -, -, concluded⟩ := run_denying o w free
  obtain ⟨-, -, said⟩ := concluded fun _ _ => ⟨Archiver.plain_accepts _, rfl⟩
  obtain ⟨before, count, last, -, rfl, -⟩ := said fails
  rw [once] at last
  exact ⟨free, fails, before, last⟩

end Command

end TokenScanner
