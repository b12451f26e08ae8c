/-
Runs that fail.

A run reads all it needs before it prints anything, and prints all it has to before it writes the archive. So where
something cannot be read, the run has had no effect when it stops: nothing is printed but the reason of the failure, and
how far the run came if that was to be reported; nothing is diagnosed, and no file is other than it was. Where the
archive alone cannot be written, because the archiver fails or the path is refused, what was to be printed stands
already. No archive is written to its end then; a writing that fails on its way may still leave a part of one, so
nothing is said of the file.

- `run_failing`: the two ways to fail, and what each leaves behind.
-/
import TokenScanner.Archiver.Plain
import TokenScanner.Proofs.Course

namespace TokenScanner.Command

variable {o : Options} {w : World} {notices : List Notice} {f : Failure}

/-- the files of a directory after a run, if these were there before -/
def Outcome.filesAfter (out : Outcome) (d : Directory) : Directory :=
  match out.archive with
  | none => d
  | some (path, bytes) => d.write path ⟨bytes.toArray⟩

/-- a run failed, and says why and how far it came, but had no other effect -/
structure Outcome.Ineffective (out : Outcome) : Prop where
  exit : out.exit = 1
  stdout : out.stdout = ""
  /-- but for progress, the failure is all that is said -/
  explained : ∃ f, out.notices.filter (!·.isProgress) = [.failed f]
  undiagnosed : ∀ n ∈ out.notices, n.isFound = false
  archive : out.archive = none
  files : ∀ d, out.filesAfter d = d

theorem Outcome.failure_ineffective (h : ∀ n ∈ notices, n.isProgress) : (failure notices f).Ineffective where
  exit := rfl
  stdout := rfl
  explained := by
    have silent : notices.filter (!·.isProgress) = [] := lasting_of_isProgress h
    refine ⟨f, ?_⟩
    rw [failure, List.filter_append, silent]
    rfl
  undiagnosed := by
    intro n hn
    rcases List.mem_append.1 hn with said | last
    · exact n.isFound_of_isProgress (h n said)
    · rw [List.mem_singleton.1 last]
      rfl
  archive := rfl
  files := fun _ => rfl

/-- **Runs that fail.** Whatever else it was asked to do, a run that cannot read its configuration or one of its inputs
has no effect but that it says so: it exits with 1, prints nothing, diagnoses nothing and writes no file. A run that can
read them all, but not write its archive, exits with 1 too, and ends with the reason: the streams are not serialized,
the bytes are not valid, or the path is refused. It has printed what it prints without an archive, or in a world where
any archive can be written: the streams of all its inputs. -/
theorem run_failing (o : Options) (w : World) :
    (Blocked o w → (run o w).Ineffective) ∧
      (¬ Blocked o w → ∃ lexer sources, w.Configures o.config lexer ∧ w.Reads w.input o.files sources ∧
        ∀ path, o.archive = some path → ¬ w.Archives path (scanned lexer sources) →
          (run o w).exit = 1 ∧ (run o w).archive = none ∧
            (∃ f, w.Unarchived path (scanned lexer sources) f ∧ (run o w).notices.getLast? = some (.failed f)) ∧
            (run o w).stdout = printed o (scanned lexer sources) ∧
            (run o w).stdout = (run { o with archive := none } w).stdout ∧
            ∀ refusal archiver, (run o w).stdout = (run o { w with refusal, archiver }).stdout) := by
  rcases run_cases o w with ⟨blocked, notices, f, said, hrun⟩ | ⟨free, lexer, sources, configures, reads⟩
  · refine ⟨fun _ => ?_, fun free => absurd blocked free⟩
    rw [hrun]
    exact Outcome.failure_ineffective said
  · refine ⟨fun blocked => absurd blocked free, fun _ => ⟨lexer, sources, configures, reads, ?_⟩⟩
    intro path asked unable
    obtain ⟨f, unarchived, fails⟩ := archiving_of_not_archives asked unable
    have here : run o w = _ := (run_of_reads configures reads).trans (conclude_of_error fails)
    have stdout : (run o w).stdout = printed o (scanned lexer sources) := stdout_of_reads configures reads
    have unasked : (run { o with archive := none } w).stdout = printed o (scanned lexer sources) :=
      stdout_of_reads configures reads
    refine ⟨by rw [here], by rw [here], ⟨f, unarchived, by rw [here, List.getLast?_concat]⟩, stdout,
      stdout.trans unasked.symm, fun refusal archiver => stdout.trans ?_⟩
    exact (stdout_of_reads (configures.with_writing refusal archiver) (reads.with_writing refusal archiver)).symm

/-- a directory as the last input; and a directory as the archive, and an archiver that takes no streams -/
theorem run_failing_on_directories :
    let w : World := ⟨fun path => if path = "a.st" then .ok "x = @\n".toUTF8 else .error .isDirectory,
      fun _ => some .isDirectory, .ok .empty, .plain⟩
    let w' : World := { w with archiver := { Archiver.plain with serialize := fun _ => .error "OutOfSpace" } }
    let o : Options := ⟨["a.st", "."], none, .json, some "out/", true, false, true⟩
    let o' : Options := { o with files := ["a.st"] }
    (Blocked o w ∧ (run o w).Ineffective) ∧
      (¬ Blocked o' w ∧ (run o' w).exit = 1 ∧ (run o' w).stdout = (run { o' with archive := none } w).stdout) ∧
      ¬ Blocked o' w' ∧ (run o' w').exit = 1 ∧
        (run o' w').notices.getLast? = some (.failed (.archiveUnserialized "OutOfSpace")) := by
  intro w w' o o'
  have blocked : Blocked o w := by
    refine @Blocked.input o w "." (by simp [o]) fun text supplies => ?_
    rw [World.Supplies, if_neg (by decide), World.Holds] at supplies
    cases supplies
  have free : ∀ archiver, ¬ Blocked o' { w with archiver } := by
    rintro archiver (⟨given, -⟩ | ⟨listed, unreadable⟩)
    · cases given
    · obtain rfl := List.mem_singleton.1 listed
      refine unreadable "x = @\n".toList ?_
      rw [World.Supplies, if_neg (by decide)]
      rfl
  refine ⟨⟨blocked, (run_failing o w).1 blocked⟩, ⟨free _, ?_⟩, free _, ?_⟩
  · obtain ⟨lexer, sources, -, -, fails⟩ := (run_failing o' w).2 (free _)
    obtain ⟨exit, -, -, -, unasked, -⟩ := fails "out/" rfl fun archives => by cases archives.writable
    exact ⟨exit, unasked⟩
  · obtain ⟨lexer, sources, -, -, fails⟩ := (run_failing o' w').2 (free _)
    obtain ⟨exit, -, ⟨f, unarchived, last⟩, -⟩ := fails "out/" rfl fun archives => by cases archives.writable
    refine ⟨exit, last.trans ?_⟩
    cases unarchived with
    | unserialized fails =>
      obtain rfl := Except.error.inj fails
      rfl
    | invalid made _ => cases made
    | refused made _ _ => cases made

end TokenScanner.Command
