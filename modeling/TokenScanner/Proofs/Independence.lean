/-
Options of the output are independent.

What a run reads depends on its inputs and its configuration alone, and so do the progress it makes and the failure if
it cannot read on (`reading_cases`). From the streams on each option has one place: what is quiet or in a format is said
on the standard output, what is denied decides the exit code, the word before each diagnostic and the last notice, the
archive is written by itself, and a verbose run adds its progress. So an option may be changed without any of the
others noticing.

- `SameWork.conclude_eq`, `SameOutput.stdout_eq`: runs that differ in what they print, and runs that differ in what else
  they do.
- `made_of_archive`, `exists_archive`: what an archive holds, and when there is one.
- `conclude_denying`: a run that denies errors raises each diagnostic, and may give a last notice.
- `options_independent`: what changes of options leave as it was.
-/
import TokenScanner.Proofs.Archiving
import TokenScanner.Proofs.Course

namespace TokenScanner.Command

variable {o o' : Options} {w : World} {said notices : List Notice} {streams : List TokenStream}

/-! ## Notices that last -/

theorem lasting_append (a b : List Notice) : lasting (a ++ b) = lasting a ++ lasting b :=
  List.filter_append a b

theorem lasting_progress (h : ∀ n ∈ said, n.isProgress) : lasting (progress o said) = [] :=
  lasting_of_isProgress (isProgress_of_mem_progress h)

theorem lasting_archivedNotices : lasting (archivedNotices o) = [] :=
  lasting_of_isProgress isProgress_of_mem_archivedNotices

theorem lasting_diagnosticNotices : lasting (diagnosticNotices o streams) = diagnosticNotices o streams := by
  refine List.filter_eq_self.2 fun n hn => ?_
  obtain ⟨d, -, rfl⟩ := List.mem_map.1 hn
  rfl

theorem lasting_failed (f : Failure) : lasting [.failed f] = [.failed f] := rfl

theorem lasting_denialNotices : lasting (denialNotices o streams) = denialNotices o streams := by
  unfold denialNotices
  split
  next => rfl
  next => rfl

/-! ## Changes of what is printed -/

/-- the options ask for the same work, whatever they ask to be said of it -/
structure SameWork (o o' : Options) : Prop where
  files : o'.files = o.files
  config : o'.config = o.config
  archive : o'.archive = o.archive
  denyErrors : o'.denyErrors = o.denyErrors

theorem SameWork.diagnosticNotices_eq (same : SameWork o o') :
    diagnosticNotices o' streams = diagnosticNotices o streams := by
  rw [diagnosticNotices, diagnosticNotices, Options.level, Options.level, same.denyErrors]

theorem SameWork.denialNotices_eq (same : SameWork o o') : denialNotices o' streams = denialNotices o streams := by
  rw [denialNotices, denialNotices, same.denyErrors]

/-- the same work ends in the same way and leaves the same archive, and what is said of it differs in its progress -/
theorem SameWork.conclude_eq (same : SameWork o o') (w : World) (h : ∀ n ∈ said, n.isProgress)
    (streams : List TokenStream) :
    (conclude o' w (progress o' said) streams).exit = (conclude o w (progress o said) streams).exit ∧
      (conclude o' w (progress o' said) streams).archive = (conclude o w (progress o said) streams).archive ∧
      lasting (conclude o' w (progress o' said) streams).notices =
        lasting (conclude o w (progress o said) streams).notices := by
  rw [Command.conclude_eq, Command.conclude_eq, archiving_congr same.archive, same.denialNotices_eq]
  cases archiving o w streams with
  | error f =>
    refine ⟨rfl, rfl, ?_⟩
    simp only [lasting_append, lasting_progress h, lasting_diagnosticNotices, same.diagnosticNotices_eq]
  | ok archive =>
    refine ⟨rfl, rfl, ?_⟩
    simp only [lasting_append, lasting_progress h, lasting_archivedNotices, lasting_diagnosticNotices,
      lasting_denialNotices, same.diagnosticNotices_eq]

theorem SameWork.run_eq (same : SameWork o o') (w : World) :
    (run o' w).exit = (run o w).exit ∧ (run o' w).archive = (run o w).archive ∧
      lasting (run o' w).notices = lasting (run o w).notices := by
  obtain ⟨said, progressing, ⟨f, -, failed⟩ | ⟨lexer, sources, -, -, concluded⟩⟩ := reading_cases w o.config o.files
  · rw [failed o rfl rfl, failed o' same.config same.files]
    refine ⟨rfl, rfl, ?_⟩
    simp only [Outcome.failure, lasting_append, lasting_progress progressing]
  · rw [concluded o rfl rfl, concluded o' same.config same.files]
    exact same.conclude_eq w progressing _

/-- a run that is not verbose gives no notice of its progress -/
theorem lasting_of_silent (o : Options) (w : World) (silent : o.verbose = false) :
    lasting (run o w).notices = (run o w).notices := by
  have nothing : ∀ notices, progress o notices = [] := by
    intro notices
    rw [progress, silent, if_neg Bool.false_ne_true]
  obtain ⟨said, -, ⟨f, -, failed⟩ | ⟨lexer, sources, -, -, concluded⟩⟩ := reading_cases w o.config o.files
  · rw [failed o rfl rfl, nothing, Outcome.failure, List.nil_append, lasting_failed]
  · rw [concluded o rfl rfl, nothing, conclude_eq]
    cases archiving o w (scanned lexer sources) with
    | error f =>
      simp only [lasting_append, lasting_diagnosticNotices, lasting_failed]
      rfl
    | ok archive =>
      rw [archivedNotices, nothing]
      simp only [lasting_append, lasting_diagnosticNotices, lasting_denialNotices]
      rfl

/-! ## Changes of what else is done -/

/-- the options ask for the same to be printed of the same inputs, whatever else they ask -/
structure SameOutput (o o' : Options) : Prop where
  files : o'.files = o.files
  config : o'.config = o.config
  format : o'.format = o.format
  quiet : o'.quiet = o.quiet

theorem SameOutput.stdout_eq (same : SameOutput o o') (w : World) : (run o' w).stdout = (run o w).stdout := by
  obtain ⟨said, -, ⟨f, -, failed⟩ | ⟨lexer, sources, -, -, concluded⟩⟩ := reading_cases w o.config o.files
  · rw [failed o rfl rfl, failed o' same.config same.files]
    rfl
  · rw [concluded o rfl rfl, concluded o' same.config same.files, conclude_stdout, conclude_stdout, printed, printed,
      same.quiet, same.format]

/-! ## Archives -/

/-- an archive that is written holds the streams of the inputs as the archiver serializes them, and a faithful one gives
them back -/
theorem made_of_archive {path : String} {bytes : List UInt8} (h : (run o w).archive = some (path, bytes)) :
    o.archive = some path ∧ ∃ lexer sources, w.Configures o.config lexer ∧ w.Reads w.input o.files sources ∧
      w.archiver.serialize (scanned lexer sources) = .ok bytes ∧
      (w.archiver.Faithful → w.archiver.decode? bytes = some (scanned lexer sources)) := by
  rcases run_cases o w with ⟨-, notices, f, -, failed⟩ | ⟨-, lexer, sources, configures, reads⟩
  · rw [failed] at h
    cases h
  · rw [archive_of_reads configures reads] at h
    obtain ⟨asked, made, valid⟩ := made_of_archiving h
    exact ⟨asked, lexer, sources, configures, reads, made, fun faithful => faithful _ _ made valid⟩

/-- an archive that is asked for is written where all can be read, the archiver takes the streams and the path can be
written -/
theorem exists_archive {path : String} (readable : ¬ Blocked o w) (asked : o.archive = some path) :
    ∃ lexer sources, w.Configures o.config lexer ∧ w.Reads w.input o.files sources ∧
      (w.Archives path (scanned lexer sources) → ∃ bytes, (run o w).archive = some (path, bytes)) := by
  rcases run_cases o w with ⟨blocked, -⟩ | ⟨-, lexer, sources, configures, reads⟩
  · exact absurd blocked readable
  · refine ⟨lexer, sources, configures, reads, fun archives => ?_⟩
    obtain ⟨bytes, archived⟩ := archiving_of_archives asked archives
    refine ⟨bytes, ?_⟩
    rw [archive_of_reads configures reads, archived]
    rfl

/-! ## Denial -/

/-- a notice as a run gives it that denies errors -/
def Notice.raised : Notice → Notice
  | found _ d => found .error d
  | n => n

theorem Notice.raised_of_not_found {n : Notice} (h : n.isFound = false) : n.raised = n := by
  cases n with
  | found level d => cases h
  | _ => rfl

theorem map_raised_of_not_found (h : ∀ n ∈ notices, n.isFound = false) : notices.map Notice.raised = notices := by
  rw [List.map_congr_left fun n hn => n.raised_of_not_found (h n hn)]
  exact List.map_id' notices

theorem not_found_of_isProgress (h : ∀ n ∈ notices, n.isProgress) : ∀ n ∈ notices, n.isFound = false :=
  fun n hn => n.isFound_of_isProgress (h n hn)

theorem map_raised_diagnosticNotices (streams : List TokenStream) :
    (diagnosticNotices { o with denyErrors := false } streams).map Notice.raised =
      diagnosticNotices { o with denyErrors := true } streams := by
  rw [diagnosticNotices, diagnosticNotices, List.map_map]
  rfl

/-- a run that denies errors gives the same notices, raised, and one more if it fails for it -/
theorem conclude_denying (o : Options) (w : World) (h : ∀ n ∈ said, n.isProgress) (streams : List TokenStream) :
    ∃ last, (conclude { o with denyErrors := true } w said streams).notices =
        (conclude { o with denyErrors := false } w said streams).notices.map Notice.raised ++ last ∧
      (last = [] ∨ ∃ count, last = [.failed (.errorsDenied count)]) := by
  have progressed := map_raised_of_not_found (not_found_of_isProgress h)
  have same : archiving { o with denyErrors := true } w streams = archiving { o with denyErrors := false } w streams :=
    archiving_congr rfl
  rw [conclude_eq, conclude_eq, same]
  cases archiving { o with denyErrors := false } w streams with
  | error f =>
    refine ⟨[], ?_, Or.inl rfl⟩
    simp only [List.map_append, progressed, map_raised_diagnosticNotices, List.append_nil]
    rfl
  | ok archive =>
    have allowed : denialNotices { o with denyErrors := false } streams = [] := rfl
    have saved : (archivedNotices { o with denyErrors := false }).map Notice.raised =
        archivedNotices { o with denyErrors := true } :=
      map_raised_of_not_found (not_found_of_isProgress isProgress_of_mem_archivedNotices)
    refine ⟨denialNotices { o with denyErrors := true } streams, ?_, denialNotices_cases _ streams⟩
    rw [allowed, List.append_nil]
    simp only [List.map_append, progressed, saved, map_raised_diagnosticNotices]

/-- the notice is no diagnostic, or one of that level -/
def Notice.Under (level : Level) (n : Notice) : Prop :=
  n.isFound = false ∨ ∃ d, n = .found level d

theorem under_of_isProgress {level : Level} (h : ∀ n ∈ notices, n.isProgress) : ∀ n ∈ notices, n.Under level :=
  fun n hn => Or.inl (not_found_of_isProgress h n hn)

theorem under_of_mem_failed {level : Level} (f : Failure) : ∀ n ∈ [Notice.failed f], n.Under level := by
  intro n hn
  rw [List.mem_singleton.1 hn]
  exact Or.inl rfl

theorem under_of_mem_diagnosticNotices (o : Options) (streams : List TokenStream) :
    ∀ n ∈ diagnosticNotices o streams, n.Under o.level := by
  intro n hn
  obtain ⟨d, -, rfl⟩ := List.mem_map.1 hn
  exact Or.inr ⟨d, rfl⟩

/-- every diagnostic of a run is given under one level -/
theorem under_of_mem_notices (o : Options) (w : World) : ∀ n ∈ (run o w).notices, n.Under o.level := by
  obtain ⟨said, progressing, ⟨f, -, failed⟩ | ⟨lexer, sources, -, -, concluded⟩⟩ := reading_cases w o.config o.files
  · rw [failed o rfl rfl, Outcome.failure, List.forall_mem_append]
    exact ⟨under_of_isProgress (isProgress_of_mem_progress progressing), under_of_mem_failed f⟩
  · have before : ∀ n ∈ progress o said ++ diagnosticNotices o (scanned lexer sources), n.Under o.level :=
      List.forall_mem_append.2 ⟨under_of_isProgress (isProgress_of_mem_progress progressing),
        under_of_mem_diagnosticNotices o _⟩
    rw [concluded o rfl rfl, conclude_eq]
    cases archiving o w (scanned lexer sources) with
    | error f => exact List.forall_mem_append.2 ⟨before, under_of_mem_failed f⟩
    | ok archive =>
      rw [List.forall_mem_append, List.forall_mem_append]
      refine ⟨⟨before, under_of_isProgress isProgress_of_mem_archivedNotices⟩, ?_⟩
      rcases denialNotices_cases o (scanned lexer sources) with none | ⟨count, denied⟩
      · rw [none]
        exact List.forall_mem_nil _
      · rw [denied]
        exact under_of_mem_failed _

/-- where a run would warn, one that denies errors says the same as an error -/
theorem raised_text {n : Notice} (h : n.Under .warning) :
    n.raised = n ∨ ∃ said, n.text = "warning: " ++ said ∧ n.raised.text = "error: " ++ said := by
  rcases h with plain | ⟨d, rfl⟩
  · exact Or.inl (n.raised_of_not_found plain)
  · exact Or.inr ⟨d.text, rfl, rfl⟩

theorem run_raised (o : Options) (w : World) :
    ∃ last, (run { o with denyErrors := true } w).notices =
        (run { o with denyErrors := false } w).notices.map Notice.raised ++ last ∧
      (last = [] ∨ ∃ count, last = [.failed (.errorsDenied count)]) := by
  obtain ⟨said, progressing, ⟨f, -, failed⟩ | ⟨lexer, sources, -, -, concluded⟩⟩ := reading_cases w o.config o.files
  · rw [failed { o with denyErrors := true } rfl rfl, failed { o with denyErrors := false } rfl rfl]
    refine ⟨[], ?_, Or.inl rfl⟩
    have plain := map_raised_of_not_found
      (not_found_of_isProgress (@isProgress_of_mem_progress { o with denyErrors := false } said progressing))
    rw [Outcome.failure, Outcome.failure, List.map_append, plain, List.append_nil]
    rfl
  · rw [concluded { o with denyErrors := true } rfl rfl, concluded { o with denyErrors := false } rfl rfl]
    exact conclude_denying o w (isProgress_of_mem_progress progressing) (scanned lexer sources)

/-- **Options of the output do not interfere.** For all options of a run, whatever there is to read and whichever the
archiver: what is quiet, verbose or in a format leaves the exit code, the archive and all notices but the progress as
they were; what is verbose, denied or archived leaves the standard output as it was; an archive that is written is what
the archiver serializes of the streams of the inputs in turn, so a faithful one gives them back, and it is written where
it is asked for, all can be read, the archiver takes the streams and the path can be written; and a run that denies
errors says `error` where it would have said `warning`, and may end with the failure for it. -/
theorem options_independent (o : Options) (w : World) :
    (∀ quiet format verbose,
        (run { o with quiet, format, verbose } w).exit = (run o w).exit ∧
        (run { o with quiet, format, verbose } w).archive = (run o w).archive ∧
        (run { o with quiet, format, verbose } w).notices.filter (!·.isProgress) =
          (run { o with verbose := false } w).notices) ∧
      (∀ verbose denyErrors archive,
        (run { o with verbose, denyErrors, archive } w).stdout = (run o w).stdout) ∧
      (∀ path bytes, (run o w).archive = some (path, bytes) →
        o.archive = some path ∧ ∃ lexer sources, w.Configures o.config lexer ∧ w.Reads w.input o.files sources ∧
          w.archiver.serialize (scanned lexer sources) = .ok bytes ∧ (w.archiver.Faithful →
            w.archiver.decode? bytes = some (sources.map fun source => lexer.lex source.name source.text))) ∧
      (∀ path, ¬ Blocked o w → o.archive = some path →
        ∃ lexer sources, w.Configures o.config lexer ∧ w.Reads w.input o.files sources ∧
          (w.Archives path (scanned lexer sources) → ∃ bytes, (run o w).archive = some (path, bytes))) ∧
      ∃ last, (run { o with denyErrors := true } w).notices =
          (run { o with denyErrors := false } w).notices.map Notice.raised ++ last ∧
        (last = [] ∨ ∃ count, last = [.failed (.errorsDenied count)]) ∧
        ∀ n ∈ (run { o with denyErrors := false } w).notices,
          n.raised = n ∨ ∃ said, n.text = "warning: " ++ said ∧ n.raised.text = "error: " ++ said := by
  have printed : ∀ verbose denyErrors archive, SameOutput o { o with verbose, denyErrors, archive } :=
    fun verbose denyErrors archive => ⟨rfl, rfl, rfl, rfl⟩
  obtain ⟨last, raised, ending⟩ := run_raised o w
  refine ⟨?_, fun verbose denyErrors archive => (printed verbose denyErrors archive).stdout_eq w,
    fun path bytes => made_of_archive, fun path => exists_archive, last, raised, ending,
    fun n hn => raised_text (under_of_mem_notices _ w n hn)⟩
  intro quiet format verbose
  have work : SameWork o { o with quiet, format, verbose } := ⟨rfl, rfl, rfl, rfl⟩
  have silent : SameWork { o with verbose := false } { o with quiet, format, verbose } := ⟨rfl, rfl, rfl, rfl⟩
  obtain ⟨exit, archive, -⟩ := work.run_eq w
  obtain ⟨-, -, notices⟩ := silent.run_eq w
  exact ⟨exit, archive, notices.trans (lasting_of_silent _ w rfl)⟩

/-- a run that denies an error and writes its archive, and the same run with all that is said of it changed -/
theorem options_independent_denied :
    let w : World := ⟨fun _ => .error .notFound, fun _ => none, .ok "x@".toUTF8, .plain⟩
    let o : Options := ⟨["-"], none, .text, some "out", true, false, true⟩
    let o' : Options := ⟨["-"], none, .json, some "out", true, true, false⟩
    (run o' w).exit = (run o w).exit ∧ (run o' w).archive = (run o w).archive ∧ ∃ bytes,
      (run o w).archive = some ("out", bytes) ∧ w.archiver.decode? bytes =
        some [⟨"<stdin>", [⟨"<stdin>", 1, 1, "x", .ident⟩, ⟨"<stdin>", 1, 2, "@", .error⟩]⟩] := by
  intro w o o'
  have reads : w.Reads w.input o.files [⟨"<stdin>", "x@".toList⟩] := .input .nil
  have readable : ¬ Blocked o w := not_blocked_of_reads .standard reads
  obtain ⟨changes, -, decoded, written, -⟩ := options_independent o w
  obtain ⟨exit, archive, -⟩ := changes true .json false
  obtain ⟨_, _, -, -, archives⟩ := written "out" readable rfl
  obtain ⟨bytes, out⟩ := archives ⟨Archiver.plain_accepts _, rfl⟩
  obtain ⟨-, lexer, sources, configures, reads', -, given⟩ := decoded "out" bytes out
  obtain rfl := reads.unique reads'
  obtain rfl := configures.unique .standard
  refine ⟨exit, archive, bytes, out, (given Archiver.plain_faithful).trans ?_⟩
  decide +kernel

end TokenScanner.Command
