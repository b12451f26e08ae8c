/-
The course of a run.

A run reads all it needs first, and fails there with no more than its progress said, or concludes on the streams of its
inputs. How it concludes is told by three things: what is printed, what is diagnosed and whether that is to be denied.
The archive is written after the printing; if it cannot be written the run fails there.

- `run_of_reads`: what a run comes to where all can be read.
- `reading_cases`: what runs of one configuration on the same inputs have in common.
- `run_cases`: something that a run has to read cannot be read, or all can be.
- `writeArchive_cases`: an archive can be written, or there is a reason that it cannot be.
- `conclude_eq`: the outcome on some streams, told by what becomes of the archive that is asked for (`archiving`).
- `stdout_of_reads`, `archive_of_reads`, `filter_isFound_run`: what is printed, written and diagnosed are told by the
  streams.
-/
import TokenScanner.Proofs.Inputs

namespace TokenScanner.Command

variable {o : Options} {w : World} {notices : List Notice} {lexer : Lexer} {sources : List Source}
  {streams : List TokenStream}

/-! ## Notices -/

/-- the notice is a diagnostic -/
def Notice.isFound : Notice → Bool
  | found .. => true
  | _ => false

theorem Notice.isFound_of_isProgress {n : Notice} (h : n.isProgress) : n.isFound = false := by
  cases n with
  | found level d => cases h
  | _ => rfl

theorem filter_isFound_progress (h : ∀ n ∈ notices, n.isProgress) : notices.filter Notice.isFound = [] := by
  rw [List.filter_eq_nil_iff]
  intro n hn
  rw [n.isFound_of_isProgress (h n hn)]
  exact Bool.false_ne_true

/-- the notices without those that only a verbose run gives -/
def lasting (notices : List Notice) : List Notice :=
  notices.filter (!·.isProgress)

theorem lasting_of_isProgress (h : ∀ n ∈ notices, n.isProgress) : lasting notices = [] := by
  refine List.filter_eq_nil_iff.2 fun n hn => ?_
  rw [h n hn]
  exact Bool.false_ne_true

theorem progress_append (o : Options) (a b : List Notice) : progress o (a ++ b) = progress o a ++ progress o b := by
  unfold progress
  split
  next => rfl
  next => rfl

theorem isProgress_of_mem_progress (h : ∀ n ∈ notices, n.isProgress) : ∀ n ∈ progress o notices, n.isProgress := by
  unfold progress
  split
  next => exact h
  next => exact List.forall_mem_nil _

/-! ## Up to the streams -/

/-- the streams of some sources -/
def scanned (lexer : Lexer) (sources : List Source) : List TokenStream :=
  sources.map fun source => lexer.lex source.name source.text

/-- the notice that the configuration is about to be read -/
def readingNotices (o : Options) : List Notice :=
  progress o (o.config.toList.map .configReading)

/-- the notices of a run as far as the streams of some sources -/
def scanningNotices (o : Options) (lexer : Lexer) (sources : List Source) : List Notice :=
  readingNotices o ++ progress o (sources.zipWith scannedNotice (scanned lexer sources))

theorem isProgress_of_mem_configReading (config : Option String) :
    ∀ n ∈ config.toList.map Notice.configReading, n.isProgress := by
  intro n hn
  obtain ⟨path, -, rfl⟩ := List.mem_map.1 hn
  rfl

theorem isProgress_of_mem_scannedNotices (lexer : Lexer) (sources : List Source) :
    ∀ n ∈ sources.zipWith scannedNotice (scanned lexer sources), n.isProgress := by
  rw [scanned, List.zipWith_map_right, List.zipWith_self]
  intro n hn
  obtain ⟨source, -, rfl⟩ := List.mem_map.1 hn
  rfl

theorem isProgress_of_mem_readingNotices : ∀ n ∈ readingNotices o, n.isProgress :=
  isProgress_of_mem_progress (isProgress_of_mem_configReading o.config)

theorem isProgress_of_mem_scanningNotices : ∀ n ∈ scanningNotices o lexer sources, n.isProgress := by
  intro n hn
  rcases List.mem_append.1 hn with reading | scanning
  · exact isProgress_of_mem_readingNotices n reading
  · exact isProgress_of_mem_progress (isProgress_of_mem_scannedNotices lexer sources) n scanning

/-- something that a run has to read cannot be read: the configuration gives no lexer, or an input has no text -/
inductive Blocked (o : Options) (w : World) : Prop where
  | config {path : String} (given : o.config = some path) (fault : w.Misconfigures path)
  | input {path : String} (listed : path ∈ o.files) (unreadable : w.Unreadable path)

theorem run_of_reads (configures : w.Configures o.config lexer) (reads : w.Reads w.input o.files sources) :
    run o w = conclude o w (scanningNotices o lexer sources) (scanned lexer sources) := by
  simp only [run, configures.readLexer_eq, reads.readSources_eq]
  rfl

/-- a run that has a lexer and its sources is kept from nothing -/
theorem not_blocked_of_reads (configures : w.Configures o.config lexer) (reads : w.Reads w.input o.files sources) :
    ¬ Blocked o w := by
  rintro (⟨given, fault⟩ | ⟨listed, unreadable⟩)
  · rw [given] at configures
    exact configures.not_misconfigures fault
  · have none_left : (readSources w w.input o.files).2 = none := by rw [reads.readSources_eq]
    obtain ⟨text, supplies⟩ := (readSources_eq_none_iff w w.input o.files).1 none_left _ listed
    exact unreadable text supplies

/-- runs of one configuration on the same inputs make the same progress, and are all kept from reading on for the same
reason or have the same streams -/
theorem reading_cases (w : World) (config : Option String) (files : List String) :
    ∃ said : List Notice, (∀ n ∈ said, n.isProgress) ∧
      ((∃ f, (∀ o : Options, o.config = config → o.files = files → Blocked o w) ∧
          ∀ o : Options, o.config = config → o.files = files → run o w = .failure (progress o said) f) ∨
        ∃ lexer sources, w.Configures config lexer ∧ w.Reads w.input files sources ∧
          ∀ o : Options, o.config = config → o.files = files →
            run o w = conclude o w (progress o said) (scanned lexer sources)) := by
  have reading := isProgress_of_mem_configReading config
  rcases readLexer_cases w config with ⟨lexer, configures⟩ | ⟨f, path, hlexer, given, fault⟩
  · have scanning := isProgress_of_mem_scannedNotices lexer
    rcases readSources_cases w files with ⟨sources, reads⟩ | ⟨sources, f, path, hread, listed, unreadable⟩
    · refine ⟨_, List.forall_mem_append.2 ⟨reading, scanning sources⟩,
        Or.inr ⟨lexer, sources, configures, reads, ?_⟩⟩
      rintro o rfl rfl
      rw [progress_append]
      exact run_of_reads configures reads
    · refine ⟨_, List.forall_mem_append.2 ⟨reading, scanning sources⟩, Or.inl ⟨f, ?_, ?_⟩⟩
      · rintro o rfl rfl
        exact .input listed unreadable
      · rintro o rfl rfl
        rw [progress_append]
        simp only [run, configures.readLexer_eq, hread]
        rfl
  · refine ⟨_, reading, Or.inl ⟨f, ?_, ?_⟩⟩
    · rintro o rfl rfl
      exact .config given fault
    · rintro o rfl rfl
      simp only [run, hlexer]

/-- a run is kept from reading something, and fails with no more than its progress said; or all can be read -/
theorem run_cases (o : Options) (w : World) :
    (Blocked o w ∧ ∃ notices f, (∀ n ∈ notices, n.isProgress) ∧ run o w = .failure notices f) ∨
      (¬ Blocked o w ∧ ∃ lexer sources, w.Configures o.config lexer ∧ w.Reads w.input o.files sources) := by
  obtain ⟨said, progressing, ⟨f, blocked, failed⟩ | ⟨lexer, sources, configures, reads, -⟩⟩ :=
    reading_cases w o.config o.files
  · exact Or.inl ⟨blocked o rfl rfl, progress o said, f, isProgress_of_mem_progress progressing, failed o rfl rfl⟩
  · exact Or.inr ⟨not_blocked_of_reads configures reads, lexer, sources, configures, reads⟩

/-! ## Archives -/

namespace World

/-- the archive of the streams can be written at the path: the archiver takes them, and the path is writable -/
structure Archives (w : World) (path : String) (streams : List TokenStream) : Prop where
  accepted : w.archiver.Accepts streams
  writable : w.refusal path = none

/-- why the archive of the streams cannot be written at the path -/
inductive Unarchived (w : World) (path : String) (streams : List TokenStream) : Failure → Prop where
  | unserialized {cause : String} (fails : w.archiver.serialize streams = .error cause) :
      w.Unarchived path streams (.archiveUnserialized cause)
  | invalid {bytes : List UInt8} {cause : String} (made : w.archiver.serialize streams = .ok bytes)
      (fails : w.archiver.validate bytes = .error cause) : w.Unarchived path streams (.archiveInvalid cause)
  | refused {bytes : List UInt8} {cause : FileError} (made : w.archiver.serialize streams = .ok bytes)
      (valid : w.archiver.validate bytes = .ok ()) (fails : w.refusal path = some cause) :
      w.Unarchived path streams (.archiveUnwritable path cause)

end World

variable {path : String} {bytes : List UInt8} {f : Failure} {archive : Option (String × List UInt8)}

/-- **Writing an archive** has one of two ends: it is made, valid and written, or one of these fails. -/
theorem writeArchive_cases (w : World) (path : String) (streams : List TokenStream) :
    (∃ bytes, w.archiver.serialize streams = .ok bytes ∧ w.archiver.validate bytes = .ok () ∧
        w.refusal path = none ∧ writeArchive w path streams = .ok bytes) ∨
      ∃ f, w.Unarchived path streams f ∧ writeArchive w path streams = .error f := by
  unfold writeArchive
  split
  next cause fails => exact Or.inr ⟨_, .unserialized fails, rfl⟩
  next bytes made =>
    split
    next cause fails => exact Or.inr ⟨_, .invalid made fails, rfl⟩
    next valid =>
      split
      next cause fails => exact Or.inr ⟨_, .refused made valid fails, rfl⟩
      next writable => exact Or.inl ⟨bytes, made, valid, writable, rfl⟩

/-- what is written was serialized, and is valid -/
theorem made_of_writeArchive (h : writeArchive w path streams = .ok bytes) :
    w.archiver.serialize streams = .ok bytes ∧ w.archiver.validate bytes = .ok () := by
  rcases writeArchive_cases w path streams with ⟨bytes', made, valid, -, written⟩ | ⟨f, -, fails⟩
  · obtain rfl := Except.ok.inj (written.symm.trans h)
    exact ⟨made, valid⟩
  · rw [fails] at h
    cases h

theorem World.Unarchived.not_archives (h : w.Unarchived path streams f) : ¬ w.Archives path streams := by
  rintro ⟨⟨bytes, made, valid⟩, writable⟩
  cases h with
  | unserialized fails =>
    rw [made] at fails
    cases fails
  | invalid made' fails =>
    obtain rfl := Except.ok.inj (made.symm.trans made')
    rw [valid] at fails
    cases fails
  | refused _ _ fails =>
    rw [writable] at fails
    cases fails

/-- what becomes of the archive that is asked for: it is written if there is one, or it fails -/
def archiving (o : Options) (w : World) (streams : List TokenStream) :
    Except Failure (Option (String × List UInt8)) :=
  match o.archive with
  | none => .ok none
  | some path => (writeArchive w path streams).map fun bytes => some (path, bytes)

theorem archiving_of_none (unasked : o.archive = none) : archiving o w streams = .ok none := by
  simp only [archiving, unasked]

theorem archiving_of_some (asked : o.archive = some path) :
    archiving o w streams = (writeArchive w path streams).map fun bytes => some (path, bytes) := by
  simp only [archiving, asked]

/-- of the options, it is told by the path alone -/
theorem archiving_congr {o' : Options} (same : o'.archive = o.archive) :
    archiving o' w streams = archiving o w streams := by
  rw [archiving, archiving, same]

/-- an archive that is asked for and can be written is written -/
theorem archiving_of_archives (asked : o.archive = some path) (archives : w.Archives path streams) :
    ∃ bytes, archiving o w streams = .ok (some (path, bytes)) := by
  rw [archiving_of_some asked]
  rcases writeArchive_cases w path streams with ⟨bytes, -, -, -, written⟩ | ⟨f, unarchived, -⟩
  · rw [written]
    exact ⟨bytes, rfl⟩
  · exact absurd archives unarchived.not_archives

theorem exists_archiving (archives : ∀ path ∈ o.archive, w.Archives path streams) :
    ∃ archive, archiving o w streams = .ok archive := by
  cases asked : o.archive with
  | none => exact ⟨none, archiving_of_none asked⟩
  | some path =>
    obtain ⟨bytes, written⟩ := archiving_of_archives asked (archives path asked)
    exact ⟨_, written⟩

/-- an archive that is asked for and cannot be written fails -/
theorem archiving_of_not_archives (asked : o.archive = some path) (unable : ¬ w.Archives path streams) :
    ∃ f, w.Unarchived path streams f ∧ archiving o w streams = .error f := by
  rw [archiving_of_some asked]
  rcases writeArchive_cases w path streams with ⟨bytes, made, valid, writable, -⟩ | ⟨f, unarchived, fails⟩
  · exact absurd ⟨⟨bytes, made, valid⟩, writable⟩ unable
  · rw [fails]
    exact ⟨f, unarchived, rfl⟩

/-- what is written is at the path that was asked for, and holds the streams as the archiver serializes them -/
theorem made_of_archiving (h : (archiving o w streams).toOption.join = some (path, bytes)) :
    o.archive = some path ∧ w.archiver.serialize streams = .ok bytes ∧ w.archiver.validate bytes = .ok () := by
  cases asked : o.archive with
  | none =>
    rw [archiving_of_none asked] at h
    cases h
  | some path' =>
    rw [archiving_of_some asked] at h
    cases written : writeArchive w path' streams with
    | error f =>
      rw [written] at h
      cases h
    | ok bytes' =>
      rw [written] at h
      cases h
      exact ⟨rfl, made_of_writeArchive written⟩

/-! ## From the streams on -/

/-- what is printed for some streams -/
def printed (o : Options) (streams : List TokenStream) : String :=
  if o.quiet then "" else report o.format streams

/-- the diagnostics of some streams as a run gives them -/
def diagnosticNotices (o : Options) (streams : List TokenStream) : List Notice :=
  (streams.flatMap diagnose).map (.found o.level)

/-- the notice that the archive is written -/
def archivedNotices (o : Options) : List Notice :=
  progress o (o.archive.toList.map .archived)

/-- the failure of a run that denies the errors of some streams -/
def denialNotices (o : Options) (streams : List TokenStream) : List Notice :=
  if o.denyErrors && !(streams.flatMap diagnose).isEmpty then
    [.failed (.errorsDenied (streams.flatMap diagnose).length)]
  else []

theorem isProgress_of_mem_archivedNotices : ∀ n ∈ archivedNotices o, n.isProgress := by
  apply isProgress_of_mem_progress
  intro n hn
  obtain ⟨path, -, rfl⟩ := List.mem_map.1 hn
  rfl

theorem filter_isFound_diagnosticNotices (o : Options) (streams : List TokenStream) :
    (diagnosticNotices o streams).filter Notice.isFound = diagnosticNotices o streams := by
  refine List.filter_eq_self.2 fun n hn => ?_
  obtain ⟨d, -, rfl⟩ := List.mem_map.1 hn
  rfl

theorem denialNotices_cases (o : Options) (streams : List TokenStream) :
    denialNotices o streams = [] ∨ ∃ count, denialNotices o streams = [.failed (.errorsDenied count)] := by
  unfold denialNotices
  split
  next => exact Or.inr ⟨_, rfl⟩
  next => exact Or.inl rfl

/-- how a run concludes is told by what becomes of its archive -/
theorem conclude_eq (o : Options) (w : World) (notices : List Notice) (streams : List TokenStream) :
    conclude o w notices streams =
      match archiving o w streams with
      | .error f => ⟨1, printed o streams, notices ++ diagnosticNotices o streams ++ [.failed f], none⟩
      | .ok archive => ⟨if (denialNotices o streams).isEmpty then 0 else 1, printed o streams,
          notices ++ diagnosticNotices o streams ++ archivedNotices o ++ denialNotices o streams, archive⟩ := by
  cases asked : o.archive with
  | none =>
    have silent : archivedNotices o = [] := by
      rw [archivedNotices, asked, progress]
      exact ite_self _
    simp only [conclude, asked, archiving, silent, List.append_nil]
    rfl
  | some path =>
    cases written : writeArchive w path streams with
    | error f =>
      simp only [conclude, asked, archiving, written]
      rfl
    | ok bytes =>
      simp only [conclude, asked, archiving, written, archivedNotices]
      rfl

theorem conclude_of_error (fails : archiving o w streams = .error f) :
    conclude o w notices streams =
      ⟨1, printed o streams, notices ++ diagnosticNotices o streams ++ [.failed f], none⟩ := by
  rw [conclude_eq, fails]

theorem conclude_of_ok (done : archiving o w streams = .ok archive) :
    conclude o w notices streams = ⟨if (denialNotices o streams).isEmpty then 0 else 1, printed o streams,
      notices ++ diagnosticNotices o streams ++ archivedNotices o ++ denialNotices o streams, archive⟩ := by
  rw [conclude_eq, done]

theorem conclude_stdout (o : Options) (w : World) (notices : List Notice) (streams : List TokenStream) :
    (conclude o w notices streams).stdout = printed o streams := by
  rw [conclude_eq]
  cases archiving o w streams with
  | error f => rfl
  | ok archive => rfl

theorem conclude_archive (o : Options) (w : World) (notices : List Notice) (streams : List TokenStream) :
    (conclude o w notices streams).archive = (archiving o w streams).toOption.join := by
  rw [conclude_eq]
  cases archiving o w streams with
  | error f => rfl
  | ok archive => rfl

theorem stdout_of_reads (configures : w.Configures o.config lexer) (reads : w.Reads w.input o.files sources) :
    (run o w).stdout = printed o (scanned lexer sources) := by
  rw [run_of_reads configures reads, conclude_stdout]

theorem archive_of_reads (configures : w.Configures o.config lexer) (reads : w.Reads w.input o.files sources) :
    (run o w).archive = (archiving o w (scanned lexer sources)).toOption.join := by
  rw [run_of_reads configures reads, conclude_archive]

/-- the diagnostics that a run gives are those of its streams -/
theorem filter_isFound_run (configures : w.Configures o.config lexer) (reads : w.Reads w.input o.files sources) :
    (run o w).notices.filter Notice.isFound = diagnosticNotices o (scanned lexer sources) := by
  have scanning : (scanningNotices o lexer sources).filter Notice.isFound = [] :=
    filter_isFound_progress isProgress_of_mem_scanningNotices
  have archiving_said : (archivedNotices o).filter Notice.isFound = [] :=
    filter_isFound_progress isProgress_of_mem_archivedNotices
  rw [run_of_reads configures reads, conclude_eq]
  cases archiving o w (scanned lexer sources) with
  | error f =>
    simp only [List.filter_append, scanning, filter_isFound_diagnosticNotices, List.nil_append]
    exact List.append_nil _
  | ok archive =>
    have denying : (denialNotices o (scanned lexer sources)).filter Notice.isFound = [] := by
      rcases denialNotices_cases o (scanned lexer sources) with none | ⟨count, denied⟩
      · rw [none, List.filter_nil]
      · rw [denied]
        rfl
    simp only [List.filter_append, scanning, archiving_said, denying, filter_isFound_diagnosticNotices,
      List.nil_append, List.append_nil]

end TokenScanner.Command
