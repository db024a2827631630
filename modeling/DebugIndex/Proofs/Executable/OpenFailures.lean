import DebugIndex.CommandLine.Run
import DebugIndex.Proofs.Database.MemoryExhaustion
import DebugIndex.Proofs.FileSystem.Writing

/-!
# What opening an executable can fail with

Most failures on the way to the index of an executable are told as such: the executable could
not be read, has no debug information, or the debug information is malformed.  What is not
told so passes by: a path that holds a null character, a fault of the reader that neither says
that anything is malformed nor comes from the system, and values that nothing can be done with.
The faults come through where nothing stands around the reader: while the file is taken apart,
while the units are gone through, and when the top entry of a unit is fetched.
-/

namespace DebugIndex

namespace FileSystem

variable {files : FileSystem} {path : String}

theorem follow_ne_embeddedNull (place names : List String) :
    files.follow place names ≠ .error .embeddedNull := by
  fun_induction files.follow place names with
  | case1 | case2 | case3 | case6 | case7 => nofun
  | case4 _ _ _ _ _ _ ih | case5 _ _ _ _ _ ih | case8 _ _ _ _ _ _ _ _ _ _ ih => exact ih

theorem accept_eq_embeddedNull_iff :
    accept path = .error .embeddedNull ↔ path.contains '\x00' = true := by
  simp only [accept]
  split
  case isTrue null => simp [null]
  case isFalse clean =>
    refine iff_of_false (fun failed => ?_) clean
    split at failed
    · cases failed
    · split at failed <;> cases failed

theorem allow_ne_embeddedNull (obstacle : Option SystemError) :
    allow obstacle ≠ .error .embeddedNull := by
  cases obstacle <;> nofun

theorem inspect_eq_embeddedNull_iff :
    files.inspect path = .error .embeddedNull ↔ path.contains '\x00' = true := by
  rw [← accept_eq_embeddedNull_iff, inspect]
  cases accepted : accept path with
  | error reason => simp [bind, Except.bind]
  | ok =>
      have unlike := allow_ne_embeddedNull (files.obstacles.inspecting path)
      cases allowed : allow (files.obstacles.inspecting path) with
      | error reason => simpa [bind, Except.bind, allowed] using unlike
      | ok =>
          have unlike := @follow_ne_embeddedNull files (files.origin path) (components path)
          cases followed : files.follow (files.origin path) (components path) with
          | error reason => simpa [bind, Except.bind, followed] using unlike
          | ok place => cases held : files.node? place <;> simp [bind, Except.bind, held]

theorem openFile_eq_embeddedNull_iff :
    files.openFile path = .error .embeddedNull ↔ path.contains '\x00' = true := by
  rw [← @inspect_eq_embeddedNull_iff files, openFile]
  rcases files.inspect path with reason | modified | ⟨content, modified⟩
  · simp [bind, Except.bind]
  · simp [bind, Except.bind]
  · have unlike := allow_ne_embeddedNull (files.obstacles.opening path)
    cases allowed : allow (files.obstacles.opening path) with
    | error reason => simpa [bind, Except.bind, allowed] using unlike
    | ok => simp [bind, Except.bind]

end FileSystem

namespace Executable

/-- What the units of an executable are built with. -/
def contextFor (executable : Executable) (request : Session.Request) (searchPaths : List Value) :
    BuildContext :=
  Session.contextOf { request with executableModified := some executable.modified } searchPaths

/-- The build of a unit of the executable is gotten to: all units in front of it are built. -/
def Reaches (files : FileSystem) (read : ImageReader) (path : String)
    (request : Session.Request) (context : BuildContext) (item : UnitSource) : Prop :=
  ∃ executable searchPaths front back, openDescribed files read path = .ok executable ∧
    Session.searchPathsOf request = .ok searchPaths ∧
      context = executable.contextFor request searchPaths ∧
        executable.units.items = front ++ item :: back ∧
          ∀ earlier ∈ front, ∃ unit, (context.build earlier).outcome = .ok unit

/-- What keeps a session from being opened without being told as a failure of the executable. -/
inductive Escapes (files : FileSystem) (read : ImageReader) (path : String)
    (request : Session.Request) : Failure → Prop
  | path (null : path.contains '\x00' = true) :
      Escapes files read path request (.file .embeddedNull path)
  | workingDirectory (clean : path.contains '\x00' = false)
      (null : (files.absolute path).contains '\x00' = true) :
      Escapes files read path request (.file .embeddedNull (files.absolute path))
  | file {content : List UInt8} {modified : Int} {fault : Fault}
      (clean : path.contains '\x00' = false)
      (found : files.openFile (files.absolute path) = .ok (content, modified))
      (refused : read content = .error fault ∨
        ∃ image, read content = .ok image ∧ image.debugInformation = some (.error fault))
      (wellFormed : fault.isMalformed = false) (own : fault.kind ≠ .system) :
      Escapes files read path request (.reader fault)
  | searchPaths {executable : Executable} {value : Value}
      (opened : openDescribed files read path = .ok executable)
      (unsettled : Session.searchPathsOf request = .error value) :
      Escapes files read path request (.searchPaths value)
  | value {context : BuildContext} {item : UnitSource} {failure : Failure}
      (reached : Reaches files read path request context item)
      (failed : (context.build item).outcome = .error failure)
      (overValue : failure.IsOverValue) : Escapes files read path request failure
  | top {context : BuildContext} {item : UnitSource} {fault : Fault}
      (reached : Reaches files read path request context item)
      (failed : item.top = .error fault) (wellFormed : fault.isMalformed = false)
      (tolerable : fault.isFatal = false) : Escapes files read path request (.reader fault)
  | units {executable : Executable} {searchPaths : List Value} {fault : Fault}
      (opened : openDescribed files read path = .ok executable)
      (settled : Session.searchPathsOf request = .ok searchPaths)
      (built : ∀ item ∈ executable.units.items, ∃ unit,
        ((executable.contextFor request searchPaths).build item).outcome = .ok unit)
      (ended : executable.units.fault = some fault) (wellFormed : fault.isMalformed = false) :
      Escapes files read path request (.reader fault)

variable {files : FileSystem} {read : ImageReader} {path : String} {request : Session.Request}
  {failure : Failure} {fault : Fault}

/-! ## Opening the file -/

theorem openFailure_file_not_told_iff {reason : FileError} {real : String} :
    openFailure path (.file reason real) = failure ∧ failure.isIndexFailure = false ↔
      reason = .embeddedNull ∧ failure = .file .embeddedNull real := by
  by_cases null : reason = .embeddedNull
  · subst null
    simp only [openFailure, FileError.isReported, true_and]
    constructor
    · rintro ⟨rfl, -⟩
      rfl
    · rintro rfl
      exact ⟨rfl, rfl⟩
  · simp only [openFailure, FileError.isReported, null, ne_eq, not_false_eq_true, decide_true,
      if_true, false_and, iff_false]
    rintro ⟨rfl, told⟩
    cases told

theorem openFailure_reader_not_told_iff :
    openFailure path (.reader fault) = failure ∧ failure.isIndexFailure = false ↔
      fault.isMalformed = false ∧ fault.kind ≠ .system ∧ failure = .reader fault := by
  simp only [openFailure, Bool.or_eq_true, decide_eq_true_eq]
  split
  case isTrue told =>
    constructor
    · rintro ⟨rfl, untold⟩
      cases untold
    · rintro ⟨wellFormed, own, -⟩
      rcases told with malformed | system
      · rw [wellFormed] at malformed
        cases malformed
      · exact absurd system own
  case isFalse untold =>
    obtain ⟨wellFormed, own⟩ := not_or.mp untold
    constructor
    · rintro ⟨rfl, -⟩
      exact ⟨Bool.eq_false_iff.mpr wellFormed, own, rfl⟩
    · rintro ⟨-, -, rfl⟩
      exact ⟨rfl, rfl⟩

/-- Of what keeps a file from being opened, a null character and some faults of the reader are
not told. -/
theorem openFailure_not_told_iff {cause : OpenError} :
    openFailure path cause = failure ∧ failure.isIndexFailure = false ↔
      (∃ real, cause = .file .embeddedNull real ∧ failure = .file .embeddedNull real) ∨
        ∃ fault, cause = .reader fault ∧ fault.isMalformed = false ∧ fault.kind ≠ .system ∧
          failure = .reader fault := by
  cases cause with
  | file reason real => simp [openFailure_file_not_told_iff, and_assoc]
  | reader fault => simp [openFailure_reader_not_told_iff]

theorem informationOf_eq_error_iff {image : Image} :
    informationOf image = .error fault ↔ image.debugInformation = some (.error fault) := by
  simp only [informationOf]
  rcases image.debugInformation with - | - | information <;> simp

/-- The faults of the reader that keep a file from being opened are those over its content and
over its debug information. -/
theorem openAt_eq_reader_iff :
    openAt files read path = .error (.reader fault) ↔
      path.contains '\x00' = false ∧ ∃ content modified,
        files.openFile (files.absolute path) = .ok (content, modified) ∧
          (read content = .error fault ∨
            ∃ image, read content = .ok image ∧ image.debugInformation = some (.error fault)) := by
  simp only [openAt, ← informationOf_eq_error_iff]
  cases path.contains '\x00' with
  | true => simp
  | false =>
      rcases files.openFile (files.absolute path) with reason | ⟨content, modified⟩
      · simp
      · simp only [Bool.false_eq_true, if_false, true_and, Except.ok.injEq, Prod.mk.injEq]
        cases got : read content with
        | error given => simp [got]
        | ok image => cases informed : informationOf image <;> simp [got, informed]

theorem openAt_eq_embeddedNull_iff {real : String} :
    openAt files read path = .error (.file .embeddedNull real) ↔
      (path.contains '\x00' = true ∧ real = path) ∨
        (path.contains '\x00' = false ∧ (files.absolute path).contains '\x00' = true ∧
          real = files.absolute path) := by
  simp only [openAt, ← @FileSystem.openFile_eq_embeddedNull_iff files (files.absolute path)]
  cases path.contains '\x00' with
  | true => simp [eq_comm]
  | false =>
      rcases files.openFile (files.absolute path) with reason | ⟨content, modified⟩
      · simp [eq_comm]
      · simp only [Bool.false_eq_true, if_false]
        cases read content with
        | error given => simp
        | ok image => cases informed : informationOf image <;> simp [informed]

theorem openDescribed_not_told_iff :
    openDescribed files read path = .error failure ∧ failure.isIndexFailure = false ↔
      (∃ real, openAt files read path = .error (.file .embeddedNull real) ∧
          failure = .file .embeddedNull real) ∨
        ∃ fault, openAt files read path = .error (.reader fault) ∧ fault.isMalformed = false ∧
          fault.kind ≠ .system ∧ failure = .reader fault := by
  simp only [openDescribed]
  cases openAt files read path with
  | error cause => simp only [Except.error.injEq, openFailure_not_told_iff]
  | ok executable =>
      simp only [reduceCtorEq, false_and, exists_false, or_false, iff_false]
      split
      · nofun
      · rintro ⟨same, untold⟩
        obtain rfl := Except.error.inj same
        cases untold

/-! ## Starting the session -/

theorem readFailure_not_told_iff {given : Failure} :
    readFailure path given = failure ∧ failure.isIndexFailure = false ↔
      given = failure ∧ failure.isIndexFailure = false ∧
        ∀ fault, failure = .reader fault → fault.isMalformed = false := by
  cases given with
  | reader fault =>
      simp only [readFailure]
      split
      case isTrue malformed =>
        constructor
        · rintro ⟨rfl, told⟩
          cases told
        · rintro ⟨rfl, -, wellFormed⟩
          rw [wellFormed fault rfl] at malformed
          cases malformed
      case isFalse wellFormed =>
        constructor
        · rintro ⟨rfl, untold⟩
          refine ⟨rfl, untold, fun given same => ?_⟩
          obtain rfl := Failure.reader.inj same
          exact Bool.eq_false_iff.mpr wellFormed
        · rintro ⟨rfl, untold, -⟩
          exact ⟨rfl, untold⟩
  | _ =>
      simp only [readFailure]
      constructor
      · rintro ⟨rfl, untold⟩
        exact ⟨rfl, untold, nofun⟩
      · rintro ⟨rfl, untold, -⟩
        exact ⟨rfl, untold⟩

/-- A unit that is not built is not told of unless memory has run out: what it fails with is
over some value, or the reader's for the top entry. -/
theorem outcome_buildUnit_not_told_iff {context : BuildContext} {item : UnitSource} :
    (Database.buildUnit context item).outcome = .error failure ∧
        failure.isIndexFailure = false ↔
      ((context.build item).outcome = .error failure ∧ failure.IsOverValue) ∨
        ∃ fault, item.top = .error fault ∧ fault.isFatal = false ∧ failure = .reader fault := by
  simp only [Database.buildUnit, Report.outcome_mapFailure_eq_error_iff]
  constructor
  · rintro ⟨⟨given, failed, rfl⟩, untold⟩
    rcases BuildContext.failsOnlyWith_isOverValue_build given failed with overValue | ⟨fault, rfl⟩
    · have kept : Database.unitFailure item.offset given = given := by
        cases given <;> first | rfl | exact overValue.elim
      rw [kept]
      exact Or.inl ⟨failed, overValue⟩
    · simp only [Database.unitFailure] at untold ⊢
      split at untold
      case isTrue => cases untold
      case isFalse tolerable =>
        rw [if_neg tolerable]
        have lasting : fault.isFatal = false := Bool.eq_false_iff.mpr tolerable
        exact Or.inr ⟨fault, (BuildContext.outcome_build_eq_tolerable_iff lasting).mp failed,
          lasting, rfl⟩
  · rintro (⟨failed, overValue⟩ | ⟨fault, failed, tolerable, rfl⟩)
    · cases failure <;> first | exact overValue.elim | exact ⟨⟨_, failed, rfl⟩, rfl⟩
    · refine ⟨⟨_, BuildContext.outcome_build_of_top_error failed, ?_⟩, rfl⟩
      simp [Database.unitFailure, tolerable]

/-- A session fails to be opened with what the executable fails to be opened with, or with what
the session fails to be started with. -/
theorem outcome_openSession_eq_error_iff :
    (openSession files read path request).outcome = .error failure ↔
      openDescribed files read path = .error failure ∨
        ∃ executable, openDescribed files read path = .ok executable ∧
          (executable.start path request).outcome = .error failure := by
  simp [openSession]

theorem escapes_of_openDescribed (failed : openDescribed files read path = .error failure)
    (untold : failure.isIndexFailure = false) : Escapes files read path request failure := by
  rcases openDescribed_not_told_iff.mp ⟨failed, untold⟩ with
    ⟨real, refused, rfl⟩ | ⟨fault, refused, wellFormed, own, rfl⟩
  · rcases openAt_eq_embeddedNull_iff.mp refused with ⟨null, rfl⟩ | ⟨clean, null, rfl⟩
    · exact .path null
    · exact .workingDirectory clean null
  · obtain ⟨clean, content, modified, found, unread⟩ := openAt_eq_reader_iff.mp refused
    exact .file clean found unread wellFormed own

theorem escapes_of_start {executable : Executable}
    (opened : openDescribed files read path = .ok executable)
    (failed : (executable.start path request).outcome = .error failure)
    (untold : failure.isIndexFailure = false) : Escapes files read path request failure := by
  obtain ⟨given, started, replaced⟩ := Report.outcome_mapFailure_eq_error_iff.mp failed
  obtain ⟨rfl, -, wellFormed⟩ := readFailure_not_told_iff.mp ⟨replaced, untold⟩
  rcases Session.outcome_start_eq_error_iff.mp started with
    ⟨value, unsettled, rfl⟩ | ⟨searchPaths, settled, uningested⟩
  · exact .searchPaths opened unsettled
  · rcases Database.outcome_ingest_eq_error_iff.mp uningested with
      ⟨front, item, back, listed, earlier, unbuilt⟩ | ⟨built, fault, ended, rfl⟩
    · have reached : Reaches files read path request (executable.contextFor request searchPaths)
          item := ⟨executable, searchPaths, front, back, opened, settled, rfl, listed, earlier⟩
      rcases outcome_buildUnit_not_told_iff.mp ⟨unbuilt, untold⟩ with
        ⟨broken, overValue⟩ | ⟨fault, unfetched, tolerable, rfl⟩
      · exact .value reached broken overValue
      · exact .top reached unfetched (wellFormed fault rfl) tolerable
    · exact .units opened settled built ended (wellFormed fault rfl)

theorem outcome_start_of_ingest {executable : Executable} {searchPaths : List Value}
    (settled : Session.searchPathsOf request = .ok searchPaths)
    (failed : (Database.ingest (executable.contextFor request searchPaths) executable.units
      request.elapsed).outcome = .error failure) (untold : failure.isIndexFailure = false)
    (wellFormed : ∀ fault, failure = .reader fault → fault.isMalformed = false) :
    (executable.start path request).outcome = .error failure := by
  refine Report.outcome_mapFailure_eq_error_iff.mpr ⟨failure, ?_, ?_⟩
  · exact Session.outcome_start_eq_error_iff.mpr (Or.inr ⟨searchPaths, settled, failed⟩)
  · exact (readFailure_not_told_iff.mpr ⟨rfl, untold, wellFormed⟩).1

theorem outcome_openSession_of_openDescribed
    (refused : openDescribed files read path = .error failure ∧ failure.isIndexFailure = false) :
    (openSession files read path request).outcome = .error failure ∧
      failure.isIndexFailure = false :=
  ⟨outcome_openSession_eq_error_iff.mpr (Or.inl refused.1), refused.2⟩

/-- A unit that is gotten to and not built keeps the session from being opened. -/
theorem outcome_openSession_of_reaches {context : BuildContext} {item : UnitSource}
    (reached : Reaches files read path request context item)
    (failed : (Database.buildUnit context item).outcome = .error failure)
    (untold : failure.isIndexFailure = false)
    (wellFormed : ∀ fault, failure = .reader fault → fault.isMalformed = false) :
    (openSession files read path request).outcome = .error failure := by
  obtain ⟨executable, searchPaths, front, back, opened, settled, rfl, listed, earlier⟩ := reached
  refine outcome_openSession_eq_error_iff.mpr (Or.inr ⟨executable, opened, ?_⟩)
  exact outcome_start_of_ingest settled (Database.outcome_ingest_eq_error_iff.mpr
    (Or.inl ⟨front, item, back, listed, earlier, failed⟩)) untold wellFormed

theorem escapes_of_openSession
    (failed : (openSession files read path request).outcome = .error failure)
    (untold : failure.isIndexFailure = false) : Escapes files read path request failure := by
  rcases outcome_openSession_eq_error_iff.mp failed with unopened | ⟨executable, opened, started⟩
  · exact escapes_of_openDescribed unopened untold
  · exact escapes_of_start opened started untold

theorem outcome_openSession_of_escapes (escapes : Escapes files read path request failure) :
    (openSession files read path request).outcome = .error failure ∧
      failure.isIndexFailure = false := by
  cases escapes with
  | path null =>
      exact outcome_openSession_of_openDescribed (openDescribed_not_told_iff.mpr
        (Or.inl ⟨_, openAt_eq_embeddedNull_iff.mpr (Or.inl ⟨null, rfl⟩), rfl⟩))
  | workingDirectory clean null =>
      exact outcome_openSession_of_openDescribed (openDescribed_not_told_iff.mpr
        (Or.inl ⟨_, openAt_eq_embeddedNull_iff.mpr (Or.inr ⟨clean, null, rfl⟩), rfl⟩))
  | file clean found unread wellFormed own =>
      exact outcome_openSession_of_openDescribed (openDescribed_not_told_iff.mpr (Or.inr
        ⟨_, openAt_eq_reader_iff.mpr ⟨clean, _, _, found, unread⟩, wellFormed, own, rfl⟩))
  | @searchPaths executable value opened unsettled =>
      refine ⟨outcome_openSession_eq_error_iff.mpr (Or.inr ⟨executable, opened, ?_⟩), rfl⟩
      refine Report.outcome_mapFailure_eq_error_iff.mpr ⟨.searchPaths value, ?_, rfl⟩
      exact Session.outcome_start_eq_error_iff.mpr (Or.inl ⟨value, unsettled, rfl⟩)
  | value reached failed overValue =>
      obtain ⟨unbuilt, untold⟩ :=
        outcome_buildUnit_not_told_iff.mpr (Or.inl ⟨failed, overValue⟩)
      refine ⟨outcome_openSession_of_reaches reached unbuilt untold ?_, untold⟩
      rintro fault rfl
      exact overValue.elim
  | top reached failed wellFormed tolerable =>
      obtain ⟨unbuilt, untold⟩ :=
        outcome_buildUnit_not_told_iff.mpr (Or.inr ⟨_, failed, tolerable, rfl⟩)
      refine ⟨outcome_openSession_of_reaches reached unbuilt untold ?_, untold⟩
      intro fault same
      obtain rfl := Failure.reader.inj same
      exact wellFormed
  | @units executable searchPaths fault opened settled built ended wellFormed =>
      refine ⟨outcome_openSession_eq_error_iff.mpr (Or.inr ⟨executable, opened, ?_⟩), rfl⟩
      refine outcome_start_of_ingest settled (Database.outcome_ingest_eq_error_iff.mpr
        (Or.inr ⟨built, fault, ended, rfl⟩)) rfl ?_
      intro given same
      obtain rfl := Failure.reader.inj same
      exact wellFormed

/-- Where a session fails to be opened, the failure is told as one of opening or reading the
executable, unless it escapes: what escapes are null characters, values that nothing can be done
with, and faults of the reader that are neither lack of memory nor said to be malformed. -/
theorem outcome_openSession_not_told_iff (files : FileSystem) (read : ImageReader) (path : String)
    (request : Session.Request) (failure : Failure) :
    (openSession files read path request).outcome = .error failure ∧
        failure.isIndexFailure = false ↔
      Escapes files read path request failure :=
  ⟨fun ⟨failed, untold⟩ => escapes_of_openSession failed untold, outcome_openSession_of_escapes⟩

/-- A reader that takes any file for an executable, but is let down by the system when it goes
through the units. -/
def readInterrupted : ImageReader := fun _ =>
  .ok { debugInformation := some (.ok { units := ⟨[], some ⟨.system, "read failed"⟩⟩ }) }

def programFiles : FileSystem where
  nodes := [(["prog.elf"], .file [] 1000000000)]

def programRequest : Session.Request where
  files := programFiles
  store := { path := ".dwarf_symdb.conf" }

theorem openAt_programFiles :
    openAt programFiles readInterrupted "prog.elf" =
      .ok ⟨"/prog.elf", 1000000000, .little,
        some { units := ⟨[], some ⟨.system, "read failed"⟩⟩ }⟩ := by
  have relative : "prog.elf".startsWith "/" = false := by simp
  have rooted : "/prog.elf".startsWith "/" = true := by simp
  have real : programFiles.absolute "prog.elf" = "/prog.elf" := by
    simp only [FileSystem.absolute, FileSystem.origin, relative]
    rfl
  have found : programFiles.inspect "/prog.elf" = .ok (.file [] 1000000000) := by
    simp only [FileSystem.inspect, FileSystem.accept, FileSystem.origin, rooted,
      String.contains_char_eq]
    rfl
  have opened : programFiles.openFile "/prog.elf" = .ok ([], 1000000000) :=
    FileSystem.openFile_eq_ok_iff.mpr ⟨found, rfl⟩
  simp only [openAt, real, opened, String.contains_char_eq]
  rfl

/-- Two ways in which a session is not opened, though no memory is lacking, and the failure is
not told as one of the executable: units that can not be gone through, and a path with a null
character. -/
theorem outcome_openSession_programFiles :
    (∃ failure, (openSession programFiles readInterrupted "prog.elf" programRequest).outcome =
        .error failure ∧ failure.isIndexFailure = false) ∧
      ∃ failure, (openSession programFiles readInterrupted "prog\x00elf" programRequest).outcome =
        .error failure ∧ failure.isIndexFailure = false := by
  constructor
  · refine ⟨.reader ⟨.system, "read failed"⟩, ?_, rfl⟩
    simp only [openSession, openDescribed, openAt_programFiles]
    rfl
  · exact ⟨_, outcome_openSession_of_escapes (.path (by simp [String.contains_char_eq]))⟩

end Executable

namespace CommandLine

open Executable

/-- On the command line a failure to open a session ends the run with a message, and with an
error of its own exactly if it escapes. -/
theorem inspect_of_openSession_error {world : World} {options : Options} {path : String}
    {store : SettingsStore} {failure : Failure}
    (failed : (openSession world.files world.read path
      (requestOf world options store)).outcome = .error failure) :
    (failure.isIndexFailure = true ∧
        ∃ output, inspect world options path store = .ok ⟨1, output, ""⟩) ∨
      (Escapes world.files world.read path (requestOf world options store) failure ∧
        inspect world options path store = .error failure) := by
  have gaveUp : ∃ enabled output, inspect world options path store =
      giveUp enabled output failure := by
    simp only [inspect, failed]
    exact ⟨_, _, rfl⟩
  obtain ⟨enabled, output, ended⟩ := gaveUp
  simp only [ended, giveUp]
  cases told : failure.isIndexFailure with
  | true => exact Or.inl ⟨rfl, _, rfl⟩
  | false =>
      exact Or.inr ⟨escapes_of_openSession failed told, rfl⟩

end CommandLine
end DebugIndex
