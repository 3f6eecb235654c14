import CertConsole.Proofs.ProgramRun

/-!
# What is checked before a port is opened

Five settings may not be zero. They are judged one after the other and the first that is zero is
told (`FirstZero`); a job judges the settings of the port first, the program the limits of the plan.
What can come of a job and of a preparation is said once (`UploadJob.perform_cases`,
`Arguments.prepared_cases`), and `checked_before_opening` reads off it that nothing is opened, let
alone sent, before everything was judged.
-/
namespace CertConsole

/-- What the message about an unusable setting names. -/
def ConfigFault.subject : ConfigFault → String
  | .zeroBaud => "baud rate"
  | .zeroTimeout => "timeout"
  | .noBeginAttempts => "begin_attempts"
  | .noEndAttempts => "end_attempts"
  | .noStatusAttempts => "status_attempts"

/-- The message about an unusable setting opens with what it is about. -/
theorem ConfigFault.message_subject (cause : ConfigFault) :
    ∃ rule, (Fault.config cause).message =
      "Configuration error: " ++ (cause.subject ++ (" must be " ++ rule)) := by
  cases cause with
  | zeroBaud | zeroTimeout => exact ⟨"greater than zero", rfl⟩
  | noBeginAttempts | noEndAttempts | noStatusAttempts => exact ⟨"at least 1", rfl⟩

/-- The settings of a port that may not be zero, in the order that they are judged in. -/
def SerialSettings.judged (settings : SerialSettings) : List (Nat × ConfigFault) :=
  [(settings.baud, .zeroBaud), (settings.timeout, .zeroTimeout)]

/-- The limits of a plan, none of which may be zero. -/
def UploadPlan.judged (plan : UploadPlan) : List (Nat × ConfigFault) :=
  [(plan.beginAttempts, .noBeginAttempts), (plan.endAttempts, .noEndAttempts),
    (plan.statusAttempts, .noStatusAttempts)]

/-- Of some settings the first that is zero has this fault. -/
def FirstZero (judged : List (Nat × ConfigFault)) (cause : ConfigFault) : Prop :=
  ∃ before after, judged = before ++ (0, cause) :: after ∧ ∀ setting ∈ before, setting.1 ≠ 0

/-- None of some settings is zero. -/
def NoneZero (judged : List (Nat × ConfigFault)) : Prop := ∀ setting ∈ judged, setting.1 ≠ 0

/-- Settings that are judged in their order. -/
def verdict : List (Nat × ConfigFault) → Except ConfigFault Unit
  | [] => .ok ()
  | (value, cause) :: rest => if value = 0 then .error cause else verdict rest

/-- A setting that is not zero is the first zero of no settings; the others have theirs. -/
theorem firstZero_cons {value : Nat} {fault cause : ConfigFault}
    {rest : List (Nat × ConfigFault)} (set : value ≠ 0) :
    FirstZero ((value, fault) :: rest) cause ↔ FirstZero rest cause := by
  constructor
  · rintro ⟨before, after, cut, earlier⟩
    cases before with
    | nil =>
      cases cut
      exact absurd rfl set
    | cons setting before =>
      obtain ⟨-, behind⟩ := List.cons.inj cut
      exact ⟨before, after, behind, fun other inside =>
        earlier other (List.mem_cons_of_mem setting inside)⟩
  · rintro ⟨before, after, rfl, earlier⟩
    refine ⟨(value, fault) :: before, after, rfl, fun other inside => ?_⟩
    rcases List.mem_cons.mp inside with rfl | later
    · exact set
    · exact earlier other later

/-- The verdict is the fault of the first setting that is zero. -/
theorem verdict_error_iff (judged : List (Nat × ConfigFault)) (cause : ConfigFault) :
    verdict judged = .error cause ↔ FirstZero judged cause := by
  induction judged with
  | nil =>
    constructor
    · intro failed
      cases failed
    · rintro ⟨before, after, cut, -⟩
      cases before <;> cases cut
  | cons setting rest ih =>
    obtain ⟨value, fault⟩ := setting
    by_cases zero : value = 0
    · subst zero
      have told : verdict ((0, fault) :: rest) = .error fault := if_pos rfl
      rw [told]
      constructor
      · rintro ⟨⟩
        exact ⟨[], rest, rfl, nofun⟩
      · rintro ⟨before, after, cut, earlier⟩
        cases before with
        | nil =>
          cases cut
          rfl
        | cons first before =>
          obtain ⟨rfl, -⟩ := List.cons.inj cut
          exact absurd rfl (earlier (0, fault) List.mem_cons_self)
    · have passed : verdict ((value, fault) :: rest) = verdict rest := if_neg zero
      rw [passed, ih, firstZero_cons zero]

/-- Settings pass where none of them is zero. -/
theorem verdict_ok_iff (judged : List (Nat × ConfigFault)) :
    verdict judged = .ok () ↔ NoneZero judged := by
  induction judged with
  | nil => exact ⟨fun _ => nofun, fun _ => rfl⟩
  | cons setting rest ih =>
    obtain ⟨value, fault⟩ := setting
    have both : NoneZero ((value, fault) :: rest) ↔ value ≠ 0 ∧ NoneZero rest :=
      List.forall_mem_cons
    rw [both, ← ih, verdict]
    by_cases zero : value = 0 <;> simp [zero]

/-- Settings on end are judged on end. -/
theorem verdict_append (before after : List (Nat × ConfigFault)) :
    verdict (before ++ after) = verdict before >>= fun _ => verdict after := by
  induction before with
  | nil => rfl
  | cons setting rest ih =>
    obtain ⟨value, fault⟩ := setting
    rw [List.cons_append, verdict, verdict, ih]
    by_cases zero : value = 0
    · rw [if_pos zero, if_pos zero]
      rfl
    · rw [if_neg zero, if_neg zero]

/-- There is a first zero exactly where there is any. -/
theorem exists_firstZero_iff (judged : List (Nat × ConfigFault)) :
    (∃ cause, FirstZero judged cause) ↔ ∃ setting ∈ judged, setting.1 = 0 := by
  constructor
  · rintro ⟨cause, before, after, rfl, -⟩
    exact ⟨(0, cause), List.mem_append_right before List.mem_cons_self, rfl⟩
  · rintro ⟨setting, inside, zero⟩
    rcases outcome : verdict judged with cause | ⟨⟩
    · exact ⟨cause, (verdict_error_iff judged cause).mp outcome⟩
    · exact absurd zero ((verdict_ok_iff judged).mp outcome setting inside)

/-- Settings that have a first zero are not all set. -/
theorem FirstZero.not_noneZero {judged : List (Nat × ConfigFault)} {cause : ConfigFault}
    (first : FirstZero judged cause) : ¬ NoneZero judged := by
  intro set
  have failed := (verdict_error_iff judged cause).mpr first
  rw [(verdict_ok_iff judged).mpr set] at failed
  cases failed

/-- Settings of a port are checked by judging them in their order. -/
theorem SerialSettings.check_eq (settings : SerialSettings) :
    settings.check = verdict settings.judged := rfl

/-- A plan is checked by judging its limits in the order of the phases. -/
theorem UploadPlan.check_eq (plan : UploadPlan) : plan.check = verdict plan.judged := rfl

/-- A file that cannot be read holds no certificate. -/
theorem Certificate.ofFile_unreadable {files : Files} {path : String} {cause : FileError}
    (unreadable : files.read path = .error cause) :
    Certificate.ofFile files path = .error (.certificate path cause) := by
  rw [Certificate.ofFile, unreadable]

/-- The certificate in a file that can be read is that of its text. -/
theorem Certificate.ofFile_readable {files : Files} {path text : String}
    (readable : files.read path = .ok text) :
    Certificate.ofFile files path = .ok (.ofText text) := by
  rw [Certificate.ofFile, readable]

namespace UploadJob

/-- What is judged of a job: the settings of the port, then the limits of the plan. -/
def judged (job : UploadJob) : List (Nat × ConfigFault) := job.serial.judged ++ job.plan.judged

/-- A job is checked by judging it in this order. -/
theorem check_eq (job : UploadJob) : job.check = verdict job.judged := by
  have both : job.check = job.serial.check >>= fun _ => job.plan.check := rfl
  rw [both, SerialSettings.check_eq, UploadPlan.check_eq, judged, verdict_append]

variable {σ : Type} [Port σ] (openPort : SerialSettings → Except OpenError σ) (job : UploadJob)

/-- What can come of a job: a setting is zero and nothing is done; the port cannot be opened, and
only the attempt is told; or the upload takes place on the port that was opened. -/
theorem perform_cases :
    (∃ cause, FirstZero job.judged cause ∧
      job.perform openPort = { result := .error (.config cause) }) ∨
    (NoneZero job.judged ∧ ∃ error, openPort job.serial = .error error ∧
      job.perform openPort =
        { result := .error (.port (.driver error.message)), log := [openingEvent job.serial] }) ∨
    (NoneZero job.judged ∧ ∃ port, openPort job.serial = .ok port ∧
      job.perform openPort =
        let upload := (Upload.run job.plan job.certificate).run (session job.serial port)
        { result := upload.1.mapError .port, log := upload.2.log
          progress := upload.2.progress, port := some upload.2.port }) := by
  unfold perform
  rw [check_eq]
  rcases outcome : verdict job.judged with cause | ⟨⟩
  · exact .inl ⟨cause, (verdict_error_iff _ _).mp outcome, rfl⟩
  · have valid := (verdict_ok_iff _).mp outcome
    rcases opened : openPort job.serial with error | port
    · exact .inr (.inl ⟨valid, error, rfl, rfl⟩)
    · exact .inr (.inr ⟨valid, port, rfl, rfl⟩)

/-- A job is refused for a setting exactly where one is zero, and for the first that is. -/
theorem perform_config_iff (cause : ConfigFault) :
    (job.perform openPort).result = .error (.config cause) ↔ FirstZero job.judged cause := by
  rcases job.perform_cases openPort with
    ⟨first, zero, refused⟩ | ⟨set, error, -, unopened⟩ | ⟨set, port, -, done⟩
  · rw [refused, ← verdict_error_iff, (verdict_error_iff _ _).mpr zero]
    constructor
    · rintro ⟨⟩
      rfl
    · rintro ⟨⟩
      rfl
  · rw [unopened]
    constructor
    · rintro ⟨⟩
    · intro zero
      exact absurd set zero.not_noneZero
  · rw [done]
    constructor
    · intro failed
      rcases outcome :
        ((Upload.run job.plan job.certificate).run (session job.serial port)).1 with error | report
      · simp only [outcome] at failed
        cases failed
      · simp only [outcome] at failed
        cases failed
    · intro zero
      exact absurd set zero.not_noneZero

/-- A job with a setting that is zero does nothing: nothing is told, and no port is opened. -/
theorem perform_refused {cause : ConfigFault} (zero : FirstZero job.judged cause) :
    job.perform openPort = { result := .error (.config cause) } := by
  have refused : job.check = .error cause := by
    rw [check_eq]
    exact (verdict_error_iff _ _).mpr zero
  unfold perform
  rw [refused]

/-- A job that has opened its port is not refused for a setting. -/
theorem perform_opened (opened : (job.perform openPort).port ≠ none) (cause : ConfigFault) :
    (job.perform openPort).result ≠ .error (.config cause) := by
  intro refused
  have zero := (job.perform_config_iff openPort cause).mp refused
  rw [job.perform_refused openPort zero] at opened
  exact opened rfl

/-- The settings that a file is uploaded with are not zero. -/
theorem defaults_noneZero (port : String) (certificate : Certificate) :
    NoneZero ({ serial := { port }, certificate } : UploadJob).judged := by
  change NoneZero [(115200, .zeroBaud), (2000, .zeroTimeout), (100, .noBeginAttempts),
    (20, .noEndAttempts), (20, .noStatusAttempts)]
  unfold NoneZero
  decide

/-- A file that cannot be read is not uploaded: nothing is told, and no port is opened. -/
theorem performFile_unreadable {files : Files} {path : String} {cause : FileError}
    (unreadable : files.read path = .error cause) (port : String) :
    performFile files openPort port path = { result := .error (.certificate path cause) } := by
  unfold performFile
  rw [Certificate.ofFile_unreadable unreadable]

/-- A file that can be read is uploaded with the default settings. -/
theorem performFile_readable {files : Files} {path text : String}
    (readable : files.read path = .ok text) (port : String) :
    performFile files openPort port path =
      perform openPort { serial := { port }, certificate := .ofText text } := by
  unfold performFile
  rw [Certificate.ofFile_readable readable]

/-- A job has a fault of its settings, of its port, or none; it has none of its certificate. -/
theorem perform_certificate (path : String) (cause : FileError) :
    (job.perform openPort).result ≠ .error (.certificate path cause) := by
  rcases job.perform_cases openPort with
    ⟨first, -, refused⟩ | ⟨-, error, -, unopened⟩ | ⟨-, port, -, done⟩
  · rw [refused]
    nofun
  · rw [unopened]
    nofun
  · rw [done]
    rcases outcome : ((Upload.run job.plan job.certificate).run (session job.serial port)).1 with
      error | report <;>
      simp only [outcome] <;> nofun

/-- An upload of a file has a fault of the certificate exactly where the file cannot be read, and
the fault is that of the file. -/
theorem performFile_certificate_iff (files : Files) (port path file : String)
    (cause : FileError) :
    (performFile files openPort port path).result = .error (.certificate file cause) ↔
      file = path ∧ files.read path = .error cause := by
  rcases found : files.read path with error | text
  · rw [performFile_unreadable openPort found port]
    constructor
    · rintro ⟨⟩
      exact ⟨rfl, rfl⟩
    · rintro ⟨rfl, ⟨⟩⟩
      rfl
  · rw [performFile_readable openPort found port]
    constructor
    · intro failed
      exact absurd failed (perform_certificate openPort _ file cause)
    · rintro ⟨-, ⟨⟩⟩

/-- An upload of a file is not refused for a setting. -/
theorem performFile_config (files : Files) (port path : String) (cause : ConfigFault) :
    (performFile files openPort port path).result ≠ .error (.config cause) := by
  rcases found : files.read path with error | text
  · rw [performFile_unreadable openPort found port]
    nofun
  · rw [performFile_readable openPort found port, Ne, perform_config_iff]
    intro zero
    exact zero.not_noneZero (defaults_noneZero port (.ofText text))

end UploadJob

namespace Arguments

variable (arguments : Arguments) (environment : Environment) (files : Files)

/-- What the program judges before it reads the certificate: the limits of the plan, then the
settings of the port. -/
def judged : List (Nat × ConfigFault) :=
  (arguments.plan environment files).judged ++ (arguments.serialSettings environment files).judged

section Job

variable {arguments} {files} {config : Configuration}

/-- A job with limits that are refused. -/
theorem job_unplanned {cause : ConfigFault} (refused : config.plan.check = .error cause) :
    arguments.job config files = .error (.configuration cause) := by
  unfold job
  simp only [refused]

variable (planned : config.plan.check = .ok ())
include planned

/-- A job with settings of the port that are refused. -/
theorem job_unopened {cause : ConfigFault}
    (refused : (config.serialSettings arguments.port arguments.baud).check = .error cause) :
    arguments.job config files = .error (.configuration cause) := by
  unfold job
  simp only [planned, refused]

variable (opened : (config.serialSettings arguments.port arguments.baud).check = .ok ())
include opened

/-- A job without a certificate. -/
theorem job_unread {fault : Fault}
    (unread : Certificate.ofFile files arguments.certificate = .error fault) :
    arguments.job config files = .error (.certificate fault) := by
  unfold job
  simp only [planned, opened, unread]

/-- A job that can be begun. -/
theorem job_read {certificate : Certificate}
    (found : Certificate.ofFile files arguments.certificate = .ok certificate) :
    arguments.job config files =
      .ok { serial := config.serialSettings arguments.port arguments.baud
            plan := config.plan
            certificate } := by
  unfold job
  simp only [planned, opened, found]

end Job

/-- What can come of a preparation: a setting is zero; none is, and the certificate cannot be read;
or the job is that of the settings and the certificate. -/
theorem prepared_cases :
    (∃ cause, FirstZero (arguments.judged environment files) cause ∧
      arguments.prepared environment files = .error (.configuration cause)) ∨
    (NoneZero (arguments.judged environment files) ∧
      ∃ cause, files.read arguments.certificate = .error cause ∧
        arguments.prepared environment files =
          .error (.certificate (.certificate arguments.certificate cause))) ∨
    (NoneZero (arguments.judged environment files) ∧
      ∃ text, files.read arguments.certificate = .ok text ∧
        arguments.prepared environment files =
          .ok { serial := arguments.serialSettings environment files
                plan := arguments.plan environment files
                certificate := .ofText text }) := by
  have both : verdict (arguments.judged environment files) =
      (arguments.plan environment files).check >>= fun _ =>
        (arguments.serialSettings environment files).check := verdict_append _ _
  rw [← verdict_ok_iff, both]
  simp only [← verdict_error_iff, both]
  rcases planned : (arguments.plan environment files).check with cause | ⟨⟩
  · exact .inl ⟨cause, rfl, job_unplanned planned⟩
  · rcases opened : (arguments.serialSettings environment files).check with cause | ⟨⟩
    · exact .inl ⟨cause, rfl, job_unopened planned opened⟩
    · rcases found : files.read arguments.certificate with cause | text
      · exact .inr (.inl ⟨rfl, cause, rfl,
          job_unread planned opened (Certificate.ofFile_unreadable found)⟩)
      · exact .inr (.inr ⟨rfl, text, rfl,
          job_read planned opened (Certificate.ofFile_readable found)⟩)

end Arguments

section Run

variable {σ : Type} [Port σ] {surroundings : Surroundings σ} {words : List String}
  {arguments : Arguments}

/-- A job that was prepared is not refused for a setting. -/
theorem prepared_noneZero {environment : Environment} {files : Files} {job : UploadJob}
    (ready : arguments.prepared environment files = .ok job) : NoneZero job.judged := by
  rcases arguments.prepared_cases environment files with
    ⟨cause, -, refused⟩ | ⟨-, cause, -, unread⟩ | ⟨set, text, -, done⟩
  · rw [refused] at ready
    cases ready
  · rw [unread] at ready
    cases ready
  · rw [done] at ready
    cases ready
    intro setting inside
    exact set setting (List.mem_append.mpr (List.mem_append.mp inside).symm)

/-- A run opens a port only where its arguments are carried out, no setting is zero and the
certificate was read. -/
theorem run_opened (opened : (runProgram surroundings words).port ≠ none) :
    ∃ arguments text,
      Arguments.parse words surroundings.environment.baud? = .ok arguments ∧
      NoneZero (arguments.judged surroundings.environment surroundings.files) ∧
      surroundings.files.read arguments.certificate = .ok text := by
  rcases parsed : Arguments.parse words surroundings.environment.baud? with stop | arguments
  · rw [run_stopped parsed] at opened
    exact absurd rfl opened
  · rcases arguments.prepared_cases surroundings.environment surroundings.files with
      ⟨cause, -, refused⟩ | ⟨-, cause, -, unread⟩ | ⟨set, text, found, -⟩
    · rw [run_unprepared parsed refused] at opened
      exact absurd rfl opened
    · rw [run_unprepared parsed unread] at opened
      exact absurd rfl opened
    · exact ⟨arguments, text, rfl, set, found⟩

/-- A run with a setting that is zero ends with the fault of the first one, whatever there is of a
certificate and of a port, and opens none. -/
theorem run_refused {cause : ConfigFault}
    (parsed : Arguments.parse words surroundings.environment.baud? = .ok arguments)
    (zero : FirstZero (arguments.judged surroundings.environment surroundings.files) cause) :
    let outcome := runProgram surroundings words
    outcome.exitCode = 1 ∧ outcome.output = "" ∧ outcome.port = none ∧
      ∃ before, outcome.messages =
        before ++ ("Error: " ++ (Fault.config cause).message ++ "\n") := by
  have refused : arguments.prepared surroundings.environment surroundings.files =
      .error (.configuration cause) := by
    rcases arguments.prepared_cases surroundings.environment surroundings.files with
      ⟨first, earlier, refused⟩ | ⟨set, -⟩ | ⟨set, -⟩
    · have same := ((verdict_error_iff _ _).mpr zero).symm.trans
        ((verdict_error_iff _ _).mpr earlier)
      cases same
      exact refused
    · exact absurd set zero.not_noneZero
    · exact absurd set zero.not_noneZero
  intro outcome
  have ended : outcome = _ := run_unprepared parsed refused
  rw [ended]
  exact ⟨rfl, rfl, rfl, _, surroundings.told_line arguments _ _⟩

/-- **Nothing touches a device before everything is checked.** A job is refused for a setting
exactly where one is zero, for the first in the order speed, timeout, limits of the phases, and the
message names it; then nothing is told and no port is opened, and where one was opened no job is
refused so. An upload of a file fails for the certificate exactly where the file cannot be read, and
does nothing then either. A run of the program opens a port only where no setting is zero and the
certificate was read. A setting that is zero, the limits before speed and timeout, is told whatever
there is of a certificate and of a port, and no job that is prepared is refused for one. -/
theorem checked_before_opening {σ : Type} [Port σ] :
    (∀ (openPort : SerialSettings → Except OpenError σ) (job : UploadJob),
      ((∃ cause, (job.perform openPort).result = .error (.config cause)) ↔
        ∃ setting ∈ job.serial.judged ++ job.plan.judged, setting.1 = 0) ∧
      (∀ cause, (job.perform openPort).result = .error (.config cause) ↔
        FirstZero (job.serial.judged ++ job.plan.judged) cause) ∧
      (∀ cause, FirstZero (job.serial.judged ++ job.plan.judged) cause →
        job.perform openPort = { result := .error (.config cause) }) ∧
      ((job.perform openPort).port ≠ none →
        ∀ cause, (job.perform openPort).result ≠ .error (.config cause))) ∧
    (∀ cause : ConfigFault, ∃ rule, (Fault.config cause).message =
      "Configuration error: " ++ (cause.subject ++ (" must be " ++ rule))) ∧
    (∀ (openPort : SerialSettings → Except OpenError σ) (files : Files) (port path : String),
      let attempt := UploadJob.performFile files openPort port path
      (∀ file cause, attempt.result = .error (.certificate file cause) ↔
        file = path ∧ files.read path = .error cause) ∧
      (∀ cause, files.read path = .error cause →
        attempt = { result := .error (.certificate path cause) }) ∧
      ∀ cause, attempt.result ≠ .error (.config cause)) ∧
    ∀ (surroundings : Surroundings σ) (words : List String),
      let outcome := runProgram surroundings words
      let environment := surroundings.environment
      let files := surroundings.files
      (outcome.port ≠ none → ∃ arguments text,
        Arguments.parse words environment.baud? = .ok arguments ∧
        NoneZero ((arguments.plan environment files).judged ++
          (arguments.serialSettings environment files).judged) ∧
        files.read arguments.certificate = .ok text) ∧
      ∀ arguments, Arguments.parse words environment.baud? = .ok arguments →
        (∀ cause, FirstZero ((arguments.plan environment files).judged ++
            (arguments.serialSettings environment files).judged) cause →
          outcome.exitCode = 1 ∧ outcome.output = "" ∧ outcome.port = none ∧
            ∃ before, outcome.messages =
              before ++ ("Error: " ++ (Fault.config cause).message ++ "\n")) ∧
        ∀ job, arguments.prepared environment files = .ok job →
          ∀ cause, (job.perform surroundings.openPort).result ≠ .error (.config cause) := by
  refine ⟨?_, ConfigFault.message_subject, ?_, ?_⟩
  · intro openPort job
    have named := job.perform_config_iff openPort
    have any : (∃ cause, (job.perform openPort).result = .error (.config cause)) ↔
        ∃ cause, FirstZero job.judged cause := exists_congr named
    exact ⟨any.trans (exists_firstZero_iff job.judged), named,
      fun cause => job.perform_refused openPort, job.perform_opened openPort⟩
  · intro openPort files port path
    exact ⟨UploadJob.performFile_certificate_iff openPort files port path,
      fun cause unreadable => UploadJob.performFile_unreadable openPort unreadable port,
      UploadJob.performFile_config openPort files port path⟩
  · intro surroundings words
    refine ⟨run_opened, ?_⟩
    intro arguments parsed
    refine ⟨fun cause zero => run_refused parsed zero, ?_⟩
    intro job ready cause refused
    have zero := (job.perform_config_iff surroundings.openPort cause).mp refused
    exact zero.not_noneZero (prepared_noneZero ready)

/-- A local file with two zeros is told by the limit, though the speed stands first in it and there
is neither a certificate nor a port. -/
theorem checked_before_opening_limit :
    let files : Files :=
      .ofList [("certupload.toml", .ok "[serial]\nbaud = 0\n[upload]\nend_attempts = 0\n")]
    let surroundings : Surroundings Device :=
      { files, openPort := fun _ => .error (.path .notFound) }
    let outcome := runProgram surroundings ["dev", "ca.crt"]
    outcome.exitCode = 1 ∧ outcome.output = "" ∧ outcome.port = none ∧
      ∃ before, outcome.messages =
        before ++ "Error: Configuration error: end_attempts must be at least 1\n" := by
  intro files surroundings outcome
  have parsed : Arguments.parse ["dev", "ca.crt"] surroundings.environment.baud? =
      .ok { port := "dev", certificate := "ca.crt" } := rfl
  have zero : FirstZero
      ((Arguments.plan { port := "dev", certificate := "ca.crt" } {} files).judged ++
        (Arguments.serialSettings { port := "dev", certificate := "ca.crt" } {} files).judged)
      .noEndAttempts :=
    ⟨[(100, .noBeginAttempts)], [(20, .noStatusAttempts), (0, .zeroBaud), (2000, .zeroTimeout)],
      by decide +kernel, by decide⟩
  exact ((checked_before_opening.2.2.2 surroundings ["dev", "ca.crt"]).2 _ parsed).1 _ zero

end Run

end CertConsole
