import CertConsole.Proofs.JsonReading
import CertConsole.Proofs.ProgramRun

/-!
# What comes of a run

A run takes one course of four: it tells of the program, it cannot use its arguments, it fails, or
it has a report. Each course has its exit code, its text on standard output and its last line on
standard error (`Course.Accords`), and no run takes two (`Takes.unique`). A caller that looks at
the exit code and one that reads the document on standard output come to the same judgement.
-/
namespace CertConsole

/-! ## Reports that are read -/

/-- The value of a member of an object. -/
def Json.member? : Json → String → Option Json
  | .object members, name => members.lookup name
  | _, _ => none

namespace UploadReport

/-- The answer to the begin marker that an object tells. -/
def readBegin? (told : Json) : Option BeginOutcome :=
  match told.member? "status", told.member? "line" with
  | some (.string "ready"), none => some .ready
  | some (.string "device_error"), some (.string line) => some (.refused line)
  | some (.string "no_response"), none => some .noResponse
  | _, _ => none

/-- The CA status that a value tells. -/
def readCaStatus? : Json → Option CaStatus
  | .string "present" => some .present
  | .string "absent" => some .absent
  | .string "not_reported" => some .notReported
  | _ => none

/-- The report that an object tells. -/
def ofJson? (told : Json) : Option UploadReport := do
  let .number linesSent ← told.member? "lines_sent" | none
  let .boolean saved ← told.member? "saved" | none
  let begin ← readBegin? (← told.member? "begin")
  let caStatus ← readCaStatus? (← told.member? "ca_status")
  return { begin, linesSent, saved, caStatus }

/-- The members of a report as JSON. -/
def members (report : UploadReport) : Json :=
  .object
    [("begin", beginJson report.begin), ("ca_status", .string (caStatusName report.caStatus)),
      ("lines_sent", .number report.linesSent), ("saved", .boolean report.saved)]

/-- A report that was told is read back. -/
theorem ofJson_members (report : UploadReport) : ofJson? report.members = some report := by
  obtain ⟨begin, linesSent, saved, caStatus⟩ := report
  have answer : readBegin? (beginJson begin) = some begin := by
    cases begin <;> rfl
  have status : readCaStatus? (.string (caStatusName caStatus)) = some caStatus := by
    cases caStatus <;> rfl
  change (do
    let begin ← readBegin? (beginJson begin)
    let caStatus ← readCaStatus? (.string (caStatusName caStatus))
    return (⟨begin, linesSent, saved, caStatus⟩ : UploadReport)) = _
  rw [answer, status]
  rfl

end UploadReport

/-- The document of a report is read as the report and its success. -/
theorem read_document (report : UploadReport) :
    Json.read? (report.toJson.render ++ "\n") =
      some (.object [("report", report.members), ("success", .boolean report.success)]) :=
  Json.read_render report.toJson

/-! ## Verdicts that are told -/

variable {σ : Type}

/-- The line that tells a success. -/
def successLine : String := "✅ Certificate uploaded successfully!"

/-- A text that ends by telling a success does not end by telling a failure. -/
theorem success_not_failure (before other : String) :
    before ++ ("\n" ++ successLine ++ "\n") ≠ other ++ ("❌ Upload failed!" ++ "\n") := by
  intro same
  have success : ("\n" ++ successLine ++ "\n").toList =
      "\n✅ Certificate uploaded successfull".toList ++ ['y', '!', '\n'] := by rfl
  have failure : ("❌ Upload failed!" ++ "\n").toList =
      "❌ Upload faile".toList ++ ['d', '!', '\n'] := by rfl
  have texts := congrArg String.toList same
  rw [String.toList_append, success, String.toList_append, failure, ← List.append_assoc,
    ← List.append_assoc] at texts
  have ends : ['y', '!', '\n'] = ['d', '!', '\n'] := (List.append_inj' texts rfl).2
  exact absurd ends (by decide)

/-- The verdict on a report is the last line, and it tells a success where the report has one. -/
theorem told_verdict (surroundings : Surroundings σ) (arguments : Arguments)
    (before : List Notice) (report : UploadReport) :
    (∃ text, surroundings.told arguments (before ++ report.summary.map .line) =
      text ++ ("\n" ++ successLine ++ "\n")) ↔ report.success = true := by
  let lines := before ++ (report.beginLines ++ report.confirmationLines).map .line
  have last : before ++ report.summary.map .line =
      lines ++ [.line ""] ++ [.line report.verdict] := by
    simp [lines, UploadReport.summary]
  have told : surroundings.told arguments (before ++ report.summary.map .line) =
      surroundings.told arguments lines ++ ("" ++ "\n") ++ (report.verdict ++ "\n") := by
    rw [last, surroundings.told_line, surroundings.told_line]
  rw [told]
  cases success : report.success with
  | true =>
    have verdict : report.verdict = successLine := by
      rw [UploadReport.verdict, success]
      rfl
    rw [verdict]
    refine ⟨fun _ => rfl, fun _ => ⟨surroundings.told arguments lines, ?_⟩⟩
    simp only [String.empty_append, String.append_assoc]
  | false =>
    have verdict : report.verdict = "❌ Upload failed!" := by
      rw [UploadReport.verdict, success]
      rfl
    rw [verdict]
    constructor
    · rintro ⟨text, same⟩
      exact absurd same.symm (success_not_failure text _)
    · intro impossible
      cases impossible

/-! ## Courses of a run -/

/-- The course of a run. -/
inductive Course where
  /-- It tells of the program: help or the version. -/
  | informed
  /-- It cannot use its arguments. -/
  | misused
  /-- It ends without a report. -/
  | failed (failure : Failure)
  /-- It ends with a report, which is told as the options say. -/
  | reported (options : OutputOptions) (report : UploadReport)

variable [Port σ]

/-- The course that a run takes. -/
inductive Takes (surroundings : Surroundings σ) (words : List String) : Course → Prop
  /-- Help or the version was asked for. -/
  | informed {stop : ArgumentStop}
      (parsed : Arguments.parse words surroundings.environment.baud? = .error stop)
      (asked : stop = .help ∨ stop = .version) : Takes surroundings words .informed
  /-- The arguments have a mistake. -/
  | misused {stop : ArgumentStop}
      (parsed : Arguments.parse words surroundings.environment.baud? = .error stop)
      (mistake : ¬ (stop = .help ∨ stop = .version)) : Takes surroundings words .misused
  /-- The configuration or the certificate cannot be used. -/
  | unprepared {arguments : Arguments} {failure : Failure}
      (parsed : Arguments.parse words surroundings.environment.baud? = .ok arguments)
      (failed : arguments.prepared surroundings.environment surroundings.files = .error failure) :
      Takes surroundings words (.failed failure)
  /-- The port cannot be opened, or fails in the upload. -/
  | unperformed {arguments : Arguments} {job : UploadJob} {fault : Fault}
      (parsed : Arguments.parse words surroundings.environment.baud? = .ok arguments)
      (ready : arguments.prepared surroundings.environment surroundings.files = .ok job)
      (failed : (job.perform surroundings.openPort).result = .error fault) :
      Takes surroundings words (.failed (.upload job.serial.port fault))
  /-- The upload was carried out. -/
  | reported {arguments : Arguments} {job : UploadJob} {report : UploadReport}
      (parsed : Arguments.parse words surroundings.environment.baud? = .ok arguments)
      (ready : arguments.prepared surroundings.environment surroundings.files = .ok job)
      (done : (job.perform surroundings.openPort).result = .ok report) :
      Takes surroundings words (.reported arguments.output report)

/-- A run that opens no port, whatever port there is. -/
def Surroundings.Untouched (surroundings : Surroundings σ) (words : List String) : Prop :=
  (runProgram surroundings words).port = none ∧
    ∀ openPort, runProgram { surroundings with openPort } words = runProgram surroundings words

/-- A report is told as the options say, and everything that is told agrees with the exit code. -/
structure Outcome.Tells (outcome : Outcome σ) (options : OutputOptions) (report : UploadReport) :
    Prop where
  /-- The exit code is zero where the upload succeeded, and one where it did not. -/
  exit : outcome.exitCode = if report.success then 0 else 1
  /-- Where no document is wanted, nothing is printed. -/
  silent : options.json = false → outcome.output = ""
  /-- Where one is wanted, one is printed: it tells the report and the exit code. -/
  document : options.json = true →
    ∃ told, Json.read? outcome.output =
        some (.object [("report", told), ("success", .boolean (outcome.exitCode == 0))]) ∧
      UploadReport.ofJson? told = some report
  /-- The last line on standard error tells the success, if there was one. -/
  verdict : options.quiet = false →
    ((∃ before, outcome.messages = before ++ ("\n" ++ successLine ++ "\n")) ↔
      outcome.exitCode = 0)

/-- What comes of a run that takes a course. -/
def Course.Accords (surroundings : Surroundings σ) (words : List String) : Course → Prop
  | informed =>
    (runProgram surroundings words).exitCode = 0 ∧ surroundings.Untouched words
  | misused =>
    (runProgram surroundings words).exitCode = 1 ∧
      (runProgram surroundings words).output =
        "Usage: upload_cert <serial_port> <cert_file>\n" ++
          "Example: upload_cert /dev/cu.usbserial-0001 mqtt_ca.crt\n" ∧
      surroundings.Untouched words
  | failed _ =>
    (runProgram surroundings words).exitCode = 1 ∧ (runProgram surroundings words).output = ""
  | reported options report => (runProgram surroundings words).Tells options report

variable {surroundings : Surroundings σ} {words : List String}

/-- No run takes two courses. -/
theorem Takes.unique {one other : Course} (first : Takes surroundings words one)
    (second : Takes surroundings words other) : one = other := by
  -- Both courses judge the same arguments, the same preparation and the same attempt. Each of these
  -- has one result, so two courses that differ contradict each other at the first one that does.
  cases first with
  | informed parsed asked =>
    cases second with
    | informed => rfl
    | misused parsed' mistake =>
      cases parsed.symm.trans parsed'
      exact absurd asked mistake
    | unprepared parsed' | unperformed parsed' | reported parsed' =>
      cases parsed.symm.trans parsed'
  | misused parsed mistake =>
    cases second with
    | informed parsed' asked =>
      cases parsed.symm.trans parsed'
      exact absurd asked mistake
    | misused => rfl
    | unprepared parsed' | unperformed parsed' | reported parsed' =>
      cases parsed.symm.trans parsed'
  | unprepared parsed failed =>
    cases second with
    | informed parsed' | misused parsed' => cases parsed.symm.trans parsed'
    | unprepared parsed' failed' =>
      cases parsed.symm.trans parsed'
      cases failed.symm.trans failed'
      rfl
    | unperformed parsed' ready | reported parsed' ready =>
      cases parsed.symm.trans parsed'
      cases failed.symm.trans ready
  | unperformed parsed ready failed =>
    cases second with
    | informed parsed' | misused parsed' => cases parsed.symm.trans parsed'
    | unprepared parsed' unready =>
      cases parsed.symm.trans parsed'
      cases ready.symm.trans unready
    | unperformed parsed' ready' failed' =>
      cases parsed.symm.trans parsed'
      cases ready.symm.trans ready'
      cases failed.symm.trans failed'
      rfl
    | reported parsed' ready' done =>
      cases parsed.symm.trans parsed'
      cases ready.symm.trans ready'
      cases failed.symm.trans done
  | reported parsed ready done =>
    cases second with
    | informed parsed' | misused parsed' => cases parsed.symm.trans parsed'
    | unprepared parsed' unready =>
      cases parsed.symm.trans parsed'
      cases ready.symm.trans unready
    | unperformed parsed' ready' failed =>
      cases parsed.symm.trans parsed'
      cases ready.symm.trans ready'
      cases done.symm.trans failed
    | reported parsed' ready' done' =>
      cases parsed.symm.trans parsed'
      cases ready.symm.trans ready'
      cases done.symm.trans done'
      rfl

/-- Arguments that are not carried out leave every port alone. -/
theorem untouched_of_stopped {stop : ArgumentStop}
    (parsed : Arguments.parse words surroundings.environment.baud? = .error stop) :
    surroundings.Untouched words := by
  constructor
  · rw [run_stopped parsed]
  · intro openPort
    rw [run_stopped parsed]
    exact @run_stopped σ _ { surroundings with openPort } words stop parsed

/-- A run with a report tells it as its options say. -/
theorem run_tells {arguments : Arguments} {job : UploadJob} {report : UploadReport}
    (parsed : Arguments.parse words surroundings.environment.baud? = .ok arguments)
    (ready : arguments.prepared surroundings.environment surroundings.files = .ok job)
    (done : (job.perform surroundings.openPort).result = .ok report) :
    (runProgram surroundings words).Tells arguments.output report := by
  have success : ((Ending.ofReport arguments.output report).exitCode == 0) = report.success := by
    cases success : report.success <;> simp [Ending.ofReport, success]
  have code : (Ending.ofReport arguments.output report).exitCode = 0 ↔ report.success = true := by
    rw [← success, beq_iff_eq]
  rw [run_reported parsed ready done]
  dsimp only
  constructor
  case exit => rfl
  case silent =>
    intro plain
    simp [Ending.ofReport, plain]
  case document =>
    intro wanted
    have output : (Ending.ofReport arguments.output report).output =
        report.toJson.render ++ "\n" := by
      simp [Ending.ofReport, wanted]
    refine ⟨report.members, ?_, report.ofJson_members⟩
    rw [output, success, read_document]
  case verdict =>
    intro loud
    have notices : (Ending.ofReport arguments.output report).notices =
        report.summary.map .line := by
      simp [Ending.ofReport, loud]
    rw [notices, told_verdict, code]

/-- What comes of a run accords with the course that it takes. -/
theorem Takes.accords {course : Course} (taken : Takes surroundings words course) :
    course.Accords surroundings words := by
  cases taken with
  | informed parsed asked =>
    refine ⟨?_, untouched_of_stopped parsed⟩
    rw [run_stopped parsed]
    rcases asked with help | version
    · rw [help]
      rfl
    · rw [version]
      rfl
  | misused parsed mistake =>
    rename_i stop
    have ending : (Ending.stopped surroundings.environment.baud? stop).exitCode = 1 ∧
        (Ending.stopped surroundings.environment.baud? stop).output = Help.usage := by
      cases stop with
      | help => exact absurd (.inl rfl) mistake
      | version => exact absurd (.inr rfl) mistake
      | _ => exact ⟨rfl, rfl⟩
    refine ⟨?_, ?_, untouched_of_stopped parsed⟩
    · rw [run_stopped parsed]
      exact ending.1
    · rw [run_stopped parsed]
      exact ending.2
  | unprepared parsed failed =>
    constructor
    · rw [run_unprepared parsed failed]
    · rw [run_unprepared parsed failed]
  | unperformed parsed ready failed =>
    constructor
    · rw [run_unperformed parsed ready failed]
    · rw [run_unperformed parsed ready failed]
  | reported parsed ready done => exact run_tells parsed ready done

/-- Every run takes a course. -/
theorem takes_course (surroundings : Surroundings σ) (words : List String) :
    ∃ course, Takes surroundings words course := by
  cases parsed : Arguments.parse words surroundings.environment.baud? with
  | error stop =>
    by_cases asked : stop = .help ∨ stop = .version
    · exact ⟨_, .informed parsed asked⟩
    · exact ⟨_, .misused parsed asked⟩
  | ok arguments =>
    cases ready : arguments.prepared surroundings.environment surroundings.files with
    | error failure => exact ⟨_, .unprepared parsed ready⟩
    | ok job =>
      cases done : (job.perform surroundings.openPort).result with
      | error fault => exact ⟨_, .unperformed parsed ready done⟩
      | ok report => exact ⟨_, .reported parsed ready done⟩

/-- A run that accords with a course ends with an exit code of zero or one. -/
theorem Course.Accords.exitCode {course : Course} (accords : course.Accords surroundings words) :
    (runProgram surroundings words).exitCode = 0 ∨
      (runProgram surroundings words).exitCode = 1 := by
  cases course with
  | informed => exact .inl accords.1
  | misused => exact .inr accords.1
  | failed => exact .inr accords.1
  | reported options report =>
    rw [accords.exit]
    split
    · exact .inl rfl
    · exact .inr rfl

/-- **Every run ends with an exit code of zero or one, takes exactly one course, and comes to what
the course says: exit code, standard output, last line and port agree with one another.** -/
theorem run_outcome (surroundings : Surroundings σ) (words : List String) :
    ((runProgram surroundings words).exitCode = 0 ∨ (runProgram surroundings words).exitCode = 1) ∧
      ∃ course, Takes surroundings words course ∧
        (∀ other, Takes surroundings words other → other = course) ∧
        course.Accords surroundings words := by
  obtain ⟨course, taken⟩ := takes_course surroundings words
  exact ⟨taken.accords.exitCode, course, taken, fun other also => also.unique taken,
    taken.accords⟩

end CertConsole
