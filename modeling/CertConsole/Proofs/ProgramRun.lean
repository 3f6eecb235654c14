import CertConsole.CommandLine.Run

/-!
# Equations of a run

A run of the program by the place that it gets to: the arguments are not carried out, no job comes
of them, or a job is carried out. Theorems about runs cite the equation of each case and open
neither the run nor the preparation again. What is told is a text with one end: the last line that
is told in any case is the last line of it (`Surroundings.told_line`).
-/
namespace CertConsole

namespace Notice

/-- Notices on end are written on end. -/
theorem text_append (style : LogStyle) (before after : List Notice) :
    text style (before ++ after) = text style before ++ text style after := by
  unfold text
  rw [List.filterMap_append, String.join_append]

/-- A line that is told in any case is written as it is. -/
theorem text_line (style : LogStyle) (line : String) :
    text style [.line line] = line ++ "\n" := by
  change String.join [line ++ "\n"] = _
  rw [String.join_cons, String.join_nil, String.append_empty]

end Notice

namespace Arguments

variable (arguments : Arguments) (environment : Environment) (files : Files)

/-- The settings of the port that the arguments, the environment and the files come to. -/
def serialSettings : SerialSettings :=
  (arguments.configuration environment files).1.serialSettings arguments.port arguments.baud

/-- The plan that the environment and the files come to. -/
def plan : UploadPlan := (arguments.configuration environment files).1.plan

/-- What is told of the configuration. -/
def start : List Notice :=
  .event (.programStarted arguments.output.verbose) ::
    (arguments.configuration environment files).2.map Notice.event

/-- The job that is prepared, or the failure that there is in its place. -/
def prepared : Except Failure UploadJob :=
  arguments.job (arguments.configuration environment files).1 files

/-- What is told behind the start: the job that is announced, or the failure. -/
theorem prepare_eq :
    arguments.prepare environment files =
      match arguments.prepared environment files with
      | .ok job =>
        (.ok job, arguments.start environment files ++ arguments.announcement job)
      | .error failure =>
        (.error failure, arguments.start environment files ++ [failure.notice]) := rfl

end Arguments

variable {σ : Type}

namespace Surroundings

variable (surroundings : Surroundings σ) (arguments : Arguments)

/-- The text that tells notices in a run, behind what is wrong with the filter of the log. -/
def told (notices : List Notice) : String :=
  let style := arguments.output.style surroundings.environment surroundings.terminal
  Notice.text style.1 (style.2.map .line ++ notices)

/-- A last line that is told in any case ends the text. -/
theorem told_line (notices : List Notice) (line : String) :
    surroundings.told arguments (notices ++ [.line line]) =
      surroundings.told arguments notices ++ (line ++ "\n") := by
  let style := arguments.output.style surroundings.environment surroundings.terminal
  change Notice.text style.1 (style.2.map .line ++ (notices ++ [.line line])) = _
  rw [← List.append_assoc, Notice.text_append, Notice.text_line]
  rfl

end Surroundings

section

variable [Port σ] {surroundings : Surroundings σ} {words : List String} {arguments : Arguments}

/-- Arguments that are not carried out end the run, and no port is opened. -/
theorem run_stopped {stop : ArgumentStop}
    (parsed : Arguments.parse words surroundings.environment.baud? = .error stop) :
    runProgram surroundings words =
      let ending := Ending.stopped surroundings.environment.baud? stop
      { exitCode := ending.exitCode, output := ending.output, port := none
        messages := Notice.text { filter := .errorsOnly } ending.notices } := by
  simp only [runProgram, parsed]

/-- Where no job comes of the arguments the failure is the last that is told, and no port is
opened. -/
theorem run_unprepared {failure : Failure}
    (parsed : Arguments.parse words surroundings.environment.baud? = .ok arguments)
    (failed : arguments.prepared surroundings.environment surroundings.files = .error failure) :
    runProgram surroundings words =
      { exitCode := 1, output := "", port := none
        messages := surroundings.told arguments
          (arguments.start surroundings.environment surroundings.files ++ [failure.notice]) } := by
  simp only [runProgram, parsed, Arguments.prepare_eq, failed, Ending.failed, List.map_nil,
    List.append_nil]
  rfl

/-- A job that was prepared is carried out, and the run ends by what came of it. -/
theorem run_performed {job : UploadJob}
    (parsed : Arguments.parse words surroundings.environment.baud? = .ok arguments)
    (ready : arguments.prepared surroundings.environment surroundings.files = .ok job) :
    runProgram surroundings words =
      let attempt := job.perform surroundings.openPort
      let ending := Ending.conclude arguments.output job.serial.port attempt.result
      { exitCode := ending.exitCode, output := ending.output, port := attempt.port
        messages := surroundings.told arguments
          (arguments.start surroundings.environment surroundings.files ++
            arguments.announcement job ++ attempt.log.map .event ++ ending.notices) } := by
  simp only [runProgram, parsed, Arguments.prepare_eq, ready]
  rfl

/-- Where a job gets no report the failure is the last that is told. -/
theorem run_unperformed {job : UploadJob} {fault : Fault}
    (parsed : Arguments.parse words surroundings.environment.baud? = .ok arguments)
    (ready : arguments.prepared surroundings.environment surroundings.files = .ok job)
    (failed : (job.perform surroundings.openPort).result = .error fault) :
    runProgram surroundings words =
      { exitCode := 1, output := "", port := (job.perform surroundings.openPort).port
        messages := surroundings.told arguments
          (arguments.start surroundings.environment surroundings.files ++
            arguments.announcement job ++ (job.perform surroundings.openPort).log.map .event ++
              [(Failure.upload job.serial.port fault).notice]) } := by
  rw [run_performed parsed ready]
  simp only [failed]
  rfl

/-- Where a job gets a report, the report is told as the options say. -/
theorem run_reported {job : UploadJob} {report : UploadReport}
    (parsed : Arguments.parse words surroundings.environment.baud? = .ok arguments)
    (ready : arguments.prepared surroundings.environment surroundings.files = .ok job)
    (done : (job.perform surroundings.openPort).result = .ok report) :
    runProgram surroundings words =
      let ending := Ending.ofReport arguments.output report
      { exitCode := ending.exitCode, output := ending.output
        port := (job.perform surroundings.openPort).port
        messages := surroundings.told arguments
          (arguments.start surroundings.environment surroundings.files ++
            arguments.announcement job ++ (job.perform surroundings.openPort).log.map .event ++
              ending.notices) } := by
  rw [run_performed parsed ready]
  simp only [done]
  rfl

end

end CertConsole
