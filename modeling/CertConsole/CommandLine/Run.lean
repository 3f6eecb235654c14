import CertConsole.CommandLine.Ending
import CertConsole.CommandLine.Preparation

/-!
# Runs of the program

A run reads the arguments, prepares a job, carries out the upload and tells what came of it. What is
told depends on the options for the output; what is done does not.
-/
namespace CertConsole

/-- The level up to which events are told where the environment has no filter. -/
def OutputOptions.level (options : OutputOptions) : Level :=
  if options.quiet then .warn
  else match options.verbose with
  | 0 => .info
  | 1 => .debug
  | _ => .trace

/-- How events are written, and complaints about the filter that the environment holds. -/
def OutputOptions.style (options : OutputOptions) (environment : Environment) (terminal : Bool) :
    LogStyle × List String :=
  let (filter, complaints) :=
    match environment.get? "RUST_LOG" with
    | some text => LogFilter.parse text
    | none => (.upTo options.level, [])
  ({ filter, showsSource := 2 ≤ options.verbose
     keepsControls := environment.keepsControls terminal }, complaints)

/-- The baud rate that the environment holds, as it is written there. -/
def Environment.baud? (environment : Environment) : Option String :=
  environment.get? Help.baudVariable

/-- Where a run takes place. -/
structure Surroundings (σ : Type) where
  /-- The environment. -/
  environment : Environment := {}
  /-- The file system. -/
  files : Files
  /-- Standard error is a terminal. -/
  terminal : Bool := false
  /-- Open a serial port. -/
  openPort : SerialSettings → Except OpenError σ

/-- What came of a run. -/
structure Outcome (σ : Type) where
  /-- The exit code. -/
  exitCode : Nat
  /-- The text on standard output. -/
  output : String
  /-- The text on standard error. -/
  messages : String
  /-- The port as it was left, if one was opened. -/
  port : Option σ

/-- Run the program. -/
def runProgram {σ : Type} [Port σ] (surroundings : Surroundings σ) (arguments : List String) :
    Outcome σ :=
  let environment := surroundings.environment
  match Arguments.parse arguments environment.baud? with
  | .error stop =>
    let ending := Ending.stopped environment.baud? stop
    { exitCode := ending.exitCode, output := ending.output, port := none
      messages := Notice.text { filter := .errorsOnly } ending.notices }
  | .ok arguments =>
    let (style, complaints) := arguments.output.style environment surroundings.terminal
    let (job, notices) := arguments.prepare environment surroundings.files
    let (ending, events, port) : Ending × List Event × Option σ :=
      match job with
      | .error _ => (.failed, [], none)
      | .ok job =>
        let attempt := job.perform surroundings.openPort
        (.conclude arguments.output job.serial.port attempt.result, attempt.log, attempt.port)
    let told := notices ++ events.map .event ++ ending.notices
    { exitCode := ending.exitCode, output := ending.output, port
      messages := Notice.text style (complaints.map .line ++ told) }

end CertConsole
