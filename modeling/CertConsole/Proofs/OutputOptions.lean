import CertConsole.Proofs.ProgramRun
import CertConsole.Proofs.Recording

/-!
# Output options

What a run tells depends on how much is asked for, on the filter of the log, on colours and on
whether anybody looks. What it does depends on none of these: two runs that are asked for the same
upload make the same operations on the port, leave it in the same state and end with one exit code
(`output_invisible`).
-/
namespace CertConsole

/-- The environment variables that decide how the log is written. -/
def Environment.outputVariables : List String :=
  ["RUST_LOG", "RUST_LOG_STYLE", "NO_COLOR", "CLICOLOR", "CLICOLOR_FORCE", "TERM", "CI"]

/-- Environments that differ at most in how the log is written. -/
structure Environment.AlikeButOutput (left right : Environment) : Prop where
  /-- The account has one home directory. -/
  accountHome : left.accountHome = right.accountHome
  /-- All other variables have one value. -/
  values : ∀ name, name ∉ outputVariables → left.get? name = right.get? name

/-- Arguments that ask for the same upload, whatever is to be told about it. -/
structure Arguments.SameUpload (one other : Arguments) : Prop where
  /-- They name one port. -/
  port : one.port = other.port
  /-- They name one certificate file. -/
  certificate : one.certificate = other.certificate
  /-- They give one speed, or none. -/
  baud : one.baud = other.baud
  /-- They name one configuration file, or none. -/
  config : one.config = other.config

/-- Surroundings that differ at most in what decides how a run is told. -/
structure Surroundings.AlikeButOutput {σ : Type} (left right : Surroundings σ) : Prop where
  /-- The environments differ at most in how the log is written. -/
  environment : left.environment.AlikeButOutput right.environment
  /-- The files are the same. -/
  files : left.files = right.files
  /-- The ports are the same. -/
  openPort : left.openPort = right.openPort

namespace Environment.AlikeButOutput

variable {left right : Environment}

/-- The configuration files of the user are in one directory. -/
theorem configDirectory (alike : left.AlikeButOutput right) :
    left.configDirectory? = right.configDirectory? := by
  have home : left.home? = right.home? := by
    unfold home? nonempty?
    rw [alike.values "HOME" (by decide), alike.accountHome]
  unfold configDirectory?
  rw [home, alike.values "XDG_CONFIG_HOME" (by decide)]

/-- The same configuration is gathered. -/
theorem gather (alike : left.AlikeButOutput right) (files : Files) (named : Option String) :
    Configuration.gather left files named = Configuration.gather right files named := by
  unfold Configuration.gather Configuration.loadStandard Configuration.globalPath?
  rw [alike.configDirectory]

/-- The same job is prepared, or there is the same failure in its place. -/
theorem prepared (alike : left.AlikeButOutput right) (files : Files) {one other : Arguments}
    (same : one.SameUpload other) : one.prepared left files = other.prepared right files := by
  unfold Arguments.prepared Arguments.configuration Arguments.job
  rw [alike.gather, same.port, same.certificate, same.baud, same.config]

end Environment.AlikeButOutput

/-- The exit code of an upload that was begun does not depend on what is told about it. -/
theorem Ending.conclude_exitCode (options others : OutputOptions) (port : String)
    (result : Except Fault UploadReport) :
    (conclude options port result).exitCode = (conclude others port result).exitCode := by
  cases result <;> rfl

variable {σ : Type}

/-- The surroundings with every operation on the port written down. -/
def Surroundings.recorded (surroundings : Surroundings σ) : Surroundings (Recorded σ) :=
  { surroundings with
    openPort := fun settings => (surroundings.openPort settings).map fun port => { port } }

/-- Recording does not make surroundings differ. -/
theorem Surroundings.AlikeButOutput.recorded {left right : Surroundings σ}
    (alike : left.AlikeButOutput right) : left.recorded.AlikeButOutput right.recorded where
  environment := alike.environment
  files := alike.files
  openPort := by
    unfold Surroundings.recorded
    rw [alike.openPort]

variable [Port σ]

/-- The operations that a run makes on its port, none where it opens no port. -/
def portOperations (surroundings : Surroundings σ) (words : List String) : List Operation :=
  ((runProgram surroundings.recorded words).port.map (·.operations)).getD []

/-- Runs that are asked for the same upload have one exit code and leave one port. -/
theorem run_alike {left right : Surroundings σ} (alike : left.AlikeButOutput right)
    {words others : List String} {one other : Arguments} (same : one.SameUpload other)
    (parsed : Arguments.parse words left.environment.baud? = .ok one)
    (parsedToo : Arguments.parse others right.environment.baud? = .ok other) :
    (runProgram left words).exitCode = (runProgram right others).exitCode ∧
      (runProgram left words).port = (runProgram right others).port := by
  have prepared := alike.environment.prepared left.files same
  cases ready : one.prepared left.environment left.files with
  | error failure =>
    have readyToo : other.prepared right.environment right.files = .error failure := by
      rw [← alike.files, ← prepared, ready]
    rw [run_unprepared parsed ready, run_unprepared parsedToo readyToo]
    exact ⟨rfl, rfl⟩
  | ok job =>
    have readyToo : other.prepared right.environment right.files = .ok job := by
      rw [← alike.files, ← prepared, ready]
    rw [run_performed parsed ready, run_performed parsedToo readyToo, alike.openPort]
    exact ⟨Ending.conclude_exitCode _ _ _ _, rfl⟩

/-- **Output options never change the upload.** Two runs with the same files and ports, in
environments that differ at most in how the log is written, whose arguments name the same port,
certificate, speed and configuration, make the same operations on the port, with the same bytes and
the same results in the same order, leave the port in the same state, with all that its far end has
received, and end with the same exit code: however often more detail is asked for, whether the run
is to be quiet or to print JSON, and whether standard error is a terminal. -/
theorem output_invisible {left right : Surroundings σ} (alike : left.AlikeButOutput right)
    {words others : List String} {one other : Arguments} (same : one.SameUpload other)
    (parsed : Arguments.parse words left.environment.baud? = .ok one)
    (parsedToo : Arguments.parse others right.environment.baud? = .ok other) :
    (runProgram left words).exitCode = (runProgram right others).exitCode ∧
      (runProgram left words).port = (runProgram right others).port ∧
      portOperations left words = portOperations right others := by
  obtain ⟨exitCode, port⟩ := run_alike alike same parsed parsedToo
  have recorded := (run_alike alike.recorded same parsed parsedToo).2
  refine ⟨exitCode, port, ?_⟩
  unfold portOperations
  rw [recorded]

/-- A run on a terminal that asks for all detail, and a quiet one into a file that asks for JSON and
whose filter lets nothing through, upload the same and succeed. -/
theorem output_invisible_quiet :
    let bytes (text : String) : List Item := (Utf8.encode text.toList).map .byte
    let device : Device := { responder := {
      beginReplies := [bytes "ready to receive\n"]
      finishReplies := [bytes "certificate saved\n"] } }
    let files : Files := .ofList [("ca.crt", .ok "a\nb\n")]
    let openPort (settings : SerialSettings) : Except OpenError SerialLine :=
      .ok (.attach settings device)
    let left : Surroundings SerialLine :=
      { files, openPort, terminal := true, environment := { values := [("TERM", "xterm")] } }
    let right : Surroundings SerialLine :=
      { files, openPort, environment := { values := [("NO_COLOR", "1"), ("RUST_LOG", "off")] } }
    let words := ["-vvv", "dev", "ca.crt"]
    let others := ["dev", "--json", "-q", "ca.crt"]
    (runProgram left words).exitCode = (runProgram right others).exitCode ∧
      (runProgram right others).exitCode = 0 ∧
      (runProgram left words).port = (runProgram right others).port ∧
      portOperations left words = portOperations right others := by
  intro bytes device files openPort left right words others
  -- All variables that are set are of the output, so any other one is set on neither side.
  have unset {environment : Environment} {name : String}
      (told : ∀ entry ∈ environment.values, entry.1 ∈ Environment.outputVariables)
      (other : name ∉ Environment.outputVariables) : environment.get? name = none := by
    refine List.lookup_eq_none_iff.mpr fun entry inside => ?_
    rw [bne_iff_ne]
    rintro rfl
    exact other (told entry inside)
  have alike : left.AlikeButOutput right := {
    environment := {
      accountHome := rfl
      values := fun name other => by rw [unset (by decide) other, unset (by decide) other] }
    files := rfl
    openPort := rfl }
  have parsed : Arguments.parse words left.environment.baud? =
      .ok { port := "dev", certificate := "ca.crt", output := { verbose := 3 } } := rfl
  have parsedToo : Arguments.parse others right.environment.baud? =
      .ok { port := "dev", certificate := "ca.crt", output := { quiet := true, json := true } } :=
    rfl
  have same : Arguments.SameUpload
      { port := "dev", certificate := "ca.crt", output := { verbose := 3 } }
      { port := "dev", certificate := "ca.crt", output := { quiet := true, json := true } } :=
    ⟨rfl, rfl, rfl, rfl⟩
  obtain ⟨exitCode, port, operations⟩ := output_invisible alike same parsed parsedToo
  exact ⟨exitCode, by decide +kernel, port, operations⟩

end CertConsole
