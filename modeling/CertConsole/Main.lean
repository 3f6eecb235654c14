import CertConsole.CommandLine.Run
import CertConsole.Port.Playback

/-!
# The program

The outer layer of `upload_cert`: it reads the environment, the files and the terminal line, hands
them to the run of the program, and does what the run says. A terminal line is used with the speed
and the mode that it was set to before. Its reads have to return when nothing arrives, as they do
after `stty raw min 0 time 1`.
-/
namespace CertConsole.Main

/-- The environment variables that a run looks at. -/
def variableNames : List String :=
  ["CERTUPLOAD_BAUD", "RUST_LOG", "RUST_LOG_STYLE", "NO_COLOR", "CLICOLOR", "CLICOLOR_FORCE",
    "TERM", "CI", "HOME", "XDG_CONFIG_HOME"]

/-- The environment that the program was started in. -/
def readEnvironment : IO Environment := do
  let found ← variableNames.filterMapM fun name => do
    return (← IO.getEnv name).map fun value => (name, value)
  return { values := found }

/-- The system's wording of an error and its number, where it has one. -/
def wording (error : IO.Error) : String :=
  match error with
  | .noFileOrDirectory _ code text | .permissionDenied _ code text
  | .inappropriateType _ code text | .resourceExhausted _ code text
  | .noSuchThing _ code text | .otherError code text | .resourceBusy code text
  | .hardwareFault code text => text ++ " (os error " ++ toString code ++ ")"
  | _ => toString error

/-- Why a path could not be read. -/
def fileError (error : IO.Error) : FileError :=
  match error with
  | .noFileOrDirectory .. => .path .notFound
  | _ => .system (wording error)

/-- What is found at a path. -/
def readText (path : String) : IO (Except FileError String) := do
  try
    let content ← IO.FS.readBinFile path
    match Utf8.decode? content.toList with
    | some text => return .ok (String.ofList text)
    | none => return .error .notText
  catch error => return .error (fileError error)

/-- Write notices to standard error. -/
def tell (style : LogStyle) (notices : List Notice) : IO Unit :=
  IO.eprint (Notice.text style notices)

/-- An open terminal line. -/
structure Wire where
  /-- Where bytes are sent. -/
  sender : IO.FS.Handle
  /-- Where bytes arrive. -/
  receiver : IO.FS.Handle

/-- Open the terminal line that a port is at. -/
def openWire (settings : SerialSettings) : IO (Except OpenError Wire) := do
  try
    let sender ← IO.FS.Handle.mk settings.port .readWrite
    unless ← sender.isTty do return .error .notTerminal
    return .ok { sender, receiver := ← IO.FS.Handle.mk settings.port .read }
  catch error =>
    match error with
    | .noFileOrDirectory .. => return .error (.path .notFound)
    | _ => return .error (.system (wording error))

/-- Hear one line, or less where a point in time passes before its end. -/
partial def listen (wire : Wire) (deadline : Nat) (heard : List ReadResult) :
    IO (List ReadResult) := do
  match (← wire.receiver.read 1).toList with
  | byte :: _ =>
    let heard := heard ++ [.byte byte]
    if byte = Port.lineFeed then return heard else listen wire deadline heard
  | [] =>
    if deadline ≤ (← IO.monoMsNow) then return heard ++ [.nothing]
    listen wire deadline heard

/-- Pass over what has arrived. -/
partial def discard (wire : Wire) : IO Unit := do
  unless (← wire.receiver.read 1).isEmpty do discard wire

/-- Do something to a line. -/
def perform (wire : Wire) (deed : Deed) : IO Unit :=
  match deed with
  | .send bytes => do
    wire.sender.write (ByteArray.mk bytes.toArray)
    wire.sender.flush
  | .discard => discard wire
  | .wait span => IO.sleep span.toUInt32

/-- Carry out an upload over a line: play it with what was heard, do what is new, and hear more
until the upload is over. -/
partial def converse (wire : Wire) (job : UploadJob) (style : LogStyle) (heard : List ReadResult)
    (deedsDone eventsTold : Nat) : IO (Except PortError UploadReport) := do
  let start : Playback := { name := job.serial.port, heard }
  let (result, session) :=
    (Upload.run job.plan job.certificate).run (UploadJob.session job.serial start)
  tell style ((session.log.drop eventsTold).map .event)
  try
    for deed in session.port.deeds.drop deedsDone do
      perform wire deed
  catch error => return .error (.channel ⟨.fatal, wording error⟩)
  if session.port.isDry then
    let more ← listen wire ((← IO.monoMsNow) + job.serial.timeout) []
    converse wire job style (heard ++ more) session.port.deeds.length session.log.length
  else return result

/-- Open the line of a job and carry out the upload. -/
def upload (job : UploadJob) (style : LogStyle) : IO (Except Fault UploadReport) := do
  tell style [.event (UploadJob.openingEvent job.serial)]
  match ← openWire job.serial with
  | .error error => return .error (.port (.driver error.message))
  | .ok wire => return (← converse wire job style [] 0 1).mapError .port

/-- Tell how a run ends. -/
def close (style : LogStyle) (ending : Ending) : IO UInt32 := do
  tell style ending.notices
  IO.print ending.output
  return ending.exitCode.toUInt32

/-- Run the program. -/
def run (words : List String) : IO UInt32 := do
  let environment ← readEnvironment
  match Arguments.parse words environment.baud? with
  | .error stop => close { filter := .errorsOnly } (.stopped environment.baud? stop)
  | .ok arguments =>
    let terminal ← (← IO.getStderr).isTty
    let (style, complaints) := arguments.output.style environment terminal
    tell style (complaints.map .line)
    let found ← (arguments.paths environment).mapM fun path => do
      return (path, ← readText path)
    let (job, notices) := arguments.prepare environment (.ofList found)
    tell style notices
    match job with
    | .error _ => close style .failed
    | .ok job =>
      let result ← upload job style
      close style (.conclude arguments.output job.serial.port result)

end CertConsole.Main

/-- Run the program with the arguments that it was called with. -/
def main (words : List String) : IO UInt32 := CertConsole.Main.run words
