import CertConsole.Configuration.Section
import CertConsole.Environment
import CertConsole.Event
import CertConsole.Files

/-!
# Sources of configuration

Settings come from a global file of the user and from a local file of the working directory, which
goes first. A file that the user names takes the place of both. A file that cannot be used is told
in the log and sets nothing.
-/
namespace CertConsole

namespace Configuration

/-- The global configuration file. -/
def globalPath? (environment : Environment) : Option String :=
  environment.configDirectory?.map (Environment.join · "certupload/config.toml")

/-- The local configuration file. -/
def localPath : String := "certupload.toml"

/-- The configuration in a file, if it can be used, and what the log tells about a file that is
there and cannot be. -/
def load (files : Files) (path : String) : Option Configuration × List Event :=
  if files.hasEntry path then
    match files.read path with
    | .error cause => (none, [.configUnreadable path cause])
    | .ok text =>
      match ofText? text with
      | some config => (some config, [])
      | none => (none, [.configMalformed path])
  else (none, [])

/-- One of the files that need not be there: its configuration, or one without settings. -/
def loadLayer (files : Files) (path : String) (loaded : Event) : Configuration × List Event :=
  match load files path with
  | (some config, events) => (config, events ++ [loaded])
  | (none, events) => ({}, events)

/-- The configuration of the global and the local file. -/
def loadStandard (environment : Environment) (files : Files) : Configuration × List Event :=
  let (lower, globalEvents) :=
    match globalPath? environment with
    | some path => loadLayer files path (.globalConfigLoaded path)
    | none => ({}, [])
  let (upper, localEvents) := loadLayer files localPath (.localConfigLoaded localPath)
  (upper.overlay lower, globalEvents ++ localEvents)

/-- The configuration of a file that the user names. -/
def loadNamed (files : Files) (path : String) : Configuration × List Event :=
  match load files path with
  | (some config, events) => (config, events ++ [.namedConfigLoaded path])
  | (none, events) => ({}, events ++ [.namedConfigMissing path])

/-- The configuration of the file that the user names, or else of the standard files. -/
def gather (environment : Environment) (files : Files) (named : Option String) :
    Configuration × List Event :=
  match named with
  | some path => loadNamed files path
  | none => loadStandard environment files

end Configuration

end CertConsole
