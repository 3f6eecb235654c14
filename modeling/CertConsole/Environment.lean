/-!
# Environments

What a program is started with besides its arguments: environment variables and the home directory
of the user.
-/
namespace CertConsole

/-- What a program finds in its environment. -/
structure Environment where
  /-- The environment variables. -/
  values : List (String × String) := []
  /-- The home directory of the user's account. -/
  accountHome : Option String := none
  deriving DecidableEq, Repr

namespace Environment

/-- The value of a variable. -/
def get? (environment : Environment) (name : String) : Option String :=
  environment.values.lookup name

/-- The value of a variable, where it is not empty. -/
def nonempty? (environment : Environment) (name : String) : Option String :=
  (environment.get? name).filter (· ≠ "")

/-- A variable that is set to anything but zero switches something on. -/
def switch? (environment : Environment) (name : String) : Option Bool :=
  (environment.get? name).map (· != "0")

/-- A path below a directory. -/
def join (directory path : String) : String :=
  if directory.toList.getLast? = some '/' then directory ++ path else directory ++ "/" ++ path

/-- The user's home directory. -/
def home? (environment : Environment) : Option String :=
  (environment.nonempty? "HOME").or environment.accountHome

/-- The directory of the user's configuration files. It may be set, but only to an absolute path. -/
def configDirectory? (environment : Environment) : Option String := do
  let home ← environment.home?
  match environment.get? "XDG_CONFIG_HOME" with
  | some directory =>
    if directory.toList.head? = some '/' then return directory else return join home ".config"
  | none => return join home ".config"

end Environment

end CertConsole
