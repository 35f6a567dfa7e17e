import Admission.Config

namespace Admission

inductive Command
  | convert
  | support
  | version
  deriving DecidableEq, Repr

namespace Command

def name : Command → String
  | convert => "convert"
  | support => "support"
  | version => "version"

def all : List Command := [convert, support, version]

def ofName? (s : String) : Option Command := all.find? fun command => command.name == s

end Command

/-- What a conversion is asked for. A setting that is not given is left to the configuration. -/
structure ConvertArguments where
  input : String
  configPath : String := "kwconvert.yaml"
  policyServer : Option String := none
  mode : Option PolicyMode := none
  backgroundAudit : Option Bool := none
  reportNamespace : Option String := none
  platform : Option String := none
  output : Option String := none
  showSummary : Bool := false
  verbose : Bool := false
  deriving DecidableEq, Repr

inductive Request
  | convert (arguments : ConvertArguments)
  | support (verbose : Bool)
  | version
  deriving DecidableEq, Repr

inductive Stop
  /-- It asks for help, on a command or on the program. -/
  | help (command : Option Command)
  /-- It asks for the version by a flag, behind a command or before any. -/
  | version (command : Option Command)
  | noCommand
  | unknownCommand
  | noInput
  | unknownArgument
  | repeatedArgument
  /-- A value is missing, or is none that the argument can have. -/
  | badValue
  | badMode
  /-- A flag was given a value. -/
  | valueOfFlag
  deriving DecidableEq, Repr

end Admission
