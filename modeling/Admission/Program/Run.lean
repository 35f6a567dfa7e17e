import Admission.CommandLine.Help
import Admission.CommandLine.Reader
import Admission.Files
import Admission.Pattern
import Admission.Program.Plan

/-!
The program, over whatever lets it read and write files: what is printed, what is written, how a run
ends. At most one file is written, and only when everything else went well.
-/

namespace Admission

variable [Pattern.Engine] {m : Type → Type} [Monad m]

def ConvertArguments.perform (access : FileAccess m) (arguments : ConvertArguments) :
    m (Except ConversionFault Plan) := do
  let configFile ← access.read arguments.configPath
  let ruleFile ← access.read arguments.input
  match Plan.make arguments configFile ruleFile with
  | .error fault => return .error fault
  | .ok plan =>
    match plan.destination with
    | .nowhere | .printed => return .ok plan
    | .file path =>
      if ← access.write path plan.text then return .ok plan
      else return .error .unwritableOutput

def Program.supportText : String := (Report.supportTable supportMatrix).render ++ "\n"

structure Ending where
  exitCode : UInt8
  printed : String
  /-- Why the run failed, for people. -/
  complaint : Option String := none
  /-- What is wrong with the command line. -/
  usage : Option String := none

namespace Ending

def success (printed : String) : Ending := { exitCode := 0, printed }

/-- The end of a run that is over before it began. A question about the program is no failure. -/
def ofStop : Stop → Ending
  | .help command => success (Program.helpText command)
  | .version command => success (Program.versionText command)
  | stop => { exitCode := 2, printed := "", usage := Program.usageText stop }

def ofPlan : Except ConversionFault Plan → Ending
  | .ok plan => success plan.printed
  | .error fault => { exitCode := 1, printed := "", complaint := some fault.message }

end Ending

def Request.perform (access : FileAccess m) : Request → m Ending
  | .convert arguments => do return .ofPlan (← arguments.perform access)
  | .support _ => return .success Program.supportText
  | .version => return .success (Program.versionText none)

def Program.perform (access : FileAccess m) (server : Option String) (words : List String) :
    m Ending :=
  match CommandLine.read server words with
  | .ok request => request.perform access
  | .error stop => return .ofStop stop

section

variable {σ : Type} [FileSystem σ]

structure Conversion (σ : Type) where
  plan : Plan
  files : σ

def Conversion.run (arguments : ConvertArguments) (files : σ) :
    Except ConversionFault (Conversion σ) :=
  let (outcome, files) := Id.run ((arguments.perform (.passing σ)).run files)
  outcome.map fun plan => { plan, files }

structure RunResult (σ : Type) extends Ending where
  files : σ

def run (server : Option String) (files : σ) (words : List String) : RunResult σ :=
  let (ending, files) := Id.run ((Program.perform (.passing σ) server words).run files)
  { ending with files }

end
end Admission
