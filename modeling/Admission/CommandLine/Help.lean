import Admission.CommandLine.Request

namespace Admission.Program

def name : String := "kwconvert"

def versionNumber : String := "0.1.0"

def versionText (command : Option Command) : String :=
  name ++ ((command.map fun c => "-" ++ c.name).getD "") ++ " " ++ versionNumber ++ "\n"

def purpose : Command → String
  | .convert => "Convert an exported rule file into Kubewarden policies"
  | .support => "Show which NeuVector criteria can be converted"
  | .version => "Print the converter version"

/-- A line that names something and tells about it, the two set apart in columns. -/
def helpLine (w : Nat) (entry : String × String) : String :=
  "  " ++ entry.1.pushn ' ' (w - entry.1.length) ++ "  " ++ entry.2

def helpSection (title : String) (entries : List (String × String)) : String :=
  let w := entries.foldl (fun w e => max w e.1.length) 0
  "\n" ++ "\n".intercalate (title :: entries.map (helpLine w)) ++ "\n"

def optionEntries : Command → List (String × String)
  | .convert => [
      ("-c, --config <CONFIG>", "Configuration file path, skipped when absent"),
      ("    --policy-server <POLICY_SERVER>", "Policy server that runs the generated policies"),
      ("-m, --mode <MODE>", "Force a policy mode instead of each rule's own mode"),
      ("    --background-audit <BACKGROUND_AUDIT>",
        "Enable or disable background audit on generated policies"),
      ("    --vul-report-namespace <VUL_REPORT_NAMESPACE>",
        "Namespace holding vulnerability reports"),
      ("    --platform <PLATFORM>", "Image platform architecture checked by CVE policies"),
      ("-o, --output <OUTPUT>", "Output file, \"-\" for stdout"),
      ("    --show-summary", "Print a per-rule conversion summary")] ++ verbose
  | .support => verbose
  | .version => []
where
  verbose : List (String × String) := [("-v, --verbose", "Enable verbose logging")]

def commonEntries : List (String × String) :=
  [("-h, --help", "Print help"), ("-V, --version", "Print version")]

def helpText : Option Command → String
  | none =>
    "Convert NeuVector admission control rules into Kubewarden policies\n\nUsage: " ++ name ++
      " <COMMAND>\n" ++
      helpSection "Commands:"
        (Command.all.map (fun c => (c.name, purpose c)) ++
          [("help", "Print this message or the help of the given subcommand(s)")]) ++
      helpSection "Options:" commonEntries
  | some command =>
    purpose command ++ "\n\nUsage: " ++ name ++ " " ++ command.name ++
      (match command with
        | .convert => " [OPTIONS] <INPUT>\n" ++ helpSection "Arguments:"
            [("<INPUT>", "Rule export: JSON from the REST API, or YAML custom resources")]
        | .support => " [OPTIONS]\n"
        | .version => "\n") ++
      helpSection "Options:" (optionEntries command ++ commonEntries)

def usageText : Stop → Option String
  | .help _ | .version _ => none
  | .noCommand => some (helpText none)
  | .unknownCommand => some "error: unrecognized subcommand\n"
  | .noInput => some "error: the following required arguments were not provided:\n  <INPUT>\n"
  | .unknownArgument => some "error: unexpected argument found\n"
  | .repeatedArgument => some "error: an argument cannot be used multiple times\n"
  | .badValue => some "error: a value is missing or invalid\n"
  | .badMode => some "error: invalid value for '--mode <MODE>'\n"
  | .valueOfFlag => some "error: unexpected value for a flag\n"

end Admission.Program
