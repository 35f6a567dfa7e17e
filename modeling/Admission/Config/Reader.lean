import Admission.Failure
import Admission.Yaml.Value

/-!
Reading a configuration. It is taken from the nodes of a document, not from their values, so that any
scalar may stand for a text. What is not known is passed over.
-/

namespace Admission.Config

open Yaml

def scalar? (root node : Node) : Option (Option String × ScalarStyle × String) :=
  match follow? root node 0 with
  | some (.scalar tag _ style s, _) => some (tag, style, s)
  | _ => none

def text? (root node : Node) : Option String := (scalar? root node).map fun (_, _, s) => s

/-- Reads a flag: a plain scalar, or a literal block that is tagged as one. -/
def flag? (root node : Node) : Option Bool :=
  match scalar? root node with
  | some (_, .plain, s) => bool? s
  | some (tag, .literal, s) => if tag = some (coreTag "bool") then bool? s else none
  | _ => none

/-- Reads a mode: nothing, its text, or its text as a tag of nothing. -/
def mode? (root node : Node) : Option (Option PolicyMode) :=
  match scalar? root node with
  | none => none
  | some (tag, style, s) =>
    let isPlain := style = .plain
    let isEmpty := isPlain ∧ (s = "" ∨ isNull s)
    match tag with
    | none => if isEmpty then some none else named s
    | some t =>
      if isPlain ∧ t = coreTag "null" then if isNull s then some none else none
      else
        match localTag? tag with
        | some name => if isEmpty then named name else none
        | none => named s
where
  named (s : String) : Option (Option PolicyMode) := (PolicyMode.ofText s).toOption.map some

def entry? (entries : List (String × Node)) (key : String) : Option (Option Node) :=
  match entries.filter fun e => e.1 == key with
  | [] => some none
  | [e] => some (some e.2)
  | _ => none

def setting? {α : Type} (entries : List (String × Node)) (key : String) (default : α)
    (read : Node → Option α) : Option α := do
  match ← entry? entries key with
  | none => some default
  | some node => read node

def ofEntries? (root : Node) (entries : List (Node × Node)) : Option Config := do
  let entries ← entries.mapM fun (key, value) => (text? root key).map fun key => (key, value)
  let base : Config := {}
  return {
    policyServer := ← setting? entries "policy_server" base.policyServer (text? root)
    mode := ← setting? entries "mode" base.mode (mode? root)
    backgroundAudit := ← setting? entries "background_audit" base.backgroundAudit (flag? root)
    reportNamespace := ← setting? entries "vul_report_namespace" base.reportNamespace (text? root)
    platform := ← setting? entries "platform" base.platform (text? root)
    output := ← setting? entries "output" base.output (text? root)
    showSummary := ← setting? entries "show_summary" base.showSummary (flag? root) }

/-- Reads the settings of a document. One that is empty holds the defaults. -/
def ofDocument? : Document → Option Config
  | .void => some {}
  | .broken => none
  | .node root =>
    match root with
    | .mapping _ _ entries => ofEntries? root entries
    | .scalar _ _ .plain "" => some {}
    | _ => none

def ofText (s : String) : Except Failure Config :=
  match (single? s).bind ofDocument? with
  | none => .error .yaml
  | some config =>
    match config.validate with
    | .error fault => .error (.config fault)
    | .ok () => .ok config

end Admission.Config
