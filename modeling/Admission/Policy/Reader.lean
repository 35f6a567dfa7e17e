import Admission.Number.Binary64
import Admission.Policy
import Admission.Tree.Record

/-!
Reading policies from data. The form of a single policy is tried first, then the form of a group.
The settings are kept as they are, but for three things: their maps come in the order of the keys, of
two entries with one key the later one stays, and a number that is not finite counts as nothing.
-/

namespace Admission.Policy

open Admission.Tree

/-- Records may also be lists of fields, or maps keyed by position. -/
def recordForm : RecordForm := { fromList := true, fromNull := false, byPosition := true }

/-- Puts an entry into a list ordered by key; an entry with the same key is replaced. -/
def insertEntry {α : Type} (key : String) (value : α) : List (String × α) → List (String × α)
  | [] => [(key, value)]
  | entry :: entries =>
    if key < entry.1 then (key, value) :: entry :: entries
    else if key = entry.1 then (key, value) :: entries
    else entry :: insertEntry key value entries

def orderedEntries {α : Type} (entries : List (String × α)) : List (String × α) :=
  entries.foldl (fun found e => insertEntry e.1 e.2 found) []

mutual

def isReadable : Tree → Bool
  | .unreadable => false
  | .tagged .. => false
  | .list items => areReadable items
  | .map entries => entriesReadable entries
  | _ => true

def areReadable : List Tree → Bool
  | [] => true
  | item :: items => isReadable item && areReadable items

def entriesReadable : List (Tree × Tree) → Bool
  | [] => true
  | (key, value) :: entries => isReadable key && isReadable value && entriesReadable entries

end

mutual

def settings? : Tree → Option Tree
  | .float bits => some (if Number.Binary64.isFinite bits then .float bits else .null)
  | .list items => (settingsList? items).map .list
  | .map entries => (settingsEntries? entries).map fun found => Tree.object (orderedEntries found)
  | .tagged .. => none
  | .unreadable => none
  | tree => some tree

def settingsList? : List Tree → Option (List Tree)
  | [] => some []
  | item :: items => do
    let item ← settings? item
    let items ← settingsList? items
    return item :: items

def settingsEntries? : List (Tree × Tree) → Option (List (String × Tree))
  | [] => some []
  | (key, value) :: entries => do
    let key ← key.text?
    let value ← settings? value
    let entries ← settingsEntries? entries
    return (key, value) :: entries

end

def textList? (tree : Tree) : Option (List String) := tree.listOf? recordForm text?

def contextResource? (tree : Tree) : Option ContextResource :=
  match tree.fields recordForm [["apiVersion"], ["kind"]] with
  | some [apiVersion, kind] => do
    return ⟨← required text? apiVersion, ← required text? kind⟩
  | _ => none

/-- One of a fixed set of names: a text, or the only key of a map to nothing, where the position in
the set may stand for the name. -/
def choice? {α : Type} (all : List α) (ofName? : String → Option α) (tree : Tree) : Option α :=
  match tree with
  | .text s => ofName? s
  | .map [(.text s, .null)] => ofName? s
  | .map [(.int (.ofNat n), .null)] => all[n]?
  | _ => none

def matchRule? (tree : Tree) : Option MatchRule :=
  match tree.fields recordForm [["apiGroups"], ["apiVersions"], ["resources"], ["operations"]] with
  | some [apiGroups, apiVersions, resources, operations] => do
    return {
      apiGroups := ← required textList? apiGroups
      apiVersions := ← required textList? apiVersions
      resources := ← required textList? resources
      operations :=
        ← required (listOf? recordForm (choice? Operation.all Operation.ofName?)) operations }
  | _ => none

def requirement? (tree : Tree) : Option Requirement :=
  match tree.fields recordForm [["key"], ["operator"], ["values"]] with
  | some [key, operator, values] => do
    return {
      key := ← required text? key
      operator := ← required (choice? SelectorOperator.all SelectorOperator.ofName?) operator
      values := ← withDefault [] textList? values }
  | _ => none

def selector? (tree : Tree) : Option Selector :=
  match tree.fields recordForm [["matchExpressions"]] with
  | some [requirements] => do
    return ⟨← required (listOf? recordForm requirement?) requirements⟩
  | _ => none

def contextResources? : Option Tree → Option (List ContextResource) :=
  withDefault [] (listOf? recordForm contextResource?)

def objectName? (tree : Tree) : Option String :=
  match tree.fields recordForm [["name"]] with
  | some [name] => required text? name
  | _ => none

def object? {α : Type} (read : Tree → Option α) (tree : Tree) :
    Option (String × String × String × α) :=
  match tree.fields recordForm [["apiVersion"], ["kind"], ["metadata"], ["spec"]] with
  | some [apiVersion, kind, metadata, specification] => do
    return (← required text? apiVersion, ← required text? kind, ← required objectName? metadata,
      ← required read specification)
  | _ => none

def single? (tree : Tree) : Option SinglePolicy := do
  let (apiVersion, kind, name, policy) ← object? specification? tree
  return { policy with apiVersion, kind, name }
where
  specification? (tree : Tree) : Option SinglePolicy :=
    match tree.fields recordForm [["policyServer"], ["module"], ["mode"], ["backgroundAudit"],
        ["rules"], ["settings"], ["contextAwareResources"], ["namespaceSelector"]] with
    | some [server, module, mode, audit, rules, settings, resources, selector] => do
      return {
        apiVersion := "", kind := "", name := ""
        server := ← required text? server
        module := ← required text? module
        mode := ← required text? mode
        backgroundAudit := ← required bool? audit
        rules := ← required (listOf? recordForm matchRule?) rules
        settings := ← required settings? settings
        contextResources := ← contextResources? resources
        selector := ← optional selector? selector }
    | _ => none

def member? (tree : Tree) : Option Member :=
  match tree.fields recordForm [["module"], ["settings"], ["contextAwareResources"]] with
  | some [module, settings, resources] => do
    return {
      module := ← required text? module
      settings := ← required settings? settings
      contextResources := ← contextResources? resources }
  | _ => none

def members? (tree : Tree) : Option (List (String × Member)) :=
  match tree with
  | .map entries => (entries.mapM readEntry).map orderedEntries
  | _ => none
where
  readEntry (e : Tree × Tree) : Option (String × Member) := do
    return (← e.1.text?, ← member? e.2)

def group? (tree : Tree) : Option PolicyGroup := do
  let (apiVersion, kind, name, policy) ← object? specification? tree
  return { policy with apiVersion, kind, name }
where
  specification? (tree : Tree) : Option PolicyGroup :=
    match tree.fields recordForm [["policyServer"], ["mode"], ["backgroundAudit"], ["rules"],
        ["message"], ["expression"], ["policies"], ["namespaceSelector"]] with
    | some [server, mode, audit, rules, message, expression, members, selector] => do
      return {
        apiVersion := "", kind := "", name := ""
        server := ← required text? server
        mode := ← required text? mode
        backgroundAudit := ← required bool? audit
        rules := ← required (listOf? recordForm matchRule?) rules
        message := ← required text? message
        expression := ← required text? expression
        members := ← required members? members
        selector := ← optional selector? selector }
    | _ => none

/-- Reads a policy. A part without a value makes the whole unreadable, also where it is not used. -/
def ofTree? (tree : Tree) : Option Policy :=
  if isReadable tree then
    ((single? tree).map Policy.single).or ((group? tree).map Policy.group)
  else none

end Admission.Policy
