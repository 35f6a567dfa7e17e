import Admission.CommandLine.Request

/-!
Reading command lines. A command comes first and its arguments follow in any order. What takes a value
is given one behind an equals sign or as the next word; a word that begins with a dash is never taken
as such a value, the single dash apart. After two dashes every word stands for itself.

A value is looked at only when the next argument begins or the words are at their end. Hence of two
faults an unknown argument is the one that counts, even if the value before it is bad.
-/

namespace Admission.CommandLine

/-- What takes a value. -/
inductive Slot
  | input
  | configPath
  | policyServer
  | mode
  | backgroundAudit
  | reportNamespace
  | platform
  | output
  deriving DecidableEq, Repr

/-- What takes no value. -/
inductive Flag
  | showSummary
  | verbose
  | help
  | version
  deriving DecidableEq, Repr

inductive Argument
  | slot (slot : Slot)
  | flag (flag : Flag)
  deriving DecidableEq, Repr

/-- How an argument is written: a name behind two dashes, perhaps a letter behind one. -/
structure Spelling where
  argument : Argument
  name : String
  letter : Option Char := none

def commonSpellings : List Spelling := [
  { argument := .flag .help, name := "help", letter := some 'h' },
  { argument := .flag .version, name := "version", letter := some 'V' }]

def verboseSpelling : Spelling :=
  { argument := .flag .verbose, name := "verbose", letter := some 'v' }

def spellings : Command → List Spelling
  | .convert => [
      { argument := .slot .configPath, name := "config", letter := some 'c' },
      { argument := .slot .policyServer, name := "policy-server" },
      { argument := .slot .mode, name := "mode", letter := some 'm' },
      { argument := .slot .backgroundAudit, name := "background-audit" },
      { argument := .slot .reportNamespace, name := "vul-report-namespace" },
      { argument := .slot .platform, name := "platform" },
      { argument := .slot .output, name := "output", letter := some 'o' },
      { argument := .flag .showSummary, name := "show-summary" },
      verboseSpelling] ++ commonSpellings
  | .support => verboseSpelling :: commonSpellings
  | .version => commonSpellings

def byName? (command : Command) (name : String) : Option Argument :=
  ((spellings command).find? fun s => s.name == name).map Spelling.argument

def byLetter? (command : Command) (letter : Char) : Option Argument :=
  ((spellings command).find? fun s => s.letter == some letter).map Spelling.argument

inductive Word
  /-- Two dashes. -/
  | escape
  /-- A name behind two dashes, and what follows the first equals sign. -/
  | named (name : String) (value : Option String)
  /-- Letters behind one dash. -/
  | letters (cs : List Char)
  | plain
  deriving Repr

def splitEquals (cs : List Char) : List Char × Option (List Char) :=
  match cs.dropWhile (· ≠ '=') with
  | [] => (cs, none)
  | _ :: value => (cs.takeWhile (· ≠ '='), some value)

def Word.ofString (s : String) : Word :=
  match s.toList with
  | ['-', '-'] => escape
  | '-' :: '-' :: cs =>
    let (name, value) := splitEquals cs
    named (String.ofList name) (value.map String.ofList)
  | '-' :: c :: cs => letters (c :: cs)
  | _ => plain

structure Draft where
  input : Option String := none
  configPath : Option String := none
  policyServer : Option String := none
  mode : Option PolicyMode := none
  backgroundAudit : Option Bool := none
  reportNamespace : Option String := none
  platform : Option String := none
  output : Option String := none
  showSummary : Bool := false
  verbose : Bool := false

/-- A path may not be empty. -/
def readPath (s : String) : Except Stop String := if s = "" then .error .badValue else .ok s

def readFlag (s : String) : Except Stop Bool :=
  if s = "true" then .ok true else if s = "false" then .ok false else .error .badValue

def readMode (s : String) : Except Stop PolicyMode := (PolicyMode.ofText s).mapError fun _ => .badMode

def once {α : Type} (given : Option α) (value : Except Stop α) : Except Stop (Option α) :=
  if given.isSome then .error .repeatedArgument else value.map some

namespace Draft

def store (draft : Draft) (slot : Slot) (s : String) : Except Stop Draft :=
  match slot with
  | .input => do return { draft with input := ← once draft.input (readPath s) }
  | .configPath => do return { draft with configPath := ← once draft.configPath (readPath s) }
  | .policyServer => do return { draft with policyServer := ← once draft.policyServer (.ok s) }
  | .mode => do return { draft with mode := ← once draft.mode (readMode s) }
  | .backgroundAudit => do
    return { draft with backgroundAudit := ← once draft.backgroundAudit (readFlag s) }
  | .reportNamespace => do
    return { draft with reportNamespace := ← once draft.reportNamespace (.ok s) }
  | .platform => do return { draft with platform := ← once draft.platform (.ok s) }
  | .output => do return { draft with output := ← once draft.output (.ok s) }

def raise (draft : Draft) (command : Command) : Flag → Except Stop Draft
  | .showSummary =>
    if draft.showSummary then .error .repeatedArgument else .ok { draft with showSummary := true }
  | .verbose =>
    if draft.verbose then .error .repeatedArgument else .ok { draft with verbose := true }
  | .help => .error (.help (some command))
  | .version => .error (.version (some command))

end Draft

/-- What has been read: arguments, and a slot whose value is awaited or not looked at yet. -/
structure Progress where
  draft : Draft := {}
  pending : Option (Slot × Option String) := none

namespace Progress

def settle (progress : Progress) : Except Stop Draft :=
  match progress.pending with
  | none => .ok progress.draft
  | some (_, none) => .error .badValue
  | some (slot, some s) => progress.draft.store slot s

def take (progress : Progress) (command : Command) (argument : Argument) (value : Option String) :
    Except Stop Progress :=
  match argument, value with
  | .flag _, some _ => .error .valueOfFlag
  | .flag flag, none => do
    let draft ← progress.settle
    return { draft := ← draft.raise command flag }
  | .slot slot, some s => do
    let draft ← progress.settle
    return { draft := ← draft.store slot s }
  | .slot slot, none => do
    return { draft := ← progress.settle, pending := some (slot, none) }

/-- Takes letters behind one dash. What follows the letter of a slot is its value. -/
def takeLetters (command : Command) : Progress → List Char → Except Stop Progress
  | progress, [] => .ok progress
  | progress, c :: cs =>
    match byLetter? command c with
    | none => .error .unknownArgument
    | some (.flag flag) => do takeLetters command (← progress.take command (.flag flag) none) cs
    | some (.slot slot) => progress.take command (.slot slot) (attached cs)
where
  attached : List Char → Option String
    | [] => none
    | '=' :: cs => some (String.ofList cs)
    | cs => some (String.ofList cs)

def hasInput (progress : Progress) : Bool :=
  progress.draft.input.isSome || progress.pending.any fun p => p.1 = .input

/-- Takes a word that stands for itself. -/
def takeInput (progress : Progress) (command : Command) (s : String) : Except Stop Progress :=
  if command = .convert ∧ progress.hasInput = false then do
    return { draft := ← progress.settle, pending := some (.input, some s) }
  else .error .unknownArgument

def takeWords (command : Command) : Progress → List String → Except Stop Progress
  | progress, [] => .ok progress
  | progress, s :: rest =>
    match Word.ofString s with
    | .escape => rest.foldlM (fun progress s => progress.takeInput command s) progress
    | .named name value => do
      match byName? command name with
      | none => throw .unknownArgument
      | some argument => takeWords command (← progress.take command argument value) rest
    | .letters cs => do takeWords command (← progress.takeLetters command cs) rest
    | .plain => do
      match progress.pending with
      | some (slot, none) => takeWords command { progress with pending := some (slot, some s) } rest
      | _ => takeWords command (← progress.takeInput command s) rest

end Progress

/-- The conversion that was asked for. A policy server from the environment counts where none was
given. -/
def Draft.toArguments (draft : Draft) (server : Option String) : Except Stop ConvertArguments :=
  match draft.input with
  | none => .error .noInput
  | some input =>
    let base : ConvertArguments := { input }
    .ok {
      input
      configPath := draft.configPath.getD base.configPath
      policyServer := draft.policyServer.or server
      mode := draft.mode
      backgroundAudit := draft.backgroundAudit
      reportNamespace := draft.reportNamespace
      platform := draft.platform
      output := draft.output
      showSummary := draft.showSummary
      verbose := draft.verbose }

def readCommand (server : Option String) (command : Command) (words : List String) :
    Except Stop Request := do
  let draft ← (← Progress.takeWords command {} words).settle
  match command with
  | .convert => (draft.toArguments server).map .convert
  | .support => return .support draft.verbose
  | .version => return .version

def helpName : String := "help"

def readHelp : List String → Stop
  | [] => .help none
  | [s] =>
    if s = helpName then .help none
    else
      match Command.ofName? s with
      | some command => .help (some command)
      | none => .unknownCommand
  | _ => .unknownCommand

/-- Reads the words before any command, of which the first decides. -/
def readFirst (s : String) (rest : List String) : Stop :=
  match Word.ofString s with
  | .escape =>
    match rest with
    | [] => .noCommand
    | s :: _ =>
      if s = helpName ∨ (Command.ofName? s).isSome then .unknownArgument else .unknownCommand
  | .named name value =>
    match commonSpellings.find? fun s => s.name == name, value with
    | none, _ => .unknownArgument
    | some _, some _ => .valueOfFlag
    | some spelling, none => asked spelling
  | .letters (c :: _) =>
    match commonSpellings.find? fun s => s.letter == some c with
    | none => .unknownArgument
    | some spelling => asked spelling
  | .letters [] => .unknownArgument
  | .plain => if s = helpName then readHelp rest else .unknownCommand
where
  asked (spelling : Spelling) : Stop :=
    if spelling.argument = .flag .help then .help none else .version none

/-- Reads a command line; `server` is the policy server that the environment gives. -/
def read (server : Option String) : List String → Except Stop Request
  | [] => .error .noCommand
  | s :: rest =>
    match Command.ofName? s with
    | some command => readCommand server command rest
    | none => .error (readFirst s rest)

end Admission.CommandLine
