import LanguageClient.Session.Completion
import LanguageClient.Session.Folding
import LanguageClient.Text.Quoted

/-!
# The command line

The program runs recorded servers on a file: `complete` prints the proposals at an offset and
applies one of them, `fold` prints the folds. `CommandLine.parse` reads the arguments, and
`CommandLine.run` says what is printed and how the program ends, given the files.
-/

namespace LanguageClient.CommandLine

/-- What the program is asked to do. -/
inductive Task
  | complete (file : String) (offset : Nat) (servers : String) (apply : Option Nat)
  | fold (file : String) (servers : String)
  deriving DecidableEq, Repr

/-- The arguments of a run. -/
structure Invocation where
  config : Option String
  task : Task
  deriving DecidableEq, Repr

/-- Why there is no run: the user asked for help or the version, or the arguments are wrong. -/
inductive Usage
  | help
  | version
  | wrong
  deriving DecidableEq, Repr

/-- The options seen so far, by name; a switch has no value. -/
abbrev Options := List (String × Option String)

/-- The commands with the options that take a value. -/
def valueOptions : String → List String
  | "complete" => ["file", "offset", "servers", "apply"]
  | "fold" => ["file", "servers"]
  | _ => []

/-- Reads a number of at most 64 bits. A plus sign may stand in front of it. -/
def number? (s : String) : Option Nat := do
  let digits := match s.toList with
    | '+' :: rest => rest
    | all => all
  guard (!digits.isEmpty && digits.all fun c => '0' ≤ c && c ≤ '9')
  let n : Nat := digits.foldl (fun n c => 10 * n + (c.toNat - '0'.toNat)) 0
  guard (n < UInt64.size)
  return n

/-- Whether an option accepts a value: a file has a name, and a number is one. -/
def isValue (name value : String) : Bool :=
  if name = "offset" ∨ name = "apply" then (number? value).isSome else !value.isEmpty

/-- Adds an option, which must be new. -/
def addOption (name : String) (value : Option String) (seen : Options) :
    Except Usage Options :=
  if seen.any (·.1 == name) then .error .wrong
  else if value.all (isValue name) then .ok ((name, value) :: seen)
  else .error .wrong

/-- The name and value in a text such as `--name=value`. -/
def splitOption (arg : String) : String × Option String :=
  let body := arg.toList.drop 2
  let name := body.takeWhile (· != '=')
  (String.ofList name,
    if name.length < body.length then some (String.ofList (body.drop (name.length + 1)))
    else none)

/-- Whether an argument cannot be the value of an option. -/
def isFlag (arg : String) : Bool := arg.startsWith "-" && arg != "-"

/-- Reads the options of one level. `withValue` names those that take a value besides the
configuration. What is no option is left over. Short options may be run together, so an argument
that begins with the one for help asks for help. -/
def readOptions (isTop : Bool) (withValue : List String) (seen : Options) :
    List String → Except Usage (Options × List String)
  | [] => .ok (seen, [])
  | arg :: rest =>
    if arg.startsWith "-h" ∨ arg = "--help" then .error .help
    else if isTop ∧ (arg.startsWith "-V" ∨ arg = "--version") then .error .version
    else if arg = "--" then if rest.isEmpty ∧ ¬isTop then .ok (seen, []) else .error .wrong
    else if !arg.startsWith "--" then .ok (seen, arg :: rest)
    else
      let (name, value) := splitOption arg
      if name = "log-json" then
        if value.isSome then .error .wrong
        else do readOptions isTop withValue (← addOption name none seen) rest
      else if name = "config" ∨ withValue.contains name then
        match value, rest with
        | some value, rest => do
          readOptions isTop withValue (← addOption name (some value) seen) rest
        | none, value :: rest =>
          if isFlag value then .error .wrong
          else do readOptions isTop withValue (← addOption name (some value) seen) rest
        | none, [] => .error .wrong
      else .error .wrong

/-- The value of an option. -/
def valueOf? (name : String) (seen : Options) : Option String := (seen.lookup name).join

/-- Makes a task of the options of a command. -/
def task? (command : String) (seen : Options) : Option Task := do
  let file ← valueOf? "file" seen
  let servers ← valueOf? "servers" seen
  if command = "fold" then return .fold file servers
  else
    let offset ← valueOf? "offset" seen >>= number?
    return .complete file offset servers (valueOf? "apply" seen >>= number?)

/-- Reads the arguments: options for all commands, a command, and its options. A configuration
named behind the command counts before one named in front of it. Help is there for one command
at a time. -/
def parse (args : List String) : Except Usage Invocation := do
  let (before, rest) ← readOptions true [] [] args
  match rest with
  | [] => throw .wrong
  | command :: rest =>
    if command = "help" then
      throw (match rest with
        | [] | ["complete"] | ["fold"] | ["help"] => .help
        | _ => .wrong)
    if command ≠ "complete" ∧ command ≠ "fold" then throw .wrong
    let (behind, rest) ← readOptions false (valueOptions command) [] rest
    if !rest.isEmpty then throw .wrong
    match task? command behind with
    | none => throw .wrong
    | some task => return ⟨valueOf? "config" behind <|> valueOf? "config" before, task⟩

/-- What is found under the name of a file. -/
inductive FileEntry
  | missing
  /-- The name goes on behind what is no directory. -/
  | notADirectory
  /-- The name, or a part of it, is longer than names can be. -/
  | nameTooLong
  | directory
  | text (content : String)
  deriving DecidableEq, Repr

/-- The content of a file that can be read. -/
def FileEntry.content? : FileEntry → Option String
  | text content => some content
  | _ => none

/-- Why a run fails. -/
inductive Failure
  | config (path : String) (entry : FileEntry)
  | invalidConfig
  | unresolved (path : String)
  | unreadable (path : String)
  | invalidServers
  | noProposal (index : Nat)
  | notApplicable (index : Nat)
  | edit (error : EditError)
  | document (error : DocumentError)
  deriving DecidableEq, Repr

/-- What is said of a file that cannot be read. -/
def FileEntry.obstacle : FileEntry → String
  | notADirectory => "Not a directory (os error 20)"
  | nameTooLong => "File name too long (os error 36)"
  | directory => "Is a directory (os error 21)"
  | _ => "No such file or directory (os error 2)"

/-- The text shown for a failure. -/
def Failure.message : Failure → String
  | config path entry => s!"Failed to read config {Text.quoted path}: {entry.obstacle}"
  | invalidConfig => "Invalid config"
  | unresolved path => s!"Failed to resolve {Text.quoted path}"
  | unreadable path => s!"Failed to read {Text.quoted path}"
  | invalidServers => "invalid JSON"
  | noProposal index => s!"No proposal with index {index}"
  | notApplicable index => s!"Proposal {index} cannot be applied"
  | edit error => error.message
  | document error => error.message

/-- What a run printed, and its failure if it failed. -/
structure Outcome where
  output : String := ""
  failure : Option Failure := none
  deriving DecidableEq, Repr

/-- Reads the settings. -/
def loadSettings (files : String → FileEntry) : Option String → Except Failure Settings
  | none => .ok {}
  | some path =>
    match Settings.load (files path).content? with
    | .ok settings => .ok settings
    | .error .unreadable => .error (.config path (files path))
    | .error .malformed => .error .invalidConfig

/-- Reads the document. -/
def loadDocument (files : String → FileEntry) (path : String) : Except Failure Document :=
  match files path with
  | .directory => .error (.unreadable path)
  | .text content => .ok { text := content.toList, uri := some ("file:///" ++ path) }
  | _ => .error (.unresolved path)

/-- Reads the recorded servers. -/
def loadServers (files : String → FileEntry) (path : String) :
    Except Failure (List RecordedServer) :=
  match (files path).content? with
  | none => .error (.unreadable path)
  | some content =>
    match (Json.parse? content).bind (Json.list? RecordedServer.ofJson?) with
    | some servers => .ok servers
    | none => .error .invalidServers

/-- Prints the proposals, one on a line with its place. -/
def listing (proposals : List Proposal) : String :=
  String.join (proposals.zipIdx.map fun (p, i) => s!"{i}\t{p.display}\n")

/-- The document behind the proposal of a given place, applied. -/
def applied (d : Document) (proposals : List Proposal) (index : Nat) : Except Failure String :=
  match proposals[index]? with
  | none => .error (.noProposal index)
  | some p =>
    match p.apply d with
    | .error e => .error (.edit e)
    | .ok (_, none) => .error (.notApplicable index)
    | .ok (d, some _) => .ok ("\n" ++ String.ofList d.text)

/-- Completes a document. -/
def runComplete (settings : Settings) (d : Document) (servers : List RecordedServer)
    (offset : Nat) (apply : Option Nat) : Outcome :=
  let session : CompletionSession :=
    { exchange := .ofServers servers, settings := settings.completion, document := d }
  let proposals := (session.compute offset).proposals
  let output := listing proposals
  match apply with
  | none => { output }
  | some index =>
    match applied d proposals index with
    | .ok text => { output := output ++ text }
    | .error failure => { output, failure := some failure }

/-- Prints folds, one on a line with its lines. -/
def foldListing (d : Document) : List (Span × Fold) → Outcome
  | [] => {}
  | (span, fold) :: rest =>
    match span.lines d with
    | .error e => { failure := some (.document e) }
    | .ok (first, last) =>
      let state := if fold.collapsed then "collapsed" else "expanded"
      let outcome := foldListing d rest
      { outcome with output := s!"{first}..{last}\t{state}\n" ++ outcome.output }

/-- Folds a document. -/
def runFold (settings : Settings) (d : Document) (servers : List RecordedServer) : Outcome :=
  let session := FoldingSession.start servers settings.folding d false
  let session := (session.act (.reconcile .initial)).1.settle
  foldListing d (session.currentModel.folds.map fun (_, span, fold) => (span, fold))

/-- Runs a task with the settings read. -/
def runTask (files : String → FileEntry) (settings : Settings) (task : Task) : Outcome :=
  let outcome : Except Failure Outcome := match task with
    | .complete file offset servers apply => do
      let d ← loadDocument files file
      return runComplete settings d (← loadServers files servers) offset apply
    | .fold file servers => do
      let d ← loadDocument files file
      return runFold settings d (← loadServers files servers)
  match outcome with
  | .ok outcome => outcome
  | .error failure => { failure := some failure }

end LanguageClient.CommandLine
