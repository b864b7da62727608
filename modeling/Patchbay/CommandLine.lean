-- The command line: evaluate one expression, run a saved graph, or check
-- the sources of a saved graph.
import Patchbay.Folder
import Patchbay.Graph.File
import Patchbay.Graph.Recompute
import Patchbay.Text.Lines
import Patchbay.Text.Utf8

namespace Patchbay.CommandLine

open Patchbay.Language

/-! ## Commands -/

inductive Command
  /-- Evaluate a text, or standard input where none is given. -/
  | eval (code : Option String)
  | run (file : String) (json : Bool)
  | check (file : String)
  deriving DecidableEq, Repr

/-- The arguments that are no flags, and the flags. All that follows `--` is no
flag. -/
def separate : List String → List String × List String
  | [] => ([], [])
  | arg :: rest =>
    if arg = "--" then (rest, [])
    else
      let (plain, flags) := separate rest
      if arg.startsWith "-" && arg ≠ "-" then (plain, arg :: flags) else (arg :: plain, flags)

/-- The command that the arguments name. -/
def Command.ofArgs? : List String → Option Command
  | "eval" :: rest =>
    match separate rest with
    | ([], []) => some (.eval none)
    | ([code], []) => some (.eval (some code))
    | _ => none
  | "run" :: rest =>
    match separate rest with
    | ([file], []) => some (.run file false)
    | ([file], ["--json"]) => some (.run file true)
    | _ => none
  | "check" :: rest =>
    match separate rest with
    | ([file], []) => some (.check file)
    | _ => none
  | _ => none

/-- What a command reads before it starts. -/
inductive Source
  | nothing
  | standardInput
  | file (name : String)
  deriving DecidableEq, Repr

def Command.source : Command → Source
  | .eval (some _) => .nothing
  | .eval none => .standardInput
  | .run file _ => .file file
  | .check file => .file file

/-! ## Reports -/

/-- What a run of the program leaves behind. -/
structure Result where
  exitCode : Nat
  stdout : String
  stderr : String
  deriving DecidableEq, Repr

def success (stdout : String) : Result := ⟨0, stdout, ""⟩

def failure (stderr : String) : Result := ⟨1, "", stderr⟩

/-- A failure of the program itself, with what it was about and its cause. -/
def failureBecause (context cause : String) : Result :=
  failure ("Error: " ++ context ++ "\n\nCaused by:\n    " ++ cause)

def usage : String :=
  "error: expected one of\n  eval [CODE]\n  run FILE [--json]\n  check FILE\n"

/-- The line of an error, and a caret under its character. -/
def caret (source : String) (place : Position) : String :=
  let line := (Text.lines source.toList)[place.line]?.getD []
  "ERROR AT LINE " ++ toString (place.line + 1) ++ ":\n" ++ String.ofList line ++ "\n" ++
    String.ofList (List.replicate place.column ' ') ++ "^\n"

/-- The report of an error in a source text. -/
def report (w : Wording) (source : String) (e : SourceError) : String :=
  let place := match e with
    | .syntaxError (.lex e) => caret source e.position
    | _ => ""
  place ++ e.message w ++ " (" ++ e.code ++ ")\n\n"

/-! ## Running a command -/

/-- An evaluation nests too deep to end. -/
def tooDeep : Result := failure "Error: Evaluation nests too deep\n"

def evalText (w : Wording) (depth : Nat) (code : String) : Result :=
  match evaluateSource depth code with
  | .done value _ => success (value.display ++ "\n")
  | .failed e _ => failure (report w code e)
  | .exhausted => tooDeep

/-- What a command reads, or why it cannot be read. -/
abbrev Contents := Except FileProblem (List UInt8)

/-- Why a file cannot be loaded. A text that cannot be read has the words of its reader as a
second cause. -/
def causes (w : Wording) : GraphError → String
  | .unreadable text p =>
    "0: " ++ (GraphError.unreadable text p).message w ++ "\n    1: " ++ w.data text ++ "\n"
  | e => e.message w ++ "\n"

/-- The graph in a file, or the failure to read or load it. -/
def loadFile (w : Wording) (file : String) (contents : Contents) : Except Result Graph :=
  match contents with
  | .error p => .error (failureBecause ("reading " ++ file) (p.message ++ "\n"))
  | .ok bytes =>
    match Text.utf8? bytes with
    | none =>
      .error (failureBecause ("reading " ++ file) "stream did not contain valid UTF-8\n")
    | some text =>
      match Graph.empty.load text with
      | .ok g => .ok g
      | .error e => .error (failureBecause ("loading " ++ file) (causes w e))

/-- One line for each node: its title or place, and its output. -/
def outputLines (w : Wording) : Nat → List Node → String
  | _, [] => ""
  | index, node :: rest =>
    let label := node.title.getD ("node " ++ toString index)
    let text := match node.output with
      | some (.value v) => v.display
      | some (.fault f) => "error: " ++ f.message w
      | none => "(not evaluated)"
    label ++ ": " ++ text ++ "\n" ++ outputLines w (index + 1) rest

def runGraph (w : Wording) (depth : Nat) (json : Bool) (g : Graph) : Result :=
  match Graph.recomputeAll depth g with
  | .done _ g =>
    if json then
      let outputs := g.nodes.map fun node => Output.toJson w node.output
      success ((Json.array outputs).pretty ++ "\n")
    else success (outputLines w 0 g.nodes)
  | .failed e _ => failure ("Error: " ++ e.message w ++ "\n")
  | .exhausted => tooDeep

/-- A report for each node whose source cannot be read. -/
def checkNodes (w : Wording) : Nat → List Node → String
  | _, [] => ""
  | index, node :: rest =>
    match parseSource node.source with
    | .ok _ => checkNodes w (index + 1) rest
    | .error e =>
      "NODE " ++ node.title.getD (toString index) ++ ":\n" ++
        report w node.source (.syntaxError e) ++ checkNodes w (index + 1) rest

def checkGraph (w : Wording) (g : Graph) : Result :=
  let stderr := checkNodes w 0 g.nodes
  if stderr = "" then success "" else failure stderr

def evalBytes (w : Wording) (depth : Nat) (bytes : List UInt8) : Result :=
  match Text.utf8? bytes with
  | some code => evalText w depth code
  | none => failureBecause "reading stdin" "stream did not contain valid UTF-8\n"

/-- Runs a command on what it reads. -/
def Command.execute (w : Wording) (depth : Nat) (command : Command) (contents : Contents) :
    Result :=
  match command with
  | .eval (some code) => evalText w depth code
  | .eval none =>
    match contents with
    | .ok bytes => evalBytes w depth bytes
    | .error p => failureBecause "reading stdin" (p.message ++ "\n")
  | .run file json =>
    match loadFile w file contents with
    | .ok g => runGraph w depth json g
    | .error result => result
  | .check file =>
    match loadFile w file contents with
    | .ok g => checkGraph w g
    | .error result => result

end Patchbay.CommandLine
