import RelSchema.Command.Arguments

/-!
The commands of the program, and the arguments that ask for them.
-/
namespace RelSchema

inductive Command
  /-- Lists the profiles. -/
  | profiles
  /-- Shows the schema of the database of a profile, merged with models. -/
  | inspect (profile models : Option String) (asJson : Bool)
  /-- Writes the schema of a file in another format. -/
  | convert (input target : String) (dialect : Option String) (ifNotExists : Bool)
      (package tag output : Option String)
  /-- Compares the database of a profile with a schema file. -/
  | validate (input : String) (profile tag : Option String)

/-- A command with what holds for all commands. -/
structure Invocation where
  /-- The start of the names of settings in the environment. -/
  start : String := ""
  config : Option String := none
  command : Command

namespace Command

def help : Switch := ⟨"help", ["-h", "--help"], .help⟩

def outerSwitches : List Switch := [
  help,
  ⟨"start", ["--env-prefix"], .value none⟩,
  ⟨"config", ["--config"], .value none⟩,
  ⟨"verbose", ["--verbose", "-v"], .mark⟩]

def profileSwitch : Switch := ⟨"profile", ["--profile", "-p"], .value none⟩

def tagSwitch : Switch := ⟨"tag", ["--tag"], .value none⟩

def inspectSwitches : List Switch := [
  help,
  profileSwitch,
  ⟨"models", ["--models"], .value none⟩,
  ⟨"json", ["--json"], .mark⟩]

def convertSwitches : List Switch := [
  help,
  ⟨"to", ["--to"], .value (some ["ddl", "models", "json", "yaml"])⟩,
  ⟨"dialect", ["--dialect"], .value (some ["sqlite", "postgres", "mysql"])⟩,
  ⟨"guarded", ["--if-not-exists"], .mark⟩,
  ⟨"package", ["--package"], .value none⟩,
  tagSwitch,
  ⟨"output", ["--output", "-o"], .value none⟩]

def validateSwitches : List Switch := [help, profileSwitch, tagSwitch]

def read (name : String) (texts : List String) : Except Stop (Command × Told) :=
  match name with
  | "profiles" => do return (profiles, ← tell [help] 0 texts)
  | "inspect" => do
    let told ← tell inspectSwitches 0 texts
    return (inspect (told.values.get? "profile") (told.values.get? "models")
      (told.marks.contains "json"), told)
  | "convert" => do
    let told ← tell convertSwitches 1 texts
    let values := told.values
    match told.operands, values.get? "to" with
    | [input], some target =>
      return (convert input target (values.get? "dialect") (told.marks.contains "guarded")
        (values.get? "package") (values.get? "tag") (values.get? "output"), told)
    | _, _ => throw .usage
  | "validate" => do
    let told ← tell validateSwitches 1 texts
    match told.operands with
    | [input] =>
      return (validate input (told.values.get? "profile") (told.values.get? "tag"), told)
    | _ => throw .usage
  | _ => .error .usage

end Command

namespace Invocation

open Command in
def read (texts : List String) : Except Stop Invocation := do
  let arguments ← classifyAll outerSwitches texts
  let (told, rest) ← readOuter outerSwitches arguments.length {} arguments
  match rest with
  | [] => throw .usage
  | name :: texts =>
    let (command, inner) ← Command.read name texts
    if told.hasExtra || inner.hasExtra then throw .usage
    return {
      start := (told.values.get? "start").getD ""
      config := told.values.get? "config"
      command }

end Invocation

end RelSchema
