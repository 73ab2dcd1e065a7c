import Contracts.Command.Run

/-!
# The command line

Reads the words, the variables and the files of a run, and writes what the run leaves behind.
-/

namespace Contracts

/-- The fault behind an error of the system. -/
def faultOf (path : String) (e : IO.Error) : ReadFault :=
  if path.toList.contains '\x00' then .zeroInPath
  else match e with
    | .noFileOrDirectory .. => .notFound
    | .inappropriateType _ code _ => if code = 20 then .notFolder else .isFolder
    | e => .refused (toString e)

/-- Read a file. -/
def readFile (path : String) : IO (Except ReadFault String) := do
  try
    let bytes ← IO.FS.readBinFile path
    match String.fromUTF8? bytes with
    | some text => return .ok text
    | none => return .error .notText
  catch e => return .error (faultOf path e)

/-- Split a text of variables, each of which ends with a zero character. -/
def splitVariables (text : String) : List (String × String) :=
  (text.splitOn "\x00").filterMap fun line =>
    let cs := line.toList
    let name := cs.takeWhile (· != '=')
    if name.length < cs.length then
      some (String.ofList name, String.ofList (cs.drop (name.length + 1)))
    else none

/-- The variables of the surroundings. -/
def readVariables : IO (List (String × String)) := do
  match ← readFile "/proc/self/environ" with
  | .ok text => return splitVariables text
  | .error _ => return []

/-- The files that a request reads. -/
def Request.paths (r : Request) : List String :=
  r.settingsPath ::
    match r.command with
    | .check manifest => [manifest]
    | .replay manifest .. => [manifest]
    | .config => []

/-- Write what a run leaves behind. -/
def RunResult.report (r : RunResult) : IO Unit := do
  for line in r.log do IO.eprintln line
  match r.ending with
  | .refused .misuse | .refused .nothing => IO.eprint RunResult.help
  | _ => pure ()
  IO.print r.output
  for line in r.errorLine? do IO.eprintln line

end Contracts

open Contracts in
/-- Run the program. -/
def main (words : List String) : IO UInt32 := do
  let environment ← readVariables
  let fallback := (environment.find? (·.1 == settingsVariable)).map (·.2)
  let paths :=
    match Request.ofWords words fallback with
    | .ok request => request.paths
    | .error _ => []
  let files ← paths.mapM fun path => return (path, ← readFile path)
  let read : FileReader := fun path =>
    match files.find? (·.1 == path) with
    | some (_, contents) => contents
    | none => .error .notFound
  let result := run read environment words
  result.report
  return result.code.toUInt32
