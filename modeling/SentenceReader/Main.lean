import SentenceReader.CommandLine.Run
import SentenceReader.Files.Tree

/-! The program: it looks up the files that a command line names, and writes what the run gives. -/
namespace SentenceReader.CommandLine

def entryAt? (path : String) : IO (Option FileEntry) := do
  try
    return some (.bytes (← IO.FS.readBinFile path).toList)
  catch
    | .inappropriateType none _ _ => return some .directory
    | .permissionDenied _ number _ => return some (.barred number.toNat "Permission denied")
    | _ => return none

def waypoints (path : Path) : List Path :=
  (List.range path.parts.length).map fun n => { path with parts := path.parts.take (n + 1) }

/-- The files that a request names, with what is on the way to them. -/
def filesOf (r : Request) : IO FileTree := do
  let settings := match r.config with
    | some (.text t) => [t]
    | _ => []
  let mut found := []
  for path in (settings ++ r.files).flatMap fun t => waypoints (Path.ofText t) do
    if let some entry ← entryAt? (String.ofList path.toText) then
      found := found ++ [(path.toText, entry)]
  return FileTree.ofList found

def inputOf (r : Request) : IO StandardInput := do
  if r.files.isEmpty then return .bytes { bytes := (← (← IO.getStdin).readBinToEnd).toList }
  else return .bytes {}

def callLine : Text := "usage: ".toList ++ Ending.programName ++ " [switch ...] [file ...]".toList

/-- Follows a request with the files and the input of the machine. -/
def runHere (r : Request) : IO UInt32 := do
  let (ending, transcript) := r.run (← filesOf r).host (← inputOf r)
  IO.print (String.ofList transcript.outputText)
  IO.eprint (String.ofList transcript.notesText)
  if let .stopped fault := ending then IO.eprintln (String.ofList fault.message)
  return UInt32.ofNat (ending.code?.getD 1)

end SentenceReader.CommandLine

open SentenceReader CommandLine in
def main (args : List String) : IO UInt32 := do
  match Request.ofWords (args.map String.toList) with
  | .ok request => runHere request
  | .error .help =>
    IO.println (String.ofList callLine)
    return 0
  | .error (.misused fault) =>
    IO.eprintln (String.ofList callLine)
    IO.eprintln (String.ofList (Ending.usageLine fault))
    return 2
