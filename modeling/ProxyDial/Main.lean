import ProxyDial.Probe.Run

/-!
# The command

The probe as a command.  It has the files of the machine but no sockets and no name
server: the network that it probes has no routes, so it reports what the arguments and the
files lead to up to the first attempt to connect.
-/

namespace ProxyDial.Probe

/-- What is wrong with a text that does not hold options. -/
def faultIn (text : String) : String :=
  if text = "" then "EOF while parsing a value at line 1 column 0"
  else "not the options of a dialer"

/-- Read a file of the machine. -/
def readFile (path : String) : IO (Except IoError (List UInt8)) := do
  try
    let bytes ← IO.FS.readBinFile path
    return .ok bytes.data.toList
  catch
    | .noFileOrDirectory .. => return .error .noSuchFile
    | .inappropriateType _ 20 _ => return .error .notDirectory
    | _ => return .error .isDirectory

/-- The files that a command line names. -/
def readFiles (args : List String) : IO Files := do
  match Arguments.ofList args with
  | .ok { config := some path, .. } =>
    let content ← readFile path
    return fun _ => content
  | _ => return fun _ => .error .noSuchFile

end ProxyDial.Probe

open ProxyDial

/-- Run the probe. -/
def main (args : List String) : IO UInt32 := do
  let files ← Probe.readFiles args
  match Probe.run? Probe.faultIn .numeric { routed := false } files args with
  | none => return 1
  | some report =>
    if let .error _ := Probe.Arguments.ofList args then IO.eprintln Probe.usage
    IO.eprint (String.ofList report.log)
    return .ofNat report.exitCode
