import ProxyDial.Options.Json
import ProxyDial.Probe.Arguments
import ProxyDial.Probe.Files

/-!
# Options of the probe

The options come from the file that is named, or else are the default ones with
shorter timeouts.  The flags for the timeout and the user id override them.  Only the
options that result have to be valid, so a flag can mend a user id from a file.

How the reader of JSON words what is wrong with a text is left open.
-/

namespace ProxyDial.Probe

/-- Why there are no options. -/
inductive LoadError where
  /-- The file cannot be read. -/
  | unreadable (path : String) (cause : IoError)
  /-- The file does not hold options, and this is what is wrong with its text. -/
  | malformed (path : String) (fault : String)
  /-- The options are not valid. -/
  | invalid (e : DialError)
deriving DecidableEq, Repr

/-- The error in messages. -/
def LoadError.message : LoadError → String
  | unreadable path cause => s!"Failed to read {path}: {cause.message}"
  | malformed path fault => s!"Invalid config {path}: {fault}"
  | invalid e => e.message

/-- The options of a probe that is not given a file. -/
def defaultOptions : Options := { connectTimeoutSecs := 5, handshakeTimeoutSecs := 5 }

/-- The options before the flags override them.  `faultIn` says what is wrong with a text that
does not hold options. -/
def baseOptions (faultIn : String → String) (a : Arguments) (files : Files) :
    Except LoadError Options :=
  match a.config with
  | none => .ok defaultOptions
  | some path =>
    match files.readText path with
    | .error e => .error (.unreadable path e)
    | .ok text =>
      match Options.ofJson? text with
      | none => .error (.malformed path (faultIn text))
      | some options => .ok options

/-- Options that the flags override. -/
def override (a : Arguments) (o : Options) : Options :=
  { o with
    connectTimeoutSecs := a.timeout.getD o.connectTimeoutSecs
    handshakeTimeoutSecs := a.timeout.getD o.handshakeTimeoutSecs
    userId := a.userId.getD o.userId }

/-- The options of a probe. -/
def loadOptions (faultIn : String → String) (a : Arguments) (files : Files) :
    Except LoadError Options :=
  match baseOptions faultIn a files with
  | .error e => .error e
  | .ok base =>
    let options := override a base
    match options.validate with
    | .ok () => .ok options
    | .error e => .error (.invalid e)

end ProxyDial.Probe
