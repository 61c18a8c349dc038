import ProxyDial.Address.Endpoint

/-!
# Arguments of the probe

The probe takes seven flags with a value each, and a flag that asks for help.  A
value stands in the next argument or is attached to its flag, after an equals sign or
right behind a short flag.  A next argument that looks like a flag is no value.

Arguments are taken one after the other.  The first that is wrong or asks for help
decides.
-/

namespace ProxyDial.Probe

/-- A flag that takes a value. -/
inductive Flag where
  | socksHost
  | socksPort
  | targetHost
  | targetPort
  | timeout
  | userId
  | config
deriving DecidableEq, Repr

namespace Flag

/-- The flags. -/
def all : List Flag := [socksHost, socksPort, targetHost, targetPort, timeout, userId, config]

/-- The letter after one hyphen. -/
def short : Flag → Char
  | socksHost => 's'
  | socksPort => 'p'
  | targetHost => 'S'
  | targetPort => 'P'
  | timeout => 't'
  | userId => 'u'
  | config => 'c'

/-- The name after two hyphens. -/
def long : Flag → String
  | socksHost => "socks-host"
  | socksPort => "socks-port"
  | targetHost => "target-host"
  | targetPort => "target-port"
  | timeout => "timeout"
  | userId => "user-id"
  | config => "config"

/-- The flag with this letter. -/
def ofShort? (c : Char) : Option Flag := all.find? fun f => f.short = c

/-- The flag with this name. -/
def ofLong? (name : List Char) : Option Flag := all.find? fun f => f.long.toList = name

end Flag

/-- The values of the flags that were given. -/
structure Arguments where
  /-- The host of the proxy. -/
  socksHost : Option String := none
  /-- The port of the proxy. -/
  socksPort : Option UInt16 := none
  /-- The host of the target. -/
  targetHost : Option String := none
  /-- The port of the target. -/
  targetPort : Option UInt16 := none
  /-- The timeout of each step, in seconds. -/
  timeout : Option UInt64 := none
  /-- The user id. -/
  userId : Option String := none
  /-- The path of a file with options. -/
  config : Option String := none
deriving DecidableEq, Repr

/-- Why the arguments do not start the probe. -/
inductive Refusal where
  /-- They ask for help. -/
  | help
  /-- They are wrong. -/
  | usage
deriving DecidableEq, Repr

/-- How to call the probe. -/
def usage : String :=
  "Usage: socks4-probe [-s HOST] [-p PORT] [-S HOST] [-P PORT] [-t SECS] [-u ID] [-c FILE]"

/-- The exit code of a probe that is not started. -/
def Refusal.exitCode : Refusal → Nat
  | help => 0
  | usage => 2

/-- The value of a number with an optional plus sign and any leading zeros. -/
def natural? : List Char → Option Nat
  | '+' :: cs => Decimal.digits? cs
  | cs => Decimal.digits? cs

/-- A port.  It may have a sign, but only zero may be negative. -/
def port? (cs : List Char) : Option UInt16 :=
  match cs with
  | '-' :: cs => if Decimal.digits? cs = some 0 then some 0 else none
  | cs => do
    let n ← natural? cs
    if n < UInt16.size then some (.ofNat n) else none

/-- A number of seconds. -/
def seconds? (cs : List Char) : Option UInt64 := do
  let n ← natural? cs
  if n < UInt64.size then some (.ofNat n) else none

namespace Arguments

/-- The given value, if a flag has none yet. -/
def once {α : Type} (old : Option α) (new : Option α) : Option (Option α) :=
  match old with
  | none => new.map some
  | some _ => none

/-- The arguments with one more flag.  A flag may be given once, and its value must be
right. -/
def set? (a : Arguments) (value : String) : Flag → Option Arguments
  | .socksHost => (once a.socksHost (some value)).map fun socksHost => { a with socksHost }
  | .socksPort =>
    (once a.socksPort (port? value.toList)).map fun socksPort => { a with socksPort }
  | .targetHost => (once a.targetHost (some value)).map fun targetHost => { a with targetHost }
  | .targetPort =>
    (once a.targetPort (port? value.toList)).map fun targetPort => { a with targetPort }
  | .timeout => (once a.timeout (seconds? value.toList)).map fun timeout => { a with timeout }
  | .userId => (once a.userId (some value)).map fun userId => { a with userId }
  | .config =>
    (once a.config (if value = "" then none else some value)).map fun config =>
      { a with config }

end Arguments

/-- What a single argument is. -/
inductive Argument where
  /-- A flag whose value is in the next argument. -/
  | flag (f : Flag)
  /-- A flag with its value. -/
  | valued (f : Flag) (value : String)
  /-- The flag that asks for help. -/
  | help
  /-- Two hyphens alone, after which there are no more flags. -/
  | endOfFlags
  /-- Anything else. -/
  | wrong
deriving DecidableEq, Repr

namespace Argument

/-- The argument after two hyphens. -/
def ofLong (cs : List Char) : Argument :=
  match Endpoint.cutAt? '=' cs with
  | some (name, value) =>
    match Flag.ofLong? name with
    | some f => valued f (.ofList value)
    | none => wrong
  | none =>
    if cs = "help".toList then help
    else
      match Flag.ofLong? cs with
      | some f => flag f
      | none => wrong

/-- The argument after one hyphen and a letter. -/
def ofShort (c : Char) (cs : List Char) : Argument :=
  if c = 'h' then help
  else
    match Flag.ofShort? c with
    | none => wrong
    | some f =>
      match cs with
      | [] => flag f
      | '=' :: value => valued f (.ofList value)
      | value => valued f (.ofList value)

/-- What an argument is. -/
def ofChars : List Char → Argument
  | ['-', '-'] => endOfFlags
  | '-' :: '-' :: cs => ofLong cs
  | '-' :: c :: cs => ofShort c cs
  | _ => wrong

/-- Whether an argument cannot be the value of the flag before it. -/
def looksLikeFlag (s : String) : Bool :=
  match s.toList with
  | '-' :: _ :: _ => true
  | _ => false

end Argument

/-- Take arguments one after the other, in addition to those taken so far. -/
def Arguments.takeAll (a : Arguments) : List String → Except Refusal Arguments
  | [] => .ok a
  | arg :: rest =>
    match Argument.ofChars arg.toList with
    | .wrong => .error .usage
    | .help => .error .help
    | .endOfFlags => if rest = [] then .ok a else .error .usage
    | .valued f value =>
      match a.set? value f with
      | none => .error .usage
      | some a => a.takeAll rest
    | .flag f =>
      match rest with
      | [] => .error .usage
      | value :: rest =>
        if Argument.looksLikeFlag value then .error .usage
        else
          match a.set? value f with
          | none => .error .usage
          | some a => a.takeAll rest

/-- Whether an argument holds a NUL.  The operating system hands no such argument to a
program. -/
def holdsNul (arg : String) : Bool := '\x00' ∈ arg.toList

/-- The arguments of a command line. -/
def Arguments.ofList (args : List String) : Except Refusal Arguments := Arguments.takeAll {} args

namespace Arguments

/-- The proxy to connect to. -/
def socks (a : Arguments) : String × UInt16 :=
  (a.socksHost.getD "127.0.0.1", a.socksPort.getD 1080)

/-- The target to ask for. -/
def target (a : Arguments) : String × UInt16 :=
  (a.targetHost.getD "example.com", a.targetPort.getD 80)

end Arguments

example : port? "+05".toList = some 5 := by decide
example : port? "-0".toList = some 0 := by decide
example : port? "65536".toList = none := by decide
example : seconds? "-0".toList = none := by decide

end ProxyDial.Probe
