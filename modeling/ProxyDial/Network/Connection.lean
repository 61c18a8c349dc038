import ProxyDial.Address.Endpoint
import ProxyDial.IoError

/-!
# Connections

A connection joins a client to a server that follows a script.  What either side
sends lies with the other at once and waits there until it is read.  The server
goes through its script by itself, as far as the clock and the bytes that have come
allow (`advance`).  After its script it keeps the connection open.

The network may hold only so many bytes that the script has not read.  Then it takes
no more from the client until the script reads on.

The script keeps local time: an action begins at the instant at which the one
before it ended, not when somebody looks.  So it makes no difference to a server
how often `advance` is called between two things that the client does.

The client sees the bytes that were sent, and then either nothing yet, the end of
the stream, or once that the connection was reset.
-/

namespace ProxyDial

/-- One action of a server's script. -/
inductive Action where
  /-- Read so many bytes, or up to the end of the stream. -/
  | read (count : Nat)
  /-- Read up to the first NUL and that too, or up to the end of the stream. -/
  | readThroughNul
  /-- Write bytes. -/
  | write (bytes : List UInt8)
  /-- Read so many bytes, or up to the end of the stream, then write back what was
  read.  `got` was read so far. -/
  | echo (count : Nat) (got : List UInt8)
  /-- Do nothing for so many milliseconds. -/
  | wait (millis : Nat)
  /-- End the stream to the client. -/
  | close
  /-- Break the connection off. -/
  | reset
deriving DecidableEq, Repr

/-- The actions that read one request: its header, then the user id with its
NUL. -/
def Action.request : List Action := [.read 8, .readThroughNul]

/-- What the client finds after the bytes that were sent to it. -/
inductive Ending where
  /-- Nothing, for now. -/
  | waiting
  /-- The end of the stream. -/
  | ended
  /-- A reset that was not reported yet. -/
  | broken
  /-- The end of the stream, on a connection that takes no bytes any more. -/
  | gone
deriving DecidableEq, Repr, Inhabited

/-- A connection between a client and a server. -/
structure Connection where
  /-- The address of the server. -/
  peer : Endpoint
  /-- The number of connections that the server accepted before this one. -/
  ordinal : Nat
  /-- What the server has still to do.  The first action may be partly done. -/
  script : List Action
  /-- The instant up to which the script has been followed. -/
  since : Nat
  /-- The bytes that the client sent and the script has not read. -/
  toServer : List UInt8 := []
  /-- Whether the client sends no more. -/
  clientEnded : Bool := false
  /-- The bytes that the script has read. -/
  received : List UInt8 := []
  /-- The bytes that the server sent and the client has not read. -/
  toClient : List UInt8 := []
  /-- What comes after those. -/
  ending : Ending := .waiting
  /-- How many bytes the network holds at most that the client sent and the script has
  not read.  There is no such limit if it is none. -/
  capacity : Option Nat := none
deriving DecidableEq, Repr

namespace Connection

/-! ## The server's side -/

/-- The bytes up to the first NUL and that too, what follows them, and whether there
is a NUL. -/
def throughNul : List UInt8 → List UInt8 × List UInt8 × Bool
  | [] => ([], [], false)
  | b :: bs =>
    if b = 0 then ([b], bs, true)
    else
      let (taken, rest, found) := throughNul bs
      (b :: taken, rest, found)

/-- Move the first bytes that the client sent to those that the script has read. -/
def receive (c : Connection) (taken rest : List UInt8) : Connection :=
  { c with toServer := rest, received := c.received ++ taken }

/-- Send bytes to the client, unless the stream to it has ended. -/
def send (c : Connection) (bytes : List UInt8) : Connection :=
  if c.ending = .waiting then { c with toClient := c.toClient ++ bytes } else c

/-- Do an action as far as possible until the instant `now`.  Gives what is left of
it, if it is not finished. -/
def perform (now : Nat) (c : Connection) : Action → Connection × Option Action
  | .read count =>
    let taken := c.toServer.take count
    let c' := c.receive taken (c.toServer.drop count)
    if taken.length = count ∨ c.clientEnded then (c', none)
    else ({ c' with since := now }, some (.read (count - taken.length)))
  | .readThroughNul =>
    let (taken, rest, found) := throughNul c.toServer
    let c' := c.receive taken rest
    if found ∨ c.clientEnded then (c', none)
    else ({ c' with since := now }, some .readThroughNul)
  | .write bytes => (c.send bytes, none)
  | .echo count got =>
    let taken := c.toServer.take count
    let c' := c.receive taken (c.toServer.drop count)
    if taken.length = count ∨ c.clientEnded then (c'.send (got ++ taken), none)
    else ({ c' with since := now }, some (.echo (count - taken.length) (got ++ taken)))
  | .wait millis =>
    if c.since + millis ≤ now then ({ c with since := c.since + millis }, none)
    else (c, some (.wait millis))
  | .close => (if c.ending = .waiting then { c with ending := .ended } else c, none)
  | .reset =>
    ({ c with ending := if c.ending = .waiting then .broken else .gone }, none)

/-- Follow actions until the instant `now`.  Nothing follows a reset. -/
def follow (now : Nat) (c : Connection) : List Action → Connection
  | [] => { c with script := [] }
  | a :: rest =>
    match c.perform now a with
    | (c', some a') => { c' with script := a' :: rest }
    | (c', none) => if a = .reset then { c' with script := [] } else follow now c' rest

/-- Follow the script until the instant `now`. -/
def advance (now : Nat) (c : Connection) : Connection := c.follow now c.script

/-- The instants at which waits of a script end, if it is begun at `since` and
nothing else holds it up. -/
def waitEnds (since : Nat) : List Action → List Nat
  | [] => []
  | .wait millis :: rest => (since + millis) :: waitEnds (since + millis) rest
  | _ :: rest => waitEnds since rest

/-- The instants at which the server may go on by itself. -/
def wakeups (c : Connection) : List Nat := waitEnds c.since c.script

/-! ## The client's side -/

/-- Whether the stream to the client has ended in some way. -/
def hasEnded (c : Connection) : Bool := c.ending ≠ .waiting

/-- Whether a client that reads gets an answer. -/
def isReadable (c : Connection) : Bool := c.toClient ≠ [] || c.hasEnded

/-- Whether a client that reads so many bytes gets an answer. -/
def holds (count : Nat) (c : Connection) : Bool := count ≤ c.toClient.length || c.hasEnded

/-- What a client finds at the end of the stream.  A reset is reported once. -/
def findEnd (c : Connection) : Except IoError Unit × Connection :=
  if c.ending = .broken then (.error .reset, { c with ending := .gone }) else (.ok (), c)

/-- Read what is there, at most so many bytes.  Nothing is the end of the
stream. -/
def readSome (count : Nat) (c : Connection) : Except IoError (List UInt8) × Connection :=
  if c.toClient = [] then
    let (found, c') := c.findEnd
    (found.map fun _ => [], c')
  else (.ok (c.toClient.take count), { c with toClient := c.toClient.drop count })

/-- Read so many bytes.  If they are not all there the stream has ended, and those
that are there are lost. -/
def readExact (count : Nat) (c : Connection) : Except IoError (List UInt8) × Connection :=
  if count ≤ c.toClient.length then
    (.ok (c.toClient.take count), { c with toClient := c.toClient.drop count })
  else
    match { c with toClient := [] }.findEnd with
    | (.error e, c') => (.error e, c')
    | (.ok _, c') => (.error .earlyEnd, c')

/-- Read all that is there at the end of the stream. -/
def readAll (c : Connection) : Except IoError (List UInt8) × Connection :=
  match { c with toClient := [] }.findEnd with
  | (.error e, c') => (.error e, c')
  | (.ok _, c') => (.ok c.toClient, c')

/-- Those of the bytes that the network has room for. -/
def fitting (bytes : List UInt8) (c : Connection) : List UInt8 :=
  match c.capacity with
  | none => bytes
  | some most => bytes.take (most - c.toServer.length)

/-- Whether the network has room for a byte. -/
def hasRoom (c : Connection) : Bool := c.capacity.all (c.toServer.length < ·)

/-- Whether a client that writes gets an answer. -/
def isWritable (c : Connection) : Bool :=
  c.hasRoom || c.clientEnded || c.ending = .broken || c.ending = .gone

/-- Write as many of the bytes as the network has room for, unless the connection takes
no more.  Gives how many. -/
def write (bytes : List UInt8) (c : Connection) : Except IoError Nat × Connection :=
  match c.ending with
  | .broken => (.error .reset, { c with ending := .gone })
  | .gone => (.error .brokenPipe, c)
  | .waiting | .ended =>
    if c.clientEnded then (.error .brokenPipe, c)
    else (.ok (c.fitting bytes).length, { c with toServer := c.toServer ++ c.fitting bytes })

/-- End the stream to the server. -/
def finish (c : Connection) : Connection := { c with clientEnded := true }

/-- The address of the server, as long as the connection lasts. -/
def remote? (c : Connection) : Option Endpoint :=
  match c.ending with
  | .waiting | .ended => some c.peer
  | .broken | .gone => none

/-! ## Examples -/

/-- A connection that was just accepted at instant zero. -/
def fresh (script : List Action) : Connection :=
  { peer := .v4 ⟨127, 0, 0, 1⟩ 1080, ordinal := 0, script, since := 0 }

/-- A server that waits and then writes has written after the wait and not
before. -/
example : ((fresh [.wait 5, .write [7]]).advance 4).toClient = [] := by decide
example : ((fresh [.wait 5, .write [7]]).advance 5).toClient = [7] := by decide

/-- An action begins when the one before it has ended. -/
example : ((fresh [.wait 5, .wait 5, .write [7]]).advance 10).toClient = [7] := by decide

/-- A request is read up to its NUL. -/
example :
    (({ fresh (Action.request ++ [Action.write [0, 90]]) with
        toServer := [4, 1, 0, 80, 1, 2, 3, 4, 120, 0, 9] }).advance 0).received
      = [4, 1, 0, 80, 1, 2, 3, 4, 120, 0] := by decide

end Connection

end ProxyDial
