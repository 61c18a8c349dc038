import ProxyDial.Session.Race

/-!
# The socket

The operations on the session's socket.  On a socket that is not open each of them
fails, also for an empty buffer.

A read that finds nothing waits for the server: first for what it does without
waiting itself, and then for the end of each of its waits.  A server that waits for
the client keeps the reader waiting for good.  A write that finds no room waits in the
same way.

Connecting closes the socket before anything else.  So a connect that is given up
leaves a socket that is not open, although a server may have accepted.
-/

namespace ProxyDial.Op

/-- Put a connection into the session's socket, or none. -/
def setStream (stream : Option Connection) : Op Unit := modify fun s => { s with stream }

/-! ## Closing -/

/-- Close the socket.  Closing twice is closing once. -/
def close : Op Unit := do
  match (← get).stream with
  | none => return ()
  | some c =>
    record (.closing c.remote?)
    modify fun s => { s with net := s.net.close c, stream := none }

/-! ## The stream outside the socket -/

/-- Close a connection that is in no socket, without a word. -/
def discard (c : Connection) : Op Unit := modify fun s => { s with net := s.net.close c }

/-- Take the connection out of the socket, which is not open any more then. -/
def takeStream : Op (Option Connection) := do
  let stream := (← get).stream
  setStream none
  return stream

/-- Make a connection that was taken out before the socket's.  Its server has gone on
meanwhile.  A connection that the socket still has is closed. -/
def wrapStream (c : Connection) : Op Unit := do
  match ← takeStream with
  | none => pure ()
  | some other => discard other
  setStream (some (c.advance (← get).clock))

/-! ## Connecting -/

/-- Meet what is at an endpoint, once an attempt to connect the socket has got there.
While the attempt is under way still, a server that accepts has counted the connection
already. -/
def meet (endpoint : Endpoint) : Op (Except IoError Unit) where
  course s :=
    match s.net.contact s.clock endpoint with
    | .noRoute => .done (.error .unreachable) s
    | .silent => .stuck s
    | .failed e => .wait s s.clock (.done (.error e) (s.moveTo s.clock))
    | .accepted c net =>
      .wait { s with net := net.close c } s.clock
        (.done (.ok ()) (({ s with net, stream := some c } : Session).moveTo s.clock))

/-- Connect the socket, which is not open, to one endpoint. -/
def connectTo (endpoint : Endpoint) : Op (Except IoError Unit) := do
  ready (some ((← get).net.latency endpoint)) ()
  meet endpoint

/-- Connect the socket to the first of the endpoints that accepts.  If none does, the
last error counts. -/
def connectFirst (last : IoError) : List Endpoint → Op (Except IoError Endpoint)
  | [] => return .error last
  | endpoint :: rest => do
    match ← connectTo endpoint with
    | .ok () => return .ok endpoint
    | .error e =>
      record (.connectFailed endpoint e)
      connectFirst e rest

/-- Close the socket, then connect it to the first of the endpoints that accepts. -/
def connect (endpoints : List Endpoint) : Op (Except IoError Endpoint) := do
  close
  connectFirst .noEndpoints endpoints

/-! ## Reading and writing -/

/-- Do something with the socket's connection at once. -/
def withStream {α : Type} (f : Connection → Except IoError α × Connection) :
    Op (Except IoError α) := do
  match (← get).stream with
  | none => return .error .socketClosed
  | some c =>
    let (result, c') := f c
    setStream (some c')
    return result

/-- Wait for one of the instants at which the connection is ready. -/
def awaitAmong (isReady : Connection → Bool) : List Nat → Op Unit
  | [] => do
    match (← get).stream with
    | none => return ()
    | some c => if isReady c then return () else never
  | wake :: rest => do
    match (← get).stream with
    | none => return ()
    | some c =>
      if isReady c then return ()
      else
        sleepUntil wake
        awaitAmong isReady rest

/-- Wait until the socket's connection is ready. -/
def awaitReady (isReady : Connection → Bool) : Op Unit := do
  match (← get).stream with
  | none => return ()
  | some c =>
    if isReady c then return ()
    else
      sleep 0
      match (← get).stream with
      | none => return ()
      | some c => awaitAmong isReady c.wakeups

/-- Read what is there, at most so many bytes. -/
def read (count : Nat) : Op (Except IoError (List UInt8)) := do
  awaitReady Connection.isReadable
  withStream (Connection.readSome count)

/-- Read so many bytes. -/
def readExact (count : Nat) : Op (Except IoError (List UInt8)) := do
  awaitReady (Connection.holds count)
  withStream (Connection.readExact count)

/-- Read up to the end of the stream. -/
def readToEnd : Op (Except IoError (List UInt8)) := do
  awaitReady Connection.hasEnded
  withStream Connection.readAll

/-- Write bytes, as many as there is room for.  Gives how many. -/
def write (bytes : List UInt8) : Op (Except IoError Nat) := do
  awaitReady Connection.isWritable
  withStream (Connection.write bytes)

/-- Write all bytes but the first ones, which are written already. -/
def writeRest : Nat → List UInt8 → Op (Except IoError Unit)
  | _, [] => withStream fun c => (.ok (), c)
  | written + 1, _ :: bytes => writeRest written bytes
  | 0, b :: bytes => do
    match ← write (b :: bytes) with
    | .error e => return .error e
    | .ok 0 => return .error .wroteNothing
    | .ok (written + 1) => writeRest written bytes

/-- Write all bytes, a few at a time if there is no room for more.  With no bytes the
connection is not asked. -/
def writeAll (bytes : List UInt8) : Op (Except IoError Unit) := writeRest 0 bytes

/-- Wait until everything is written, which it is. -/
def flush : Op (Except IoError Unit) := withStream fun c => (.ok (), c)

/-- End the stream to the server. -/
def shutdown : Op (Except IoError Unit) := withStream fun c => (.ok (), c.finish)

/-! ## Endpoints -/

/-- The address of the server. -/
def remoteEndpoint : Op (Except IoError Endpoint) := withStream fun c =>
  match c.remote? with
  | some peer => (.ok peer, c)
  | none => (.error .notConnected, c)

/-- Whether the client's own address is one of IPv4. -/
def localIsIPv4 : Op (Except IoError Bool) := withStream fun c =>
  (.ok (Family.v4Only.admits c.peer.ip), c)

end ProxyDial.Op
