import ProxyDial.Session.Event
import ProxyDial.Text.Lines
import ProxyDial.Text.Plain

/-!
# The log of the probe

The log holds a record for every event that is at least information.  A record begins
with the level and the part of the program that the event comes from.  The message
follows, and its lines after the first are indented.  A record is written as plain
text, so what a message holds for a terminal is left out, and with a sequence that
is not ended also the end of the record.
-/

namespace ProxyDial.Probe.Log

/-- The part of the program that an event comes from. -/
def source : Event → String
  | .said .. => "socks4_probe"
  | .connectStep .. => "socks4_connect::connect"
  | .resolved .. => "socks4_connect::connect"
  | .connected .. => "socks4_connect::connect"
  | .connectFailed .. => "socks4_connect::socket"
  | .closing .. => "socks4_connect::socket"
  | .handshakeStep .. => "socks4_connect::socks4::handshake"
  | .skipped .. => "socks4_connect::socks4::handshake"
  | .granted .. => "socks4_connect::socks4::handshake"
  | .timerArmed .. => "socks4_connect::timer"
  | .timerCancelled => "socks4_connect::timer"
  | .deadlineReached .. => "socks4_connect::timer"

/-- The name of a level, filled up to five characters. -/
def paddedName (level : Level) : String :=
  let name := level.name.toList
  .ofList (name ++ List.replicate (5 - name.length) ' ')

/-- The message with every line after the first indented. -/
def indent : List Char → List Char
  | [] => []
  | c :: cs => if c = '\n' then '\n' :: List.replicate 4 ' ' ++ indent cs else c :: indent cs

/-- The record of an event, as it is written. -/
def record (e : Event) : List Char :=
  Plain.plain
    (s!"[{paddedName e.level} {source e}] ".toList ++ indent e.message.toList ++ ['\n'])

/-- The log of events, as far as they are at least information. -/
def text (log : List Event) : List Char :=
  (log.filter fun e => e.level.rank ≤ Level.info.rank).flatMap record

end ProxyDial.Probe.Log
