/-!
# Errors of the operating system

An I/O error is a kind, by which a caller decides, and a message for people.
-/

namespace ProxyDial

/-- What kind of failure an I/O error is. -/
inductive IoKind where
  | notFound
  | permissionDenied
  | connectionRefused
  | connectionReset
  | hostUnreachable
  | networkUnreachable
  | connectionAborted
  | notConnected
  | addrInUse
  | addrNotAvailable
  | networkDown
  | brokenPipe
  | alreadyExists
  | wouldBlock
  | notADirectory
  | isADirectory
  | directoryNotEmpty
  | readOnlyFilesystem
  | filesystemLoop
  | staleNetworkFileHandle
  | invalidInput
  | invalidData
  | timedOut
  | writeZero
  | storageFull
  | notSeekable
  | quotaExceeded
  | fileTooLarge
  | resourceBusy
  | executableFileBusy
  | deadlock
  | crossesDevices
  | tooManyLinks
  | invalidFilename
  | argumentListTooLong
  | interrupted
  | unsupported
  | unexpectedEof
  | outOfMemory
  | inProgress
  | other
  | uncategorized
deriving DecidableEq, Repr, Inhabited

/-- An I/O error. -/
structure IoError where
  /-- Its kind. -/
  kind : IoKind
  /-- The message. -/
  message : String
deriving DecidableEq, Repr, Inhabited

namespace IoError

/-- A call of the operating system that failed with an error number. -/
def ofOs (kind : IoKind) (what : String) (code : Nat) : IoError :=
  ⟨kind, s!"{what} (os error {code})"⟩

/-- Nobody listens at the address. -/
def refused : IoError := ofOs .connectionRefused "Connection refused" 111

/-- The other side broke the connection off. -/
def reset : IoError := ofOs .connectionReset "Connection reset by peer" 104

/-- Writing to a connection that takes no more. -/
def brokenPipe : IoError := ofOs .brokenPipe "Broken pipe" 32

/-- The connection is gone, though the socket is not closed yet. -/
def notConnected : IoError := ofOs .notConnected "Transport endpoint is not connected" 107

/-- The host has no route to the address. -/
def unreachable : IoError := ofOs .networkUnreachable "Network is unreachable" 101

/-- No file has that name. -/
def noSuchFile : IoError := ofOs .notFound "No such file or directory" 2

/-- The name is that of a directory. -/
def isDirectory : IoError := ofOs .isADirectory "Is a directory" 21

/-- The name goes on after the name of a file. -/
def notDirectory : IoError := ofOs .notADirectory "Not a directory" 20

/-- The name is longer than the operating system allows. -/
def nameTooLong : IoError := ofOs .invalidFilename "File name too long" 36

/-- The stream ended before all bytes that were asked for had come. -/
def earlyEnd : IoError := ⟨.unexpectedEof, "early eof"⟩

/-- A write that took no byte. -/
def wroteNothing : IoError := ⟨.writeZero, "write zero"⟩

/-- A file that should be text is not UTF-8. -/
def notUtf8 : IoError := ⟨.invalidData, "stream did not contain valid UTF-8"⟩

/-- A name that is handed to the operating system contains a NUL. -/
def nulInName : IoError :=
  ⟨.invalidInput, "file name contained an unexpected NUL byte"⟩

/-- No name server knows the name. -/
def unknownName : IoError :=
  ⟨.uncategorized, "failed to lookup address information: Name or service not known"⟩

/-- The host table has no entry of that name. -/
def noMapping : IoError := ⟨.notFound, "no mapping for host"⟩

/-- A socket that is not open was used. -/
def socketClosed : IoError := ⟨.notConnected, "socket is closed"⟩

/-- A handshake was started on a socket that is not open. -/
def noProxy : IoError := ⟨.notConnected, "socket is not connected to a proxy"⟩

/-- There was no endpoint to connect to. -/
def noEndpoints : IoError := ⟨.invalidInput, "no endpoints to connect to"⟩

end IoError

end ProxyDial
