/-!
# Failures of the host

What a host call or an HTTP transport may report instead of an answer.
-/

namespace Rehearsal

/-- An error of the operating system: its number and, where known, its text. -/
structure OsError where
  code : Nat
  text : Option String := none
deriving DecidableEq, Repr

namespace OsError

def noEntry : OsError := ⟨2, some "No such file or directory"⟩

def notDirectory : OsError := ⟨20, some "Not a directory"⟩

def isDirectory : OsError := ⟨21, some "Is a directory"⟩

def noSpace : OsError := ⟨28, some "No space left on device"⟩

def nameTooLong : OsError := ⟨36, some "File name too long"⟩

def isMissing (e : OsError) : Bool := e.code == 2

/-- No space left, or the quota is used up. -/
def isFull (e : OsError) : Bool := e.code == 28 || e.code == 122

/-- Missing, below a file, a bad descriptor or a loop: the path does not lead anywhere. -/
def isAbsent (e : OsError) : Bool :=
  e.code == 2 || e.code == 20 || e.code == 9 || e.code == 40

/-- The class of an error number. -/
def name (e : OsError) : String :=
  match e.code with
  | 1 | 13 => "PermissionError"
  | 2 => "FileNotFoundError"
  | 3 => "ProcessLookupError"
  | 4 => "InterruptedError"
  | 10 => "ChildProcessError"
  | 11 | 114 | 115 => "BlockingIOError"
  | 17 => "FileExistsError"
  | 20 => "NotADirectoryError"
  | 21 => "IsADirectoryError"
  | 32 | 108 => "BrokenPipeError"
  | 103 => "ConnectionAbortedError"
  | 104 => "ConnectionResetError"
  | 110 => "TimeoutError"
  | 111 => "ConnectionRefusedError"
  | _ => "OSError"

end OsError

/-- How a request can fail without an answer. -/
inductive TransportKind where
  | transportError
  | timeoutException
  | connectTimeout
  | readTimeout
  | writeTimeout
  | poolTimeout
  | networkError
  | connectError
  | readError
  | writeError
  | closeError
  | protocolError
  | localProtocolError
  | remoteProtocolError
  | proxyError
  | unsupportedProtocol
  | requestError
  | decodingError
  | tooManyRedirects
deriving DecidableEq, Repr

namespace TransportKind

def name : TransportKind → String
  | transportError => "TransportError"
  | timeoutException => "TimeoutException"
  | connectTimeout => "ConnectTimeout"
  | readTimeout => "ReadTimeout"
  | writeTimeout => "WriteTimeout"
  | poolTimeout => "PoolTimeout"
  | networkError => "NetworkError"
  | connectError => "ConnectError"
  | readError => "ReadError"
  | writeError => "WriteError"
  | closeError => "CloseError"
  | protocolError => "ProtocolError"
  | localProtocolError => "LocalProtocolError"
  | remoteProtocolError => "RemoteProtocolError"
  | proxyError => "ProxyError"
  | unsupportedProtocol => "UnsupportedProtocol"
  | requestError => "RequestError"
  | decodingError => "DecodingError"
  | tooManyRedirects => "TooManyRedirects"

def all : List TransportKind :=
  [transportError, timeoutException, connectTimeout, readTimeout, writeTimeout, poolTimeout,
   networkError, connectError, readError, writeError, closeError, protocolError,
   localProtocolError, remoteProtocolError, proxyError, unsupportedProtocol, requestError,
   decodingError, tooManyRedirects]

/-- Whether the failure lies in the transport itself, and not in what it delivered. -/
def isTransport : TransportKind → Bool
  | requestError | decodingError | tooManyRedirects => false
  | _ => true

end TransportKind

structure TransportFailure where
  kind : TransportKind
  message : String := ""
deriving DecidableEq, Repr

/-- The message, or the name of the kind where there is none. -/
def TransportFailure.reason (f : TransportFailure) : String :=
  if f.message.isEmpty then f.kind.name else f.message

end Rehearsal
