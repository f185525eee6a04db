/-!
# Faults

A fault is what a part of the system reports when it does not answer: its kind and a text. The kinds
form a hierarchy, so that a fault can be met by its own kind or by a wider one. Two kinds stand
outside, and nothing that meets faults meets them: an abort stops the program, and a call is overdue
when whoever waits for it stops waiting while it is still under way.
-/

namespace IncidentTriage

namespace Fault

inductive Kind
  | exception
  | value
  | filterExpression
  | malformedTrace
  | jsonDecode
  | unicodeDecode
  | unicodeEncode
  | type
  | missingAttribute
  | lookup
  | key
  | index
  | zeroDivision
  | overflow
  | runtime
  | recursion
  | backendUnavailable
  | circuitOpen
  | os
  | connection
  | timeout
  | http
  | transport
  | connect
  | connectTimeout
  | readTimeout
  | write
  | poolTimeout
  | remoteProtocol
  | unsupportedProtocol
  | proxy
  | decoding
  | tooManyRedirects
  | httpStatus
  | transientStatus
  | invalidUrl
  | overdue
  | abort
  deriving DecidableEq, Repr

namespace Kind

/-- The wider kinds that a kind belongs to, nearest first. -/
def wider : Kind → List Kind
  | .exception | .overdue | .abort => []
  | .filterExpression | .malformedTrace | .jsonDecode | .unicodeDecode | .unicodeEncode =>
    [.value, .exception]
  | .key | .index => [.lookup, .exception]
  | .recursion | .backendUnavailable | .circuitOpen => [.runtime, .exception]
  | .connection | .timeout => [.os, .exception]
  | .transport | .decoding | .tooManyRedirects | .httpStatus => [.http, .exception]
  | .connect | .connectTimeout | .readTimeout | .write | .poolTimeout | .remoteProtocol
  | .unsupportedProtocol | .proxy => [.transport, .http, .exception]
  | _ => [.exception]

def isA (k other : Kind) : Bool :=
  k == other || k.wider.contains other

def name : Kind → String
  | .exception => "Exception"
  | .value => "ValueError"
  | .filterExpression => "FilterExpressionError"
  | .malformedTrace => "MalformedTraceError"
  | .jsonDecode => "JSONDecodeError"
  | .unicodeDecode => "UnicodeDecodeError"
  | .unicodeEncode => "UnicodeEncodeError"
  | .type => "TypeError"
  | .missingAttribute => "AttributeError"
  | .lookup => "LookupError"
  | .key => "KeyError"
  | .index => "IndexError"
  | .zeroDivision => "ZeroDivisionError"
  | .overflow => "OverflowError"
  | .runtime => "RuntimeError"
  | .recursion => "RecursionError"
  | .backendUnavailable => "TraceBackendUnavailable"
  | .circuitOpen => "CircuitOpenError"
  | .os => "OSError"
  | .connection => "ConnectionError"
  | .timeout => "TimeoutError"
  | .http => "HTTPError"
  | .transport => "TransportError"
  | .connect => "ConnectError"
  | .connectTimeout => "ConnectTimeout"
  | .readTimeout => "ReadTimeout"
  | .write => "WriteError"
  | .poolTimeout => "PoolTimeout"
  | .remoteProtocol => "RemoteProtocolError"
  | .unsupportedProtocol => "UnsupportedProtocol"
  | .proxy => "ProxyError"
  | .decoding => "DecodingError"
  | .tooManyRedirects => "TooManyRedirects"
  | .httpStatus => "HTTPStatusError"
  | .transientStatus => "TransientStatusError"
  | .invalidUrl => "InvalidURL"
  | .overdue => "Overdue"
  | .abort => "Abort"

def all : List Kind :=
  [.exception, .value, .filterExpression, .malformedTrace, .jsonDecode, .unicodeDecode,
    .unicodeEncode, .type, .missingAttribute, .lookup, .key, .index, .zeroDivision, .overflow,
    .runtime, .recursion, .backendUnavailable, .circuitOpen, .os, .connection, .timeout, .http,
    .transport, .connect, .connectTimeout, .readTimeout, .write, .poolTimeout, .remoteProtocol,
    .unsupportedProtocol, .proxy, .decoding, .tooManyRedirects, .httpStatus, .transientStatus,
    .invalidUrl, .overdue, .abort]

def ofName? (s : String) : Option Kind :=
  all.find? fun k => k.name == s

end Kind

end Fault

structure Fault where
  kind : Fault.Kind
  text : String
  deriving DecidableEq, Repr

namespace Fault

/-- Whoever made the call can meet the fault. -/
def isCatchable (f : Fault) : Bool :=
  f.kind.isA .exception

/-- The kind in brackets and the text, as log lines show a fault. -/
def tagged (f : Fault) : String :=
  s!"[{f.kind.name}] {f.text}"

end Fault

end IncidentTriage
