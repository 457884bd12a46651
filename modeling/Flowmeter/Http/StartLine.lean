import Flowmeter.Decoder

/-!
# HTTP start lines

A request line is a method, a target and a version, with one space between them; a status line is
a version, a space and a status code. A line that starts with `HTTP/` is a status line.
-/

namespace Flowmeter.Http

/-- The rules that a start line can break. -/
inductive Error where
  /-- A request line starts with a space. -/
  | emptyMethod
  deriving DecidableEq, Repr

def Error.message : Error → String
  | .emptyMethod => "request line does not start with a method"

def space : Octets := [0x20]

/-- What a version starts with, `HTTP/`. -/
def versionMark : Octets := [0x48, 0x54, 0x54, 0x50, 0x2F]

/-- Method and target of a request. -/
structure RequestLine where
  method : View
  target : View
  deriving DecidableEq, Repr

/-- Reads a request line up to the mark of its version. -/
def RequestLine.decoder : Decoder Error RequestLine := do
  let start ← Decoder.here
  let method ← Decoder.upTo space
  Decoder.require (!method.isEmpty) .emptyMethod start
  let _ ← Decoder.literal space
  let target ← Decoder.upTo space
  let _ ← Decoder.literal space
  let _ ← Decoder.literal versionMark
  return ⟨method, target⟩

/-- Reads a status line up to its status code, and gives the code. -/
def statusDecoder : Decoder Error UInt16 := do
  let _ ← Decoder.literal versionMark
  let _ ← Decoder.upTo space
  let _ ← Decoder.literal space
  Decoder.decimal16

/-- First line of a message. -/
inductive StartLine where
  | request (line : RequestLine)
  | response (status : UInt16)
  deriving DecidableEq, Repr

namespace StartLine

/-- The start line in a line, if there is one. -/
def ofLine? (line : View) : Option StartLine :=
  if line.startsWith versionMark then
    (statusDecoder line).toOption.map fun r => .response r.1
  else
    (RequestLine.decoder line).toOption.map fun r => .request r.1

def isRequest : StartLine → Bool
  | .request _ => true
  | .response _ => false

end StartLine

/-- Start line of a message, and the header block and all else that follows it. -/
structure Message where
  startLine : StartLine
  headers : View
  deriving DecidableEq, Repr

namespace Message

def lineFeed : Octets := [0x0A]

/-- The message that a payload starts with, if its first line is complete and a start line. -/
def parse? (payload : View) : Option Message := do
  let lineLength ← payload.find? lineFeed
  let startLine ← StartLine.ofLine? (payload.take lineLength)
  return ⟨startLine, payload.drop (lineLength + 1)⟩

def isRequest (m : Message) : Bool :=
  m.startLine.isRequest

end Message

end Flowmeter.Http
