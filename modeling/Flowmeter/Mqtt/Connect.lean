import Flowmeter.Decoder

/-!
# MQTT connection packets

The variable headers that open a session: CONNECT names the protocol, its level, the connection
flags and the keep alive time; CONNACK answers with a session present flag and a return code.
-/

namespace Flowmeter.Mqtt

/-- The rules that a control packet can break. -/
inductive Error where
  /-- CONNECT names another protocol. -/
  | invalidProtocolName
  /-- CONNECT asks for this protocol level. -/
  | unsupportedVersion (version : UInt8)
  /-- A string is not UTF-8. -/
  | invalidUtf8
  deriving DecidableEq, Repr

def protocolName : String := "MQTT"

def Error.message : Error → String
  | .invalidProtocolName => s!"protocol name is not {protocolName}"
  | .unsupportedVersion version => s!"unsupported MQTT protocol level {version.toNat}"
  | .invalidUtf8 => "string is not valid UTF-8"

/-- Reads a string after its length of two octets. -/
def text : Decoder Error String := do
  let length ← Decoder.uint16
  let value ← Decoder.take length.toNat
  match value.text? with
  | some s => return s
  | none => Decoder.breaks .invalidUtf8 value

/-- Protocol levels of versions 3.1.1 and 5.0. -/
def supports (version : UInt8) : Bool :=
  version == 4 || version == 5

/-- Variable header of a CONNECT packet. -/
structure Connect where
  version : UInt8
  flags : UInt8
  keepAlive : UInt16
  deriving DecidableEq, Repr

namespace Connect

def decoder : Decoder Error Connect := do
  let start ← Decoder.here
  let name ← text
  Decoder.require (name == protocolName) .invalidProtocolName start
  let level ← Decoder.here
  let version ← Decoder.octet
  Decoder.require (supports version) (.unsupportedVersion version) level
  let flags ← Decoder.octet
  let keepAlive ← Decoder.uint16
  return ⟨version, flags, keepAlive⟩

/-- Whether a segment starts with a packet whose body starts with the protocol name. -/
def isAnnounced (payload : View) : Bool :=
  let named : Option String := do
    let rest ← payload.advance? 1
    let length ← Varint.readContinued? rest.bytes
    let label ← rest.advance? length.size
    (text label).toOption.map Prod.fst
  named == some protocolName

end Connect

/-- Variable header of a CONNACK packet. -/
structure ConnAck where
  sessionPresent : Bool
  returnCode : UInt8
  deriving DecidableEq, Repr

def ConnAck.decoder : Decoder Error ConnAck := do
  let flags ← Decoder.octet
  let returnCode ← Decoder.octet
  return ⟨flags &&& 0x01 != 0, returnCode⟩

end Flowmeter.Mqtt
