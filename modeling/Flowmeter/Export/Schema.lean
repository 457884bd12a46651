import Flowmeter.Export.FieldValue
import Flowmeter.Flow.Observation

/-!
# Field schemas

The fields that each protocol exports: a list of their names in the order of declaration
(`Protocol.fieldNames`), and a table of getters that is read by position (`Protocol.getters`). A
component that was not observed has no value, and neither has any field on an observation of another
protocol. Nothing here says that a getter reads what the name at its position stands for; that is
proved (`Protocol.declaredFields_eq`, `Protocol.map_getters`).
-/

namespace Flowmeter

/-- Reads one field off an `α`. -/
abbrev Getter (α : Type) := α → Option FieldValue

/-- The getter on a larger type, through a part of it. -/
def Getter.through {α β : Type} (part : β → Option α) (get : Getter α) : Getter β :=
  fun b => (part b).bind get

/-! ## The fields of each protocol -/

namespace TagControl

def fieldNames : List String :=
  ["VLAN_ID"]

def getters : List (Getter TagControl) :=
  [fun t => some (.ofUInt16 t.vlanId)]

end TagControl

namespace TopLabel

def fieldNames : List String :=
  ["MPLS_TOP_LABEL_STACK_SECTION"]

def getters : List (Getter TopLabel) :=
  [fun l => some (.octets l.octets)]

end TopLabel

namespace Icmp.TypeCode

def fieldNames : List String :=
  ["L4_ICMP_TYPE_CODE"]

def getters : List (Getter TypeCode) :=
  [fun t => some (.unsigned .two t.value)]

end Icmp.TypeCode

def Quic.ConnectionId.fieldValue (id : Quic.ConnectionId) : FieldValue :=
  .octets id.octets

namespace Quic.Connection

def fieldNames : List String :=
  ["QUIC_VERSION", "QUIC_CLIENT_VERSION", "QUIC_TOKEN_LENGTH", "QUIC_OCCID", "QUIC_OSCID",
    "QUIC_SCID", "QUIC_RETRY_SCID", "QUIC_MULTIPLEXED", "QUIC_ZERO_RTT", "QUIC_SERVER_PORT",
    "QUIC_PACKETS"]

def getters : List (Getter Connection) :=
  [fun c => c.version.map .ofUInt32,
    fun c => c.clientVersion.map .ofUInt32,
    fun c => c.tokenLength.map (.unsigned .eight),
    fun c => c.clientId.map (·.fieldValue),
    fun c => c.originalServerId.map (·.fieldValue),
    fun c => c.serverId.map (·.fieldValue),
    fun c => c.retryId.map (·.fieldValue),
    fun c => some (.unsigned .one c.multiplexed),
    fun c => some (.unsigned .one c.zeroRtt),
    fun c => c.serverPort.map .ofUInt16,
    fun c => some (.octetList c.packetTypes)]

end Quic.Connection

namespace Mqtt.Session

def fieldNames : List String :=
  ["MQTT_TYPE_CUMULATIVE", "MQTT_VERSION", "MQTT_CONNECTION_FLAGS", "MQTT_KEEP_ALIVE",
    "MQTT_CONNECTION_RETURN_CODE", "MQTT_PUBLISH_FLAGS", "MQTT_TOPICS"]

def getters : List (Getter Session) :=
  [fun s => s.typesSeen.map .ofUInt16,
    fun s => s.version.map .ofUInt8,
    fun s => s.connectFlags.map .ofUInt8,
    fun s => s.keepAlive.map .ofUInt16,
    fun s => s.returnCode.map .ofUInt8,
    fun s => s.publishFlags.map .ofUInt8,
    fun s => s.topics.map .text]

end Mqtt.Session

namespace Http.Transaction

def fieldNames : List String :=
  ["HTTP_REQUEST_METHOD", "HTTP_REQUEST_HOST", "HTTP_REQUEST_URL", "HTTP_REQUEST_AGENT",
    "HTTP_REQUEST_REFERER", "HTTP_RESPONSE_STATUS_CODE", "HTTP_RESPONSE_CONTENT_TYPE",
    "HTTP_RESPONSE_SERVER", "HTTP_RESPONSE_SET_COOKIE_NAMES"]

def getters : List (Getter Transaction) :=
  [fun t => t.method.map .text,
    fun t => t.host.map .text,
    fun t => t.target.map .text,
    fun t => t.userAgent.map .text,
    fun t => t.referer.map .text,
    fun t => t.status.map .ofUInt16,
    fun t => t.contentType.map .text,
    fun t => t.server.map .text,
    fun t => t.cookieNames.map .text]

end Http.Transaction

/-! ## Schemas on observations -/

namespace Observation

def vlan? : Observation → Option TagControl
  | .vlan tag => some tag
  | _ => none

def mpls? : Observation → Option TopLabel
  | .mpls label => some label
  | _ => none

def icmp? : Observation → Option Icmp.TypeCode
  | .icmp typeCode => some typeCode
  | _ => none

def quic? : Observation → Option Quic.Connection
  | .quic connection => some connection
  | _ => none

def mqtt? : Observation → Option Mqtt.Session
  | .mqtt session => some session
  | _ => none

def http? : Observation → Option Http.Transaction
  | .http transaction => some transaction
  | _ => none

end Observation

namespace Protocol

/-- The names of the fields of a protocol, in the order of declaration. -/
def fieldNames : Protocol → List String
  | .vlan => TagControl.fieldNames
  | .mpls => TopLabel.fieldNames
  | .icmp => Icmp.TypeCode.fieldNames
  | .quic => Quic.Connection.fieldNames
  | .mqtt => Mqtt.Session.fieldNames
  | .http => Http.Transaction.fieldNames

/-- The getters of a protocol, on observations of any protocol. -/
def getters : Protocol → List (Getter Observation)
  | .vlan => TagControl.getters.map (Getter.through Observation.vlan?)
  | .mpls => TopLabel.getters.map (Getter.through Observation.mpls?)
  | .icmp => Icmp.TypeCode.getters.map (Getter.through Observation.icmp?)
  | .quic => Quic.Connection.getters.map (Getter.through Observation.quic?)
  | .mqtt => Mqtt.Session.getters.map (Getter.through Observation.mqtt?)
  | .http => Http.Transaction.getters.map (Getter.through Observation.http?)

end Protocol

end Flowmeter
