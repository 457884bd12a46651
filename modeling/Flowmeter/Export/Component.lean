import Flowmeter.Export.Descriptor
import Flowmeter.Export.FieldValue
import Flowmeter.Flow.Observation

/-!
# Components of observations

The parts of an observation that are exported, each with its name and its value, and with no word on
where a list of fields has it.
-/

namespace Flowmeter

/-- A part of an observation that is exported. -/
inductive Component where
  | vlanId
  | mplsTopLabel
  | icmpTypeCode
  | quicVersion
  | quicClientVersion
  | quicTokenLength
  | quicClientId
  | quicOriginalServerId
  | quicServerId
  | quicRetryId
  | quicMultiplexed
  | quicZeroRtt
  | quicServerPort
  | quicPacketTypes
  | mqttTypesSeen
  | mqttVersion
  | mqttConnectFlags
  | mqttKeepAlive
  | mqttReturnCode
  | mqttPublishFlags
  | mqttTopics
  | httpMethod
  | httpHost
  | httpTarget
  | httpUserAgent
  | httpReferer
  | httpStatus
  | httpContentType
  | httpServer
  | httpCookieNames
  deriving DecidableEq, Repr

namespace Component

def protocol : Component → Protocol
  | vlanId => .vlan
  | mplsTopLabel => .mpls
  | icmpTypeCode => .icmp
  | quicVersion | quicClientVersion | quicTokenLength | quicClientId | quicOriginalServerId
  | quicServerId | quicRetryId | quicMultiplexed | quicZeroRtt | quicServerPort
  | quicPacketTypes => .quic
  | mqttTypesSeen | mqttVersion | mqttConnectFlags | mqttKeepAlive | mqttReturnCode
  | mqttPublishFlags | mqttTopics => .mqtt
  | httpMethod | httpHost | httpTarget | httpUserAgent | httpReferer | httpStatus
  | httpContentType | httpServer | httpCookieNames => .http

/-- The name that the component is exported under. -/
def name : Component → String
  | vlanId => "VLAN_ID"
  | mplsTopLabel => "MPLS_TOP_LABEL_STACK_SECTION"
  | icmpTypeCode => "L4_ICMP_TYPE_CODE"
  | quicVersion => "QUIC_VERSION"
  | quicClientVersion => "QUIC_CLIENT_VERSION"
  | quicTokenLength => "QUIC_TOKEN_LENGTH"
  | quicClientId => "QUIC_OCCID"
  | quicOriginalServerId => "QUIC_OSCID"
  | quicServerId => "QUIC_SCID"
  | quicRetryId => "QUIC_RETRY_SCID"
  | quicMultiplexed => "QUIC_MULTIPLEXED"
  | quicZeroRtt => "QUIC_ZERO_RTT"
  | quicServerPort => "QUIC_SERVER_PORT"
  | quicPacketTypes => "QUIC_PACKETS"
  | mqttTypesSeen => "MQTT_TYPE_CUMULATIVE"
  | mqttVersion => "MQTT_VERSION"
  | mqttConnectFlags => "MQTT_CONNECTION_FLAGS"
  | mqttKeepAlive => "MQTT_KEEP_ALIVE"
  | mqttReturnCode => "MQTT_CONNECTION_RETURN_CODE"
  | mqttPublishFlags => "MQTT_PUBLISH_FLAGS"
  | mqttTopics => "MQTT_TOPICS"
  | httpMethod => "HTTP_REQUEST_METHOD"
  | httpHost => "HTTP_REQUEST_HOST"
  | httpTarget => "HTTP_REQUEST_URL"
  | httpUserAgent => "HTTP_REQUEST_AGENT"
  | httpReferer => "HTTP_REQUEST_REFERER"
  | httpStatus => "HTTP_RESPONSE_STATUS_CODE"
  | httpContentType => "HTTP_RESPONSE_CONTENT_TYPE"
  | httpServer => "HTTP_RESPONSE_SERVER"
  | httpCookieNames => "HTTP_RESPONSE_SET_COOKIE_NAMES"

def descriptor (k : Component) : Descriptor :=
  ⟨k.protocol.name, k.name⟩

/-- The value of the component on an observation, if the observation is of its protocol and the
component was observed. -/
def value? : Component → Observation → Option FieldValue
  | vlanId, .vlan tag => some (.unsigned .two tag.vlanId.toNat)
  | mplsTopLabel, .mpls label => some (.octets label.octets)
  | icmpTypeCode, .icmp typeCode => some (.unsigned .two typeCode.value)
  | quicVersion, .quic c => c.version.map (.unsigned .four ·.toNat)
  | quicClientVersion, .quic c => c.clientVersion.map (.unsigned .four ·.toNat)
  | quicTokenLength, .quic c => c.tokenLength.map (.unsigned .eight ·)
  | quicClientId, .quic c => c.clientId.map (.octets ·.octets)
  | quicOriginalServerId, .quic c => c.originalServerId.map (.octets ·.octets)
  | quicServerId, .quic c => c.serverId.map (.octets ·.octets)
  | quicRetryId, .quic c => c.retryId.map (.octets ·.octets)
  | quicMultiplexed, .quic c => some (.unsigned .one c.multiplexed)
  | quicZeroRtt, .quic c => some (.unsigned .one c.zeroRtt)
  | quicServerPort, .quic c => c.serverPort.map (.unsigned .two ·.toNat)
  | quicPacketTypes, .quic c => some (.octetList c.packetTypes)
  | mqttTypesSeen, .mqtt s => s.typesSeen.map (.unsigned .two ·.toNat)
  | mqttVersion, .mqtt s => s.version.map (.unsigned .one ·.toNat)
  | mqttConnectFlags, .mqtt s => s.connectFlags.map (.unsigned .one ·.toNat)
  | mqttKeepAlive, .mqtt s => s.keepAlive.map (.unsigned .two ·.toNat)
  | mqttReturnCode, .mqtt s => s.returnCode.map (.unsigned .one ·.toNat)
  | mqttPublishFlags, .mqtt s => s.publishFlags.map (.unsigned .one ·.toNat)
  | mqttTopics, .mqtt s => s.topics.map .text
  | httpMethod, .http t => t.method.map .text
  | httpHost, .http t => t.host.map .text
  | httpTarget, .http t => t.target.map .text
  | httpUserAgent, .http t => t.userAgent.map .text
  | httpReferer, .http t => t.referer.map .text
  | httpStatus, .http t => t.status.map (.unsigned .two ·.toNat)
  | httpContentType, .http t => t.contentType.map .text
  | httpServer, .http t => t.server.map .text
  | httpCookieNames, .http t => t.cookieNames.map .text
  | _, _ => none

end Component

end Flowmeter
