import Flowmeter.Flow.Plugin

/-!
# Built-in plugins

One plugin for each protocol, and the settings that say which of them run.

The plugins of VLAN, MPLS and ICMP look at the first packet of a flow only: whatever they are given
to update is final. Those of QUIC, MQTT and HTTP go on, and drop an observation of another
protocol.
-/

namespace Flowmeter.Plugin

/-! ## The plugins -/

/-- Records the tag of a tagged flow. -/
def vlan : Plugin where
  protocol := .vlan
  start packet :=
    match packet.vlanTag with
    | some tag => .complete (.vlan ⟨tag⟩)
    | none => .irrelevant
  update _ observation := (observation, .final)

/-- Records the top label of a labelled flow. -/
def mpls : Plugin where
  protocol := .mpls
  start packet :=
    match LabelStackEntry.decoder packet.labelStack with
    | .ok (top, _) => .complete (.mpls top.topLabel)
    | .error _ => .irrelevant
  update _ observation := (observation, .final)

def carriesIcmp (ipProtocol : UInt8) : Bool :=
  ipProtocol == IpProtocol.icmp || ipProtocol == IpProtocol.icmpV6

/-- Records type and code of the first message. -/
def icmp : Plugin where
  protocol := .icmp
  start packet :=
    if carriesIcmp packet.ipProtocol then
      match Icmp.TypeCode.decoder packet.payload with
      | .ok (typeCode, _) => .complete (.icmp typeCode)
      | .error _ => .irrelevant
    else .irrelevant
  update _ observation := (observation, .final)

/-- Follows a QUIC connection from a datagram with a long header packet on. -/
def quic : Plugin where
  protocol := .quic
  start packet :=
    if packet.isUdp then
      match Quic.Datagram.parse? packet.payload with
      | some datagram =>
        if datagram.packets.isEmpty then .irrelevant
        else
          match Quic.Connection.observe {} datagram packet with
          | (connection, .more) => .begun (.quic connection)
          | (connection, _) => .complete (.quic connection)
      | none => .irrelevant
    else .irrelevant
  update packet
    | .quic connection =>
      match Quic.Datagram.parse? packet.payload with
      | some datagram =>
        let (connection, verdict) := connection.observe datagram packet
        (.quic connection, verdict)
      | none => (.quic connection, .drop)
    | observation => (observation, .drop)

/-- Follows an MQTT session from its CONNECT on. -/
def mqtt (options : Mqtt.Options) : Plugin where
  protocol := .mqtt
  start packet :=
    if packet.isTcp then
      if packet.payload.isEmpty then .undecided
      else if Mqtt.Connect.isAnnounced packet.payload then
        match Mqtt.Session.update options {} packet.payload with
        | (_, .drop) => .undecided
        | (session, .more) => .begun (.mqtt session)
        | (session, _) => .complete (.mqtt session)
      else .irrelevant
    else .irrelevant
  update packet
    | .mqtt session =>
      if packet.payload.isEmpty then (.mqtt session, .more)
      else
        let (session, verdict) := session.update options packet.payload
        (.mqtt session, verdict)
    | observation => (observation, .drop)

/-- Follows an HTTP transaction from its request on. A second request or response splits the
flow. -/
def http : Plugin where
  protocol := .http
  start packet :=
    if packet.isTcp then
      match Http.Message.parse? packet.payload with
      | some message =>
        if message.isRequest then .begun (.http (Http.Transaction.observe {} message))
        else .undecided
      | none => .undecided
    else .irrelevant
  splits packet
    | .http transaction => (Http.Message.parse? packet.payload).any transaction.collides
    | _ => false
  update packet
    | .http transaction =>
      let transaction :=
        match Http.Message.parse? packet.payload with
        | some message => transaction.observe message
        | none => transaction
      (.http transaction, if transaction.isComplete then .final else .more)
    | observation => (observation, .drop)

def ofProtocol (options : Mqtt.Options) : Protocol → Plugin
  | .vlan => vlan
  | .mpls => mpls
  | .icmp => icmp
  | .quic => quic
  | .mqtt => mqtt options
  | .http => http

end Flowmeter.Plugin

namespace Flowmeter

/-! ## Which plugins run -/

/-- Which plugins run, and with which options. -/
structure PluginSettings where
  enabled : List Protocol := Protocol.all
  mqtt : Mqtt.Options := {}
  deriving DecidableEq, Repr

namespace PluginSettings

/-- Adds the plugin of a protocol unless there is one already. -/
def addPlugin (settings : PluginSettings) (plugins : List Plugin) (protocol : Protocol) :
    List Plugin :=
  if plugins.any (·.protocol == protocol) then plugins
  else plugins ++ [Plugin.ofProtocol settings.mqtt protocol]

/-- The enabled plugins in the order of the settings, one for each protocol. -/
def build (settings : PluginSettings) : List Plugin :=
  settings.enabled.foldl settings.addPlugin []

end PluginSettings

end Flowmeter
