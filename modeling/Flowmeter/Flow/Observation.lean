import Flowmeter.Flow.Protocol
import Flowmeter.Http.Transaction
import Flowmeter.Icmp.TypeCode
import Flowmeter.Link.LabelStack
import Flowmeter.Link.TagControl
import Flowmeter.Mqtt.Session
import Flowmeter.Quic.Connection

/-!
# Observations

What the plugin of one protocol has recorded of a flow.
-/

namespace Flowmeter

/-- The record of one protocol on a flow. -/
inductive Observation where
  | vlan (tag : TagControl)
  | mpls (label : TopLabel)
  | icmp (typeCode : Icmp.TypeCode)
  | quic (connection : Quic.Connection)
  | mqtt (session : Mqtt.Session)
  | http (transaction : Http.Transaction)
  deriving DecidableEq, Repr

def Observation.protocol : Observation → Protocol
  | .vlan _ => .vlan
  | .mpls _ => .mpls
  | .icmp _ => .icmp
  | .quic _ => .quic
  | .mqtt _ => .mqtt
  | .http _ => .http

end Flowmeter
