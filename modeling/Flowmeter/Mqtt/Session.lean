import Flowmeter.Flow.Verdict
import Flowmeter.Mqtt.Connect
import Flowmeter.Mqtt.ControlPacket

/-!
# MQTT sessions

What a flow shows of an MQTT session, gathered control packet by control packet
(`Session.observe`) and segment by segment (`Session.update`). A malformed packet ends the
observation of the session, a DISCONNECT ends the flow.
-/

namespace Flowmeter.Mqtt

/-- How much of a session is recorded. -/
structure Options where
  /-- Number of PUBLISH topics recorded for a flow. -/
  topicLimit : Nat := 0
  deriving DecidableEq, Repr

/-- What a flow has shown of a session. -/
structure Session where
  /-- Bit `n` stands for packets of type `n`; bit 0 also for a CONNACK with a session present. -/
  typesSeen : Option UInt16 := none
  version : Option UInt8 := none
  connectFlags : Option UInt8 := none
  keepAlive : Option UInt16 := none
  returnCode : Option UInt8 := none
  /-- The flags of all PUBLISH packets together. -/
  publishFlags : Option UInt8 := none
  /-- The recorded topics, a separator after each. -/
  topics : Option String := none
  /-- Number of topics seen, recorded or not. It is taken as unbounded, though a counter of 64 bits
  would stand still at its limit: no run has that many packets. -/
  topicCount : Nat := 0
  deriving DecidableEq, Repr

namespace Session

/-- Stands after every recorded topic; no topic name contains it. -/
def topicSeparator : Char := '#'

/-- Adds bits to the types seen. -/
def mark (s : Session) (bits : UInt16) : Session :=
  { s with typesSeen := some (s.typesSeen.getD 0 ||| bits) }

/-- Counts a topic, in a count that never saturates, and records it while the limit is not
reached. -/
def addTopic (s : Session) (limit : Nat) (topic : String) : Session :=
  { s with
    topics :=
      if s.topicCount < limit then some ((s.topics.getD "" ++ topic).push topicSeparator)
      else s.topics
    topicCount := s.topicCount + 1 }

def observeConnect (s : Session) (body : View) : Session × Option Verdict :=
  match Connect.decoder body with
  | .ok (c, _) =>
    ({ s with
        version := some c.version, connectFlags := some c.flags, keepAlive := some c.keepAlive },
      none)
  | .error _ => (s, some .drop)

def observeConnAck (s : Session) (body : View) : Session × Option Verdict :=
  match ConnAck.decoder body with
  | .ok (a, _) =>
    ({ s.mark (if a.sessionPresent then 1 else 0) with returnCode := some a.returnCode }, none)
  | .error _ => (s, some .drop)

def observePublish (s : Session) (limit : Nat) (flags : UInt8) (body : View) :
    Session × Option Verdict :=
  let s := { s with publishFlags := some (s.publishFlags.getD 0 ||| flags) }
  match text body with
  | .ok (topic, _) =>
    if topic.toList.contains topicSeparator then (s, some .drop)
    else (s.addTopic limit topic, none)
  | .error _ => (s, some .drop)

/-- Takes in a control packet. Without a verdict, the session goes on with the next packet. -/
def observe (limit : Nat) (s : Session) (p : ControlPacket) : Session × Option Verdict :=
  let s := s.mark (1 <<< p.header.typeCode.toUInt16)
  match p.header.type with
  | .connect => s.observeConnect p.body
  | .connAck => s.observeConnAck p.body
  | .publish => s.observePublish limit p.header.flags p.body
  | .disconnect => (s, some .flush)
  | _ => (s, none)

/-- Takes in control packets up to the first verdict. -/
def observeAll (limit : Nat) (s : Session) : List ControlPacket → Session × Option Verdict
  | [] => (s, none)
  | p :: rest =>
    match observe limit s p with
    | (s, some verdict) => (s, some verdict)
    | (s, none) => observeAll limit s rest

/-- Takes in a segment. When no packet brings a verdict, the segment must end with a packet. -/
def update (options : Options) (s : Session) (payload : View) : Session × Verdict :=
  let (packets, last) := ControlPacket.tokenizer.tokens payload
  match observeAll options.topicLimit s packets with
  | (s, some verdict) => (s, verdict)
  | (s, none) => (s, if last.hasSucceeded then .more else .drop)

end Session

end Flowmeter.Mqtt
