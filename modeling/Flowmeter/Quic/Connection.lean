import Flowmeter.Flow.Verdict
import Flowmeter.Packet
import Flowmeter.Quic.Datagram

/-!
# QUIC connections

What a flow shows of a QUIC connection. Of each datagram the decisive packet is taken in
(`Connection.observe`): Initial packets tell the versions and the connection ids, a Retry the id
that it hands out, a version negotiation ends the flow. An Initial of a client that fits none of
the ids of the connection belongs to another connection on the same flow and is only counted.
-/

namespace Flowmeter.Quic

/-- What a flow has shown of a connection. -/
structure Connection where
  version : Option UInt32 := none
  /-- Version of the first Initial of the client. -/
  clientVersion : Option UInt32 := none
  /-- Length of the token of the last Initial of the client. -/
  tokenLength : Option Nat := none
  /-- The id that the client chose for itself. -/
  clientId : Option ConnectionId := none
  /-- The id that the client first chose for the server. -/
  originalServerId : Option ConnectionId := none
  /-- The id that the server chose for itself. -/
  serverId : Option ConnectionId := none
  /-- The id that the first Retry handed out. -/
  retryId : Option ConnectionId := none
  /-- Number of Initial packets of other connections, as far as the counter goes. -/
  multiplexed : Nat := 0
  /-- Number of 0-RTT packets, as far as the counter goes. -/
  zeroRtt : Nat := 0
  serverPort : Option UInt16 := none
  /-- The packet types of the first datagrams. -/
  packetTypes : List UInt8 := []
  /-- Number of Retry packets that decided a datagram, as far as the counter goes. -/
  retries : Nat := 0
  deriving DecidableEq, Repr

/-- Number of datagrams whose packet types are recorded. -/
def maxRecordedDatagrams : Nat := 30

/-- An id that is learned once: the first non-empty one stays. -/
def learn (known : Option ConnectionId) (id : ConnectionId) : Option ConnectionId :=
  if known.isNone && !id.isEmpty then some id else known

namespace Connection

/-- Learns the ids of a packet of the client. -/
def learnFromClient (c : Connection) (h : LongHeader) : Connection :=
  { c with
    originalServerId := learn c.originalServerId h.destinationId
    clientId := learn c.clientId h.sourceId }

/-- Learns the ids of a packet of the server. -/
def learnFromServer (c : Connection) (h : LongHeader) : Connection :=
  { c with
    serverId := learn c.serverId h.sourceId
    clientId := learn c.clientId h.destinationId }

/-- Learns the ids of a packet sent in the given direction. -/
def learnIds (c : Connection) (direction : Direction) (h : LongHeader) : Connection :=
  match direction with
  | .clientToServer => c.learnFromClient h
  | .serverToClient => c.learnFromServer h

/-- Whether an Initial of the client answers the Retry of the connection. -/
def answersRetry (c : Connection) (h : LongHeader) : Bool :=
  h.tokenLength.any (0 < ·) && c.retryId == some h.destinationId

/-- Whether an Initial of the client opens another connection. -/
def isForeign (c : Connection) (h : LongHeader) : Bool :=
  c.clientVersion.isSome && !c.answersRetry h && c.originalServerId != some h.destinationId

def observeClientInitial (c : Connection) (h : LongHeader) (serverPort : UInt16) : Connection :=
  if c.isForeign h then { c with multiplexed := min counterLimit (c.multiplexed + 1) }
  else
    let learned := c.learnFromClient h
    let known := { learned with tokenLength := h.tokenLength.or learned.tokenLength }
    if c.answersRetry h then known
    else
      { known with
        clientVersion := known.clientVersion.or (some h.version)
        serverPort := known.serverPort.or (some serverPort)
        version := some h.version }

def observeServerInitial (c : Connection) (h : LongHeader) : Connection :=
  { c.learnFromServer h with version := some h.version }

/-- Takes in a Retry; a client follows at most one, so only the first one that is counted tells the
ids. -/
def observeRetry (c : Connection) (h : LongHeader) : Connection :=
  let counted := { c with retries := min counterLimit (c.retries + 1) }
  if counted.retries = 1 then
    { counted with
      retryId := learn none h.sourceId
      clientId := learn counted.clientId h.destinationId }
  else counted

def observeDecisive (c : Connection) (h : LongHeader) (p : Packet) : Connection × Verdict :=
  match h.type with
  | .versionNegotiation => (c.learnFromServer h, .flush)
  | .initial =>
    match p.direction with
    | .clientToServer => (c.observeClientInitial h p.serverPort, .more)
    | .serverToClient => (c.observeServerInitial h, .more)
  | .handshake => (c.learnIds p.direction h, .more)
  | .retry => (c.observeRetry h, .more)
  | .zeroRtt => ({ c with clientId := learn c.clientId h.sourceId }, .more)

/-- Records the packet types of a datagram and counts its 0-RTT packets. -/
def count (c : Connection) (d : Datagram) : Connection :=
  let recorded :=
    if c.packetTypes.length < maxRecordedDatagrams then
      { c with packetTypes := c.packetTypes ++ [d.types] }
    else c
  match d.firstOf? .zeroRtt with
  | some h =>
    { recorded with
      version := some h.version
      zeroRtt := min counterLimit (recorded.zeroRtt + d.zeroRttCount) }
  | none => recorded

def observe (c : Connection) (d : Datagram) (p : Packet) : Connection × Verdict :=
  let counted := c.count d
  match d.decisive? with
  | some h => counted.observeDecisive h p
  | none => (counted, .more)

end Connection

end Flowmeter.Quic
