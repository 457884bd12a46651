import Flowmeter.Proofs.Quic.Connection

/-!
# Which Initials are taken for those of another connection

The client of a connection addresses the server first by an id that it makes up, after a Retry by
the id that the Retry hands out, and after the first Initial of the server by the id that the server
chose (`Endpoints`, `Endpoints.Exchange`). An Initial of the client is compared with the first two
of these ids only, never with the third. So a client Initial to the id that the server chose is
counted as one of another connection (`Endpoints.isMiscounted`), and a connection on its own shows
as many foreign Initials as its client sends there (`quic_multiplexed`).
-/

namespace Flowmeter

namespace Quic

/-! ## Single connections -/

/-- The ids of one connection. -/
structure Endpoints where
  /-- The id that the client chose for itself. -/
  client : ConnectionId
  /-- The id that the client first addresses the server by. -/
  original : ConnectionId
  /-- The id that the Retry of the server hands out, if it sends one. -/
  retry : Option ConnectionId
  /-- The id that the server chose for itself. -/
  server : ConnectionId
  /-- An id that is made up has eight octets at least. -/
  original_length : 8 ≤ original.octets.length

/-- Whether the server has sent a packet of the type. -/
def received (t : PacketType) (past : List Packet) : Bool :=
  past.any fun p => p.direction == .serverToClient &&
    (Datagram.parse? p.payload).any (·.packets.any (·.type == t))

theorem received_append {t : PacketType} {past : List Packet} {p : Packet} :
    received t (past ++ [p]) = (received t past || received t [p]) := by
  simp only [received, List.any_append]

theorem received_of_client {t : PacketType} {p : Packet} (hp : p.direction = .clientToServer) :
    received t [p] = false := by
  simp [received, hp]

theorem received_of_server {t : PacketType} {p : Packet} {d : Datagram}
    (hp : p.direction = .serverToClient) (hd : Datagram.parse? p.payload = some d) :
    received t [p] = d.packets.any (·.type == t) := by
  simp [received, hp, hd]

namespace Endpoints

variable (e : Endpoints)

/-- The packets that the client sends: its Initials go to the id that it made up, with a token to
the id of the Retry, or to the id that came with an Initial of the server. -/
def SentByClient (past : List Packet) (h : LongHeader) : Prop :=
  h.sourceId = e.client ∧
    match h.type with
    | .initial =>
      h.destinationId = e.original ∨
      (e.retry = some h.destinationId ∧ h.tokenLength.any (0 < ·) = true ∧
        received .retry past = true) ∨
      (h.destinationId = e.server ∧ received .initial past = true)
    | .handshake => h.destinationId = e.server ∧ received .initial past = true
    | .zeroRtt => True
    | .versionNegotiation | .retry => False

/-- The packets that the server sends in a datagram. A server that sends a Retry goes on only after
it; a packet without a length stands alone. -/
def SentByServer (past : List Packet) (d : Datagram) (h : LongHeader) : Prop :=
  h.destinationId = e.client ∧
    match h.type with
    | .versionNegotiation => d.packets = [h] ∧ h.sourceId = e.original
    | .retry => d.packets = [h] ∧ e.retry = some h.sourceId
    | .initial | .handshake =>
      h.sourceId = e.server ∧ (e.retry.isSome = true → received .retry past = true)
    | .zeroRtt => False

/-- The runs that consist of the datagrams of a single connection, from its first one on. -/
inductive Exchange : List Packet → Prop
  | opening {p : Packet} {d : Datagram} (hudp : p.isUdp = true)
      (hp : p.direction = .clientToServer) (hd : Datagram.parse? p.payload = some d)
      (hinitial : ∃ h ∈ d.packets, h.type = .initial)
      (hsent : ∀ h ∈ d.packets, e.SentByClient [] h) : Exchange [p]
  | client {past : List Packet} {p : Packet} {d : Datagram} (hpast : Exchange past)
      (hp : p.direction = .clientToServer) (hd : Datagram.parse? p.payload = some d)
      (hsent : ∀ h ∈ d.packets, e.SentByClient past h) : Exchange (past ++ [p])
  | server {past : List Packet} {p : Packet} {d : Datagram} (hpast : Exchange past)
      (hp : p.direction = .serverToClient) (hd : Datagram.parse? p.payload = some d)
      (hsent : ∀ h ∈ d.packets, e.SentByServer past d h) : Exchange (past ++ [p])

/-- Whether an Initial of the client goes neither to the id that it made up nor, with a token, to
the id of the Retry. -/
def isMiscounted (h : LongHeader) : Bool :=
  h.destinationId != e.original &&
    !(h.tokenLength.any (0 < ·) && (e.retry == some h.destinationId && !h.destinationId.isEmpty))

/-- The number of such Initials. -/
def miscounted (packets : List Packet) : Nat :=
  (packets.filterMap clientInitial?).countP e.isMiscounted

/-! ## What is on record of a single connection -/

/-- The attempt that is on record when the client showed the version first. -/
def onRecord (version : UInt32) (retried : Bool) : Connection where
  clientVersion := some version
  originalServerId := some e.original
  retryId := if retried then e.retry.bind (learn none) else none
  retries := if retried then 1 else 0

/-- What is on record after some datagrams of a single connection. -/
structure Recorded (past : List Packet) (c : Connection) : Prop where
  attempt : ∃ version, c.attempt = e.onRecord version (received .retry past)
  /-- The server has not gone on before its Retry. -/
  retry_first : received .initial past = true → e.retry.isSome = true →
    received .retry past = true

variable {e} {past : List Packet} {c : Connection} {p : Packet} {d : Datagram} {h : LongHeader}

theorem attempt_onRecord (e : Endpoints) (version : UInt32) (retried : Bool) :
    (e.onRecord version retried).attempt = e.onRecord version retried := by
  cases retried <;> rfl

theorem isEmpty_original : e.original.isEmpty = false := by
  have hlength := e.original_length
  unfold ConnectionId.isEmpty
  cases ho : e.original.octets with
  | nil =>
    rw [ho] at hlength
    exact absurd hlength (by decide)
  | cons b bs => rfl

theorem bind_learn_none_eq_some_iff {retry : Option ConnectionId} {id : ConnectionId} :
    retry.bind (learn none) = some id ↔ retry = some id ∧ id.isEmpty = false := by
  cases retry with
  | none => simp
  | some r =>
    cases hr : r.isEmpty with
    | false =>
      rw [Option.bind_some, learn_none hr]
      constructor
      · rintro ⟨⟩
        exact ⟨rfl, hr⟩
      · exact And.left
    | true =>
      simp only [Option.bind_some, learn, hr]
      constructor
      · rintro ⟨⟩
      · rintro ⟨⟨⟩, hid⟩
        exact absurd hid (by simp [hr])

/-- An Initial that leaves the first id answers the Retry on record exactly if it answers that of
the connection. -/
theorem Recorded.answersRetry_eq {version : UInt32} (hc : e.Recorded past c)
    (hsent : e.SentByClient past h) (ht : h.type = .initial) (hid : h.destinationId ≠ e.original) :
    (e.onRecord version (received .retry past)).answersRetry h = (h.tokenLength.any (0 < ·) &&
      (e.retry == some h.destinationId && !h.destinationId.isEmpty)) := by
  have hretryId : ((e.onRecord version (received .retry past)).retryId == some h.destinationId) =
      (e.retry == some h.destinationId && !h.destinationId.isEmpty) := by
    cases hreceived : received .retry past with
    | true =>
      rw [Bool.eq_iff_iff]
      simp [onRecord, bind_learn_none_eq_some_iff]
    | false =>
      obtain ⟨-, hto⟩ := hsent
      simp only [ht, hid, hreceived, Bool.false_eq_true, and_false, false_or] at hto
      -- the server has gone on, so it sends no Retry at all
      have hnone : e.retry = none := by
        have hfirst := hc.retry_first hto.2
        rw [hreceived] at hfirst
        simpa using hfirst
      simp [onRecord, hnone]
  rw [Connection.answersRetry, hretryId]

/-- An Initial of the client is foreign to its own connection exactly if it is miscounted. -/
theorem Recorded.isForeign_eq (hc : e.Recorded past c) (hsent : e.SentByClient past h)
    (ht : h.type = .initial) : c.isForeign h = e.isMiscounted h := by
  obtain ⟨version, hattempt⟩ := hc.attempt
  have hforeign : c.isForeign h = (e.onRecord version (received .retry past)).isForeign h :=
    Connection.isForeign_congr (hattempt.trans (attempt_onRecord ..).symm)
  rw [hforeign, Connection.isForeign, isMiscounted]
  by_cases hid : h.destinationId = e.original
  · simp [onRecord, hid]
  · rw [hc.answersRetry_eq hsent ht hid, Bool.eq_iff_iff]
    simp [onRecord, hid, Ne.symm hid]

theorem Recorded.attempt_observe (hc : e.Recorded past c)
    (hretry : ∀ h, d.decisive? = some h → h.type ≠ .retry) :
    (c.observe d p).1.attempt = c.attempt := by
  obtain ⟨version, hattempt⟩ := hc.attempt
  have hversion : c.clientVersion = some version :=
    (congrArg Connection.clientVersion hattempt :)
  have hid : c.originalServerId = some e.original :=
    (congrArg Connection.originalServerId hattempt :)
  exact Connection.attempt_observe (by rw [hversion]; rfl) (by rw [hid]; rfl) hretry

/-! ## One datagram of a single connection -/

theorem SentByClient.type_ne (hsent : e.SentByClient past h) :
    h.type ≠ .versionNegotiation ∧ h.type ≠ .retry := by
  obtain ⟨-, hto⟩ := hsent
  constructor
  · intro ht
    rw [ht] at hto
    exact hto
  · intro ht
    rw [ht] at hto
    exact hto

/-- The first Initial goes to the id that the client made up. -/
theorem SentByClient.destinationId_eq (hsent : e.SentByClient [] h) (ht : h.type = .initial) :
    h.destinationId = e.original := by
  obtain ⟨-, hto⟩ := hsent
  simpa [ht, received] using hto

theorem recorded_opening (hp : p.direction = .clientToServer)
    (hinitial : ∃ h ∈ d.packets, h.type = .initial)
    (hsent : ∀ h ∈ d.packets, e.SentByClient [] h) :
    e.Recorded [p] (Connection.observe {} d p).1 := by
  obtain ⟨h, hd, ht⟩ :=
    Datagram.exists_decisive?_of_initial (fun h hh => (hsent h hh).type_ne.1) hinitial
  have hid : h.destinationId = e.original :=
    (hsent h (Datagram.mem_of_decisive? hd)).destinationId_eq ht
  have hreceived (t : PacketType) : received t [p] = false := received_of_client hp
  constructor
  · refine ⟨h.version, ?_⟩
    rw [Connection.attempt_observe_of_initial rfl hp hd ht (hid ▸ isEmpty_original), hid,
      hreceived]
    rfl
  · intro hinitial
    rw [hreceived] at hinitial
    cases hinitial

theorem Recorded.client (hc : e.Recorded past c) (hp : p.direction = .clientToServer)
    (hsent : ∀ h ∈ d.packets, e.SentByClient past h) :
    e.Recorded (past ++ [p]) (c.observe d p).1 := by
  have hreceived (t : PacketType) : received t (past ++ [p]) = received t past := by
    rw [received_append, received_of_client hp, Bool.or_false]
  have hattempt : (c.observe d p).1.attempt = c.attempt :=
    hc.attempt_observe fun h hh => (hsent h (Datagram.mem_of_decisive? hh)).type_ne.2
  constructor
  · rw [hattempt, hreceived]
    exact hc.attempt
  · rw [hreceived, hreceived]
    exact hc.retry_first

/-- A Retry is on record from the first one on. -/
theorem Recorded.server_retry (hc : e.Recorded past c) (hp : p.direction = .serverToClient)
    (hd : Datagram.parse? p.payload = some d) (hpackets : d.packets = [h]) (ht : h.type = .retry)
    (hid : e.retry = some h.sourceId) : e.Recorded (past ++ [p]) (c.observe d p).1 := by
  have hreceived : received .retry (past ++ [p]) = true := by
    simp [received_append, received_of_server hp hd, hpackets, ht]
  obtain ⟨version, hattempt⟩ := hc.attempt
  have hretries : min 1 c.retries = if received .retry past then 1 else 0 :=
    (congrArg Connection.retries hattempt :)
  constructor
  · refine ⟨version, ?_⟩
    rw [Connection.attempt_observe_of_retry (Datagram.decisive?_of_packets_eq hpackets) ht,
      hattempt, hreceived]
    cases hpast : received .retry past with
    | true =>
      rw [hpast, if_pos rfl] at hretries
      rw [if_neg (by omega)]
    | false =>
      rw [hpast, if_neg Bool.false_ne_true] at hretries
      rw [if_pos (by omega)]
      simp [onRecord, hid]
  · exact fun _ _ => hreceived

theorem Recorded.server (hc : e.Recorded past c) (hp : p.direction = .serverToClient)
    (hd : Datagram.parse? p.payload = some d) (hsent : ∀ h ∈ d.packets, e.SentByServer past d h) :
    e.Recorded (past ++ [p]) (c.observe d p).1 := by
  by_cases hretry : ∃ h ∈ d.packets, h.type = .retry
  · obtain ⟨h, hh, ht⟩ := hretry
    obtain ⟨-, hsole⟩ := hsent h hh
    rw [ht] at hsole
    exact hc.server_retry hp hd hsole.1 ht hsole.2
  · have hreceived (t : PacketType) :
        received t (past ++ [p]) = (received t past || d.packets.any (·.type == t)) := by
      rw [received_append, received_of_server hp hd]
    have hretried : received .retry (past ++ [p]) = received .retry past := by
      have hnone : d.packets.any (·.type == .retry) = false := by simpa using hretry
      rw [hreceived, hnone, Bool.or_false]
    have hattempt : (c.observe d p).1.attempt = c.attempt :=
      hc.attempt_observe fun h hh ht => hretry ⟨h, Datagram.mem_of_decisive? hh, ht⟩
    constructor
    · rw [hattempt, hretried]
      exact hc.attempt
    · intro hinitial hsome
      rw [hretried]
      rw [hreceived, Bool.or_eq_true] at hinitial
      rcases hinitial with hinitial | hinitial
      · exact hc.retry_first hinitial hsome
      · obtain ⟨h, hh, ht⟩ := List.any_eq_true.1 hinitial
        obtain ⟨-, hfrom⟩ := hsent h hh
        rw [beq_iff_eq.1 ht] at hfrom
        exact hfrom.2 hsome

/-! ## The count over a single connection -/

theorem miscounted_append : e.miscounted (past ++ [p]) =
    e.miscounted past + if (clientInitial? p).any e.isMiscounted then 1 else 0 := by
  simp only [miscounted, List.filterMap_append, List.countP_append]
  cases hp : clientInitial? p <;> simp [hp, List.countP_singleton]

/-- A datagram of the connection is counted as foreign exactly if it is miscounted. -/
theorem multiplexed_observe_eq (hd : Datagram.parse? p.payload = some d)
    (hforeign : ∀ h, clientInitial? p = some h → c.isForeign h = e.isMiscounted h)
    (hcount : c.multiplexed = min counterLimit (e.miscounted past)) :
    (c.observe d p).1.multiplexed = min counterLimit (e.miscounted (past ++ [p])) := by
  have hany : (clientInitial? p).any c.isForeign = (clientInitial? p).any e.isMiscounted := by
    cases hp : clientInitial? p with
    | none => rfl
    | some h => exact hforeign h hp
  rw [Connection.multiplexed_observe hd, hany, hcount, miscounted_append]
  split
  · omega
  · rfl

theorem mem_of_clientInitial? (hd : Datagram.parse? p.payload = some d)
    (hp : clientInitial? p = some h) : h ∈ d.packets ∧ h.type = .initial := by
  obtain ⟨-, d', hd', hh, ht⟩ := clientInitial?_eq_some_iff.1 hp
  rw [hd] at hd'
  cases hd'
  exact ⟨Datagram.mem_of_decisive? hh, ht⟩

/-- Every run of a single connection is observed, and its count is the number of Initials that are
miscounted. -/
theorem Exchange.exists_run? {packets : List Packet} (h : e.Exchange packets) :
    ∃ c, Plugin.quic.run? packets = some (.quic c) ∧ e.Recorded packets c ∧
      c.multiplexed = min counterLimit (e.miscounted packets) := by
  induction h with
  | @opening p d hudp hp hd hinitial hsent =>
    have hpackets : d.packets.isEmpty = false := by
      obtain ⟨h, hh, -⟩ := hinitial
      exact List.isEmpty_eq_false_iff_exists_mem.2 ⟨h, hh⟩
    have hrun : Plugin.quic.run? [p] = some (.quic (Connection.observe {} d p).1) := by
      rw [Plugin.run?, Plugin.start_quic hudp hd hpackets]
      rfl
    refine ⟨_, hrun, recorded_opening hp hinitial hsent, ?_⟩
    have hforeign : ∀ h, clientInitial? p = some h →
        Connection.isForeign {} h = e.isMiscounted h := by
      intro h hh
      obtain ⟨hmem, ht⟩ := mem_of_clientInitial? hd hh
      have hid := (hsent h hmem).destinationId_eq ht
      simp [Connection.isForeign, isMiscounted, hid]
    have hcount : (Connection.multiplexed {}) = min counterLimit (e.miscounted []) := rfl
    exact multiplexed_observe_eq hd hforeign hcount
  | client hpast hp hd hsent ih =>
    obtain ⟨c, hrun, hc, hcount⟩ := ih
    refine ⟨_, (Plugin.run?_append hrun _).trans (Plugin.take?_quic hd), hc.client hp hsent, ?_⟩
    refine multiplexed_observe_eq hd ?_ hcount
    intro h hh
    obtain ⟨hmem, ht⟩ := mem_of_clientInitial? hd hh
    exact hc.isForeign_eq (hsent h hmem) ht
  | server hpast hp hd hsent ih =>
    obtain ⟨c, hrun, hc, hcount⟩ := ih
    refine ⟨_, (Plugin.run?_append hrun _).trans (Plugin.take?_quic hd),
      hc.server hp hd hsent, ?_⟩
    refine multiplexed_observe_eq hd ?_ hcount
    intro h hh
    -- no Initial of the client comes from the server
    rw [(clientInitial?_eq_some_iff.1 hh).1] at hp
    cases hp

end Endpoints

end Quic

/-! ## The plugin of QUIC -/

namespace Plugin

open Quic (Connection Datagram Endpoints LongHeader clientInitial? counterLimit)

theorem multiplexed_le {packets : List Packet} {c : Connection}
    (h : quic.run? packets = some (.quic c)) : c.multiplexed ≤ counterLimit :=
  run?_quic_induct (P := fun _ c => c.multiplexed ≤ counterLimit) (Nat.zero_le _)
    (fun _ _ _ _ hd hc => Connection.multiplexed_observe_le hd hc) h

/-- **An Initial of the client leaves the count as it is exactly if it is the first one, goes to the
id that the client made up, or answers the Retry on record** (or the counter is at its limit). The
id that the server chose does not matter, so a single connection counts every Initial that its
client sends there. -/
theorem quic_multiplexed (packets : List Packet) :
    (∀ (c : Connection) (packet : Packet) (h : LongHeader),
      quic.run? packets = some (.quic c) → clientInitial? packet = some h →
      ∃ c', quic.take? (.quic c) packet = some (.quic c') ∧
        (c'.multiplexed = c.multiplexed ↔
          c.multiplexed = counterLimit ∨ c.clientVersion = none ∨ c.answersRetry h = true ∨
            c.originalServerId = some h.destinationId)) ∧
    (∀ e : Endpoints, e.Exchange packets →
      ∃ c, quic.run? packets = some (.quic c) ∧
        c.multiplexed = min counterLimit (e.miscounted packets)) := by
  constructor
  · intro c packet h hrun hinitial
    obtain ⟨-, d, hd, -, -⟩ := Quic.clientInitial?_eq_some_iff.1 hinitial
    refine ⟨_, take?_quic hd, ?_⟩
    have hle := multiplexed_le hrun
    rw [Connection.multiplexed_observe hd, hinitial, Option.any_some,
      ← Connection.isForeign_eq_false_iff]
    cases c.isForeign h with
    | false => simp
    | true =>
      simp only [if_true, Bool.true_eq_false, or_false]
      omega
  · intro e h
    obtain ⟨c, hrun, -, hcount⟩ := h.exists_run?
    exact ⟨c, hrun, hcount⟩

/-- The ids of a connection without a Retry. -/
def sampleEndpoints : Endpoints where
  client := ⟨[0xAA], by decide⟩
  original := ⟨[1, 2, 3, 4, 5, 6, 7, 8], by decide⟩
  retry := none
  server := ⟨[0xBB], by decide⟩
  original_length := by decide

/-- The first Initial of its client. -/
def firstInitial : Packet where
  ipProtocol := IpProtocol.udp
  payload := .ofBytes [0xC0, 0, 0, 0, 1, 8, 1, 2, 3, 4, 5, 6, 7, 8, 1, 0xAA, 0, 0]

/-- The Initial of the server that answers it. -/
def serverInitial : Packet where
  ipProtocol := IpProtocol.udp
  payload := .ofBytes [0xC0, 0, 0, 0, 1, 1, 0xAA, 1, 0xBB, 0, 0]
  direction := .serverToClient

/-- An Initial of the client to the id that the server chose. -/
def switchedInitial : Packet where
  ipProtocol := IpProtocol.udp
  payload := .ofBytes [0xC0, 0, 0, 0, 1, 1, 0xBB, 1, 0xAA, 0, 0]

/-- The Initial that a packet of the connection holds. -/
def sampleInitial (destination source : Quic.ConnectionId) : LongHeader where
  firstByte := ⟨0xC0⟩
  version := 1
  type := .initial
  destinationId := destination
  sourceId := source
  tokenLength := some 0
  payloadLength := some 0

theorem exchange_sample : sampleEndpoints.Exchange [firstInitial, serverInitial] := by
  have hfirst : Datagram.parse? firstInitial.payload =
      some ⟨[sampleInitial sampleEndpoints.original sampleEndpoints.client]⟩ := by
    decide +kernel
  have hserver : Datagram.parse? serverInitial.payload =
      some ⟨[sampleInitial sampleEndpoints.client sampleEndpoints.server]⟩ := by
    decide +kernel
  have hopening : sampleEndpoints.Exchange [firstInitial] := by
    refine .opening rfl rfl hfirst ⟨_, List.mem_singleton_self _, rfl⟩ fun h hh => ?_
    obtain rfl := List.mem_singleton.1 hh
    exact ⟨rfl, .inl rfl⟩
  refine hopening.server rfl hserver fun h hh => ?_
  obtain rfl := List.mem_singleton.1 hh
  exact ⟨rfl, rfl, fun hretry => nomatch hretry⟩

theorem exchange_sample_switched :
    sampleEndpoints.Exchange [firstInitial, serverInitial, switchedInitial] := by
  have hswitched : Datagram.parse? switchedInitial.payload =
      some ⟨[sampleInitial sampleEndpoints.server sampleEndpoints.client]⟩ := by
    decide +kernel
  refine exchange_sample.client rfl hswitched fun h hh => ?_
  obtain rfl := List.mem_singleton.1 hh
  exact ⟨rfl, .inr (.inr ⟨rfl, by decide +kernel⟩)⟩

/-- The connection that the two first datagrams come to. -/
def sampleConnection : Connection where
  version := some 1
  clientVersion := some 1
  tokenLength := some 0
  clientId := some sampleEndpoints.client
  originalServerId := some sampleEndpoints.original
  serverId := some sampleEndpoints.server
  serverPort := some 0
  packetTypes := [2, 2]

theorem run?_sample :
    quic.run? [firstInitial, serverInitial] = some (.quic sampleConnection) := by
  decide +kernel

/-- The first Initial of the client once more is not counted, and the connection shows none that is
foreign. -/
theorem quic_multiplexed_retransmitted :
    (∃ c', quic.take? (.quic sampleConnection) firstInitial = some (.quic c') ∧
      c'.multiplexed = 0) ∧
    ∃ c, quic.run? [firstInitial, serverInitial] = some (.quic c) ∧ c.multiplexed = 0 := by
  have hinitial : clientInitial? firstInitial =
      some (sampleInitial sampleEndpoints.original sampleEndpoints.client) := by
    decide +kernel
  obtain ⟨hinitials, hexchange⟩ := quic_multiplexed [firstInitial, serverInitial]
  obtain ⟨c', htake, hiff⟩ := hinitials _ _ _ run?_sample hinitial
  obtain ⟨c, hrun, hcount⟩ := hexchange _ exchange_sample
  refine ⟨⟨c', htake, hiff.2 (.inr (.inr (.inr rfl)))⟩, c, hrun, hcount.trans ?_⟩
  decide +kernel

/-- An Initial of the client to the id that the server chose is counted as foreign. -/
theorem quic_multiplexed_switched :
    (¬ ∀ (packets : List Packet) (c : Connection) (packet : Packet) (h : LongHeader),
      quic.run? packets = some (.quic c) → clientInitial? packet = some h →
      c.originalServerId = some h.destinationId ∨ c.serverId = some h.destinationId ∨
        c.answersRetry h = true →
      ∃ c', quic.take? (.quic c) packet = some (.quic c') ∧ c'.multiplexed = c.multiplexed) ∧
    ¬ ∀ (e : Endpoints) (packets : List Packet), e.Exchange packets →
      ∃ c, quic.run? packets = some (.quic c) ∧ c.multiplexed = 0 := by
  have htaken : quic.take? (.quic sampleConnection) switchedInitial =
      some (.quic { sampleConnection with multiplexed := 1, packetTypes := [2, 2, 2] }) := by
    decide +kernel
  constructor
  · intro hclaim
    have hinitial : clientInitial? switchedInitial =
        some (sampleInitial sampleEndpoints.server sampleEndpoints.client) := by
      decide +kernel
    obtain ⟨c', htake, hcount⟩ := hclaim _ _ _ _ run?_sample hinitial (.inr (.inl rfl))
    rw [htaken] at htake
    cases htake
    exact absurd hcount (by decide)
  · intro hclaim
    obtain ⟨c, hrun, hcount⟩ := hclaim _ _ exchange_sample_switched
    have hobserved : quic.run? [firstInitial, serverInitial, switchedInitial] =
        some (.quic { sampleConnection with multiplexed := 1, packetTypes := [2, 2, 2] }) :=
      (run?_append run?_sample switchedInitial).trans htaken
    rw [hobserved] at hrun
    cases hrun
    exact absurd hcount (by decide)

end Plugin

end Flowmeter
