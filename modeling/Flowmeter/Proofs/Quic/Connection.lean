import Flowmeter.Flow.Builtin
import Flowmeter.Proofs.Flow.Observing

/-!
# The datagrams of a connection

The observation of QUIC is a connection that has taken in one datagram after the other, the first of
them on top of nothing (`run?_quic_induct`). A client Initial that decides its datagram
(`clientInitial?`) is compared with the attempt that the connection has on record
(`Connection.attempt`), and nothing else changes how many foreign ones have been counted
(`Connection.multiplexed_observe`). Once the client has shown its version and an id for the server,
the attempt changes only with a Retry.
-/

namespace Flowmeter

namespace Quic

/-- An id that is known stays. -/
theorem learn_of_isSome {known : Option ConnectionId} (h : known.isSome = true)
    (id : ConnectionId) : learn known id = known := by
  obtain ⟨k, rfl⟩ := Option.isSome_iff_exists.1 h
  rfl

/-- The first id that is not empty is learned. -/
theorem learn_none {id : ConnectionId} (h : id.isEmpty = false) : learn none id = some id := by
  unfold learn
  rw [h]
  rfl

/-! ## The decisive packet -/

namespace Datagram

variable {d : Datagram} {h : LongHeader}

theorem mem_of_decisive? (hd : d.decisive? = some h) : h ∈ d.packets := by
  obtain ⟨t, -, hfirst⟩ := List.exists_of_findSome?_eq_some hd
  exact List.mem_of_find?_eq_some hfirst

/-- The only packet of a datagram decides it. -/
theorem decisive?_of_packets_eq (hd : d.packets = [h]) : d.decisive? = some h := by
  have hfirst (t : PacketType) : d.firstOf? t = if h.type = t then some h else none := by
    simp only [firstOf?, hd, List.find?_singleton, beq_iff_eq]
  cases ht : h.type <;> simp [decisive?, precedence, hfirst, ht]

/-- A datagram with an Initial is decided by one, unless it holds a version negotiation. -/
theorem exists_decisive?_of_initial (hd : ∀ h ∈ d.packets, h.type ≠ .versionNegotiation)
    (hinitial : ∃ h ∈ d.packets, h.type = .initial) :
    ∃ h, d.decisive? = some h ∧ h.type = .initial := by
  have hnegotiation : d.firstOf? .versionNegotiation = none := by
    refine List.find?_eq_none.2 fun h hh => ?_
    simpa using hd h hh
  obtain ⟨first, hfirst⟩ : ∃ first, d.firstOf? .initial = some first := by
    refine Option.isSome_iff_exists.1 (List.find?_isSome.2 ?_)
    obtain ⟨h, hh, ht⟩ := hinitial
    exact ⟨h, hh, by simpa using ht⟩
  refine ⟨first, ?_, ?_⟩
  · simp only [decisive?, precedence, List.findSome?_cons, hnegotiation, hfirst]
  · simpa using List.find?_some hfirst

end Datagram

/-- An Initial of the client that decides its datagram. -/
def clientInitial? (p : Packet) : Option LongHeader :=
  match p.direction with
  | .clientToServer =>
    ((Datagram.parse? p.payload).bind Datagram.decisive?).filter (·.type == .initial)
  | .serverToClient => none

/-- A packet of the client brings an Initial if that is what decides its datagram. -/
theorem clientInitial?_eq_some_iff {p : Packet} {h : LongHeader} :
    clientInitial? p = some h ↔ p.direction = .clientToServer ∧
      ∃ d, Datagram.parse? p.payload = some d ∧ d.decisive? = some h ∧ h.type = .initial := by
  unfold clientInitial?
  cases p.direction with
  | clientToServer =>
    simp only [Option.filter_eq_some_iff, Option.bind_eq_some_iff, beq_iff_eq, true_and]
    constructor
    · rintro ⟨⟨d, hd, hh⟩, ht⟩
      exact ⟨d, hd, hh, ht⟩
    · rintro ⟨d, hd, hh, ht⟩
      exact ⟨⟨d, hd, hh⟩, ht⟩
  | serverToClient => simp

/-! ## One datagram -/

namespace Connection

variable {c : Connection} {d : Datagram} {h : LongHeader} {p : Packet}

/-- A datagram is counted first, then its decisive packet is taken in. -/
theorem observe_of_decisive? (hd : d.decisive? = some h) :
    c.observe d p = (c.count d).observeDecisive h p := by
  simp only [observe, hd]

/-- A datagram without long header packets is only counted. -/
theorem observe_of_decisive?_eq_none (hd : d.decisive? = none) :
    c.observe d p = (c.count d, .more) := by
  simp only [observe, hd]

/-- No datagram that can be read drops a connection. -/
theorem snd_observe_ne_drop : (c.observe d p).2 ≠ .drop := by
  cases hd : d.decisive? with
  | none =>
    rw [observe_of_decisive?_eq_none hd]
    exact Verdict.noConfusion
  | some h =>
    rw [observe_of_decisive? hd]
    unfold observeDecisive
    cases h.type <;> cases p.direction <;> exact Verdict.noConfusion

/-- What a datagram counts for, whatever packet decides it. -/
theorem count_eq : c.count d =
    { c with
      packetTypes :=
        if c.packetTypes.length < maxRecordedDatagrams then c.packetTypes ++ [d.types]
        else c.packetTypes
      version := ((d.firstOf? .zeroRtt).map (·.version)).or c.version
      zeroRtt :=
        if (d.firstOf? .zeroRtt).isSome then min counterLimit (c.zeroRtt + d.zeroRttCount)
        else c.zeroRtt } := by
  unfold count
  cases d.firstOf? .zeroRtt <;> dsimp only <;> split <;> rfl

/-! ## The ways of taking in the decisive packet -/

/-- An Initial of the client is counted as foreign, or tells the length of its token, and with it
the version and the port unless it answers a Retry. -/
theorem observeClientInitial_cases {P : Connection → Prop} {port : UInt16}
    (foreign : c.isForeign h = true →
      P { c with multiplexed := min counterLimit (c.multiplexed + 1) })
    (answer : P { c.learnFromClient h with tokenLength := h.tokenLength.or c.tokenLength })
    (opening : P { c.learnFromClient h with
      tokenLength := h.tokenLength.or c.tokenLength
      clientVersion := c.clientVersion.or (some h.version)
      serverPort := c.serverPort.or (some port)
      version := some h.version }) : P (c.observeClientInitial h port) := by
  unfold observeClientInitial
  split
  · next hforeign => exact foreign hforeign
  · dsimp only
    split
    · exact answer
    · exact opening

/-- A packet other than an Initial or a Retry tells ids and nothing else. -/
theorem observeDecisive_cases {P : Connection → Prop}
    (ids : h.type ≠ .initial → h.type ≠ .retry → ∀ client original server,
      P { c with clientId := client, originalServerId := original, serverId := server })
    (retry : h.type = .retry → P (c.observeRetry h))
    (foreign : h.type = .initial → c.isForeign h = true →
      P { c with multiplexed := min counterLimit (c.multiplexed + 1) })
    (answer : h.type = .initial →
      P { c.learnFromClient h with tokenLength := h.tokenLength.or c.tokenLength })
    (opening : h.type = .initial → P { c.learnFromClient h with
      tokenLength := h.tokenLength.or c.tokenLength
      clientVersion := c.clientVersion.or (some h.version)
      serverPort := c.serverPort.or (some p.serverPort)
      version := some h.version })
    (server : h.type = .initial → P (c.observeServerInitial h)) :
    P (c.observeDecisive h p).1 := by
  unfold observeDecisive
  cases ht : h.type with
  | initial =>
    cases p.direction with
    | clientToServer => exact observeClientInitial_cases (foreign ht) (answer ht) (opening ht)
    | serverToClient => exact server ht
  | handshake =>
    cases p.direction <;> exact ids (by rw [ht]; decide) (by rw [ht]; decide) _ _ _
  | retry => exact retry ht
  | versionNegotiation | zeroRtt => exact ids (by rw [ht]; decide) (by rw [ht]; decide) _ _ _

/-! ## Retries -/

/-- The first Retry tells the id that it hands out, and that of the client. -/
theorem observeRetry_of_first (hc : c.retries = 0) : c.observeRetry h =
    { c with
      retries := 1
      retryId := learn none h.sourceId
      clientId := learn c.clientId h.destinationId } := by
  have hcount : min counterLimit (c.retries + 1) = 1 := by
    rw [hc]
    rfl
  simp only [observeRetry, hcount, ↓reduceIte]

/-- The counter stands still well above one, so that no later Retry is taken for the first. -/
theorem observeRetry_of_later (hc : c.retries ≠ 0) :
    c.observeRetry h = { c with retries := min counterLimit (c.retries + 1) } := by
  have hcount : min counterLimit (c.retries + 1) ≠ 1 := by
    have hlimit : counterLimit = 255 := rfl
    omega
  simp only [observeRetry, hcount, ↓reduceIte]

/-! ## What an Initial of the client is compared with -/

/-- The part of a connection that an Initial of the client is compared with, and whether a Retry
has been taken in. -/
def attempt (c : Connection) : Connection where
  clientVersion := c.clientVersion
  originalServerId := c.originalServerId
  retryId := c.retryId
  retries := min 1 c.retries

/-- An Initial is the connection's own if it is the first one, answers a Retry or repeats the id of
the first one. -/
theorem isForeign_eq_false_iff : c.isForeign h = false ↔ c.clientVersion = none ∨
    c.answersRetry h = true ∨ c.originalServerId = some h.destinationId := by
  unfold isForeign
  cases c.clientVersion <;> cases c.answersRetry h <;> simp

/-- Whether an Initial is foreign depends on the attempt alone. -/
theorem isForeign_congr {c' : Connection} (hc : c.attempt = c'.attempt) :
    c.isForeign h = c'.isForeign h :=
  (congrArg (isForeign · h) hc :)

@[simp] theorem attempt_count : (c.count d).attempt = c.attempt := by
  rw [count_eq]
  rfl

@[simp] theorem retries_count : (c.count d).retries = c.retries := by
  rw [count_eq]

/-- Ids of the client leave the attempt as it is, once the id for the server is known. -/
theorem attempt_learnFromClient (hid : c.originalServerId.isSome = true) :
    (c.learnFromClient h).attempt = c.attempt := by
  simp only [attempt, learnFromClient, learn_of_isSome hid]

/-- So does an Initial, once the version is known too. -/
theorem attempt_observeClientInitial {port : UInt16} (hversion : c.clientVersion.isSome = true)
    (hid : c.originalServerId.isSome = true) :
    (c.observeClientInitial h port).attempt = c.attempt := by
  obtain ⟨version, hversion⟩ := Option.isSome_iff_exists.1 hversion
  unfold observeClientInitial
  split
  · rfl
  · dsimp only
    split <;> simp [attempt, learnFromClient, learn_of_isSome hid, hversion]

/-- Once the client has shown its version and an id for the server, the attempt changes only with a
Retry. -/
theorem attempt_observe (hversion : c.clientVersion.isSome = true)
    (hid : c.originalServerId.isSome = true)
    (hretry : ∀ h, d.decisive? = some h → h.type ≠ .retry) :
    (c.observe d p).1.attempt = c.attempt := by
  cases hd : d.decisive? with
  | none => rw [observe_of_decisive?_eq_none hd, attempt_count]
  | some h =>
    have hcount : (c.count d).attempt = c.attempt := attempt_count
    have hversion' : (c.count d).clientVersion.isSome = true :=
      (congrArg (·.clientVersion.isSome) hcount).trans hversion
    have hid' : (c.count d).originalServerId.isSome = true :=
      (congrArg (·.originalServerId.isSome) hcount).trans hid
    rw [observe_of_decisive? hd, ← hcount]
    unfold observeDecisive
    cases ht : h.type with
    | versionNegotiation => rfl
    | initial =>
      cases p.direction with
      | clientToServer => exact attempt_observeClientInitial hversion' hid'
      | serverToClient => rfl
    | handshake =>
      cases p.direction with
      | clientToServer => exact attempt_learnFromClient hid'
      | serverToClient => rfl
    | retry => exact absurd ht (hretry h hd)
    | zeroRtt => rfl

/-- The first Initial of the client is what the attempt begins with. -/
theorem attempt_observe_of_initial (hc : c.attempt = {}) (hp : p.direction = .clientToServer)
    (hd : d.decisive? = some h) (ht : h.type = .initial) (hid : h.destinationId.isEmpty = false) :
    (c.observe d p).1.attempt =
      { clientVersion := some h.version, originalServerId := some h.destinationId } := by
  rw [observe_of_decisive? hd]
  have hcount : (c.count d).attempt = {} := attempt_count.trans hc
  generalize c.count d = counted at hcount ⊢
  have hversion : counted.clientVersion = none := (congrArg clientVersion hcount :)
  have hforeign : counted.isForeign h = false := isForeign_eq_false_iff.2 (.inl hversion)
  have hserver : counted.originalServerId = none := (congrArg originalServerId hcount :)
  have hretryId : counted.retryId = none := (congrArg retryId hcount :)
  have hretries : min 1 counted.retries = 0 := (congrArg retries hcount :)
  have hanswers : counted.answersRetry h = false := by simp [answersRetry, hretryId]
  simp [observeDecisive, ht, hp, observeClientInitial, hforeign, hanswers, attempt,
    learnFromClient, hversion, hserver, hretryId, hretries, learn_none hid]

/-- The first Retry is recorded in the attempt, and later ones are not. -/
theorem attempt_observe_of_retry (hd : d.decisive? = some h) (ht : h.type = .retry) :
    (c.observe d p).1.attempt = if c.retries = 0 then
      { c.attempt with retries := 1, retryId := learn none h.sourceId } else c.attempt := by
  have hcount : (c.count d).attempt = c.attempt := attempt_count
  rw [observe_of_decisive? hd, ← hcount, ← retries_count (d := d)]
  generalize c.count d = counted
  simp only [observeDecisive, ht]
  by_cases hfirst : counted.retries = 0
  · rw [observeRetry_of_first hfirst, if_pos hfirst]
    rfl
  · have hretries : min 1 (min counterLimit (counted.retries + 1)) = min 1 counted.retries := by
      have hlimit : counterLimit = 255 := rfl
      omega
    rw [observeRetry_of_later hfirst, if_neg hfirst]
    simp only [attempt, hretries]

/-! ## The count of foreign Initials -/

@[simp] theorem multiplexed_count : (c.count d).multiplexed = c.multiplexed := by
  rw [count_eq]

/-- Only a foreign Initial is counted. -/
theorem multiplexed_observeClientInitial {port : UInt16} :
    (c.observeClientInitial h port).multiplexed =
      if c.isForeign h then min counterLimit (c.multiplexed + 1) else c.multiplexed := by
  unfold observeClientInitial
  split
  · rfl
  · dsimp only
    split <;> rfl

theorem multiplexed_observeRetry : (c.observeRetry h).multiplexed = c.multiplexed := by
  unfold observeRetry
  dsimp only
  split <;> rfl

/-- Of all packets, only a foreign Initial of the client is counted. -/
theorem multiplexed_observeDecisive : (c.observeDecisive h p).1.multiplexed =
    if p.direction = .clientToServer ∧ h.type = .initial ∧ c.isForeign h = true then
      min counterLimit (c.multiplexed + 1)
    else c.multiplexed := by
  unfold observeDecisive
  cases h.type with
  | initial =>
    cases p.direction with
    | clientToServer => simp [multiplexed_observeClientInitial]
    | serverToClient => simp [observeServerInitial, learnFromServer]
  | handshake => cases p.direction <;> simp [learnIds, learnFromClient, learnFromServer]
  | retry => simp [multiplexed_observeRetry]
  | versionNegotiation | zeroRtt => simp [learnFromServer]

/-- A datagram adds to the count of foreign Initials exactly if a foreign one decides it. -/
theorem multiplexed_observe (hp : Datagram.parse? p.payload = some d) :
    (c.observe d p).1.multiplexed =
      if (clientInitial? p).any c.isForeign then min counterLimit (c.multiplexed + 1)
      else c.multiplexed := by
  cases hd : d.decisive? with
  | none =>
    have hinitial : clientInitial? p = none := by
      unfold clientInitial?
      cases p.direction <;> simp [hp, hd]
    rw [observe_of_decisive?_eq_none hd, hinitial, multiplexed_count]
    rfl
  | some h =>
    have hinitial : clientInitial? p =
        if p.direction = .clientToServer ∧ h.type = .initial then some h else none := by
      unfold clientInitial?
      cases p.direction <;> simp [hp, hd, Option.filter_some]
    have hforeign : (c.count d).isForeign h = c.isForeign h := isForeign_congr attempt_count
    rw [observe_of_decisive? hd, hinitial, multiplexed_observeDecisive, hforeign,
      multiplexed_count]
    by_cases hclient : p.direction = .clientToServer ∧ h.type = .initial <;>
      simp [hclient, ← and_assoc]

/-- The count stays within one octet. -/
theorem multiplexed_observe_le (hp : Datagram.parse? p.payload = some d)
    (hc : c.multiplexed ≤ counterLimit) : (c.observe d p).1.multiplexed ≤ counterLimit := by
  rw [multiplexed_observe hp]
  split
  · exact Nat.min_le_left _ _
  · exact hc

end Connection

end Quic

/-! ## The plugin of QUIC -/

namespace Plugin

open Quic (Connection Datagram)

variable {packet : Packet} {packets : List Packet} {o : Observation} {c : Connection} {d : Datagram}

/-- QUIC begins with a datagram that holds a long header packet, on top of nothing. -/
theorem start_quic (hudp : packet.isUdp = true) (hd : Datagram.parse? packet.payload = some d)
    (hpackets : d.packets.isEmpty = false) :
    (quic.start packet).observation? = some (.quic (Connection.observe {} d packet).1) := by
  simp only [quic, hudp, hd, hpackets, Bool.false_eq_true, ↓reduceIte]
  generalize Connection.observe {} d packet = taken
  obtain ⟨c, verdict⟩ := taken
  cases verdict <;> rfl

/-- A connection begins with a datagram on top of nothing. -/
theorem start_quic_cases (h : (quic.start packet).observation? = some o) :
    ∃ d, Datagram.parse? packet.payload = some d ∧
      o = .quic (Connection.observe {} d packet).1 := by
  simp only [quic] at h
  split at h
  · split at h
    · next d hd =>
      split at h
      · cases h
      · refine ⟨d, hd, ?_⟩
        generalize Connection.observe {} d packet = taken at h ⊢
        obtain ⟨c, verdict⟩ := taken
        cases verdict <;> cases h <;> rfl
    · cases h
  · cases h

/-- A datagram that can be read is always taken in. -/
theorem take?_quic (hd : Datagram.parse? packet.payload = some d) :
    quic.take? (.quic c) packet = some (.quic (c.observe d packet).1) := by
  have hupdate : quic.update packet (.quic c) =
      (.quic (c.observe d packet).1, (c.observe d packet).2) := by
    simp only [quic, hd]
  exact take?_of_update hupdate Connection.snd_observe_ne_drop

theorem take?_quic_cases (h : quic.take? (.quic c) packet = some o) :
    ∃ d, Datagram.parse? packet.payload = some d ∧ o = .quic (c.observe d packet).1 := by
  cases hd : Datagram.parse? packet.payload with
  | none => simp [take?, quic, hd] at h
  | some d =>
    rw [take?_quic hd] at h
    cases h
    exact ⟨d, rfl, rfl⟩

/-- What holds of the connection that has taken in nothing, and is kept by every datagram, holds of
every connection; and QUIC observes nothing but connections. -/
theorem exists_connection_of_run? {P : List Packet → Connection → Prop} (hnil : P [] {})
    (hobserve : ∀ packets c packet d, Datagram.parse? packet.payload = some d → P packets c →
      P (packets ++ [packet]) (c.observe d packet).1)
    (h : quic.run? packets = some o) : ∃ c, o = .quic c ∧ P packets c := by
  refine run?_induct (P := fun packets o => ∃ c, o = .quic c ∧ P packets c) ?_ ?_ h
  · intro packet o hstart
    obtain ⟨d, hd, rfl⟩ := start_quic_cases hstart
    exact ⟨_, rfl, hobserve [] {} packet d hd hnil⟩
  · rintro past _ packet o' ⟨c, rfl, hc⟩ htake
    obtain ⟨d, hd, rfl⟩ := take?_quic_cases htake
    exact ⟨_, rfl, hobserve past c packet d hd hc⟩

/-- The same for a run that has come to a known connection. -/
theorem run?_quic_induct {P : List Packet → Connection → Prop} (hnil : P [] {})
    (hobserve : ∀ packets c packet d, Datagram.parse? packet.payload = some d → P packets c →
      P (packets ++ [packet]) (c.observe d packet).1)
    (h : quic.run? packets = some (.quic c)) : P packets c := by
  obtain ⟨c', hc, hc'⟩ := exists_connection_of_run? hnil hobserve h
  cases hc
  exact hc'

end Plugin

end Flowmeter
