import Flowmeter.Proofs.Quic.Coalescing
import Flowmeter.Proofs.Quic.Connection

/-!
# What a connection counts

A datagram is counted before the packet that decides it is looked at, so no outcome of that packet
takes it out of the count. The types of the first datagrams are recorded one after the other; the
counter of 0-RTT packets stands still at its limit, once for each datagram and once for the flow,
which comes to one limit on the total (`Connection.Counts`). The version on record is that of an
Initial or of a 0-RTT packet.
-/

namespace Flowmeter

namespace Quic

theorem PacketType.exists_testBit_bit (t : PacketType) :
    ∃ i, t.bit.toNat.testBit i = true := by
  cases t with
  | versionNegotiation => exact ⟨0, by decide⟩
  | initial => exact ⟨1, by decide⟩
  | zeroRtt => exact ⟨2, by decide⟩
  | handshake => exact ⟨3, by decide⟩
  | retry => exact ⟨4, by decide⟩

/-- Only a datagram without long header packets has an empty set of types. -/
theorem Datagram.types_eq_zero_iff {d : Datagram} : d.types = 0 ↔ d.packets = [] := by
  constructor
  · intro htypes
    refine List.eq_nil_iff_forall_not_mem.2 fun h hh => ?_
    obtain ⟨i, hi⟩ := h.type.exists_testBit_bit
    have hbit := (testBit_types d i).2 ⟨h, hh, hi⟩
    rw [htypes, UInt8.toNat_zero, Nat.zero_testBit] at hbit
    cases hbit
  · intro hnil
    rw [types, hnil]
    rfl

/-- The 0-RTT packets of some datagrams. -/
def zeroRttPackets (ds : List Datagram) : Nat :=
  (ds.flatMap (·.packets)).countP (·.type == .zeroRtt)

theorem zeroRttPackets_append_singleton (ds : List Datagram) (d : Datagram) :
    zeroRttPackets (ds ++ [d]) =
      zeroRttPackets ds + d.packets.countP (·.type == .zeroRtt) := by
  simp [zeroRttPackets, List.flatMap_append, List.countP_append]

namespace Connection

variable {c : Connection} {d : Datagram} {h : LongHeader} {p : Packet} {ds : List Datagram}

/-- What the datagrams of a run come to. -/
structure Counts (ds : List Datagram) (c : Connection) : Prop where
  packetTypes : c.packetTypes = (ds.take maxRecordedDatagrams).map Datagram.types
  zeroRtt : c.zeroRtt = min counterLimit (zeroRttPackets ds)
  version : ∀ version, c.version = some version → ∃ d ∈ ds, ∃ h ∈ d.packets,
    (h.type = .initial ∨ h.type = .zeroRtt) ∧ h.version = version

/-! ## The decisive packet -/

theorem counted_observeRetry : (c.observeRetry h).version = c.version ∧
    (c.observeRetry h).packetTypes = c.packetTypes ∧ (c.observeRetry h).zeroRtt = c.zeroRtt := by
  unfold observeRetry
  dsimp only
  split <;> exact ⟨rfl, rfl, rfl⟩

/-- No packet that decides a datagram changes what was counted of it. -/
theorem counted_observeDecisive : (c.observeDecisive h p).1.packetTypes = c.packetTypes ∧
    (c.observeDecisive h p).1.zeroRtt = c.zeroRtt :=
  observeDecisive_cases (P := fun c' => c'.packetTypes = c.packetTypes ∧ c'.zeroRtt = c.zeroRtt)
    (fun _ _ _ _ _ => ⟨rfl, rfl⟩) (fun _ => counted_observeRetry.2) (fun _ _ => ⟨rfl, rfl⟩)
    (fun _ => ⟨rfl, rfl⟩) (fun _ => ⟨rfl, rfl⟩) (fun _ => ⟨rfl, rfl⟩)

/-- The packet that decides a datagram leaves the version as it is, or is an Initial and brings its
own. -/
theorem version_observeDecisive : (c.observeDecisive h p).1.version = c.version ∨
    h.type = .initial ∧ (c.observeDecisive h p).1.version = some h.version :=
  observeDecisive_cases
    (P := fun c' => c'.version = c.version ∨ h.type = .initial ∧ c'.version = some h.version)
    (fun _ _ _ _ _ => .inl rfl) (fun _ => .inl counted_observeRetry.1) (fun _ _ => .inl rfl)
    (fun _ => .inl rfl) (fun hi => .inr ⟨hi, rfl⟩) (fun hi => .inr ⟨hi, rfl⟩)

/-! ## One datagram -/

/-- The types of one more datagram are recorded while there is room for them. -/
theorem Counts.packetTypes_count (hc : Counts ds c) : (c.count d).packetTypes =
    ((ds ++ [d]).take maxRecordedDatagrams).map Datagram.types := by
  have hlength : c.packetTypes.length = min maxRecordedDatagrams ds.length := by
    rw [hc.packetTypes, List.length_map, List.length_take]
  rw [count_eq]
  dsimp only
  split
  · have hlt : ds.length < maxRecordedDatagrams := by omega
    rw [hc.packetTypes, List.take_of_length_le (Nat.le_of_lt hlt), List.take_of_length_le]
    · rw [List.map_append, List.map_singleton]
    · rw [List.length_append, List.length_singleton]
      exact hlt
  · have hle : maxRecordedDatagrams ≤ ds.length := by omega
    rw [hc.packetTypes, List.take_append_of_le_length hle]

theorem Counts.zeroRtt_count (hc : Counts ds c) :
    (c.count d).zeroRtt = min counterLimit (zeroRttPackets (ds ++ [d])) := by
  have hzero := hc.zeroRtt
  rw [zeroRttPackets_append_singleton, count_eq]
  dsimp only
  split
  · -- the datagram and the flow saturate at the same limit
    rw [Datagram.zeroRttCount_eq]
    omega
  · next hnone =>
    have hcount : d.packets.countP (·.type == .zeroRtt) = 0 := by
      rw [List.countP_eq_zero]
      simpa [Datagram.firstOf?] using hnone
    rw [hcount]
    exact hzero

/-- A version on record was brought by a packet that had it. -/
theorem Counts.version_count (hc : Counts ds c) {version : UInt32}
    (hv : (c.count d).version = some version) : ∃ d' ∈ ds ++ [d], ∃ h ∈ d'.packets,
      (h.type = .initial ∨ h.type = .zeroRtt) ∧ h.version = version := by
  rw [count_eq] at hv
  dsimp only at hv
  cases hfirst : d.firstOf? .zeroRtt with
  | some h =>
    rw [hfirst] at hv
    cases hv
    have htype : h.type = .zeroRtt := by simpa using List.find?_some hfirst
    exact ⟨d, List.mem_append_right _ (List.mem_singleton_self d), h,
      List.mem_of_find?_eq_some hfirst, .inr htype, rfl⟩
  | none =>
    rw [hfirst] at hv
    obtain ⟨d', hd', hversion⟩ := hc.version version hv
    exact ⟨d', List.mem_append_left _ hd', hversion⟩

/-- One more datagram counts for what it holds. -/
theorem Counts.observe (hc : Counts ds c) : Counts (ds ++ [d]) (c.observe d p).1 := by
  cases hd : d.decisive? with
  | none =>
    rw [observe_of_decisive?_eq_none hd]
    exact ⟨hc.packetTypes_count, hc.zeroRtt_count, fun _ hv => hc.version_count hv⟩
  | some h =>
    obtain ⟨htypes, hzero⟩ := counted_observeDecisive (c := c.count d) (h := h) (p := p)
    rw [observe_of_decisive? hd]
    refine ⟨htypes.trans hc.packetTypes_count, hzero.trans hc.zeroRtt_count, fun version hv => ?_⟩
    rcases version_observeDecisive (c := c.count d) (h := h) (p := p) with hsame | ⟨ht, hown⟩
    · exact hc.version_count (hsame.symm.trans hv)
    · rw [hown] at hv
      cases hv
      exact ⟨d, List.mem_append_right _ (List.mem_singleton_self d), h,
        Datagram.mem_of_decisive? hd, .inl ht, rfl⟩

end Connection

end Quic

/-! ## The plugin of QUIC -/

namespace Plugin

open Quic (Connection Datagram)

/-- **The counts of a flow are exact.** The sets of types of the first thirty datagrams are recorded
in order, also those of datagrams that a version negotiation or a foreign Initial decides, or no
long header packet at all. The counter of 0-RTT packets is their number in all datagrams, up to 255.
A version on record is that of an Initial or 0-RTT packet of the run. -/
theorem quic_run_counts (packets : List Packet) (o : Observation)
    (h : quic.run? packets = some o) :
    ∃ (c : Connection) (ds : List Datagram), o = .quic c ∧
      packets.map (fun p => Datagram.parse? p.payload) = ds.map some ∧
      c.packetTypes = (ds.take 30).map Datagram.types ∧
      (∀ d ∈ ds, (d.types = 0 ↔ d.packets = []) ∧ ∀ i, d.types.toNat.testBit i = true ↔
        ∃ h ∈ d.packets, h.type.bit.toNat.testBit i = true) ∧
      c.zeroRtt = min 255 ((ds.flatMap (·.packets)).countP (·.type == .zeroRtt)) ∧
      ∀ version, c.version = some version → ∃ d ∈ ds, ∃ h ∈ d.packets,
        (h.type = .initial ∨ h.type = .zeroRtt) ∧ h.version = version := by
  obtain ⟨c, rfl, ds, hds, hc⟩ := exists_connection_of_run?
    (P := fun packets c => ∃ ds : List Datagram,
      packets.map (fun p => Datagram.parse? p.payload) = ds.map some ∧ Connection.Counts ds c)
    ⟨[], rfl, rfl, rfl, fun _ hv => nomatch hv⟩
    (by
      rintro packets c packet d hd ⟨ds, hds, hc⟩
      refine ⟨ds ++ [d], ?_, hc.observe⟩
      rw [List.map_append, List.map_append, hds, List.map_singleton, hd]
      rfl) h
  exact ⟨c, ds, rfl, hds, hc.packetTypes,
    fun d _ => ⟨Datagram.types_eq_zero_iff, Datagram.testBit_types d⟩, hc.zeroRtt, hc.version⟩

/-- Nine 0-RTT packets without ids and payload. -/
def earlyData : Packet where
  ipProtocol := IpProtocol.udp
  payload := .ofBytes (List.replicate 9 [0xD0, 0, 0, 0, 1, 0, 0, 0]).flatten

/-- Datagrams and 0-RTT packets beyond both limits. -/
theorem quic_run_counts_limits :
    ∃ (c : Connection) (ds : List Datagram),
      quic.run? (List.replicate 31 earlyData) = some (.quic c) ∧ ds.length = 31 ∧
      c.packetTypes = (ds.take 30).map Datagram.types ∧ c.packetTypes = List.replicate 30 4 ∧
      255 ≤ (ds.flatMap (·.packets)).countP (·.type == .zeroRtt) ∧ c.zeroRtt = 255 := by
  have hrun : quic.run? (List.replicate 31 earlyData) = some (.quic
      { version := some 1, zeroRtt := 255, packetTypes := List.replicate 30 4 }) := by
    decide +kernel
  obtain ⟨c, ds, heq, hds, htypes, -, hzero, -⟩ := quic_run_counts _ _ hrun
  cases heq
  have hlength : ds.length = 31 := by
    have hmap := congrArg List.length hds
    rw [List.length_map, List.length_map, List.length_replicate] at hmap
    exact hmap.symm
  dsimp only at hzero
  exact ⟨_, ds, hrun, hlength, htypes, rfl, by omega, rfl⟩

end Plugin

end Flowmeter
