import Flowmeter.Mqtt.Session

/-!
# What a session keeps

A session marks the type of every control packet before it looks at the packet, a CONNACK can mark
bit 0 besides (`hasSeen_observe_iff`), and no packet takes a mark away. Version, connection flags
and keep alive time are written together, by a CONNECT that can be read, and by nothing else
(`isConnected_observe_iff`). So a session is connected exactly if a CONNECT is among the packets it
has taken in, wherever it stands among them (`isConnected_observeAll_iff`).
-/

namespace Flowmeter.Mqtt

/-! ## Packet types -/

namespace FixedHeader

variable {h : FixedHeader}

def typeBit (h : FixedHeader) : UInt16 :=
  1 <<< h.typeCode.toUInt16

theorem typeCode_lt : h.typeCode.toNat < 16 := by
  have hlt : h.octet.toNat < 256 := h.octet.toNat_lt
  have hcode : h.typeCode.toNat = h.octet.toNat / 16 := by
    simp [typeCode, Nat.shiftRight_eq_div_pow]
  omega

/-- The bit of a packet is that of its type code. -/
theorem testBit_typeBit (n : Nat) :
    h.typeBit.toNat.testBit n = decide (h.typeCode.toNat = n) := by
  have hlt : h.typeCode.toNat < 16 := typeCode_lt
  have hpow : 2 ^ h.typeCode.toNat < 2 ^ 16 := Nat.pow_lt_pow_right (by decide) hlt
  have hbit : h.typeBit.toNat = 2 ^ h.typeCode.toNat := by
    rw [typeBit, UInt16.toNat_shiftLeft, UInt8.toNat_toUInt16, Nat.mod_eq_of_lt hlt,
      Nat.shiftLeft_eq]
    simpa using Nat.mod_eq_of_lt hpow
  rw [hbit, Nat.testBit_two_pow]

theorem ofCode_eq_connect_iff :
    ∀ code : Fin 16, PacketType.ofCode code = .connect ↔ code.val = 1 := by
  decide

theorem type_eq_connect_iff : h.type = .connect ↔ h.typeCode.toNat = 1 :=
  ofCode_eq_connect_iff ⟨h.typeCode.toNat, typeCode_lt⟩

end FixedHeader

/-! ## CONNECT -/

/-- A CONNECT that can be read has a supported protocol level. -/
theorem Connect.supports_version {body rest : View} {c : Connect}
    (h : Connect.decoder body = .ok (c, rest)) : c.version = 4 ∨ c.version = 5 := by
  -- what is read before the version, then its octet
  obtain ⟨_, _, -, h⟩ := Decoder.bind_eq_ok.1 h
  obtain ⟨_, _, -, h⟩ := Decoder.bind_eq_ok.1 h
  obtain ⟨_, _, -, h⟩ := Decoder.bind_eq_ok.1 h
  obtain ⟨_, _, -, h⟩ := Decoder.bind_eq_ok.1 h
  obtain ⟨version, _, -, h⟩ := Decoder.bind_eq_ok.1 h
  obtain ⟨_, _, hversion, h⟩ := Decoder.bind_eq_ok.1 h
  obtain ⟨hsupports, -⟩ := Decoder.require_eq_ok.1 hversion
  -- what is read after it
  obtain ⟨_, _, -, h⟩ := Decoder.bind_eq_ok.1 h
  obtain ⟨_, _, -, h⟩ := Decoder.bind_eq_ok.1 h
  cases h
  simpa only [supports, Bool.or_eq_true, beq_iff_eq] using hsupports

/-! ## CONNACK -/

namespace ConnAck

/-- Whether the octets start with two whose first one reports a session that was present. -/
def IsPresent (octets : Octets) : Prop :=
  ∃ flags code rest, octets = flags :: code :: rest ∧ flags.toNat.testBit 0 = true

theorem isPresent_cons_cons {flags code : UInt8} {rest : Octets} :
    IsPresent (flags :: code :: rest) ↔ flags.toNat.testBit 0 = true := by
  constructor
  · rintro ⟨_, _, _, hoctets, hbit⟩
    cases hoctets
    exact hbit
  · intro hbit
    exact ⟨flags, code, rest, rfl, hbit⟩

theorem not_isPresent_of_length_lt {octets : Octets} (h : octets.length < 2) :
    ¬ IsPresent octets := by
  rintro ⟨flags, code, rest, rfl, -⟩
  exact Nat.not_lt.2 (Nat.le_add_left 2 rest.length) h

/-- The session present flag is the least significant bit. -/
theorem and_one_bne_zero (b : UInt8) : (b &&& 0x01 != 0) = b.toNat.testBit 0 := by
  have hand : (b &&& 0x01).toNat = b.toNat % 2 := Nat.and_one_is_mod b.toNat
  rw [Nat.testBit_zero, ← hand, Bool.eq_iff_iff, bne_iff_ne, decide_eq_true_iff, ne_eq,
    ← UInt8.toNat_inj, UInt8.toNat_zero]
  omega

/-- The variable header takes two octets. -/
theorem decoder_cases (body : View) :
    (∃ flags code rest, body.bytes = flags :: code :: rest ∧
      ∃ after, decoder body = .ok (⟨flags.toNat.testBit 0, code⟩, after)) ∨
    body.bytes.length < 2 ∧ ∃ e, decoder body = .error e := by
  obtain ⟨offset, bytes⟩ := body
  match bytes with
  | [] => exact .inr ⟨Nat.zero_lt_two, _, rfl⟩
  | [_] => exact .inr ⟨Nat.one_lt_two, _, rfl⟩
  | flags :: code :: rest =>
    refine .inl ⟨flags, code, rest, rfl, ⟨offset + 1 + 1, rest⟩, ?_⟩
    rw [← and_one_bne_zero]
    rfl

end ConnAck

namespace ControlPacket

variable {p : ControlPacket}

/-- A CONNACK that can be read and reports a session that was present. -/
def ReportsSession (p : ControlPacket) : Prop :=
  p.header.type = .connAck ∧ ConnAck.IsPresent p.body.bytes

/-- The bits that a control packet sets: that of its type, and bit 0 if it reports a session. -/
def Sets (p : ControlPacket) (n : Nat) : Prop :=
  p.header.typeCode.toNat = n ∨ n = 0 ∧ p.ReportsSession

/-- Only bit 0 can be set by anything but a type. -/
theorem sets_iff_of_ne_zero {n : Nat} (hn : n ≠ 0) :
    p.Sets n ↔ p.header.typeCode.toNat = n :=
  or_iff_left fun h => hn h.1

end ControlPacket

namespace Session

variable {s : Session} {p : ControlPacket} {limit : Nat}

/-! ## The types seen -/

/-- Whether the bit of a packet type is set. -/
def hasSeen (s : Session) (code : Nat) : Bool :=
  (s.typesSeen.getD 0).toNat.testBit code

theorem hasSeen_congr {s s' : Session} (h : s.typesSeen = s'.typesSeen) (n : Nat) :
    s.hasSeen n = s'.hasSeen n := by
  rw [hasSeen, hasSeen, h]

/-- A mark adds bits and takes none away. -/
theorem hasSeen_mark (bits : UInt16) (n : Nat) :
    (s.mark bits).hasSeen n = (s.hasSeen n || bits.toNat.testBit n) := by
  simp only [hasSeen, mark, Option.getD_some, UInt16.toNat_or, Nat.testBit_or]

/-- What a CONNECT says is no matter of the types seen. -/
theorem typesSeen_observeConnect (body : View) :
    (s.observeConnect body).1.typesSeen = s.typesSeen := by
  unfold observeConnect
  split <;> rfl

theorem typesSeen_observePublish (flags : UInt8) (body : View) :
    (s.observePublish limit flags body).1.typesSeen = s.typesSeen := by
  unfold observePublish
  repeat' split
  all_goals rfl

/-- A CONNACK sets bit 0 if it can be read and reports a session. -/
theorem hasSeen_observeConnAck (body : View) (n : Nat) :
    (s.observeConnAck body).1.hasSeen n = true ↔
      s.hasSeen n = true ∨ n = 0 ∧ ConnAck.IsPresent body.bytes := by
  have hone : (1 : UInt16).toNat.testBit n = true ↔ n = 0 :=
    Nat.testBit_one_eq_true_iff_self_eq_zero
  rcases ConnAck.decoder_cases body with
    ⟨flags, code, rest, hbody, after, hread⟩ | ⟨hshort, _, hread⟩
  · have hpresent : ConnAck.IsPresent body.bytes ↔ flags.toNat.testBit 0 = true := by
      rw [hbody]
      exact ConnAck.isPresent_cons_cons
    simp only [observeConnAck, hread]
    change (s.mark (if flags.toNat.testBit 0 then 1 else 0)).hasSeen n = true ↔ _
    rw [hasSeen_mark, Bool.or_eq_true, hpresent]
    refine or_congr Iff.rfl ?_
    cases flags.toNat.testBit 0 with
    | true => exact hone.trans (and_iff_left rfl).symm
    | false => simp
  · have habsent : ¬ ConnAck.IsPresent body.bytes := ConnAck.not_isPresent_of_length_lt hshort
    simp only [observeConnAck, hread, habsent, and_false, or_false]

/-- A control packet sets its bits, whatever comes of it. -/
theorem hasSeen_observe_iff (n : Nat) :
    (observe limit s p).1.hasSeen n = true ↔ s.hasSeen n = true ∨ p.Sets n := by
  have hmark : (s.mark (1 <<< p.header.typeCode.toUInt16)).hasSeen n = true ↔
      s.hasSeen n = true ∨ p.header.typeCode.toNat = n := by
    rw [hasSeen_mark, Bool.or_eq_true]
    exact or_congr Iff.rfl ((FixedHeader.testBit_typeBit n).symm ▸ decide_eq_true_iff)
  rw [ControlPacket.Sets, ControlPacket.ReportsSession, ← or_assoc, ← hmark]
  unfold observe
  cases p.header.type with
  | connect => simp [hasSeen_congr (typesSeen_observeConnect _) n]
  | connAck => simp [hasSeen_observeConnAck]
  | publish => simp [hasSeen_congr (typesSeen_observePublish _ _) n]
  | _ => simp

/-- Of the other bits, a packet sets that of its type. -/
theorem hasSeen_observe {n : Nat} (hn : n ≠ 0) :
    (observe limit s p).1.hasSeen n = (s.hasSeen n || decide (p.header.typeCode.toNat = n)) := by
  rw [Bool.eq_iff_iff, hasSeen_observe_iff, ControlPacket.sets_iff_of_ne_zero hn,
    Bool.or_eq_true, decide_eq_true_iff]

/-! ## What a CONNECT leaves behind -/

/-- What a CONNECT that can be read leaves in a session. -/
structure IsConnected (s : Session) : Prop where
  seen : s.hasSeen 1 = true
  version : s.version = some 4 ∨ s.version = some 5
  flags : s.connectFlags.isSome = true
  keepAlive : s.keepAlive.isSome = true

theorem not_isConnected_empty : ¬ ({} : Session).IsConnected := fun h =>
  Bool.false_ne_true h.seen

/-- Only a CONNECT writes version, connection flags and keep alive time. -/
theorem connection_observe_of_ne_connect (limit : Nat) (s : Session)
    (hp : p.header.type ≠ .connect) :
    (observe limit s p).1.version = s.version ∧
      (observe limit s p).1.connectFlags = s.connectFlags ∧
      (observe limit s p).1.keepAlive = s.keepAlive := by
  unfold observe
  cases ht : p.header.type with
  | connect => exact absurd ht hp
  | connAck =>
    simp only [observeConnAck]
    split <;> exact ⟨rfl, rfl, rfl⟩
  | publish =>
    simp only [observePublish]
    repeat' split
    all_goals exact ⟨rfl, rfl, rfl⟩
  | _ => exact ⟨rfl, rfl, rfl⟩

/-- A CONNECT that is not dropped leaves a connected session. -/
theorem isConnected_observe_of_connect (hp : p.header.type = .connect)
    (h : (observe limit s p).2 ≠ some .drop) : (observe limit s p).1.IsConnected := by
  have hseen : (observe limit s p).1.hasSeen 1 = true := by
    rw [hasSeen_observe Nat.one_ne_zero, decide_eq_true (FixedHeader.type_eq_connect_iff.1 hp),
      Bool.or_true]
  revert h hseen
  simp only [observe, hp, observeConnect]
  split
  · next hc =>
    intro _ hseen
    have hversion := Connect.supports_version hc
    exact ⟨hseen, hversion.imp (congrArg some) (congrArg some), rfl, rfl⟩
  · intro h
    exact absurd rfl h

/-- A packet that does not end the observation connects the session if it is a CONNECT, and leaves
the connection as it is if it is not. -/
theorem isConnected_observe_iff (h : (observe limit s p).2 ≠ some .drop) :
    (observe limit s p).1.IsConnected ↔ s.IsConnected ∨ p.header.type = .connect := by
  by_cases hp : p.header.type = .connect
  · have hconnected := isConnected_observe_of_connect hp h
    exact iff_of_true hconnected (.inr hp)
  · obtain ⟨hversion, hflags, hkeep⟩ := connection_observe_of_ne_connect limit s hp
    have hseen : (observe limit s p).1.hasSeen 1 = s.hasSeen 1 := by
      rw [hasSeen_observe Nat.one_ne_zero,
        decide_eq_false (mt FixedHeader.type_eq_connect_iff.2 hp), Bool.or_false]
    constructor
    · intro hc
      exact .inl ⟨hseen ▸ hc.seen, hversion ▸ hc.version, hflags ▸ hc.flags, hkeep ▸ hc.keepAlive⟩
    · rintro (hc | hc)
      · exact ⟨hseen.trans hc.seen, hversion.symm ▸ hc.version, hflags.symm ▸ hc.flags,
          hkeep.symm ▸ hc.keepAlive⟩
      · exact absurd hc hp

/-- A DISCONNECT ends the segment; any other packet goes on with it or ends the observation. -/
theorem snd_observe_cases (limit : Nat) (s : Session) (p : ControlPacket) :
    (p.header.type = .disconnect ∧ (observe limit s p).2 = some .flush) ∨
      (p.header.type ≠ .disconnect ∧
        ((observe limit s p).2 = none ∨ (observe limit s p).2 = some .drop)) := by
  unfold observe
  cases p.header.type with
  | disconnect => exact .inl ⟨rfl, rfl⟩
  | connect =>
    refine .inr ⟨PacketType.noConfusion, ?_⟩
    simp only [observeConnect]
    split
    · exact .inl rfl
    · exact .inr rfl
  | connAck =>
    refine .inr ⟨PacketType.noConfusion, ?_⟩
    simp only [observeConnAck]
    split
    · exact .inl rfl
    · exact .inr rfl
  | publish =>
    refine .inr ⟨PacketType.noConfusion, ?_⟩
    simp only [observePublish]
    repeat' split
    all_goals first | exact .inl rfl | exact .inr rfl
  | _ => exact .inr ⟨PacketType.noConfusion, .inl rfl⟩

/-! ## Runs of packets -/

/-- Without a verdict the next packet is taken in. -/
theorem observeAll_cons_of_none {rest : List ControlPacket} (hv : (observe limit s p).2 = none) :
    observeAll limit s (p :: rest) = observeAll limit (observe limit s p).1 rest := by
  rw [observeAll]
  generalize observe limit s p = r at hv ⊢
  obtain ⟨s', v⟩ := r
  cases hv
  rfl

/-- A verdict ends the observation of a run. -/
theorem observeAll_cons_of_some {rest : List ControlPacket} {v : Verdict}
    (hv : (observe limit s p).2 = some v) :
    observeAll limit s (p :: rest) = ((observe limit s p).1, some v) := by
  rw [observeAll]
  generalize observe limit s p = r at hv ⊢
  obtain ⟨s', v'⟩ := r
  cases hv
  rfl

/-- The packets that a session takes in: those before the first DISCONNECT. -/
def taken (packets : List ControlPacket) : List ControlPacket :=
  packets.takeWhile (·.header.type != .disconnect)

theorem taken_cons_of_disconnect {rest : List ControlPacket} (hp : p.header.type = .disconnect) :
    taken (p :: rest) = [] :=
  List.takeWhile_cons_of_neg (by simp [hp])

theorem taken_cons_of_ne_disconnect {rest : List ControlPacket}
    (hp : p.header.type ≠ .disconnect) : taken (p :: rest) = p :: taken rest :=
  List.takeWhile_cons_of_pos (by simpa using hp)

/-- **A session is connected exactly if it has taken in a CONNECT**, as far as no packet ends the
observation. -/
theorem isConnected_observeAll_iff {packets : List ControlPacket}
    (h : (observeAll limit s packets).2 ≠ some .drop) :
    (observeAll limit s packets).1.IsConnected ↔
      s.IsConnected ∨ ∃ q ∈ taken packets, q.header.type = .connect := by
  induction packets generalizing s with
  | nil =>
    refine (or_iff_left ?_).symm
    rintro ⟨q, hq, -⟩
    exact List.not_mem_nil hq
  | cons p rest ih =>
    rcases snd_observe_cases limit s p with ⟨hp, hv⟩ | ⟨hp, hv | hv⟩
    · -- a DISCONNECT is no CONNECT, and nothing after it is taken in
      rw [observeAll_cons_of_some hv, taken_cons_of_disconnect hp]
      rw [isConnected_observe_iff (by rw [hv]; decide), hp]
      simp
    · rw [observeAll_cons_of_none hv] at h ⊢
      rw [ih h, isConnected_observe_iff (by rw [hv]; decide), taken_cons_of_ne_disconnect hp]
      simp only [List.mem_cons, exists_eq_or_imp, or_assoc]
    · rw [observeAll_cons_of_some hv] at h
      exact absurd rfl h

/-! ## Segments -/

variable {options : Options} {payload : View}

/-- Where no packet brings a verdict, the end of the segment does. -/
theorem update_of_none
    (h : (observeAll options.topicLimit s (ControlPacket.tokenizer.tokens payload).1).2 = none) :
    update options s payload =
      ((observeAll options.topicLimit s (ControlPacket.tokenizer.tokens payload).1).1,
        if (ControlPacket.tokenizer.tokens payload).2.hasSucceeded then .more else .drop) := by
  simp only [update]
  split
  · next ho =>
    rw [ho] at h
    cases h
  · next ho => rw [ho]

/-- The verdict of a packet stands, whatever the segment ends with. -/
theorem update_of_some {verdict : Verdict}
    (h : (observeAll options.topicLimit s (ControlPacket.tokenizer.tokens payload).1).2 =
      some verdict) :
    update options s payload =
      ((observeAll options.topicLimit s (ControlPacket.tokenizer.tokens payload).1).1,
        verdict) := by
  simp only [update]
  split
  · next ho =>
    rw [ho] at h ⊢
    cases h
    rfl
  · next ho =>
    rw [ho] at h
    cases h

end Session

end Flowmeter.Mqtt
