import Flowmeter.Proofs.Quic.Persistence

/-!
# Who tells the original id of the server

The id that the client first chose for the server is the destination of its first Initial. What is
on record for it is the first id that a packet of the client tells (`firstServerId?`), and besides
an Initial a Handshake does so (`tellsServerId`). An Initial in turn tells nothing if another one
came before it, even one to an empty id, unless it answers the first Retry. So a run shows the
destination of the first Initial if nothing of the kind comes before it
(`quic_run_originalServerId`).
-/

namespace Flowmeter

namespace Quic

/-! ## Packets of the client -/

/-- The packet that decides a datagram of the client. -/
def clientPacket? (p : Packet) : Option LongHeader :=
  match p.direction with
  | .clientToServer => (Datagram.parse? p.payload).bind Datagram.decisive?
  | .serverToClient => none

theorem clientInitial?_eq_filter (p : Packet) :
    clientInitial? p = (clientPacket? p).filter (·.type == .initial) := by
  unfold clientInitial? clientPacket?
  cases p.direction <;> rfl

theorem clientPacket?_of_parse? {p : Packet} {d : Datagram}
    (hp : Datagram.parse? p.payload = some d) :
    clientPacket? p = if p.direction = .clientToServer then d.decisive? else none := by
  unfold clientPacket?
  cases p.direction with
  | clientToServer => rw [hp, Option.bind_some, if_pos rfl]
  | serverToClient => rfl

/-! ## Told ids -/

/-- Whether an Initial answers the first Retry of the past. -/
def answersFirstRetry (past : List Packet) (h : LongHeader) : Bool :=
  h.tokenLength.any (0 < ·) &&
    (past.filterMap retryIn?).head?.any (·.sourceId == h.destinationId)

/-- Whether a packet of the client tells the id of the server: a Handshake, and an Initial that is
the first one or answers the first Retry. -/
def tellsServerId (past : List Packet) (h : LongHeader) : Bool :=
  h.type == .handshake || h.type == .initial &&
    ((past.filterMap clientInitial?).isEmpty || answersFirstRetry past h)

/-- The id that a packet tells for the server. -/
def toldServerId? (past : List Packet) (p : Packet) : Option ConnectionId :=
  ((clientPacket? p).filter (tellsServerId past)).bind fun h => learn none h.destinationId

/-- The first id that packets after the past tell for the server. -/
def firstServerId? (past : List Packet) : List Packet → Option ConnectionId
  | [] => none
  | p :: rest => (toldServerId? past p).or (firstServerId? (past ++ [p]) rest)

theorem firstServerId?_append_singleton (past packets : List Packet) (p : Packet) :
    firstServerId? past (packets ++ [p]) =
      (firstServerId? past packets).or (toldServerId? (past ++ packets) p) := by
  induction packets generalizing past with
  | nil => simp [firstServerId?]
  | cons q packets ih =>
    rw [List.cons_append, firstServerId?, ih, firstServerId?, Option.or_assoc, List.append_assoc]
    rfl

/-! ## Led by an Initial -/

/-- Whether the packet is an Initial of the client to an id that is not empty. -/
def namesServer (p : Packet) : Bool :=
  (clientInitial? p).any (!·.destinationId.isEmpty)

/-- The destination of the first Initial of the client that is not empty. -/
def firstInitialId? (packets : List Packet) : Option ConnectionId :=
  ((packets.filterMap clientInitial?).find? (!·.destinationId.isEmpty)).map (·.destinationId)

/-- Whether the packet names no id that could be taken for the one of the server: it is neither an
Initial nor a Handshake of the client, or goes to an empty id. -/
def isSilent (p : Packet) : Bool :=
  (clientPacket? p).all fun h =>
    h.destinationId.isEmpty || (h.type != .initial && h.type != .handshake)

/-- Whether no packet before the first Initial of the client to an id that is not empty is an
Initial of it or names another id. -/
def isLedByInitial (packets : List Packet) : Bool :=
  (packets.takeWhile (!namesServer ·)).all fun p => (clientInitial? p).isNone && isSilent p

variable {past packets : List Packet} {p : Packet} {h : LongHeader}

theorem learn_none_of_isEmpty {id : ConnectionId} (h : id.isEmpty = true) :
    learn none id = none := by
  unfold learn
  rw [h]
  rfl

theorem bind_filter_some {tells : LongHeader → Bool} {f : LongHeader → Option ConnectionId} :
    ((some h).filter tells).bind f = if tells h then f h else none := by
  rw [Option.filter_some]
  split <;> rfl

theorem toldServerId?_of_clientPacket? (hp : clientPacket? p = some h) :
    toldServerId? past p = if tellsServerId past h then learn none h.destinationId else none := by
  rw [toldServerId?, hp, bind_filter_some]

theorem toldServerId?_of_isSilent (hsilent : isSilent p = true) : toldServerId? past p = none := by
  cases hp : clientPacket? p with
  | none =>
    rw [toldServerId?, hp]
    rfl
  | some h =>
    rw [isSilent, hp, Option.all_some, Bool.or_eq_true, Bool.and_eq_true, bne_iff_ne,
      bne_iff_ne] at hsilent
    rw [toldServerId?_of_clientPacket? hp]
    rcases hsilent with hid | ⟨hinitial, hhandshake⟩
    · rw [learn_none_of_isEmpty hid, ite_self]
    · simp [tellsServerId, hinitial, hhandshake]

theorem firstServerId?_of_all_isSilent (hsilent : packets.all isSilent = true) :
    firstServerId? past packets = none := by
  induction packets generalizing past with
  | nil => rfl
  | cons p packets ih =>
    rw [List.all_cons, Bool.and_eq_true] at hsilent
    rw [firstServerId?, toldServerId?_of_isSilent hsilent.1, ih hsilent.2, Option.none_or]

theorem namesServer_iff : namesServer p = true ↔
    ∃ h, clientInitial? p = some h ∧ h.destinationId.isEmpty = false := by
  unfold namesServer
  cases clientInitial? p <;> simp

/-- The first Initial of the client tells the id that it goes to. -/
theorem toldServerId?_of_clientInitial? (hpast : past.filterMap clientInitial? = [])
    (hp : clientInitial? p = some h) : toldServerId? past p = learn none h.destinationId := by
  rw [clientInitial?_eq_filter, Option.filter_eq_some_iff] at hp
  rw [toldServerId?_of_clientPacket? hp.1, if_pos]
  simp only [tellsServerId, hp.2, hpast, List.isEmpty_nil, Bool.true_or, Bool.and_true,
    Bool.or_true]

theorem firstServerId?_eq_firstInitialId? (hpast : past.filterMap clientInitial? = [])
    (hlead : isLedByInitial packets = true) :
    firstServerId? past packets = firstInitialId? packets := by
  induction packets generalizing past with
  | nil => rfl
  | cons p packets ih =>
    cases hnames : namesServer p with
    | true =>
      obtain ⟨h, hp, hid⟩ := namesServer_iff.1 hnames
      rw [firstServerId?, toldServerId?_of_clientInitial? hpast hp, learn_none hid, Option.some_or]
      simp [firstInitialId?, hp, hid]
    | false =>
      rw [isLedByInitial, List.takeWhile_cons_of_pos (by simpa using hnames), List.all_cons,
        Bool.and_eq_true] at hlead
      obtain ⟨hfirst, hrest⟩ := hlead
      rw [Bool.and_eq_true, Option.isNone_iff_eq_none] at hfirst
      obtain ⟨hp, hsilent⟩ := hfirst
      have hnext : (past ++ [p]).filterMap clientInitial? = [] := by
        simp [List.filterMap_append, hpast, hp]
      rw [firstServerId?, toldServerId?_of_isSilent hsilent, Option.none_or, ih hnext hrest,
        firstInitialId?, firstInitialId?, List.filterMap_cons_none hp]

/-! ## The id on record -/

namespace Connection

variable {c : Connection} {d : Datagram}

/-- Whether a connection that knows no id of the server learns it from a packet of the client. -/
def takesServerId (c : Connection) (h : LongHeader) : Bool :=
  h.type == .handshake || h.type == .initial && !c.isForeign h

theorem takesServerId_count : (c.count d).takesServerId h = c.takesServerId h := by
  rw [takesServerId, takesServerId, isForeign_congr attempt_count]

theorem observeRetry_keeps : (c.observeRetry h).originalServerId = c.originalServerId ∧
    (c.observeRetry h).clientVersion = c.clientVersion := by
  unfold observeRetry
  dsimp only
  split <;> exact ⟨rfl, rfl⟩

theorem learn_eq_or (known : Option ConnectionId) (id : ConnectionId) :
    learn known id = known.or (learn none id) := by
  cases known <;> rfl

theorem originalServerId_observeDecisive : (c.observeDecisive h p).1.originalServerId =
    if p.direction = .clientToServer ∧ c.takesServerId h = true then
      learn c.originalServerId h.destinationId
    else c.originalServerId := by
  unfold observeDecisive takesServerId
  cases h.type with
  | initial =>
    cases p.direction with
    | clientToServer =>
      have hid : (c.observeClientInitial h p.serverPort).originalServerId =
          if c.isForeign h then c.originalServerId else learn c.originalServerId h.destinationId :=
        id?_observeClientInitial .originalServer
      cases hforeign : c.isForeign h <;> simp [hid, hforeign]
    | serverToClient => simp [observeServerInitial, learnFromServer]
  | handshake => cases p.direction <;> simp [learnIds, learnFromClient, learnFromServer]
  | retry => simp [observeRetry_keeps]
  | versionNegotiation | zeroRtt => simp [learnFromServer]

/-- The id on record stays, or is told by the packet that decides the datagram. -/
theorem originalServerId_observe (hp : Datagram.parse? p.payload = some d) :
    (c.observe d p).1.originalServerId = c.originalServerId.or
      (((clientPacket? p).filter c.takesServerId).bind fun h => learn none h.destinationId) := by
  have hcount : (c.count d).originalServerId = c.originalServerId := id?_count .originalServer
  rw [clientPacket?_of_parse? hp]
  cases hd : d.decisive? with
  | none =>
    rw [observe_of_decisive?_eq_none hd, hcount, ite_self, Option.filter_none, Option.bind_none,
      Option.or_none]
  | some h =>
    rw [observe_of_decisive? hd, originalServerId_observeDecisive, takesServerId_count, hcount,
      learn_eq_or]
    by_cases hclient : p.direction = .clientToServer <;>
      cases htakes : c.takesServerId h <;> simp [hclient, htakes, Option.filter_some]

theorem clientVersion_observeClientInitial {port : UInt16} :
    (c.observeClientInitial h port).clientVersion =
      if c.answersRetry h then c.clientVersion else c.clientVersion.or (some h.version) := by
  unfold observeClientInitial
  split
  · next hforeign =>
    simp only [isForeign, Bool.and_eq_true] at hforeign
    obtain ⟨version, hversion⟩ := Option.isSome_iff_exists.1 hforeign.1.1
    simp [hversion]
  · dsimp only
    split <;> rfl

theorem clientVersion_observeDecisive : (c.observeDecisive h p).1.clientVersion =
    if p.direction = .clientToServer ∧ h.type = .initial ∧ c.answersRetry h = false then
      c.clientVersion.or (some h.version)
    else c.clientVersion := by
  unfold observeDecisive
  cases h.type with
  | initial =>
    cases p.direction with
    | clientToServer =>
      cases hanswers : c.answersRetry h <;> simp [clientVersion_observeClientInitial, hanswers]
    | serverToClient => simp [observeServerInitial, learnFromServer]
  | handshake => cases p.direction <;> simp [learnIds, learnFromClient, learnFromServer]
  | retry => simp [observeRetry_keeps]
  | versionNegotiation | zeroRtt => simp [learnFromServer]

/-- The version of the client is that of the first Initial that answers no Retry. -/
theorem clientVersion_observe (hp : Datagram.parse? p.payload = some d) :
    (c.observe d p).1.clientVersion = c.clientVersion.or
      (((clientInitial? p).filter (!c.answersRetry ·)).map (·.version)) := by
  have hcount : (c.count d).clientVersion = c.clientVersion :=
    (congrArg clientVersion (attempt_count (c := c) (d := d)) :)
  have hanswers (h : LongHeader) : (c.count d).answersRetry h = c.answersRetry h :=
    (congrArg (answersRetry · h) (attempt_count (c := c) (d := d)) :)
  rw [clientInitial?_eq_filter, clientPacket?_of_parse? hp]
  cases hd : d.decisive? with
  | none => simp [observe_of_decisive?_eq_none hd, hcount]
  | some h =>
    rw [observe_of_decisive? hd, clientVersion_observeDecisive, hanswers, hcount]
    by_cases hclient : p.direction = .clientToServer <;>
      by_cases ht : h.type = .initial <;>
        cases ha : c.answersRetry h <;> simp [hclient, ht, ha, Option.filter_some]

/-! ## Runs -/

/-- The id on record for the server is the first one told, and as long as there is none the client
has shown its version with its first Initial. -/
structure RecallsServerId (past : List Packet) (c : Connection) : Prop extends
    WellRecorded past c where
  originalServerId : c.originalServerId = firstServerId? [] past
  clientVersion_eq_none_iff : c.originalServerId = none →
    (c.clientVersion = none ↔ past.filterMap clientInitial? = [])

theorem recallsServerId_empty : RecallsServerId [] {} where
  toWellRecorded := wellRecorded_empty
  originalServerId := rfl
  clientVersion_eq_none_iff _ := ⟨fun _ => rfl, fun _ => rfl⟩

/-- An Initial to an id that is not empty answers the Retry on record exactly if it answers the
first one. -/
theorem RecallsRetry.answersRetry_eq (hc : RecallsRetry past c)
    (hid : h.destinationId.isEmpty = false) :
    c.answersRetry h = answersFirstRetry past h := by
  unfold answersRetry answersFirstRetry
  rw [hc.retryId]
  cases (past.filterMap retryIn?).head? with
  | none => rfl
  | some r =>
    have hlearned :
        learn none r.sourceId = some h.destinationId ↔ r.sourceId = h.destinationId := by
      rw [learn_eq_some_iff]
      constructor
      · rintro (hnone | ⟨-, -, heq⟩)
        · cases hnone
        · exact heq
      · intro heq
        exact .inr ⟨rfl, heq ▸ hid, heq⟩
    rw [Option.bind_some, Option.any_some, Bool.eq_iff_iff, Bool.and_eq_true, Bool.and_eq_true,
      beq_iff_eq, beq_iff_eq, hlearned]

/-- As long as no id is on record, a connection learns what is told. -/
theorem RecallsServerId.takesServerId_eq (hc : RecallsServerId past c)
    (hnone : c.originalServerId = none) (hid : h.destinationId.isEmpty = false) :
    c.takesServerId h = tellsServerId past h := by
  have hversion : c.clientVersion.isSome = !(past.filterMap clientInitial?).isEmpty := by
    rw [Bool.eq_iff_iff, Bool.not_eq_true', List.isEmpty_eq_false_iff, Option.isSome_iff_ne_none]
    exact not_congr (hc.clientVersion_eq_none_iff hnone)
  have hother : (c.originalServerId != some h.destinationId) = true := by
    rw [hnone]
    rfl
  rw [takesServerId, tellsServerId, isForeign, hversion, hother,
    hc.toRecallsRetry.answersRetry_eq hid]
  cases (past.filterMap clientInitial?).isEmpty <;> cases answersFirstRetry past h <;> rfl

/-- An Initial that answers the Retry on record is not foreign and has its ids learned. -/
theorem WellRecorded.learn_of_answersRetry (hc : WellRecorded past c)
    (hanswers : c.answersRetry h = true) :
    c.isForeign h = false ∧ learn none h.destinationId = some h.destinationId := by
  refine ⟨isForeign_eq_false_iff.2 (.inr (.inl hanswers)), learn_none ?_⟩
  simp only [answersRetry, Bool.and_eq_true, beq_iff_eq] at hanswers
  exact hc.isEmpty_id? .retry _ hanswers.2

/-- As long as an Initial of the client tells no id, it answers no Retry. -/
theorem WellRecorded.answersRetry_eq_false (hc : WellRecorded past c)
    (hp : clientInitial? p = some h)
    (htold : ((clientPacket? p).filter c.takesServerId).bind
      (fun h => learn none h.destinationId) = none) : c.answersRetry h = false := by
  rw [clientInitial?_eq_filter, Option.filter_eq_some_iff] at hp
  obtain ⟨hp, ht⟩ := hp
  rw [hp, bind_filter_some] at htold
  cases hanswers : c.answersRetry h with
  | false => rfl
  | true =>
    obtain ⟨hforeign, hlearned⟩ := hc.learn_of_answersRetry hanswers
    have htakes : c.takesServerId h = true := by
      rw [takesServerId, ht, hforeign]
      exact Bool.or_true _
    rw [if_pos htakes, hlearned] at htold
    cases htold

theorem RecallsServerId.observe (hc : RecallsServerId past c)
    (hp : Datagram.parse? p.payload = some d) :
    RecallsServerId (past ++ [p]) (c.observe d p).1 where
  toWellRecorded := hc.toWellRecorded.observe hp
  originalServerId := by
    rw [originalServerId_observe hp, firstServerId?_append_singleton, List.nil_append,
      ← hc.originalServerId]
    cases hknown : c.originalServerId with
    | some id => rfl
    | none =>
      rw [Option.none_or, Option.none_or, toldServerId?]
      cases clientPacket? p with
      | none => rfl
      | some h =>
        rw [bind_filter_some, bind_filter_some]
        cases hid : h.destinationId.isEmpty with
        | true => rw [learn_none_of_isEmpty hid, ite_self, ite_self]
        | false => rw [hc.takesServerId_eq hknown hid]
  clientVersion_eq_none_iff := by
    intro hnone
    rw [originalServerId_observe hp, Option.or_eq_none_iff] at hnone
    obtain ⟨hknown, htold⟩ := hnone
    rw [clientVersion_observe hp, Option.or_eq_none_iff, hc.clientVersion_eq_none_iff hknown,
      List.filterMap_append, List.append_eq_nil_iff]
    refine and_congr_right fun _ => ?_
    -- an Initial that names no server answers no Retry either, so its version is taken
    cases hinitial : clientInitial? p with
    | none => simp [hinitial]
    | some h => simp [hinitial, Option.filter_some, hc.answersRetry_eq_false hinitial htold]

end Connection

end Quic

/-! ## The plugin of QUIC -/

namespace Plugin

open Quic (Connection firstInitialId? firstServerId? isLedByInitial isSilent)

/-- **The id on record for the server is the first one that a packet of the client tells.** It is
absent as long as no Initial and no Handshake of the client goes to an id. It is the destination of
the first Initial that goes to one, if no other Initial of the client and no Handshake of it to an
id came before that. -/
theorem quic_run_originalServerId {packets : List Packet} {c : Connection}
    (h : quic.run? packets = some (.quic c)) :
    c.originalServerId = firstServerId? [] packets ∧
      (packets.all isSilent = true → c.originalServerId = none) ∧
      (isLedByInitial packets = true → c.originalServerId = firstInitialId? packets) := by
  have hc : Connection.RecallsServerId packets c :=
    run?_quic_induct Connection.recallsServerId_empty (fun _ _ _ _ hd hc => hc.observe hd) h
  rw [hc.originalServerId]
  exact ⟨rfl, Quic.firstServerId?_of_all_isSilent, Quic.firstServerId?_eq_firstInitialId? rfl⟩

/-- A Handshake of the client to the id `BB`. -/
def earlyHandshake : Packet where
  ipProtocol := IpProtocol.udp
  payload := .ofBytes [0xE0, 0, 0, 0, 1, 1, 0xBB, 1, 0xAA, 0]

/-- A Retry that is captured before the Initial of the client tells no id of the server. -/
theorem quic_run_originalServerId_after_retry :
    ∃ c, quic.run? [retryTo 0xB1, attemptedInitial] = some (.quic c) ∧
      c.originalServerId.map (·.octets) = some [1, 2, 3, 4, 5, 6, 7, 8] := by
  let c : Connection :=
    { version := some 1, clientVersion := some 1, tokenLength := some 0
      clientId := some ⟨[0xAA], by decide⟩
      originalServerId := some ⟨[1, 2, 3, 4, 5, 6, 7, 8], by decide⟩
      retryId := some ⟨[0xB1], by decide⟩, serverPort := some 0
      packetTypes := [16, 2], retries := 1 }
  have hrun : quic.run? [retryTo 0xB1, attemptedInitial] = some (.quic c) := by decide +kernel
  have hlead : isLedByInitial [retryTo 0xB1, attemptedInitial] = true := by decide +kernel
  have hid : (firstInitialId? [retryTo 0xB1, attemptedInitial]).map (·.octets) =
      some [1, 2, 3, 4, 5, 6, 7, 8] := by
    decide +kernel
  refine ⟨c, hrun, ?_⟩
  rw [(quic_run_originalServerId hrun).2.2 hlead]
  exact hid

/-- A Handshake that is captured before the Initial of the client tells its own destination. -/
theorem quic_run_originalServerId_after_handshake :
    ¬ ∀ (packets : List Packet) (c : Connection), quic.run? packets = some (.quic c) →
      c.originalServerId = firstInitialId? packets := by
  intro hclaim
  let c : Connection :=
    { version := some 1, clientVersion := some 1, tokenLength := some 0
      clientId := some ⟨[0xAA], by decide⟩, originalServerId := some ⟨[0xBB], by decide⟩
      serverPort := some 0, packetTypes := [8, 2] }
  have hrun : quic.run? [earlyHandshake, attemptedInitial] = some (.quic c) := by decide +kernel
  have hid : (firstInitialId? [earlyHandshake, attemptedInitial]).map (·.octets) =
      some [1, 2, 3, 4, 5, 6, 7, 8] := by
    decide +kernel
  rw [← hclaim _ c hrun] at hid
  cases hid

end Plugin

end Flowmeter
