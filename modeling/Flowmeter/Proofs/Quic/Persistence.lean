import Flowmeter.Proofs.Quic.Connection
import Flowmeter.Proofs.Tokens

/-!
# What a connection keeps

A connection learns an id once, takes version and port of the client once, and never counts
downwards (`Connection.Continues`). What is on record fits together at any time
(`Connection.Coherent`): an Initial of the client tells its version, the port and the length of its
token at once, and nothing is foreign before it. Both are shown for the ways of taking in a packet
and then for a datagram. Retries are counted as far as the counter goes, and the id that a Retry
hands out is that of the first one, however many follow (`Connection.RecallsRetry`).
`quic_run_persists` says so of every run.
-/

namespace Flowmeter

namespace Quic

/-! ## Headers of a datagram -/

/-- The length of a token is read exactly on the types that carry one. -/
theorem tokenLengthDecoder_isSome {type : PacketType} {v rest : View} {length : Option Nat}
    (h : LongHeader.tokenLengthDecoder type v = .ok (length, rest)) :
    length.isSome = type.hasToken := by
  unfold LongHeader.tokenLengthDecoder at h
  split at h
  · next htoken =>
    obtain ⟨_, _, -, h⟩ := Decoder.bind_eq_ok.1 h
    obtain ⟨_, _, -, h⟩ := Decoder.bind_eq_ok.1 h
    cases h
    exact htoken.symm
  · next htoken =>
    cases h
    exact (Bool.eq_false_iff.2 htoken).symm

/-- A header tells the length of a token exactly if packets of its type carry one. -/
theorem LongHeader.tokenLength_isSome {v rest : View} {h : LongHeader}
    (hd : LongHeader.decoder v = .ok (h, rest)) : h.tokenLength.isSome = h.type.hasToken := by
  -- what is read before the token
  obtain ⟨_, _, -, hd⟩ := Decoder.bind_eq_ok.1 hd
  obtain ⟨_, _, -, hd⟩ := Decoder.bind_eq_ok.1 hd
  obtain ⟨_, _, -, hd⟩ := Decoder.bind_eq_ok.1 hd
  obtain ⟨_, _, -, hd⟩ := Decoder.bind_eq_ok.1 hd
  obtain ⟨_, _, -, hd⟩ := Decoder.bind_eq_ok.1 hd
  obtain ⟨_, _, -, hd⟩ := Decoder.bind_eq_ok.1 hd
  obtain ⟨_, _, -, hd⟩ := Decoder.bind_eq_ok.1 hd
  -- its length, and what is read after it
  obtain ⟨_, _, htoken, hd⟩ := Decoder.bind_eq_ok.1 hd
  obtain ⟨_, _, -, hd⟩ := Decoder.bind_eq_ok.1 hd
  cases hd
  exact tokenLengthDecoder_isSome htoken

/-- Whatever is cut off a datagram starts with a header that was decoded. -/
theorem LongHeader.exists_decoder_of_step {v rest : View} {h : LongHeader}
    (hs : LongHeader.step v = .token h rest) : ∃ rest', LongHeader.decoder v = .ok (h, rest') := by
  unfold LongHeader.step at hs
  split at hs
  · cases hs
  · split at hs
    · next hd =>
      cases hs
      exact ⟨_, hd⟩
    · cases hs

/-- So every packet of a datagram has the length of a token exactly if its type carries one. -/
theorem Datagram.tokenLength_isSome {payload : View} {d : Datagram} {h : LongHeader}
    (hd : Datagram.parse? payload = some d) (hh : h ∈ d.packets) :
    h.tokenLength.isSome = h.type.hasToken := by
  have htokens : d.packets = (LongHeader.tokenizer.tokens payload).1 := by
    simp only [parse?] at hd
    split at hd
    · cases hd
      rfl
    · cases hd
  rw [htokens] at hh
  refine LongHeader.tokenizer.forall_mem_tokens
    (P := fun h => h.tokenLength.isSome = h.type.hasToken) ?_ payload h hh
  intro v h rest hs
  obtain ⟨_, hd⟩ := LongHeader.exists_decoder_of_step hs
  exact LongHeader.tokenLength_isSome hd

/-- A Retry that decides its datagram. -/
def retryIn? (p : Packet) : Option LongHeader :=
  ((Datagram.parse? p.payload).bind Datagram.decisive?).filter (·.type == .retry)

/-! ## Ids -/

/-- What an id on record is for. -/
inductive IdRole where
  | client
  | originalServer
  | server
  | retry
  deriving DecidableEq, Repr

/-- An id stays as it is, or is learned. -/
def Learns (known known' : Option ConnectionId) : Prop :=
  known' = known ∨ ∃ id, known' = learn known id

/-- On record afterwards is what was known, or else the id, provided it is not empty. -/
theorem learn_eq_some_iff {known : Option ConnectionId} {id id' : ConnectionId} :
    learn known id = some id' ↔
      known = some id' ∨ known = none ∧ id.isEmpty = false ∧ id = id' := by
  cases known with
  | some k => simp [learn]
  | none => cases hid : id.isEmpty <;> simp [learn, hid]

/-- An id that is known is never replaced. -/
theorem Learns.eq_some {known known' : Option ConnectionId} {id : ConnectionId}
    (h : Learns known known') (hid : known = some id) : known' = some id := by
  obtain rfl | ⟨id', rfl⟩ := h
  · exact hid
  · exact learn_eq_some_iff.2 (.inl hid)

/-- No empty id is ever learned. -/
theorem Learns.isEmpty_eq_false {known known' : Option ConnectionId} {id : ConnectionId}
    (h : Learns known known') (hknown : ∀ id, known = some id → id.isEmpty = false)
    (hid : known' = some id) : id.isEmpty = false := by
  obtain rfl | ⟨id', rfl⟩ := h
  · exact hknown id hid
  · obtain hid | ⟨-, hempty, rfl⟩ := learn_eq_some_iff.1 hid
    · exact hknown id hid
    · exact hempty

namespace Connection

variable {c c' c'' : Connection} {d : Datagram} {h : LongHeader} {p : Packet} {port : UInt16}

/-- The id on record for a role. -/
def id? (c : Connection) : IdRole → Option ConnectionId
  | .client => c.clientId
  | .originalServer => c.originalServerId
  | .server => c.serverId
  | .retry => c.retryId

/-- Counting a datagram touches no id. -/
@[simp] theorem id?_count (role : IdRole) : (c.count d).id? role = c.id? role := by
  rw [count_eq]
  cases role <;> rfl

/-- A packet of the client writes no id but by learning it. -/
theorem learns_learnFromClient (role : IdRole) :
    Learns (c.id? role) ((c.learnFromClient h).id? role) := by
  cases role with
  | client => exact .inr ⟨h.sourceId, rfl⟩
  | originalServer => exact .inr ⟨h.destinationId, rfl⟩
  | server | retry => exact .inl rfl

theorem learns_learnFromServer (role : IdRole) :
    Learns (c.id? role) ((c.learnFromServer h).id? role) := by
  cases role with
  | client => exact .inr ⟨h.destinationId, rfl⟩
  | server => exact .inr ⟨h.sourceId, rfl⟩
  | originalServer | retry => exact .inl rfl

/-- A foreign Initial tells no id. -/
theorem id?_observeClientInitial (role : IdRole) :
    (c.observeClientInitial h port).id? role =
      if c.isForeign h then c.id? role else (c.learnFromClient h).id? role := by
  unfold observeClientInitial
  split
  · cases role <;> rfl
  · dsimp only
    split <;> cases role <;> rfl

/-- The first Retry finds no id of an earlier one, so that setting its id is learning it. -/
theorem learns_observeRetry (hc : c.retries = 0 → c.retryId = none) (role : IdRole) :
    Learns (c.id? role) ((c.observeRetry h).id? role) := by
  by_cases hfirst : c.retries = 0
  · rw [observeRetry_of_first hfirst]
    cases role with
    | client => exact .inr ⟨h.destinationId, rfl⟩
    | retry => exact .inr ⟨h.sourceId, congrArg (learn · h.sourceId) (hc hfirst).symm⟩
    | originalServer | server => exact .inl rfl
  · rw [observeRetry_of_later hfirst]
    cases role <;> exact .inl rfl

theorem learns_observeDecisive (hc : c.retries = 0 → c.retryId = none) (role : IdRole) :
    Learns (c.id? role) ((c.observeDecisive h p).1.id? role) := by
  unfold observeDecisive
  cases h.type with
  | versionNegotiation => exact learns_learnFromServer role
  | initial =>
    cases p.direction with
    | clientToServer =>
      dsimp only
      rw [id?_observeClientInitial]
      split
      · exact .inl rfl
      · exact learns_learnFromClient role
    | serverToClient => exact learns_learnFromServer (c := c) role
  | handshake =>
    cases p.direction with
    | clientToServer => exact learns_learnFromClient role
    | serverToClient => exact learns_learnFromServer role
  | retry => exact learns_observeRetry hc role
  | zeroRtt =>
    cases role with
    | client => exact .inr ⟨h.sourceId, rfl⟩
    | originalServer | server | retry => exact .inl rfl

/-- Whatever a datagram brings, every id stays or is learned. -/
theorem learns_observe (hc : c.retries = 0 → c.retryId = none) (role : IdRole) :
    Learns (c.id? role) ((c.observe d p).1.id? role) := by
  have hcount : (c.count d).id? role = c.id? role := id?_count role
  have hretry : (c.count d).retries = 0 → (c.count d).retryId = none := by
    rw [retries_count, show (c.count d).retryId = c.retryId from id?_count .retry]
    exact hc
  rw [← hcount]
  cases hd : d.decisive? with
  | none =>
    rw [observe_of_decisive?_eq_none hd]
    exact .inl rfl
  | some h =>
    rw [observe_of_decisive? hd]
    exact learns_observeDecisive hretry role

/-! ## Versions, port and counts -/

/-- The first Initial of the client tells its version, the port and the length of its token at
once, and nothing is foreign before it. -/
structure Coherent (c : Connection) : Prop where
  isSome_serverPort : c.serverPort.isSome = c.clientVersion.isSome
  isSome_version : c.clientVersion.isSome = true → c.version.isSome = true
  isSome_tokenLength : c.clientVersion.isSome = true → c.tokenLength.isSome = true
  isSome_of_multiplexed : 0 < c.multiplexed → c.clientVersion.isSome = true
  multiplexed_le : c.multiplexed ≤ counterLimit
  zeroRtt_le : c.zeroRtt ≤ counterLimit

/-- What the client has told the first connection stands in the second, and no count has gone
down. -/
structure Continues (c c' : Connection) : Prop where
  clientVersion : ∀ version, c.clientVersion = some version → c'.clientVersion = some version
  serverPort : ∀ port, c.serverPort = some port → c'.serverPort = some port
  multiplexed_le : c.multiplexed ≤ c'.multiplexed
  zeroRtt_le : c.zeroRtt ≤ c'.zeroRtt

theorem Continues.refl (c : Connection) : c.Continues c :=
  ⟨fun _ h => h, fun _ h => h, Nat.le_refl _, Nat.le_refl _⟩

theorem Continues.trans (h : c.Continues c') (h' : c'.Continues c'') : c.Continues c'' where
  clientVersion version hv := h'.clientVersion version (h.clientVersion version hv)
  serverPort port hp := h'.serverPort port (h.serverPort port hp)
  multiplexed_le := Nat.le_trans h.multiplexed_le h'.multiplexed_le
  zeroRtt_le := Nat.le_trans h.zeroRtt_le h'.zeroRtt_le

/-- Counting a datagram keeps what fits together, and counts upwards. -/
theorem Coherent.count (hc : c.Coherent) : (c.count d).Coherent ∧ c.Continues (c.count d) := by
  have hle := hc.zeroRtt_le
  rw [count_eq]
  refine ⟨{ hc with isSome_version := fun h => ?_, zeroRtt_le := ?_ },
    { Continues.refl c with zeroRtt_le := ?_ }⟩
  · simp [hc.isSome_version h]
  · dsimp only
    split <;> omega
  · dsimp only
    split <;> omega

/-- So does taking in the packet that decides it. An Initial tells version, port and token length at
once. -/
theorem Coherent.observeDecisive (hc : c.Coherent)
    (ht : h.tokenLength.isSome = h.type.hasToken) :
    (c.observeDecisive h p).1.Coherent ∧ c.Continues (c.observeDecisive h p).1 := by
  have htoken (hi : h.type = .initial) : (h.tokenLength.or c.tokenLength).isSome = true := by
    rw [hi] at ht
    rw [Option.isSome_or, ht]
    rfl
  refine observeDecisive_cases (P := fun c' => c'.Coherent ∧ c.Continues c')
    ?ids ?retry ?foreign ?answer ?opening ?server
  case ids =>
    intro _ _ client original server
    exact ⟨{ hc with }, { Continues.refl c with }⟩
  case retry =>
    intro _
    unfold observeRetry
    dsimp only
    split <;> exact ⟨{ hc with }, { Continues.refl c with }⟩
  case foreign =>
    intro _ hforeign
    -- only once the client has shown its version
    have hclient : c.clientVersion.isSome = true := by
      simp only [isForeign, Bool.and_eq_true] at hforeign
      exact hforeign.1.1
    have hle := hc.multiplexed_le
    refine ⟨{ hc with
        isSome_of_multiplexed := fun _ => hclient
        multiplexed_le := Nat.min_le_left _ _ },
      { Continues.refl c with multiplexed_le := ?_ }⟩
    dsimp only
    omega
  case answer =>
    intro hi
    exact ⟨{ hc with isSome_tokenLength := fun _ => htoken hi }, { Continues.refl c with }⟩
  case opening =>
    intro hi
    have hclient : (c.clientVersion.or (some h.version)).isSome = true := by simp
    refine ⟨{ hc with
        isSome_serverPort := ?_
        isSome_version := fun _ => rfl
        isSome_tokenLength := fun _ => htoken hi
        isSome_of_multiplexed := fun _ => hclient },
      { Continues.refl c with clientVersion := fun _ hv => ?_, serverPort := fun _ hp => ?_ }⟩
    · simp
    · simp [hv]
    · simp [hp]
  case server =>
    intro _
    exact ⟨{ hc with isSome_version := fun _ => rfl }, { Continues.refl c with }⟩

theorem Coherent.observe (hc : c.Coherent) (hp : Datagram.parse? p.payload = some d) :
    (c.observe d p).1.Coherent ∧ c.Continues (c.observe d p).1 := by
  obtain ⟨hcount, hcontinues⟩ := hc.count (d := d)
  cases hd : d.decisive? with
  | none =>
    rw [observe_of_decisive?_eq_none hd]
    exact ⟨hcount, hcontinues⟩
  | some h =>
    rw [observe_of_decisive? hd]
    have ht := Datagram.tokenLength_isSome hp (Datagram.mem_of_decisive? hd)
    obtain ⟨hdecisive, hcontinues'⟩ := hcount.observeDecisive (p := p) ht
    exact ⟨hdecisive, hcontinues.trans hcontinues'⟩

/-! ## Retries -/

/-- The Retries of a run are counted as far as the counter goes, and the id that the first one hands
out is on record. -/
structure RecallsRetry (past : List Packet) (c : Connection) : Prop where
  retries : c.retries = min counterLimit (past.filterMap retryIn?).length
  retryId : c.retryId = (past.filterMap retryIn?).head?.bind fun h => learn none h.sourceId

/-- Only a Retry touches the count of Retries and the id that they hand out. -/
theorem retry_observeDecisive (ht : h.type ≠ .retry) :
    (c.observeDecisive h p).1.retries = c.retries ∧
      (c.observeDecisive h p).1.retryId = c.retryId :=
  observeDecisive_cases (P := fun c' => c'.retries = c.retries ∧ c'.retryId = c.retryId)
    (fun _ _ _ _ _ => ⟨rfl, rfl⟩) (fun hretry => absurd hretry ht) (fun _ _ => ⟨rfl, rfl⟩)
    (fun _ => ⟨rfl, rfl⟩) (fun _ => ⟨rfl, rfl⟩) (fun _ => ⟨rfl, rfl⟩)

/-- A packet carries a Retry if that is what decides its datagram. -/
theorem retryIn?_eq_some_iff (hp : Datagram.parse? p.payload = some d) :
    retryIn? p = some h ↔ d.decisive? = some h ∧ h.type = .retry := by
  rw [retryIn?, hp, Option.bind_some, Option.filter_eq_some_iff, beq_iff_eq]

/-- A datagram that a Retry decides is counted and then taken in as that Retry. -/
theorem observe_of_retryIn?_eq_some (hp : Datagram.parse? p.payload = some d)
    (hretry : retryIn? p = some h) : (c.observe d p).1 = (c.count d).observeRetry h := by
  obtain ⟨hd, ht⟩ := (retryIn?_eq_some_iff hp).1 hretry
  simp only [observe_of_decisive? hd, observeDecisive, ht]

/-- Any other datagram leaves the record of Retries as it is. -/
theorem retry_observe_of_retryIn?_eq_none (hp : Datagram.parse? p.payload = some d)
    (hretry : retryIn? p = none) :
    (c.observe d p).1.retries = c.retries ∧ (c.observe d p).1.retryId = c.retryId := by
  rw [← retries_count (c := c) (d := d),
    show c.retryId = (c.count d).retryId from (id?_count .retry).symm]
  cases hd : d.decisive? with
  | none =>
    rw [observe_of_decisive?_eq_none hd]
    exact ⟨rfl, rfl⟩
  | some h =>
    rw [observe_of_decisive? hd]
    refine retry_observeDecisive fun ht => ?_
    rw [(retryIn?_eq_some_iff hp).2 ⟨hd, ht⟩] at hretry
    cases hretry

/-- Only the first Retry finds the counter at zero. -/
theorem RecallsRetry.retries_eq_zero_iff {past : List Packet} (hc : RecallsRetry past c) :
    c.retries = 0 ↔ past.filterMap retryIn? = [] := by
  have hlimit : counterLimit = 255 := rfl
  rw [hc.retries, ← List.length_eq_zero_iff]
  omega

theorem RecallsRetry.retryId_eq_none {past : List Packet} (hc : RecallsRetry past c)
    (hretries : c.retries = 0) : c.retryId = none := by
  rw [hc.retryId, hc.retries_eq_zero_iff.1 hretries]
  rfl

/-- One more Retry. It is the first one exactly if none has been counted, since the counter never
returns to zero. -/
theorem RecallsRetry.observeRetry {past : List Packet} (hc : RecallsRetry past c)
    (hretry : retryIn? p = some h) : RecallsRetry (past ++ [p]) ((c.count d).observeRetry h) := by
  have hpackets : (past ++ [p]).filterMap retryIn? = past.filterMap retryIn? ++ [h] := by
    simp [List.filterMap_append, hretry]
  have hretries : (c.count d).retries = c.retries := retries_count
  have hretryId : (c.count d).retryId = c.retryId := id?_count .retry
  by_cases hfirst : c.retries = 0
  · have hpast := hc.retries_eq_zero_iff.1 hfirst
    rw [observeRetry_of_first (hretries.trans hfirst)]
    constructor <;> rw [hpackets, hpast] <;> rfl
  · obtain ⟨first, rest, hpast⟩ := List.exists_cons_of_ne_nil (mt hc.retries_eq_zero_iff.2 hfirst)
    rw [observeRetry_of_later (hretries ▸ hfirst)]
    constructor
    · rw [hpackets, hretries, hc.retries, List.length_append, List.length_singleton]
      dsimp only
      omega
    · rw [hpackets, hretryId, hc.retryId, hpast]
      rfl

/-- One more datagram, with a Retry or without. -/
theorem RecallsRetry.observe {past : List Packet} (hc : RecallsRetry past c)
    (hp : Datagram.parse? p.payload = some d) :
    RecallsRetry (past ++ [p]) (c.observe d p).1 := by
  cases hretry : retryIn? p with
  | some h =>
    rw [observe_of_retryIn?_eq_some hp hretry]
    exact hc.observeRetry hretry
  | none =>
    have hpackets : (past ++ [p]).filterMap retryIn? = past.filterMap retryIn? := by
      simp [List.filterMap_append, hretry]
    obtain ⟨hretries, hretryId⟩ := retry_observe_of_retryIn?_eq_none (c := c) hp hretry
    constructor
    · rw [hretries, hpackets]
      exact hc.retries
    · rw [hretryId, hpackets]
      exact hc.retryId

/-! ## Runs -/

/-- What holds of a connection after the datagrams of a run. -/
structure WellRecorded (past : List Packet) (c : Connection) : Prop extends
    Coherent c, RecallsRetry past c where
  isEmpty_id? : ∀ role id, c.id? role = some id → id.isEmpty = false

theorem wellRecorded_empty : WellRecorded [] {} where
  isSome_serverPort := rfl
  isSome_version h := h
  isSome_tokenLength h := h
  isSome_of_multiplexed h := absurd h (Nat.lt_irrefl 0)
  multiplexed_le := Nat.zero_le _
  zeroRtt_le := Nat.zero_le _
  retries := rfl
  retryId := rfl
  isEmpty_id? role id hid := by cases role <;> cases hid

/-- One more datagram keeps all that holds of a run. -/
theorem WellRecorded.observe {past : List Packet} (hc : WellRecorded past c)
    (hp : Datagram.parse? p.payload = some d) :
    WellRecorded (past ++ [p]) (c.observe d p).1 where
  toCoherent := (hc.toCoherent.observe hp).1
  toRecallsRetry := hc.toRecallsRetry.observe hp
  isEmpty_id? role _ hid :=
    (learns_observe hc.retryId_eq_none role).isEmpty_eq_false (hc.isEmpty_id? role) hid

end Connection

end Quic

/-! ## The plugin of QUIC -/

namespace Plugin

open Quic (Connection Datagram IdRole learn retryIn?)

/-- **What a connection has shown stays.** Ids are not empty and fit, the first Initial of the
client tells version, port and token length at once, and none is foreign before it. The id of a
Retry is that of the first Retry of the run, however many there are. Whatever datagrams follow, ids,
client version and port stay as they are, and no count goes down. -/
theorem quic_run_persists (past future : List Packet) (o : Observation)
    (h : quic.run? past = some o) :
    ∃ c, o = .quic c ∧
      (∀ role id, c.id? role = some id → id.octets ≠ [] ∧ id.octets.length ≤ 20) ∧
      (c.clientVersion.isSome = true ↔ c.serverPort.isSome = true) ∧
      (c.clientVersion.isSome = true → c.version.isSome = true ∧ c.tokenLength.isSome = true) ∧
      (0 < c.multiplexed → c.clientVersion.isSome = true) ∧
      c.retries = min 255 (past.filterMap retryIn?).length ∧
      c.retryId = (past.filterMap retryIn?).head?.bind (fun r => learn none r.sourceId) ∧
      ∀ o', quic.run? (past ++ future) = some o' → ∃ c', o' = .quic c' ∧
        (∀ role id, c.id? role = some id → c'.id? role = some id) ∧ c.Continues c' := by
  have hrecorded {packets : List Packet} {o : Observation} (h : quic.run? packets = some o) :
      ∃ c, o = .quic c ∧ Connection.WellRecorded packets c :=
    exists_connection_of_run? Connection.wellRecorded_empty (fun _ _ _ _ hd hc => hc.observe hd) h
  obtain ⟨c, rfl, hc⟩ := hrecorded h
  refine ⟨c, rfl, ?_, ?_, ?_, hc.isSome_of_multiplexed, hc.retries, hc.retryId, ?_⟩
  · intro role id hid
    refine ⟨fun hnil => ?_, id.length_le⟩
    have hempty := hc.isEmpty_id? role id hid
    rw [Quic.ConnectionId.isEmpty, hnil] at hempty
    cases hempty
  · rw [hc.isSome_serverPort]
  · exact fun hclient => ⟨hc.isSome_version hclient, hc.isSome_tokenLength hclient⟩
  · intro o' h'
    refine run?_append_induct (P := fun o' => ∃ c', o' = .quic c' ∧
      (∀ role id, c.id? role = some id → c'.id? role = some id) ∧ c.Continues c')
      h ⟨c, rfl, fun _ _ hid => hid, .refl c⟩ ?_ h'
    rintro packets _ packet o₂ hrun ⟨c₁, rfl, hids, hcontinues⟩ htake
    obtain ⟨_, heq, hc₁⟩ := hrecorded hrun
    cases heq
    obtain ⟨d, hd, rfl⟩ := take?_quic_cases htake
    refine ⟨_, rfl, fun role id hid => ?_, hcontinues.trans (hc₁.toCoherent.observe hd).2⟩
    exact (Connection.learns_observe hc₁.retryId_eq_none role).eq_some (hids role id hid)

/-- An Initial of a client with the id `AA`. -/
def attemptedInitial : Packet where
  ipProtocol := IpProtocol.udp
  payload := .ofBytes [0xC0, 0, 0, 0, 1, 8, 1, 2, 3, 4, 5, 6, 7, 8, 1, 0xAA, 0, 0]

/-- A Retry that hands out an id of one octet. -/
def retryTo (id : UInt8) : Packet where
  ipProtocol := IpProtocol.udp
  payload := .ofBytes [0xF0, 0, 0, 0, 1, 1, 0xAA, 1, id, 0x5A]
  direction := .serverToClient

/-- A second Retry is counted, and the id of the first one stays. -/
theorem quic_run_persists_second_retry :
    ∃ c c', quic.run? [attemptedInitial, retryTo 0xB1] = some (.quic c) ∧
      quic.run? [attemptedInitial, retryTo 0xB1, retryTo 0xB2] = some (.quic c') ∧
      c.retryId.map (·.octets) = some [0xB1] ∧ c'.retryId = c.retryId ∧ c'.retries = 2 := by
  let c : Connection :=
    { version := some 1, clientVersion := some 1, tokenLength := some 0
      clientId := some ⟨[0xAA], by decide⟩
      originalServerId := some ⟨[1, 2, 3, 4, 5, 6, 7, 8], by decide⟩
      retryId := some ⟨[0xB1], by decide⟩, serverPort := some 0
      packetTypes := [2, 16], retries := 1 }
  have hpast : quic.run? [attemptedInitial, retryTo 0xB1] = some (.quic c) := by decide +kernel
  have hfuture : quic.run? [attemptedInitial, retryTo 0xB1, retryTo 0xB2] =
      some (.quic { c with packetTypes := [2, 16, 16], retries := 2 }) := by
    decide +kernel
  obtain ⟨_, heq, -, -, -, -, -, -, hlater⟩ :=
    quic_run_persists [attemptedInitial, retryTo 0xB1] [retryTo 0xB2] _ hpast
  cases heq
  obtain ⟨_, heq', hids, -⟩ := hlater _ hfuture
  cases heq'
  exact ⟨_, _, hpast, hfuture, rfl, hids .retry _ rfl, rfl⟩

end Plugin

end Flowmeter
