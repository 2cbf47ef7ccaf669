import AndroidTether.DnsLeak

/-!
# What is diverted to the resolver

Every packet that reaches the resolver has passed `is_dns_to_gateway`, so that
a reply can be built for it.  That it is the start of a DNS datagram takes
more: the header length, the fragment offset and the length of the DNS message
are not looked at.
-/

namespace AndroidTether

open ByteWords Checked OnesComplement

/-- A query as the TX loop cuts it out of a packet. -/
def Intercepted (item : Bytes × Bytes) : Prop :=
  ∃ config tbuf tlen, tlen ≤ tbuf.length ∧ item.1 = tbuf.take tlen ∧
    interceptedQuery config tbuf tlen = .ok (some item.2)

/-- What the TX loop diverts, it has cut out of its buffer. -/
theorem diverted_from_buffer {config : TxConfig}
    (encrypted : config.dnsMode ≠ .system) {trace : List TxEvent}
    {s : TxState} (run : Run (TxStep config) .initial trace s)
    {packet query : Bytes} {sent : Bool}
    (diverted : .diverted packet query sent ∈ trace) :
    ∃ tbuf tlen, tlen ≤ tbuf.length ∧ packet = tbuf.take tlen ∧
      interceptedQuery config tbuf tlen = .ok (some query) := by
  obtain ⟨earlier, later, rfl⟩ := List.append_of_mem diverted
  obtain ⟨before, next, earlierRun, taken, -⟩ := run.split
  have inv := TxInvariant.of_run encrypted earlierRun
  cases taken with
  | @intercept count tlen query atPc isQuery =>
      have accounted := inv.accounted
      rw [atPc] at accounted
      exact ⟨before.tbuf, tlen, accounted.1, rfl, isQuery⟩

/-- Whatever the TX loop diverts has been intercepted. -/
theorem intercepted_of_diverted {config : TxConfig}
    (encrypted : config.dnsMode ≠ .system) {trace : List TxEvent}
    {s : TxState} (run : Run (TxStep config) .initial trace s)
    {packet query : Bytes} {sent : Bool}
    (diverted : .diverted packet query sent ∈ trace) :
    Intercepted (packet, query) :=
  ⟨config, diverted_from_buffer encrypted run diverted⟩

theorem QueryPacket.intercepted {ourIp : Ipv4Addr}
    (packet : QueryPacket ourIp) : Intercepted (packet.bytes, packet.query) := by
  let config : TxConfig := { encryptedConfig with ourIp := ourIp }
  refine ⟨config, packet.bytes, packet.bytes.length, le_rfl,
    List.take_length.symm, ?_⟩
  have front := interceptedQuery_append config packet.bytes []
  rw [List.append_nil] at front
  have query := packet.dnsQuery_eq []
  rw [List.append_nil] at query
  rw [front, packet.isDnsToGateway_eq, ok_bind]
  dsimp only
  rw [query]
  rfl

/-- `build_reply` does not panic on a packet that holds a whole UDP header. -/
theorem buildReply_eq_ok (build : Build) {orig : Bytes}
    (long : 44 ≤ orig.length)
    (udpHeader : 4 + ipHeaderLength (orig.drop 4) + 8 ≤ orig.length)
    (dnsResp : Bytes) :
    ∃ reply, buildReply build orig dnsResp = .ok reply := by
  have ipLength : (orig.drop 4).length = orig.length - 4 := by simp
  have udpStart : (((orig.drop 4).getD 0 0 &&& 0x0F) * 4).toNat =
      ipHeaderLength (orig.drop 4) := rfl
  have afLength : ((orig.drop 0).take (4 - 0)).length = 4 := by
    simp
    omega
  have dstLength : (((orig.drop 4).drop 16).take (20 - 16)).length = 4 := by
    simp
    omega
  have srcLength : (((orig.drop 4).drop 12).take (16 - 12)).length = 4 := by
    simp
    omega
  rw [buildReply, range_to_end (by omega), ok_bind, index_eq_ok (by omega),
    ok_bind, udpStart]
  dsimp only
  rw [range_eq_ok (by decide) (by omega), ok_bind,
    range_eq_ok (by decide) (by omega), ok_bind,
    range_eq_ok (by decide) (by omega), ok_bind]
  generalize outEq : List.take (4 - 0) (List.drop 0 orig) ++ _ ++ _ ++ _ ++ _ =
    out
  have outLength : out.length = 24 := by
    rw [← outEq]
    simp only [List.length_append, afLength, dstLength, srcLength,
      List.length_replicate, List.length_cons, List.length_nil]
  rw [outLength, subtract_eq_ok (by decide), ok_bind,
    range_eq_ok (by decide) (by omega), ok_bind]
  rw [ipChecksum_eq_ok build (by simp), ok_bind, store_eq_ok (by omega),
    ok_bind, store_eq_ok (by rw [patch_length (by simp; omega)]; omega), ok_bind,
    range_to_end (by omega), ok_bind,
    range_eq_ok (by decide) (by simp; omega), ok_bind,
    range_eq_ok (by decide) (by simp; omega), ok_bind]
  exact ⟨_, rfl⟩

theorem Intercepted.buildReply_eq_ok {item : Bytes × Bytes}
    (intercepted : Intercepted item) (build : Build) (dnsResp : Bytes) :
    ∃ reply, buildReply build item.1 dnsResp = .ok reply := by
  obtain ⟨config, tbuf, tlen, inside, packetEq, isQuery⟩ := intercepted
  rcases isDnsToGateway_cases (tbuf.take tlen) config.ourIp
    config.gatewayIp with ⟨taken, -⟩ | ⟨-, passed⟩
  · rw [packetEq]
    exact AndroidTether.buildReply_eq_ok build taken.long taken.udp_inside
      dnsResp
  · rw [interceptedQuery, range_eq_ok (Nat.zero_le _) inside, ok_bind,
      List.drop_zero, Nat.sub_zero, passed] at isQuery
    cases isQuery

/-- The packet is the start of a DNS datagram from `ourIp`, and its last
`dnsLen` bytes are a DNS message with a whole header. -/
structure SoundlyTaken (ourIp : Ipv4Addr) (packet : Bytes) (dnsLen : Nat) :
    Prop where
  datagram : IsDnsDatagram ourIp (packet.drop 4)
  query_behind :
    packet.length = 4 + ipHeaderLength (packet.drop 4) + 8 + dnsLen
  query_long : 12 ≤ dnsLen

/-- What the interceptor takes for granted. -/
structure QueryBehindHeader (packet : Bytes) : Prop where
  header : 20 ≤ ipHeaderLength (packet.drop 4)
  first_fragment : beWordAt (packet.drop 4) 6 2 % 0x2000 = 0
  room : 4 + ipHeaderLength (packet.drop 4) + 8 + 12 ≤ packet.length

theorem TakenForDns.soundlyTaken_iff {ourIp : Ipv4Addr} {packet : Bytes}
    (taken : TakenForDns ourIp packet) :
    SoundlyTaken ourIp packet
        (packet.length - (4 + ipHeaderLength (packet.drop 4) + 8)) ↔
      QueryBehindHeader packet := by
  have inside := taken.udp_inside
  constructor
  · rintro ⟨datagram, behind, long⟩
    exact ⟨datagram.header, datagram.first_fragment, by omega⟩
  · rintro ⟨header, firstFragment, room⟩
    exact
      { datagram :=
          { version := taken.version
            header := header
            udp_inside := by rw [List.length_drop]; omega
            protocol := taken.protocol
            first_fragment := firstFragment
            source := taken.source
            port := taken.port }
        query_behind := by omega
        query_long := by omega }

theorem interceptedQuery_some {config : TxConfig} {tbuf query : Bytes}
    {tlen : Nat} (inside : tlen ≤ tbuf.length)
    (isQuery : interceptedQuery config tbuf tlen = .ok (some query)) :
    isDnsToGateway (tbuf.take tlen) config.ourIp config.gatewayIp =
      .ok (some query.length) := by
  have packetLength : (tbuf.take tlen).length = tlen := by simp [inside]
  rw [interceptedQuery, range_eq_ok (Nat.zero_le _) inside, ok_bind,
    List.drop_zero, Nat.sub_zero] at isQuery
  rcases isDnsToGateway_cases (tbuf.take tlen) config.ourIp
    config.gatewayIp with ⟨taken, isDns⟩ | ⟨-, passed⟩
  · have bounded : (tbuf.take tlen).length -
        (4 + ipHeaderLength ((tbuf.take tlen).drop 4) + 8) ≤ tlen := by
      omega
    generalize (tbuf.take tlen).length -
      (4 + ipHeaderLength ((tbuf.take tlen).drop 4) + 8) = dnsLen
      at isDns bounded
    rw [isDns, ok_bind] at isQuery
    dsimp only at isQuery
    rw [dnsQuery, subtract_eq_ok bounded, ok_bind,
      range_eq_ok (by omega) inside, ok_bind] at isQuery
    cases isQuery
    have queryLength : ((tbuf.drop (tlen - dnsLen)).take
        (tlen - (tlen - dnsLen))).length = dnsLen := by
      simp
      omega
    rw [isDns, queryLength]
  · rw [passed] at isQuery
    cases isQuery

theorem isDnsToGateway_of_diverted {config : TxConfig}
    (encrypted : config.dnsMode ≠ .system) {trace : List TxEvent}
    {s : TxState} (run : Run (TxStep config) .initial trace s)
    {packet query : Bytes} {sent : Bool}
    (diverted : .diverted packet query sent ∈ trace) :
    isDnsToGateway packet config.ourIp config.gatewayIp =
      .ok (some query.length) := by
  obtain ⟨tbuf, tlen, inside, rfl, isQuery⟩ :=
    diverted_from_buffer encrypted run diverted
  exact interceptedQuery_some inside isQuery

/-- A hit of the interceptor is sound exactly when the packet has what is not
looked at; so are the packets that a TX loop diverts. -/
theorem interception_sound_iff {config : TxConfig}
    (encrypted : config.dnsMode ≠ .system) :
    (∀ packet dnsLen,
      isDnsToGateway packet config.ourIp config.gatewayIp =
          .ok (some dnsLen) →
        (SoundlyTaken config.ourIp packet dnsLen ↔
          QueryBehindHeader packet)) ∧
    ∀ trace s, Run (TxStep config) .initial trace s →
      ((∀ packet query sent, .diverted packet query sent ∈ trace →
          SoundlyTaken config.ourIp packet query.length) ↔
        ∀ packet query sent, .diverted packet query sent ∈ trace →
          QueryBehindHeader packet) := by
  have hit (packet : Bytes) (dnsLen : Nat)
      (isDns : isDnsToGateway packet config.ourIp config.gatewayIp =
        .ok (some dnsLen)) :
      SoundlyTaken config.ourIp packet dnsLen ↔ QueryBehindHeader packet := by
    obtain ⟨taken, rfl⟩ := isDnsToGateway_eq_some_iff.mp isDns
    exact taken.soundlyTaken_iff
  refine ⟨hit, fun trace s run => ?_⟩
  have diverted {packet query : Bytes} {sent : Bool}
      (member : .diverted packet query sent ∈ trace) :=
    hit packet query.length (isDnsToGateway_of_diverted encrypted run member)
  exact ⟨fun sound packet query sent member =>
      (diverted member).mp (sound packet query sent member),
    fun behind packet query sent member =>
      (diverted member).mpr (behind packet query sent member)⟩

theorem coldQuery_soundlyTaken :
    SoundlyTaken encryptedConfig.ourIp coldQuery.bytes
      coldQuery.query.length := by
  refine ((@interception_sound_iff encryptedConfig
    (by decide)).1 _ _ (coldQuery.isDnsToGateway_eq _)).mpr ?_
  exact ⟨by decide, by decide, by decide⟩

/-- A later fragment of a UDP datagram from our address; where a first
fragment has its destination port, this one has 53. -/
def laterFragment : Bytes :=
  [0, 0, 0, 2, 0x45, 0, 0, 40, 0, 7, 0, 185, 64, 17, 0, 0] ++
    encryptedConfig.ourIp.octets ++ [1, 1, 1, 1, 0, 0, 0, 53] ++
    List.replicate 16 0

theorem laterFragment_not_soundlyTaken :
    isDnsToGateway laterFragment encryptedConfig.ourIp
        encryptedConfig.gatewayIp = .ok (some 12) ∧
      ¬ SoundlyTaken encryptedConfig.ourIp laterFragment 12 := by
  refine ⟨by decide, fun sound => ?_⟩
  have firstFragment := sound.datagram.first_fragment
  revert firstFragment
  decide

end AndroidTether
