import AndroidTether.NetTypes

/-!
# One DNS-over-TLS connection

`dot_query_inner` of `dns_proxy.rs` over a byte stream in each direction.
The server cuts the bytes that reach it into queries and answers them in
order; a write or a read may stop anywhere, which leaves bytes of a query
unsent or bytes of an answer unread.
-/

namespace AndroidTether

open ByteWords Checked

/-- A message behind its length, `len as u16`. -/
def dnsFrame (message : Bytes) : Bytes :=
  beBytes 2 (message.length % 2 ^ 16) ++ message

/-- How a stream of such messages is cut. -/
def dnsDelimiter : Delimiter UInt8 where
  size input :=
    if input.length < 2 + beWordAt input 0 2 then none
    else some (2 + beWordAt input 0 2)
  size_pos := by
    intro input length sizeEq
    split at sizeEq
    · cases sizeEq
    · simp only [Option.some.injEq] at sizeEq
      omega
  size_le := by
    intro input length sizeEq
    split at sizeEq
    · cases sizeEq
    · simp only [Option.some.injEq] at sizeEq
      omega

theorem dnsDelimiter_size_some {input : Bytes} {length : Nat} :
    dnsDelimiter.size input = some length ↔
      2 + beWordAt input 0 2 = length ∧ length ≤ input.length := by
  simp only [dnsDelimiter]
  split
  · simp
    omega
  · simp
    omega

theorem dnsDelimiter_stable : dnsDelimiter.Stable := by
  intro input length following sizeEq
  obtain ⟨lengthEq, inside⟩ := dnsDelimiter_size_some.mp sizeEq
  have sameWord : beWordAt (input ++ following) 0 2 = beWordAt input 0 2 := by
    rw [beWordAt, beWordAt, List.drop_zero, List.drop_zero,
      List.take_append_of_le_length (by omega)]
  apply dnsDelimiter_size_some.mpr
  rw [sameWord, List.length_append]
  exact ⟨lengthEq, by omega⟩

@[simp]
theorem dnsFrame_length (message : Bytes) :
    (dnsFrame message).length = 2 + message.length := by
  simp [dnsFrame]

theorem beNat_dnsFrame {message : Bytes} (bounded : message.length < 2 ^ 16) :
    beNat ((dnsFrame message).take 2) = message.length := by
  rw [dnsFrame, List.take_left' (beBytes_length 2 _), beNat_beBytes]
  omega

theorem dnsFrame_complete {message : Bytes}
    (bounded : message.length < 2 ^ 16) :
    dnsDelimiter.Complete (dnsFrame message) := by
  intro following
  apply dnsDelimiter_stable
  apply dnsDelimiter_size_some.mpr
  rw [beWordAt, List.drop_zero, beNat_dnsFrame bounded, dnsFrame_length]
  exact ⟨rfl, le_rfl⟩

/-- The far end: its answer to the query with a given number on a given
connection. -/
structure DotServer where
  answer : Nat → Nat → Bytes → Bytes
  bounded : ∀ connection number query,
    (answer connection number query).length < 2 ^ 16

/-- All that the server sends back for the bytes that reached it. -/
def DotServer.stream (server : DotServer) (connection : Nat)
    (received : Bytes) : Bytes :=
  ((dnsDelimiter.items received).mapIdx fun number query =>
    dnsFrame (server.answer connection number (query.drop 2))).flatten

/-- A pooled connection by what went over it. -/
structure DotPooledConn where
  id : Nat
  /-- Bytes that reached the server. -/
  sent : Bytes
  /-- How many bytes of the answers have been read. -/
  taken : Nat
  /-- Whether an exchange on the connection has failed. -/
  failed : Bool
  deriving DecidableEq

inductive DotError
  | write
  | read
  | tooLarge
  deriving DecidableEq

/-- Where the writes and reads of one exchange stop, if they do. -/
structure DotCuts where
  lengthWrite : Option Nat
  queryWrite : Option Nat
  lengthRead : Option Nat
  answerRead : Option Nat

abbrev DotIo := EStateM DotError DotPooledConn

/-- `write_all`: after a failure any part of the bytes may have gone out. -/
def writeAll (bytes : Bytes) (cut : Option Nat) : DotIo Unit := fun conn =>
  match cut with
  | none => .ok () { conn with sent := conn.sent ++ bytes }
  | some delivered =>
    .error .write { conn with sent := conn.sent ++ bytes.take delivered }

/-- `read_exact`: it fails when the answer does not come in time, and may have
read a part of it by then. -/
def readExact (server : DotServer) (count : Nat) (cut : Option Nat) :
    DotIo Bytes := fun conn =>
  let ready := (server.stream conn.id conn.sent).drop conn.taken
  let read := ready.take (min count (cut.getD count))
  let after := { conn with taken := conn.taken + read.length }
  if read.length = count then .ok read after else .error .read after

def dotQueryInner (server : DotServer) (query : Bytes) (cuts : DotCuts) :
    DotIo Bytes := do
  writeAll (beBytes 2 (query.length % 2 ^ 16)) cuts.lengthWrite
  writeAll query cuts.queryWrite
  let lenBuf ← readExact server 2 cuts.lengthRead
  let respLen := beNat lenBuf
  if respLen > 4096 then throw .tooLarge
  else readExact server respLen cuts.answerRead

/-- `dot_query_pooled`. -/
def dotQueryPooled (server : DotServer) (query : Bytes) (cuts : DotCuts) :
    DotIo Bytes := fun conn =>
  match dotQueryInner server query cuts conn with
  | .ok resp conn => .ok resp conn
  | .error error conn => .error error { conn with failed := true }

/-- Nothing is outstanding: the server has whole queries only, and all its
answers have been read. -/
structure Settled (server : DotServer) (conn : DotPooledConn) : Prop where
  whole : dnsDelimiter.remainder conn.sent = []
  read : conn.taken = (server.stream conn.id conn.sent).length

/-- The server receives the query as a query of its own, and the response is
its answer to that one. -/
def OwnAnswer (server : DotServer) (conn : DotPooledConn)
    (query resp : Bytes) : Prop :=
  dnsDelimiter.items (conn.sent ++ dnsFrame query) =
      dnsDelimiter.items conn.sent ++ [dnsFrame query] ∧
    resp = server.answer conn.id (dnsDelimiter.items conn.sent).length query

theorem items_sent {conn : DotPooledConn}
    (whole : dnsDelimiter.remainder conn.sent = []) {query : Bytes}
    (bounded : query.length < 2 ^ 16) :
    dnsDelimiter.items (conn.sent ++ dnsFrame query) =
      dnsDelimiter.items conn.sent ++ [dnsFrame query] := by
  have stops : dnsDelimiter.size [] = none := rfl
  have single := Delimiter.items_append_of_complete
    (dnsFrame_complete bounded) []
  rw [List.append_nil, Delimiter.items_of_none stops] at single
  rw [Delimiter.items_append dnsDelimiter_stable whole, single]

theorem stream_sent (server : DotServer) {conn : DotPooledConn}
    (whole : dnsDelimiter.remainder conn.sent = []) {query : Bytes}
    (bounded : query.length < 2 ^ 16) :
    server.stream conn.id (conn.sent ++ dnsFrame query) =
      server.stream conn.id conn.sent ++ dnsFrame (server.answer conn.id
        (dnsDelimiter.items conn.sent).length query) := by
  have message : (dnsFrame query).drop 2 = query :=
    List.drop_left' (beBytes_length 2 _)
  rw [DotServer.stream, items_sent whole bounded, List.mapIdx_append,
    List.flatten_append, DotServer.stream]
  simp [message]

theorem bind_eq_ok_iff {α β : Type} {first : DotIo α} {next : α → DotIo β}
    {conn after : DotPooledConn} {result : β} :
    (first >>= next) conn = .ok result after ↔
      ∃ value between, first conn = .ok value between ∧
        next value between = .ok result after := by
  change EStateM.bind first next conn = _ ↔ _
  unfold EStateM.bind
  cases firstEq : first conn <;> simp

theorem bind_of_ok {α β : Type} {first : DotIo α} {conn between : DotPooledConn}
    {value : α} (done : first conn = .ok value between) (next : α → DotIo β) :
    (first >>= next) conn = next value between := by
  change EStateM.bind first next conn = _
  rw [EStateM.bind, done]

theorem writeAll_none (bytes : Bytes) (conn : DotPooledConn) :
    writeAll bytes none conn =
      .ok () { conn with sent := conn.sent ++ bytes } :=
  rfl

theorem writeAll_ok {bytes : Bytes} {cut : Option Nat}
    {conn after : DotPooledConn} (written : writeAll bytes cut conn = .ok () after) :
    after = { conn with sent := conn.sent ++ bytes } := by
  cases cut with
  | none =>
      cases written
      rfl
  | some delivered => cases written

/-- A read that completes takes the next bytes of the stream. -/
theorem readExact_ok {server : DotServer} {count : Nat} {cut : Option Nat}
    {conn after : DotPooledConn} {bytes : Bytes}
    (read : readExact server count cut conn = .ok bytes after) :
    bytes = ((server.stream conn.id conn.sent).drop conn.taken).take count ∧
      bytes.length = count ∧
      after = { conn with taken := conn.taken + count } := by
  unfold readExact at read
  dsimp only at read
  split at read
  case isFalse => cases read
  case isTrue complete =>
    cases read
    have cutLength := complete
    rw [List.length_take] at cutLength
    have whole : min count (cut.getD count) = count := by omega
    rw [whole] at complete ⊢
    exact ⟨rfl, complete, by rw [complete]⟩

/-- An exchange that begins with nothing outstanding and succeeds returns the
answer to its own query, and leaves nothing outstanding. -/
theorem dotQueryInner_ok {server : DotServer} {query resp : Bytes}
    {cuts : DotCuts} {conn after : DotPooledConn}
    (bounded : query.length < 2 ^ 16) (settled : Settled server conn)
    (answered : dotQueryInner server query cuts conn = .ok resp after) :
    OwnAnswer server conn query resp ∧ Settled server after ∧
      after.failed = conn.failed := by
  unfold dotQueryInner at answered
  obtain ⟨⟨⟩, lengthSent, lengthWritten, querying⟩ :=
    bind_eq_ok_iff.mp answered
  obtain ⟨⟨⟩, querySent, queryWritten, reading⟩ := bind_eq_ok_iff.mp querying
  obtain ⟨lenBuf, lengthTaken, lengthRead, finishing⟩ :=
    bind_eq_ok_iff.mp reading
  have sentEq := writeAll_ok queryWritten
  rw [writeAll_ok lengthWritten] at sentEq
  dsimp only at sentEq
  rw [List.append_assoc, ← dnsFrame] at sentEq
  subst sentEq
  obtain ⟨answer, answerEq⟩ : ∃ answer, answer =
      server.answer conn.id (dnsDelimiter.items conn.sent).length query :=
    ⟨_, rfl⟩
  have answerBounded : answer.length < 2 ^ 16 :=
    answerEq ▸ server.bounded ..
  have ready : (server.stream conn.id (conn.sent ++ dnsFrame query)).drop
      conn.taken = dnsFrame answer := by
    rw [stream_sent server settled.whole bounded, settled.read, ← answerEq]
    exact List.drop_left
  obtain ⟨lenBufEq, -, lengthTakenEq⟩ := readExact_ok lengthRead
  dsimp only at lenBufEq lengthTakenEq
  rw [ready] at lenBufEq
  have respLen : beNat lenBuf = answer.length := by
    rw [lenBufEq, beNat_dnsFrame answerBounded]
  rw [respLen] at finishing
  split at finishing
  case isTrue => cases finishing
  case isFalse =>
    obtain ⟨respEq, -, afterEq⟩ := readExact_ok finishing
    subst lengthTakenEq
    dsimp only at respEq afterEq
    have behind : (dnsFrame answer).drop 2 = answer :=
      List.drop_left' (beBytes_length 2 _)
    rw [← List.drop_drop, ready, behind, List.take_length] at respEq
    subst afterEq
    have items := items_sent settled.whole bounded
    refine ⟨⟨items, respEq.trans answerEq⟩, ⟨?_, ?_⟩, rfl⟩
    · change dnsDelimiter.remainder (conn.sent ++ dnsFrame query) = []
      have stops : dnsDelimiter.size [] = none := rfl
      have complete := Delimiter.remainder_append_of_complete
        (dnsFrame_complete bounded) []
      rw [List.append_nil, Delimiter.remainder_of_none stops] at complete
      rw [Delimiter.remainder_append dnsDelimiter_stable settled.whole,
        complete]
    · change conn.taken + 2 + answer.length =
        (server.stream conn.id (conn.sent ++ dnsFrame query)).length
      rw [stream_sent server settled.whole bounded, List.length_append,
        dnsFrame_length, settled.read, ← answerEq]
      omega

/-- A connection nothing has gone over. -/
theorem settled_fresh (server : DotServer) (id : Nat) :
    Settled server ⟨id, [], 0, false⟩ where
  whole := Delimiter.remainder_of_none rfl
  read := by
    have noItems : dnsDelimiter.items [] = [] := Delimiter.items_of_none rfl
    rw [DotServer.stream, noItems]
    rfl

/-- The outcome of an exchange, for the exchange after it. -/
theorem dotQueryPooled_cases (server : DotServer) (query : Bytes)
    (cuts : DotCuts) (conn : DotPooledConn)
    (bounded : query.length < 2 ^ 16) :
    (∃ error after, dotQueryPooled server query cuts conn =
        .error error after ∧ after.failed = true) ∨
      ∃ resp after, dotQueryPooled server query cuts conn = .ok resp after ∧
        (Settled server conn → OwnAnswer server conn query resp ∧
          Settled server after ∧ after.failed = conn.failed) := by
  unfold dotQueryPooled
  cases inner : dotQueryInner server query cuts conn with
  | error error after => exact .inl ⟨error, _, rfl, rfl⟩
  | ok resp after =>
      exact .inr ⟨resp, after, rfl, fun settled =>
        dotQueryInner_ok bounded settled inner⟩

/-- An exchange that is not interrupted returns the next answer in the stream,
whichever query that one belongs to. -/
theorem dotQueryPooled_next {server : DotServer} {query answer rest : Bytes}
    {conn : DotPooledConn} (bounded : answer.length ≤ 4096)
    (next : (server.stream conn.id (conn.sent ++ dnsFrame query)).drop
      conn.taken = dnsFrame answer ++ rest) :
    dotQueryPooled server query ⟨none, none, none, none⟩ conn = .ok answer
      { conn with
        sent := conn.sent ++ dnsFrame query
        taken := conn.taken + (2 + answer.length) } := by
  have head : (dnsFrame answer ++ rest).take 2 = (dnsFrame answer).take 2 :=
    List.take_append_of_le_length (by simp)
  have body : ((dnsFrame answer ++ rest).drop 2).take answer.length =
      answer := by
    rw [dnsFrame, List.append_assoc, List.drop_left' (beBytes_length 2 _)]
    exact List.take_left
  have lengthRead : readExact server 2 none
      { conn with sent := conn.sent ++ dnsFrame query } =
        .ok ((dnsFrame answer).take 2)
          { conn with
            sent := conn.sent ++ dnsFrame query
            taken := conn.taken + 2 } := by
    simp [readExact, next, head]
  have answerRead : readExact server answer.length none
      { conn with
        sent := conn.sent ++ dnsFrame query
        taken := conn.taken + 2 } = .ok answer
          { conn with
            sent := conn.sent ++ dnsFrame query
            taken := conn.taken + (2 + answer.length) } := by
    simp [readExact, ← List.drop_drop, next, body, Nat.add_assoc]
  have respLen : beNat ((dnsFrame answer).take 2) = answer.length :=
    beNat_dnsFrame (by omega)
  have inner : dotQueryInner server query ⟨none, none, none, none⟩ conn =
      .ok answer { conn with
        sent := conn.sent ++ dnsFrame query
        taken := conn.taken + (2 + answer.length) } := by
    refine (bind_of_ok (writeAll_none _ conn) _).trans ?_
    refine (bind_of_ok (writeAll_none _ _) _).trans ?_
    dsimp only
    rw [List.append_assoc, ← dnsFrame]
    refine (bind_of_ok lengthRead _).trans ?_
    rw [respLen, if_neg (by omega), answerRead]
  rw [dotQueryPooled, inner]

theorem dotQueryPooled_timeout (server : DotServer) (query : Bytes)
    (conn : DotPooledConn) :
    dotQueryPooled server query ⟨none, none, some 0, none⟩ conn = .error .read
      { conn with sent := conn.sent ++ dnsFrame query, failed := true } := by
  rw [dnsFrame, ← List.append_assoc]
  rfl

end AndroidTether
