import AndroidTether.IpcServer
import AndroidTether.Transition

/-!
# What the clients of the IPC server receive

The byte stream of one client is made of what its socket has taken of each
broadcast.  `broadcast` keeps a client whose `write_all` has failed, so a
message that was cut short can be followed by a later one.
-/

namespace AndroidTether

/-- The bytes of a broadcast, and how many of them a client's socket took. -/
structure IpcPiece where
  data : Bytes
  count : Nat

namespace IpcPiece

def taken (piece : IpcPiece) : Bytes :=
  piece.data.take piece.count

/-- `write_all` failed behind the first byte of the message. -/
def Cut (piece : IpcPiece) : Prop :=
  0 < piece.count ∧ piece.count < piece.data.length

end IpcPiece

/-- What an event writes to a client. -/
def IpcEvent.piece (id : Nat) : IpcEvent → Option IpcPiece
  | .sent data writes =>
    match writes id with
    | some (.taken count) => some ⟨data, count⟩
    | some .notCloned | none => none
  | .connected _ | .received .. | .ended .. | .polled .. => none

/-- The writes to a client's socket, in order. -/
def pieces (id : Nat) (trace : List IpcEvent) : List IpcPiece :=
  trace.filterMap (IpcEvent.piece id)

/-- The byte stream that the client receives. -/
def outputStream (id : Nat) (trace : List IpcEvent) : Bytes :=
  (pieces id trace).flatMap IpcPiece.taken

/-- The messages of all broadcasts, in order. -/
def broadcasts (trace : List IpcEvent) : List Bytes :=
  trace.filterMap fun
    | .sent data _ => some data
    | .connected _ | .received .. | .ended .. | .polled .. => none

/-- What is asked of a client's stream. -/
structure Framed (trace : List IpcEvent) (id : Nat) : Prop where
  /-- Every message is one whole line. -/
  lines : ∀ data ∈ broadcasts trace, ∃ json, data = json ++ [newline] ∧
    newline ∉ json
  /-- The stream is the front of some of the messages in their order. -/
  front : ∃ messages : List Bytes, messages.Sublist (broadcasts trace) ∧
    outputStream id trace <+: messages.flatten
  /-- Nothing follows a message that was cut short. -/
  last : (pieces id trace).Pairwise fun piece behind =>
    piece.Cut → behind.count = 0

/-- The condition on the clients that are still in the server's list when a
broadcast begins: a socket that has stopped inside a message before cannot be
cloned now or is still full. -/
def StayStopped (history : List (Taken IpcServer IpcEvent)) : Prop :=
  ∀ earlier step later, history = earlier ++ step :: later →
    ∀ data writes, step.label = .sent data writes →
      ∀ id ∈ step.before.clients,
        (∃ piece ∈ pieces id (earlier.map Taken.label), piece.Cut) →
          writes id = some .notCloned ∨ writes id = some (.taken 0)

theorem pieces_append (id : Nat) (earlier later : List IpcEvent) :
    pieces id (earlier ++ later) = pieces id earlier ++ pieces id later :=
  List.filterMap_append

theorem broadcasts_append (earlier later : List IpcEvent) :
    broadcasts (earlier ++ later) = broadcasts earlier ++ broadcasts later :=
  List.filterMap_append

theorem outputStream_append (id : Nat) (earlier later : List IpcEvent) :
    outputStream id (earlier ++ later) =
      outputStream id earlier ++ outputStream id later := by
  rw [outputStream, pieces_append, List.flatMap_append]
  rfl

section

variable {trace : List IpcEvent} {event : IpcEvent} {id : Nat}
  {piece : IpcPiece}

theorem pieces_singleton_of_piece (isPiece : event.piece id = some piece) :
    pieces id [event] = [piece] := by
  rw [pieces, List.filterMap_cons, isPiece]
  rfl

theorem pieces_singleton_of_none (noPiece : event.piece id = none) :
    pieces id [event] = [] := by
  rw [pieces, List.filterMap_cons, noPiece]
  rfl

theorem exists_sent (isPiece : event.piece id = some piece) :
    ∃ writes, event = .sent piece.data writes ∧
      writes id = some (.taken piece.count) := by
  cases event with
  | connected | received | ended | polled => cases isPiece
  | sent data writes =>
      rw [IpcEvent.piece] at isPiece
      split at isPiece
      · cases isPiece
        exact ⟨writes, rfl, ‹_›⟩
      · cases isPiece
      · cases isPiece

/-- A broadcast goes to the clients that are in the list. -/
theorem IpcStep.offered_iff {serde : SerdeJson} {s next : IpcServer}
    {data : Bytes} {writes : Nat → Option IpcWrite}
    (taken : IpcStep serde s (.sent data writes) next) :
    (writes id).isSome ↔ id ∈ s.clients := by
  cases taken with
  | send message offered fits => exact offered id

/-- The client gets nothing from the event if it was left inside a message. -/
def Quiet (trace : List IpcEvent) (id : Nat) (event : IpcEvent) : Prop :=
  ∀ piece, event.piece id = some piece →
    ∀ before ∈ pieces id trace, before.Cut → piece.count = 0

/-- As long as no message was cut short, the stream consists of whole
messages. -/
structure Whole (trace : List IpcEvent) (id : Nat) (messages : List Bytes) :
    Prop where
  sublist : messages.Sublist (broadcasts trace)
  front : outputStream id trace <+: messages.flatten
  whole : (∀ piece ∈ pieces id trace, ¬ piece.Cut) →
    outputStream id trace = messages.flatten

theorem Whole.step {messages : List Bytes}
    (before : Whole trace id messages) (quiet : Quiet trace id event) :
    ∃ messages, Whole (trace ++ [event]) id messages := by
  have sublist : messages.Sublist (broadcasts (trace ++ [event])) := by
    rw [broadcasts_append]
    exact before.sublist.trans (List.sublist_append_left _ _)
  cases isPiece : event.piece id with
  | none =>
      have streamEq :
          outputStream id (trace ++ [event]) = outputStream id trace := by
        rw [outputStream_append, outputStream, outputStream,
          pieces_singleton_of_none isPiece, List.flatMap_nil, List.append_nil]
      refine ⟨messages, sublist, streamEq ▸ before.front, fun uncut => ?_⟩
      rw [streamEq]
      refine before.whole fun piece member => uncut piece ?_
      rw [pieces_append]
      exact List.mem_append_left _ member
  | some piece =>
      have streamEq : outputStream id (trace ++ [event]) =
          outputStream id trace ++ piece.taken := by
        rw [outputStream_append, outputStream, outputStream,
          pieces_singleton_of_piece isPiece, List.flatMap_singleton]
      have wasUncut (uncut : ∀ piece ∈ pieces id (trace ++ [event]),
          ¬ piece.Cut) : ∀ piece ∈ pieces id trace, ¬ piece.Cut :=
        fun piece member => uncut piece (by
          rw [pieces_append]
          exact List.mem_append_left _ member)
      by_cases nothing : piece.count = 0
      · have takenEq : piece.taken = [] := by
          rw [IpcPiece.taken, nothing, List.take_zero]
        rw [takenEq, List.append_nil] at streamEq
        exact ⟨messages, sublist, streamEq ▸ before.front,
          fun uncut => streamEq.trans (before.whole (wasUncut uncut))⟩
      · have uncutBefore : ∀ piece ∈ pieces id trace, ¬ piece.Cut :=
          fun earlier member cut =>
            nothing (quiet piece isPiece earlier member cut)
        have wholeBefore := before.whole uncutBefore
        obtain ⟨writes, rfl, -⟩ := exists_sent isPiece
        refine ⟨messages ++ [piece.data], ?_, ?_, fun uncut => ?_⟩
        · rw [broadcasts_append]
          exact before.sublist.append (List.Sublist.refl [piece.data])
        · rw [streamEq, wholeBefore, List.flatten_append,
            List.flatten_singleton]
          exact (List.prefix_append_right_inj _).mpr (List.take_prefix _ _)
        · have notCut := uncut piece (by
            rw [pieces_append, pieces_singleton_of_piece isPiece]
            exact List.mem_concat_self)
          have complete : piece.data.length ≤ piece.count := by
            simp only [IpcPiece.Cut, not_and, not_lt] at notCut
            exact notCut (Nat.pos_of_ne_zero nothing)
          rw [streamEq, wholeBefore, List.flatten_append,
            List.flatten_singleton, IpcPiece.taken,
            List.take_of_length_le complete]

end

theorem SerdeJson.Message.line {serde : SerdeJson} {data : Bytes}
    (message : serde.Message data) :
    ∃ json, data = json ++ [newline] ∧ newline ∉ json := by
  rcases message with ⟨stats, encoded⟩ | ⟨state, ip, iface, encoded⟩
  · obtain ⟨json, jsonEq, rfl⟩ := Option.map_eq_some_iff.mp encoded
    exact ⟨json, rfl, serde.stats_oneLine jsonEq⟩
  · obtain ⟨json, jsonEq, rfl⟩ := Option.map_eq_some_iff.mp encoded
    exact ⟨json, rfl, serde.state_oneLine jsonEq⟩

section

variable {serde : SerdeJson} {trace : List IpcEvent} {s : IpcServer}

theorem broadcasts_line (run : Run (IpcStep serde) .new trace s) :
    ∀ data ∈ broadcasts trace, ∃ json, data = json ++ [newline] ∧
      newline ∉ json := by
  induction run with
  | nil => exact fun _ member => absurd member List.not_mem_nil
  | snoc run taken ih =>
      intro data member
      rw [broadcasts_append] at member
      rcases List.mem_append.mp member with before | isLast
      · exact ih data before
      · cases taken with
        | connect | receive | finish | poll => cases isLast
        | send message =>
            cases List.mem_singleton.mp isLast
            exact message.line

end

section

variable {serde : SerdeJson} {history : List (Taken IpcServer IpcEvent)}
  {s : IpcServer}

theorem StayStopped.of_append {later : List (Taken IpcServer IpcEvent)}
    (stay : StayStopped (history ++ later)) : StayStopped history := by
  rintro earlier step rest rfl
  exact stay earlier step (rest ++ later) (by simp)

theorem StayStopped.quiet {step : Taken IpcServer IpcEvent}
    (stay : StayStopped (history ++ [step]))
    (taken : IpcStep serde step.before step.label step.after) (id : Nat) :
    Quiet (history.map Taken.label) id step.label := by
  intro piece isPiece before member cut
  obtain ⟨writes, isSent, written⟩ := exists_sent isPiece
  -- what is written is written to a client of the list
  have served : id ∈ step.before.clients := by
    rw [isSent] at taken
    exact taken.offered_iff.mp (by rw [written]; rfl)
  have outcome := stay history step [] rfl piece.data writes isSent id served
    ⟨before, member, cut⟩
  rw [written] at outcome
  rcases outcome with notCloned | nothing
  · cases notCloned
  · exact IpcWrite.taken.inj (Option.some.inj nothing)

theorem exists_whole (id : Nat)
    (run : Run (Recorded (IpcStep serde)) .new history s)
    (stay : StayStopped history) :
    ∃ messages, Whole (history.map Taken.label) id messages := by
  induction run with
  | nil => exact ⟨[], .slnil, List.prefix_refl _, fun _ => rfl⟩
  | snoc run recorded ih =>
      obtain ⟨messages, whole⟩ := ih stay.of_append
      obtain ⟨taken⟩ := recorded
      rw [List.map_append]
      exact whole.step (stay.quiet taken id)

theorem pieces_pairwise (id : Nat)
    (run : Run (Recorded (IpcStep serde)) .new history s)
    (stay : StayStopped history) :
    (pieces id (history.map Taken.label)).Pairwise fun piece behind =>
      piece.Cut → behind.count = 0 := by
  induction run with
  | nil => exact .nil
  | snoc run recorded ih =>
      obtain ⟨taken⟩ := recorded
      have quiet := stay.quiet taken id
      rw [List.map_append, pieces_append]
      refine List.pairwise_append.mpr ⟨ih stay.of_append, ?_, ?_⟩
      · exact List.pairwise_filterMap.mpr (List.pairwise_singleton _ _)
      · intro before member behind isPiece cut
        obtain ⟨event, isLast, pieceEq⟩ := List.mem_filterMap.mp isPiece
        cases List.mem_singleton.mp isLast
        exact quiet behind pieceEq before member cut

theorem stayStopped_of_pairwise
    (run : Run (Recorded (IpcStep serde)) .new history s)
    (last : ∀ id, (pieces id (history.map Taken.label)).Pairwise
      fun piece behind => piece.Cut → behind.count = 0) :
    StayStopped history := by
  rintro earlier step later rfl data writes isSent id served
    ⟨piece, member, cut⟩
  have taken := Recorded.step_of_mem run
    (List.mem_append_right earlier List.mem_cons_self)
  rw [isSent] at taken
  obtain ⟨outcome, written⟩ :=
    Option.isSome_iff_exists.mp (taken.offered_iff.mpr served)
  cases outcome with
  | notCloned => exact .inl written
  | taken count =>
      have isPiece : IpcEvent.piece id (.sent data writes) =
          some ⟨data, count⟩ := by
        rw [IpcEvent.piece, written]
      have pairs := last id
      rw [List.map_append, List.map_cons, pieces_append,
        List.pairwise_append] at pairs
      have nothing : count = 0 := by
        refine pairs.2.2 piece member ⟨data, count⟩ ?_ cut
        rw [isSent, pieces, List.filterMap_cons, isPiece]
        exact List.mem_cons_self
      exact .inr (by rw [written, nothing])

/-- In every run the streams of all clients are framed exactly if no client
that has stopped inside a message takes anything from a broadcast that finds
it in the list. -/
theorem framed_iff (run : Run (Recorded (IpcStep serde)) .new history s) :
    (∀ id, Framed (history.map Taken.label) id) ↔ StayStopped history := by
  constructor
  · intro framed
    exact stayStopped_of_pairwise run fun id => (framed id).last
  · intro stay id
    obtain ⟨messages, whole⟩ := exists_whole id run stay
    exact ⟨broadcasts_line (Recorded.forget run),
      ⟨messages, whole.sublist, whole.front⟩, pieces_pairwise id run stay⟩

end

/-- The outcome of a broadcast to the first client. -/
def firstTakes (count : Nat) (id : Nat) : Option IpcWrite :=
  if id = 0 then some (.taken count) else none

/-- The last state message of a session, as it is sent. -/
def disconnectedLine : Bytes :=
  disconnectedJson ++ [newline]

theorem disconnectedLine_step {s : IpcServer} (only : s.clients = [0])
    {count : Nat} (fits : count ≤ disconnectedLine.length) :
    IpcStep fewMessages s (.sent disconnectedLine (firstTakes count)) s := by
  have stays : s.broadcast (firstTakes count) = s := by
    cases s
    cases only
    rfl
  have message : fewMessages.Message disconnectedLine :=
    .inr ⟨"disconnected", none, none, by decide⟩
  have sent := @IpcStep.send fewMessages s disconnectedLine (firstTakes count)
    message (fun id => ?_) (fun id taken written => ?_)
  · rwa [stays] at sent
  · rw [only, List.mem_singleton, firstTakes]
    split <;> simp [*]
  · rw [firstTakes] at written
    split at written
    · cases written
      exact fits
    · cases written

theorem run_servingOnce : Run (IpcStep fewMessages) .new
    [.connected 0, .received 0 stopLine,
      .polled .none IpcServer.commandedOnce.accept.reads] .servingOnce :=
  ((Run.single connectedOnce_step).snoc commandedOnce_step).snoc
    servingOnce_step

/-- The state message is sent twice to a client whose socket takes half of the
first one. -/
def disconnectedTwice (count : Nat) : List IpcEvent :=
  [.connected 0, .received 0 stopLine,
    .polled .none IpcServer.commandedOnce.accept.reads,
    .sent disconnectedLine (firstTakes 20),
    .sent disconnectedLine (firstTakes count)]

theorem run_disconnectedTwice {count : Nat}
    (fits : count ≤ disconnectedLine.length) :
    Run (IpcStep fewMessages) .new (disconnectedTwice count) .servingOnce := by
  have only : IpcServer.servingOnce.clients = [0] := by decide
  exact (run_servingOnce.snoc
    (@disconnectedLine_step _ only 20 (by decide))).snoc
    (disconnectedLine_step only fits)

theorem pieces_disconnectedTwice (id count : Nat) :
    pieces id (disconnectedTwice count) =
      if id = 0 then [⟨disconnectedLine, 20⟩, ⟨disconnectedLine, count⟩]
      else [] := by
  by_cases isFirst : id = 0
  · subst isFirst
    rfl
  · simp [pieces, disconnectedTwice, IpcEvent.piece, firstTakes, isFirst]

/-- A broadcast follows the first half of the one before. -/
theorem not_framed : ¬ ∀ trace s, Run (IpcStep fewMessages) .new trace s →
    ∀ id, Framed trace id := by
  intro framed
  have run := @run_disconnectedTwice 40 (by decide)
  have pairs := (framed _ _ run 0).last
  rw [pieces_disconnectedTwice, if_pos rfl, List.pairwise_pair] at pairs
  exact absurd (pairs ⟨by decide, by decide⟩) (by decide)

/-- A client that has stopped inside a message and takes no more has got a
part of one line. -/
theorem halfMessage_framed :
    ∃ (history : List (Taken IpcServer IpcEvent)) (s : IpcServer),
      Run (Recorded (IpcStep fewMessages)) .new history s ∧
      (∀ id, Framed (history.map Taken.label) id) ∧
      (broadcasts (history.map Taken.label)).length = 2 ∧
      outputStream 0 (history.map Taken.label) = disconnectedLine.take 20 := by
  obtain ⟨history, run, labels⟩ :=
    Recorded.of_run (@run_disconnectedTwice 0 (Nat.zero_le _))
  refine ⟨history, _, run, (framed_iff run).mpr ?_, ?_, ?_⟩
  · refine stayStopped_of_pairwise run fun id => ?_
    rw [labels, pieces_disconnectedTwice]
    split
    · exact List.pairwise_pair.mpr fun _ => rfl
    · exact .nil
  · rw [labels]
    rfl
  · rw [labels]
    rfl

end AndroidTether
