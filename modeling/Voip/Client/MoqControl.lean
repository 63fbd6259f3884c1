import Voip.Async.Log
import Voip.Async.Task
import Voip.Async.Tickets
import Voip.Client.QualityReports
import Voip.Client.Subscribe
import Mathlib.Logic.Function.Basic

namespace voip_client.moq

open wire async

namespace msg_type

def ANNOUNCE : Nat := 0x03
def TRACK_UPDATE : Nat := 0x10
def CONNECTION_MIGRATION : Nat := 0x20
/-- The feedback message has no name among the constants of the source. -/
def FEEDBACK : Nat := 0x80

end msg_type

/-- What the calls on a session write to its control stream after the handshake. -/
inductive ControlMessage where
  | announce (full_namespace : String)
  | subscribe (subscribe_id : Nat) (ns track_name : String) (priority : UInt8) (start : StartPoint)
  | quality_report (track_alias : UInt32) (last_seq received lost rtt_us : Nat)
  | track_update (subscribe_id : Nat) (priority : UInt8)
  | connection_migration (new_ipv6_addresses new_ipv4_reflexive : List String)
  deriving DecidableEq

def encode_text (text : String) : Bytes := encode_varint (utf8 text).length ++ utf8 text

def encode_texts (texts : List String) : Bytes := encode_varint texts.length ++ texts.flatMap encode_text

namespace ControlMessage

def type_id : ControlMessage → Nat
  | announce _ => msg_type.ANNOUNCE
  | subscribe .. => msg_type.SUBSCRIBE
  | quality_report .. => msg_type.FEEDBACK
  | track_update .. => msg_type.TRACK_UPDATE
  | connection_migration .. => msg_type.CONNECTION_MIGRATION

def body : ControlMessage → Bytes
  | announce full_namespace => encode_text full_namespace
  | subscribe subscribe_id ns track_name priority start =>
    encode_varint subscribe_id ++ (encode_text ns ++ (encode_text track_name ++
      (encode_varint priority.toNat ++ start.encode)))
  | quality_report track_alias last_seq received lost rtt_us =>
    encode_varint track_alias.toNat ++ (encode_varint last_seq ++ (encode_varint received ++
      (encode_varint lost ++ encode_varint rtt_us)))
  | track_update subscribe_id priority => encode_varint subscribe_id ++ encode_varint priority.toNat
  | connection_migration new_ipv6_addresses new_ipv4_reflexive =>
    encode_texts new_ipv6_addresses ++ encode_texts new_ipv4_reflexive

def encode (message : ControlMessage) : Bytes := encode_varint message.type_id ++ message.body

end ControlMessage

/-- The sending side of the control stream. A write that fails leaves it useless. -/
structure ControlStream where
  written : Bytes
  broken : Bool

/-- A session after its handshake, as the calls on it see it. -/
structure ControlSession where
  state : SessionState
  next_subscribe_id : Nat
  control_send : ControlStream
  announced : List TrackNamespace
  subscriptions : List Subscription

/-- What a call does between two points at which it waits. The lock of the control stream is held
during a whole write. -/
inductive ControlAction where
  | read_state
  | take_subscribe_id
  | write (what : String) (message : ControlMessage)
  | push_announced (track : TrackNamespace)
  | push_subscription (subscription : Subscription)

abbrev ControlAction.Answer : ControlAction → Type
  | .read_state => SessionState
  | .take_subscribe_id => Nat
  | .write .. => Except MoqError Unit
  | .push_announced _ | .push_subscription _ => Unit

abbrev control_sig : Signature := ⟨ControlAction, ControlAction.Answer⟩

abbrev Control (α : Type) := Task control_sig α

abbrev control (action : ControlAction) : Control action.Answer := Task.perform (S := control_sig) action

/-- The result of a call: the id of a subscription, or nothing. -/
abbrev CallResult := Except MoqError (Option Nat)

/-- What the transport does with a message: it takes all of it, or fails after some bytes. -/
inductive Written where
  | all
  | cut (bytes : Nat) (error : String)

def ControlAction.exec (outcome : Written) (session : ControlSession) :
    (action : ControlAction) → Option (action.Answer × ControlSession)
  | .read_state => some (session.state, session)
  | .take_subscribe_id =>
    -- the call that would make the counter overflow panics
    let id := session.next_subscribe_id
    if id + 1 < 2 ^ 64 then some (id, { session with next_subscribe_id := id + 1 }) else none
  | .write what message =>
    let stream := session.control_send
    match outcome with
    | .all =>
      if stream.broken then none
      else some (.ok (), { session with
        control_send := { stream with written := stream.written ++ message.encode } })
    | .cut bytes error =>
      let rest := if stream.broken then [] else message.encode.take bytes
      some (.error (.TransportError ("send " ++ what ++ ": " ++ error)), { session with
        control_send := { written := stream.written ++ rest, broken := true } })
  | .push_announced track => some ((), { session with announced := session.announced ++ [track] })
  | .push_subscription subscription =>
    some ((), { session with subscriptions := session.subscriptions ++ [subscription] })

/-- The test that `announce` and `subscribe` begin with. -/
def when_active (rest : Control CallResult) : Control CallResult := do
  let state ← control .read_state
  if state ≠ .Active then return .error (.InvalidState "Active" state.debug)
  else rest

def announce (track : TrackNamespace) : Control CallResult := when_active do
  match ← control (.write "ANNOUNCE" (.announce track.full_namespace)) with
  | .error e => return .error e
  | .ok () =>
    control (.push_announced track)
    return .ok none

/-- The end of `subscribe`, when the message is written. -/
def record_subscription (subscription : Subscription) : Control CallResult := do
  control (.push_subscription subscription)
  return .ok (some subscription.subscribe_id)

/-- The part of `subscribe` that follows the assignment of an id. -/
def send_subscription (subscription : Subscription) : Control CallResult := do
  let (ns, track_name) := parse_namespace subscription.track.full_namespace
  match ← control (.write "SUBSCRIBE" (.subscribe subscription.subscribe_id ns track_name
      subscription.track.priority subscription.start)) with
  | .error e => return .error e
  | .ok () => record_subscription subscription

def subscribe (track : TrackNamespace) (start : StartPoint) : Control CallResult := when_active do
  let subscribe_id ← control .take_subscribe_id
  send_subscription { subscribe_id, track, start }

/-- The three calls that only write one message, whatever the state of the session. -/
def send_message (what : String) (message : ControlMessage) : Control CallResult := do
  match ← control (.write what message) with
  | .error e => return .error e
  | .ok () => return .ok none

def send_quality_report (report : QualityReport) : Control CallResult :=
  send_message "quality report"
    (.quality_report report.track_alias report.last_seq report.received report.lost report.rtt_us)

def send_track_update (subscribe_id : Nat) (priority : UInt8) : Control CallResult :=
  send_message "track update" (.track_update subscribe_id priority)

def send_migration_message (new_ipv6_addresses new_ipv4_reflexive : List String) : Control CallResult :=
  send_message "migration message" (.connection_migration new_ipv6_addresses new_ipv4_reflexive)

inductive Request where
  | announce (track : TrackNamespace)
  | subscribe (track : TrackNamespace) (start : StartPoint)
  | send_quality_report (report : QualityReport)
  | send_track_update (subscribe_id : Nat) (priority : UInt8)
  | send_migration_message (new_ipv6_addresses new_ipv4_reflexive : List String)

def Request.task : Request → Control CallResult
  | .announce track => moq.announce track
  | .subscribe track start => moq.subscribe track start
  | .send_quality_report report => moq.send_quality_report report
  | .send_track_update subscribe_id priority => moq.send_track_update subscribe_id priority
  | .send_migration_message ipv6 ipv4 => moq.send_migration_message ipv6 ipv4

/-- Any number of calls on one session. -/
structure ControlCalls where
  session : ControlSession
  calls : Nat → Option (Control CallResult)

def ControlCalls.start (session : ControlSession) : ControlCalls := ⟨session, fun _ => none⟩

/-- A call begins, a call goes on, with what the transport does if it writes, or some other call
changes the state of the session. -/
inductive ControlEvent where
  | call (i : Nat) (request : Request)
  | run (i : Nat) (outcome : Written)
  | set_state (state : SessionState)

def ControlCalls.step (sys : ControlCalls) : ControlEvent → Option ControlCalls
  | .call i request =>
    match sys.calls i with
    | some _ => none
    | none => some { sys with calls := Function.update sys.calls i (some request.task) }
  | .run i outcome =>
    match sys.calls i with
    | some (.act action resume) =>
      (action.exec outcome sys.session).map fun (answer, session) =>
        { session, calls := Function.update sys.calls i (some (resume answer)) }
    | _ => none
  | .set_state state => some { sys with session := { sys.session with state } }

/-- The message that an action writes in full. -/
def ControlAction.delivers (outcome : Written) : ControlAction → List ControlMessage
  | .write _ message =>
    match outcome with
    | .all => [message]
    | .cut .. => []
  | _ => []

/-- The message that a step writes in full. -/
def ControlCalls.writes (sys : ControlCalls) : ControlEvent → List ControlMessage
  | .run i outcome =>
    match sys.calls i with
    | some (.act action _) => action.delivers outcome
    | _ => []
  | _ => []

/-- The id of a subscription on the control stream. -/
def ControlMessage.subscribed : ControlMessage → Option Nat
  | subscribe subscribe_id .. => some subscribe_id
  | _ => none

section Numbers

/-- The subscription id that a call has drawn, used or returned. -/
def claim : Control CallResult → Claim
  | .act (.write _ (.subscribe subscribe_id _ _ _ _)) _ => .drawn subscribe_id
  | .act (.push_subscription subscription) _ => .spent subscription.subscribe_id
  | .done (.ok (some subscribe_id)) => .spent subscribe_id
  | _ => .none

/-- What a call does with its id after an action. -/
def Follows : (action : ControlAction) → (action.Answer → Control CallResult) → Prop
  | .take_subscribe_id, resume => ∀ id, claim (resume id) = .drawn id
  | .write _ (.subscribe subscribe_id _ _ _ _), resume =>
    claim (resume (.ok ())) = .spent subscribe_id ∧ ∀ e, claim (resume (.error e)) = .none
  | .push_subscription subscription, resume => claim (resume ()) = .spent subscription.subscribe_id
  | .read_state, resume => ∀ state, claim (resume state) = .none
  | .write _ _, resume => ∀ result, claim (resume result) = .none
  | .push_announced _, resume => claim (resume ()) = .none

/-- A call that writes an id as soon as it has drawn it, and never otherwise. -/
def Honest : Control CallResult → Prop
  | .done _ => True
  | .act action resume => Follows action resume ∧ ∀ answer, Honest (resume answer)

/-- A call that has no id yet and is honest about those that it draws. -/
structure Fresh (task : Control CallResult) : Prop where
  claim_eq : claim task = .none
  honest : Honest task

theorem Fresh.when_active {rest : Control CallResult} (hrest : Fresh rest) : Fresh (when_active rest) := by
  refine ⟨rfl, ?_⟩
  change (∀ state : SessionState, claim (if state ≠ .Active then _ else rest) = .none) ∧
    ∀ state : SessionState, Honest (if state ≠ .Active then _ else rest)
  constructor
  · intro state
    split
    · rfl
    · exact hrest.claim_eq
  · intro state
    split
    · trivial
    · exact hrest.honest

theorem Fresh.send_message (what : String) {message : ControlMessage} (hmessage : message.subscribed = none) :
    Fresh (send_message what message) := by
  cases message with
  | subscribe => contradiction
  | _ =>
    refine ⟨rfl, fun result => ?_, fun result => ?_⟩
    · cases result <;> rfl
    · cases result <;> trivial

theorem honest_send_subscription (subscription : Subscription) :
    claim (send_subscription subscription) = .drawn subscription.subscribe_id ∧
      Honest (send_subscription subscription) := by
  refine ⟨rfl, ⟨rfl, fun e => rfl⟩, fun result => ?_⟩
  cases result with
  | error e => trivial
  | ok => exact ⟨rfl, fun _ => trivial⟩

theorem Request.fresh (request : Request) : Fresh request.task := by
  cases request with
  | announce track =>
    refine Fresh.when_active ⟨rfl, fun result => ?_, fun result => ?_⟩
    · cases result <;> rfl
    · cases result with
      | error e => trivial
      | ok => exact ⟨rfl, fun _ => trivial⟩
  | subscribe track start =>
    exact Fresh.when_active ⟨rfl, fun id => (honest_send_subscription _).1, fun id => (honest_send_subscription _).2⟩
  | send_quality_report report => exact .send_message _ rfl
  | send_track_update subscribe_id priority => exact .send_message _ rfl
  | send_migration_message ipv6 ipv4 => exact .send_message _ rfl

end Numbers

section Runs

variable {sys next : ControlCalls} {log : List ControlMessage} {event : ControlEvent} {start : Bytes}

def ControlCalls.claims (sys : ControlCalls) (i : Nat) : Claim := (sys.calls i).elim .none claim

/-- The subscription ids on the control stream. -/
def subscribe_ids (log : List ControlMessage) : List Nat := log.filterMap ControlMessage.subscribed

theorem subscribe_ids_append (log : List ControlMessage) (message : ControlMessage) :
    subscribe_ids (log ++ [message]) = subscribe_ids log ++ message.subscribed.toList := by
  rw [subscribe_ids, List.filterMap_append]
  cases hsubscribed : message.subscribed <;> simp [subscribe_ids, hsubscribed]

/-- The calls, the ids they have drawn and the ids on the stream. -/
structure Numbered (sys : ControlCalls) (log : List ControlMessage) : Prop where
  honest : ∀ {i task}, sys.calls i = some task → Honest task
  tickets : Ticketed sys.claims (subscribe_ids log) sys.session.next_subscribe_id

/-- The stream holds the messages one after the other, and a part of one more once it is broken. -/
def Framed (start : Bytes) (stream : ControlStream) (log : List ControlMessage) : Prop :=
  ∃ cut, stream.written = start ++ log.flatMap ControlMessage.encode ++ cut ∧
    (stream.broken = false → cut = []) ∧ ∃ message : ControlMessage, cut <+: message.encode

theorem claims_update (sys : ControlCalls) (i : Nat) (session : ControlSession) (task : Control CallResult) :
    (ControlCalls.mk session (Function.update sys.calls i (some task))).claims =
      Function.update sys.claims i (claim task) := by
  funext j
  by_cases hj : j = i
  · subst hj
    simp [ControlCalls.claims]
  · simp [ControlCalls.claims, hj]

theorem honest_update {i : Nat} {task : Control CallResult}
    (hhonest : ∀ {i task}, sys.calls i = some task → Honest task)
    (htask : Honest task) {j : Nat} {other : Control CallResult}
    (hother : Function.update sys.calls i (some task) j = some other) : Honest other := by
  by_cases hj : j = i
  · subst hj
    obtain rfl : task = other := by simpa using hother
    exact htask
  · exact hhonest (by simpa [hj] using hother)

/-- An action keeps the numbers apart. -/
theorem tickets_exec {claims : Nat → Claim} {i : Nat} {action : ControlAction}
    {resume : action.Answer → Control CallResult} {outcome : Written} {session after : ControlSession}
    {answer : action.Answer}
    (htickets : Ticketed claims (subscribe_ids log) session.next_subscribe_id)
    (hclaim : claims i = claim (.act action resume)) (hfollows : Follows action resume)
    (hexec : action.exec outcome session = some (answer, after)) :
    Ticketed (Function.update claims i (claim (resume answer))) (subscribe_ids (log ++ action.delivers outcome))
      after.next_subscribe_id := by
  cases action with
  | read_state =>
    cases hexec
    rw [hfollows]
    simp only [ControlAction.delivers, List.append_nil]
    exact htickets.forget i
  | take_subscribe_id =>
    obtain ⟨-, hexec⟩ := Option.ite_none_right_eq_some.mp hexec
    cases hexec
    rw [hfollows]
    simp only [ControlAction.delivers, List.append_nil]
    exact htickets.draw i
  | push_announced track =>
    cases hexec
    rw [hfollows]
    simp only [ControlAction.delivers, List.append_nil]
    exact htickets.forget i
  | push_subscription subscription =>
    -- the call keeps the number that it has used
    cases hexec
    have hsame : claim (resume ()) = claims i := hfollows.trans hclaim.symm
    rw [hsame, Function.update_eq_self]
    simpa only [ControlAction.delivers, List.append_nil] using htickets
  | write what message =>
    cases outcome with
    | cut bytes error =>
      cases hexec
      rw [ControlAction.delivers, List.append_nil]
      cases message with
      | subscribe subscribe_id ns track_name priority start =>
        rw [hfollows.2]
        exact htickets.forget i
      | _ =>
        rw [hfollows]
        exact htickets.forget i
    | all =>
      simp only [ControlAction.exec] at hexec
      split at hexec
      next => contradiction
      next =>
        cases hexec
        rw [ControlAction.delivers, subscribe_ids_append]
        cases message with
        | subscribe subscribe_id ns track_name priority start =>
          rw [hfollows.1]
          exact htickets.spend hclaim
        | _ =>
          rw [hfollows]
          simpa [ControlMessage.subscribed] using htickets.forget i

/-- An action leaves whole messages on the stream, as long as it is not broken. -/
theorem framed_exec {action : ControlAction} {outcome : Written} {session after : ControlSession}
    {answer : action.Answer} (hframed : Framed start session.control_send log)
    (hexec : action.exec outcome session = some (answer, after)) :
    Framed start after.control_send (log ++ action.delivers outcome) := by
  cases action with
  | write what message =>
    obtain ⟨cut, hstream, hwhole, last, hcut⟩ := hframed
    cases outcome with
    | all =>
      simp only [ControlAction.exec] at hexec
      split at hexec
      next => contradiction
      next hopen =>
        cases hexec
        obtain rfl := hwhole (by simpa using hopen)
        refine ⟨[], ?_, fun _ => rfl, last, hcut⟩
        simp [hstream, ControlAction.delivers]
    | cut bytes error =>
      cases hexec
      by_cases hbroken : session.control_send.broken = true
      · refine ⟨cut, ?_, by simp, last, hcut⟩
        simp [hbroken, hstream, ControlAction.delivers]
      · obtain rfl := hwhole (by simpa using hbroken)
        refine ⟨message.encode.take bytes, ?_, by simp, message, List.take_prefix _ _⟩
        simp [hbroken, hstream, ControlAction.delivers]
  | take_subscribe_id =>
    obtain ⟨-, hexec⟩ := Option.ite_none_right_eq_some.mp hexec
    cases hexec
    simpa only [ControlAction.delivers, List.append_nil] using hframed
  | _ =>
    cases hexec
    simpa only [ControlAction.delivers, List.append_nil] using hframed

/-- What holds after every step of the calls. -/
def Orderly (start : Bytes) (sys : ControlCalls) (log : List ControlMessage) : Prop :=
  Numbered sys log ∧ Framed start sys.session.control_send log

theorem Orderly.step (hsys : Orderly start sys log) (hstep : sys.step event = some next) :
    Orderly start next (log ++ sys.writes event) := by
  obtain ⟨⟨hhonest, htickets⟩, hframed⟩ := hsys
  cases event with
  | call i request =>
    simp only [ControlCalls.step] at hstep
    split at hstep
    next => contradiction
    next =>
      cases hstep
      simp only [ControlCalls.writes, List.append_nil]
      refine ⟨⟨honest_update hhonest request.fresh.honest, ?_⟩, hframed⟩
      rw [claims_update, request.fresh.claim_eq]
      exact htickets.forget i
  | run i outcome =>
    simp only [ControlCalls.step] at hstep
    split at hstep
    next action resume hcall =>
      obtain ⟨⟨answer, session⟩, hexec, rfl⟩ := Option.map_eq_some_iff.mp hstep
      obtain ⟨hfollows, hlater⟩ := hhonest hcall
      simp only [ControlCalls.writes, hcall]
      refine ⟨⟨honest_update hhonest (hlater answer), ?_⟩, framed_exec hframed hexec⟩
      rw [claims_update]
      exact tickets_exec htickets (by simp [ControlCalls.claims, hcall]) hfollows hexec
    next => contradiction
  | set_state state =>
    cases hstep
    simp only [ControlCalls.writes, List.append_nil]
    exact ⟨⟨hhonest, htickets⟩, hframed⟩

end Runs

/-- The steps of the calls, with the messages that have been written in full. -/
def control_log (session : ControlSession) (events : List ControlEvent) :
    Option (ControlCalls × List ControlMessage) :=
  exec (logged ControlCalls.step fun sys event _ => sys.writes event) (.start session, []) events

/-- For every interleaving of calls on a session, with writes that fail at any point: the control
stream is a sequence of whole messages, up to a failed one at its end; no subscription id is on it
twice, and an id that a call returns is on it and belongs to that call alone. -/
theorem control_stream_well_formed {session : ControlSession} {events : List ControlEvent} {last : ControlCalls}
    {log : List ControlMessage} (hexec : control_log session events = some (last, log)) :
    (∃ cut, last.session.control_send.written =
        session.control_send.written ++ log.flatMap ControlMessage.encode ++ cut ∧
      (last.session.control_send.broken = false → cut = []) ∧
      ∃ message : ControlMessage, cut <+: message.encode) ∧
    (subscribe_ids log).Nodup ∧
    ∀ i id, last.calls i = some (.done (.ok (some id))) →
      id ∈ subscribe_ids log ∧ ∀ j, last.calls j = some (.done (.ok (some id))) → j = i := by
  obtain ⟨⟨-, htickets⟩, hframed⟩ : Orderly session.control_send.written last log := by
    refine exec_invariant (I := fun pair : ControlCalls × List ControlMessage =>
      Orderly session.control_send.written pair.1 pair.2) ?_ ?_ hexec
    · rintro ⟨sys, log⟩ event ⟨next, log'⟩ hsys hstep
      obtain ⟨hstep, hlog⟩ := logged_eq_some.mp hstep
      dsimp only at hstep hlog ⊢
      rw [hlog]
      exact hsys.step hstep
    · refine ⟨⟨by simp [ControlCalls.start], Ticketed.start session.next_subscribe_id⟩, [], ?_, fun _ => rfl, ?_⟩
      · simp [ControlCalls.start]
      · exact ⟨.announce "", List.nil_prefix⟩
  refine ⟨hframed, htickets.nodup, fun i id hreturned => ?_⟩
  have hspent (j : Nat) (hj : last.calls j = some (.done (.ok (some id)))) : last.claims j = .spent id := by
    simp [ControlCalls.claims, hj, claim]
  refine ⟨htickets.spent (hspent i hreturned), fun j hj => ?_⟩
  have hnumber (k : Nat) (hk : last.calls k = some (.done (.ok (some id)))) : (last.claims k).number = some id := by
    rw [hspent k hk]
    rfl
  exact htickets.apart (hnumber j hj) (hnumber i hreturned)

/-- A session whose handshake is done and whose stream holds nothing else yet. -/
def active_session : ControlSession where
  state := .Active
  next_subscribe_id := 0
  control_send := ⟨ClientSetup.voip_default.encode, false⟩
  announced := []
  subscriptions := []

/-- Two subscriptions draw their ids in one order and are written in the other, and a track
update fails after three bytes. -/
def crossed_subscriptions : List ControlEvent :=
  [.call 0 (.subscribe alice_audio.track .Latest), .call 1 (.subscribe alice_video.track .Earliest),
    .run 0 .all, .run 1 .all, .run 0 .all, .run 1 .all, .run 1 .all, .run 0 .all, .run 1 .all, .run 0 .all,
    .call 2 (.send_track_update 1 7), .run 2 (.cut 3 "connection lost")]

theorem crossed_subscriptions_well_formed :
    ∃ last log, control_log active_session crossed_subscriptions = some (last, log) ∧
      subscribe_ids log = [1, 0] ∧ (subscribe_ids log).Nodup := by
  have hids : (control_log active_session crossed_subscriptions).map (fun pair => subscribe_ids pair.2) =
      some [1, 0] := by
    decide +kernel
  obtain ⟨⟨last, log⟩, hlog, hids⟩ := Option.map_eq_some_iff.mp hids
  exact ⟨last, log, hlog, hids, (control_stream_well_formed hlog).2.1⟩

end voip_client.moq
