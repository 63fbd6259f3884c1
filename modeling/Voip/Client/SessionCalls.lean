import Voip.Async.Routine
import Voip.Client.Moq

namespace voip_client.moq

open wire async

/-- A session as the calls on it see it: also which control streams it has stored, and whether this
side has closed the connection. -/
structure SharedSession extends MoqSession where
  control_send : Bool
  control_recv : Bool
  connection_closed : Bool

def SharedSession.new : SharedSession :=
  { MoqSession.new with control_send := false, control_recv := false, connection_closed := false }

inductive Call where
  | setup
  | accept
  | close
  deriving DecidableEq

/-- What a call does from one point at which it waits to the next. -/
inductive Step where
  /-- takes the lock of the state, looks for `Idle` and sets `SettingUp` -/
  | begin_handshake
  | open_stream
  | accept_stream
  | store_send
  | store_recv
  | write (name : String) (message : Bytes)
  | read (name : String) (check : Bytes → Except Failure Unit)
  | close_connection
  /-- takes the lock of the state and sets it, whatever it is -/
  | set_state (state : SessionState)

def control_stream (how : String) : Except String Unit → Except Failure Unit
  | .error e => .error (.error (.TransportError (how ++ " control stream: " ++ e)))
  | .ok () => .ok ()

/-- On a connection that this side has closed no stream can be opened and nothing written, but what has
arrived before can still be accepted and read. -/
def Step.perform (transport : Transport) (step : Step) (self : SharedSession) :
    Except Failure Unit × SharedSession :=
  match step with
  | .begin_handshake =>
    if self.state ≠ .Idle then (.error (.error (.InvalidState "Idle" self.state.debug)), self)
    else (.ok (), { self with state := .SettingUp })
  | .open_stream =>
    (control_stream "open" (if self.connection_closed then .error "closed" else transport.stream), self)
  | .accept_stream => (control_stream "accept" transport.stream, self)
  | .store_send => (.ok (), { self with control_send := true })
  | .store_recv => (.ok (), { self with control_recv := true })
  | .write name message =>
    if self.control_send then
      match if self.connection_closed then .error "connection lost" else transport.write with
      | .error e => (.error (.error (.TransportError ("send " ++ name ++ ": " ++ e))), self)
      | .ok () => (.ok (), { self with sent := self.sent ++ [message] })
    else (.ok (), self)
  | .read name check =>
    if self.control_recv then (read_control name transport.read >>= check, self)
    else (.error (.error (.TransportError "control receive stream missing")), self)
  | .close_connection => (.ok (), { self with connection_closed := true })
  | .set_state state => (.ok (), { self with state := state })

/-- The steps of a call. -/
def Call.code (replace : Bytes → String) : Call → List Step
  | .setup =>
    [.begin_handshake, .open_stream, .store_send, .store_recv,
      .write "CLIENT_SETUP" ClientSetup.voip_default.encode, .read "SERVER_SETUP" (check_server_setup replace),
      .set_state .Active]
  | .accept =>
    [.begin_handshake, .accept_stream, .store_send, .store_recv,
      .read "CLIENT_SETUP" (check_client_setup replace), .write "SERVER_SETUP" server_setup_bytes,
      .set_state .Active]
  | .close => [.set_state .Closing, .close_connection, .set_state .Closed]

abbrev session_calls (replace : Bytes → String) : Routines where
  Call := Call
  Step := Step
  Answer := Transport
  State := SharedSession
  Error := Failure
  code := Call.code replace
  perform := Step.perform

def MoqSession.close (self : MoqSession) : MoqSession.Call :=
  let self := { self with state := .Closing }
  let self := { self with state := .Closed }
  (.ok (), self)

/-- What a call does to a session that it has to itself. -/
def Call.alone (replace : Bytes → String) (transport : Transport) : Call → MoqSession → MoqSession.Call
  | .setup => MoqSession.setup replace transport
  | .accept => MoqSession.accept replace transport
  | .close => MoqSession.close

section

variable {replace : Bytes → String}

/-- The steps of a call, one after the other, are the call, as long as the connection is open. -/
theorem execute_code (transport : Transport) (call : Call) {self : SharedSession}
    (hopen : self.connection_closed = false) :
    ((session_calls replace).execute transport (call.code replace) self).map id SharedSession.toMoqSession =
      call.alone replace transport self.toMoqSession := by
  cases call with
  | setup | accept =>
    simp only [Call.code, Call.alone, MoqSession.setup, MoqSession.accept, session_calls, Routines.execute,
      Step.perform, control_stream, hopen]
    by_cases hidle : self.state = .Idle
    · simp only [hidle, ne_eq, not_true_eq_false, if_false, if_true]
      cases transport.stream with
      | error e => rfl
      | ok =>
        generalize read_control _ transport.read >>= _ = checked
        cases checked <;> cases transport.write <;> rfl
    · simp only [hidle, ne_eq, not_false_eq_true, if_true]
      rfl
  | close => rfl

/-- A call that no other call comes between is, on an open connection, the call on a session of its
own. -/
theorem exec_alone_eq {pool : Pool (session_calls replace)} {i : Nat} {call : Call}
    (hcall : pool.calls[i]? = some (.start call)) (hopen : pool.state.connection_closed = false)
    (transport : Transport) :
    ∃ n after last, exec Pool.step pool (List.replicate n (i, transport)) = some after ∧
      after.calls[i]? = some last ∧ last.rest = [] ∧
      (last.result, after.state.toMoqSession) = call.alone replace transport pool.state.toMoqSession := by
  obtain ⟨n, after, last, hexec, hlast, hdone, hstate, hresult⟩ := Pool.exec_alone hcall transport
  refine ⟨n, after, last, hexec, hlast, hdone, ?_⟩
  rw [← execute_code transport call hopen, hstate, hresult rfl]
  rfl

end

end voip_client.moq
