import Voip.Client.MoqVarint
import Voip.Result.Except

namespace voip_client.moq

open wire result

/-- The bytes start with a SERVER_SETUP message that selects draft 17. -/
def SelectsDraft17 (received : Bytes) : Prop :=
  ∃ message_type version rest, IsQuicVarint msg_type.SERVER_SETUP message_type ∧
    IsQuicVarint ClientSetup.DRAFT_17 version ∧ received = message_type ++ version ++ rest

/-- The bytes start with a CLIENT_SETUP message that has draft 17 among its versions. -/
def OffersDraft17 (received : Bytes) : Prop :=
  ∃ message_type count rest, ∃ number, ∃ versions : List (Nat × Bytes),
    IsQuicVarint msg_type.CLIENT_SETUP message_type ∧ IsQuicVarint number count ∧
    versions.length ≤ number ∧ (∀ entry ∈ versions, IsQuicVarint entry.1 entry.2) ∧
    ClientSetup.DRAFT_17 ∈ versions.map (fun entry => entry.1) ∧
    received = message_type ++ count ++ versions.flatMap (fun entry => entry.2) ++ rest

/-- A version other than zero that the loop finds stands in the data, behind the versions
before it. -/
theorem parse_versions_mem {count : Nat} {cursor : Bytes} {version : Nat} (hversion : version ≠ 0)
    (hmem : version ∈ (parse_versions count cursor).1) :
    ∃ versions : List (Nat × Bytes), ∃ rest, versions.length ≤ count ∧
      (∀ entry ∈ versions, IsQuicVarint entry.1 entry.2) ∧ version ∈ versions.map (fun entry => entry.1) ∧
      cursor = versions.flatMap (fun entry => entry.2) ++ rest := by
  induction count generalizing cursor with
  | zero => simp [parse_versions] at hmem
  | succ count ih =>
    rw [parse_versions] at hmem
    dsimp only at hmem
    rcases List.mem_cons.mp hmem with hfirst | hlater
    · obtain ⟨bytes, hvarint, hcursor⟩ := isQuicVarint_of_decode_varint Prod.mk.eta.symm (hfirst ▸ hversion)
      refine ⟨[(version, bytes)], cursor.drop (decode_varint cursor).2, by simp, ?_, by simp, ?_⟩
      · simpa [hfirst] using hvarint
      · simpa using hcursor
    · obtain ⟨versions, rest, hlength, hvarints, hmem', hcursor⟩ := ih hlater
      rcases decode_varint_cases cursor with hnone | ⟨value, bytes, tail, hvarint, rfl, hsome⟩
      · rw [hnone, List.drop_zero] at hcursor
        exact ⟨versions, rest, Nat.le_succ_of_le hlength, hvarints, hmem', hcursor⟩
      · rw [hsome, List.drop_left] at hcursor
        refine ⟨(value, bytes) :: versions, rest, Nat.succ_le_succ hlength, ?_, ?_, ?_⟩
        · exact List.forall_mem_cons.mpr ⟨hvarint, hvarints⟩
        · exact List.mem_cons_of_mem _ hmem'
        · simp [hcursor]

theorem ServerSetup.decode_eq_ok {replace : Bytes → String} {data : Bytes} {setup : ServerSetup}
    (hdecode : decode replace data = .ok setup) :
    (decode_varint data).1 = msg_type.SERVER_SETUP ∧
      setup.version = (decode_varint (data.drop (decode_varint data).2)).1 := by
  unfold decode at hdecode
  dsimp only at hdecode
  split at hdecode
  next => contradiction
  next htype =>
    injection hdecode with hdecode
    exact ⟨not_not.mp htype, by rw [← hdecode]⟩

theorem parse_client_setup_eq_ok {replace : Bytes → String} {data : Bytes} {params : ClientSetupParams}
    (hparse : parse_client_setup replace data = .ok params) :
    (decode_varint data).1 = msg_type.CLIENT_SETUP ∧
      let cursor := data.drop (decode_varint data).2
      params.versions =
        (parse_versions (decode_varint cursor).1 (cursor.drop (decode_varint cursor).2)).1 := by
  unfold parse_client_setup at hparse
  dsimp only at hparse
  split at hparse
  next => contradiction
  next htype =>
    split at hparse
    next => contradiction
    next =>
      injection hparse with hparse
      exact ⟨not_not.mp htype, by rw [← hparse]⟩

/-- A SERVER_SETUP that decodes to draft 17 is one that selects it. -/
theorem selectsDraft17_of_decode {replace : Bytes → String} {data : Bytes} {setup : ServerSetup}
    (hdecode : ServerSetup.decode replace data = .ok setup)
    (hversion : setup.version = ClientSetup.DRAFT_17) : SelectsDraft17 data := by
  obtain ⟨htype, hselected⟩ := ServerSetup.decode_eq_ok hdecode
  obtain ⟨message_type, htype_varint, hdata⟩ := decode_varint_fst htype (by decide)
  obtain ⟨version, hversion_varint, hrest⟩ :=
    decode_varint_fst (hselected.symm.trans hversion) (by decide)
  exact ⟨message_type, version, _, htype_varint, hversion_varint,
    by rw [List.append_assoc, ← hrest, ← hdata]⟩

/-- The first message is taken for the answer to CLIENT_SETUP when it is one, or when it has
one of the three types that are only logged. -/
theorem check_server_setup_eq_ok {replace : Bytes → String} {buf : Bytes}
    (hchecked : check_server_setup replace buf = .ok ()) :
    SelectsDraft17 buf ∨ ∃ value ∈ [msg_type.ANNOUNCE_CANCEL, msg_type.GOAWAY, msg_type.MAX_SUBSCRIBE_ID],
      ∃ bytes rest, IsQuicVarint value bytes ∧ buf = bytes ++ rest := by
  unfold check_server_setup at hchecked
  dsimp only at hchecked
  split at hchecked
  next =>
    obtain ⟨server_setup, hdecode, hversion⟩ := bind_eq_ok.mp hchecked
    rw [ite_throw_eq_ok, not_not] at hversion
    exact .inl (selectsDraft17_of_decode hdecode hversion.1)
  next =>
    split at hchecked
    next hlogged =>
      have hvalue : (decode_varint buf).1 ≠ 0 := by
        intro hzero
        rw [hzero] at hlogged
        revert hlogged
        decide
      obtain ⟨bytes, hvarint, hbuf⟩ := decode_varint_fst rfl hvalue
      exact .inr ⟨_, by simpa using hlogged, bytes, _, hvarint, hbuf⟩
    next => contradiction

/-- A message of one of the three types is accepted whatever it says. -/
theorem check_server_setup_of_logged (replace : Bytes → String) {value : Nat} {bytes : Bytes}
    (hvalue : value ∈ [msg_type.ANNOUNCE_CANCEL, msg_type.GOAWAY, msg_type.MAX_SUBSCRIBE_ID])
    (hvarint : IsQuicVarint value bytes) (rest : Bytes) :
    check_server_setup replace (bytes ++ rest) = .ok () := by
  have hother : value ≠ 0x02 := by
    rintro rfl
    revert hvalue
    decide
  rw [check_server_setup, decode_varint_append hvarint]
  dsimp only
  rw [if_neg hother, if_pos (by simpa using hvalue)]

theorem check_client_setup_eq_ok {replace : Bytes → String} {buf : Bytes}
    (hchecked : check_client_setup replace buf = .ok ()) : OffersDraft17 buf := by
  obtain ⟨params, hparse, hversions⟩ := bind_eq_ok.mp hchecked
  rw [ite_throw_eq_ok, not_not] at hversions
  obtain ⟨htype, hparams⟩ := parse_client_setup_eq_ok hparse
  have hmem := hversions.1
  rw [hparams] at hmem
  have hcount : (decode_varint (buf.drop (decode_varint buf).2)).1 ≠ 0 := by
    intro hzero
    rw [hzero] at hmem
    simp [parse_versions] at hmem
  obtain ⟨message_type, htype_varint, hbuf⟩ := decode_varint_fst htype (by decide)
  obtain ⟨count, hcount_varint, hcursor⟩ := decode_varint_fst rfl hcount
  obtain ⟨versions, rest, hlength, hvarints, hoffered, hrest⟩ := parse_versions_mem (by decide) hmem
  refine ⟨message_type, count, rest, _, versions, htype_varint, hcount_varint, hlength, hvarints, hoffered, ?_⟩
  rw [List.append_assoc, List.append_assoc, ← hrest, ← hcursor, ← hbuf]

theorem selectsDraft17_server_setup_bytes : SelectsDraft17 server_setup_bytes :=
  ⟨_, _, _, isQuicVarint_encode_varint (by decide), isQuicVarint_encode_varint (by decide), rfl⟩

theorem read_control_eq_ok {name : String} {read : Read} {buf : Bytes}
    (hread : read_control name read = .ok buf) : buf = read.received := by
  cases read with
  | timeout => contradiction
  | failed e => contradiction
  | finished => contradiction
  | bytes available =>
    simp only [read_control, ite_error_eq_ok, Except.ok.injEq] at hread
    exact hread.2.symm

theorem read_control_of_received {name : String} {read : Read} (hreceived : read.received ≠ []) :
    read_control name read = .ok read.received := by
  cases read with
  | timeout => contradiction
  | failed e => contradiction
  | finished => contradiction
  | bytes available => exact if_neg fun hempty => hreceived (List.length_eq_zero_iff.mp hempty)

namespace MoqSession

/-- A call that fails leaves the session as it was or in the middle of its setup. -/
def Fails (before : MoqSession) (call : Call) : Prop :=
  (∃ e, call.1 = .error e) ∧ (call.2.state = before.state ∨ call.2.state = .SettingUp)

theorem setup_cases (replace : Bytes → String) (transport : Transport) (before : MoqSession) :
    before.Fails (before.setup replace transport) ∨
      check_server_setup replace transport.read.received = .ok () ∧
        before.setup replace transport =
          (.ok (), ⟨.Active, before.sent ++ [ClientSetup.voip_default.encode]⟩) := by
  unfold setup
  dsimp only
  split
  next => exact .inl ⟨⟨_, rfl⟩, .inl rfl⟩
  next =>
    split
    next => exact .inl ⟨⟨_, rfl⟩, .inr rfl⟩
    next =>
      split
      next => exact .inl ⟨⟨_, rfl⟩, .inr rfl⟩
      next =>
        split
        next => exact .inl ⟨⟨_, rfl⟩, .inr rfl⟩
        next hchecked =>
          obtain ⟨buf, hread, hchecked⟩ := bind_eq_ok.mp hchecked
          rw [read_control_eq_ok hread] at hchecked
          exact .inr ⟨hchecked, rfl⟩

theorem accept_cases (replace : Bytes → String) (transport : Transport) (before : MoqSession) :
    before.Fails (before.accept replace transport) ∨
      check_client_setup replace transport.read.received = .ok () ∧
        before.accept replace transport = (.ok (), ⟨.Active, before.sent ++ [server_setup_bytes]⟩) := by
  unfold accept
  dsimp only
  split
  next => exact .inl ⟨⟨_, rfl⟩, .inl rfl⟩
  next =>
    split
    next => exact .inl ⟨⟨_, rfl⟩, .inr rfl⟩
    next =>
      split
      next => exact .inl ⟨⟨_, rfl⟩, .inr rfl⟩
      next hchecked =>
        obtain ⟨buf, hread, hchecked⟩ := bind_eq_ok.mp hchecked
        rw [read_control_eq_ok hread] at hchecked
        split
        next => exact .inl ⟨⟨_, rfl⟩, .inr rfl⟩
        next => exact .inr ⟨hchecked, rfl⟩

/-- The call has succeeded, or has left the session active. -/
def Activates (call : Call) : Prop := call.1 = .ok () ∨ call.2.state = .Active

theorem Fails.not_activates {before : MoqSession} {call : Call} (hfails : before.Fails call)
    (hbefore : before.state ≠ .Active) : ¬Activates call := by
  obtain ⟨⟨e, herror⟩, hstate⟩ := hfails
  rintro (hok | hactive)
  · rw [herror] at hok
    contradiction
  · rcases hstate with hstate | hstate
    · exact hbefore (hstate.symm.trans hactive)
    · rw [hstate] at hactive
      contradiction

/-- With what one read delivers, a session becomes active only by the handshake: `setup` has
received a SERVER_SETUP for draft 17, `accept` a CLIENT_SETUP with draft 17 that it has
answered by a SERVER_SETUP. -/
structure Sound (replace : Bytes → String) (read : Read) : Prop where
  setup : ∀ (transport : Transport) (before : MoqSession), transport.read = read →
    before.state ≠ .Active → Activates (before.setup replace transport) →
    (before.setup replace transport).2.state = .Active ∧ SelectsDraft17 read.received
  accept : ∀ (transport : Transport) (before : MoqSession), transport.read = read →
    before.state ≠ .Active → Activates (before.accept replace transport) →
    (before.accept replace transport).2.state = .Active ∧ OffersDraft17 read.received ∧
      ∃ message, SelectsDraft17 message ∧
        (before.accept replace transport).2.sent = before.sent ++ [message]

/-- `accept` is sound whatever is received. -/
theorem accept_sound {replace : Bytes → String} {transport : Transport} {before : MoqSession}
    (hbefore : before.state ≠ .Active) (hactive : Activates (before.accept replace transport)) :
    (before.accept replace transport).2.state = .Active ∧ OffersDraft17 transport.read.received ∧
      ∃ message, SelectsDraft17 message ∧
        (before.accept replace transport).2.sent = before.sent ++ [message] := by
  rcases accept_cases replace transport before with hfails | ⟨hchecked, haccept⟩
  · exact absurd hactive (hfails.not_activates hbefore)
  · rw [haccept]
    exact ⟨rfl, check_client_setup_eq_ok hchecked, _, selectsDraft17_server_setup_bytes, rfl⟩

/-- The handshake is sound for what is received exactly when that does not start with the type
of ANNOUNCE_CANCEL, GOAWAY or MAX_SUBSCRIBE_ID. -/
theorem handshake_sound_iff (replace : Bytes → String) (read : Read) :
    Sound replace read ↔
      ¬∃ value ∈ [msg_type.ANNOUNCE_CANCEL, msg_type.GOAWAY, msg_type.MAX_SUBSCRIBE_ID],
        ∃ bytes rest, IsQuicVarint value bytes ∧ read.received = bytes ++ rest := by
  constructor
  · rintro hsound ⟨value, hvalue, bytes, rest, hvarint, hreceived⟩
    have hchecked := check_server_setup_of_logged replace hvalue hvarint rest
    rw [← hreceived] at hchecked
    have hactive : Activates (new.setup replace ⟨.ok (), .ok (), read⟩) := by
      have hread : read_control "SERVER_SETUP" read = .ok read.received := by
        apply read_control_of_received
        rw [hreceived]
        exact List.append_ne_nil_of_left_ne_nil hvarint.ne_nil rest
      refine .inl ?_
      simp only [setup, new]
      rw [hread]
      simp [bind, Except.bind, hchecked]
    obtain ⟨message_type, version, tail, htype, -, hselects⟩ :=
      (hsound.setup ⟨.ok (), .ok (), read⟩ new rfl (by decide) hactive).2
    rw [hreceived, List.append_assoc] at hselects
    have hserver := isQuicVarint_unique hvarint htype hselects
    rw [hserver] at hvalue
    revert hvalue
    decide
  · intro hother
    refine ⟨?_, ?_⟩
    · rintro transport before rfl hbefore hactive
      rcases setup_cases replace transport before with hfails | ⟨hchecked, hsetup⟩
      · exact absurd hactive (hfails.not_activates hbefore)
      · rw [hsetup]
        exact ⟨rfl, (check_server_setup_eq_ok hchecked).resolve_right hother⟩
    · rintro transport before rfl hbefore hactive
      exact accept_sound hbefore hactive

/-- A GOAWAY is all that the peer has sent, and the session is active. -/
theorem goaway_activates_session :
    ¬Sound (fun _ => "") (.bytes [0x1A]) ∧
      (new.setup (fun _ => "") ⟨.ok (), .ok (), .bytes [0x1A]⟩).2.state = .Active := by
  refine ⟨?_, by decide⟩
  intro hsound
  obtain ⟨message_type, version, tail, htype, -, hselects⟩ :=
    (hsound.setup ⟨.ok (), .ok (), .bytes [0x1A]⟩ new rfl (by decide) (.inl (by decide))).2
  have hgoaway : IsQuicVarint msg_type.GOAWAY [0x1A] := ⟨0, by decide, by decide, by decide⟩
  have hreceived : [0x1A] ++ [] = message_type ++ (version ++ tail) := by
    rw [← List.append_assoc, ← hselects]
    rfl
  exact absurd (isQuicVarint_unique hgoaway htype hreceived) (by decide)

end MoqSession

end voip_client.moq
