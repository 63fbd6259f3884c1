import Voip.Client.MoqHandshake
import Mathlib.Data.List.Forall2

namespace voip_client.moq

open wire result

/-- The bytes of the optional path at the end of a setup message. -/
def PathSpelled : Option String → Bytes → Prop
  | none, bytes => bytes = []
  | some path, bytes => ∃ length, IsQuicVarint (utf8 path).length length ∧ bytes = length ++ utf8 path

/-- The bytes are a CLIENT_SETUP message with the given contents. -/
def ClientSetupParams.Spelled (params : ClientSetupParams) (message : Bytes) : Prop :=
  ∃ message_type count versions role path, IsQuicVarint msg_type.CLIENT_SETUP message_type ∧
    IsQuicVarint params.versions.length count ∧ List.Forall₂ IsQuicVarint params.versions versions ∧
    IsQuicVarint params.role.toNat role ∧ PathSpelled params.path path ∧
    message = message_type ++ (count ++ (versions.flatten ++ (role ++ path)))

theorem from_utf8_lossy_utf8 (replace : Bytes → String) (text : String) :
    from_utf8_lossy replace (utf8 text) = text := by
  rw [from_utf8_lossy, fromUTF8?_utf8, Option.getD_some]

/-- A path is told apart from its absence by the length in front of it. -/
theorem read_path_of_spelled {replace : Bytes → String} {path : Option String} {bytes : Bytes}
    (hpath : PathSpelled path bytes) : read_path replace bytes = path := by
  cases path with
  | none =>
    subst hpath
    rfl
  | some path =>
    obtain ⟨length, hlength, rfl⟩ := hpath
    have hne : length ++ utf8 path ≠ [] := List.append_ne_nil_of_left_ne_nil hlength.ne_nil _
    simp [read_path, hne, decode_varint_append hlength, from_utf8_lossy_utf8]

theorem parse_versions_of_spelled {versions : List Nat} {encodings : List Bytes}
    (hversions : List.Forall₂ IsQuicVarint versions encodings) (rest : Bytes) :
    parse_versions versions.length (encodings.flatten ++ rest) = (versions, rest) := by
  induction hversions with
  | nil => rfl
  | cons hversion _ ih =>
    rw [List.length_cons, parse_versions, List.flatten_cons, List.append_assoc,
      decode_varint_append hversion]
    dsimp only
    rw [List.drop_left, ih]

/-- What comes of a CLIENT_SETUP message that is whole up to its role. -/
theorem parse_client_setup_append (replace : Bytes → String) {versions : List Nat} {role : Nat}
    {message_type count role_bytes : Bytes} {encodings : List Bytes}
    (htype : IsQuicVarint msg_type.CLIENT_SETUP message_type) (hcount : IsQuicVarint versions.length count)
    (hversions : List.Forall₂ IsQuicVarint versions encodings) (hrole : IsQuicVarint role role_bytes)
    (rest : Bytes) :
    parse_client_setup replace (message_type ++ (count ++ (encodings.flatten ++ (role_bytes ++ rest)))) =
      if 2 ^ 63 ≤ versions.length * 8 then .error .panic
      else .ok ⟨versions, UInt8.ofNat role, read_path replace rest⟩ := by
  simp only [parse_client_setup, decode_varint_append htype, List.drop_left, decode_varint_append hcount,
    parse_versions_of_spelled hversions, decode_varint_append hrole]
  rfl

/-- A CLIENT_SETUP message is read as it is spelled, if its versions fit into a vector. -/
theorem parse_client_setup_of_spelled {replace : Bytes → String} {params : ClientSetupParams}
    {message : Bytes} (hmessage : params.Spelled message) (hcapacity : params.versions.length * 8 < 2 ^ 63) :
    parse_client_setup replace message = .ok params := by
  obtain ⟨message_type, count, versions, role, path, htype, hcount, hversions, hrole, hpath, rfl⟩ := hmessage
  rw [parse_client_setup_append replace htype hcount hversions hrole, if_neg (Nat.not_le.mpr hcapacity),
    read_path_of_spelled hpath, UInt8.ofNat_toNat]

theorem forall₂_encode_varint {versions : List Nat} (hversions : ∀ version ∈ versions, version < 2 ^ 62) :
    List.Forall₂ IsQuicVarint versions (versions.map encode_varint) := by
  induction versions with
  | nil => exact .nil
  | cons version versions ih =>
    obtain ⟨hversion, hrest⟩ := List.forall_mem_cons.mp hversions
    exact .cons (isQuicVarint_encode_varint hversion) (ih hrest)

/-- The message ends with its path. -/
theorem ClientSetup.encode_eq (setup : ClientSetup) (hpath : ∀ path ∈ setup.path, (utf8 path).length < 2 ^ 62) :
    ∃ path, PathSpelled setup.path path ∧
      setup.encode = encode_varint msg_type.CLIENT_SETUP ++ (encode_varint setup.versions.length ++
        ((setup.versions.map encode_varint).flatten ++ (encode_varint setup.role.toNat ++ path))) := by
  obtain ⟨versions, role, path⟩ := setup
  cases path with
  | none => exact ⟨[], rfl, by simp [encode, List.flatMap]⟩
  | some path =>
    have hlength : (utf8 path).length < 2 ^ 62 := hpath path rfl
    exact ⟨_, ⟨_, isQuicVarint_encode_varint hlength, rfl⟩, by simp [encode, List.flatMap]⟩

/-- What a client sends is read back with the same versions, role and path. The bounds are
those of memory: a vector of versions has at most `isize::MAX` bytes, and no string has
`2 ^ 62`. -/
theorem parse_client_setup_encode (replace : Bytes → String) (setup : ClientSetup)
    (hversions : ∀ version ∈ setup.versions, version < 2 ^ 62)
    (hcapacity : setup.versions.length * 8 < 2 ^ 63)
    (hpath : ∀ path ∈ setup.path, (utf8 path).length < 2 ^ 62) :
    parse_client_setup replace setup.encode = .ok ⟨setup.versions, setup.role, setup.path⟩ := by
  obtain ⟨path, hspelled, hencode⟩ := setup.encode_eq hpath
  have hcount : setup.versions.length < 2 ^ 62 := by omega
  have hrole : setup.role.toNat < 2 ^ 62 := setup.role.toNat_lt.trans (by decide)
  have hmessage : (ClientSetupParams.mk setup.versions setup.role setup.path).Spelled setup.encode :=
    ⟨_, _, _, _, path, isQuicVarint_encode_varint (by decide), isQuicVarint_encode_varint hcount,
      forall₂_encode_varint hversions, isQuicVarint_encode_varint hrole, hspelled, hencode⟩
  exact parse_client_setup_of_spelled hmessage hcapacity

theorem parse_client_setup_encode_with_path :
    parse_client_setup (fun _ => "") (ClientSetup.mk [ClientSetup.DRAFT_17, 0, 2 ^ 62 - 1] 0x03 (some "")).encode =
      .ok ⟨[ClientSetup.DRAFT_17, 0, 2 ^ 62 - 1], 0x03, some ""⟩ :=
  parse_client_setup_encode _ ⟨[ClientSetup.DRAFT_17, 0, 2 ^ 62 - 1], 0x03, some ""⟩ (by decide) (by decide)
    (by decide)

end voip_client.moq
