import Voip.Client.MoqSetup
import Voip.Machine.Counted

namespace voip_client.moq

open wire machine

/-- `cursor.advance`, which panics behind the end. -/
def advance (cursor : Bytes) (count : Nat) : Except Failure Bytes :=
  if count ≤ cursor.length then .ok (cursor.drop count) else .error .panic

/-- Reads a number, in one step, and moves the cursor behind it. -/
def read_varint_counted (cursor : Bytes) : Counted Failure (Nat × Bytes) := do
  .tick 1
  let (value, size) := decode_varint cursor
  let cursor ← .ofExcept (advance cursor size)
  return (value, cursor)

def parse_versions_counted : Nat → Bytes → Counted Failure (List Nat × Bytes)
  | 0, cursor => return ([], cursor)
  | count + 1, cursor => do
    let (v, cursor) ← read_varint_counted cursor
    let (versions, cursor) ← parse_versions_counted count cursor
    return (v :: versions, cursor)

/-- The bytes of the path take a step each. -/
def read_path_counted (replace : Bytes → String) (cursor : Bytes) : Counted Failure (Option String) :=
  if cursor = [] then return none
  else do
    let (path_len, cursor) ← read_varint_counted cursor
    if path_len ≤ cursor.length then do
      .tick path_len
      return some (from_utf8_lossy replace (cursor.take path_len))
    else return none

/-- `parse_client_setup` with the steps it takes. -/
def parse_client_setup_counted (replace : Bytes → String) (data : Bytes) :
    Counted Failure ClientSetupParams := do
  let (msg_type_val, cursor) ← read_varint_counted data
  if msg_type_val ≠ msg_type.CLIENT_SETUP then
    .ofExcept (.error (.error (.UnexpectedMessageType msg_type.CLIENT_SETUP msg_type_val)))
  else do
    let (num_versions, cursor) ← read_varint_counted cursor
    if 2 ^ 63 ≤ num_versions * 8 then .ofExcept (.error .panic)
    else do
      let (versions, cursor) ← parse_versions_counted num_versions cursor
      let (role, cursor) ← read_varint_counted cursor
      let path ← read_path_counted replace cursor
      return ⟨versions, UInt8.ofNat role, path⟩

theorem decode_varint_le (data : Bytes) : (decode_varint data).2 ≤ data.length := by
  obtain hnone | ⟨value, bytes, rest, -, rfl, hread⟩ := decode_varint_cases data
  · simp [hnone]
  · simp [hread]

/-- The cursor never moves behind the end. -/
theorem read_varint_counted_eq (cursor : Bytes) :
    read_varint_counted cursor = ⟨.ok ((decode_varint cursor).1, cursor.drop (decode_varint cursor).2), 1⟩ := by
  have hadvance : advance cursor (decode_varint cursor).2 = .ok (cursor.drop (decode_varint cursor).2) :=
    if_pos (decode_varint_le cursor)
  simp only [read_varint_counted, hadvance]
  rfl

theorem parse_versions_counted_eq (count : Nat) (cursor : Bytes) :
    parse_versions_counted count cursor = ⟨.ok (parse_versions count cursor), count⟩ := by
  induction count generalizing cursor with
  | zero => rfl
  | succ count ih =>
    rw [parse_versions_counted, read_varint_counted_eq, Counted.ok_bind]
    dsimp only
    rw [ih, Counted.ok_bind]
    exact congrArg (Counted.mk _) (Nat.add_comm 1 count)

theorem read_path_counted_result (replace : Bytes → String) (cursor : Bytes) :
    (read_path_counted replace cursor).result = .ok (read_path replace cursor) := by
  rw [read_path_counted, read_path]
  split
  · rfl
  · rw [read_varint_counted_eq, Counted.ok_bind]
    dsimp only
    split <;> rfl

/-- A path takes no more steps than it has bytes. -/
theorem read_path_counted_steps (replace : Bytes → String) (cursor : Bytes) :
    (read_path_counted replace cursor).steps ≤ cursor.length := by
  rw [read_path_counted]
  split
  · exact Nat.zero_le _
  next hne =>
    have hpos := List.length_pos_iff.mpr hne
    rw [read_varint_counted_eq, Counted.ok_bind]
    dsimp only
    split
    next hfits =>
      rw [Counted.tick_bind]
      change 1 + ((decode_varint cursor).1 + 0) ≤ cursor.length
      obtain hnone | ⟨path_len, bytes, rest, hvarint, rfl, hread⟩ := decode_varint_cases cursor
      · rw [hnone]
        exact hpos
      · rw [hread, List.drop_left] at hfits
        have hbytes := List.length_pos_iff.mpr hvarint.ne_nil
        rw [hread, List.length_append]
        omega
    next => exact hpos

/-- The parser counted is the parser. -/
theorem parse_client_setup_counted_result (replace : Bytes → String) (data : Bytes) :
    (parse_client_setup_counted replace data).result = parse_client_setup replace data := by
  rw [parse_client_setup_counted, parse_client_setup, read_varint_counted_eq, Counted.ok_bind]
  dsimp only
  split
  · rfl
  · rw [read_varint_counted_eq, Counted.ok_bind]
    dsimp only
    split
    · rfl
    · rw [parse_versions_counted_eq, Counted.ok_bind]
      dsimp only
      rw [read_varint_counted_eq, Counted.ok_bind, Counted.bind_of_ok (read_path_counted_result ..)]
      rfl

/-- The data starts with the type of a CLIENT_SETUP message. -/
def StartsClientSetup (data : Bytes) : Prop :=
  ∃ message_type rest, IsQuicVarint msg_type.CLIENT_SETUP message_type ∧ data = message_type ++ rest

/-- The data starts with a CLIENT_SETUP message, with all of its versions and its role. -/
def HoldsVersions (versions : List Nat) (data : Bytes) : Prop :=
  ∃ message_type count encodings role role_bytes rest, IsQuicVarint msg_type.CLIENT_SETUP message_type ∧
    IsQuicVarint versions.length count ∧ List.Forall₂ IsQuicVarint versions encodings ∧
    IsQuicVarint role role_bytes ∧
    data = message_type ++ (count ++ (encodings.flatten ++ (role_bytes ++ rest)))

/-- The parser returns after a number of steps that is linear in the length of the data, with no more
versions than there are bytes, and it rejects what ends too early. -/
structure ParsesSafely (replace : Bytes → String) (data : Bytes) : Prop where
  returns : parse_client_setup replace data ≠ .error .panic
  linear : (parse_client_setup_counted replace data).steps ≤ data.length + 1
  bounded : ∀ params, parse_client_setup replace data = .ok params → params.versions.length ≤ data.length
  rejects : StartsClientSetup data → (∀ versions, ¬HoldsVersions versions data) →
    ∃ error, parse_client_setup replace data = .error (.error error)

variable {replace : Bytes → String} {data : Bytes}

/-- A CLIENT_SETUP message is never rejected. -/
theorem parse_client_setup_of_starts (hstarts : StartsClientSetup data) (error : MoqError) :
    parse_client_setup replace data ≠ .error (.error error) := by
  obtain ⟨message_type, rest, htype, rfl⟩ := hstarts
  simp only [parse_client_setup, decode_varint_append htype]
  split
  · contradiction
  · split <;> simp

/-- Any other message is rejected at once. -/
theorem parses_safely_of_not_starts (hstarts : ¬StartsClientSetup data) : ParsesSafely replace data := by
  have htype : (decode_varint data).1 ≠ msg_type.CLIENT_SETUP := by
    intro hread
    obtain ⟨bytes, hvarint, hdata⟩ := decode_varint_fst hread (by decide)
    exact hstarts ⟨bytes, _, hvarint, hdata⟩
  have hrejected : parse_client_setup replace data = .error (.error
      (.UnexpectedMessageType msg_type.CLIENT_SETUP (decode_varint data).1)) := by
    simp only [parse_client_setup]
    exact if_pos htype
  have hsteps : (parse_client_setup_counted replace data).steps = 1 := by
    rw [parse_client_setup_counted, read_varint_counted_eq, Counted.ok_bind]
    dsimp only
    rw [if_pos htype]
    rfl
  refine ⟨?_, ?_, ?_, fun h => absurd h hstarts⟩
  · rw [hrejected]
    simp
  · rw [hsteps]
    omega
  · rw [hrejected]
    simp

theorem length_le_flatten {versions : List Nat} {encodings : List Bytes}
    (hversions : List.Forall₂ IsQuicVarint versions encodings) : versions.length ≤ encodings.flatten.length := by
  induction hversions with
  | nil => exact Nat.le_refl 0
  | cons hversion _ ih =>
    have hbytes := List.length_pos_iff.mpr hversion.ne_nil
    rw [List.length_cons, List.flatten_cons, List.length_append]
    omega

/-- A message that is whole takes a step for each number, and each of them has a byte. -/
theorem parses_safely_of_holds {versions : List Nat} (hholds : HoldsVersions versions data)
    (hcapacity : versions.length < 2 ^ 60) : ParsesSafely replace data := by
  have hheld := hholds
  obtain ⟨message_type, count, encodings, role, role_bytes, rest, htype, hcount, hversions, hrole, rfl⟩ := hholds
  have hfits : ¬2 ^ 63 ≤ versions.length * 8 := by omega
  have hparsed := parse_client_setup_append replace htype hcount hversions hrole rest
  rw [if_neg hfits] at hparsed
  have hsteps : (parse_client_setup_counted replace
        (message_type ++ (count ++ (encodings.flatten ++ (role_bytes ++ rest))))).steps =
      1 + (1 + (versions.length + (1 + ((read_path_counted replace rest).steps + 0)))) := by
    rw [parse_client_setup_counted, read_varint_counted_eq, Counted.ok_bind]
    simp only [decode_varint_append htype, List.drop_left]
    rw [if_neg (by simp), read_varint_counted_eq, Counted.ok_bind]
    simp only [decode_varint_append hcount, List.drop_left]
    rw [if_neg hfits, parse_versions_counted_eq, parse_versions_of_spelled hversions, Counted.ok_bind]
    dsimp only
    rw [read_varint_counted_eq, Counted.ok_bind]
    simp only [decode_varint_append hrole, List.drop_left]
    rw [Counted.bind_of_ok (read_path_counted_result ..)]
    rfl
  have hpath := read_path_counted_steps replace rest
  have hbytes := length_le_flatten hversions
  have htype_pos := List.length_pos_iff.mpr htype.ne_nil
  have hcount_pos := List.length_pos_iff.mpr hcount.ne_nil
  have hrole_pos := List.length_pos_iff.mpr hrole.ne_nil
  refine ⟨?_, ?_, ?_, fun _ hnone => absurd hheld (hnone versions)⟩
  · rw [hparsed]
    simp
  · rw [hsteps]
    simp only [List.length_append]
    omega
  · intro params hparams
    rw [hparsed] at hparams
    cases hparams
    simp only [List.length_append]
    omega

/-- The parser is safe on exactly the data that is no CLIENT_SETUP message or holds a whole one, the
versions of which fit into a vector. -/
theorem parses_safely_iff (replace : Bytes → String) (data : Bytes) :
    ParsesSafely replace data ↔
      (StartsClientSetup data → ∃ versions, HoldsVersions versions data ∧ versions.length < 2 ^ 60) := by
  constructor
  · intro hsafe hstarts
    by_contra hnot
    have hnone : ∀ versions, ¬HoldsVersions versions data := by
      intro versions hholds
      obtain ⟨message_type, count, encodings, role, role_bytes, rest, htype, hcount, hversions, hrole, rfl⟩ :=
        hholds
      have hlarge : 2 ^ 60 ≤ versions.length := by
        by_contra hsmall
        exact hnot ⟨versions, ⟨_, _, _, role, _, rest, htype, hcount, hversions, hrole, rfl⟩, by omega⟩
      refine hsafe.returns ?_
      rw [parse_client_setup_append replace htype hcount hversions hrole, if_pos (by omega)]
    obtain ⟨error, herror⟩ := hsafe.rejects hstarts hnone
    exact parse_client_setup_of_starts hstarts error herror
  · intro hwhole
    by_cases hstarts : StartsClientSetup data
    · obtain ⟨versions, hholds, hcapacity⟩ := hwhole hstarts
      exact parses_safely_of_holds hholds hcapacity
    · exact parses_safely_of_not_starts hstarts

/-- Two bytes that declare 63 versions are accepted, with 63 zeros; a larger number of versions that
are not there is a panic. -/
theorem not_parses_safely_of_two_bytes :
    parse_client_setup (fun _ => "") [0x01, 0x3F] = .ok ⟨List.replicate 63 0, 0, none⟩ ∧
      parse_client_setup (fun _ => "") [0x01, 0xD0, 0, 0, 0, 0, 0, 0, 0] = .error .panic ∧
      ¬ParsesSafely (fun _ => "") [0x01, 0x3F] := by
  have haccepted : parse_client_setup (fun _ => "") [0x01, 0x3F] = .ok ⟨List.replicate 63 0, 0, none⟩ := by
    decide
  refine ⟨haccepted, by decide, fun hsafe => ?_⟩
  have hbounded := hsafe.bounded _ haccepted
  simp at hbounded

end voip_client.moq
