import Voip.Client.ProbeAgreement
import Voip.Machine.Checked

namespace voip_client.nat_probe

open wire checked result

def skip_varint_checked (data : Bytes) (pos : Nat) : Except Fault Nat := do
  let (_, val_len) := decode_varint (← sliceFrom data pos)
  add 64 pos val_len

def skip_delimited_checked (data : Bytes) (pos : Nat) : Except Fault Nat := do
  let (len, len_size) := decode_varint (← sliceFrom data pos)
  add 64 pos (← add 64 len_size len.toNat)

/-- The body of the loop with the faults of its slices and of its additions. Reading a varint has
none: it takes ten bytes at most, and shifts by less than 64. -/
def Parser.field_checked (replace : Bytes → String) (data : Bytes) (self : Parser) :
    Except Fault (Option Parser) := do
  let (key, key_len) := decode_varint (← sliceFrom data self.pos)
  let pos ← add 64 self.pos key_len
  let field_number := (key >>> 3).toUInt32
  let wire_type := (key &&& 0x07).toUInt8
  if field_number = 1 ∧ wire_type = 2 then
    return some { self with pos := ← skip_delimited_checked data pos }
  else if field_number = 2 ∧ wire_type = 2 then
    let (len, len_size) := decode_varint (← sliceFrom data pos)
    let pos ← add 64 pos len_size
    let stop ← add 64 pos len.toNat
    if stop ≤ data.length then
      let observed_ip := from_utf8_lossy replace (← slice data pos stop)
      return some { self with pos := stop, observed_ip }
    else return some { self with pos := stop }
  else if field_number = 3 ∧ wire_type = 0 then
    let (val, val_len) := decode_varint (← sliceFrom data pos)
    return some { self with pos := ← add 64 pos val_len, observed_port := val.toUInt32 }
  else if field_number = 4 ∧ wire_type = 0 then
    return some { self with pos := ← skip_varint_checked data pos }
  else if wire_type = 0 then return some { self with pos := ← skip_varint_checked data pos }
  else if wire_type = 2 then return some { self with pos := ← skip_delimited_checked data pos }
  else if wire_type = 1 then return some { self with pos := ← add 64 pos 8 }
  else if wire_type = 5 then return some { self with pos := ← add 64 pos 4 }
  else return none

/-- Where a field ends that starts at a position. A field of an unknown wire type has no end. -/
def field_end (data : Bytes) (pos : Nat) : Option Nat :=
  let (key, key_len) := decode_varint (data.drop pos)
  let pos := pos + key_len
  let wire_type := (key &&& 0x07).toUInt8
  if wire_type = 0 then some (pos + (decode_varint (data.drop pos)).2)
  else if wire_type = 2 then
    let (len, len_size) := decode_varint (data.drop pos)
    some (pos + len_size + len.toNat)
  else if wire_type = 1 then some (pos + 8)
  else if wire_type = 5 then some (pos + 4)
  else none

theorem decode_varint_loop_bounds (data : Bytes) (value : UInt64) (shift i : Nat) :
    (decode_varint_loop data value shift i).2 ≤ i + data.length ∧
      (data ≠ [] → i < (decode_varint_loop data value shift i).2) := by
  induction data generalizing value shift i with
  | nil => exact ⟨Nat.le_refl i, fun h => absurd rfl h⟩
  | cons byte rest ih =>
    rw [decode_varint_loop, List.length_cons]
    split
    · exact ⟨by omega, fun _ => Nat.lt_succ_self i⟩
    · split
      · exact ⟨by omega, fun _ => Nat.lt_succ_self i⟩
      · obtain ⟨hle, hlt⟩ := ih (value ||| (byte &&& 0x7F).toUInt64 <<< UInt64.ofNat shift) (shift + 7) (i + 1)
        refine ⟨by omega, fun _ => ?_⟩
        by_cases hrest : rest = []
        · subst hrest
          exact Nat.lt_succ_self i
        · have := hlt hrest
          omega

theorem decode_varint_le (data : Bytes) : (decode_varint data).2 ≤ data.length := by
  have hbounds := (decode_varint_loop_bounds data 0 0 0).1
  rwa [Nat.zero_add] at hbounds

/-- A read from data that is not empty makes progress. -/
theorem decode_varint_pos {data : Bytes} (hdata : data ≠ []) : 0 < (decode_varint data).2 :=
  (decode_varint_loop_bounds data 0 0 0).2 hdata

/-- A position is moved to the given one, with or without the checks, or it overflows. -/
def Moves (checked : Except Fault Nat) (plain stop : Nat) : Prop :=
  stop < 2 ^ 64 ∧ checked = .ok stop ∧ plain = stop ∨ 2 ^ 64 ≤ stop ∧ checked = .error .overflow

/-- An iteration moves the position to the end of its field. -/
def Ends (checked : Except Fault (Option Parser)) (plain : Except Crash (Option Parser)) (stop : Nat) : Prop :=
  stop < 2 ^ 64 ∧ (∃ after, checked = .ok (some after) ∧ plain = .ok (some after) ∧ after.pos = stop) ∨
    2 ^ 64 ≤ stop ∧ checked = .error .overflow

theorem Moves.ends {checked : Except Fault Nat} {plain stop : Nat} (hmoves : Moves checked plain stop)
    (update : Nat → Parser) (hupdate : ∀ pos, (update pos).pos = pos) :
    Ends (do return some (update (← checked))) (.ok (some (update plain))) stop := by
  obtain ⟨hfits, rfl, rfl⟩ | ⟨hlarge, rfl⟩ := hmoves
  · exact .inl ⟨hfits, update plain, rfl, rfl, hupdate plain⟩
  · exact .inr ⟨hlarge, rfl⟩

theorem moves_add (pos count : Nat) : Moves (add 64 pos count) (advance pos count) (pos + count) := by
  by_cases hfits : pos + count < 2 ^ 64
  · exact .inl ⟨hfits, add_of_lt hfits, advance_of_lt hfits⟩
  · exact .inr ⟨Nat.not_lt.mp hfits, add_of_le (Nat.not_lt.mp hfits)⟩

section

variable {data : Bytes} {pos : Nat}

/-- A read moves the position inside of the data. -/
theorem add_decode_varint {value : UInt64} {size : Nat} (hdata : FitsMemory data) (hpos : pos ≤ data.length)
    (hread : decode_varint (data.drop pos) = (value, size)) :
    pos + size ≤ data.length ∧ add 64 pos size = .ok (pos + size) ∧ advance pos size = pos + size := by
  have hle := decode_varint_le (data.drop pos)
  rw [hread, List.length_drop] at hle
  unfold FitsMemory at hdata
  exact ⟨by omega, add_of_lt (by omega), advance_of_lt (by omega)⟩

theorem moves_varint (hpos : pos ≤ data.length) :
    Moves (skip_varint_checked data pos) (skip_varint data pos) (pos + (decode_varint (data.drop pos)).2) := by
  rw [skip_varint_checked, sliceFrom_of_le hpos, ok_bind]
  exact moves_add pos (decode_varint (data.drop pos)).2

theorem moves_delimited (hpos : pos ≤ data.length) :
    Moves (skip_delimited_checked data pos) (skip_delimited data pos)
      (pos + (decode_varint (data.drop pos)).2 + (decode_varint (data.drop pos)).1.toNat) := by
  obtain ⟨len, len_size, hread⟩ : ∃ value size, decode_varint (data.drop pos) = (value, size) := ⟨_, _, rfl⟩
  simp only [skip_delimited_checked, sliceFrom_of_le hpos, ok_bind, skip_delimited, hread]
  rw [Nat.add_assoc]
  obtain ⟨-, hadd, hadvance⟩ | ⟨hlarge, hadd⟩ := moves_add len_size len.toNat
  · rw [hadd, ok_bind, hadvance]
    exact moves_add ..
  · rw [hadd]
    exact .inr ⟨by omega, rfl⟩

/-- The slice of the address is inside of the data, unless its end overflows. -/
theorem ends_observed_ip (replace : Bytes → String) (parser : Parser) (hdata : FitsMemory data)
    (hpos : pos ≤ data.length) :
    Ends
      (do
        let (len, len_size) := decode_varint (← sliceFrom data pos)
        let pos ← add 64 pos len_size
        let stop ← add 64 pos len.toNat
        if stop ≤ data.length then
          let observed_ip := from_utf8_lossy replace (← slice data pos stop)
          return some { parser with pos := stop, observed_ip }
        else return some { parser with pos := stop })
      (let (len, len_size) := decode_varint (data.drop pos)
       let pos := advance pos len_size
       let stop := advance pos len.toNat
       if stop ≤ data.length then
         if pos ≤ stop then
           .ok (some { parser with
             pos := stop
             observed_ip := from_utf8_lossy replace ((data.drop pos).take (stop - pos)) })
         else .error .panic
       else .ok (some { parser with pos := stop }))
      (pos + (decode_varint (data.drop pos)).2 + (decode_varint (data.drop pos)).1.toNat) := by
  obtain ⟨len, len_size, hread⟩ : ∃ value size, decode_varint (data.drop pos) = (value, size) := ⟨_, _, rfl⟩
  obtain ⟨hle, hadd, hadvance⟩ := add_decode_varint hdata hpos hread
  simp only [sliceFrom_of_le hpos, ok_bind, hread, hadd, hadvance]
  obtain ⟨hfits, hadd, hadvance⟩ | ⟨hlarge, hadd⟩ := moves_add (pos + len_size) len.toNat
  · rw [hadd, ok_bind, hadvance]
    refine .inl ⟨hfits, ?_⟩
    by_cases hinside : pos + len_size + len.toNat ≤ data.length
    · rw [if_pos hinside, if_pos hinside, if_pos (by omega), slice_of_le (by omega) hinside, ok_bind,
        List.drop_take]
      exact ⟨_, rfl, rfl, rfl⟩
    · rw [if_neg hinside, if_neg hinside]
      exact ⟨_, rfl, rfl, rfl⟩
  · rw [hadd]
    exact .inr ⟨hlarge, rfl⟩

/-- What an iteration comes to, by the end of its field. -/
theorem field_checked_cases (replace : Bytes → String) {parser : Parser} (hdata : FitsMemory data)
    (hpos : parser.pos < data.length) :
    field_end data parser.pos = none ∧ parser.field_checked replace data = .ok none ∧
        parser.field replace data = .ok none ∨
      ∃ stop, field_end data parser.pos = some stop ∧ parser.pos < stop ∧
        Ends (parser.field_checked replace data) (parser.field replace data) stop := by
  obtain ⟨key, key_len, hread⟩ : ∃ value size, decode_varint (data.drop parser.pos) = (value, size) :=
    ⟨_, _, rfl⟩
  obtain ⟨hle, hadd, hadvance⟩ := add_decode_varint hdata hpos.le hread
  have hkey : 0 < key_len := by
    have hsome : data.drop parser.pos ≠ [] := by
      rw [ne_eq, List.drop_eq_nil_iff]
      omega
    have hsize := decode_varint_pos hsome
    rwa [hread] at hsize
  simp only [Parser.field_checked, Parser.field, field_end, sliceFrom_of_le hpos.le, ok_bind, hread, hadd, hadvance]
  have hmove : ∀ pos, ({ parser with pos } : Parser).pos = pos := fun _ => rfl
  generalize (key >>> 3).toUInt32 = number
  generalize (key &&& 7).toUInt8 = wire
  have hne : ¬(2 : UInt8) = 0 := by decide
  by_cases hdelimited : wire = 2
  · subst hdelimited
    refine .inr ⟨_, rfl, by omega, ?_⟩
    by_cases hserver : number = 1
    · subst hserver
      exact (moves_delimited hle).ends (fun pos => { parser with pos }) hmove
    by_cases hobserved : number = 2
    · subst hobserved
      exact ends_observed_ip replace parser hdata hle
    · simp only [hserver, hobserved, hne, false_and, and_false, if_false, if_true]
      exact (moves_delimited hle).ends (fun pos => { parser with pos }) hmove
  by_cases hvarint : wire = 0
  · subst hvarint
    refine .inr ⟨_, rfl, by omega, ?_⟩
    simp only [hdelimited, and_false, and_true, if_false, if_true]
    by_cases hport : number = 3
    · subst hport
      simp only [sliceFrom_of_le hle, ok_bind, if_true]
      exact (moves_add _ _).ends
        (fun pos => { parser with pos, observed_port := (decode_varint _).1.toUInt32 }) (fun _ => rfl)
    · -- a timestamp is skipped as a field that is not known
      simp only [hport, if_false, ite_self]
      exact (moves_varint hle).ends (fun pos => { parser with pos }) hmove
  simp only [hdelimited, hvarint, and_false, if_false]
  by_cases hwide : wire = 1
  · simp only [hwide, if_true]
    exact .inr ⟨_, rfl, by omega, (moves_add _ 8).ends (fun pos => { parser with pos }) hmove⟩
  by_cases hnarrow : wire = 5
  · simp only [hnarrow, if_true]
    exact .inr ⟨_, rfl, by omega, (moves_add _ 4).ends (fun pos => { parser with pos }) hmove⟩
  · simp only [hwide, hnarrow, if_false]
    exact .inl ⟨trivial, rfl, trivial⟩

end

/-- A field starts at a position. -/
inductive FieldStart (data : Bytes) : Nat → Prop where
  | first : FieldStart data 0
  | next {pos stop : Nat} (hstart : FieldStart data pos) (hpos : pos < data.length)
      (hend : field_end data pos = some stop) : FieldStart data stop

/-- The variables that the loop comes to. -/
inductive Reached (replace : Bytes → String) (data : Bytes) : Parser → Prop where
  | start : Reached replace data ⟨0, "", 0⟩
  | next {parser after : Parser} (hreached : Reached replace data parser) (hpos : parser.pos < data.length)
      (hfield : parser.field replace data = .ok (some after)) : Reached replace data after

/-- The parser returns, no iteration has a fault, and each moves the position forward. -/
structure ReadsSafely (replace : Bytes → String) (data : Bytes) : Prop where
  terminates : ∃ response, parse_path_probe_response replace (data.length + 1) data = .ok response
  advances : ∀ parser, Reached replace data parser → parser.pos < data.length →
    ∃ next, parser.field_checked replace data = .ok next ∧ parser.field replace data = .ok next ∧
      ∀ after ∈ next, parser.pos < after.pos

section

variable {replace : Bytes → String} {data : Bytes}

/-- An iteration at the start of a field, where no field ends too far. -/
theorem field_of_starts (replace : Bytes → String) (hdata : FitsMemory data)
    (hends : ∀ pos, FieldStart data pos → pos < 2 ^ 64)
    {parser : Parser} (hstart : FieldStart data parser.pos) (hpos : parser.pos < data.length) :
    ∃ next, parser.field_checked replace data = .ok next ∧ parser.field replace data = .ok next ∧
      ∀ after ∈ next, parser.pos < after.pos ∧ FieldStart data after.pos := by
  obtain ⟨-, hchecked, hplain⟩ | ⟨stop, hend, hless, hcase⟩ := field_checked_cases replace hdata hpos
  · exact ⟨none, hchecked, hplain, nofun⟩
  · obtain ⟨hfits, after, hchecked, hplain, rfl⟩ | ⟨hlarge, -⟩ := hcase
    · refine ⟨some after, hchecked, hplain, ?_⟩
      rintro _ ⟨⟩
      exact ⟨hless, .next hstart hpos hend⟩
    · exact absurd (hends stop (.next hstart hpos hend)) (Nat.not_lt.mpr hlarge)

/-- Each iteration takes at least one byte. -/
theorem parse_loop_of_starts (replace : Bytes → String) (hdata : FitsMemory data)
    (hends : ∀ pos, FieldStart data pos → pos < 2 ^ 64) {parser : Parser} {fuel : Nat}
    (hstart : FieldStart data parser.pos) (hfuel : data.length ≤ parser.pos + fuel) :
    ∃ result, parse_loop replace data (fuel + 1) parser = .ok result := by
  induction fuel generalizing parser with
  | zero => exact ⟨parser, if_neg (by omega)⟩
  | succ fuel ih =>
    by_cases hpos : parser.pos < data.length
    · obtain ⟨next, -, hfield, hnext⟩ := field_of_starts replace hdata hends hstart hpos
      rw [parse_loop, if_pos hpos, hfield]
      cases next with
      | none => exact ⟨parser, rfl⟩
      | some after =>
        obtain ⟨hless, hafter⟩ := hnext after rfl
        exact ih hafter (by omega)
    · exact ⟨parser, if_neg hpos⟩

theorem fieldStart_of_reached (hdata : FitsMemory data)
    (hends : ∀ pos, FieldStart data pos → pos < 2 ^ 64) {parser : Parser}
    (hreached : Reached replace data parser) : FieldStart data parser.pos := by
  induction hreached with
  | start => exact .first
  | next _ hpos hfield ih =>
    obtain ⟨next, -, hplain, hnext⟩ := field_of_starts replace hdata hends ih hpos
    rw [hfield] at hplain
    cases hplain
    exact (hnext _ rfl).2

/-- If no iteration has a fault, the loop comes to every field, and none ends too far. -/
theorem reached_of_fieldStart (hdata : FitsMemory data) (hsafe : ReadsSafely replace data) {pos : Nat}
    (hstart : FieldStart data pos) : pos < 2 ^ 64 ∧ ∃ parser, Reached replace data parser ∧ parser.pos = pos := by
  induction hstart with
  | first => exact ⟨by omega, _, .start, rfl⟩
  | next _ hpos hend ih =>
    obtain ⟨-, parser, hreached, rfl⟩ := ih
    obtain ⟨next, hchecked, -, -⟩ := hsafe.advances parser hreached hpos
    obtain ⟨hnone, -, -⟩ | ⟨stop, hstop, -, hcase⟩ := field_checked_cases replace hdata hpos
    · rw [hend] at hnone
      cases hnone
    rw [hend] at hstop
    cases hstop
    obtain ⟨hfits, after, -, hplain, hafter⟩ | ⟨-, hfault⟩ := hcase
    · exact ⟨hfits, after, .next hreached hpos hplain, hafter⟩
    · rw [hchecked] at hfault
      cases hfault

end

/-- The parser is safe on exactly the data in which no field declares an end that a position cannot
hold. -/
theorem reads_safely_iff (replace : Bytes → String) (data : Bytes) (hdata : FitsMemory data) :
    ReadsSafely replace data ↔ ∀ pos, FieldStart data pos → pos < 2 ^ 64 := by
  constructor
  · intro hsafe pos hstart
    exact (reached_of_fieldStart hdata hsafe hstart).1
  · intro hends
    refine ⟨?_, fun parser hreached hpos => ?_⟩
    · have hloop : ∃ result, parse_loop replace data (data.length + 1) ⟨0, "", 0⟩ = .ok result :=
        parse_loop_of_starts replace hdata hends .first (Nat.le_add_left ..)
      obtain ⟨result, hloop⟩ := hloop
      exact ⟨⟨result.observed_ip, result.observed_port.toUInt16⟩, by rw [parse_path_probe_response, hloop]; rfl⟩
    · obtain ⟨next, hchecked, hplain, hnext⟩ :=
        field_of_starts replace hdata hends (fieldStart_of_reached hdata hends hreached) hpos
      exact ⟨next, hchecked, hplain, fun after hafter => (hnext after hafter).1⟩

/-- A response with the port alone. -/
theorem reads_safely_of_port : ReadsSafely (fun _ => "") [0x18, 0x05] := by
  refine (reads_safely_iff (fun _ => "") [0x18, 0x05] (by decide)).mpr fun pos hstart => ?_
  have hend : field_end [0x18, 0x05] 0 = some 2 := by decide
  have hcases : pos = 0 ∨ pos = 2 := by
    induction hstart with
    | first => exact .inl rfl
    | next _ hpos hnext ih =>
      obtain rfl | rfl := ih
      · rw [hend] at hnext
        exact .inr (Option.some.inj hnext).symm
      · exact absurd hpos (by decide)
  omega

/-- A loop that comes back to where it was does not end. -/
theorem parse_loop_of_fixed {replace : Bytes → String} {data : Bytes} {parser : Parser}
    (hpos : parser.pos < data.length) (hfixed : parser.field replace data = .ok (some parser)) (fuel : Nat) :
    parse_loop replace data fuel parser = .error .unfinished := by
  induction fuel with
  | zero => rfl
  | succ fuel ih =>
    rw [parse_loop, if_pos hpos, hfixed]
    exact ih

/-- A server address of `2 ^ 64 - 11` bytes. -/
def endless_response : Bytes := [0x0A, 0xF5, 0xFF, 0xFF, 0xFF, 0xFF, 0xFF, 0xFF, 0xFF, 0xFF, 0x01]

/-- Its end wraps to the start of the data, and the loop goes on for ever. -/
theorem endless_response_not_safe :
    (⟨0, "", 0⟩ : Parser).field_checked (fun _ => "") endless_response = .error .overflow ∧
      (∀ fuel, parse_path_probe_response (fun _ => "") fuel endless_response = .error .unfinished) ∧
      ¬ReadsSafely (fun _ => "") endless_response := by
  have hendless : ∀ fuel, parse_path_probe_response (fun _ => "") fuel endless_response = .error .unfinished := by
    intro fuel
    rw [parse_path_probe_response, parse_loop_of_fixed (by decide) (by decide)]
    rfl
  refine ⟨by decide, hendless, fun hsafe => ?_⟩
  obtain ⟨response, hresponse⟩ := hsafe.terminates
  rw [hendless] at hresponse
  cases hresponse

end voip_client.nat_probe
