import Voip.Wire.Decode
import Voip.Wire.Proto

namespace wire.proto

/-- What a reader finds of a field that its writer omits when it has its default value. -/
def written (field : Nat) (omitted : Prop) [Decidable omitted] (value : Value) : List (Nat × Value) :=
  if omitted then [] else [(field, value)]

/-- A varint that is read at all is read as the number that was written. -/
theorem readVarint_leb128 {fuel value : Nat} {rest : Bytes} {result : Nat × Bytes}
    (hread : readVarint fuel (leb128 value ++ rest) = some result) : result = (value, rest) := by
  induction fuel generalizing value result with
  | zero => simp [readVarint] at hread
  | succ fuel ih =>
    by_cases hsmall : value < 128
    · have hbyte : UInt8.ofNat value < 128 := by
        rw [UInt8.lt_iff_toNat_lt, UInt8.toNat_ofNat']
        exact (Nat.mod_le _ _).trans_lt hsmall
      rw [leb128_of_lt hsmall, List.singleton_append, readVarint, if_pos hbyte] at hread
      cases hread
      rw [UInt8.toNat_ofNat', Nat.mod_eq_of_lt (by omega)]
    · have hbyte : ¬ UInt8.ofNat (value % 128 + 128) < 128 := by
        rw [UInt8.lt_iff_toNat_lt, UInt8.toNat_ofNat', Nat.mod_eq_of_lt (by omega)]
        exact Nat.not_lt.mpr (Nat.le_add_left ..)
      rw [leb128_of_ge (by omega), List.cons_append, readVarint, if_neg hbyte] at hread
      obtain ⟨high, hhigh, rfl⟩ := Option.map_eq_some_iff.mp hread
      rw [ih hhigh, UInt8.toNat_ofNat', Nat.mod_eq_of_lt (by omega)]
      refine Prod.ext ?_ rfl
      dsimp only
      omega

/-- A varint is read when there is fuel for its bytes. -/
theorem isSome_readVarint_leb128 {fuel value : Nat} (hfuel : (leb128 value).length ≤ fuel) (rest : Bytes) :
    (readVarint fuel (leb128 value ++ rest)).isSome = true := by
  induction fuel generalizing value with
  | zero => exact absurd (List.length_eq_zero_iff.mp (Nat.le_zero.mp hfuel)) (leb128_ne_nil value)
  | succ fuel ih =>
    by_cases hsmall : value < 128
    · have hbyte : UInt8.ofNat value < 128 := by
        rw [UInt8.lt_iff_toNat_lt, UInt8.toNat_ofNat']
        exact (Nat.mod_le _ _).trans_lt hsmall
      rw [leb128_of_lt hsmall, List.singleton_append, readVarint, if_pos hbyte]
      rfl
    · have hbyte : ¬ UInt8.ofNat (value % 128 + 128) < 128 := by
        rw [UInt8.lt_iff_toNat_lt, UInt8.toNat_ofNat', Nat.mod_eq_of_lt (by omega)]
        exact Nat.not_lt.mpr (Nat.le_add_left ..)
      rw [leb128_of_ge (by omega), List.length_cons] at hfuel
      rw [leb128_of_ge (by omega), List.cons_append, readVarint, if_neg hbyte, Option.isSome_map]
      exact ih (by omega)

/-- A key that is read at all introduces the field that was written. -/
theorem readFields_key {fuel field wireType : Nat} (hwire : wireType < 8) {bytes : Bytes}
    {fields : List (Nat × Value)} (hread : readFields fuel (key field wireType ++ bytes) = some fields) :
    ∃ fuel' value rest fields', readValue wireType bytes = some (value, rest) ∧
      readFields fuel' rest = some fields' ∧ fields = (field, value) :: fields' := by
  obtain ⟨byte, tail, hbytes⟩ : ∃ byte tail, key field wireType ++ bytes = byte :: tail := by
    cases hkey : key field wireType with
    | nil => exact absurd hkey (leb128_ne_nil _)
    | cons byte tail => exact ⟨byte, tail ++ bytes, rfl⟩
  cases fuel with
  | zero =>
    rw [hbytes] at hread
    contradiction
  | succ fuel =>
    rw [hbytes, readFields, ← hbytes] at hread
    · obtain ⟨result, hresult, hread⟩ := Option.bind_eq_some_iff.mp hread
      rw [readVarint_leb128 hresult] at hread
      obtain ⟨⟨value, rest⟩, hvalue, hread⟩ := Option.bind_eq_some_iff.mp hread
      obtain ⟨fields', hfields, rfl⟩ := Option.map_eq_some_iff.mp hread
      have hmod : (field * 8 + wireType) % 8 = wireType := by omega
      have hdiv : (field * 8 + wireType) / 8 = field := by omega
      exact ⟨fuel, value, rest, fields', by rwa [hmod] at hvalue, hfields, by rw [hdiv]⟩
    · simp

theorem readFields_uint {fuel field value : Nat} {bytes : Bytes} {fields : List (Nat × Value)}
    (hread : readFields fuel (uint field value ++ bytes) = some fields) :
    ∃ fuel' fields', readFields fuel' bytes = some fields' ∧
      fields = written field (value = 0) (.varint value) ++ fields' := by
  unfold uint at hread
  unfold written
  split at hread
  next => exact ⟨fuel, fields, hread, by simp [*]⟩
  next hvalue =>
    rw [List.append_assoc] at hread
    obtain ⟨fuel', found, rest, fields', hfound, hrest, rfl⟩ := readFields_key (by decide) hread
    obtain ⟨result, hresult, heq⟩ := Option.map_eq_some_iff.mp hfound
    rw [readVarint_leb128 hresult] at heq
    cases heq
    exact ⟨fuel', fields', hrest, by simp [hvalue]⟩

theorem readFields_bytes {fuel field : Nat} {value bytes : Bytes} {fields : List (Nat × Value)}
    (hread : readFields fuel (proto.bytes field value ++ bytes) = some fields) :
    ∃ fuel' fields', readFields fuel' bytes = some fields' ∧
      fields = written field (value = []) (.delimited value) ++ fields' := by
  unfold proto.bytes delimited at hread
  unfold written
  split at hread
  next => exact ⟨fuel, fields, hread, by simp [*]⟩
  next hvalue =>
    rw [List.append_assoc, List.append_assoc] at hread
    obtain ⟨fuel', found, rest, fields', hfound, hrest, rfl⟩ := readFields_key (by decide) hread
    obtain ⟨result, hresult, hfound⟩ := Option.bind_eq_some_iff.mp hfound
    rw [readVarint_leb128 hresult] at hfound
    obtain ⟨result, hresult, heq⟩ := Option.map_eq_some_iff.mp hfound
    cases heq
    obtain rfl : (value, bytes) = result := by simpa [readBytes] using hresult
    exact ⟨fuel', fields', hrest, by simp [hvalue]⟩

@[simp] theorem filter_written (field field' : Nat) (omitted : Prop) [Decidable omitted] (value : Value) :
    (written field omitted value).filter (fun entry => entry.1 = field') =
      if field = field' then written field omitted value else [] := by
  by_cases homitted : omitted
  · simp [written, homitted]
  · by_cases hfield : field = field' <;> simp [written, homitted, hfield]

/-- A field that was written at most once is read as its default or as what was written. -/
theorem getLast_written {α : Type} {read : Value → Option α} {default : α} {field : Nat}
    {omitted : Prop} [Decidable omitted] {value : Value} {fields : List (Nat × Value)}
    (hfields : fields.filter (fun entry => entry.1 = field) = written field omitted value) :
    getLast read default field fields = if omitted then some default else read value := by
  rw [getLast, occurrences, hfields]
  by_cases homitted : omitted
  · simp [written, homitted]
  · cases hread : read value <;> simp [written, homitted, hread]

end wire.proto
