import Voip.Client.MoqSetup

namespace voip_client.moq

open wire result

/-- The first read of a stream that arrives in the given chunks. -/
def first_read : List Bytes → Read
  | [] => .finished
  | chunk :: _ => .bytes chunk

/-- What the first read leaves on the stream. -/
def unread : List Bytes → Bytes
  | [] => []
  | chunk :: chunks => chunk.drop 1024 ++ chunks.flatten

theorem received_append_unread (chunks : List Bytes) :
    (first_read chunks).received ++ unread chunks = chunks.flatten := by
  cases chunks with
  | nil => rfl
  | cons chunk chunks =>
    rw [first_read, Read.received, unread, ← List.append_assoc, List.take_append_drop, List.flatten_cons]

/-- Bytes that end in front of the k-th field or inside it. -/
def Cut (fields : List Bytes) (k : Nat) (cut : Bytes) : Prop :=
  ∃ field, fields[k]? = some field ∧ cut <+: field ∧ cut ≠ field

/-- A SERVER_SETUP or CLIENT_SETUP message. Behind its type come the numbers (the version and the role,
or the count of the versions, the versions and the role) and the optional path. -/
structure SetupMessage where
  message_type : Nat
  numbers : List Nat
  path : Option String
  well_formed :
    (message_type = msg_type.SERVER_SETUP ∧ ∃ (version : Nat) (role : UInt8), numbers = [version, role.toNat]) ∨
      message_type = msg_type.CLIENT_SETUP ∧ ∃ (versions : List Nat) (role : UInt8),
        numbers = versions.length :: (versions ++ [role.toNat])
  head : Bytes
  encodings : List Bytes
  tail : Bytes
  head_spells : IsQuicVarint message_type head
  encodings_spell : List.Forall₂ IsQuicVarint numbers encodings
  tail_spells : PathSpelled path tail

namespace SetupMessage

def fields (message : SetupMessage) : List Bytes := message.encodings ++ [message.tail]

def bytes (message : SetupMessage) : Bytes := message.head ++ message.fields.flatten

/-- The bytes end inside the message and lack nothing but zeros: the number that is cut, or in front
of which they end, and all numbers behind it are zero, and there is no path if the bytes end
between two fields, and an empty one if they end inside a field. -/
def LacksZeros (message : SetupMessage) (received : Bytes) : Prop :=
  ∃ k cut, Cut message.fields k cut ∧ received = message.head ++ ((message.fields.take k).flatten ++ cut) ∧
    (∀ number ∈ message.numbers.drop k, number = 0) ∧ message.path = if cut = [] then none else some ""

end SetupMessage

/-- The start of two pieces ends inside the first or behind it. -/
theorem isPrefix_append_cases {got first rest : Bytes} (hgot : got <+: first ++ rest) :
    (got <+: first ∧ got ≠ first) ∨ ∃ more, got = first ++ more ∧ more <+: rest := by
  rcases List.prefix_or_prefix_of_prefix hgot (List.prefix_append _ _) with hshort | ⟨more, rfl⟩
  · by_cases hwhole : got = first
    · exact .inr ⟨[], by rw [hwhole, List.append_nil], List.nil_prefix⟩
    · exact .inl ⟨hshort, hwhole⟩
  · exact .inr ⟨more, rfl, (List.prefix_append_right_inj _).mp hgot⟩

/-- The start of a sequence of fields is all of it, or ends in front of or inside one of them. -/
theorem isPrefix_flatten_cases {got : Bytes} {fields : List Bytes} (hgot : got <+: fields.flatten) :
    got = fields.flatten ∨ ∃ k cut, Cut fields k cut ∧ got = (fields.take k).flatten ++ cut := by
  induction fields generalizing got with
  | nil => exact .inl (List.prefix_nil.mp hgot)
  | cons field fields ih =>
    rw [List.flatten_cons] at hgot ⊢
    rcases isPrefix_append_cases hgot with hcut | ⟨more, rfl, hmore⟩
    · exact .inr ⟨0, got, ⟨field, rfl, hcut⟩, rfl⟩
    · rcases ih hmore with rfl | ⟨k, cut, hcut, rfl⟩
      · exact .inl rfl
      · exact .inr ⟨k + 1, cut, hcut, by rw [List.take_succ_cons, List.flatten_cons, List.append_assoc]⟩

/-- A varint that is cut off is read as nothing. -/
theorem decode_varint_of_isPrefix {value : Nat} {cut bytes : Bytes} (hvarint : IsQuicVarint value bytes)
    (hcut : cut <+: bytes) (hne : cut ≠ bytes) : decode_varint cut = (0, 0) := by
  obtain ⟨missing, rfl⟩ := hcut
  cases cut with
  | nil => rfl
  | cons first rest =>
    apply decode_varint_of_short
    have hsize : quicSize (first :: rest ++ missing ++ []) = (first :: rest ++ missing).length :=
      hvarint.quicSize_append []
    have hpos : 0 < missing.length :=
      List.length_pos_iff.mpr fun hnil => hne (by rw [hnil, List.append_nil])
    rw [List.cons_append, List.cons_append, quicSize] at hsize
    rw [hsize]
    simp only [List.length_cons, List.length_append]
    omega

theorem parse_versions_of_stuck {cut : Bytes} (hread : decode_varint cut = (0, 0)) (count : Nat) :
    parse_versions count cut = (List.replicate count 0, cut) := by
  induction count with
  | zero => rfl
  | succ count ih => simp only [parse_versions, hread, List.drop_zero, ih, List.replicate_succ]

/-- Behind a number that is cut off only zeros are read, and the cut number stays. -/
theorem parse_versions_of_cut {numbers : List Nat} {encodings : List Bytes}
    (hnumbers : List.Forall₂ IsQuicVarint numbers encodings) {k : Nat} {cut : Bytes} (hcut : Cut encodings k cut) :
    decode_varint cut = (0, 0) ∧ parse_versions numbers.length ((encodings.take k).flatten ++ cut) =
      (numbers.take k ++ List.replicate (numbers.length - k) 0, cut) := by
  induction hnumbers generalizing k with
  | nil => simp [Cut] at hcut
  | @cons number encoding numbers encodings hnumber _ ih =>
    cases k with
    | zero =>
      obtain ⟨_, ⟨⟩, hcut, hne⟩ := hcut
      have hstuck := decode_varint_of_isPrefix hnumber hcut hne
      exact ⟨hstuck, parse_versions_of_stuck hstuck _⟩
    | succ k =>
      obtain ⟨hstuck, hread⟩ := ih hcut
      refine ⟨hstuck, ?_⟩
      rw [List.take_succ_cons, List.flatten_cons, List.append_assoc, List.length_cons, parse_versions,
        decode_varint_append hnumber]
      simp only [List.drop_left, hread, List.take_succ_cons, List.cons_append, Nat.add_sub_add_right]

theorem read_path_of_stuck (replace : Bytes → String) {cut : Bytes} (hread : decode_varint cut = (0, 0)) :
    read_path replace cut = if cut = [] then none else some "" := by
  have hempty : from_utf8_lossy replace [] = "" := from_utf8_lossy_utf8 replace ""
  simp [read_path, hread, hempty]

/-- A path that is cut off is read as none, as long as its length is whole. -/
theorem read_path_of_cut (replace : Bytes → String) {path : Option String} {tail cut : Bytes}
    (hpath : PathSpelled path tail) (hcut : cut <+: tail) (hne : cut ≠ tail) :
    read_path replace cut = path ↔ path = if cut = [] then none else some "" := by
  cases path with
  | none =>
    subst hpath
    exact absurd (List.prefix_nil.mp hcut) hne
  | some path =>
    obtain ⟨length, hlength, rfl⟩ := hpath
    rcases isPrefix_append_cases hcut with ⟨hshort, hinside⟩ | ⟨text, rfl, ⟨missing, htext⟩⟩
    · rw [read_path_of_stuck replace (decode_varint_of_isPrefix hlength hshort hinside)]
      exact eq_comm
    · -- the length is whole and the text is not
      have hmissing : missing ≠ [] := fun hnil => hne (by rw [← htext, hnil, List.append_nil])
      have hshort : ¬ (utf8 path).length ≤ text.length := by
        have hpos := List.length_pos_iff.mpr hmissing
        rw [← htext, List.length_append]
        omega
      have hsome : path ≠ "" := fun hempty => hshort (by rw [hempty]; exact Nat.zero_le _)
      simp [read_path, decode_varint_append hlength, hlength.ne_nil, hshort, hsome]

theorem parse_versions_add (first second : Nat) (cursor : Bytes) :
    parse_versions (first + second) cursor =
      ((parse_versions first cursor).1 ++ (parse_versions second (parse_versions first cursor).2).1,
        (parse_versions second (parse_versions first cursor).2).2) := by
  induction first generalizing cursor with
  | zero => simp [parse_versions]
  | succ first ih =>
    rw [Nat.add_right_comm]
    simp only [parse_versions, ih, List.cons_append]

/-- The setup messages are read number by number. -/
theorem ServerSetup.decode_of_parse (replace : Bytes → String) {version role : Nat} {head cursor rest : Bytes}
    (hhead : IsQuicVarint msg_type.SERVER_SETUP head)
    (hread : parse_versions 2 cursor = ([version, role], rest)) :
    ServerSetup.decode replace (head ++ cursor) = .ok ⟨version, UInt8.ofNat role, read_path replace rest⟩ := by
  simp only [parse_versions, Prod.mk.injEq, List.cons.injEq, and_true] at hread
  obtain ⟨⟨hversion, hrole⟩, hrest⟩ := hread
  simp only [ServerSetup.decode, decode_varint_append hhead, List.drop_left, hversion, hrole, hrest]
  rfl

theorem parse_client_setup_of_parse (replace : Bytes → String) {versions : List Nat} {role : Nat}
    {head cursor rest : Bytes} (hhead : IsQuicVarint msg_type.CLIENT_SETUP head)
    (hcapacity : versions.length * 8 < 2 ^ 63)
    (hread : parse_versions (versions.length + 1 + 1) cursor = (versions.length :: (versions ++ [role]), rest)) :
    parse_client_setup replace (head ++ cursor) = .ok ⟨versions, UInt8.ofNat role, read_path replace rest⟩ := by
  rw [parse_versions, Prod.mk.injEq, List.cons.injEq] at hread
  obtain ⟨⟨hcount, hnumbers⟩, hrest⟩ := hread
  rw [parse_versions_add] at hnumbers hrest
  simp only [parse_versions] at hnumbers hrest
  obtain ⟨hversions, hrole⟩ := List.append_inj' hnumbers rfl
  simp only [parse_client_setup, decode_varint_append hhead, List.drop_left, hcount,
    if_neg (Nat.not_le.mpr hcapacity), hversions, List.singleton_inj.mp hrole, hrest]
  rfl

namespace SetupMessage

variable (message : SetupMessage)

theorem length_encodings : message.encodings.length = message.numbers.length :=
  message.encodings_spell.length_eq.symm

/-- What is read of a message that ends in front of or inside a field. -/
theorem parse_of_cut (replace : Bytes → String) {k : Nat} {cut : Bytes} (hcut : Cut message.fields k cut) :
    parse_versions message.numbers.length ((message.fields.take k).flatten ++ cut) =
        (message.numbers.take k ++ List.replicate (message.numbers.length - k) 0, cut) ∧
      (read_path replace cut = message.path ↔ message.path = if cut = [] then none else some "") := by
  obtain hlt | hge := Nat.lt_or_ge k message.encodings.length
  · rw [Cut, fields, List.getElem?_append_left hlt] at hcut
    obtain ⟨hstuck, hread⟩ := parse_versions_of_cut message.encodings_spell hcut
    rw [fields, List.take_append_of_le_length hlt.le, hread, read_path_of_stuck replace hstuck]
    exact ⟨rfl, eq_comm⟩
  · obtain ⟨field, hfield, hcut, hne⟩ := hcut
    obtain ⟨hk, -⟩ := List.getElem?_eq_some_iff.mp hfield
    rw [fields, List.length_append, List.length_singleton] at hk
    obtain rfl : k = message.encodings.length := by omega
    rw [fields, List.getElem?_append_right (Nat.le_refl _), Nat.sub_self] at hfield
    cases hfield
    rw [fields, List.take_left, parse_versions_of_spelled message.encodings_spell, message.length_encodings,
      List.take_length, Nat.sub_self, List.replicate_zero, List.append_nil]
    exact ⟨rfl, read_path_of_cut replace message.tail_spells hcut hne⟩

theorem parse_whole :
    parse_versions message.numbers.length message.fields.flatten = (message.numbers, message.tail) := by
  rw [fields, List.flatten_append, List.flatten_singleton, parse_versions_of_spelled message.encodings_spell]

end SetupMessage

theorem take_append_replicate_eq_iff {numbers : List Nat} {k : Nat} :
    numbers.take k ++ List.replicate (numbers.length - k) 0 = numbers ↔ ∀ number ∈ numbers.drop k, number = 0 := by
  have hsplit : numbers.take k ++ numbers.drop k = numbers := List.take_append_drop k numbers
  conv_lhs => rhs; rw [← hsplit]
  rw [List.append_cancel_left_eq, eq_comm, List.eq_replicate_iff, List.length_drop]
  exact and_iff_right rfl

theorem length_le_of_spelled {numbers : List Nat} {encodings : List Bytes}
    (hnumbers : List.Forall₂ IsQuicVarint numbers encodings) : numbers.length ≤ encodings.flatten.length := by
  induction hnumbers with
  | nil => exact Nat.zero_le _
  | cons hnumber _ ih =>
    have hpos := List.length_pos_iff.mpr hnumber.ne_nil
    rw [List.length_cons, List.flatten_cons, List.length_append]
    omega

/-- The role is read as it is or as zero. -/
theorem exists_read_of_cut (numbers : List Nat) (role : UInt8) (k : Nat) :
    ∃ read last, (numbers ++ [role.toNat]).take k ++ List.replicate ((numbers ++ [role.toNat]).length - k) 0 =
        read ++ [last] ∧ read.length = numbers.length ∧ (UInt8.ofNat last = role ↔ last = role.toNat) := by
  rw [List.length_append, List.length_singleton]
  obtain hlt | hge := Nat.lt_or_ge numbers.length k
  · refine ⟨numbers, role.toNat, ?_, rfl, by simp⟩
    rw [List.take_of_length_le (List.length_append.trans_le hlt), Nat.sub_eq_zero_of_le hlt, List.replicate_zero,
      List.append_nil]
  · refine ⟨numbers.take k ++ List.replicate (numbers.length - k) 0, 0, ?_, ?_, ?_⟩
    · rw [List.take_append_of_le_length hge, Nat.sub_add_comm hge, List.replicate_succ', List.append_assoc]
    · rw [List.length_append, List.length_take, List.length_replicate]
      omega
    · rw [← UInt8.toNat_inj]
      rfl

namespace SetupMessage

variable (replace : Bytes → String) (message : SetupMessage)

/-- A SERVER_SETUP message that is cut off has the contents of the whole exactly if it lacks zeros. -/
theorem decode_of_cut_eq_iff {version : Nat} {role : UInt8} {k : Nat} {cut : Bytes}
    (htype : message.message_type = msg_type.SERVER_SETUP) (hnumbers : message.numbers = [version, role.toNat])
    (hcut : Cut message.fields k cut) :
    ServerSetup.decode replace (message.head ++ ((message.fields.take k).flatten ++ cut)) =
        ServerSetup.decode replace message.bytes ↔
      (∀ number ∈ message.numbers.drop k, number = 0) ∧
        message.path = if cut = [] then none else some "" := by
  have hhead : IsQuicVarint msg_type.SERVER_SETUP message.head := htype ▸ message.head_spells
  obtain ⟨hparse, hpath⟩ := message.parse_of_cut replace hcut
  have hwhole := message.parse_whole
  obtain ⟨read, last, hread, hlength, hrole⟩ := exists_read_of_cut [version] role k
  obtain ⟨first, rfl⟩ := List.length_eq_one_iff.mp hlength
  rw [← hpath, ← take_append_replicate_eq_iff]
  rw [hnumbers] at hparse hwhole ⊢
  rw [List.singleton_append] at hread
  rw [hread] at hparse ⊢
  rw [bytes, ServerSetup.decode_of_parse replace hhead hparse, ServerSetup.decode_of_parse replace hhead hwhole,
    read_path_of_spelled message.tail_spells, UInt8.ofNat_toNat]
  simp [hrole, and_assoc]

/-- The same goes for a CLIENT_SETUP message. -/
theorem parse_of_cut_eq_iff {versions : List Nat} {role : UInt8} {k : Nat} {cut : Bytes}
    (htype : message.message_type = msg_type.CLIENT_SETUP)
    (hnumbers : message.numbers = versions.length :: (versions ++ [role.toNat]))
    (hcapacity : versions.length * 8 < 2 ^ 63) (hcut : Cut message.fields k cut) :
    parse_client_setup replace (message.head ++ ((message.fields.take k).flatten ++ cut)) =
        parse_client_setup replace message.bytes ↔
      (∀ number ∈ message.numbers.drop k, number = 0) ∧
        message.path = if cut = [] then none else some "" := by
  have hhead : IsQuicVarint msg_type.CLIENT_SETUP message.head := htype ▸ message.head_spells
  obtain ⟨hparse, hpath⟩ := message.parse_of_cut replace hcut
  have hwhole := message.parse_whole
  have hlength : message.numbers.length = versions.length + 1 + 1 := by simp [hnumbers]
  rw [hlength, hnumbers] at hwhole
  rw [bytes, parse_client_setup_of_parse replace hhead hcapacity hwhole, read_path_of_spelled message.tail_spells,
    UInt8.ofNat_toNat, ← hpath, hnumbers]
  cases k with
  | zero =>
    -- without the count no version is read
    have hstuck : decode_varint cut = (0, 0) := by
      rw [Cut, fields, List.getElem?_append_left (by rw [message.length_encodings, hlength]; omega)] at hcut
      exact (parse_versions_of_cut message.encodings_spell hcut).1
    have hnothing := @parse_client_setup_of_parse replace [] 0 _ _ _ hhead (by decide)
      (parse_versions_of_stuck hstuck 2)
    rw [List.take_zero, List.flatten_nil, List.nil_append, hnothing, List.drop_zero]
    cases versions with
    | nil => simp [← UInt8.toNat_inj, eq_comm]
    | cons version versions => simp
  | succ k =>
    obtain ⟨read, last, hread, hread_length, hrole⟩ := exists_read_of_cut versions role k
    have htaken : message.numbers.take (k + 1) ++ List.replicate (message.numbers.length - (k + 1)) 0 =
        read.length :: (read ++ [last]) := by
      rw [hnumbers, List.take_succ_cons, List.cons_append, List.length_cons, Nat.add_sub_add_right, hread,
        hread_length]
    rw [htaken, hlength, ← hread_length] at hparse
    rw [parse_client_setup_of_parse replace hhead (by rwa [hread_length]) hparse, List.drop_succ_cons,
      ← take_append_replicate_eq_iff, hread]
    simp [hrole, and_assoc]

theorem length_numbers_le : message.numbers.length ≤ message.bytes.length := by
  have hnumbers := length_le_of_spelled message.encodings_spell
  rw [bytes, fields, List.flatten_append, List.length_append, List.length_append]
  omega

variable {message} (hlength : message.bytes.length ≤ 1024)
include hlength

/-- Both decoders see the same in a message that is cut off exactly if it lacks zeros. -/
theorem contents_of_cut_eq_iff {k : Nat} {cut : Bytes} (hcut : Cut message.fields k cut) :
    (ServerSetup.decode replace (message.head ++ ((message.fields.take k).flatten ++ cut)) =
          ServerSetup.decode replace message.bytes ∧
        parse_client_setup replace (message.head ++ ((message.fields.take k).flatten ++ cut)) =
          parse_client_setup replace message.bytes) ↔
      (∀ number ∈ message.numbers.drop k, number = 0) ∧
        message.path = if cut = [] then none else some "" := by
  have hread : ∀ cursor, decode_varint (message.head ++ cursor) = (message.message_type, message.head.length) :=
    decode_varint_append message.head_spells
  rcases message.well_formed with ⟨htype, version, role, hnumbers⟩ | ⟨htype, versions, role, hnumbers⟩
  · rw [message.decode_of_cut_eq_iff replace htype hnumbers hcut, and_iff_left]
    simp only [parse_client_setup, bytes, hread, htype]
    rfl
  · have hcapacity : versions.length * 8 < 2 ^ 63 := by
      have hle := message.length_numbers_le
      simp only [hnumbers, List.length_cons, List.length_append] at hle
      omega
    rw [message.parse_of_cut_eq_iff replace htype hnumbers hcapacity hcut, and_iff_right]
    simp only [ServerSetup.decode, bytes, hread, htype]
    rfl

/-- Bytes from the start of a message have its contents exactly if they are the whole of it or lack
zeros. -/
theorem contents_eq_iff {received : Bytes} (hstart : received <+: message.bytes) :
    (ServerSetup.decode replace received = ServerSetup.decode replace message.bytes ∧
        parse_client_setup replace received = parse_client_setup replace message.bytes) ↔
      received = message.bytes ∨ message.LacksZeros received := by
  constructor
  · intro hsame
    rcases isPrefix_append_cases hstart with ⟨hshort, hinside⟩ | ⟨got, rfl, hgot⟩
    · -- a type that is cut off is no type
      have hread := decode_varint_of_isPrefix message.head_spells hshort hinside
      have hread' := decode_varint_append message.head_spells message.fields.flatten
      rcases message.well_formed with ⟨htype, -⟩ | ⟨htype, -⟩
      · have hdecode := hsame.2
        simp [parse_client_setup, bytes, hread, hread', htype, msg_type.CLIENT_SETUP, msg_type.SERVER_SETUP]
          at hdecode
      · have hdecode := hsame.1
        simp [ServerSetup.decode, bytes, hread, hread', htype, msg_type.CLIENT_SETUP, msg_type.SERVER_SETUP]
          at hdecode
    · rcases isPrefix_flatten_cases hgot with rfl | ⟨k, cut, hcut, rfl⟩
      · exact .inl rfl
      · obtain ⟨hzeros, hpath⟩ := (contents_of_cut_eq_iff replace hlength hcut).mp hsame
        exact .inr ⟨k, cut, hcut, rfl, hzeros, hpath⟩
  · rintro (rfl | ⟨k, cut, hcut, rfl, hzeros⟩)
    · exact ⟨rfl, rfl⟩
    · exact (contents_of_cut_eq_iff replace hlength hcut).mpr hzeros

omit hlength

/-- Bytes that lack zeros are a start of the message, and have its type. -/
theorem LacksZeros.exists_rest {received : Bytes} (hlacks : message.LacksZeros received) :
    ∃ got, received = message.head ++ got ∧ got <+: message.fields.flatten := by
  obtain ⟨k, cut, ⟨field, hfield, hcut, -⟩, rfl, -⟩ := hlacks
  refine ⟨_, rfl, ?_⟩
  obtain ⟨hk, rfl⟩ := List.getElem?_eq_some_iff.mp hfield
  have hsplit : message.fields.flatten =
      (message.fields.take k).flatten ++ (message.fields[k] ++ (message.fields.drop (k + 1)).flatten) := by
    rw [← List.flatten_cons, ← List.drop_eq_getElem_cons hk, ← List.flatten_append, List.take_append_drop]
  rw [hsplit, List.prefix_append_right_inj]
  exact hcut.trans (List.prefix_append _ _)

end SetupMessage

namespace MoqSession

/-- The handshake on a stream that starts with a setup message goes as if that message had
arrived alone in one read: both calls end alike and read the same contents, and what follows the
message is left on the stream. -/
structure Unchunked (replace : Bytes → String) (message further : Bytes) (chunks : List Bytes) : Prop where
  setup : ∀ (stream write : Except String Unit) (before : MoqSession),
    before.setup replace ⟨stream, write, first_read chunks⟩ =
      before.setup replace ⟨stream, write, .bytes message⟩
  accept : ∀ (stream write : Except String Unit) (before : MoqSession),
    before.accept replace ⟨stream, write, first_read chunks⟩ =
      before.accept replace ⟨stream, write, .bytes message⟩
  server_setup : ServerSetup.decode replace (first_read chunks).received =
    ServerSetup.decode replace message
  client_setup : parse_client_setup replace (first_read chunks).received =
    parse_client_setup replace message
  later : further <:+ unread chunks

/-- The calls see of a read only the type and the contents of the bytes that it delivers. -/
theorem unchunked_of_same_contents {replace : Bytes → String} {message further : Bytes} {chunks : List Bytes}
    (hlength : message.length ≤ 1024) (hne : (first_read chunks).received ≠ []) (hmessage : message ≠ [])
    (htype : (decode_varint (first_read chunks).received).1 = (decode_varint message).1)
    (hserver : ServerSetup.decode replace (first_read chunks).received = ServerSetup.decode replace message)
    (hclient : parse_client_setup replace (first_read chunks).received = parse_client_setup replace message)
    (hlater : further <:+ unread chunks) : Unchunked replace message further chunks := by
  have hwhole : (Read.bytes message).received = message := List.take_of_length_le hlength
  have hread {α : Type} (name : String) {check : Bytes → Except Failure α}
      (hsame : check (first_read chunks).received = check message) :
      read_control name (first_read chunks) >>= check = read_control name (.bytes message) >>= check := by
    rw [read_control_of_received hne, read_control_of_received (hwhole.symm ▸ hmessage), hwhole]
    exact hsame
  have hsetup := hread "SERVER_SETUP" (show check_server_setup replace _ = check_server_setup replace _ by
    simp only [check_server_setup, htype, hserver])
  have haccept := hread "CLIENT_SETUP" (show check_client_setup replace _ = check_client_setup replace _ by
    simp only [check_client_setup, hclient])
  refine ⟨fun stream write before => ?_, fun stream write before => ?_, hserver, hclient, hlater⟩
  · simp only [MoqSession.setup, hsetup]
  · simp only [MoqSession.accept, haccept]

/-- The handshake does not depend on how a stream is cut exactly when the first read delivers
the setup message and nothing else, or ends inside it and lacks nothing but zeros. -/
theorem unchunked_iff (replace : Bytes → String) (message : SetupMessage) (further : Bytes) (chunks : List Bytes)
    (hlength : message.bytes.length ≤ 1024) (hstream : chunks.flatten = message.bytes ++ further) :
    Unchunked replace message.bytes further chunks ↔
      (first_read chunks).received = message.bytes ∨ message.LacksZeros (first_read chunks).received := by
  have hsplit := received_append_unread chunks
  rw [hstream] at hsplit
  constructor
  · intro hunchunked
    have hstart : (first_read chunks).received <+: message.bytes := by
      obtain ⟨rest, hrest⟩ := hunchunked.later
      rw [← hrest, ← List.append_assoc] at hsplit
      exact ⟨rest, List.append_cancel_right hsplit⟩
    exact (SetupMessage.contents_eq_iff replace hlength hstart).mp ⟨hunchunked.server_setup, hunchunked.client_setup⟩
  · intro hreceived
    obtain ⟨got, hgot, ⟨missing, hmissing⟩⟩ : ∃ got, (first_read chunks).received = message.head ++ got ∧
        got <+: message.fields.flatten := by
      rcases hreceived with hwhole | hlacks
      · exact ⟨_, hwhole, List.prefix_rfl⟩
      · exact hlacks.exists_rest
    have hbytes : message.bytes = (first_read chunks).received ++ missing := by
      rw [SetupMessage.bytes, hgot, ← hmissing, List.append_assoc]
    have hlater : unread chunks = missing ++ further := by
      rw [hbytes, List.append_assoc] at hsplit
      exact List.append_cancel_left hsplit
    have hhead := message.head_spells.ne_nil
    have htype : (decode_varint (first_read chunks).received).1 = (decode_varint message.bytes).1 := by
      rw [hgot, SetupMessage.bytes, decode_varint_append message.head_spells,
        decode_varint_append message.head_spells]
    obtain ⟨hserver, hclient⟩ := (SetupMessage.contents_eq_iff replace hlength ⟨missing, hbytes.symm⟩).mpr hreceived
    exact unchunked_of_same_contents hlength (hgot ▸ List.append_ne_nil_of_left_ne_nil hhead _)
      (List.append_ne_nil_of_left_ne_nil hhead _) htype hserver hclient ⟨missing, hlater.symm⟩

/-- A SERVER_SETUP message that selects draft 17 and the role 0. -/
def role_zero_setup : SetupMessage where
  message_type := msg_type.SERVER_SETUP
  numbers := [ClientSetup.DRAFT_17, 0]
  path := none
  well_formed := .inl ⟨rfl, ClientSetup.DRAFT_17, 0, rfl⟩
  head := encode_varint msg_type.SERVER_SETUP
  encodings := [encode_varint ClientSetup.DRAFT_17, encode_varint 0]
  tail := []
  head_spells := isQuicVarint_encode_varint (by decide)
  encodings_spell := .cons (isQuicVarint_encode_varint (by decide))
    (.cons (isQuicVarint_encode_varint (by decide)) .nil)
  tail_spells := rfl

/-- The message in a read that ends before its role, and the role with a GOAWAY in the next. -/
theorem unchunked_of_missing_role :
    Unchunked (fun _ => "") role_zero_setup.bytes [0x1A, 0x00]
      [[0x02, 0xC0, 0x00, 0x00, 0x00, 0xFF, 0x00, 0x00, 0x11], [0x00, 0x1A, 0x00]] := by
  refine (unchunked_iff _ role_zero_setup _ _ (by decide) (by decide)).mpr (.inr ?_)
  exact ⟨1, [], ⟨[0x00], by decide, List.nil_prefix, by decide⟩, by decide, by decide, rfl⟩

/-- The answer of `accept` fails the handshake when it arrives in two reads, and swallows the
GOAWAY that arrives with it in one. -/
theorem not_unchunked_of_server_setup :
    server_setup_bytes = [0x02, 0xC0, 0x00, 0x00, 0x00, 0xFF, 0x00, 0x00, 0x11, 0x03] ∧
      (new.setup (fun _ => "") ⟨.ok (), .ok (), .bytes server_setup_bytes⟩).1 = .ok () ∧
      (new.setup (fun _ => "") ⟨.ok (), .ok (), first_read [[0x02, 0xC0, 0x00, 0x00, 0x00],
        [0xFF, 0x00, 0x00, 0x11, 0x03]]⟩).1 = .error (.error .VersionNegotiationFailed) ∧
      ¬Unchunked (fun _ => "") server_setup_bytes [] [[0x02, 0xC0, 0x00, 0x00, 0x00],
        [0xFF, 0x00, 0x00, 0x11, 0x03]] ∧
      unread [server_setup_bytes ++ [0x1A, 0x00]] = [] ∧
      ¬Unchunked (fun _ => "") server_setup_bytes [0x1A, 0x00] [server_setup_bytes ++ [0x1A, 0x00]] := by
  refine ⟨by decide, by decide, by decide, ?_, by decide, ?_⟩
  · intro hunchunked
    have hsame := hunchunked.setup (.ok ()) (.ok ()) new
    exact absurd (congrArg Prod.fst hsame) (by decide)
  · intro hunchunked
    exact absurd hunchunked.later (by decide)

end MoqSession

end voip_client.moq
