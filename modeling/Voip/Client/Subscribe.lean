import Voip.Client.MoqVarint
import Voip.Text.Separators

namespace voip_client.moq

open wire text

/-- The part of a track namespace that a subscription is made of. -/
structure TrackNamespace where
  full_namespace : String
  priority : UInt8
  deriving DecidableEq

inductive StartPoint where
  | Latest
  | Earliest
  | Absolute (group object : Nat)
  deriving DecidableEq

/-- The namespace up to its second slash and the name of the track behind it. -/
def parse_namespace (full : String) : String × String :=
  match splitn '/' 3 full.toList with
  | first :: second :: third :: _ => (String.ofList first ++ "/" ++ String.ofList second, String.ofList third)
  | _ => (full, "")

def StartPoint.encode : StartPoint → Bytes
  | .Latest => encode_varint 0x01
  | .Earliest => encode_varint 0x02
  | .Absolute group object => encode_varint 0x03 ++ encode_varint group ++ encode_varint object

/-- What `subscribe` writes to the control stream under the id that it has assigned. -/
def subscribe_message (subscribe_id : Nat) (track : TrackNamespace) (start : StartPoint) : Bytes :=
  let (ns, track_name) := parse_namespace track.full_namespace
  encode_varint msg_type.SUBSCRIBE ++ (encode_varint subscribe_id ++
    (encode_varint (utf8 ns).length ++ (utf8 ns ++
      (encode_varint (utf8 track_name).length ++ (utf8 track_name ++
        (encode_varint track.priority.toNat ++ start.encode))))))

/-- A call of `subscribe`, with the id that it gets. -/
structure Subscription where
  subscribe_id : Nat
  track : TrackNamespace
  start : StartPoint
  deriving DecidableEq

def Subscription.message (subscription : Subscription) : Bytes :=
  subscribe_message subscription.subscribe_id subscription.track subscription.start

/-- The positions are numbers that a varint can carry. -/
def StartPoint.InRange : StartPoint → Prop
  | .Absolute group object => group < 2 ^ 62 ∧ object < 2 ^ 62
  | _ => True

instance : (start : StartPoint) → Decidable start.InRange
  | .Latest => isTrue trivial
  | .Earliest => isTrue trivial
  | .Absolute group object => inferInstanceAs (Decidable (group < 2 ^ 62 ∧ object < 2 ^ 62))

/-- The numbers of a subscription, and the length of its text, are numbers that a varint can carry. -/
structure Subscription.InRange (subscription : Subscription) : Prop where
  subscribe_id : subscription.subscribe_id < 2 ^ 62
  text : (utf8 subscription.track.full_namespace).length < 2 ^ 62
  start : subscription.start.InRange

/-- A namespace with one slash, and the same with a slash behind it. -/
def Trails (full longer : String) : Prop := full.toList.count '/' = 1 ∧ longer = full ++ "/"

theorem Trails.ne {full longer : String} (htrails : Trails full longer) : full ≠ longer := by
  obtain ⟨-, rfl⟩ := htrails
  intro heq
  have hlength := congrArg (fun text => text.toList.length) heq
  simp at hlength

/-- Two subscriptions that differ in a slash at the end of the namespace only. -/
structure Confused (first second : Subscription) : Prop where
  subscribe_id : first.subscribe_id = second.subscribe_id
  priority : first.track.priority = second.track.priority
  start : first.start = second.start
  trails : Trails first.track.full_namespace second.track.full_namespace ∨
    Trails second.track.full_namespace first.track.full_namespace

section namespaces

theorem parse_namespace_of_count_le {full : String} (hcount : full.toList.count '/' ≤ 1) :
    parse_namespace full = (full, "") := by
  unfold parse_namespace
  by_cases hfirst : '/' ∈ full.toList
  · obtain ⟨before, after, hfull, hbefore⟩ := List.eq_append_cons_of_mem hfirst
    have hafter : '/' ∉ after := by
      rw [hfull, List.count_append, List.count_cons_self] at hcount
      exact List.count_eq_zero.mp (by omega)
    rw [hfull, splitn, splitFirst_append hbefore]
    dsimp only
    rw [splitn, splitFirst_of_not_mem hafter]
  · rw [splitn, splitFirst_of_not_mem hfirst]

/-- A namespace with one slash is all that comes before the second slash. -/
theorem parse_namespace_append {ns : String} (hcount : ns.toList.count '/' = 1) (track_name : String) :
    parse_namespace (ns ++ "/" ++ track_name) = (ns, track_name) := by
  have hslash : '/' ∈ ns.toList := List.count_pos_iff.mp (by omega)
  obtain ⟨before, after, hns, hbefore⟩ := List.eq_append_cons_of_mem hslash
  have hafter : '/' ∉ after := by
    rw [hns, List.count_append, List.count_cons_self] at hcount
    exact List.count_eq_zero.mp (by omega)
  have hfull : (ns ++ "/" ++ track_name).toList = before ++ '/' :: (after ++ '/' :: track_name.toList) := by
    rw [String.toList_append, String.toList_append, hns]
    simp
  have hparts : splitn '/' 3 (ns ++ "/" ++ track_name).toList = [before, after, track_name.toList] := by
    rw [hfull, splitn, splitFirst_append hbefore]
    dsimp only
    rw [splitn, splitFirst_append hafter]
    rfl
  have hjoined : String.ofList before ++ "/" ++ String.ofList after = ns := by
    rw [← String.toList_inj, hns]
    simp
  rw [parse_namespace, hparts]
  dsimp only
  rw [hjoined, String.ofList_toList]

/-- A namespace has less than two slashes, or a prefix with one slash before the second. -/
theorem namespace_cases (full : String) :
    full.toList.count '/' ≤ 1 ∨
      ∃ ns track_name : String, ns.toList.count '/' = 1 ∧ full = ns ++ "/" ++ track_name := by
  by_cases hcount : full.toList.count '/' ≤ 1
  · exact .inl hcount
  · right
    have hslash : '/' ∈ full.toList := List.count_pos_iff.mp (by omega)
    obtain ⟨before, rest, hfull, hbefore⟩ := List.eq_append_cons_of_mem hslash
    rw [hfull, List.count_append, List.count_cons_self, List.count_eq_zero.mpr hbefore] at hcount
    have hsecond : '/' ∈ rest := List.count_pos_iff.mp (by omega)
    obtain ⟨after, track_name, rfl, hafter⟩ := List.eq_append_cons_of_mem hsecond
    refine ⟨String.ofList (before ++ '/' :: after), String.ofList track_name, ?_, ?_⟩
    · rw [String.toList_ofList, List.count_append, List.count_cons_self, List.count_eq_zero.mpr hbefore,
        List.count_eq_zero.mpr hafter]
    · rw [← String.toList_inj, hfull]
      simp

/-- The two parts say what the namespace was, except for a slash at its end. -/
theorem parse_namespace_inj {full full' : String} :
    parse_namespace full = parse_namespace full' ↔ full = full' ∨ Trails full full' ∨ Trails full' full := by
  have htrails {full longer : String} (htrails : Trails full longer) :
      parse_namespace full = parse_namespace longer := by
    obtain ⟨hcount, rfl⟩ := htrails
    have hlonger := parse_namespace_append hcount ""
    rw [String.append_empty] at hlonger
    rw [hlonger, parse_namespace_of_count_le hcount.le]
  constructor
  · intro heq
    obtain hfew | ⟨ns, track_name, hns, rfl⟩ := namespace_cases full
    · obtain hfew' | ⟨ns', track_name', hns', rfl⟩ := namespace_cases full'
      · rw [parse_namespace_of_count_le hfew, parse_namespace_of_count_le hfew'] at heq
        exact .inl (congrArg Prod.fst heq)
      · rw [parse_namespace_of_count_le hfew, parse_namespace_append hns', Prod.mk.injEq] at heq
        obtain ⟨rfl, rfl⟩ := heq
        exact .inr (.inl ⟨hns', String.append_empty⟩)
    · obtain hfew' | ⟨ns', track_name', hns', rfl⟩ := namespace_cases full'
      · rw [parse_namespace_of_count_le hfew', parse_namespace_append hns, Prod.mk.injEq] at heq
        obtain ⟨rfl, rfl⟩ := heq
        exact .inr (.inr ⟨hns, String.append_empty⟩)
      · rw [parse_namespace_append hns, parse_namespace_append hns', Prod.mk.injEq] at heq
        obtain ⟨rfl, rfl⟩ := heq
        exact .inl rfl
  · rintro (rfl | hshort | hlong)
    · rfl
    · exact htrails hshort
    · exact (htrails hlong).symm

/-- Neither part is longer than the namespace. -/
theorem length_parse_namespace_le (full : String) :
    (utf8 (parse_namespace full).1).length ≤ (utf8 full).length ∧
      (utf8 (parse_namespace full).2).length ≤ (utf8 full).length := by
  obtain hfew | ⟨ns, track_name, hns, rfl⟩ := namespace_cases full
  · rw [parse_namespace_of_count_le hfew]
    exact ⟨Nat.le_refl _, Nat.zero_le _⟩
  · rw [parse_namespace_append hns]
    simp only [utf8_append, List.length_append]
    omega

end namespaces

section messages

variable {value value' : Nat} {rest rest' : Bytes}

theorem encode_varint_append_inj (hvalue : value < 2 ^ 62) (hvalue' : value' < 2 ^ 62) :
    encode_varint value ++ rest = encode_varint value' ++ rest' ↔ value = value' ∧ rest = rest' := by
  constructor
  · intro heq
    obtain rfl := isQuicVarint_unique (isQuicVarint_encode_varint hvalue) (isQuicVarint_encode_varint hvalue') heq
    exact ⟨rfl, List.append_cancel_left heq⟩
  · rintro ⟨rfl, rfl⟩
    rfl

/-- Text behind its length can be told from what follows it. -/
theorem encode_text_append_inj {ns ns' : String} (hns : (utf8 ns).length < 2 ^ 62)
    (hns' : (utf8 ns').length < 2 ^ 62) :
    encode_varint (utf8 ns).length ++ (utf8 ns ++ rest) = encode_varint (utf8 ns').length ++ (utf8 ns' ++ rest') ↔
      ns = ns' ∧ rest = rest' := by
  rw [encode_varint_append_inj hns hns']
  constructor
  · rintro ⟨hlength, heq⟩
    obtain ⟨htext, hrest⟩ := List.append_inj heq hlength
    exact ⟨utf8_inj.mp htext, hrest⟩
  · rintro ⟨rfl, rfl⟩
    exact ⟨rfl, rfl⟩

theorem StartPoint.encode_inj {start start' : StartPoint} (hstart : start.InRange) (hstart' : start'.InRange) :
    start.encode = start'.encode ↔ start = start' := by
  have hlatest : encode_varint 0x01 = [1] := rfl
  have hearliest : encode_varint 0x02 = [2] := rfl
  have habsolute : encode_varint 0x03 = [3] := rfl
  cases start with
  | Latest => cases start' <;> simp [encode, hlatest, hearliest, habsolute]
  | Earliest => cases start' <;> simp [encode, hlatest, hearliest, habsolute]
  | Absolute group object =>
    cases start' with
    | Latest => simp [encode, hlatest, habsolute]
    | Earliest => simp [encode, hearliest, habsolute]
    | Absolute group' object' =>
      rw [encode, encode, List.append_assoc, List.append_assoc, List.append_cancel_left_eq,
        ← List.append_nil (encode_varint object), ← List.append_nil (encode_varint object'),
        encode_varint_append_inj hstart.1 hstart'.1, encode_varint_append_inj hstart.2 hstart'.2]
      simp

/-- Two messages are equal when the numbers, the parts of the namespace and the start points are. -/
theorem message_inj {first second : Subscription} (hfirst : first.InRange) (hsecond : second.InRange) :
    first.message = second.message ↔ first.subscribe_id = second.subscribe_id ∧
      parse_namespace first.track.full_namespace = parse_namespace second.track.full_namespace ∧
      first.track.priority = second.track.priority ∧ first.start = second.start := by
  have hlength := length_parse_namespace_le first.track.full_namespace
  have hlength' := length_parse_namespace_le second.track.full_namespace
  have htext := hfirst.text
  have htext' := hsecond.text
  have hpriority := first.track.priority.toNat_lt
  have hpriority' := second.track.priority.toNat_lt
  unfold Subscription.message subscribe_message
  dsimp only
  rw [encode_varint_append_inj (by decide) (by decide),
    encode_varint_append_inj hfirst.subscribe_id hsecond.subscribe_id,
    encode_text_append_inj (by omega) (by omega), encode_text_append_inj (by omega) (by omega),
    encode_varint_append_inj (by omega) (by omega), StartPoint.encode_inj hfirst.start hsecond.start,
    UInt8.toNat_inj, Prod.ext_iff]
  simp [and_assoc]

end messages

/-- The bytes of a subscription say all about it, unless two differ in a slash at the end of a
namespace with one other slash. -/
theorem subscribe_unambiguous_iff (first second : Subscription) (hfirst : first.InRange)
    (hsecond : second.InRange) :
    (first.message = second.message → first.subscribe_id = second.subscribe_id ∧
        first.track.full_namespace = second.track.full_namespace ∧
        first.track.priority = second.track.priority ∧ first.start = second.start) ↔
      ¬Confused first second := by
  rw [message_inj hfirst hsecond, parse_namespace_inj]
  constructor
  · rintro hsame ⟨hid, hpriority, hstart, htrails⟩
    obtain ⟨-, hnamespace, -, -⟩ := hsame ⟨hid, .inr htrails, hpriority, hstart⟩
    rw [hnamespace, or_self] at htrails
    exact htrails.ne rfl
  · rintro hclear ⟨hid, hnamespace | htrails, hpriority, hstart⟩
    · exact ⟨hid, hnamespace, hpriority, hstart⟩
    · exact absurd ⟨hid, hpriority, hstart, htrails⟩ hclear

def alice_audio : Subscription := ⟨0, ⟨"voip/alice/audio/opus-48k", 0⟩, .Latest⟩

def alice_video : Subscription := ⟨0, ⟨"voip/alice/video/av1", 1⟩, .Absolute 7 0⟩

/-- The audio of alice from the newest object on, and the video from a position on. -/
theorem subscribe_audio_or_video :
    alice_audio.InRange ∧ alice_video.InRange ∧ alice_audio.message ≠ alice_video.message := by
  have haudio : alice_audio.InRange := ⟨by decide, by decide +kernel, by decide⟩
  have hvideo : alice_video.InRange := ⟨by decide, by decide +kernel, by decide⟩
  have hclear : ¬ Confused alice_audio alice_video := fun hconfused =>
    absurd hconfused.priority (by decide)
  refine ⟨haudio, hvideo, fun hsame => ?_⟩
  obtain ⟨-, -, hpriority, -⟩ := (subscribe_unambiguous_iff alice_audio alice_video haudio hvideo).mpr hclear hsame
  exact absurd hpriority (by decide)

/-- A slash at the end of the namespace is lost. -/
theorem subscribe_ambiguous_slash :
    Subscription.message ⟨0, ⟨"voip/alice", 0⟩, .Latest⟩ = Subscription.message ⟨0, ⟨"voip/alice/", 0⟩, .Latest⟩ ∧
      "voip/alice" ≠ "voip/alice/" := by
  decide +kernel

end voip_client.moq
