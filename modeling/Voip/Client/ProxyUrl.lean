import Voip.Client.Connection
import Voip.Text.Separators

namespace voip_client.masque

open voip_client.connection

/-- What the parser of the standard library makes of a number of 16 bits. -/
def parse_u16 (digits : List Char) : Option UInt16 :=
  match digits with
  | '+' :: digits => (parse_number 65536 digits).map UInt16.ofNat
  | digits => (parse_number 65536 digits).map UInt16.ofNat

/-- A repeated prefix is cut off as often as it stands there. -/
def trim_start_matches (pattern : String) (url : List Char) : List Char :=
  text.trimStart pattern.toList url.length url

def parse_proxy_url (url : String) : Except String (String × UInt16) :=
  let url := trim_start_matches "http://" (trim_start_matches "https://" url.toList)
  let parts := url.splitOn '/'
  let host_port := parts.headD []
  match text.splitLast ':' host_port with
  | some (host, port) => .ok (String.ofList host, (parse_u16 port).getD 443)
  | none => .ok (String.ofList host_port, 443)

/-- A host as a URL writes it. IPv4 literals are among the names. -/
inductive Host where
  | Name (name : List Char) (hcolon : ':' ∉ name) (hslash : '/' ∉ name)
  | Bracketed (literal : List Char) (hcolon : ':' ∈ literal) (hslash : '/' ∉ literal)

def Host.text : Host → List Char
  | .Name name _ _ => name
  | .Bracketed literal _ _ => '[' :: literal ++ [']']

/-- An IPv6 literal stands in brackets. -/
def Host.is_bracketed : Host → Bool
  | .Name .. => false
  | .Bracketed .. => true

def decimal (digits : List Char) : Nat :=
  digits.foldl (fun value digit => value * 10 + (digit.toNat - '0'.toNat)) 0

structure Port where
  digits : List Char
  hdigits : digits ≠ [] ∧ ∀ digit ∈ digits, digit.isDigit
  hrange : 1 ≤ decimal digits ∧ decimal digits ≤ 65535

inductive Scheme where
  | Https
  | Http
  deriving DecidableEq

def Scheme.text : Scheme → String
  | .Https => "https://"
  | .Http => "http://"

/-- The parts of a proxy's URL; `path` is what follows the slash behind the authority. -/
structure ProxyUrl where
  scheme : Option Scheme
  host : Host
  port : Option Port
  path : Option (List Char)

def ProxyUrl.authority (url : ProxyUrl) : List Char :=
  url.host.text ++ url.port.elim [] (fun port => ':' :: port.digits)

def ProxyUrl.rest (url : ProxyUrl) : List Char :=
  url.authority ++ url.path.elim [] ('/' :: ·)

def ProxyUrl.text (url : ProxyUrl) : String :=
  String.ofList (url.scheme.elim [] (·.text.toList) ++ url.rest)

def ProxyUrl.port_number (url : ProxyUrl) : UInt16 :=
  url.port.elim 443 fun port => UInt16.ofNat (decimal port.digits)

theorem Port.not_mem_digits (port : Port) {c : Char} (hc : c.isDigit = false) :
    c ∉ port.digits := by
  intro hmem
  rw [port.hdigits.2 c hmem] at hc
  cases hc

theorem Port.parse_u16_digits (port : Port) :
    parse_u16 port.digits = some (UInt16.ofNat (decimal port.digits)) := by
  have hplus := port.not_mem_digits (c := '+') (by decide)
  have hnumber : parse_number 65536 port.digits = some (decimal port.digits) := by
    obtain ⟨hne, hall⟩ := port.hdigits
    have hchecked : (port.digits.isEmpty || !port.digits.all Char.isDigit) = false := by
      simpa [hne] using hall
    rw [parse_number, hchecked]
    exact if_pos (Nat.lt_succ_of_le port.hrange.2)
  unfold parse_u16
  split
  · next digits hdigits => exact absurd (hdigits ▸ List.mem_cons_self) hplus
  · rw [hnumber]
    rfl

theorem ProxyUrl.slash_not_mem_authority (url : ProxyUrl) : '/' ∉ url.authority := by
  have hhost : '/' ∉ url.host.text := by
    cases url.host with
    | Name name _ hslash => exact hslash
    | Bracketed literal _ hslash => simp [Host.text, hslash]
  have hport : '/' ∉ url.port.elim [] (fun port => ':' :: port.digits) := by
    cases url.port with
    | none => simp
    | some port => simp [port.not_mem_digits (c := '/') (by decide)]
  rw [ProxyUrl.authority, List.mem_append, not_or]
  exact ⟨hhost, hport⟩

/-- The first part between slashes is the authority. -/
theorem ProxyUrl.head_splitOn_rest (url : ProxyUrl) :
    (url.rest.splitOn '/').headD [] = url.authority := by
  have hslash := url.slash_not_mem_authority
  unfold ProxyUrl.rest
  cases url.path with
  | none =>
    rw [Option.elim_none, List.append_nil, List.splitOn_eq_singleton hslash]
    rfl
  | some path =>
    rw [Option.elim_some, List.splitOn_append_cons_self_of_not_mem hslash]
    rfl

/-- No authority is a scheme: behind a colon it has a port, and the colons of an IPv6 literal stand
behind a bracket. -/
theorem ProxyUrl.authority_ne_scheme (url : ProxyUrl) (name : List Char)
    (hname : '[' ∉ name) : url.authority ≠ name ++ [':'] := by
  intro heq
  unfold ProxyUrl.authority at heq
  cases hport : url.port with
  | some port =>
    have hlast : ':' ∈ port.digits := by
      rw [hport, Option.elim_some] at heq
      have hlast := congrArg List.getLast? heq
      obtain ⟨digit, digits, hdigits⟩ := List.exists_cons_of_ne_nil port.hdigits.1
      rw [hdigits] at hlast ⊢
      simp at hlast
      exact List.mem_of_getLast? hlast
    exact port.not_mem_digits (by decide) hlast
  | none =>
    rw [hport, Option.elim_none, List.append_nil] at heq
    cases hhost : url.host with
    | Name host hcolon _ =>
      rw [hhost, Host.text] at heq
      exact hcolon (heq ▸ by simp)
    | Bracketed literal _ _ =>
      have hmem : '[' ∈ name ++ [':'] := by
        rw [← heq, hhost]
        simp [Host.text]
      simp [hname] at hmem

/-- What follows the scheme does not start with one. -/
theorem ProxyUrl.scheme_not_at_rest (url : ProxyUrl) (scheme : Scheme) :
    ¬ scheme.text.toList <+: url.rest := by
  rintro ⟨tail, htail⟩
  have hauthority := url.head_splitOn_rest
  rw [← htail] at hauthority
  cases scheme with
  | Https =>
    have hsplit : Scheme.Https.text.toList ++ tail = "https:".toList ++ '/' :: ('/' :: tail) := rfl
    rw [hsplit, List.splitOn_append_cons_self_of_not_mem (by decide)] at hauthority
    exact url.authority_ne_scheme "https".toList (by decide) hauthority.symm
  | Http =>
    have hsplit : Scheme.Http.text.toList ++ tail = "http:".toList ++ '/' :: ('/' :: tail) := rfl
    rw [hsplit, List.splitOn_append_cons_self_of_not_mem (by decide)] at hauthority
    exact url.authority_ne_scheme "http".toList (by decide) hauthority.symm

theorem ProxyUrl.trim_rest (url : ProxyUrl) (scheme : Scheme) :
    trim_start_matches scheme.text url.rest = url.rest :=
  text.trimStart_eq_self (url.scheme_not_at_rest scheme) _

theorem ProxyUrl.trim_scheme (url : ProxyUrl) (scheme : Scheme) :
    trim_start_matches scheme.text (scheme.text.toList ++ url.rest) = url.rest := by
  have hpositive : 0 < (scheme.text.toList ++ url.rest).length := by
    cases scheme <;> exact Nat.zero_lt_succ _
  obtain ⟨fuel, hfuel⟩ := Nat.exists_eq_add_one.2 hpositive
  rw [trim_start_matches, hfuel]
  exact text.trimStart_append (url.scheme_not_at_rest scheme) fuel

/-- The two trimming steps take off the scheme and nothing else. -/
theorem ProxyUrl.trim_text (url : ProxyUrl) :
    trim_start_matches Scheme.Http.text (trim_start_matches Scheme.Https.text url.text.toList) =
      url.rest := by
  have htext : url.text.toList = url.scheme.elim [] (·.text.toList) ++ url.rest :=
    String.toList_ofList
  rw [htext]
  cases url.scheme with
  | none => rw [Option.elim_none, List.nil_append, url.trim_rest, url.trim_rest]
  | some scheme =>
    rw [Option.elim_some]
    cases scheme with
    | Https => rw [url.trim_scheme, url.trim_rest]
    | Http =>
      -- The longer scheme is tried first; the shorter one does not start with it.
      have hother : ¬ Scheme.Https.text.toList <+: Scheme.Http.text.toList ++ url.rest := by
        rintro ⟨tail, htail⟩
        have hfifth := congrArg (·[4]?) htail
        exact absurd hfifth (by simp [Scheme.text])
      have hkept : trim_start_matches Scheme.Https.text (Scheme.Http.text.toList ++ url.rest) =
          Scheme.Http.text.toList ++ url.rest := text.trimStart_eq_self hother _
      rw [hkept, url.trim_scheme]

/-- The authority is cut at its last colon, if it has one. -/
theorem ProxyUrl.parse_text (url : ProxyUrl) :
    parse_proxy_url url.text =
      match text.splitLast ':' url.authority with
      | some (host, port) => .ok (String.ofList host, (parse_u16 port).getD 443)
      | none => .ok (String.ofList url.authority, 443) := by
  have htrim : trim_start_matches "http://" (trim_start_matches "https://" url.text.toList) =
      url.rest := url.trim_text
  unfold parse_proxy_url
  simp only [htrim, url.head_splitOn_rest]

/-- The host and the port of a URL are read back as they stand there, but for an IPv6 literal
without a port, which is cut at its own last colon. -/
theorem parse_proxy_url_exact_iff (url : ProxyUrl) :
    parse_proxy_url url.text = .ok (String.ofList url.host.text, url.port_number) ↔
      ¬ (url.host.is_bracketed = true ∧ url.port = none) := by
  rw [url.parse_text]
  unfold ProxyUrl.authority ProxyUrl.port_number
  cases url.port with
  | some port =>
    have hcolon := port.not_mem_digits (c := ':') (by decide)
    simp only [Option.elim_some, text.splitLast_append hcolon, port.parse_u16_digits,
      Option.getD_some, reduceCtorEq, and_false, not_false_eq_true]
  | none =>
    simp only [Option.elim_none, List.append_nil, and_true]
    cases url.host with
    | Name name hcolon _ =>
      simp [Host.text, Host.is_bracketed, text.splitLast_of_not_mem hcolon]
    | Bracketed literal hcolon _ =>
      obtain ⟨before, after, hcut, hafter⟩ := text.exists_last hcolon
      have hlonger : '[' :: literal ++ [']'] = ('[' :: before) ++ ':' :: (after ++ [']']) := by
        rw [hcut]
        simp
      have hrest : ':' ∉ after ++ [']'] := by simp [hafter]
      have hne : '[' :: before ≠ '[' :: literal ++ [']'] := by
        intro heq
        have := congrArg List.length heq
        simp [hcut] at this
      rw [Host.text, hlonger, text.splitLast_append hrest, ← hlonger]
      simp only [Host.is_bracketed, not_true_eq_false, iff_false]
      intro heq
      simp only [Except.ok.injEq, Prod.mk.injEq, String.ofList_inj] at heq
      exact hne heq.1

/-- The loopback address of IPv6 is not read as a host. -/
theorem parse_proxy_url_cuts_ipv6 :
    parse_proxy_url "https://[::1]/masque" = .ok ("[:", 443) := by
  decide

end voip_client.masque
