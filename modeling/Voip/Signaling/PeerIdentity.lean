import Voip.Core.PeerId
import Voip.Machine.History
import Voip.Signaling.Buckets
import Voip.Signaling.Reference
import Voip.Signaling.Sequential

namespace voip_signaling.server

open async state session handlers rate_limit wire voip_core.crypto lru

/-- A `POST` to `/v1/peers`, and what the clocks show then. -/
structure Post where
  body : RegisterPeerRequest
  now_secs : Nat
  instant : Nat

/-- The server answers a `POST` with no other request in between. -/
def post (state : AppState) (server : Server) (request : Post) : Option Outcome × Server :=
  let server := { server with now_secs := request.now_secs, instant := request.instant }
  match (handlers.register_peer state request.body).run (session.exec (.request 0)) server with
  | some (outcome, after) => (some outcome, after)
  | none => (none, server)

/-- A peer has an entry in the registry, or a bucket of the limiter. -/
def Known (server : Server) (peer_id : String) : Prop :=
  server.inner.peers.contains peer_id = true ∨ ∃ kind, (server.inner.rate_limiter.bucket kind peer_id).isSome = true

/-- The text that stands for a key is the only one under which the key is accepted, and so the
only one under which it has an entry or buckets. -/
structure CanonicalIds (state : AppState) (posts : List Post) (server : Server) : Prop where
  round_trip : ∀ key : Bytes, key.length = 32 → state.ed25519.valid_point key = true →
    parse_peer_id state.ed25519 (peer_id_from_public_key key) = .ok key
  canonical : ∀ request ∈ posts, ∀ key, parse_peer_id state.ed25519 request.body.peer_id = .ok key →
    request.body.peer_id = peer_id_from_public_key key
  one_owner : ∀ peer_id peer_id' key, parse_peer_id state.ed25519 peer_id = .ok key →
    parse_peer_id state.ed25519 peer_id' = .ok key → Known server peer_id → Known server peer_id' →
      peer_id = peer_id'

section post

variable {state : AppState} {server : Server} {peer_id : String}

theorem contains_register_peer {inner : InnerState} {info : PeerInfo} {sender : Option SessionSender}
    (hfound : (inner.register_peer info sender).peers.contains peer_id = true) :
    inner.peers.contains peer_id = true ∨ peer_id = info.peer_id := by
  by_cases hpeer : peer_id = info.peer_id
  · exact .inr hpeer
  · left
    unfold InnerState.register_peer at hfound
    split at hfound
    next => simpa [LruCache.contains, hpeer] using hfound
    next =>
      rw [LruCache.contains] at hfound ⊢
      obtain hkept | ⟨-, -, -, hevicted⟩ := inner.peers.peek_put_ne info.peer_id ⟨info, sender⟩ hpeer
      · rwa [← hkept]
      · rw [hevicted] at hfound
        contradiction

theorem register_peer_rate_limiter (inner : InnerState) (info : PeerInfo) (sender : Option SessionSender) :
    (inner.register_peer info sender).rate_limiter = inner.rate_limiter := by
  unfold InnerState.register_peer
  split <;> rfl

theorem bucket_of_check {limiter : RateLimiter} {now : Nat} {checked : String} {action kind : rate_limit.Action}
    (hfound : ((limiter.check checked action now now).2.bucket kind peer_id).isSome = true) :
    (limiter.bucket kind peer_id).isSome = true ∨ peer_id = checked := by
  rw [bucket_check] at hfound
  split at hfound
  next hown => exact .inr hown.2.symm
  next => exact .inl hfound

/-- Nothing is known after a step that was not known before, but the peer that it names. -/
structure Concerns (named : String) (before after : Server) : Prop where
  unlocked : after.peers_lock = none
  known : ∀ peer_id, Known after peer_id → Known before peer_id ∨ peer_id = named

theorem Concerns.refl (named : String) (hfree : server.peers_lock = none) : Concerns named server server :=
  ⟨hfree, fun _ hknown => .inl hknown⟩

theorem Concerns.trans {named : String} {first second third : Server} (hfirst : Concerns named first second)
    (hsecond : Concerns named second third) : Concerns named first third where
  unlocked := hsecond.unlocked
  known peer_id hknown := by
    obtain hbefore | hnamed := hsecond.known peer_id hknown
    · exact hfirst.known peer_id hbefore
    · exact .inr hnamed

theorem concerns_check (named : String) (action : rate_limit.Action) (hfree : server.peers_lock = none) :
    Concerns named server
      { server with inner := ((Op.check action named).run server.instant server.inner).2 } where
  unlocked := hfree
  known peer_id hknown := by
    obtain hentry | ⟨kind, hbucket⟩ := hknown
    · exact .inl (.inl hentry)
    · obtain hbefore | hnamed := bucket_of_check hbucket
      · exact .inl (.inr ⟨kind, hbefore⟩)
      · exact .inr hnamed

theorem concerns_register_peer {named : String} {info : PeerInfo} {sender : Option SessionSender}
    (hnamed : info.peer_id = named) (hfree : server.peers_lock = none) :
    Concerns named server
      { server with inner := ((Op.register_peer info sender).run server.instant server.inner).2 } where
  unlocked := hfree
  known peer_id hknown := by
    obtain hentry | ⟨kind, hbucket⟩ := hknown
    · obtain hbefore | hregistered := contains_register_peer hentry
      · exact .inl (.inl hbefore)
      · exact .inr (hregistered.trans hnamed)
    · refine .inl (.inr ⟨kind, ?_⟩)
      have hlimiter := register_peer_rate_limiter server.inner info sender
      change ((server.inner.register_peer info sender).rate_limiter.bucket kind peer_id).isSome = true at hbucket
      rwa [hlimiter] at hbucket

theorem run_register_peer {α : Type} {actor : Actor} (hfree : server.peers_lock = none) (info : PeerInfo)
    (sender : Option SessionSender) (f : Except error.SignalingError Unit → Async α) :
    (session.register_peer info sender >>= f).run (session.exec actor) server = (f (.ok ())).run (session.exec actor)
      { server with inner := ((Op.register_peer info sender).run server.instant server.inner).2 } :=
  run_state (.register_peer info sender) hfree f

/-- A `POST` is answered, and concerns the peer that it names. -/
theorem register_peer_concerns (state : AppState) (actor : Actor) (body : RegisterPeerRequest)
    (hfree : server.peers_lock = none) :
    ∃ outcome after, (handlers.register_peer state body).run (session.exec actor) server = some (outcome, after) ∧
      Concerns body.peer_id server after := by
  unfold handlers.register_peer
  split
  next => exact ⟨_, server, rfl, .refl _ hfree⟩
  next =>
    have hchecked := concerns_check body.peer_id .Registration hfree
    rw [check_registration, run_state _ hfree]
    generalize hserver : ({ server with inner := _ } : Server) = checked at hchecked ⊢
    split
    next =>
      rw [run_now_secs]
      dsimp only
      rw [run_register_peer hchecked.unlocked, run_now_secs]
      cases jwt.create_jwt state.serde state.ed25519 state.signing_key body.peer_id state.config.jwt_expiry_secs
          checked.now_secs with
      | error e => exact ⟨_, _, rfl, hchecked.trans (concerns_register_peer rfl hchecked.unlocked)⟩
      | ok jwt_token => exact ⟨_, _, rfl, hchecked.trans (concerns_register_peer rfl hchecked.unlocked)⟩
    next => exact ⟨_, checked, rfl, hchecked⟩

theorem post_concerns (state : AppState) (request : Post) (hfree : server.peers_lock = none) :
    Concerns request.body.peer_id server (post state server request).2 := by
  have hfree' : ({ server with now_secs := request.now_secs, instant := request.instant } : Server).peers_lock =
      none := hfree
  obtain ⟨outcome, after, hrun, hconcerns⟩ := register_peer_concerns state (.request 0) request.body hfree'
  simp only [post, hrun]
  exact ⟨hconcerns.unlocked, hconcerns.known⟩

/-- Only the peers that were named in a `POST` are known. -/
theorem known_of_posts {posts : List Post} (hfree : server.peers_lock = none)
    (hknown : Known (machine.final (post state) server posts) peer_id) :
    Known server peer_id ∨ ∃ request ∈ posts, request.body.peer_id = peer_id := by
  induction posts generalizing server with
  | nil => exact .inl hknown
  | cons request posts ih =>
    have hconcerns := post_concerns state request hfree
    obtain hafter | ⟨later, hlater, hnamed⟩ := ih hconcerns.unlocked hknown
    · obtain hbefore | hnamed := hconcerns.known peer_id hafter
      · exact .inl hbefore
      · exact .inr ⟨request, List.mem_cons_self, hnamed.symm⟩
    · exact .inr ⟨later, List.mem_cons_of_mem _ hlater, hnamed⟩

end post

theorem not_known_init (rate_limits : RateLimitConfig) (state : AppState) (peer_id : String) :
    ¬ Known (System.init rate_limits state).server peer_id := by
  rintro (hentry | ⟨kind, hbucket⟩)
  · simp [System.init, InnerState.new, LruCache.contains] at hentry
  · cases kind <;> cases hbucket

/-- One key owns one entry and one set of buckets as long as no accepted peer id has a letter from
`A` to `F`. -/
theorem canonical_ids_iff (rate_limits : RateLimitConfig) (state : AppState) (posts : List Post) :
    CanonicalIds state posts (machine.final (post state) (System.init rate_limits state).server posts) ↔
      ∀ request ∈ posts, ∀ key, parse_peer_id state.ed25519 request.body.peer_id = .ok key →
        Lowercase (utf8 request.body.peer_id) := by
  constructor
  · intro hcanonical request hrequest key hparse
    exact (eq_peer_id_iff hparse).mp (hcanonical.canonical request hrequest key hparse)
  · intro hlower
    have hcanonical : ∀ request ∈ posts, ∀ key, parse_peer_id state.ed25519 request.body.peer_id = .ok key →
        request.body.peer_id = peer_id_from_public_key key := fun request hrequest key hparse =>
      (eq_peer_id_iff hparse).mpr (hlower request hrequest key hparse)
    have hknown : ∀ peer_id key, parse_peer_id state.ed25519 peer_id = .ok key →
        Known (machine.final (post state) (System.init rate_limits state).server posts) peer_id →
          peer_id = peer_id_from_public_key key := by
      intro peer_id key hparse hknown
      obtain hinit | ⟨request, hrequest, rfl⟩ := known_of_posts rfl hknown
      · exact absurd hinit (not_known_init rate_limits state peer_id)
      · exact hcanonical request hrequest key hparse
    refine ⟨fun key => parse_peer_id_from_public_key, hcanonical, ?_⟩
    intro peer_id peer_id' key hparse hparse' howner howner'
    rw [hknown peer_id key hparse howner, hknown peer_id' key hparse' howner']

/-- A `POST` of nothing but a peer id, at the beginning of time. -/
def Post.bare (peer_id : String) : Post where
  body := { peer_id, display_name := "", ipv6_addresses := [], ipv4_reflexive := [], nat_type := none
            status := none, fcm_token := none }
  now_secs := 0
  instant := 0

/-- Two spellings of one key. -/
def lowercase_id : String := "d75a980182b10ab7d54bfed3c964073a0ee172f3daa62325af021a68f707511a"

def capital_id : String := "D75A980182B10AB7D54BFED3C964073A0EE172F3DAA62325AF021A68F707511A"

/-- The same key is registered twice, once with capital letters. -/
theorem not_canonical_ids_of_capitals :
    ¬ CanonicalIds .reference [.bare lowercase_id, .bare capital_id]
      (machine.final (post .reference) (System.init .default .reference).server
        [.bare lowercase_id, .bare capital_id]) := by
  intro hcanonical
  have hsame := hcanonical.one_owner lowercase_id capital_id
    [0xd7, 0x5a, 0x98, 0x01, 0x82, 0xb1, 0x0a, 0xb7, 0xd5, 0x4b, 0xfe, 0xd3, 0xc9, 0x64, 0x07, 0x3a,
      0x0e, 0xe1, 0x72, 0xf3, 0xda, 0xa6, 0x23, 0x25, 0xaf, 0x02, 0x1a, 0x68, 0xf7, 0x07, 0x51, 0x1a]
    (by decide +kernel) (by decide +kernel) (.inl (by decide +kernel)) (.inl (by decide +kernel))
  exact absurd hsame (by decide)

end voip_signaling.server
