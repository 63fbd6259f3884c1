import Voip.Signaling.Reference
import Voip.Signaling.Unnoticed

namespace voip_signaling.server

open async state session wire

section Runs

variable {state : AppState} {p q : String}

/-- Whether the limits allow a request that the peer makes now. -/
def System.allowed (kind : rate_limit.Action) (q : String) (sys : System) : Bool :=
  (sys.server.inner.rate_limiter.check q kind sys.server.instant sys.server.instant).1

theorem System.Alike.allowed_eq {sys other : System} (halike : sys.Alike p other) (hne : q ≠ p)
    (kind : rate_limit.Action) : other.allowed kind q = sys.allowed kind q := by
  unfold System.allowed
  rw [halike.like.instant]
  exact (halike.like.same hne).check kind _

/-- A step of one peer's session neither uses, creates nor drops a bucket of the other peer. -/
def Untouched (p q : String) (sys : System) (event : Event) (next : System) : Prop :=
  ∀ s, event.session = some s → Owns p sys.server s → ∀ kind, next.bucket kind q = sys.bucket kind q

/-- The limits of one peer do not depend on what happens on the sessions of another: after two
runs that differ in nothing else they allow the same, and neither run touches its buckets there. -/
structure Isolated (state : AppState) (init : System) (p q : String) (events others : List Event) : Prop where
  allowed : ∀ last last', async.exec (step state) init events = some last →
    async.exec (step state) init others = some last' →
    ∀ kind, last'.allowed kind q = last.allowed kind q
  untouched : Along (step state) (Untouched p q) init events
  untouched_others : Along (step state) (Untouched p q) init others

private theorem along_untouched (rate_limits : rate_limit.RateLimitConfig) (hne : q ≠ p) {events : List Event}
    (hcond : Along (step state) (fun sys event _ => Separate state sys event)
      (System.init rate_limits state) events) :
    Along (step state) (Untouched p q) (System.init rate_limits state) events := by
  refine Along.of_invariant (I := Attributed state) ?_ (.init rate_limits) hcond
  intro sys event next hsys hcond hstep
  refine ⟨fun s hevent howns kind => ?_, hsys.step hcond hstep⟩
  have halike := alike_of_concealed hsys hcond (concealed_of_owns hevent howns) hstep
  exact (halike.like.same hne).bucket kind

/-- Two runs that differ only in what happens on the sessions of one peer, and in what nobody
else notices of it, look alike to the others as long as limits stay separate in both. -/
private theorem alike_of_variants (rate_limits : rate_limit.RateLimitConfig) {events others : List Event}
    (hvariants : Variants (step state) (Concealed p) (System.init rate_limits state) events
      (System.init rate_limits state) others)
    (hevents : Along (step state) (fun sys event _ => Separate state sys event)
      (System.init rate_limits state) events)
    (hothers : Along (step state) (fun sys event _ => Separate state sys event)
      (System.init rate_limits state) others)
    {last last' : System}
    (hlast : async.exec (step state) (System.init rate_limits state) events = some last)
    (hlast' : async.exec (step state) (System.init rate_limits state) others = some last') :
    last.Alike p last' := by
  have hrelated := hvariants.related
    (R := fun sys other => Attributed state sys ∧ Attributed state other ∧ sys.Alike p other)
    (fun _ _ h => ⟨h.2.1, h.1, h.2.2.symm⟩) ?_ ?_ hevents hothers hlast hlast'
    ⟨.init rate_limits, .init rate_limits, .refl _⟩
  · exact hrelated.2.2
  · rintro sys other event next ⟨hsys, hother, halike⟩ hconcealed hcond hstep
    have hunnoticed := alike_of_concealed hsys hcond hconcealed hstep
    exact ⟨hsys.step hcond hstep, hother, hunnoticed.symm.trans halike⟩
  · rintro sys other event next next' ⟨hsys, hother, halike⟩ hvisible hcond hcond' hstep hstep'
    exact ⟨hsys.step hcond hstep, hother.step hcond' hstep',
      alike_of_visible halike hsys hcond hcond' hvisible hstep hstep'⟩

/-- A run that goes on with moves of the peer's session only is a variant of stopping. -/
theorem variants_of_session {sys last : System} {s : SessionId} {events : List Event}
    (howns : Owns p sys.server s) (hevents : ∀ event ∈ events, event.session = some s)
    (hlast : async.exec (step state) sys events = some last) :
    Variants (step state) (Concealed p) sys events sys [] := by
  refine .of_concealed ?_ hlast
  clear hlast
  induction events generalizing sys with
  | nil => trivial
  | cons event events ih =>
    intro next hstep
    have hevent := hevents event (List.mem_cons_self ..)
    refine ⟨concealed_of_owns hevent howns, ih ?_ fun event hmem => hevents event (.tail _ hmem)⟩
    obtain ⟨session, hsession, hpeer⟩ := howns
    obtain ⟨after, hafter, hsame⟩ := (move_of_step hstep).peer_id hsession
    exact ⟨after, hafter, hsame.trans hpeer⟩

end Runs

/-- Limits are isolated in all runs in which messages about limits and registrations name the
peer of their session, no registration evicts another peer, and no cleanup evicts a bucket. -/
theorem limits_isolated (state : AppState) (rate_limits : rate_limit.RateLimitConfig) (p q : String)
    (hne : q ≠ p) (events others : List Event)
    (hvariants : Variants (step state) (Concealed p) (System.init rate_limits state) events
      (System.init rate_limits state) others)
    (hevents : Along (step state) (fun sys event _ => Separate state sys event)
      (System.init rate_limits state) events)
    (hothers : Along (step state) (fun sys event _ => Separate state sys event)
      (System.init rate_limits state) others) :
    Isolated state (System.init rate_limits state) p q events others where
  allowed _ _ hlast hlast' :=
    (alike_of_variants rate_limits hvariants hevents hothers hlast hlast').allowed_eq hne
  untouched := along_untouched rate_limits hne hevents
  untouched_others := along_untouched rate_limits hne hothers

/-- After alice and bob have connected, what happens on alice's session is replaced by nothing. -/
theorem variants_of_alice {events : List Event} {last : System}
    (hevents : ∀ event ∈ events, event.session = some 1)
    (hlast : async.exec (step .reference) .alice_and_bob events = some last) :
    Variants (step .reference) (Concealed "alice") .reference (alice_and_bob_connect ++ events) .reference
      alice_and_bob_connect := by
  refine .both id alice_connects alice_connects (.both id bob_connects bob_connects ?_)
  exact variants_of_session ⟨_, rfl, rfl⟩ hevents hlast

/-- The condition of the theorem is met when alice registers. -/
theorem limits_isolated_of_alice_and_bob :
    Isolated .reference (System.init .default .reference) "alice" "bob"
      (alice_and_bob_connect ++ exchange 1 type_id.PEER_REGISTER (proto.string 1 "alice") 6)
      alice_and_bob_connect := by
  have hdone : ((async.exec (step .reference) .alice_and_bob
      (exchange 1 type_id.PEER_REGISTER (proto.string 1 "alice") 6)).map fun _ => ()) = some () := by
    decide +kernel
  obtain ⟨last, hlast, -⟩ := Option.map_eq_some_iff.mp hdone
  have hconnect (sys : System) (s : SessionId) (token : String) (_ : System) :
      Separate .reference sys (.upgrade s token) := ⟨rfl, rfl, rfl⟩
  refine limits_isolated .reference .default "alice" "bob" (by decide) _ _ (variants_of_alice ?_ hlast)
    (along_alice_and_bob_connect hconnect ?_) ?_
  · decide
  · decide +kernel
  · exact along_alice_and_bob_connect hconnect (along_nil _ _)

/-- The requests by which alice's session asks for calls from bob to carol. -/
def alice_calls_as_bob : List Event :=
  (List.replicate 10 (exchange 1 type_id.CALL_REQUEST_CS
    (proto.string 1 "call" ++ proto.string 2 "bob" ++ proto.string 3 "carol") 6)).flatten

/-- Ten requests that alice's session may not make use up all of bob's calls. -/
theorem limits_not_isolated :
    Variants (step .reference) (Concealed "alice") (System.init .default .reference)
        (alice_and_bob_connect ++ alice_calls_as_bob) (System.init .default .reference)
        alice_and_bob_connect ∧
      ¬ Isolated .reference (System.init .default .reference) "alice" "bob"
        (alice_and_bob_connect ++ alice_calls_as_bob) alice_and_bob_connect := by
  have hrefused : ((async.exec (step .reference) .alice_and_bob alice_calls_as_bob).map
      (System.allowed .Call "bob")) = some false := by
    decide +kernel
  have hallowed : System.alice_and_bob.allowed .Call "bob" = true := by
    decide +kernel
  obtain ⟨last, hlast, hfalse⟩ := Option.map_eq_some_iff.mp hrefused
  refine ⟨variants_of_alice (by decide) hlast, fun hisolated => ?_⟩
  have hsame := hisolated.allowed last .alice_and_bob
    ((exec_alice_and_bob_connect _).trans hlast) (exec_alice_and_bob_connect []) .Call
  rw [hallowed, hfalse] at hsame
  contradiction

end voip_signaling.server
