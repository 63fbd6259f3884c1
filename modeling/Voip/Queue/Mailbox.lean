import Mathlib.Data.List.Infix

namespace queue

variable {α : Type}

/-- What the reader of a mailbox is doing: it has not come yet, waits for a message, is busy
with one, reads no more, or is gone together with what was left to read. -/
inductive Reader (α : Type) where
  | expected
  | waiting
  | busy (message : α)
  | leaving
  | gone

/-- A queue of messages with its one reader. -/
structure Mailbox (α : Type) where
  reader : Reader α
  pending : List α

namespace Mailbox

/-- One move of a mailbox with room for `cap` messages: the messages that it takes in and
those that its reader has dealt with. -/
inductive Step (cap : Nat) : Mailbox α → List α → List α → Mailbox α → Prop where
  | enter : Step cap ⟨.expected, []⟩ [] [] ⟨.waiting, []⟩
  | post {reader : Reader α} {pending : List α} (message : α) (room : pending.length < cap)
      (here : reader ≠ .expected ∧ reader ≠ .gone) :
      Step cap ⟨reader, pending⟩ [message] [] ⟨reader, pending ++ [message]⟩
  | take (message : α) (pending : List α) :
      Step cap ⟨.waiting, message :: pending⟩ [] [] ⟨.busy message, pending⟩
  | finish (message : α) (pending : List α) :
      Step cap ⟨.busy message, pending⟩ [] [message] ⟨.waiting, pending⟩
  | fail (message : α) (pending : List α) : Step cap ⟨.busy message, pending⟩ [] [] ⟨.leaving, pending⟩
  | leave (pending : List α) : Step cap ⟨.waiting, pending⟩ [] [] ⟨.leaving, pending⟩
  | drop (pending : List α) : Step cap ⟨.leaving, pending⟩ [] [] ⟨.gone, []⟩

/-- Any number of moves. -/
inductive Run (cap : Nat) (start : Mailbox α) : List α → List α → Mailbox α → Prop where
  | refl : Run cap start [] [] start
  | tail {posted finished new done : List α} {middle last : Mailbox α}
      (run : Run cap start posted finished middle) (step : Step cap middle new done last) :
      Run cap start (posted ++ new) (finished ++ done) last

variable {cap : Nat} {start middle last : Mailbox α} {posted finished new done : List α}

theorem Step.run (hstep : Step cap start new done last) : Run cap start new done last := by
  have hrun := Run.refl.tail hstep
  rwa [List.nil_append, List.nil_append] at hrun

theorem Run.trans (hfirst : Run cap start posted finished middle) (hsecond : Run cap middle new done last) :
    Run cap start (posted ++ new) (finished ++ done) last := by
  induction hsecond with
  | refl => simpa using hfirst
  | tail _ hstep ih =>
    rw [← List.append_assoc, ← List.append_assoc]
    exact ih.tail hstep

/-- What the reader has taken out without dealing with it. -/
def Owes (cap : Nat) (mailbox : Mailbox α) (lost : List α) : Prop :=
  match mailbox.reader with
  | .expected | .waiting => lost = []
  | .busy message => lost = [message]
  | .leaving => lost.length ≤ 1
  | .gone => lost.length ≤ cap + 1 ∧ mailbox.pending = []

/-- Every message that came in has been dealt with, is owed by the reader or is queued, in the
order in which the messages came. -/
structure Balanced (cap : Nat) (posted finished : List α) (mailbox : Mailbox α) : Prop where
  bounded : mailbox.pending.length ≤ cap
  accounts : ∃ lost, mailbox.Owes cap lost ∧ posted = finished ++ lost ++ mailbox.pending

/-- Every move keeps the balance. -/
theorem Balanced.step (hbefore : Balanced cap posted finished middle) (hstep : Step cap middle new done last) :
    Balanced cap (posted ++ new) (finished ++ done) last := by
  obtain ⟨hbounded, lost, howes, rfl⟩ := hbefore
  cases hstep with
  | enter =>
    obtain rfl : lost = [] := howes
    exact ⟨Nat.zero_le _, [], rfl, by simp⟩
  | @post reader pending message hroom hhere =>
    have hlength : (pending ++ [message]).length ≤ cap := by
      rw [List.length_append]
      exact hroom
    refine ⟨hlength, lost, ?_, by simp⟩
    cases reader with
    | gone => exact absurd rfl hhere.2
    | _ => exact howes
  | take message pending =>
    obtain rfl : lost = [] := howes
    exact ⟨Nat.le_of_succ_le hbounded, [message], rfl, by simp⟩
  | finish message pending =>
    obtain rfl : lost = [message] := howes
    exact ⟨hbounded, [], rfl, by simp⟩
  | fail message pending =>
    obtain rfl : lost = [message] := howes
    exact ⟨hbounded, [message], Nat.le_refl 1, by simp⟩
  | leave pending =>
    obtain rfl : lost = [] := howes
    exact ⟨hbounded, [], Nat.zero_le 1, by simp⟩
  | drop pending =>
    -- What was still queued is lost with the message that could not be dealt with.
    have hlost : lost.length ≤ 1 := howes
    have hpending : pending.length ≤ cap := hbounded
    refine ⟨Nat.zero_le _, lost ++ pending, ⟨?_, rfl⟩, by simp⟩
    rw [List.length_append]
    omega

theorem Run.balanced (hrun : Run cap ⟨.expected, []⟩ posted finished last) :
    Balanced cap posted finished last := by
  induction hrun with
  | refl => exact ⟨Nat.zero_le _, [], rfl, rfl⟩
  | tail _ hstep ih => exact ih.step hstep

/-- No message overtakes another or is dealt with twice. -/
theorem Balanced.in_order (hbalanced : Balanced cap posted finished last) : finished <+: posted := by
  obtain ⟨-, lost, -, rfl⟩ := hbalanced
  rw [List.append_assoc]
  exact List.prefix_append finished (lost ++ last.pending)

/-- At most one message besides a full queue is missing. -/
theorem Balanced.missing_le (hbalanced : Balanced cap posted finished last) :
    posted.length ≤ finished.length + (cap + 1) := by
  obtain ⟨hbounded, lost, howes, rfl⟩ := hbalanced
  obtain ⟨reader, pending⟩ := last
  simp only [List.length_append]
  have hpending : pending.length ≤ cap := hbounded
  cases reader with
  | expected | waiting =>
    obtain rfl : lost = [] := howes
    simp only [List.length_nil]
    omega
  | busy message =>
    obtain rfl : lost = [message] := howes
    simp only [List.length_singleton]
    omega
  | leaving =>
    have hlost : lost.length ≤ 1 := howes
    omega
  | gone =>
    obtain ⟨hlost, rfl⟩ : lost.length ≤ cap + 1 ∧ pending = [] := howes
    simp only [List.length_nil]
    omega

end Mailbox

end queue
