/-
The rebaser work queue, cancelled at any point.

`RebaserRequestWorkQueue::run` races `process_messages` against the shutdown
token; whichever finishes first drops the other, and `run` then closes and waits
on a tracker nothing was ever spawned on, so it returns at once.  The loop
suspends in two places: on `stream.next()` and on `msg.ack()`.  After an ack
returns, `process_message` decodes the payload, narrows the activity to a rebase
request and sends it on an unbounded channel without suspending again, so
cancellation can land while waiting for the next item or while waiting for an
ack, and nowhere in between an ack and its send.

The state is the loop's program counter, the requests sent so far, and two
history variables: the items the consumer yielded and the messages whose ack
call returned.  `WorkQueueInv` says what is sent is, in order, the rebase
request each acked message carries, and that the acked messages are the
messages yielded so far less at most the one whose ack is in flight.
`rebaseRequestOf` is the reading of one delivery the other way round, from the
decoded activity's fields; `processMessage_sent` says the code agrees with it.
-/
import LayerCache.Activity
import LayerCache.Run

namespace LayerCache.RebaserRequestWorkQueue

open Postcard

variable {S : Schema}

/-- Where `process_messages` is, awaiting `stream.next()` or `msg.ack()`, or that `run`
has returned. -/
inductive Pc
  | next
  | ack (msg : Message)
  | returned
  deriving DecidableEq

/-- The work queue of one instance. -/
structure State (S : Schema) where
  pc : Pc
  /-- What the consumer yielded, in order. -/
  items : List (Except MessagesError Message)
  /-- The messages whose ack call returned, successfully or not, in order. -/
  acked : List Message
  /-- Every `tx.send`, in order. -/
  sent : List (ActivityRebaseRequest S)

/-- A queue `create` has just returned. -/
def State.init : State S := ⟨.next, [], [], []⟩

/-- What the bus and the shutdown token can do next: `stream.next()` resolves to a
message, a transport error or the end; `msg.ack()` resolves, successfully or not; or
the shutdown token is cancelled. -/
inductive Action
  | next (item : Option (Except MessagesError Message))
  | ack (ok : Bool)
  | cancel

/-- `RebaserRequestWorkQueue::process_message`: decode, narrow, send. -/
def processMessage (serde : SchemaSerde S) (tx : List (ActivityRebaseRequest S)) (msg : Message) :
    Except LayerDbError (List (ActivityRebaseRequest S)) := do
  let activity ← (fromBytes (Activity.deserialize serde) msg.payload).mapError .postcard
  let rebaseActivity ← ActivityRebaseRequest.tryFrom activity
  pure (tx ++ [rebaseActivity])

def step (serde : SchemaSerde S) (s : State S) : Action → Option (State S)
  | .next item =>
    match s.pc, item with
    | .next, some (.ok msg) => some { s with pc := .ack msg, items := s.items ++ [.ok msg] }
    | .next, some (.error e) => some { s with items := s.items ++ [.error e] }
    | .next, none => some { s with pc := .returned }
    | _, _ => none
  | .ack _ =>
    match s.pc with
    | .ack msg =>
      some { s with pc := .next, acked := s.acked ++ [msg],
                    sent := match processMessage serde s.sent msg with
                      | .ok tx => tx
                      | .error _ => s.sent }
    | _ => none
  | .cancel =>
    match s.pc with
    | .returned => none
    | _ => some { s with pc := .returned }

/-- Reachable from a new queue, under any items, ack outcomes and cancellation point. -/
abbrev Reachable (serde : SchemaSerde S) : State S → Prop := LayerCache.Reachable (step serde) .init

/-- One delivery read off the decoded activity: the rebase request it carries, with the
activity's id, payload, metadata and parent id, if its payload is a rebase request. -/
def rebaseRequestOf (serde : SchemaSerde S) (payload : Bytes) : Option (ActivityRebaseRequest S) :=
  match fromBytes (Activity.deserialize serde) payload with
  | .ok ⟨id, .rebaseRequest request, metadata, parentActivityId⟩ =>
    some ⟨id, request, metadata, parentActivityId⟩
  | _ => none

variable {serde : SchemaSerde S} {s s' : State S} {a : Action}

/-- The code sends exactly what `rebaseRequestOf` reads off the payload. -/
theorem processMessage_sent (tx : List (ActivityRebaseRequest S)) (msg : Message) :
    (match processMessage serde tx msg with
      | .ok tx' => tx'
      | .error _ => tx) = tx ++ (rebaseRequestOf serde msg.payload).toList := by
  simp only [processMessage, rebaseRequestOf]
  cases fromBytes (Activity.deserialize serde) msg.payload with
  | error e => exact (List.append_nil tx).symm
  | ok activity =>
    obtain ⟨id, payload, metadata, parent⟩ := activity
    cases payload <;> first | rfl | exact (List.append_nil tx).symm

/-- Everything a step can do. -/
theorem step_cases (h : step serde s a = some s') :
    (∃ msg, s.pc = .next ∧ a = .next (some (.ok msg)) ∧
      s' = { s with pc := .ack msg, items := s.items ++ [.ok msg] }) ∨
    (∃ e, s.pc = .next ∧ a = .next (some (.error e)) ∧ s' = { s with items := s.items ++ [.error e] }) ∨
    (s.pc = .next ∧ a = .next none ∧ s' = { s with pc := .returned }) ∨
    (∃ msg ok, s.pc = .ack msg ∧ a = .ack ok ∧
      s' = { s with pc := .next, acked := s.acked ++ [msg],
                    sent := s.sent ++ (rebaseRequestOf serde msg.payload).toList }) ∨
    (s.pc ≠ .returned ∧ a = .cancel ∧ s' = { s with pc := .returned }) := by
  cases a with
  | next item =>
    simp only [step] at h
    split at h <;> cases h
    · exact .inl ⟨_, ‹_›, rfl, rfl⟩
    · exact .inr (.inl ⟨_, ‹_›, rfl, rfl⟩)
    · exact .inr (.inr (.inl ⟨‹_›, rfl, rfl⟩))
  | ack ok =>
    simp only [step] at h
    split at h <;> cases h
    exact .inr (.inr (.inr (.inl ⟨_, ok, ‹_›, rfl, by rw [processMessage_sent]⟩)))
  | cancel =>
    simp only [step] at h
    split at h <;> cases h
    exact .inr (.inr (.inr (.inr ⟨‹_›, rfl, rfl⟩)))

/-! ### The invariant -/

/-- Which yielded messages have had their ack return, by where the loop is. -/
def AckedUpTo (oks acked : List Message) : Pc → Prop
  | .next => oks = acked
  | .ack msg => oks = acked ++ [msg]
  | .returned => oks = acked ∨ ∃ msg, oks = acked ++ [msg]

/-- What every reachable state of the work queue satisfies. -/
structure WorkQueueInv (serde : SchemaSerde S) (s : State S) : Prop where
  /-- Sent: the rebase request of each acked message, in ack order. -/
  sent : s.sent = s.acked.filterMap fun msg => rebaseRequestOf serde msg.payload
  /-- Acked: every yielded message, less the one whose ack may be in flight. -/
  acked : AckedUpTo (okMessages s.items) s.acked s.pc

theorem workQueueInv_step (h : step serde s a = some s') (hs : WorkQueueInv serde s) :
    WorkQueueInv serde s' := by
  obtain ⟨hsent, hacked⟩ := hs
  rcases step_cases h with ⟨msg, hpc, -, rfl⟩ | ⟨e, hpc, -, rfl⟩ | ⟨hpc, -, rfl⟩ |
    ⟨msg, -, hpc, -, rfl⟩ | ⟨hpc, -, rfl⟩
  · -- a message: its ack is now in flight
    rw [hpc] at hacked
    exact ⟨hsent, (okMessages_append_ok _ _).trans (congrArg (· ++ [msg]) hacked)⟩
  · -- a transport error yields no message
    exact ⟨hsent, by rw [okMessages_append_error]; exact hacked⟩
  · rw [hpc] at hacked
    exact ⟨hsent, .inl hacked⟩
  · -- the ack returned: the message is acked and its request, if any, sent
    rw [hpc] at hacked
    refine ⟨?_, hacked⟩
    rw [List.filterMap_append, ← hsent]
    cases hr : rebaseRequestOf serde msg.payload <;> simp [hr]
  · -- cancellation, with or without an ack in flight
    refine ⟨hsent, ?_⟩
    cases hp : s.pc with
    | next => rw [hp] at hacked; exact .inl hacked
    | ack msg => rw [hp] at hacked; exact .inr ⟨msg, hacked⟩
    | returned => exact absurd hp hpc

theorem workQueueInv_reachable (h : Reachable serde s) : WorkQueueInv serde s :=
  Reachable.induct (WorkQueueInv serde) (show WorkQueueInv serde State.init from ⟨rfl, rfl⟩)
    (fun _ _ _ hs hstep => workQueueInv_step hstep hs) h

/-- Only the end of the stream or cancellation ends the loop: no transport error, ack
failure, undecodable payload or other payload variant does. -/
theorem returned_only_at_end_or_cancel (h : step serde s a = some s') (hpc : s.pc ≠ .returned)
    (hret : s'.pc = .returned) : a = .next none ∨ a = .cancel := by
  rcases step_cases h with ⟨_, _, _, rfl⟩ | ⟨_, _, _, rfl⟩ | ⟨_, rfl, rfl⟩ | ⟨_, _, _, _, rfl⟩ |
    ⟨_, rfl, rfl⟩
  all_goals first | exact .inl rfl | exact .inr rfl | exact absurd hret hpc | simp at hret

/-- **The acked rebase requests, in order, under any cancellation point.**  When `run`
has returned, what was sent is, in stream order, the rebase request of each message
whose ack call returned and whose payload decodes to a rebase-request activity; those
messages are every message yielded but possibly the last, whose ack the cancellation
cut short; and nothing but the end of the stream or cancellation ends the loop. -/
theorem work_queue_sends_acked_rebase_requests (h : Reachable serde s) (hret : s.pc = .returned) :
    s.sent = s.acked.filterMap (fun msg => rebaseRequestOf serde msg.payload) ∧
      (okMessages s.items = s.acked ∨ ∃ msg, okMessages s.items = s.acked ++ [msg]) ∧
      (∀ (s₁ : State S) a s₂, step serde s₁ a = some s₂ → s₁.pc ≠ .returned → s₂.pc = .returned →
        a = .next none ∨ a = .cancel) := by
  obtain ⟨hsent, hacked⟩ := workQueueInv_reachable h
  rw [hret] at hacked
  exact ⟨hsent, hacked, fun _ _ _ => returned_only_at_end_or_cancel⟩

/-! ### From the publisher -/

/-- A request and an answer to it, as the publisher sends them. -/
def publishedRequest : Activity unitSchema := .rebase ⟨⟨9, by decide⟩⟩ () ()

def publishedAnswer : Activity unitSchema := .rebaseFinished ⟨⟨10, by decide⟩⟩ () () ⟨⟨9, by decide⟩⟩

/-- A rebase request, then a transport error, then a rebase-finished activity whose ack
fails, then a third message, cancelled while its ack is in flight. -/
def requestActivity : Activity unitSchema := .rebase ⟨⟨5, by decide⟩⟩ () ()

def cancelRun : List Action :=
  [.next (some (.ok ⟨"rebase.request", toStdvec unitSchemaSerde requestActivity⟩)), .ack true,
    .next (some (.error .transport)),
    .next (some (.ok ⟨"rebase.finished", toStdvec unitSchemaSerde sampleActivity⟩)), .ack false,
    .next (some (.ok ⟨"rebase.request", toStdvec unitSchemaSerde requestActivity⟩)), .cancel]

theorem work_queue_sends_acked_rebase_requests_sample :
    ∃ s, Reachable unitSchemaSerde s ∧ s.pc = .returned ∧ s.sent.length = 1 ∧
      s.sent = s.acked.filterMap (fun msg => rebaseRequestOf unitSchemaSerde msg.payload) := by
  obtain ⟨s, hrun, hps⟩ := Option.map_eq_some'.mp (show (run (step unitSchemaSerde) .init cancelRun).map
    (fun s => (s.pc, s.sent.length)) = some (Pc.returned, 1) by decide)
  have hreach := reachable_of_run hrun
  obtain ⟨hpc, hlen⟩ := Prod.mk.inj hps
  exact ⟨s, hreach, hpc, hlen, (work_queue_sends_acked_rebase_requests hreach hpc).1⟩

end LayerCache.RebaserRequestWorkQueue
