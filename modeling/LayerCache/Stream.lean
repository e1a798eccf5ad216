/-
The fan-out path: an activity stream, the tasks it spawns, and the multiplexer
task that broadcasts what they forward.

`ActivityStream::process_messages` loops on `stream.next()`.  A transport error
is logged and the loop goes on; a message is acked, the ack's failure logged,
and then a task is spawned that decodes the payload and sends the activity on
an unbounded channel, a decode failure being logged too.  The loop ends only
when the stream does.  `ActivityMultiplexerTask::process` receives from that
channel and sends each activity on the broadcast channel, ignoring the error of
a send with no receivers; it returns once the channel is closed and drained,
which is after the loop has ended and every spawned task has run.

The state has one program counter for the loop, the spawned tasks that have not
run yet, the channel's buffer, and the broadcast sends so far, plus two history
variables: the items the consumer yielded and the tasks in the order they ran.
A spawned task runs whole in one step, since `process_message` never suspends,
and the scheduler may pick any pending task.

`FanOutInv` ties these together.  The ran, pending and in-ack messages are a
permutation of the messages the consumer yielded, and what was broadcast
followed by what is still buffered is exactly the decodings of the tasks that
ran, in the order they ran.  The first gives no loss and no duplication once
everything has finished; the second says the broadcast order is the order the
scheduler ran the tasks in, which need not be the order the messages came in.
-/
import LayerCache.Activity
import LayerCache.Run

namespace LayerCache.ActivityStream

open Postcard

variable {S : Schema}

/-- Where `process_messages` is: awaiting `stream.next()`, awaiting `msg.ack()`, or
returned once the stream ended, dropping its sender. -/
inductive Pc
  | next
  | ack (msg : Message)
  | ended
  deriving DecidableEq

/-- The message whose ack the loop is awaiting, if any. -/
def Pc.pending : Pc → List Message
  | .ack msg => [msg]
  | _ => []

/-- The fan-out path of one subscription. -/
structure State (S : Schema) where
  pc : Pc
  /-- Spawned `process_message` tasks that have not run yet, in spawn order. -/
  spawned : List Message
  /-- The unbounded channel between the tasks and the multiplexer task. -/
  queue : List (Activity S)
  /-- `ActivityMultiplexerTask::process` has returned. -/
  processDone : Bool
  /-- Every `tx.send` of the multiplexer task, in order. -/
  broadcast : List (Activity S)
  /-- What the consumer yielded, in order. -/
  items : List (Except MessagesError Message)
  /-- The spawned tasks that have run, in the order they ran. -/
  ran : List Message

/-- A subscription whose stream has just been created. -/
def State.init : State S := ⟨.next, [], [], false, [], [], []⟩

/-- What the scheduler and the bus can do next: `stream.next()` resolves to a message,
a transport error or the end; `msg.ack()` resolves, successfully or not; the scheduler
runs spawned task `i`; the multiplexer task's `recv()` resolves and it calls `tx.send`,
with or without receivers; or `recv()` resolves to `None`. -/
inductive Action
  | next (item : Option (Except MessagesError Message))
  | ack (ok : Bool)
  | runTask (i : Nat)
  | recv (delivered : Bool)
  | close

/-- `ActivityStream::process_message`: decode the payload and send the activity. -/
def processMessage (serde : SchemaSerde S) (tx : List (Activity S)) (msg : Message) :
    Except LayerDbError (List (Activity S)) := do
  let activity ← (fromBytes (Activity.deserialize serde) msg.payload).mapError .postcard
  pure (tx ++ [activity])

/-- The activity a payload decodes to, if it does. -/
def decode (serde : SchemaSerde S) (msg : Message) : Option (Activity S) :=
  (fromBytes (Activity.deserialize serde) msg.payload).toOption

def step (serde : SchemaSerde S) (s : State S) : Action → Option (State S)
  | .next item =>
    match s.pc, item with
    | .next, some (.ok msg) => some { s with pc := .ack msg, items := s.items ++ [.ok msg] }
    | .next, some (.error e) => some { s with items := s.items ++ [.error e] }
    | .next, none => some { s with pc := .ended }
    | _, _ => none
  | .ack _ =>
    match s.pc with
    | .ack msg => some { s with pc := .next, spawned := s.spawned ++ [msg] }
    | _ => none
  | .runTask i =>
    match s.spawned[i]? with
    | some msg =>
      some { s with spawned := s.spawned.eraseIdx i, ran := s.ran ++ [msg],
                    queue := match processMessage serde s.queue msg with
                      | .ok tx => tx
                      | .error _ => s.queue }
    | none => none
  | .recv _ =>
    match s.queue, s.processDone with
    | activity :: rest, false => some { s with queue := rest, broadcast := s.broadcast ++ [activity] }
    | _, _ => none
  | .close =>
    match s.pc, s.spawned, s.queue, s.processDone with
    | .ended, [], [], false => some { s with processDone := true }
    | _, _, _, _ => none

/-- Reachable from a fresh subscription under any scheduling. -/
abbrev Reachable (serde : SchemaSerde S) : State S → Prop := LayerCache.Reachable (step serde) .init

variable {serde : SchemaSerde S} {s s' : State S} {a : Action}

theorem processMessage_queue (tx : List (Activity S)) (msg : Message) :
    (match processMessage serde tx msg with
      | .ok tx' => tx'
      | .error _ => tx) = tx ++ (decode serde msg).toList := by
  simp only [processMessage, decode]
  cases fromBytes (Activity.deserialize serde) msg.payload
  · exact (List.append_nil tx).symm
  · rfl

/-- Everything a step can do. -/
theorem step_cases (h : step serde s a = some s') :
    (∃ msg, s.pc = .next ∧ a = .next (some (.ok msg)) ∧
      s' = { s with pc := .ack msg, items := s.items ++ [.ok msg] }) ∨
    (∃ e, s.pc = .next ∧ a = .next (some (.error e)) ∧ s' = { s with items := s.items ++ [.error e] }) ∨
    (s.pc = .next ∧ a = .next none ∧ s' = { s with pc := .ended }) ∨
    (∃ msg ok, s.pc = .ack msg ∧ a = .ack ok ∧ s' = { s with pc := .next, spawned := s.spawned ++ [msg] }) ∨
    (∃ i msg, a = .runTask i ∧ s.spawned[i]? = some msg ∧
      s' = { s with spawned := s.spawned.eraseIdx i, ran := s.ran ++ [msg],
                    queue := s.queue ++ (decode serde msg).toList }) ∨
    (∃ activity rest ok, s.queue = activity :: rest ∧ s.processDone = false ∧ a = .recv ok ∧
      s' = { s with queue := rest, broadcast := s.broadcast ++ [activity] }) ∨
    (s.pc = .ended ∧ s.spawned = [] ∧ s.queue = [] ∧ s.processDone = false ∧ a = .close ∧
      s' = { s with processDone := true }) := by
  cases a with
  | next item =>
    simp only [step] at h
    split at h <;> cases h
    · exact .inl ⟨_, ‹_›, rfl, rfl⟩
    · exact .inr (.inl ⟨_, ‹_›, rfl, rfl⟩)
    · exact .inr (.inr (.inl ⟨‹_›, rfl, rfl⟩))
  | ack ok =>
    simp only [step] at h
    split at h <;> cases h
    exact .inr (.inr (.inr (.inl ⟨_, ok, ‹_›, rfl, rfl⟩)))
  | runTask i =>
    simp only [step] at h
    split at h <;> cases h
    exact .inr (.inr (.inr (.inr (.inl ⟨i, _, rfl, ‹_›, by rw [processMessage_queue]⟩))))
  | recv ok =>
    simp only [step] at h
    split at h <;> cases h
    exact .inr (.inr (.inr (.inr (.inr (.inl ⟨_, _, ok, ‹_›, ‹_›, rfl, rfl⟩)))))
  | close =>
    simp only [step] at h
    split at h <;> cases h
    exact .inr (.inr (.inr (.inr (.inr (.inr ⟨‹_›, ‹_›, ‹_›, ‹_›, rfl, rfl⟩)))))

/-- The task at `i` and the others are all the tasks. -/
theorem perm_cons_eraseIdx {α : Type} {x : α} :
    ∀ (l : List α) (i : Nat), l[i]? = some x → l.Perm (x :: l.eraseIdx i)
  | [], _, h => by cases h
  | y :: l, 0, h => by
    rw [List.getElem?_cons_zero, Option.some.injEq] at h
    subst h
    rfl
  | y :: l, i + 1, h => by
    rw [List.getElem?_cons_succ] at h
    rw [List.eraseIdx_cons_succ]
    exact ((perm_cons_eraseIdx l i h).cons y).trans (List.Perm.swap x y _)

/-! ### The invariant -/

/-- What every reachable state of the fan-out path satisfies. -/
structure FanOutInv (serde : SchemaSerde S) (s : State S) : Prop where
  /-- Every message yielded is pending its ack, spawned and waiting, or has run: once. -/
  accounted : (s.ran ++ s.spawned ++ s.pc.pending).Perm (okMessages s.items)
  /-- What was broadcast and what is buffered are the decodings of the run tasks, in run order. -/
  inOrder : s.broadcast ++ s.queue = s.ran.filterMap (decode serde)
  /-- The multiplexer task returns only with everything drained. -/
  drained : s.processDone = true → s.pc = .ended ∧ s.spawned = [] ∧ s.queue = []

theorem fanOutInv_step (h : step serde s a = some s') (hs : FanOutInv serde s) : FanOutInv serde s' := by
  obtain ⟨hacc, hord, hdrain⟩ := hs
  rcases step_cases h with ⟨msg, hpc, -, rfl⟩ | ⟨e, hpc, -, rfl⟩ | ⟨hpc, -, rfl⟩ |
    ⟨msg, -, hpc, -, rfl⟩ | ⟨i, msg, -, hi, rfl⟩ | ⟨x, rest, -, hq, hdone, -, rfl⟩ |
    ⟨hpc, hsp, hq, -, -, rfl⟩
  · -- a message: its ack is now pending
    refine ⟨?_, hord, fun hd => absurd (hdrain hd).1 (by rw [hpc]; simp)⟩
    simp only [hpc, Pc.pending, List.append_nil, okMessages_append_ok] at hacc ⊢
    exact hacc.append_right _
  · -- a transport error changes nothing that is counted
    exact ⟨by simpa using hacc, hord, fun hd => absurd (hdrain hd).1 (by rw [hpc]; simp)⟩
  · -- the end of the stream
    exact ⟨by simpa [hpc, Pc.pending] using hacc, hord, fun hd => absurd (hdrain hd).1 (by rw [hpc]; simp)⟩
  · -- the ack returned: the task is spawned
    refine ⟨?_, hord, fun hd => absurd (hdrain hd).1 (by rw [hpc]; simp)⟩
    simpa [hpc, Pc.pending, List.append_assoc] using hacc
  · -- a task runs: its activity joins the channel
    have hne : s.spawned ≠ [] := fun he => by simp [he] at hi
    refine ⟨?_, ?_, fun hd => absurd (hdrain hd).2.1 hne⟩
    · refine List.Perm.trans ?_ hacc
      simp only [List.append_assoc, List.singleton_append]
      exact List.Perm.append_left _ (((perm_cons_eraseIdx _ i hi).append_right _).symm)
    · rw [← List.append_assoc, hord, List.filterMap_append]
      cases hd : decode serde msg <;> simp [hd]
  · -- the multiplexer task broadcasts the head of the channel
    refine ⟨hacc, by rw [List.append_assoc, List.singleton_append, ← hq]; exact hord, ?_⟩
    intro hd; simp [hdone] at hd
  · -- the channel is closed and drained
    exact ⟨hacc, hord, fun _ => ⟨hpc, hsp, hq⟩⟩

theorem fanOutInv_reachable (h : Reachable serde s) : FanOutInv serde s :=
  Reachable.induct (FanOutInv serde)
    (show FanOutInv serde State.init from ⟨by simp [State.init, Pc.pending, okMessages], rfl, fun h => by cases h⟩)
    (fun _ _ _ hs hstep => fanOutInv_step hstep hs) h

/-! ### What the loops do with failures -/

/-- A task is spawned only when the loop was awaiting that message's ack and the ack
returned. -/
theorem spawn_after_ack (h : step serde s a = some s') (hlen : s.spawned.length < s'.spawned.length) :
    ∃ msg ok, s.pc = .ack msg ∧ a = .ack ok ∧ s'.spawned = s.spawned ++ [msg] := by
  rcases step_cases h with ⟨_, _, _, rfl⟩ | ⟨_, _, _, rfl⟩ | ⟨_, _, rfl⟩ | ⟨msg, ok, hpc, rfl, rfl⟩ |
    ⟨i, msg, _, hi, rfl⟩ | ⟨_, _, _, _, _, _, rfl⟩ | ⟨_, _, _, _, _, rfl⟩
  all_goals first | exact absurd hlen (lt_irrefl _) | skip
  · exact ⟨msg, ok, hpc, rfl, rfl⟩
  · have : i < s.spawned.length := (List.getElem?_eq_some_iff.mp hi).1
    simp [List.length_eraseIdx, this] at hlen
    omega

/-- Only the end of the stream ends `process_messages`: no ack outcome, decode
failure or transport error does. -/
theorem ended_only_at_end (h : step serde s a = some s') (hpc : s.pc ≠ .ended) (hend : s'.pc = .ended) :
    a = .next none := by
  rcases step_cases h with ⟨_, _, _, rfl⟩ | ⟨_, _, _, rfl⟩ | ⟨_, rfl, rfl⟩ | ⟨_, _, _, _, rfl⟩ |
    ⟨_, _, _, _, rfl⟩ | ⟨_, _, _, _, _, _, rfl⟩ | ⟨_, _, _, _, _, rfl⟩
  all_goals first | rfl | exact absurd hend hpc | simp at hend

/-- Only a closed, drained channel ends `ActivityMultiplexerTask::process`: no send
without receivers does. -/
theorem processDone_only_at_close (h : step serde s a = some s') (hd : s.processDone = false)
    (hd' : s'.processDone = true) :
    a = .close ∧ s.pc = .ended ∧ s.spawned = [] ∧ s.queue = [] := by
  rcases step_cases h with ⟨_, _, _, rfl⟩ | ⟨_, _, _, rfl⟩ | ⟨_, _, rfl⟩ | ⟨_, _, _, _, rfl⟩ |
    ⟨_, _, _, _, rfl⟩ | ⟨_, _, _, _, _, _, rfl⟩ | ⟨hpc, hsp, hq, -, rfl, rfl⟩
  all_goals first | exact ⟨rfl, hpc, hsp, hq⟩ | simp [hd] at hd'

/-- **No loss, no duplication.**  Once the stream has ended and every spawned task,
the multiplexer task included, has finished, the broadcast sends are the decodings of
the messages the consumer yielded, each once.  Every task is spawned after its
message's ack returned, and neither loop ends on an ack failure, a decode failure, a
transport error or a send without receivers. -/
theorem fan_out_delivers_each_once :
    (∀ s, Reachable serde s → s.pc = .ended → s.spawned = [] → s.processDone = true →
      s.broadcast.Perm ((okMessages s.items).filterMap (decode serde))) ∧
    (∀ (s : State S) a s', step serde s a = some s' → s.spawned.length < s'.spawned.length →
      ∃ msg ok, s.pc = .ack msg ∧ a = .ack ok ∧ s'.spawned = s.spawned ++ [msg]) ∧
    (∀ (s : State S) a s', step serde s a = some s' → s.pc ≠ .ended → s'.pc = .ended → a = .next none) ∧
    (∀ (s : State S) a s', step serde s a = some s' → s.processDone = false → s'.processDone = true →
      a = .close ∧ s.pc = .ended ∧ s.spawned = [] ∧ s.queue = []) := by
  refine ⟨fun s h hend hsp hdone => ?_, fun _ _ _ => spawn_after_ack, fun _ _ _ => ended_only_at_end,
    fun _ _ _ => processDone_only_at_close⟩
  obtain ⟨hacc, hord, hdrain⟩ := fanOutInv_reachable h
  rw [(hdrain hdone).2.2, List.append_nil] at hord
  rw [hord]
  simpa [hend, hsp, Pc.pending] using hacc.filterMap (decode serde)

/-- Two rebase-finished activities of one subject, and the messages that carry them. -/
def firstActivity : Activity unitSchema := .rebaseFinished ⟨⟨1, by decide⟩⟩ () () ⟨⟨0, by decide⟩⟩

def secondActivity : Activity unitSchema := .rebaseFinished ⟨⟨2, by decide⟩⟩ () () ⟨⟨0, by decide⟩⟩

def firstMessage : Message := ⟨"rebase.finished", toStdvec unitSchemaSerde firstActivity⟩

def secondMessage : Message := ⟨"rebase.finished", toStdvec unitSchemaSerde secondActivity⟩

/-- One message received, acked, run and broadcast; then the stream ends and the
multiplexer task returns. -/
def deliveredRun : List Action :=
  [.next (some (.ok firstMessage)), .ack true, .runTask 0, .recv true, .next none, .close]

def deliveredState : State unitSchema :=
  ⟨.ended, [], [], true, [firstActivity], [.ok firstMessage], [firstMessage]⟩

theorem fan_out_delivers_each_once_sample :
    Reachable unitSchemaSerde deliveredState ∧ deliveredState.pc = .ended ∧ deliveredState.spawned = [] ∧
      deliveredState.processDone = true ∧
      deliveredState.broadcast.Perm ((okMessages deliveredState.items).filterMap (decode unitSchemaSerde)) :=
  have h : Reachable unitSchemaSerde deliveredState :=
    reachable_of_run (show run (step unitSchemaSerde) .init deliveredRun = some deliveredState from rfl)
  ⟨h, rfl, rfl, rfl, fan_out_delivers_each_once.1 _ h rfl rfl rfl⟩

/-- The multiplexer task can always finish once the stream has ended and every
per-message task has run: it broadcasts what is buffered and returns. -/
theorem drain (hend : s.pc = .ended) (hsp : s.spawned = []) (hd : s.processDone = false) :
    ∃ s', run (step serde) s (s.queue.map (fun _ => .recv true) ++ [.close]) = some s' ∧
      s'.processDone = true ∧ s'.broadcast = s.broadcast ++ s.queue ∧ s'.items = s.items := by
  obtain ⟨pc, spawned, queue, done, broadcast, items, ran⟩ := s
  simp only at hend hsp hd
  subst hend hsp hd
  induction queue generalizing broadcast with
  | nil => exact ⟨_, rfl, rfl, by simp, rfl⟩
  | cons x rest ih =>
    obtain ⟨s', hrun, hdone, hb, hitems⟩ := ih (broadcast ++ [x])
    exact ⟨s', hrun, hdone, by simpa using hb, hitems⟩

/-! ### Order -/

/-- Any pending task may run next. -/
theorem runTask_enabled {i : Nat} (hi : i < s.spawned.length) : ∃ s', step serde s (.runTask i) = some s' := by
  simp [step, List.getElem?_eq_getElem hi]

/-- **Broadcast order is run order.**  In every reachable state, the activities sent on
the stream's channel, and so broadcast, are the decodings of the spawned tasks in the
order the scheduler ran them; and any pending task may be the next to run. -/
theorem broadcast_in_run_order :
    (∀ s, Reachable serde s → s.broadcast ++ s.queue = s.ran.filterMap (decode serde)) ∧
    (∀ (s : State S) i, i < s.spawned.length → ∃ s', step serde s (.runTask i) = some s') :=
  ⟨fun _ h => (fanOutInv_reachable h).inOrder, fun _ _ hi => runTask_enabled hi⟩

/-- Both messages acked and spawned, then the second task scheduled first. -/
def reorderRun : List Action :=
  [.next (some (.ok firstMessage)), .ack true, .next (some (.ok secondMessage)), .ack true,
    .runTask 1, .runTask 0, .recv true, .recv true]

/-- Received first, broadcast second. -/
theorem later_message_broadcast_first :
    firstMessage.subject = secondMessage.subject ∧
      (run (step unitSchemaSerde) .init reorderRun).map
        (fun s => (okMessages s.items, s.broadcast.map Activity.id)) =
        some ([firstMessage, secondMessage], [secondActivity.id, firstActivity.id]) := by
  decide

end LayerCache.ActivityStream
