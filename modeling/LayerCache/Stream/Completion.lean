/-
What the fan-out path has delivered at any moment, and that it can always finish.

`FanOutInv` holds in every reachable state, so the no-duplication half of the
fan-out guarantee needs no waiting: at every moment the broadcast sends are a
sub-multiset of the decodings of the messages the consumer has yielded so far.
No activity is broadcast that was not received, and none more often than it was
received, while tasks are still pending and the channel still holds some.

The no-loss half needs the run to go on, and here it always can.  From any
reachable state, if the bus now ends the stream, the ack in flight returns, the
loop returns, the scheduler runs the spawned tasks one after another, and the
multiplexer task drains its channel and returns.  Every decodable message
received has then been broadcast exactly once.
-/
import LayerCache.Stream

namespace LayerCache.ActivityStream

open Postcard

variable {S : Schema} {serde : SchemaSerde S} {s : State S}

/-! ### At any moment -/

/-- **Nothing extra, at any moment.**  In every reachable state the broadcast sends
are a sub-multiset of the decodings of the messages yielded so far. -/
theorem broadcast_subperm_received (h : Reachable serde s) :
    s.broadcast.Subperm ((okMessages s.items).filterMap (decode serde)) := by
  obtain ⟨hacc, hord, -⟩ := fanOutInv_reachable h
  have hperm := hacc.filterMap (decode serde)
  rw [List.filterMap_append, List.filterMap_append, ← hord, List.append_assoc, List.append_assoc] at hperm
  exact (List.sublist_append_left _ _).subperm.trans hperm.subperm

/-! ### Finishing -/

/-- The bus can end the stream from anywhere: the ack in flight returns first. -/
theorem exists_run_ended (s : State S) :
    ∃ as t, run (step serde) s as = some t ∧ t.pc = .ended ∧ t.processDone = s.processDone ∧
      t.items = s.items := by
  cases hpc : s.pc with
  | next => exact ⟨[.next none], { s with pc := .ended }, by simp [run, step, hpc], rfl, rfl, rfl⟩
  | ack msg =>
    exact ⟨[.ack true, .next none], { s with pc := .ended, spawned := s.spawned ++ [msg] },
      by simp [run, step, hpc], rfl, rfl, rfl⟩
  | ended => exact ⟨[], s, rfl, hpc, rfl, rfl⟩

/-- Running the task at the head of the spawned list, once per task, runs them all. -/
theorem run_runTask_zero (s : State S) :
    ∃ t, run (step serde) s (List.replicate s.spawned.length (.runTask 0)) = some t ∧
      t.pc = s.pc ∧ t.spawned = [] ∧ t.processDone = s.processDone ∧ t.items = s.items := by
  obtain ⟨pc, spawned, queue, done, broadcast, items, ran⟩ := s
  induction spawned generalizing queue ran with
  | nil => exact ⟨_, rfl, rfl, rfl, rfl, rfl⟩
  | cons msg rest ih =>
    obtain ⟨t, hrun, hpc, hsp, hd, hitems⟩ := ih (queue ++ (decode serde msg).toList) (ran ++ [msg])
    refine ⟨t, ?_, hpc, hsp, hd, hitems⟩
    rw [List.length_cons, List.replicate_succ, run]
    simpa only [step, List.getElem?_cons_zero, List.eraseIdx_cons_zero, processMessage_queue,
      Option.some_bind] using hrun

/-- From a reachable state whose multiplexer task is running: the bus ends the
stream, the scheduler runs every pending task, and the task drains its channel and
returns, having broadcast everything it was sent. -/
theorem exists_run_done (h : Reachable serde s) (hd : s.processDone = false) :
    ∃ as s', run (step serde) s as = some s' ∧ s'.processDone = true ∧
      s'.broadcast.Perm ((okMessages s.items).filterMap (decode serde)) := by
  obtain ⟨as₁, t, h₁, htpc, htd, hti⟩ := @exists_run_ended S serde s
  obtain ⟨u, h₂, hupc, husp, hud, hui⟩ := @run_runTask_zero S serde t
  obtain ⟨v, h₃, hvd, -, hvi⟩ := @drain S serde u (hupc.trans htpc) husp (hud.trans (htd.trans hd))
  have hrun : run (step serde) s (as₁ ++ List.replicate t.spawned.length (.runTask 0) ++
      (u.queue.map (fun _ => .recv true) ++ [.close])) = some v := by
    rw [run_append, run_append, h₁, Option.some_bind, h₂, Option.some_bind, h₃]
  refine ⟨_, v, hrun, hvd, ?_⟩
  obtain ⟨hacc, hord, hdrain⟩ := fanOutInv_reachable (reachable_run h _ hrun)
  obtain ⟨hvpc, hvsp, hvq⟩ := hdrain hvd
  rw [hvq, List.append_nil] at hord
  rw [← hti, ← hui, ← hvi, hord]
  simpa [hvpc, hvsp, Pc.pending] using hacc.filterMap (decode serde)

/-- **The path can always finish.**  From every reachable state in which the
multiplexer task has not returned, there is a continuation, the bus ending the
stream and the scheduler running everything pending, after which the multiplexer
task has returned and has broadcast the decodings of all the messages received,
each exactly once. -/
theorem fan_out_completes (h : Reachable serde s) (hd : s.processDone = false) :
    ∃ as s', run (step serde) s as = some s' ∧ s'.processDone = true ∧
      s'.broadcast.Perm ((okMessages s.items).filterMap (decode serde)) :=
  exists_run_done h hd

/-- A rebase request, received and acked; its task is spawned and has not run. -/
def pendingActivity : Activity unitSchema := .rebase ⟨⟨3, by decide⟩⟩ () ()

def pendingMessage : Message := ⟨"rebase.request", toStdvec unitSchemaSerde pendingActivity⟩

def pendingState : State unitSchema :=
  ⟨.next, [pendingMessage], [], false, [], [.ok pendingMessage], []⟩

theorem pendingState_reachable : Reachable unitSchemaSerde pendingState :=
  reachable_of_run (show run (step unitSchemaSerde) .init [.next (some (.ok pendingMessage)), .ack true] =
    some pendingState from rfl)

/-- Two messages received and acked: the first one's task has run and its activity is
broadcast, the second one's task is pending. -/
def halfwayState : State unitSchema :=
  ⟨.next, [secondMessage], [], false, [firstActivity], [.ok firstMessage, .ok secondMessage], [firstMessage]⟩

theorem broadcast_subperm_received_sample :
    Reachable unitSchemaSerde halfwayState ∧
      halfwayState.broadcast.Subperm ((okMessages halfwayState.items).filterMap (decode unitSchemaSerde)) :=
  have h : Reachable unitSchemaSerde halfwayState :=
    reachable_of_run (show run (step unitSchemaSerde) .init [.next (some (.ok firstMessage)), .ack true,
      .runTask 0, .recv true, .next (some (.ok secondMessage)), .ack true] = some halfwayState from rfl)
  ⟨h, broadcast_subperm_received h⟩

theorem fan_out_completes_sample :
    Reachable unitSchemaSerde pendingState ∧ pendingState.processDone = false ∧
      ∃ as s', run (step unitSchemaSerde) pendingState as = some s' ∧ s'.processDone = true ∧
        s'.broadcast.Perm ((okMessages pendingState.items).filterMap (decode unitSchemaSerde)) :=
  ⟨pendingState_reachable, rfl, fan_out_completes pendingState_reachable rfl⟩

end LayerCache.ActivityStream
