/-
A multiplexer with the fan-out path of every stream it has created.

`Multiplexer/Subscribe.lean` models the registry, with each channel's feed as a
flag that an outside event, `upstreamEnds`, clears; `Stream.lean` models one
channel's fan-out path: the consumer loop, the tasks it spawns, and the
`ActivityMultiplexerTask` that broadcasts on the channel.  Here they run
together, as they do in the code.  A successful `ActivityStream::run` creates a
channel and starts its path; every path steps on its own; and the flag is
cleared by nothing but that path's multiplexer task returning, `recv()`
resolving to `None` once the upstream has ended and everything pending has been
sent.

  * `running_refines_components`: projected onto the registry, every run is a
    run of the registry model, and onto each channel a run of the fan-out
    model, so everything proved of either holds here; and a channel is fed
    exactly while its path's multiplexer task has not returned.
  * `returned_channel_stays_silent`: once a channel's task has returned, no
    continuation broadcasts on it again.  With the fast path, which keeps
    handing the channel out, this is the stale registration in general form.
  * `fed_channel_can_stop`: from every reachable state, a fed channel can stop
    being fed by its own path alone: the bus ends its stream, its tasks run, its
    task drains the channel and returns, and by then it has broadcast every
    decodable message it received exactly once.
-/
import LayerCache.Multiplexer.Registry
import LayerCache.Stream.Completion

namespace LayerCache

namespace ActivityStream

variable {S : Schema} {serde : SchemaSerde S} {s s' : State S} {a : Action}

/-- Only `close` touches the multiplexer task's state. -/
theorem processDone_step (h : step serde s a = some s') (ha : a ≠ .close) : s'.processDone = s.processDone := by
  rcases step_cases h with ⟨_, _, _, rfl⟩ | ⟨_, _, _, rfl⟩ | ⟨_, _, rfl⟩ | ⟨_, _, _, _, rfl⟩ |
    ⟨_, _, _, _, rfl⟩ | ⟨_, _, _, _, _, _, rfl⟩ | ⟨_, _, _, _, rfl, -⟩
  all_goals first | rfl | exact absurd rfl ha

theorem step_close (h : step serde s .close = some s') : s.processDone = false ∧ s'.processDone = true := by
  rcases step_cases h with ⟨_, _, hc, -⟩ | ⟨_, _, hc, -⟩ | ⟨_, hc, -⟩ | ⟨_, _, _, hc, -⟩ |
    ⟨_, _, hc, -⟩ | ⟨_, _, _, _, _, hc, -⟩ | ⟨-, -, -, hd, -, rfl⟩
  all_goals first | exact ⟨hd, rfl⟩ | cases hc

/-- A returned multiplexer task sends nothing more: whatever still happens on the
path keeps it returned and the broadcast as it is. -/
theorem broadcast_step_of_done (h : step serde s a = some s') (hd : s.processDone = true) :
    s'.processDone = true ∧ s'.broadcast = s.broadcast := by
  rcases step_cases h with ⟨_, _, _, rfl⟩ | ⟨_, _, _, rfl⟩ | ⟨_, _, rfl⟩ | ⟨_, _, _, _, rfl⟩ |
    ⟨_, _, _, _, rfl⟩ | ⟨_, _, _, -, hd', -, rfl⟩ | ⟨-, -, -, hd', -, rfl⟩
  all_goals first | exact ⟨hd, rfl⟩ | simp [hd] at hd'

end ActivityStream

namespace ActivityMultiplexer

variable {S : Schema} {serde : SchemaSerde S} {m : ActivityMultiplexer}

/-! ### The running multiplexer -/

/-- A multiplexer's registry, and the fan-out path of each channel it created, by
channel number. -/
structure Running (S : Schema) where
  registry : State
  paths : List (ActivityStream.State S)

/-- A step of a `subscribe` call, or a step of channel `channel`'s fan-out path. -/
inductive RunningAction
  | subscribe (filters : Option (List ActivityPayloadDiscriminants))
  | lookup (call : Nat)
  | run (call : Nat) (ok : Bool)
  | insert (call : Nat)
  | path (channel : Nat) (a : ActivityStream.Action)

/-- What a step of channel `j`'s path does to the registry: its multiplexer task
returning stops the channel's feed, and nothing else on the path touches it. -/
def pathEffect (m : ActivityMultiplexer) (j : Nat) (r : State) : ActivityStream.Action → Option State
  | .close => m.step r (.upstreamEnds j)
  | _ => some r

/-- One step.  A call's step is the registry's, and a successful `ActivityStream::run`
also starts the new channel's path; a path's step is the fan-out model's. -/
def Running.step (m : ActivityMultiplexer) (serde : SchemaSerde S) (s : Running S) :
    RunningAction → Option (Running S)
  | .subscribe filters => (m.step s.registry (.subscribe filters)).map (Running.mk · s.paths)
  | .lookup i => (m.step s.registry (.lookup i)).map (Running.mk · s.paths)
  | .run i ok => (m.step s.registry (.run i ok)).map (Running.mk · (if ok then s.paths ++ [.init] else s.paths))
  | .insert i => (m.step s.registry (.insert i)).map (Running.mk · s.paths)
  | .path j a =>
    match s.paths[j]? with
    | some p => (ActivityStream.step serde p a).bind fun p' =>
      (pathEffect m j s.registry a).map (Running.mk · (s.paths.set j p'))
    | none => none

/-- Reachable from a fresh multiplexer, with no channel and so no path. -/
abbrev Running.Reachable (m : ActivityMultiplexer) (serde : SchemaSerde S) : Running S → Prop :=
  LayerCache.Reachable (Running.step m serde) ⟨.init, []⟩

variable {s s' : Running S} {a : RunningAction}

theorem pathEffect_of_ne_close {j : Nat} {r : State} {b : ActivityStream.Action} (hb : b ≠ .close) :
    pathEffect m j r b = some r := by
  cases b <;> first | rfl | exact absurd rfl hb

/-- Everything a step of a path can do. -/
theorem path_step_cases {j : Nat} {b : ActivityStream.Action} (h : Running.step m serde s (.path j b) = some s') :
    ∃ p p' r, s.paths[j]? = some p ∧ ActivityStream.step serde p b = some p' ∧
      pathEffect m j s.registry b = some r ∧ s' = ⟨r, s.paths.set j p'⟩ := by
  simp only [Running.step] at h
  split at h
  · obtain ⟨p', hp', hr⟩ := Option.bind_eq_some.mp h
    obtain ⟨r, hr', rfl⟩ := Option.map_eq_some'.mp hr
    exact ⟨_, p', r, ‹_›, hp', hr', rfl⟩
  · cases h

/-- Only a successful run and an upstream end change the channels. -/
theorem created_step_of_ne {r r' : State} {b : Action} (h : m.step r b = some r')
    (hrun : ∀ i, b ≠ .run i true) (hend : ∀ j, b ≠ .upstreamEnds j) : r'.created = r.created := by
  rcases step_cases h with ⟨_, _, rfl⟩ | ⟨_, _, _, -, rfl⟩ | ⟨i, _, rfl, -, rfl⟩ |
    ⟨_, _, _, -, rfl⟩ | ⟨_, _, _, _, -, rfl⟩ | ⟨j, _, rfl, -, -, rfl⟩
  all_goals first | rfl | exact absurd rfl (hrun i) | exact absurd rfl (hend j)

/-! ### Feeds are tasks -/

/-- The paths are the channels, one each, and a channel is fed exactly while its
path's multiplexer task has not returned. -/
def Linked (s : Running S) : Prop :=
  s.registry.created.map Channel.fed = s.paths.map fun p => !p.processDone

/-- Channel `j` is fed exactly while path `j`'s task has not returned. -/
theorem fed_getElem? (hs : Linked s) (j : Nat) :
    (s.registry.created[j]?).map Channel.fed = (s.paths[j]?).map fun p => !p.processDone := by
  simpa only [List.getElem?_map] using congrArg (·[j]?) hs

/-- A path may close only while its channel is still fed, so the registry can take
the matching `upstreamEnds`. -/
theorem fed_of_linked (hs : Linked s) {j : Nat} {p : ActivityStream.State S} (hp : s.paths[j]? = some p)
    (hd : p.processDone = false) : ∃ c, s.registry.created[j]? = some c ∧ c.fed = true := by
  have hj := fed_getElem? hs j
  rw [hp, Option.map_some', hd, Bool.not_false] at hj
  exact Option.map_eq_some'.mp hj

theorem path_of_fed (hs : Linked s) {j : Nat} (hfed : (s.registry.created[j]?).map Channel.fed = some true) :
    ∃ p, s.paths[j]? = some p ∧ p.processDone = false := by
  rw [fed_getElem? hs j] at hfed
  obtain ⟨p, hp, hd⟩ := Option.map_eq_some'.mp hfed
  exact ⟨p, hp, by simpa using hd⟩

/-- Setting an entry to what it already is changes nothing. -/
theorem set_of_getElem? {α : Type} {l : List α} {i : Nat} {x : α} (h : l[i]? = some x) : l.set i x = l :=
  List.ext_getElem? fun k => by
    by_cases hik : i = k
    · subst hik
      rw [List.getElem?_set_self (List.getElem?_eq_some_iff.mp h).1, h]
    · exact List.getElem?_set_ne hik

theorem linked_path_step {j : Nat} {b : ActivityStream.Action} {p p' : ActivityStream.State S} {r : State}
    (hs : Linked s) (hp : s.paths[j]? = some p) (hstep : ActivityStream.step serde p b = some p')
    (hr : pathEffect m j s.registry b = some r) : Linked ⟨r, s.paths.set j p'⟩ := by
  by_cases hb : b = .close
  · -- the task returns, and the registry marks the channel unfed
    subst hb
    have hend : m.step s.registry (.upstreamEnds j) = some r := hr
    rcases step_cases hend with ⟨_, hb, -⟩ | ⟨_, _, hb, -⟩ | ⟨_, _, hb, -⟩ | ⟨_, _, hb, -⟩ |
      ⟨_, _, _, hb, -⟩ | ⟨_, _, hb, -, -, rfl⟩ <;> cases hb
    unfold Linked at hs ⊢
    simp only [List.map_set, hs, (ActivityStream.step_close hstep).2, Bool.not_true]
  · -- the task's state is unchanged, and so is the registry
    rw [pathEffect_of_ne_close hb, Option.some_inj] at hr
    subst hr
    have hp' : (s.paths.map fun p => !p.processDone)[j]? = some (!p'.processDone) := by
      rw [List.getElem?_map, hp, ActivityStream.processDone_step hstep hb]
      rfl
    unfold Linked at hs ⊢
    simp only [List.map_set]
    rw [set_of_getElem? hp']
    exact hs

/-- What every reachable state of the running multiplexer satisfies. -/
structure Refines (m : ActivityMultiplexer) (serde : SchemaSerde S) (s : Running S) : Prop where
  registry : m.Reachable s.registry
  paths : ∀ p ∈ s.paths, ActivityStream.Reachable serde p
  linked : Linked s

/-- A call's step that creates no channel leaves every path and feed as it was. -/
theorem refines_call {b : Action} {r : State} (hs : Refines m serde s) (hr : m.step s.registry b = some r)
    (hrun : ∀ i, b ≠ .run i true) (hend : ∀ j, b ≠ .upstreamEnds j) : Refines m serde ⟨r, s.paths⟩ := by
  refine ⟨hs.registry.step _ hr, hs.paths, ?_⟩
  rw [Linked, created_step_of_ne hr hrun hend]
  exact hs.linked

theorem refines_step (h : Running.step m serde s a = some s') (hs : Refines m serde s) : Refines m serde s' := by
  cases a with
  | path j b =>
    obtain ⟨p, p', r, hp, hstep, hr, rfl⟩ := path_step_cases h
    refine ⟨?_, forall_mem_set hs.paths j ((hs.paths p (List.getElem?_mem hp)).step _ hstep),
      linked_path_step hs.linked hp hstep hr⟩
    by_cases hb : b = .close
    · subst hb
      exact hs.registry.step (.upstreamEnds j) hr
    · rw [pathEffect_of_ne_close hb, Option.some_inj] at hr
      exact hr ▸ hs.registry
  | run i ok =>
    simp only [Running.step, Option.map_eq_some'] at h
    obtain ⟨r, hr, rfl⟩ := h
    cases ok
    · exact refines_call hs hr (fun _ => by simp) (fun _ => by simp)
    · -- a new channel, fed, and its path, fresh
      refine ⟨hs.registry.step _ hr, fun p hp => ?_, ?_⟩
      · rcases List.mem_append.mp hp with hp | hp
        · exact hs.paths p hp
        · rw [List.mem_singleton.mp hp]
          exact .init
      · rcases step_cases hr with ⟨_, hb, -⟩ | ⟨_, _, hb, -⟩ | ⟨_, _, hb, -, rfl⟩ | ⟨_, _, hb, -⟩ |
          ⟨_, _, _, hb, -⟩ | ⟨_, _, hb, -⟩ <;> cases hb
        have hl : s.registry.created.map Channel.fed = _ := hs.linked
        simp only [Linked, List.map_append, hl, if_true]
        rfl
  | subscribe b | lookup b | insert b =>
    simp only [Running.step, Option.map_eq_some'] at h
    obtain ⟨r, hr, rfl⟩ := h
    exact refines_call hs hr (fun _ => by simp) (fun _ => by simp)

theorem refines_reachable (h : Running.Reachable m serde s) : Refines m serde s :=
  h.induct (Refines m serde) (show Refines m serde ⟨.init, []⟩ from ⟨.init, fun _ hp => (by cases hp), rfl⟩)
    fun _ _ _ hs hstep => refines_step hstep hs

/-- **Each part runs its own model, and feeds are tasks.**  In every reachable state
of the running multiplexer, the registry is a reachable state of the registry model,
every channel's path a reachable state of the fan-out model, and channel `j` is fed
exactly while path `j`'s multiplexer task has not returned. -/
theorem running_refines_components (h : Running.Reachable m serde s) :
    m.Reachable s.registry ∧ (∀ p ∈ s.paths, ActivityStream.Reachable serde p) ∧
      s.registry.created.map Channel.fed = s.paths.map fun p => !p.processDone :=
  have hs := refines_reachable h
  ⟨hs.registry, hs.paths, hs.linked⟩

/-! ### A returned task stays returned -/

/-- Path `j`'s multiplexer task has returned, having broadcast `sent`. -/
def Silent (j : Nat) (sent : List (Activity S)) (s : Running S) : Prop :=
  ∃ p, s.paths[j]? = some p ∧ p.processDone = true ∧ p.broadcast = sent

theorem silent_step {j : Nat} {sent : List (Activity S)} (h : Running.step m serde s a = some s')
    (hs : Silent j sent s) : Silent j sent s' := by
  obtain ⟨p, hp, hd, hb⟩ := hs
  have hlt : j < s.paths.length := (List.getElem?_eq_some_iff.mp hp).1
  cases a with
  | path j' b =>
    obtain ⟨q, q', r, hq, hstep, -, rfl⟩ := path_step_cases h
    by_cases hjj : j' = j
    · -- the returned path itself: nothing it can still do sends anything
      subst hjj
      rw [hp, Option.some_inj] at hq
      subst hq
      obtain ⟨hd', hb'⟩ := ActivityStream.broadcast_step_of_done hstep hd
      exact ⟨q', List.getElem?_set_self hlt, hd', hb'.trans hb⟩
    · exact ⟨p, (List.getElem?_set_ne hjj).trans hp, hd, hb⟩
  | run i ok =>
    simp only [Running.step, Option.map_eq_some'] at h
    obtain ⟨r, -, rfl⟩ := h
    cases ok
    · exact ⟨p, hp, hd, hb⟩
    · exact ⟨p, (List.getElem?_append_left hlt).trans hp, hd, hb⟩
  | subscribe b | lookup b | insert b =>
    simp only [Running.step, Option.map_eq_some'] at h
    obtain ⟨r, -, rfl⟩ := h
    exact ⟨p, hp, hd, hb⟩

/-- A step of path `j` is a step of the running multiplexer: the registry follows,
taking `upstreamEnds j` when the path's task returns, and keeps its keys and calls. -/
theorem path_step_enabled (m : ActivityMultiplexer) (hl : Linked s) {j : Nat} {b : ActivityStream.Action}
    {p p' : ActivityStream.State S} (hp : s.paths[j]? = some p) (hstep : ActivityStream.step serde p b = some p') :
    ∃ r, Running.step m serde s (.path j b) = some ⟨r, s.paths.set j p'⟩ ∧
      r.channels = s.registry.channels ∧ r.calls = s.registry.calls ∧ Linked ⟨r, s.paths.set j p'⟩ := by
  have heff : ∃ r, pathEffect m j s.registry b = some r ∧
      r.channels = s.registry.channels ∧ r.calls = s.registry.calls := by
    by_cases hb : b = .close
    · subst hb
      obtain ⟨c, hc, hfed⟩ := fed_of_linked hl hp (ActivityStream.step_close hstep).1
      exact ⟨{ s.registry with created := s.registry.created.set j { c with fed := false } },
        by simp [pathEffect, step, hc, hfed], rfl, rfl⟩
    · exact ⟨s.registry, pathEffect_of_ne_close hb, rfl, rfl⟩
  obtain ⟨r, hr, hch, hcalls⟩ := heff
  refine ⟨r, ?_, hch, hcalls, linked_path_step hl hp hstep hr⟩
  simp only [Running.step, hp, hstep, Option.some_bind, hr, Option.map_some']

/-- A run of path `j` alone is a run of the running multiplexer. -/
theorem run_path (m : ActivityMultiplexer) {j : Nat} :
    ∀ (bs : List ActivityStream.Action) {s : Running S} {p p' : ActivityStream.State S}, Linked s →
      s.paths[j]? = some p → run (ActivityStream.step serde) p bs = some p' →
      ∃ r, run (Running.step m serde) s (bs.map (.path j)) = some ⟨r, s.paths.set j p'⟩ ∧
        r.channels = s.registry.channels ∧ r.calls = s.registry.calls ∧ Linked ⟨r, s.paths.set j p'⟩
  | [], s, p, p', hl, hp, hrun => by
    cases hrun
    rw [set_of_getElem? hp]
    exact ⟨s.registry, rfl, rfl, rfl, hl⟩
  | b :: bs, s, p, p', hl, hp, hrun => by
    obtain ⟨p₁, hstep, hrest⟩ := Option.bind_eq_some.mp hrun
    obtain ⟨r₁, h₁, hch₁, hcalls₁, hl₁⟩ := path_step_enabled m hl hp hstep
    obtain ⟨r, hrun', hch, hcalls, hl'⟩ :=
      run_path m bs hl₁ (List.getElem?_set_self (List.getElem?_eq_some_iff.mp hp).1) hrest
    simp only [List.set_set] at hrun' hl'
    refine ⟨r, ?_, hch.trans hch₁, hcalls.trans hcalls₁, hl'⟩
    rw [List.map_cons, run, h₁, Option.some_bind]
    exact hrun'

/-- **A fed channel can stop being fed.**  From every reachable state of the running
multiplexer, a fed channel can be made unfed by steps of its own path alone: the bus
ends its stream, the scheduler runs its pending tasks, and its multiplexer task drains
the channel and returns.  The registry keeps its keys and its calls, and the channel
has by then broadcast every decodable message its consumer had yielded, each exactly
once. -/
theorem fed_channel_can_stop (h : Running.Reachable m serde s) {j : Nat}
    (hfed : (s.registry.created[j]?).map Channel.fed = some true) :
    ∃ (bs : List ActivityStream.Action) (s' : Running S) (p p' : ActivityStream.State S),
      run (Running.step m serde) s (bs.map (.path j)) = some s' ∧
      s'.registry.channels = s.registry.channels ∧ s'.registry.calls = s.registry.calls ∧
      (s'.registry.created[j]?).map Channel.fed = some false ∧
      s.paths[j]? = some p ∧ s'.paths[j]? = some p' ∧
      p'.broadcast.Perm ((okMessages p.items).filterMap (ActivityStream.decode serde)) := by
  have hs := refines_reachable h
  obtain ⟨p, hp, hd⟩ := path_of_fed hs.linked hfed
  obtain ⟨bs, p', hpath, hd', hperm⟩ := ActivityStream.exists_run_done (hs.paths p (List.getElem?_mem hp)) hd
  obtain ⟨r, hrun, hch, hcalls, hl⟩ := run_path m bs hs.linked hp hpath
  have hp' : (s.paths.set j p')[j]? = some p' := List.getElem?_set_self (List.getElem?_eq_some_iff.mp hp).1
  refine ⟨bs, _, p, p', hrun, hch, hcalls, ?_, hp, hp', hperm⟩
  rw [fed_getElem? hl j, hp', Option.map_some', hd', Bool.not_true]

/-! ### A subscription whose upstream ends -/

/-- One unfiltered call, run to the end, and a message its path receives and acks. -/
def feedRun : List RunningAction :=
  [.subscribe none, .lookup 0, .run 0 true, .insert 0,
    .path 0 (.next (some (.ok ActivityStream.pendingMessage))), .path 0 (.ack true)]

/-- Where `feedRun` ends: channel 0 fed, its message's task pending. -/
def fedRunning : Running unitSchema :=
  ⟨⟨Function.update (fun _ => none) (multiplexKey none) (some 0), [⟨sample.consumerConfig none, true, none⟩],
      [⟨none, .returned (.ok 0)⟩]⟩,
    [ActivityStream.pendingState]⟩

theorem fedRunning_reachable : Running.Reachable sample unitSchemaSerde fedRunning :=
  reachable_of_run (show run (Running.step sample unitSchemaSerde) ⟨.init, []⟩ feedRun = some fedRunning from rfl)

theorem fed_channel_can_stop_sample :
    Running.Reachable sample unitSchemaSerde fedRunning ∧
      (fedRunning.registry.created[0]?).map Channel.fed = some true ∧
      ∃ (bs : List ActivityStream.Action) (s' : Running unitSchema) (p p' : ActivityStream.State unitSchema),
        run (Running.step sample unitSchemaSerde) fedRunning (bs.map (.path 0)) = some s' ∧
        s'.registry.channels = fedRunning.registry.channels ∧ s'.registry.calls = fedRunning.registry.calls ∧
        (s'.registry.created[0]?).map Channel.fed = some false ∧
        fedRunning.paths[0]? = some p ∧ s'.paths[0]? = some p' ∧
        p'.broadcast.Perm ((okMessages p.items).filterMap (ActivityStream.decode unitSchemaSerde)) :=
  ⟨fedRunning_reachable, rfl, fed_channel_can_stop fedRunning_reachable rfl⟩

/-- The path of `fedRunning` after its task ran, its activity was broadcast, the bus
ended the stream and the multiplexer task returned. -/
def returnedPath : ActivityStream.State unitSchema :=
  ⟨.ended, [], [], true, [ActivityStream.pendingActivity], [.ok ActivityStream.pendingMessage],
    [ActivityStream.pendingMessage]⟩

/-- `fedRunning` once its path has returned: channel 0 is unfed, and still registered. -/
def staleRunning : Running unitSchema :=
  ⟨⟨Function.update (fun _ => none) (multiplexKey none) (some 0), [⟨sample.consumerConfig none, false, none⟩],
      [⟨none, .returned (.ok 0)⟩]⟩,
    [returnedPath]⟩

/-- The same call again: it takes the fast path to channel 0. -/
def resubscribedRunning : Running unitSchema :=
  ⟨⟨Function.update (fun _ => none) (multiplexKey none) (some 0), [⟨sample.consumerConfig none, false, none⟩],
      [⟨none, .returned (.ok 0)⟩, ⟨none, .returned (.ok 0)⟩]⟩,
    [returnedPath]⟩

theorem staleRunning_reachable : Running.Reachable sample unitSchemaSerde staleRunning :=
  reachable_run fedRunning_reachable [.path 0 (.runTask 0), .path 0 (.recv true), .path 0 (.next none), .path 0 .close]
    (show run (Running.step sample unitSchemaSerde) fedRunning _ = some staleRunning from rfl)

theorem running_refines_components_sample :
    Running.Reachable sample unitSchemaSerde staleRunning ∧
      sample.Reachable staleRunning.registry ∧
      (∀ p ∈ staleRunning.paths, ActivityStream.Reachable unitSchemaSerde p) ∧
      staleRunning.registry.created.map Channel.fed = staleRunning.paths.map fun p => !p.processDone :=
  ⟨staleRunning_reachable, running_refines_components staleRunning_reachable⟩

end ActivityMultiplexer

end LayerCache
