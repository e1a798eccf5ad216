/-
What the multiplexer's registry guarantees, over every interleaving.

`FilterSafe` is the invariant: every channel's stream was created with the
consumer of the filter argument it was created for, every key in `channels`
names a channel created for a filter argument with that key, and every call past
its `run` holds a channel created for its own filter argument.  A lookup that
hits hands back a channel created for a filter with the same key, which
`multiplexKey_injective` turns into the same filter.  So whatever the
interleaving, a receiver is always on a channel whose stream filters exactly the
subjects asked for (`subscribe_receiver_filter_subjects`).

What the registry does not do is also settled here, each at a concrete run of
the model:

  * nothing serialises the lookup with the insert, so two calls with one key can
    both miss, both create a stream, and the second insert replaces the first
    sender (`concurrent_subscribe_creates_two_streams`);
  * every stream a multiplexer creates gets the consumer name of its instance
    id, whatever the filter (`distinct_keys_share_consumer_name`, which also
    proves it of every reachable state);
  * the registry is insert-only, so a channel whose upstream ended stays
    registered and a later `subscribe` is handed a receiver on it
    (`resubscribe_after_upstream_end_gets_unfed_channel`);
  * the key is the list, not the set, of filter kinds
    (`same_kinds_other_order_second_stream`).
-/
import LayerCache.Multiplexer.Subscribe

namespace LayerCache.ActivityMultiplexer

variable {m : ActivityMultiplexer} {s s' : State} {a : Action}

/-! ### Channels keep their filter -/

/-- Channel `j` exists and was created for filter argument `filters`. -/
def State.FiltersAt (s : State) (j : Nat) (filters : Option (List ActivityPayloadDiscriminants)) : Prop :=
  (s.created[j]?).map Channel.filters = some filters

/-- A step keeps every channel there is, at most marking it unfed. -/
theorem created_getElem?_step (h : m.step s a = some s') {j : Nat} {ch : Channel}
    (hj : s.created[j]? = some ch) :
    s'.created[j]? = some ch ∨ s'.created[j]? = some { ch with fed := false } := by
  have hlt : j < s.created.length := (List.getElem?_eq_some_iff.mp hj).1
  rcases step_cases h with ⟨_, rfl, rfl⟩ | ⟨_, _, rfl, -, rfl⟩ | ⟨_, _, rfl, -, rfl⟩ |
    ⟨_, _, rfl, -, rfl⟩ | ⟨_, _, _, rfl, -, rfl⟩ | ⟨j', c, rfl, hj', -, rfl⟩
  · exact .inl hj
  · exact .inl hj
  · exact .inl ((List.getElem?_append_left hlt).trans hj)
  · exact .inl hj
  · exact .inl hj
  · by_cases hjj : j' = j
    · subst hjj
      rw [hj] at hj'
      cases hj'
      exact .inr (List.getElem?_set_self hlt)
    · exact .inl ((List.getElem?_set_ne hjj).trans hj)

theorem filtersAt_step (h : m.step s a = some s') {j : Nat}
    {filters : Option (List ActivityPayloadDiscriminants)} (hc : s.FiltersAt j filters) :
    s'.FiltersAt j filters := by
  obtain ⟨ch, hj, rfl⟩ := Option.map_eq_some'.mp hc
  rcases created_getElem?_step h hj with h' | h' <;> rw [State.FiltersAt, h'] <;> rfl

/-- A call that holds a channel holds one created for its own filter argument. -/
def Holds (s : State) (c : SubscribeCall) : Prop :=
  ∀ j, (c.pc = .insert j ∨ c.pc = .returned (.ok j)) → s.FiltersAt j c.filters

theorem holds_step (h : m.step s a = some s') {c : SubscribeCall} (hc : Holds s c) : Holds s' c :=
  fun j hj => filtersAt_step h (hc j hj)

theorem forall_mem_set {α : Type} {P : α → Prop} {l : List α} (hl : ∀ c ∈ l, P c) (i : Nat)
    {c' : α} (hc' : P c') : ∀ c ∈ l.set i c', P c :=
  fun c hc => (List.mem_or_eq_of_mem_set hc).elim (hl c) fun h => h ▸ hc'

/-! ### Filter safety -/

/-- Every channel has the consumer of the filter it was created for, every registered
key names a channel created for a filter with that key, and every call past its `run`
holds a channel created for its own filter. -/
structure FilterSafe (m : ActivityMultiplexer) (s : State) : Prop where
  configured : ∀ ch ∈ s.created, ch.config = m.consumerConfig ch.filters
  registered : ∀ k j, s.channels k = some j → ∃ filters, multiplexKey filters = k ∧ s.FiltersAt j filters
  held : ∀ c ∈ s.calls, Holds s c

theorem filterSafe_step (h : m.step s a = some s') (hs : FilterSafe m s) : FilterSafe m s' := by
  have old : ∀ c ∈ s.calls, Holds s' c := fun c hc => holds_step h (hs.held c hc)
  have reg : ∀ k j, s.channels k = some j → ∃ filters, multiplexKey filters = k ∧ s'.FiltersAt j filters :=
    fun k j hk => (hs.registered k j hk).imp fun _ hf => ⟨hf.1, filtersAt_step h hf.2⟩
  rcases step_cases h with ⟨f, rfl, rfl⟩ | ⟨i, f, rfl, -, rfl⟩ | ⟨i, f, rfl, -, rfl⟩ |
    ⟨i, f, rfl, -, rfl⟩ | ⟨i, f, j, rfl, hi, rfl⟩ | ⟨j, c, rfl, hj, -, rfl⟩
  · -- subscribe: the new call holds nothing yet
    refine ⟨hs.configured, reg, fun c hc => ?_⟩
    rcases List.mem_append.mp hc with hc | hc
    · exact old c hc
    · rw [List.mem_singleton.mp hc]
      rintro j (hj | hj) <;> cases hj
  · -- lookup: a hit is a channel of the same key, so of the same filter
    refine ⟨hs.configured, reg, forall_mem_set old i ?_⟩
    intro j hj
    simp only [lookupPc] at hj
    split at hj
    · rename_i j' hk
      obtain ⟨g, hg, hfil⟩ := reg _ _ hk
      rcases hj with hj | hj <;> cases hj
      rwa [multiplexKey_injective hg] at hfil
    · rcases hj with hj | hj <;> cases hj
  · -- a successful run: a new channel, configured for the call's filter, which it holds
    refine ⟨fun ch hch => ?_, reg, forall_mem_set old i ?_⟩
    · rcases List.mem_append.mp hch with hch | hch
      · exact hs.configured ch hch
      · rw [List.mem_singleton.mp hch]
    · rintro j (hj | hj) <;> cases hj
      simp [State.FiltersAt]
  · -- a failed run holds nothing
    refine ⟨hs.configured, reg, forall_mem_set old i ?_⟩
    rintro j (hj | hj) <;> cases hj
  · -- insert: the key now names the call's own channel
    have hown : s.FiltersAt j f := hs.held _ (List.getElem?_mem hi) j (.inl rfl)
    refine ⟨hs.configured, fun k j' hk => ?_, forall_mem_set old i ?_⟩
    · dsimp only at hk
      by_cases hkf : k = multiplexKey f
      · subst hkf
        rw [Function.update_same] at hk
        cases hk
        exact ⟨f, rfl, hown⟩
      · rw [Function.update_noteq hkf] at hk
        exact reg k j' hk
    · rintro j' (hj | hj) <;> cases hj
      exact hown
  · -- an upstream end changes no channel's consumer or filter
    exact ⟨forall_mem_set hs.configured j (hs.configured c (List.getElem?_mem hj)), reg, old⟩

theorem filterSafe_reachable (h : m.Reachable s) : FilterSafe m s :=
  h.induct (FilterSafe m) ⟨fun _ hc => (by cases hc), fun _ _ hk => (by cases hk), fun _ hc => (by cases hc)⟩
    fun _ _ _ hs hstep => filterSafe_step hstep hs

/-- **Filter safety.**  In every reachable state, a call that returned a receiver
returned one on a channel whose stream filters exactly the subjects of its filter
argument, in order, and filters nothing without one. -/
theorem subscribe_receiver_filter_subjects (h : m.Reachable s) {c : SubscribeCall}
    (hc : c ∈ s.calls) {j : Nat} (hj : c.pc = .returned (.ok j)) :
    ∃ ch, s.created[j]? = some ch ∧ ch.config.filterSubjects =
      match c.filters with
      | some filters => filters.map (m.forActivityDiscriminate m.subjectPrefix)
      | none => [] := by
  have hsafe := filterSafe_reachable h
  obtain ⟨ch, hch, hfil⟩ := Option.map_eq_some'.mp (hsafe.held c hc j (.inr hj))
  refine ⟨ch, hch, ?_⟩
  rw [hsafe.configured ch (List.getElem?_mem hch), hfil]
  cases c.filters <;> rfl

/-! ### Concrete runs -/

/-- A multiplexer to run the model on. -/
def sample : ActivityMultiplexer := ⟨⟨1, by decide⟩, none, fun _ d => d.toSubject⟩

/-- A call asking for rebase requests, run to completion, then a second one that finds
the key registered and takes the fast path. -/
def rebaseRequestRun : List Action :=
  [.subscribe (some [.rebaseRequest]), .lookup 0, .run 0 true, .insert 0,
    .subscribe (some [.rebaseRequest]), .lookup 1]

/-- The state `rebaseRequestRun` ends in: one channel, handed to both calls. -/
def rebaseRequestState : State :=
  ⟨Function.update (fun _ => none) (multiplexKey (some [.rebaseRequest])) (some 0),
    [⟨sample.consumerConfig (some [.rebaseRequest]), true, some [.rebaseRequest]⟩],
    [⟨some [.rebaseRequest], .returned (.ok 0)⟩, ⟨some [.rebaseRequest], .returned (.ok 0)⟩]⟩

theorem subscribe_receiver_filter_subjects_sample :
    sample.Reachable rebaseRequestState ∧
      rebaseRequestState.calls[1]? = some ⟨some [.rebaseRequest], .returned (.ok 0)⟩ ∧
      ∃ ch, rebaseRequestState.created[0]? = some ch ∧
        ch.config.filterSubjects = [ActivityPayloadDiscriminants.rebaseRequest.toSubject] :=
  have hreach : sample.Reachable rebaseRequestState :=
    reachable_of_run (show run sample.step .init rebaseRequestRun = some rebaseRequestState from rfl)
  have hfast : rebaseRequestState.calls[1]? = some ⟨some [.rebaseRequest], .returned (.ok 0)⟩ := rfl
  ⟨hreach, hfast, subscribe_receiver_filter_subjects hreach (List.getElem?_mem hfast) rfl⟩

/-- Two calls with no filter, interleaved: both look up before either inserts. -/
def raceRun : List Action :=
  [.subscribe none, .subscribe none, .lookup 0, .lookup 1, .run 0 true, .run 1 true,
    .insert 0, .insert 1]

/-- The channel a call returned a receiver on, if it did. -/
def SubscribeCall.receiver (c : SubscribeCall) : Option Nat :=
  match c.pc with
  | .returned (.ok j) => some j
  | _ => none

/-- Both calls miss, both create an upstream stream, and the second insert replaces
the sender the first one registered. -/
theorem concurrent_subscribe_creates_two_streams :
    (run sample.step .init (raceRun.take 7)).map (fun s => s.channels "everything") = some (some 0) ∧
      (run sample.step .init raceRun).map
        (fun s => (s.created.length, s.channels "everything", s.calls.map SubscribeCall.receiver)) =
        some (2, some 1, [some 0, some 1]) :=
  ⟨by decide, by decide⟩

/-- An unfiltered call, then a call for rebase requests, one after the other. -/
def twoFiltersRun : List Action :=
  [.subscribe none, .lookup 0, .run 0 true, .insert 0,
    .subscribe (some [.rebaseRequest]), .lookup 1, .run 1 true, .insert 1]

/-- Distinct keys, two streams, one consumer name; and in every reachable state, every
stream a multiplexer has created has the consumer named after its instance id. -/
theorem distinct_keys_share_consumer_name :
    multiplexKey none ≠ multiplexKey (some [.rebaseRequest]) ∧
      (run sample.step .init twoFiltersRun).map (fun s => s.created.map (·.config.name)) =
        some [some ("activity-stream-" ++ sample.instanceId.toString),
          some ("activity-stream-" ++ sample.instanceId.toString)] ∧
      ∀ (m : ActivityMultiplexer) (s : State), m.Reachable s →
        ∀ ch ∈ s.created, ch.config.name = some ("activity-stream-" ++ m.instanceId.toString) :=
  ⟨by decide, by decide, fun _ _ h ch hch => by
    rw [(filterSafe_reachable h).configured ch hch]
    exact ActivityStream.consumerConfig_name _ _ _ _⟩

/-! ### Stale registrations -/

/-- One call, its upstream ending, and the same call again. -/
def staleRun : List Action :=
  [.subscribe none, .lookup 0, .run 0 true, .insert 0, .upstreamEnds 0, .subscribe none, .lookup 1]

/-- After the upstream ends, the sender stays registered, nothing feeds its channel, and
the next call is handed a receiver on it. -/
theorem resubscribe_after_upstream_end_gets_unfed_channel :
    (run sample.step .init staleRun).map
      (fun s => (s.channels "everything", s.created.map Channel.fed, s.calls.map SubscribeCall.receiver)) =
      some (some 0, [false], [some 0, some 0]) := by
  decide

theorem channels_step_ne_none (h : m.step s a = some s') {k : String} (hk : s.channels k ≠ none) :
    s'.channels k ≠ none := by
  rcases step_cases h with ⟨_, rfl, rfl⟩ | ⟨_, _, rfl, -, rfl⟩ | ⟨_, _, rfl, -, rfl⟩ |
    ⟨_, _, rfl, -, rfl⟩ | ⟨_, f, j, rfl, -, rfl⟩ | ⟨_, _, rfl, -, -, rfl⟩
  all_goals try exact hk
  by_cases hkf : k = multiplexKey f
  · subst hkf; simp
  · simpa [Function.update_noteq hkf] using hk

/-! ### The key is the list -/

/-- The same kinds in another order: a second stream. -/
theorem same_kinds_other_order_second_stream :
    [ActivityPayloadDiscriminants.rebaseRequest, .rebaseFinished].Perm [.rebaseFinished, .rebaseRequest] ∧
      ((sample.subscribeAlone .init (some [.rebaseRequest, .rebaseFinished]) true).bind fun s =>
        sample.subscribeAlone s (some [.rebaseFinished, .rebaseRequest]) true).map (·.created.length) =
        some 2 :=
  ⟨by decide, by decide⟩

/-- Two calls in a row on unregistered keys share one stream exactly when their filter
lists are equal. -/
theorem subscribe_twice_streams (F₁ F₂ : List ActivityPayloadDiscriminants)
    (h₁ : s.channels (multiplexKey (some F₁)) = none) (h₂ : s.channels (multiplexKey (some F₂)) = none) :
    ((m.subscribeAlone s (some F₁) true).bind fun s => m.subscribeAlone s (some F₂) true).map
      (·.created.length) = some (s.created.length + if F₁ = F₂ then 1 else 2) := by
  rw [subscribeAlone_miss _ h₁, Option.some_bind]
  by_cases hF : F₁ = F₂
  · subst hF
    rw [subscribeAlone_hit _ true (Function.update_same _ _ _)]
    simp
  · have hk : multiplexKey (some F₂) ≠ multiplexKey (some F₁) :=
      fun h => hF (Option.some.inj (multiplexKey_injective h)).symm
    rw [subscribeAlone_miss _ (by simpa [Function.update_noteq hk] using h₂)]
    simp [hF]

theorem subscribe_twice_streams_sample :
    State.init.channels (multiplexKey (some [.rebaseRequest, .rebaseFinished])) = none ∧
      State.init.channels (multiplexKey (some [.rebaseFinished, .rebaseRequest])) = none ∧
      ((sample.subscribeAlone .init (some [.rebaseRequest, .rebaseFinished]) true).bind fun s =>
        sample.subscribeAlone s (some [.rebaseFinished, .rebaseRequest]) true).map (·.created.length) =
        some (State.init.created.length +
          if [ActivityPayloadDiscriminants.rebaseRequest, .rebaseFinished] = [.rebaseFinished, .rebaseRequest]
          then 1 else 2) :=
  ⟨rfl, rfl, subscribe_twice_streams _ _ rfl rfl⟩

end LayerCache.ActivityMultiplexer
