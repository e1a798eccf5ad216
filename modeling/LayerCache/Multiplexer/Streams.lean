/-
The streams a multiplexer creates, and what becomes of them.

Each `ActivityStream::run` that succeeds creates an upstream consumer and a
broadcast channel fed from it, and nothing ever tears one down.  What can change
is whether the registry still points at it: an insert replaces whatever the key
held.  `StreamsKept` says that this is the only way a stream loses its place:
either the call that created a stream has yet to insert it, or the key of that
call's filter argument is registered.  With filter safety the registered channel
is then one created for the same filter argument.  So under any interleaving the
registry never forgets a filter it has seen a stream for, and a stream that is no
longer registered is a second upstream consumer for a filter that already has one
(`created_stream_kept`).

Whether that can happen at all depends on overlap.  `seqStep` runs one call to
completion before the next begins; such runs are interleavings like any other
(`reachable_subscribeAlone`), and along them every created stream is registered
under exactly one key and every key names a created stream
(`sequential_subscribes_one_stream_per_key`).  The duplicate of the race is the
price of letting calls overlap, and nothing else produces one.
-/
import LayerCache.Multiplexer.Registry

namespace LayerCache.ActivityMultiplexer

variable {m : ActivityMultiplexer} {s s' : State} {a : Action}

/-! ### No filter is forgotten -/

/-- A call waiting to insert channel `j` keeps waiting, unless its own insert
registers `j` under its key. -/
theorem calls_insert_step (h : m.step s a = some s') {i j : Nat}
    {filters : Option (List ActivityPayloadDiscriminants)} (hi : s.calls[i]? = some ⟨filters, .insert j⟩) :
    s'.calls[i]? = some ⟨filters, .insert j⟩ ∨ s'.channels (multiplexKey filters) = some j := by
  rcases step_cases h with ⟨_, rfl, rfl⟩ | ⟨i', _, rfl, hi', rfl⟩ | ⟨i', _, rfl, hi', rfl⟩ |
    ⟨i', _, rfl, hi', rfl⟩ | ⟨i', _, _, rfl, hi', rfl⟩ | ⟨_, _, rfl, -, -, rfl⟩
  · exact .inl ((List.getElem?_append_left (List.getElem?_eq_some_iff.mp hi).1).trans hi)
  iterate 3
    · -- another call's lookup or run: that call is not at `insert`
      have hne : i' ≠ i := by rintro rfl; rw [hi] at hi'; cases hi'
      exact .inl ((List.getElem?_set_ne hne).trans hi)
  · by_cases hii : i' = i
    · subst hii
      rw [hi] at hi'
      cases hi'
      exact .inr (Function.update_same _ _ _)
    · exact .inl ((List.getElem?_set_ne hii).trans hi)
  · exact .inl hi

/-- Channel `j`'s creator has yet to insert it, or its filter's key is registered. -/
def Kept (s : State) (j : Nat) (filters : Option (List ActivityPayloadDiscriminants)) : Prop :=
  (∃ i : Nat, s.calls[i]? = some ⟨filters, .insert j⟩) ∨ s.channels (multiplexKey filters) ≠ none

theorem kept_step (h : m.step s a = some s') {j : Nat} {filters : Option (List ActivityPayloadDiscriminants)}
    (hk : Kept s j filters) : Kept s' j filters := by
  rcases hk with ⟨i, hi⟩ | hreg
  · rcases calls_insert_step h hi with hi' | hreg'
    · exact .inl ⟨i, hi'⟩
    · exact .inr (by rw [hreg']; exact Option.some_ne_none _)
  · exact .inr (channels_step_ne_none h hreg)

/-- Every channel was created for a filter argument that is still kept. -/
def StreamsKept (s : State) : Prop :=
  ∀ j < s.created.length, ∃ filters, s.FiltersAt j filters ∧ Kept s j filters

theorem streamsKept_step (h : m.step s a = some s') (hs : StreamsKept s) : StreamsKept s' := by
  intro j hj
  by_cases hold : j < s.created.length
  · obtain ⟨filters, hfil, hk⟩ := hs j hold
    exact ⟨filters, filtersAt_step h hfil, kept_step h hk⟩
  · -- only a successful run creates a channel, and its call is about to insert it
    rcases step_cases h with ⟨_, rfl, rfl⟩ | ⟨_, _, rfl, -, rfl⟩ | ⟨i, filters, rfl, hi, rfl⟩ |
      ⟨_, _, rfl, -, rfl⟩ | ⟨_, _, _, rfl, -, rfl⟩ | ⟨_, _, rfl, -, -, rfl⟩
    · exact absurd hj hold
    · exact absurd hj hold
    · have hjn : j = s.created.length := by
        simp only [List.length_append, List.length_singleton] at hj
        omega
      subst hjn
      exact ⟨filters, by simp [State.FiltersAt],
        .inl ⟨i, List.getElem?_set_self (List.getElem?_eq_some_iff.mp hi).1⟩⟩
    · exact absurd hj hold
    · exact absurd hj hold
    · exact absurd (by simpa using hj) hold

theorem streamsKept_reachable (h : m.Reachable s) : StreamsKept s :=
  h.induct StreamsKept (fun _ hj => absurd hj (Nat.not_lt_zero _))
    fun _ _ _ hs hstep => streamsKept_step hstep hs

/-- **No filter is forgotten.**  Under any interleaving, every stream a multiplexer
has created has the consumer of the filter argument of the call that created it, and
either that call is still to register it, or the key of that filter argument is
registered to a stream created for the same filter argument: itself, or a stream
that replaced it. -/
theorem created_stream_kept (h : m.Reachable s) {j : Nat} {ch : Channel} (hj : s.created[j]? = some ch) :
    ch.config = m.consumerConfig ch.filters ∧
      ((∃ i : Nat, s.calls[i]? = some ⟨ch.filters, .insert j⟩) ∨
        ∃ j' ch', s.channels (multiplexKey ch.filters) = some j' ∧ s.created[j']? = some ch' ∧
          ch'.filters = ch.filters) := by
  have hsafe := filterSafe_reachable h
  obtain ⟨filters, hfil, hk⟩ := streamsKept_reachable h j (List.getElem?_eq_some_iff.mp hj).1
  obtain rfl : ch.filters = filters := by simpa [State.FiltersAt, hj] using hfil
  refine ⟨hsafe.configured ch (List.getElem?_mem hj), hk.imp id fun hreg => ?_⟩
  obtain ⟨j', hj'⟩ := Option.ne_none_iff_exists'.mp hreg
  obtain ⟨g, hg, hfil'⟩ := hsafe.registered _ _ hj'
  obtain ⟨ch', hch', hf'⟩ := Option.map_eq_some'.mp hfil'
  exact ⟨j', ch', hj', hch', hf'.trans (multiplexKey_injective hg)⟩

/-- Two unfiltered calls that both miss, run to the end. -/
def duplicateRun : List Action :=
  [.subscribe none, .subscribe none, .lookup 0, .lookup 1, .run 0 true, .run 1 true, .insert 0, .insert 1]

/-- Where `duplicateRun` ends: stream 0 replaced by stream 1 under `"everything"`. -/
def duplicateState : State :=
  ⟨Function.update (Function.update (fun _ => none) (multiplexKey none) (some 0)) (multiplexKey none) (some 1),
    [⟨sample.consumerConfig none, true, none⟩, ⟨sample.consumerConfig none, true, none⟩],
    [⟨none, .returned (.ok 0)⟩, ⟨none, .returned (.ok 1)⟩]⟩

theorem duplicateState_reachable : sample.Reachable duplicateState :=
  reachable_of_run (show run sample.step .init duplicateRun = some duplicateState from rfl)

/-- The first of the two streams, the one the race replaced. -/
def replacedChannel : Channel := ⟨sample.consumerConfig none, true, none⟩

theorem created_stream_kept_sample :
    sample.Reachable duplicateState ∧ duplicateState.created[0]? = some replacedChannel ∧
      replacedChannel.config = sample.consumerConfig replacedChannel.filters ∧
      ((∃ i : Nat, duplicateState.calls[i]? = some ⟨replacedChannel.filters, .insert 0⟩) ∨
        ∃ j' ch', duplicateState.channels (multiplexKey replacedChannel.filters) = some j' ∧
          duplicateState.created[j']? = some ch' ∧ ch'.filters = replacedChannel.filters) :=
  have h0 : duplicateState.created[0]? = some replacedChannel := rfl
  ⟨duplicateState_reachable, h0, created_stream_kept duplicateState_reachable h0⟩

/-! ### One call at a time -/

/-- `subscribe` calls made one after another, each run to completion: a call is its
filter argument and whether `ActivityStream::run` succeeds if the call gets that far. -/
def seqStep (m : ActivityMultiplexer) (s : State)
    (call : Option (List ActivityPayloadDiscriminants) × Bool) : Option State :=
  m.subscribeAlone s call.1 call.2

/-- Reachable from a fresh multiplexer by calls that never overlap. -/
abbrev SeqReachable (m : ActivityMultiplexer) : State → Prop := LayerCache.Reachable m.seqStep .init

/-- A missing key and a failed run: the call returns the error and nothing else changes. -/
theorem subscribeAlone_fail (filters : Option (List ActivityPayloadDiscriminants))
    (hk : s.channels (multiplexKey filters) = none) :
    m.subscribeAlone s filters false =
      some { s with calls := s.calls ++ [⟨filters, .returned (.error .nats)⟩] } := by
  simp only [subscribeAlone, step, Option.some_bind, List.getElem?_concat_length, lookupPc, hk,
    set_concat_length, Bool.false_eq_true, if_false]

/-- A call run alone is a run of the concurrent model. -/
theorem reachable_subscribeAlone {filters : Option (List ActivityPayloadDiscriminants)} {ok : Bool}
    (hs : m.Reachable s) (h : m.subscribeAlone s filters ok = some s') : m.Reachable s' := by
  simp only [subscribeAlone, Option.bind_eq_some] at h
  obtain ⟨s₁, h₁, s₂, h₂, h₃⟩ := h
  have r₂ : m.Reachable s₂ := (hs.step _ h₁).step _ h₂
  split at h₃
  · obtain ⟨s₃, h₃, h₄⟩ := Option.bind_eq_some.mp h₃
    have r₃ : m.Reachable s₃ := r₂.step _ h₃
    split at h₄
    · exact r₃.step _ h₄
    · cases h₄
      exact r₃
  · cases h₃
    exact r₂

/-- Every created stream is registered under exactly one key, and every registered
key names a created stream. -/
structure OneStreamPerKey (s : State) : Prop where
  lt : ∀ k j, s.channels k = some j → j < s.created.length
  registered : ∀ j < s.created.length, ∃ k, s.channels k = some j
  unique : ∀ k₁ k₂ j, s.channels k₁ = some j → s.channels k₂ = some j → k₁ = k₂

/-- A new stream under a missing key keeps one stream per key. -/
theorem oneStreamPerKey_miss (hs : OneStreamPerKey s) {k : String} (hk : s.channels k = none)
    (ch : Channel) (calls : List SubscribeCall) :
    OneStreamPerKey ⟨Function.update s.channels k (some s.created.length), s.created ++ [ch], calls⟩ := by
  have hne : ∀ k' j, s.channels k' = some j → k' ≠ k := fun k' j hkj heq => by
    rw [heq, hk] at hkj
    cases hkj
  have hupd : ∀ k' j, Function.update s.channels k (some s.created.length) k' = some j →
      k' = k ∧ s.created.length = j ∨ k' ≠ k ∧ s.channels k' = some j := fun k' j hkj => by
    rwa [Function.update_apply, ite_eq_iff, Option.some_inj] at hkj
  refine ⟨fun k' j hkj => ?_, fun j hj => ?_, fun k₁ k₂ j h₁ h₂ => ?_⟩
  · rw [List.length_append, List.length_singleton]
    rcases hupd k' j hkj with ⟨-, rfl⟩ | ⟨-, hkj⟩
    · exact Nat.lt_succ_self _
    · exact Nat.lt_succ_of_lt (hs.lt k' j hkj)
  · simp only [List.length_append, List.length_singleton] at hj
    rcases Nat.lt_succ_iff_lt_or_eq.mp hj with hj | rfl
    · obtain ⟨k', hkj⟩ := hs.registered j hj
      exact ⟨k', by dsimp only; rw [Function.update_noteq (hne k' j hkj)]; exact hkj⟩
    · exact ⟨k, Function.update_same _ _ _⟩
  · -- the new index is under `k` alone, the old ones under their old keys
    rcases hupd k₁ j h₁ with ⟨rfl, rfl⟩ | ⟨-, hold₁⟩ <;>
      rcases hupd k₂ _ h₂ with ⟨rfl, hj⟩ | ⟨-, hold₂⟩
    · rfl
    · exact absurd (hs.lt _ _ hold₂) (lt_irrefl _)
    · exact absurd (hs.lt _ _ hold₁) (by omega)
    · exact hs.unique k₁ k₂ j hold₁ hold₂

theorem oneStreamPerKey_seqStep (hs : OneStreamPerKey s)
    {call : Option (List ActivityPayloadDiscriminants) × Bool} (h : m.seqStep s call = some s') :
    OneStreamPerKey s' := by
  obtain ⟨filters, ok⟩ := call
  cases hk : s.channels (multiplexKey filters) with
  | some j =>
    rw [seqStep, subscribeAlone_hit filters ok hk] at h
    cases h
    exact ⟨hs.lt, hs.registered, hs.unique⟩
  | none =>
    cases ok with
    | false =>
      rw [seqStep, subscribeAlone_fail filters hk] at h
      cases h
      exact ⟨hs.lt, hs.registered, hs.unique⟩
    | true =>
      rw [seqStep, subscribeAlone_miss filters hk] at h
      cases h
      exact oneStreamPerKey_miss hs hk _ _

/-- **Calls that do not overlap never duplicate a stream.**  Every state reached by
`subscribe` calls made one after another, whatever their filters and whether their
streams start, is a reachable state of the concurrent model, and in it every created
stream is registered under exactly one key and every registered key names a created
stream. -/
theorem sequential_subscribes_one_stream_per_key (h : m.SeqReachable s) :
    m.Reachable s ∧ OneStreamPerKey s :=
  ⟨h.induct m.Reachable .init fun _ _ _ hs hstep => reachable_subscribeAlone hs hstep,
    h.induct OneStreamPerKey
      ⟨fun _ _ hk => (by cases hk), fun _ hj => absurd hj (Nat.not_lt_zero _), fun _ _ _ hk => (by cases hk)⟩
      fun _ _ _ hs hstep => oneStreamPerKey_seqStep hs hstep⟩

/-- An unfiltered call, a call for rebase requests, the unfiltered one again, and a call
for rebase-finished activities whose stream fails to start. -/
def sequentialCalls : List (Option (List ActivityPayloadDiscriminants) × Bool) :=
  [(none, true), (some [.rebaseRequest], true), (none, true), (some [.rebaseFinished], false)]

/-- Where `sequentialCalls` ends. -/
def sequentialState : State :=
  ⟨Function.update (Function.update (fun _ => none) (multiplexKey none) (some 0))
      (multiplexKey (some [.rebaseRequest])) (some 1),
    [⟨sample.consumerConfig none, true, none⟩,
      ⟨sample.consumerConfig (some [.rebaseRequest]), true, some [.rebaseRequest]⟩],
    [⟨none, .returned (.ok 0)⟩, ⟨some [.rebaseRequest], .returned (.ok 1)⟩, ⟨none, .returned (.ok 0)⟩,
      ⟨some [.rebaseFinished], .returned (.error .nats)⟩]⟩

theorem sequential_subscribes_one_stream_per_key_sample :
    sample.SeqReachable sequentialState ∧ sample.Reachable sequentialState ∧ OneStreamPerKey sequentialState :=
  have h : sample.SeqReachable sequentialState :=
    reachable_of_run (show run sample.seqStep .init sequentialCalls = some sequentialState from rfl)
  ⟨h, sequential_subscribes_one_stream_per_key h⟩

end LayerCache.ActivityMultiplexer
