/-
`ActivityMultiplexer::subscribe` as a step relation over concurrent calls.

A call computes its multiplex key and then takes three atomic steps, with
anything else free to run between them:

  * `lookup`: under the read lock, look the key up in `channels`; a hit returns a
    receiver on the registered channel at once (the fast path);
  * `run`: await `ActivityStream::run`, which creates the upstream consumer; on
    success it creates a broadcast channel and spawns the `ActivityMultiplexerTask`
    that feeds it, on failure the call returns the error;
  * `insert`: under the write lock, insert the new sender under the key, replacing
    whatever is there, and return a receiver on it.

The read lock is released before `run` and nothing is looked up again under the
write lock, so the state keeps every call's program counter and the model
interleaves calls freely.  Channels are numbered in the order they are created,
and each records the filter argument it was created for.  Channel `j` is fed by
the task spawned with it until that task returns (`upstreamEnds`);
`Multiplexer/Tasks.lean` runs each channel's fan-out path beside the registry and
shows that this is the path's multiplexer task returning once its upstream has
ended.

`step_cases` says once what each step can do.  Every invariant in
`Multiplexer/Registry.lean` is a case analysis over it, never over `step`.
-/
import LayerCache.Subject
import LayerCache.Run

namespace LayerCache

/-- What `subscribe` reads and never changes: the multiplexer's `instance_id`, the
NATS client's subject prefix, and `nats::subject::for_activity_discriminate`, which
is defined outside `activities.rs`. -/
structure ActivityMultiplexer where
  instanceId : Ulid
  subjectPrefix : Option String
  forActivityDiscriminate : Option String → ActivityPayloadDiscriminants → String

namespace ActivityMultiplexer

/-- The consumer `ActivityStream::run` creates for a filter argument. -/
def consumerConfig (m : ActivityMultiplexer) (filters : Option (List ActivityPayloadDiscriminants)) :
    ConsumerConfig :=
  ActivityStream.consumerConfig m.forActivityDiscriminate m.subjectPrefix m.instanceId filters

/-- Where one `subscribe` call is. -/
inductive SubscribePc
  /-- The read-locked lookup is next. -/
  | lookup
  /-- The key was missing: `ActivityStream::run` is next. -/
  | run
  /-- The stream runs and channel `channel` is created: the write-locked insert is next. -/
  | insert (channel : Nat)
  /-- Returned a receiver on a channel, or an error. -/
  | returned (result : Except LayerDbError Nat)

/-- One `subscribe` call: its filter argument and where it is. -/
structure SubscribeCall where
  filters : Option (List ActivityPayloadDiscriminants)
  pc : SubscribePc

/-- A broadcast channel: the consumer its upstream stream was created with, and
whether the `ActivityMultiplexerTask` spawned with it still feeds it. -/
structure Channel where
  config : ConsumerConfig
  fed : Bool
  /-- The filter argument of the call that created it: a history variable, since the
  code keeps only the sender. -/
  filters : Option (List ActivityPayloadDiscriminants)
  deriving DecidableEq, Repr

/-- The shared state: `channels` (key to channel), every channel created so far, and
every call made so far. -/
structure State where
  channels : String → Option Nat
  created : List Channel
  calls : List SubscribeCall

/-- A fresh multiplexer: `ActivityMultiplexer::new`. -/
def State.init : State := ⟨fun _ => none, [], []⟩

/-- The steps of the calls, and the one event from outside: an upstream ending. -/
inductive Action
  | subscribe (filters : Option (List ActivityPayloadDiscriminants))
  | lookup (call : Nat)
  | run (call : Nat) (ok : Bool)
  | insert (call : Nat)
  | upstreamEnds (channel : Nat)

/-- Where the read-locked lookup leaves a call. -/
def lookupPc (channels : String → Option Nat) (filters : Option (List ActivityPayloadDiscriminants)) :
    SubscribePc :=
  match channels (multiplexKey filters) with
  | some j => .returned (.ok j)
  | none => .run

/-- One step. -/
def step (m : ActivityMultiplexer) (s : State) : Action → Option State
  | .subscribe filters => some { s with calls := s.calls ++ [⟨filters, .lookup⟩] }
  | .lookup i =>
    match s.calls[i]? with
    | some ⟨filters, .lookup⟩ =>
      some { s with calls := s.calls.set i ⟨filters, lookupPc s.channels filters⟩ }
    | _ => none
  | .run i ok =>
    match s.calls[i]? with
    | some ⟨filters, .run⟩ =>
      if ok then
        some { s with calls := s.calls.set i ⟨filters, .insert s.created.length⟩,
                      created := s.created ++ [⟨m.consumerConfig filters, true, filters⟩] }
      else some { s with calls := s.calls.set i ⟨filters, .returned (.error .nats)⟩ }
    | _ => none
  | .insert i =>
    match s.calls[i]? with
    | some ⟨filters, .insert j⟩ =>
      some { s with calls := s.calls.set i ⟨filters, .returned (.ok j)⟩,
                    channels := Function.update s.channels (multiplexKey filters) (some j) }
    | _ => none
  | .upstreamEnds j =>
    match s.created[j]? with
    | some c => if c.fed then some { s with created := s.created.set j { c with fed := false } } else none
    | none => none

/-- Reachable from a fresh multiplexer by any interleaving of calls and upstream ends. -/
abbrev Reachable (m : ActivityMultiplexer) : State → Prop := LayerCache.Reachable m.step .init

variable {m : ActivityMultiplexer} {s s' : State} {a : Action}

/-- Everything a step can do. -/
theorem step_cases (h : m.step s a = some s') :
    (∃ filters, a = .subscribe filters ∧ s' = { s with calls := s.calls ++ [⟨filters, .lookup⟩] }) ∨
    (∃ i filters, a = .lookup i ∧ s.calls[i]? = some ⟨filters, .lookup⟩ ∧
      s' = { s with calls := s.calls.set i ⟨filters, lookupPc s.channels filters⟩ }) ∨
    (∃ i filters, a = .run i true ∧ s.calls[i]? = some ⟨filters, .run⟩ ∧
      s' = { s with calls := s.calls.set i ⟨filters, .insert s.created.length⟩,
                    created := s.created ++ [⟨m.consumerConfig filters, true, filters⟩] }) ∨
    (∃ i filters, a = .run i false ∧ s.calls[i]? = some ⟨filters, .run⟩ ∧
      s' = { s with calls := s.calls.set i ⟨filters, .returned (.error .nats)⟩ }) ∨
    (∃ i filters j, a = .insert i ∧ s.calls[i]? = some ⟨filters, .insert j⟩ ∧
      s' = { s with calls := s.calls.set i ⟨filters, .returned (.ok j)⟩,
                    channels := Function.update s.channels (multiplexKey filters) (some j) }) ∨
    (∃ j c, a = .upstreamEnds j ∧ s.created[j]? = some c ∧ c.fed = true ∧
      s' = { s with created := s.created.set j { c with fed := false } }) := by
  cases a with
  | subscribe filters => exact .inl ⟨filters, rfl, (Option.some.inj h).symm⟩
  | lookup i =>
    simp only [step] at h
    split at h
    · exact .inr (.inl ⟨i, _, rfl, ‹_›, (Option.some.inj h).symm⟩)
    · cases h
  | run i ok =>
    simp only [step] at h
    split at h
    · cases ok
      · exact .inr (.inr (.inr (.inl ⟨i, _, rfl, ‹_›, (Option.some.inj h).symm⟩)))
      · exact .inr (.inr (.inl ⟨i, _, rfl, ‹_›, (Option.some.inj h).symm⟩))
    · cases h
  | insert i =>
    simp only [step] at h
    split at h
    · exact .inr (.inr (.inr (.inr (.inl ⟨i, _, _, rfl, ‹_›, (Option.some.inj h).symm⟩))))
    · cases h
  | upstreamEnds j =>
    simp only [step] at h
    split at h
    · split at h
      · exact .inr (.inr (.inr (.inr (.inr ⟨j, _, rfl, ‹_›, ‹_›, (Option.some.inj h).symm⟩))))
      · cases h
    · cases h

/-! ### A call run to completion alone -/

/-- `subscribe` with no other step in between; `ok` decides `ActivityStream::run`
if the call gets that far. -/
def subscribeAlone (m : ActivityMultiplexer) (s : State)
    (filters : Option (List ActivityPayloadDiscriminants)) (ok : Bool) : Option State :=
  let i := s.calls.length
  (m.step s (.subscribe filters)).bind fun s =>
  (m.step s (.lookup i)).bind fun s =>
  match s.calls[i]? with
  | some ⟨_, .run⟩ => (m.step s (.run i ok)).bind fun s => if ok then m.step s (.insert i) else some s
  | _ => some s

theorem set_concat_length {α : Type} (l : List α) (x y : α) :
    (l ++ [x]).set l.length y = l ++ [y] := by
  rw [List.set_append_right _ _ (le_refl _), Nat.sub_self]; rfl

/-- A registered key: the fast path, and nothing else changes. -/
theorem subscribeAlone_hit (filters : Option (List ActivityPayloadDiscriminants)) (ok : Bool) {j : Nat}
    (hj : s.channels (multiplexKey filters) = some j) :
    m.subscribeAlone s filters ok = some { s with calls := s.calls ++ [⟨filters, .returned (.ok j)⟩] } := by
  simp only [subscribeAlone, step, Option.some_bind, List.getElem?_concat_length, lookupPc, hj,
    set_concat_length]

/-- A missing key and a successful run: one new channel, registered under the key. -/
theorem subscribeAlone_miss (filters : Option (List ActivityPayloadDiscriminants))
    (hk : s.channels (multiplexKey filters) = none) :
    m.subscribeAlone s filters true = some
      { channels := Function.update s.channels (multiplexKey filters) (some s.created.length),
        created := s.created ++ [⟨m.consumerConfig filters, true, filters⟩],
        calls := s.calls ++ [⟨filters, .returned (.ok s.created.length)⟩] } := by
  simp only [subscribeAlone, step, Option.some_bind, List.getElem?_concat_length, lookupPc, hk,
    set_concat_length, if_true]

end ActivityMultiplexer

end LayerCache
