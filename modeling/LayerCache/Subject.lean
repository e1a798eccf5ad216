/-
Multiplex keys and consumer configurations.

`ActivityMultiplexer::subscribe` files every broadcast channel under a string
key: the subjects of the filter list joined with `.`, or `"everything"` when
there is no filter.  Two calls share an upstream stream exactly when their keys
agree, so what the key forgets decides which subscriptions are merged.

It forgets nothing.  Each subject is two non-empty, dot-free segments joined by
a dot, so splitting a key on `.` gives back the segments of every subject in
order, two per filter: the list and its order can be read off the key.  The
empty list gives `""`, one empty segment, and the sentinel `"everything"` is a
single segment, so neither collides with anything else.  `multiplexKey_injective`
is that argument, through Mathlib's `List.splitOn_intercalate`.  The flip side
is that the key is not a function of the set of filter kinds: a permuted or
repeated list is a different key.

`ActivityStream::consumer_config` names its consumer after the multiplexer's
instance id only; the filters go into `filter_subjects` and nowhere else.
-/
import LayerCache.Activity

namespace LayerCache

/-! ### Strings as lists of characters -/

theorem intercalate_go_data (acc s : String) (l : List String) :
    (String.intercalate.go acc s l).data = acc.data ++ (l.map fun a => s.data ++ a.data).flatten := by
  induction l generalizing acc with
  | nil => simp [String.intercalate.go]
  | cons a as ih => simp [String.intercalate.go, ih, List.append_assoc]

theorem list_intercalate_cons {α : Type} (sep a : List α) (as : List (List α)) :
    sep.intercalate (a :: as) = a ++ (as.map (sep ++ ·)).flatten := by
  induction as generalizing a with
  | nil => simp [List.intercalate]
  | cons b bs ih =>
    have h := ih b
    simp only [List.intercalate] at h ⊢
    rw [List.intersperse_cons₂, List.flatten_cons, List.flatten_cons, h]
    simp [List.append_assoc]

theorem intercalate_data (s : String) (l : List String) :
    (s.intercalate l).data = s.data.intercalate (l.map String.data) := by
  cases l with
  | nil => rfl
  | cons a as =>
    simp only [String.intercalate, intercalate_go_data, List.map_cons, list_intercalate_cons,
      List.map_map]
    rfl

theorem intercalate_append {α : Type} (sep : List α) {m n : List (List α)} (hm : m ≠ [])
    (hn : n ≠ []) : sep.intercalate (m ++ n) = sep.intercalate m ++ sep ++ sep.intercalate n := by
  obtain ⟨m₀, m, rfl⟩ := List.exists_cons_of_ne_nil hm
  obtain ⟨n₀, n, rfl⟩ := List.exists_cons_of_ne_nil hn
  simp [list_intercalate_cons, List.append_assoc]

theorem intercalate_cons_of_ne_nil {α : Type} (sep x : List α) {xs : List (List α)} (h : xs ≠ []) :
    sep.intercalate (x :: xs) = x ++ sep ++ sep.intercalate xs := by
  rw [← List.singleton_append, intercalate_append sep (List.cons_ne_nil x []) h]
  simp [List.intercalate]

/-- Joining groups of segments and then the groups is joining all the segments. -/
theorem intercalate_flatten {α : Type} (sep : List α) :
    ∀ L : List (List (List α)), (∀ m ∈ L, m ≠ []) →
      sep.intercalate (L.map sep.intercalate) = sep.intercalate L.flatten
  | [], _ => rfl
  | [m], _ => by simp [List.intercalate]
  | m :: m' :: L, h => by
    have ih := intercalate_flatten sep (m' :: L) fun x hx => h x (List.mem_cons_of_mem _ hx)
    have hne : (m' :: L).flatten ≠ [] := by
      simp only [List.flatten_cons, ne_eq, List.append_eq_nil, not_and]
      exact fun h' => absurd h' (h m' (by simp))
    rw [List.map_cons, intercalate_cons_of_ne_nil sep _ (by simp), ih,
      show (m :: m' :: L).flatten = m ++ (m' :: L).flatten from rfl,
      intercalate_append sep (h m (by simp)) hne]

/-! ### Subjects as segments -/

namespace ActivityPayloadDiscriminants

/-- The dot-separated segments of a subject. -/
def segments (d : ActivityPayloadDiscriminants) : List (List Char) := d.toSubject.data.splitOn '.'

theorem toSubject_data (d : ActivityPayloadDiscriminants) :
    d.toSubject.data = ['.'].intercalate d.segments :=
  (List.intercalate_splitOn _ '.').symm

theorem segments_length (d : ActivityPayloadDiscriminants) : d.segments.length = 2 := by
  cases d <;> decide

theorem dot_not_mem_segments (d : ActivityPayloadDiscriminants) : ∀ seg ∈ d.segments, '.' ∉ seg := by
  cases d <;> decide

theorem segments_injective : Function.Injective segments := by
  intro d₁ d₂ h
  cases d₁ <;> cases d₂ <;> first | rfl | exact absurd h (by decide)

theorem length_flatten_segments (l : List ActivityPayloadDiscriminants) :
    (l.map segments).flatten.length = 2 * l.length := by
  induction l with
  | nil => rfl
  | cons d l ih =>
    simp only [List.map_cons, List.flatten_cons, List.length_append, ih, segments_length, List.length_cons]
    ring

theorem flatten_segments_injective :
    Function.Injective fun l : List ActivityPayloadDiscriminants => (l.map segments).flatten := by
  intro l₁ l₂ h
  have hlen : l₁.length = l₂.length := by
    have := congrArg List.length h
    simp only [length_flatten_segments] at this
    omega
  induction l₁ generalizing l₂ with
  | nil => exact (List.eq_nil_of_length_eq_zero hlen.symm).symm
  | cons d₁ l₁ ih =>
    obtain ⟨d₂, l₂, rfl⟩ := List.exists_cons_of_length_eq_add_one hlen.symm
    obtain ⟨hd, hl⟩ := List.append_inj h (by rw [segments_length, segments_length])
    rw [segments_injective hd, ih hl (Nat.succ.inj hlen)]

end ActivityPayloadDiscriminants

/-! ### The key -/

/-- The key `subscribe` files a channel under: the filter list's subjects joined
with `.`, or `"everything"` without a filter. -/
def multiplexKey : Option (List ActivityPayloadDiscriminants) → String
  | some filterArray => ".".intercalate (filterArray.map ActivityPayloadDiscriminants.toSubject)
  | none => "everything"

open ActivityPayloadDiscriminants in
/-- Splitting a non-empty filter list's key on `.` gives its subjects' segments. -/
theorem multiplexKey_splitOn {l : List ActivityPayloadDiscriminants} (hl : l ≠ []) :
    (multiplexKey (some l)).data.splitOn '.' = (l.map segments).flatten := by
  have hdata : (multiplexKey (some l)).data = ['.'].intercalate (l.map segments).flatten := by
    rw [multiplexKey, intercalate_data, List.map_map]
    rw [show (String.data ∘ toSubject) = ['.'].intercalate ∘ segments from
      funext fun d => toSubject_data d, ← List.map_map]
    exact intercalate_flatten _ _ (by
      simp only [List.mem_map]
      rintro m ⟨d, -, rfl⟩
      rw [← List.length_pos, segments_length]; omega)
  rw [hdata]
  apply List.splitOn_intercalate
  · simp only [List.mem_flatten, List.mem_map]
    rintro seg ⟨_, ⟨d, -, rfl⟩, hseg⟩
    exact dot_not_mem_segments d seg hseg
  · obtain ⟨d, l, rfl⟩ := List.exists_cons_of_ne_nil hl
    simp [← List.length_pos, segments_length]

/-- The key forgets nothing: distinct filter arguments, `None` included, get
distinct keys. -/
theorem multiplexKey_injective : Function.Injective multiplexKey := by
  have hnil : multiplexKey (some []) = "" := rfl
  have hsplit : ∀ l : List ActivityPayloadDiscriminants, l ≠ [] →
      2 ≤ ((multiplexKey (some l)).data.splitOn '.').length := by
    intro l hl
    rw [multiplexKey_splitOn hl, ActivityPayloadDiscriminants.length_flatten_segments]
    have := List.length_pos.mpr hl
    omega
  have hlen : ∀ {k : String} {l : List ActivityPayloadDiscriminants}, l ≠ [] →
      (k.data.splitOn '.').length = 1 → multiplexKey (some l) ≠ k := by
    intro k l hl hk heq
    have := hsplit l hl
    rw [heq] at this
    omega
  have heverything : ("everything".data.splitOn '.').length = 1 := by decide
  have hempty : ("".data.splitOn '.').length = 1 := by decide
  rintro (_ | l₁) (_ | l₂) h
  · rfl
  · by_cases hl : l₂ = []
    · subst hl; exact absurd h (by decide)
    · exact absurd h.symm (hlen hl heverything)
  · by_cases hl : l₁ = []
    · subst hl; exact absurd h (by decide)
    · exact absurd h (hlen hl heverything)
  · by_cases h₁ : l₁ = [] <;> by_cases h₂ : l₂ = []
    · rw [h₁, h₂]
    · subst h₁; exact absurd (h.symm.trans hnil) (hlen h₂ hempty)
    · subst h₂; exact absurd (h.trans hnil) (hlen h₁ hempty)
    · have h' := congrArg (fun k : String => k.data.splitOn '.') h
      simp only [multiplexKey_splitOn h₁, multiplexKey_splitOn h₂] at h'
      rw [ActivityPayloadDiscriminants.flatten_segments_injective h']

/-! ### Consumer configurations -/

/-- `jetstream::consumer::DeliverPolicy`, the two policies in play. -/
inductive DeliverPolicy
  | all
  | new
  deriving DecidableEq, Repr

/-- `jetstream::consumer::pull::Config`, the fields the two `consumer_config`s set;
the rest keep their defaults. -/
structure ConsumerConfig where
  name : Option String := none
  durableName : Option String := none
  description : Option String := none
  deliverPolicy : DeliverPolicy := .all
  filterSubjects : List String := []
  deriving DecidableEq, Repr

/-- `ActivityStream::consumer_config`.  `subject::for_activity_discriminate` is
defined outside `activities.rs`, so it is a parameter. -/
def ActivityStream.consumerConfig
    (forActivityDiscriminate : Option String → ActivityPayloadDiscriminants → String)
    (subjectPrefix : Option String) (instanceId : Ulid)
    (filters : Option (List ActivityPayloadDiscriminants)) : ConsumerConfig :=
  let name := "activity-stream-" ++ instanceId.toString
  let config : ConsumerConfig :=
    { name := some name, description := some ("activity stream for [" ++ name ++ "]"),
      deliverPolicy := .new }
  match filters with
  | some payloadTypes =>
    { config with filterSubjects := payloadTypes.map (forActivityDiscriminate subjectPrefix) }
  | none => config

def RebaserRequestWorkQueue.consumerName : String := "rebaser-requests"

/-- `RebaserRequestWorkQueue::consumer_config`: one durable name, shared by every instance. -/
def RebaserRequestWorkQueue.consumerConfig : ConsumerConfig :=
  { durableName := some consumerName, description := some "rebaser requests consumer" }

section

variable (forActivityDiscriminate : Option String → ActivityPayloadDiscriminants → String)
  (subjectPrefix : Option String) (instanceId : Ulid)

/-- The consumer's name is the instance id's and nothing else's. -/
@[simp] theorem ActivityStream.consumerConfig_name (filters : Option (List ActivityPayloadDiscriminants)) :
    (consumerConfig forActivityDiscriminate subjectPrefix instanceId filters).name =
      some ("activity-stream-" ++ instanceId.toString) := by
  cases filters <;> rfl

@[simp] theorem ActivityStream.consumerConfig_filterSubjects_some
    (filters : List ActivityPayloadDiscriminants) :
    (consumerConfig forActivityDiscriminate subjectPrefix instanceId (some filters)).filterSubjects =
      filters.map (forActivityDiscriminate subjectPrefix) := rfl

@[simp] theorem ActivityStream.consumerConfig_filterSubjects_none :
    (consumerConfig forActivityDiscriminate subjectPrefix instanceId none).filterSubjects = [] := rfl

end

end LayerCache
