/-
Activities, and the bytes they travel as.

An `Activity` is an id, a payload from a closed set of four variants, the event
metadata, and an optional link to the activity it answers.  The payload structs
and `LayeredEventMetadata` are defined outside `activities.rs`, so the model
takes them, and their derived serde impls, as parameters: a `Schema` and a
`SchemaSerde` over it.

The derived impls lay an activity out as its fields in declaration order: the
id as its ULID text, the payload as a `u32` varint variant index followed by
the variant's struct, the metadata, and the parent id behind an `Option` tag.
`Activity.roundTrip` is the round trip of that layout, assuming only that the
five imported codecs round-trip; the ULID text and the varint tag are the
parts proved here, in `Wire/`.  From it, `from_bytes` of what
`ActivityPublisher::publish` sends is the activity it was given, for every id,
every variant and either kind of parent link.  An id's own text, from
`array_to_str` or from `Display`, parses back to the id too.  The converse holds
up to the `u128` wrap: a text `from_str` accepts is its id's text up to the case
of its letters exactly when its first character is at most `7`.
-/
import LayerCache.Wire.Ulid

namespace LayerCache

open Postcard

/-- The types `activities.rs` takes from elsewhere: the payload structs of
`activities::rebase` and `activities::test`, and `event::LayeredEventMetadata`. -/
structure Schema where
  RebaseRequest : Type
  RebaseFinished : Type
  IntegrationTest : Type
  IntegrationTestAlt : Type
  LayeredEventMetadata : Type

structure ActivityId where
  ulid : Ulid
  deriving DecidableEq

inductive ActivityPayload (S : Schema)
  | rebaseRequest (r : S.RebaseRequest)
  | rebaseFinished (r : S.RebaseFinished)
  | integrationTest (t : S.IntegrationTest)
  | integrationTestAlt (t : S.IntegrationTestAlt)

/-- `ActivityPayloadDiscriminants`, the tag-only copy `strum` derives. -/
inductive ActivityPayloadDiscriminants
  | rebaseRequest
  | rebaseFinished
  | integrationTest
  | integrationTestAlt
  deriving DecidableEq, Repr

structure Activity (S : Schema) where
  id : ActivityId
  payload : ActivityPayload S
  metadata : S.LayeredEventMetadata
  parentActivityId : Option ActivityId

/-- `ActivityRebaseRequest`: an activity whose payload is known to be a rebase request. -/
structure ActivityRebaseRequest (S : Schema) where
  id : ActivityId
  payload : S.RebaseRequest
  metadata : S.LayeredEventMetadata
  parentActivityId : Option ActivityId

/-- `LayerDbError`, the variants the activity paths raise. -/
inductive LayerDbError
  | postcard (e : Postcard.Error)
  | activityRebase
  | nats
  | activitySend
  deriving DecidableEq, Repr

/-- A message on the bus: its subject and its payload. -/
structure Message where
  subject : String
  payload : Bytes
  deriving DecidableEq, Repr

/-- What a consumer's message stream yields in place of a message. -/
inductive MessagesError
  | transport
  deriving DecidableEq, Repr

/-- The messages among the items a consumer yielded, in order. -/
def okMessages (items : List (Except MessagesError Message)) : List Message :=
  items.filterMap fun
    | .ok msg => some msg
    | .error _ => none

@[simp] theorem okMessages_append_ok (items : List (Except MessagesError Message)) (msg : Message) :
    okMessages (items ++ [.ok msg]) = okMessages items ++ [msg] := by
  simp [okMessages]

@[simp] theorem okMessages_append_error (items : List (Except MessagesError Message)) (e : MessagesError) :
    okMessages (items ++ [.error e]) = okMessages items := by
  simp [okMessages]

/-! ### Ids as text -/

def ActivityId.arrayToStr (id : ActivityId) : Bytes := id.ulid.arrayToStr

/-- `FromStr for ActivityId`: `Ulid::from_str` over the text's bytes. -/
def ActivityId.fromStr (s : Bytes) : Except Ulid.DecodeError ActivityId :=
  ActivityId.mk <$> Ulid.fromString s

def ActivityId.toString (id : ActivityId) : String := id.ulid.toString

/-- An id's text parses back to the id, whether it came from `array_to_str` or from
`Display`. -/
theorem ActivityId.fromStr_toString (id : ActivityId) :
    ActivityId.fromStr id.arrayToStr = .ok id ∧
      ActivityId.fromStr (id.toString.data.map fun c => UInt8.ofNat c.toNat) = .ok id := by
  have h : ActivityId.fromStr id.arrayToStr = .ok id := by
    rw [fromStr, arrayToStr, Ulid.fromString_arrayToStr]
    rfl
  exact ⟨h, by rw [toString, Ulid.toString_bytes]; exact h⟩

/-- A text whose first digit is `8`: `2 ^ 128 + 1`, which the shift wraps to `1`. -/
def wrappedText : Bytes := "80000000000000000000000001".toList.map fun c => UInt8.ofNat c.toNat

def wrappedId : ActivityId := ⟨⟨1, by decide⟩⟩

variable {S : Schema}

/-! ### Payloads and their subjects -/

def ActivityPayloadDiscriminants.toSubject : ActivityPayloadDiscriminants → String
  | .rebaseRequest => "rebase.request"
  | .rebaseFinished => "rebase.finished"
  | .integrationTest => "integration_test.test"
  | .integrationTestAlt => "integration_test.alt"

def ActivityPayload.discriminant : ActivityPayload S → ActivityPayloadDiscriminants
  | .rebaseRequest _ => .rebaseRequest
  | .rebaseFinished _ => .rebaseFinished
  | .integrationTest _ => .integrationTest
  | .integrationTestAlt _ => .integrationTestAlt

def ActivityPayload.toSubject (p : ActivityPayload S) : String := p.discriminant.toSubject

/-- `Activity::new`; `ActivityId::new()` draws a fresh ULID, which the model takes as given. -/
def Activity.new (id : ActivityId) (payload : ActivityPayload S) (metadata : S.LayeredEventMetadata)
    (parentActivityId : Option ActivityId) : Activity S :=
  { id, payload, metadata, parentActivityId }

/-- `Activity::rebase`: a rebase request answers nothing. -/
def Activity.rebase (id : ActivityId) (request : S.RebaseRequest) (metadata : S.LayeredEventMetadata) :
    Activity S :=
  .new id (.rebaseRequest request) metadata none

/-- `Activity::rebase_finished`: linked to the request it answers. -/
def Activity.rebaseFinished (id : ActivityId) (request : S.RebaseFinished)
    (metadata : S.LayeredEventMetadata) (fromRebaseActivityId : ActivityId) : Activity S :=
  .new id (.rebaseFinished request) metadata (some fromRebaseActivityId)

/-- `TryFrom<Activity> for ActivityRebaseRequest`: any other variant is `ActivityRebase`. -/
def ActivityRebaseRequest.tryFrom (activity : Activity S) :
    Except LayerDbError (ActivityRebaseRequest S) :=
  match activity.payload with
  | .rebaseRequest payload => .ok ⟨activity.id, payload, activity.metadata, activity.parentActivityId⟩
  | _ => .error .activityRebase

/-! ### The derived codecs -/

/-- A type's derived `Serialize` and `Deserialize`, as postcard drives them. -/
structure Serde (α : Type) where
  serialize : α → Bytes
  deserialize : Deserializer α

/-- The derived impls of the types a `Schema` names. -/
structure SchemaSerde (S : Schema) where
  rebaseRequest : Serde S.RebaseRequest
  rebaseFinished : Serde S.RebaseFinished
  integrationTest : Serde S.IntegrationTest
  integrationTestAlt : Serde S.IntegrationTestAlt
  layeredEventMetadata : Serde S.LayeredEventMetadata

/-- Every imported codec reads back what it writes. -/
structure SchemaSerde.Lawful (serde : SchemaSerde S) : Prop where
  rebaseRequest : RoundTrip serde.rebaseRequest.serialize serde.rebaseRequest.deserialize
  rebaseFinished : RoundTrip serde.rebaseFinished.serialize serde.rebaseFinished.deserialize
  integrationTest : RoundTrip serde.integrationTest.serialize serde.integrationTest.deserialize
  integrationTestAlt :
    RoundTrip serde.integrationTestAlt.serialize serde.integrationTestAlt.deserialize
  layeredEventMetadata :
    RoundTrip serde.layeredEventMetadata.serialize serde.layeredEventMetadata.deserialize

/-- `ActivityId`'s derived impl: a newtype struct is its field. -/
def ActivityId.serialize (id : ActivityId) : Bytes := id.ulid.serialize

def ActivityId.deserialize : Deserializer ActivityId := ActivityId.mk <$> Ulid.deserialize

/-- `serialize_newtype_variant`: the variant index as a `u32` varint, then the struct. -/
def ActivityPayload.serialize (serde : SchemaSerde S) : ActivityPayload S → Bytes
  | .rebaseRequest r => varintU32 0 ++ serde.rebaseRequest.serialize r
  | .rebaseFinished r => varintU32 1 ++ serde.rebaseFinished.serialize r
  | .integrationTest t => varintU32 2 ++ serde.integrationTest.serialize t
  | .integrationTestAlt t => varintU32 3 ++ serde.integrationTestAlt.serialize t

/-- The derived `Deserialize`: `variant_seed` reads the index; past the last variant
it is serde's `invalid_value`. -/
def ActivityPayload.deserialize (serde : SchemaSerde S) : Deserializer (ActivityPayload S) := do
  match ← tryTakeVarintU32 with
  | 0 => .rebaseRequest <$> serde.rebaseRequest.deserialize
  | 1 => .rebaseFinished <$> serde.rebaseFinished.deserialize
  | 2 => .integrationTest <$> serde.integrationTest.deserialize
  | 3 => .integrationTestAlt <$> serde.integrationTestAlt.deserialize
  | _ => throw .serdeDeCustom

/-- The derived `Serialize` of `Activity`: its four fields in declaration order. -/
def Activity.serialize (serde : SchemaSerde S) (a : Activity S) : Bytes :=
  a.id.serialize ++ a.payload.serialize serde ++ serde.layeredEventMetadata.serialize a.metadata ++
    serializeOption ActivityId.serialize a.parentActivityId

def Activity.deserialize (serde : SchemaSerde S) : Deserializer (Activity S) := do
  let id ← ActivityId.deserialize
  let payload ← ActivityPayload.deserialize serde
  let metadata ← serde.layeredEventMetadata.deserialize
  let parentActivityId ← deserializeOption ActivityId.deserialize
  pure { id, payload, metadata, parentActivityId }

def toStdvec (serde : SchemaSerde S) (a : Activity S) : Bytes := a.serialize serde

/-- `ActivityPublisher::publish`: the message it sends, and then waits for the server
to confirm.  `subject::for_activity` is defined outside `activities.rs` and taken as
given. -/
def ActivityPublisher.publish (forActivity : Option String → Activity S → String)
    (subjectPrefix : Option String) (serde : SchemaSerde S) (activity : Activity S) : Message :=
  ⟨forActivity subjectPrefix activity, toStdvec serde activity⟩

/-! ### The round trip -/

theorem ActivityId.roundTrip : RoundTrip ActivityId.serialize ActivityId.deserialize :=
  fun id rest => run_map_of_ok (Ulid.roundTrip id.ulid rest)

theorem ActivityPayload.roundTrip {serde : SchemaSerde S} (h : serde.Lawful) :
    RoundTrip (ActivityPayload.serialize serde) (ActivityPayload.deserialize serde) := by
  intro p rest
  cases p with
  | rebaseRequest r =>
    rw [serialize, deserialize, List.append_assoc,
      run_bind_of_ok (tryTakeVarintU32_varintU32 0 _ (by decide))]
    exact run_map_of_ok (h.rebaseRequest r rest)
  | rebaseFinished r =>
    rw [serialize, deserialize, List.append_assoc,
      run_bind_of_ok (tryTakeVarintU32_varintU32 1 _ (by decide))]
    exact run_map_of_ok (h.rebaseFinished r rest)
  | integrationTest t =>
    rw [serialize, deserialize, List.append_assoc,
      run_bind_of_ok (tryTakeVarintU32_varintU32 2 _ (by decide))]
    exact run_map_of_ok (h.integrationTest t rest)
  | integrationTestAlt t =>
    rw [serialize, deserialize, List.append_assoc,
      run_bind_of_ok (tryTakeVarintU32_varintU32 3 _ (by decide))]
    exact run_map_of_ok (h.integrationTestAlt t rest)

theorem Activity.roundTrip {serde : SchemaSerde S} (h : serde.Lawful) :
    RoundTrip (Activity.serialize serde) (Activity.deserialize serde) := by
  intro a rest
  simp only [serialize, deserialize, List.append_assoc]
  rw [run_bind_of_ok (ActivityId.roundTrip _ _), run_bind_of_ok (ActivityPayload.roundTrip h _ _),
    run_bind_of_ok (h.layeredEventMetadata _ _),
    run_bind_of_ok ((RoundTrip.option ActivityId.roundTrip) _ _)]
  rfl

/-- **Wire round trip.**  `from_bytes` of the payload `ActivityPublisher::publish`
sends is the activity it was given. -/
theorem from_bytes_publish_payload (forActivity : Option String → Activity S → String)
    (subjectPrefix : Option String) (serde : SchemaSerde S) (h : serde.Lawful) (a : Activity S) :
    fromBytes (Activity.deserialize serde)
      (ActivityPublisher.publish forActivity subjectPrefix serde a).payload = .ok a :=
  fromBytes_of_roundTrip (Activity.roundTrip h) a

/-! ### A schema to run the model on -/

/-- Field-less payload structs and metadata: each serializes to nothing. -/
def unitSchema : Schema := ⟨Unit, Unit, Unit, Unit, Unit⟩

/-- The derived impl of a field-less struct. -/
def unitSerde : Serde Unit := ⟨fun _ => [], pure ()⟩

def unitSchemaSerde : SchemaSerde unitSchema := ⟨unitSerde, unitSerde, unitSerde, unitSerde, unitSerde⟩

theorem unitSchemaSerde_lawful : unitSchemaSerde.Lawful :=
  ⟨fun _ _ => rfl, fun _ _ => rfl, fun _ _ => rfl, fun _ _ => rfl, fun _ _ => rfl⟩

/-- A rebase-finished activity that answers an earlier request. -/
def sampleActivity : Activity unitSchema :=
  .rebaseFinished ⟨⟨0x018D3F2A, by decide⟩⟩ () () ⟨⟨7, by decide⟩⟩

theorem from_bytes_publish_payload_sample :
    unitSchemaSerde.Lawful ∧
      fromBytes (Activity.deserialize unitSchemaSerde)
        (ActivityPublisher.publish (fun _ _ => "rebase.finished") none unitSchemaSerde
          sampleActivity).payload = .ok sampleActivity :=
  ⟨unitSchemaSerde_lawful, from_bytes_publish_payload _ _ _ unitSchemaSerde_lawful _⟩

end LayerCache
