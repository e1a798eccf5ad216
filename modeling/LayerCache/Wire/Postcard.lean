/-
The postcard wire format, as far as an `Activity` uses it.

`ActivityPublisher::publish` writes an activity with `postcard::to_stdvec`, and
`ActivityStream::process_message` and `RebaserRequestWorkQueue::process_message`
read it back with `postcard::from_bytes`.  The derived serde impls drive a few
of postcard's primitives, and this file models those: one byte
(`try_take_u8`), a run of bytes (`try_take_n`), the LEB128 varints of
`varint.rs` that carry lengths and enum tags, `str` as a length-prefixed UTF-8
slice, and `Option` as a tag byte.

A deserializer is a state function over the unread input, so `from_bytes` runs
one and drops whatever is left: postcard does not insist that the slice is used
up.  Each primitive comes with its round trip stated over arbitrary trailing
bytes, `de (ser a ++ rest) = ok (a, rest)`, because that is the form that
composes: reading two fields back is `run_bind_of_ok` twice.

The varint round trip is the one with content.  The writer stops at the first
value below 128; the reader gives up after `max` bytes and insists that the
last one carries no bits past the integer's width.  The two agree below
`2 ^ (7 * (max - 1)) * (maxLast + 1)`, which is `2 ^ 32` for `u32` and
`2 ^ 64` for a 64-bit `usize`.
-/
import Mathlib.Data.List.Basic
import Mathlib.Tactic.Ring

namespace LayerCache.Postcard

abbrev Bytes := List UInt8

/-- `postcard::Error`, the variants the readers below raise. -/
inductive Error
  | deserializeUnexpectedEnd
  | deserializeBadVarint
  | deserializeBadOption
  | deserializeBadUtf8
  | serdeDeCustom
  deriving DecidableEq, Repr

/-- A deserializer over a slice: it reads from the front and hands back the rest. -/
abbrev Deserializer := StateT Bytes (Except Error)

/-- `from_bytes`: run the deserializer and drop the unread rest. -/
def fromBytes {α : Type} (de : Deserializer α) (bytes : Bytes) : Except Error α :=
  (de.run bytes).map Prod.fst

/-- `de` reads back exactly what `ser` wrote, whatever follows it. -/
def RoundTrip {α : Type} (ser : α → Bytes) (de : Deserializer α) : Prop :=
  ∀ a rest, de.run (ser a ++ rest) = .ok (a, rest)

section

variable {α β : Type}

theorem run_bind_of_ok {x : Deserializer α} {f : α → Deserializer β} {s s' : Bytes} {a : α}
    (h : x.run s = .ok (a, s')) : (x >>= f).run s = (f a).run s' := by
  rw [StateT.run_bind, h]; rfl

theorem run_map_of_ok {x : Deserializer α} {f : α → β} {s s' : Bytes} {a : α}
    (h : x.run s = .ok (a, s')) : (f <$> x).run s = .ok (f a, s') := by
  rw [StateT.run_map, h]; rfl

theorem fromBytes_of_roundTrip {ser : α → Bytes} {de : Deserializer α} (h : RoundTrip ser de)
    (a : α) : fromBytes de (ser a) = .ok a := by
  have h' := h a []
  rw [List.append_nil] at h'
  rw [fromBytes, h']; rfl

end

/-! ### Bytes -/

def tryTakeU8 : Deserializer UInt8 := fun
  | [] => .error .deserializeUnexpectedEnd
  | b :: bs => .ok (b, bs)

@[simp] theorem tryTakeU8_cons (b : UInt8) (bs : Bytes) :
    tryTakeU8.run (b :: bs) = .ok (b, bs) := rfl

/-- `try_take_n`: the next `n` bytes, all of them or an error. -/
def tryTakeN (n : Nat) : Deserializer Bytes := fun bs =>
  if n ≤ bs.length then .ok (bs.take n, bs.drop n) else .error .deserializeUnexpectedEnd

theorem tryTakeN_append (s rest : Bytes) : (tryTakeN s.length).run (s ++ rest) = .ok (s, rest) := by
  simp [tryTakeN, StateT.run]

/-! ### Varints -/

/-- `varint_u32` / `varint_usize`, writing at most `max` bytes: seven bits a byte,
least significant first, the high bit set on every byte but the last. -/
def encodeVarint : (max : Nat) → Nat → Bytes
  | 0, _ => []
  | max + 1, value =>
    if value < 128 then [UInt8.ofNat value]
    else UInt8.ofNat (value % 128 + 128) :: encodeVarint max (value / 128)

/-- The loop of `try_take_varint_u32` / `try_take_varint_usize`: `left` bytes may
still be read, the next one is byte `i`, and `out` holds the bits read so far.
The last byte the loop may read must not exceed `maxLast`
(`max_of_last_byte`). -/
def takeVarint (maxLast : Nat) : (left i out : Nat) → Deserializer Nat
  | 0, _, _ => fun _ => .error .deserializeBadVarint
  | left + 1, i, out => do
    let val ← tryTakeU8
    let out := out + val.toNat % 128 * 2 ^ (7 * i)
    if val.toNat < 128 then
      if left = 0 ∧ maxLast < val.toNat then throw .deserializeBadVarint else pure out
    else takeVarint maxLast left (i + 1) out

def varintU32 (n : Nat) : Bytes := encodeVarint 5 n

/-- `varint_usize`, on a 64-bit target. -/
def varintUsize (n : Nat) : Bytes := encodeVarint 10 n

/-- `try_take_varint_u32`: five bytes at most, the fifth below `0x10`. -/
def tryTakeVarintU32 : Deserializer Nat := takeVarint 0x0F 5 0 0

/-- `try_take_varint_usize`: ten bytes at most, the tenth below `0x02`. -/
def tryTakeVarintUsize : Deserializer Nat := takeVarint 0x01 10 0 0

theorem takeVarint_cons (maxLast left i out : Nat) (b : UInt8) (bs : Bytes) :
    (takeVarint maxLast (left + 1) i out).run (b :: bs) =
      if b.toNat < 128 then
        (if left = 0 ∧ maxLast < b.toNat then .error .deserializeBadVarint
         else .ok (out + b.toNat % 128 * 2 ^ (7 * i), bs))
      else (takeVarint maxLast left (i + 1) (out + b.toNat % 128 * 2 ^ (7 * i))).run bs := by
  simp only [takeVarint]
  rw [run_bind_of_ok (tryTakeU8_cons b bs)]
  split <;> [split <;> rfl; rfl]

/-- A value below 128 is one byte, read back at once unless it is the last byte the
reader may take and exceeds `maxLast`. -/
theorem takeVarint_encodeVarint_of_lt {maxLast left : Nat} (i out : Nat) {v : Nat} (rest : Bytes)
    (hv : v < 128) (hlast : left = 0 → v ≤ maxLast) :
    (takeVarint maxLast (left + 1) i out).run (encodeVarint (left + 1) v ++ rest)
      = .ok (out + v * 2 ^ (7 * i), rest) := by
  have hb : (UInt8.ofNat v).toNat = v := UInt8.toNat_ofNat_of_lt (by simp [UInt8.size]; omega)
  simp only [encodeVarint, if_pos hv, List.singleton_append, takeVarint_cons, hb,
    Nat.mod_eq_of_lt hv, if_true]
  rw [if_neg (by omega)]

/-- The reader takes back what the writer wrote, below the bound the last byte
leaves room for. -/
theorem takeVarint_encodeVarint {maxLast : Nat} (hmax : maxLast < 128) (left : Nat) :
    ∀ (i out v : Nat) (rest : Bytes), v < 2 ^ (7 * left) * (maxLast + 1) →
      (takeVarint maxLast (left + 1) i out).run (encodeVarint (left + 1) v ++ rest)
        = .ok (out + v * 2 ^ (7 * i), rest) := by
  induction left with
  | zero =>
    intro i out v rest hv
    simp only [Nat.mul_zero, Nat.pow_zero, Nat.one_mul] at hv
    exact takeVarint_encodeVarint_of_lt i out rest (by omega) fun _ => by omega
  | succ left ih =>
    intro i out v rest hv
    by_cases hv' : v < 128
    · exact takeVarint_encodeVarint_of_lt i out rest hv' fun h => absurd h (Nat.succ_ne_zero _)
    · have hb : (UInt8.ofNat (v % 128 + 128)).toNat = v % 128 + 128 :=
        UInt8.toNat_ofNat_of_lt (by simp [UInt8.size]; omega)
      have hdiv : v / 128 < 2 ^ (7 * left) * (maxLast + 1) := by
        rw [Nat.div_lt_iff_lt_mul (by decide)]
        calc v < 2 ^ (7 * (left + 1)) * (maxLast + 1) := hv
          _ = 2 ^ (7 * left) * (maxLast + 1) * 128 := by ring
      rw [encodeVarint, if_neg hv']
      simp only [List.cons_append, takeVarint_cons, hb,
        show ¬ v % 128 + 128 < 128 by omega, if_false, Nat.add_mod_right, Nat.mod_mod]
      have hsum : out + v % 128 * 2 ^ (7 * i) + v / 128 * 2 ^ (7 * (i + 1)) = out + v * 2 ^ (7 * i) :=
        calc _ = out + (v % 128 + 128 * (v / 128)) * 2 ^ (7 * i) := by ring
          _ = out + v * 2 ^ (7 * i) := by rw [Nat.mod_add_div]
      rw [ih (i + 1) _ (v / 128) rest hdiv, hsum]

theorem tryTakeVarintU32_varintU32 (v : Nat) (rest : Bytes) (hv : v < 2 ^ 32) :
    tryTakeVarintU32.run (varintU32 v ++ rest) = .ok (v, rest) := by
  simpa using takeVarint_encodeVarint (by decide) 4 0 0 v rest (by omega)

theorem tryTakeVarintUsize_varintUsize (v : Nat) (rest : Bytes) (hv : v < 2 ^ 64) :
    tryTakeVarintUsize.run (varintUsize v ++ rest) = .ok (v, rest) := by
  simpa using takeVarint_encodeVarint (by decide) 9 0 0 v rest (by omega)

/-! ### UTF-8 and `str` -/

/-- A continuation byte, `10xxxxxx`. -/
def isCont (b : UInt8) : Bool := 0x80 ≤ b.toNat && b.toNat ≤ 0xBF

/-- The byte after a lead byte (Unicode table 3-7): narrower after `E0` (no
overlong forms), `ED` (no surrogates), `F0` and `F4` (nothing outside
`U+10000 ..= U+10FFFF`). -/
def secondOk (lead c : UInt8) : Bool :=
  if lead.toNat = 0xE0 then 0xA0 ≤ c.toNat && c.toNat ≤ 0xBF
  else if lead.toNat = 0xED then 0x80 ≤ c.toNat && c.toNat ≤ 0x9F
  else if lead.toNat = 0xF0 then 0x90 ≤ c.toNat && c.toNat ≤ 0xBF
  else if lead.toNat = 0xF4 then 0x80 ≤ c.toNat && c.toNat ≤ 0x8F
  else isCont c

/-- The check `core::str::from_utf8` makes: one ASCII byte, or a lead byte
followed by one to three continuation bytes. -/
def validUtf8 : Bytes → Bool
  | [] => true
  | b :: bs =>
    if b.toNat < 0x80 then validUtf8 bs else
    match bs with
    | c₁ :: bs₁ =>
      if 0xC2 ≤ b.toNat ∧ b.toNat ≤ 0xDF then isCont c₁ && validUtf8 bs₁ else
      match bs₁ with
      | c₂ :: bs₂ =>
        if 0xE0 ≤ b.toNat ∧ b.toNat ≤ 0xEF then secondOk b c₁ && isCont c₂ && validUtf8 bs₂ else
        match bs₂ with
        | c₃ :: bs₃ =>
          decide (0xF0 ≤ b.toNat ∧ b.toNat ≤ 0xF4) && secondOk b c₁ && isCont c₂ && isCont c₃ &&
            validUtf8 bs₃
        | [] => false
      | [] => false
    | [] => false

theorem validUtf8_of_ascii : ∀ bs : Bytes, (∀ b ∈ bs, b.toNat < 0x80) → validUtf8 bs = true
  | [], _ => rfl
  | b :: bs, h => by
    unfold validUtf8
    rw [if_pos (h b (List.mem_cons_self b bs))]
    exact validUtf8_of_ascii bs fun c hc => h c (List.mem_cons_of_mem b hc)

/-- `serialize_str`: the length as a `usize` varint, then the bytes. -/
def serializeStr (s : Bytes) : Bytes := varintUsize s.length ++ s

/-- `deserialize_str`: a length, that many bytes, and `from_utf8` over them. -/
def deserializeStr : Deserializer Bytes := do
  let sz ← tryTakeVarintUsize
  let bytes ← tryTakeN sz
  if validUtf8 bytes then pure bytes else throw .deserializeBadUtf8

theorem deserializeStr_serializeStr (s rest : Bytes) (hlen : s.length < 2 ^ 64)
    (hs : validUtf8 s = true) : deserializeStr.run (serializeStr s ++ rest) = .ok (s, rest) := by
  rw [deserializeStr, serializeStr, List.append_assoc,
    run_bind_of_ok (tryTakeVarintUsize_varintUsize _ _ hlen), run_bind_of_ok (tryTakeN_append s rest),
    if_pos hs]
  rfl

/-! ### `Option` -/

/-- `serialize_none` / `serialize_some`: a tag byte, then the value. -/
def serializeOption {α : Type} (ser : α → Bytes) : Option α → Bytes
  | none => [0]
  | some a => 1 :: ser a

/-- `deserialize_option`: `0` is `None`, `1` is `Some` and a value, anything else an error. -/
def deserializeOption {α : Type} (de : Deserializer α) : Deserializer (Option α) := do
  match (← tryTakeU8).toNat with
  | 0 => pure none
  | 1 => some <$> de
  | _ => throw .deserializeBadOption

theorem RoundTrip.option {α : Type} {ser : α → Bytes} {de : Deserializer α} (h : RoundTrip ser de) :
    RoundTrip (serializeOption ser) (deserializeOption de) := by
  intro a rest
  cases a with
  | none => rfl
  | some a =>
    rw [deserializeOption, serializeOption, List.cons_append, run_bind_of_ok (tryTakeU8_cons _ _)]
    exact run_map_of_ok (h a rest)

end LayerCache.Postcard
