/-
ULIDs on the wire.

An `ActivityId` is a `ulid::Ulid`, a 128-bit number, and its serde impl writes
it as text: the 26-character Crockford base-32 string `array_to_str` builds,
which postcard frames as a `str`.  Reading it back goes through
`String::deserialize`, so through `from_utf8`, and then `Ulid::from_string`.

Twenty-six base-32 digits hold 130 bits, two more than a `u128` has, so the
text can name values a `Ulid` cannot hold.  `decode` shifts each digit in with
`(value << 5) | digit` on a `u128`, which silently drops the top bits: a text
whose first character is above `7` is accepted, and names the value it would
name without its top two bits.  The encoder never writes one: the top digit of
a 128-bit value is `value >> 125 < 8`.  That is why `decode (encode u) = u`
holds, and `decodeDigits_encodeToArray` is its general form: while the value
read so far stays below `2 ^ 128` the shift drops nothing, and reading `n`
digits back multiplies by `32 ^ n` and adds them.  The converse holds up to the
wrap: a text `decode` accepts is the encoder's text of its value, up to case,
exactly when its first character is at most `7` (`decode_canonical_iff`).
-/
import LayerCache.Wire.Postcard

namespace LayerCache

open Postcard

/-- `ulid::Ulid`: a `u128`. -/
@[ext]
structure Ulid where
  value : Nat
  lt : value < 2 ^ 128
  deriving DecidableEq

namespace Ulid

def len : Nat := 26

/-- `ALPHABET`, Crockford's base 32. -/
def alphabet : Bytes :=
  "0123456789ABCDEFGHJKMNPQRSTVWXYZ".toList.map fun c => UInt8.ofNat c.toNat

/-- The character of digit `d`. -/
def digit (d : Nat) : UInt8 := alphabet.getD d 0

/-- `encode_to_array`: `n` base-32 digits of `value`, most significant first.  The
loop fills the buffer from its end, five bits at a time. -/
def encodeToArray : (n : Nat) → Nat → Bytes
  | 0, _ => []
  | n + 1, value => encodeToArray n (value / 32) ++ [digit (value % 32)]

/-- `array_to_str`: the 26-character text of a ULID. -/
def arrayToStr (u : Ulid) : Bytes := encodeToArray len u.value

/-- `LOOKUP`: the digit a character stands for, in either case; `NO_VALUE` is `none`. -/
def lookup (c : UInt8) : Option Nat :=
  alphabet.indexOf? (if 0x61 ≤ c.toNat ∧ c.toNat ≤ 0x7A then c - 0x20 else c)

inductive DecodeError
  | invalidLength
  | invalidChar
  deriving DecidableEq, Repr

/-- The loop of `decode`: `value = (value << 5) | digit` on a `u128`. -/
def decodeDigits (value : Nat) : Bytes → Except DecodeError Nat
  | [] => .ok value
  | c :: cs =>
    match lookup c with
    | some d => decodeDigits ((value * 32 + d) % 2 ^ 128) cs
    | none => .error .invalidChar

/-- `base32::decode`: exactly 26 characters, each one `LOOKUP` knows. -/
def decode (encoded : Bytes) : Except DecodeError Nat :=
  if encoded.length ≠ len then .error .invalidLength
  else decodeDigits 0 encoded

def ofU128 (n : Nat) : Ulid := ⟨n % 2 ^ 128, Nat.mod_lt _ (Nat.two_pow_pos 128)⟩

def fromString (s : Bytes) : Except DecodeError Ulid := (decode s).map ofU128

/-- `Display for Ulid`: the same 26 characters, as a string. -/
def toString (u : Ulid) : String := String.mk (u.arrayToStr.map fun b => Char.ofNat b.toNat)

/-- `Serialize for Ulid`: its text, as a `str`. -/
def serialize (u : Ulid) : Bytes := serializeStr u.arrayToStr

/-- `Deserialize for Ulid`: a `String`, then `from_string`, whose error becomes a custom one. -/
def deserialize : Deserializer Ulid := do
  let s ← deserializeStr
  match fromString s with
  | .ok u => pure u
  | .error _ => throw .serdeDeCustom

/-! ### The digits -/

theorem lookup_digit {d : Nat} (hd : d < 32) : lookup (digit d) = some d := by
  have h : ∀ d : Fin 32, lookup (digit d) = some d := by decide
  exact h ⟨d, hd⟩

theorem digit_ascii {d : Nat} (hd : d < 32) : (digit d).toNat < 0x80 := by
  have h : ∀ d : Fin 32, (digit d).toNat < 0x80 := by decide
  exact h ⟨d, hd⟩

@[simp] theorem length_encodeToArray (n v : Nat) : (encodeToArray n v).length = n := by
  induction n generalizing v with
  | zero => rfl
  | succ n ih => simp [encodeToArray, ih]

theorem encodeToArray_ascii (n v : Nat) : ∀ b ∈ encodeToArray n v, b.toNat < 0x80 := by
  induction n generalizing v with
  | zero => simp [encodeToArray]
  | succ n ih =>
    intro b hb
    rcases List.mem_append.mp hb with hb | hb
    · exact ih _ b hb
    · rw [List.mem_singleton.mp hb]
      exact digit_ascii (Nat.mod_lt _ (by decide))

/-- The first character is the digit at position `n`, counting from the least
significant one. -/
theorem head?_encodeToArray (n v : Nat) :
    (encodeToArray (n + 1) v).head? = some (digit (v / 32 ^ n % 32)) := by
  induction n generalizing v with
  | zero => simp [encodeToArray]
  | succ n ih =>
    have hne : encodeToArray (n + 1) (v / 32) ≠ [] := by
      rw [← List.length_pos, length_encodeToArray]; omega
    rw [encodeToArray, List.head?_append_of_ne_nil _ hne, ih, Nat.div_div_eq_div_mul, ← pow_succ']

theorem decodeDigits_cons {value d : Nat} {c : UInt8} (cs : Bytes) (h : lookup c = some d) :
    decodeDigits value (c :: cs) = decodeDigits ((value * 32 + d) % 2 ^ 128) cs := by
  simp only [decodeDigits, h]

/-- Reading `n` digits back, while nothing overflows. -/
theorem decodeDigits_encodeToArray (n : Nat) :
    ∀ (acc v : Nat) (rest : Bytes), acc * 32 ^ n + v % 32 ^ n < 2 ^ 128 →
      decodeDigits acc (encodeToArray n v ++ rest) = decodeDigits (acc * 32 ^ n + v % 32 ^ n) rest := by
  induction n with
  | zero => intro acc v rest _; simp [encodeToArray, Nat.mod_one]
  | succ n ih =>
    intro acc v rest hlt
    have hsplit : v % 32 ^ (n + 1) = v / 32 % 32 ^ n * 32 + v % 32 := by
      rw [pow_succ', Nat.mod_mul]; ring
    have hstep : (acc * 32 ^ n + v / 32 % 32 ^ n) * 32 + v % 32 = acc * 32 ^ (n + 1) + v % 32 ^ (n + 1) := by
      rw [hsplit, pow_succ]; ring
    rw [encodeToArray, List.append_assoc, List.singleton_append, ih acc (v / 32) _ (by omega),
      decodeDigits_cons _ (lookup_digit (Nat.mod_lt _ (by decide))), hstep, Nat.mod_eq_of_lt hlt]

/-! ### The round trip -/

theorem decode_arrayToStr (u : Ulid) : decode u.arrayToStr = .ok u.value := by
  have hu := u.lt
  have h130 : (2 : Nat) ^ 128 < 32 ^ 26 := by decide
  have hdigits := decodeDigits_encodeToArray 26 0 u.value []
    (by rw [Nat.mod_eq_of_lt (by omega)]; omega)
  rw [List.append_nil, Nat.mod_eq_of_lt (by omega), zero_mul, zero_add] at hdigits
  rw [decode, if_neg (by simp [arrayToStr, len]), arrayToStr, len]
  exact hdigits.trans rfl

theorem fromString_arrayToStr (u : Ulid) : fromString u.arrayToStr = .ok u := by
  rw [fromString, decode_arrayToStr]
  show Except.ok (ofU128 u.value) = _
  congr
  exact Ulid.ext (Nat.mod_eq_of_lt u.lt)

theorem roundTrip : RoundTrip serialize deserialize := by
  intro u rest
  have hstr := deserializeStr_serializeStr u.arrayToStr rest
    (by simp [arrayToStr, len]) (validUtf8_of_ascii _ (encodeToArray_ascii _ _))
  rw [deserialize, serialize, run_bind_of_ok hstr, fromString_arrayToStr]
  rfl

/-- An ASCII byte survives the trip through a `char`. -/
theorem ofNat_toNat_ofNat_of_ascii {b : UInt8} (hb : b.toNat < 0x80) :
    UInt8.ofNat (Char.ofNat b.toNat).toNat = b := by
  have hv : b.toNat.isValidChar := Or.inl (by omega)
  have hc : (Char.ofNat b.toNat).toNat = b.toNat := by
    simp [Char.ofNat, hv, Char.ofNatAux, Char.toNat, UInt32.toNat]
  rw [hc]
  exact UInt8.toNat.inj (UInt8.toNat_ofNat_of_lt (UInt8.toNat_lt_size b))

/-- The text `Display` writes is, byte for byte, `array_to_str`. -/
theorem toString_bytes (u : Ulid) :
    (u.toString.data.map fun c => UInt8.ofNat c.toNat) = u.arrayToStr := by
  simp only [toString, List.map_map]
  conv_rhs => rw [← List.map_id u.arrayToStr]
  exact List.map_congr_left fun b hb => ofNat_toNat_ofNat_of_ascii (encodeToArray_ascii _ _ b hb)

/-! ### What `decode` accepts

The round trip says `decode` reads back what the encoder writes.  The converse
holds up to the wrap.  `LOOKUP` folds lowercase letters onto capitals and knows
only the 32 characters of the alphabet, and the shift keeps the value read so far
modulo `2 ^ 128`, so a text `decode` accepts is the encoder's text for its value,
up to case, exactly when its first digit is at most `7`.
-/

/-- The byte `LOOKUP` reads a character as: a lowercase letter as its capital. -/
def upcase (c : UInt8) : UInt8 := if 0x61 ≤ c.toNat ∧ c.toNat ≤ 0x7A then c - 0x20 else c

/-- A character `LOOKUP` knows is, up to case, the character of the digit it gives. -/
theorem digit_of_lookup {c : UInt8} {d : Nat} (h : lookup c = some d) : d < 32 ∧ digit d = upcase c := by
  obtain ⟨hd, heq, -⟩ := List.findIdx?_eq_some_iff_getElem.mp h
  have hlen : alphabet.length = 32 := rfl
  refine ⟨hlen ▸ hd, ?_⟩
  rw [digit, List.getD_eq_getElem?_getD, List.getElem?_eq_getElem hd, Option.getD_some]
  exact beq_iff_eq.mp heq

/-- `decode`'s loop, read backwards: the digits it took, the characters they came from. -/
theorem decodeDigits_eq_ok : ∀ {cs : Bytes} {acc v : Nat}, decodeDigits acc cs = .ok v →
    ∃ ds : List Nat, (∀ d ∈ ds, d < 32) ∧ ds.map digit = cs.map upcase ∧ cs.head?.bind lookup = ds.head? ∧
      v = ds.foldl (fun a d => (a * 32 + d) % 2 ^ 128) acc
  | [], acc, v, h => by
    simp only [decodeDigits, Except.ok.injEq] at h
    exact ⟨[], by simp, rfl, rfl, h.symm⟩
  | c :: cs, acc, v, h => by
    cases hc : lookup c with
    | none => simp [decodeDigits, hc] at h
    | some d =>
      rw [decodeDigits_cons _ hc] at h
      obtain ⟨ds, hlt, hmap, -, hv⟩ := decodeDigits_eq_ok h
      obtain ⟨hd, hdig⟩ := digit_of_lookup hc
      exact ⟨d :: ds, List.forall_mem_cons.mpr ⟨hd, hlt⟩, by simp [hdig, hmap], by simp [hc], hv⟩

/-- Digits read after `acc`, with nothing dropped. -/
theorem foldl_digits (ds : List Nat) : ∀ acc : Nat,
    ds.foldl (fun a d => a * 32 + d) acc = acc * 32 ^ ds.length + ds.foldl (fun a d => a * 32 + d) 0 := by
  induction ds with
  | nil => intro acc; simp
  | cons d ds ih =>
    intro acc
    simp only [List.foldl_cons, List.length_cons]
    rw [ih (acc * 32 + d), ih (0 * 32 + d)]
    ring

theorem foldl_digits_lt {ds : List Nat} (hds : ∀ d ∈ ds, d < 32) :
    ds.foldl (fun a d => a * 32 + d) 0 < 32 ^ ds.length := by
  induction ds with
  | nil => simp
  | cons d ds ih =>
    have hrest := ih fun e he => hds e (List.mem_cons_of_mem d he)
    have hd : d * 32 ^ ds.length ≤ 31 * 32 ^ ds.length :=
      Nat.mul_le_mul_right _ (Nat.le_of_lt_succ (hds d (List.mem_cons_self d ds)))
    rw [List.foldl_cons, foldl_digits, List.length_cons, pow_succ, Nat.zero_mul, Nat.zero_add]
    omega

/-- The `u128` shift is the plain base-32 reading with the top bits dropped. -/
theorem foldl_digits_mod (ds : List Nat) : ∀ {acc : Nat}, acc < 2 ^ 128 →
    ds.foldl (fun a d => (a * 32 + d) % 2 ^ 128) acc = ds.foldl (fun a d => a * 32 + d) acc % 2 ^ 128 := by
  induction ds with
  | nil => intro acc hacc; exact (Nat.mod_eq_of_lt hacc).symm
  | cons d ds ih =>
    intro acc _
    rw [List.foldl_cons, List.foldl_cons, ih (Nat.mod_lt _ (Nat.two_pow_pos 128)),
      foldl_digits ds ((acc * 32 + d) % 2 ^ 128), foldl_digits ds (acc * 32 + d), Nat.add_mod, Nat.mul_mod,
      Nat.mod_mod, ← Nat.mul_mod, ← Nat.add_mod]

/-- Writing the value of `n` digits gives those digits back. -/
theorem encodeToArray_foldl_digits {ds : List Nat} (hds : ∀ d ∈ ds, d < 32) (acc : Nat) :
    encodeToArray ds.length (ds.foldl (fun a d => a * 32 + d) acc) = ds.map digit := by
  induction ds using List.reverseRecOn with
  | nil => rfl
  | append_singleton ds d ih =>
    have hd : d < 32 := hds d (by simp)
    have hdiv : (ds.foldl (fun a d => a * 32 + d) acc * 32 + d) / 32 = ds.foldl (fun a d => a * 32 + d) acc := by
      omega
    have hmod : (ds.foldl (fun a d => a * 32 + d) acc * 32 + d) % 32 = d := by omega
    rw [List.foldl_append, List.length_append, List.length_singleton, encodeToArray, List.foldl_cons,
      List.foldl_nil, hdiv, hmod, ih fun e he => hds e (by simp [he]), List.map_append, List.map_singleton]

/-- A value `decode` returns fits in a `u128`. -/
theorem decode_lt {s : Bytes} {v : Nat} (h : decode s = .ok v) : v < 2 ^ 128 := by
  rw [decode, if_neg (by intro hlen; rw [if_pos hlen] at h; cases h)] at h
  obtain ⟨ds, -, -, -, rfl⟩ := decodeDigits_eq_ok h
  rw [foldl_digits_mod _ (Nat.two_pow_pos 128)]
  exact Nat.mod_lt _ (Nat.two_pow_pos 128)

/-- **What `decode` accepts.**  A text `decode` accepts is, up to the case of its
letters, the canonical text of the value it returns exactly when its first digit is
at most `7`; a larger first digit is wrapped away by the shift. -/
theorem decode_canonical_iff {s : Bytes} {v : Nat} (h : decode s = .ok v) :
    encodeToArray len v = s.map upcase ↔ (s.head?.bind lookup).any (· ≤ 7) := by
  unfold decode at h
  split at h
  · cases h
  rename_i hlen
  obtain ⟨ds, hds, hmap, hhead, rfl⟩ := decodeDigits_eq_ok h
  have hlen' : ds.length = 26 := by
    have := congrArg List.length hmap
    simp only [List.length_map] at this
    rw [this]
    simpa [len] using hlen
  obtain ⟨d₀, rest, rfl⟩ := List.exists_cons_of_length_eq_add_one hlen'
  have hd₀ : d₀ < 32 := hds d₀ (List.mem_cons_self _ _)
  have hlr : rest.length = 25 := by simpa using hlen'
  have h128 : (2 : Nat) ^ 128 = 8 * 32 ^ 25 := by decide
  rw [hhead, ← hmap, foldl_digits_mod _ (Nat.two_pow_pos 128), len]
  simp only [List.head?_cons, Option.any_some, decide_eq_true_eq]
  set F := (d₀ :: rest).foldl (fun a d => a * 32 + d) 0 with hF
  constructor
  · -- the first character written is the top digit of a value below `2 ^ 128`
    intro henc
    have htop := congrArg List.head? henc
    rw [head?_encodeToArray, List.map_cons, List.head?_cons, Option.some_inj] at htop
    have hdig : F % 2 ^ 128 / 32 ^ 25 % 32 = d₀ := by
      have := congrArg lookup htop
      rwa [lookup_digit (Nat.mod_lt _ (by decide)), lookup_digit hd₀, Option.some_inj] at this
    have hdiv : F % 2 ^ 128 / 32 ^ 25 < 8 := by
      rw [Nat.div_lt_iff_lt_mul (by decide)]
      have := Nat.mod_lt F (Nat.two_pow_pos 128)
      omega
    generalize F % 2 ^ 128 / 32 ^ 25 = q at hdig hdiv
    omega
  · -- nothing to wrap: the plain reading is below `2 ^ 128`
    intro hd₇
    have hrest := foldl_digits_lt fun e he => hds e (List.mem_cons_of_mem d₀ he)
    have hval : (d₀ :: rest).foldl (fun a d => a * 32 + d) 0 < 2 ^ 128 := by
      have h7 : d₀ * 32 ^ 25 ≤ 7 * 32 ^ 25 := Nat.mul_le_mul_right _ hd₇
      rw [List.foldl_cons, foldl_digits, hlr, Nat.zero_mul, Nat.zero_add]
      rw [hlr] at hrest
      omega
    rw [Nat.mod_eq_of_lt hval, ← hlen', encodeToArray_foldl_digits hds]

end Ulid

end LayerCache
