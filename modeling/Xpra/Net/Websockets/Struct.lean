import Mathlib.Data.List.Basic
import Mathlib.Data.Nat.Bitwise

/-!
# Big-endian unsigned fields of the `struct` module

`xpra/net/websockets/header.py` packs and unpacks its frame headers with
`struct.pack` and `struct.unpack` on the formats `>BB`, `>BBH`, `>BBQ`, `>H`
and `>Q`.  All of them are big-endian unsigned fields of one, two or eight
bytes.  This file models exactly that part of `struct`.

* `toBytesBE` and `ofBytesBE` are the byte layout of one field, and
  `ofBytesBE_toBytesBE` reads back what was written, modulo the field width.
* `pack` raises `struct.error` when a value does not fit its field, and
  `unpackUnsigned` raises it when the buffer is not exactly the field width.
  `pack_ok` and `unpackUnsigned_toBytesBE` are the two facts the frame codec
  needs: in range, nothing is raised.
* `flagByte_lt`, `flagByte_low` and `flagByte_high` split a header byte into
  its top flag bit and the field below it.

Other format codes, signed fields, native byte order and alignment are not
modelled: no function of the codec uses them.
-/

namespace Xpra.Net.Websockets

/-- The exceptions the frame codec can raise. -/
inductive HybiError where
  /-- `ValueError` with its message. -/
  | valueError (message : String)
  /-- `struct.error`: a value out of range for its field, or a buffer of the
  wrong size for `struct.unpack`. -/
  | structError
  deriving DecidableEq, Repr

/-- The `width` bytes of `value`, most significant first.  `value` is taken
modulo `256 ^ width`. -/
def toBytesBE : Nat → Nat → List UInt8
  | 0, _ => []
  | width + 1, value => toBytesBE width (value / 256) ++ [UInt8.ofNat (value % 256)]

/-- The number a big-endian field holds. -/
def ofBytesBE (bytes : List UInt8) : Nat :=
  bytes.foldl (fun acc b => acc * 256 + b.toNat) 0

/-- `struct.pack` of one unsigned big-endian field of `width` bytes. -/
def packUnsigned (width value : Nat) : Except HybiError (List UInt8) :=
  if value < 256 ^ width then pure (toBytesBE width value) else throw .structError

/-- `struct.pack` of a big-endian format of unsigned fields, one
`(width, value)` pair per field. -/
def pack : List (Nat × Nat) → Except HybiError (List UInt8)
  | [] => pure []
  | (width, value) :: fields => do
    let bytes ← packUnsigned width value
    let rest ← pack fields
    pure (bytes ++ rest)

/-- `struct.unpack` of one unsigned big-endian field: the buffer must be
exactly `width` bytes long. -/
def unpackUnsigned (width : Nat) (bytes : List UInt8) : Except HybiError Nat :=
  if bytes.length = width then pure (ofBytesBE bytes) else throw .structError

/-- `struct.unpack(">BB", bytes)`. -/
def unpackBB (bytes : List UInt8) : Except HybiError (Nat × Nat) :=
  match bytes with
  | [b1, b2] => pure (b1.toNat, b2.toNat)
  | _ => throw .structError

/-! ## Layout of one field -/

@[simp] theorem length_toBytesBE (width value : Nat) :
    (toBytesBE width value).length = width := by
  induction width generalizing value with
  | zero => rfl
  | succ width ih => simp [toBytesBE, ih]

@[simp] theorem ofBytesBE_nil : ofBytesBE [] = 0 := rfl

theorem ofBytesBE_append_singleton (bytes : List UInt8) (b : UInt8) :
    ofBytesBE (bytes ++ [b]) = ofBytesBE bytes * 256 + b.toNat := by
  simp [ofBytesBE, List.foldl_append]

theorem ofBytesBE_toBytesBE (width value : Nat) :
    ofBytesBE (toBytesBE width value) = value % 256 ^ width := by
  induction width generalizing value with
  | zero => simp [toBytesBE, Nat.mod_one]
  | succ width ih =>
    have hbyte : (UInt8.ofNat (value % 256)).toNat = value % 256 := by
      simp [UInt8.toNat, UInt8.ofNat]
    rw [toBytesBE, ofBytesBE_append_singleton, ih, hbyte, Nat.pow_succ,
      Nat.mul_comm (256 ^ width) 256, Nat.mod_mul]
    omega

/-- A big-endian field is read from its own bytes only. -/
theorem ofBytesBE_lt (bytes : List UInt8) : ofBytesBE bytes < 256 ^ bytes.length := by
  induction bytes using List.reverseRecOn with
  | nil => decide
  | append_singleton bytes b ih =>
    rw [ofBytesBE_append_singleton, List.length_append, List.length_singleton, Nat.pow_succ]
    have : b.toNat < 256 := b.toNat_lt_size
    omega

/-! ## `struct.pack` and `struct.unpack` in range -/

theorem packUnsigned_ok {width value : Nat} (h : value < 256 ^ width) :
    packUnsigned width value = pure (toBytesBE width value) := by
  simp [packUnsigned, h]

/-- `struct.pack` raises nothing when every value fits its field. -/
theorem pack_ok (fields : List (Nat × Nat)) (h : ∀ f ∈ fields, f.2 < 256 ^ f.1) :
    pack fields = pure (fields.flatMap fun f => toBytesBE f.1 f.2) := by
  induction fields with
  | nil => rfl
  | cons f fields ih =>
    obtain ⟨width, value⟩ := f
    simp only [List.forall_mem_cons] at h
    simp [pack, packUnsigned_ok h.1, ih h.2]

theorem unpackUnsigned_toBytesBE {width value : Nat} (h : value < 256 ^ width) :
    unpackUnsigned width (toBytesBE width value) = pure value := by
  simp [unpackUnsigned, ofBytesBE_toBytesBE, Nat.mod_eq_of_lt h]

theorem unpackUnsigned_of_length {width : Nat} {bytes : List UInt8} (h : bytes.length = width) :
    unpackUnsigned width bytes = pure (ofBytesBE bytes) := by
  simp [unpackUnsigned, h]

/-! ## Header bytes: a flag in the top bit -/

/-- `x | 0x80 * flag` fits a byte when `x` does not reach the top bit. -/
theorem flagByte_lt {x : Nat} (hx : x < 128) (m : Bool) : x ||| 0x80 * m.toNat < 256 :=
  Nat.or_lt_two_pow (n := 8) (by omega) (by cases m <;> decide)

/-- The top bit does not reach a field below it. -/
theorem flagByte_low {y : Nat} (hy : y < 128) (x : Nat) (m : Bool) :
    (x ||| 0x80 * m.toNat) &&& y = x &&& y := by
  have hy7 : y.testBit 7 = false := Nat.testBit_lt_two_pow (by simpa using hy)
  have htop : (0x80 : Nat) &&& y = 0 := by
    rw [Nat.and_comm, show (0x80 : Nat) = 2 ^ 7 from rfl, Nat.and_two_pow, hy7]; rfl
  rw [Nat.and_distrib_right]
  cases m <;> simp [htop]

/-- The top bit reads back the flag. -/
theorem flagByte_high {x : Nat} (hx : x < 128) (m : Bool) :
    ((x ||| 0x80 * m.toNat) &&& 0x80 != 0) = m := by
  have h7 : x.testBit 7 = false := Nat.testBit_lt_two_pow (by simpa using hx)
  rw [show (0x80 : Nat) = 2 ^ 7 from rfl, Nat.and_two_pow, Nat.testBit_lor, h7]
  cases m <;> simp [show Nat.testBit 128 7 = true by decide]

end Xpra.Net.Websockets
