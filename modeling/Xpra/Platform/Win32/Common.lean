import Xpra.Util.Digits

/-!
# GUIDs (`xpra/platform/win32/common.py`)

`GUID.__str__` writes a GUID as Windows writes one in the registry,
`{xxxxxxxx-xxxx-xxxx-xxxx-xxxxxxxxxxxx}`: the fields in lowercase
hexadecimal, with zeros in front up to the width of their C type (`%08x`,
`%04x`, and `%02x` for each byte of `Data4`).  `GUID` carries the length of
`Data4` as a field, as the `c_ubyte * 8` array has it.

`parseGuid` reads such a text back.  `parseGuid_str` says that every GUID's
text is 38 characters long and reads back to that GUID, so no two GUIDs are
written alike.  It rests on `readHex_hexPad`: a field written with `%0*x`
(`hexPad`) reads back when its value fits its width, which the C types
guarantee; the digits themselves come from `Xpra.Util.toDigits_eq_map`.

`Data1` is a `c_ulong`, which is 32 bits wide on Windows.  The rest of the
file binds Windows system calls through `ctypes`, and is not modelled.
-/

namespace Xpra.Platform.Win32

open Xpra.Util

/-! ## The text of a GUID -/

/-- The `GUID` structure. -/
structure GUID where
  data1 : UInt32
  data2 : UInt16
  data3 : UInt16
  data4 : List UInt8
  data4_length : data4.length = 8
deriving DecidableEq

/-- `"%0*x" % (width, n)`: `n` in lowercase hexadecimal, with zeros in front up to
`width` digits. -/
def hexPad (width n : Nat) : String :=
  ⟨List.replicate (width - (Nat.toDigits 16 n).length) '0' ++ Nat.toDigits 16 n⟩

/-- `GUID.__str__`. -/
def GUID.str (g : GUID) : String :=
  "\x7b" ++ hexPad 8 g.data1.toNat ++ "-" ++ hexPad 4 g.data2.toNat ++ "-" ++
    hexPad 4 g.data3.toNat ++ "-" ++ String.join ((g.data4.take 2).map fun d => hexPad 2 d.toNat) ++
    "-" ++ String.join ((g.data4.drop 2).map fun d => hexPad 2 d.toNat) ++ "\x7d"

/-! ## Reading it back -/

/-- The value of a lowercase hexadecimal digit. -/
def hexDigitValue (c : Char) : Option Nat :=
  if c.isDigit then some (c.toNat - '0'.toNat)
  else if 'a' ≤ c ∧ c ≤ 'f' then some (c.toNat - 'a'.toNat + 10)
  else none

/-- The value of one or more hexadecimal digits, most significant first. -/
def hexValue (cs : List Char) : Option Nat :=
  if cs ≠ [] ∧ cs.all fun c => (hexDigitValue c).isSome then
    some (cs.foldl (fun n c => 16 * n + (hexDigitValue c).getD 0) 0)
  else none

/-- `width` hexadecimal digits at the front of `cs`, and what follows them. -/
def readHex (width : Nat) (cs : List Char) : Option (Nat × List Char) :=
  if width ≤ cs.length then (hexValue (cs.take width)).map fun n => (n, cs.drop width)
  else none

/-- `c` at the front of `cs`, and what follows it. -/
def expect (c : Char) : List Char → Option (List Char)
  | d :: cs => if d = c then some cs else none
  | [] => none

/-- `n` bytes of two hexadecimal digits each at the front of `cs`, and what follows them. -/
def readBytes : Nat → List Char → Option (List Nat × List Char)
  | 0, cs => some ([], cs)
  | n + 1, cs =>
    (readHex 2 cs).bind fun r => (readBytes n r.2).map fun rs => (r.1 :: rs.1, rs.2)

/-- `{xxxxxxxx-xxxx-xxxx-`: the first three fields. -/
def readFields (cs : List Char) : Option ((Nat × Nat × Nat) × List Char) := do
  let cs ← expect '{' cs
  let d1 ← readHex 8 cs
  let cs ← expect '-' d1.2
  let d2 ← readHex 4 cs
  let cs ← expect '-' d2.2
  let d3 ← readHex 4 cs
  let cs ← expect '-' d3.2
  pure ((d1.1, d2.1, d3.1), cs)

/-- `xxxx-xxxxxxxxxxxx}`: the eight bytes of `Data4`. -/
def readData4 (cs : List Char) : Option (List Nat × List Char) := do
  let head ← readBytes 2 cs
  let cs ← expect '-' head.2
  let tail ← readBytes 6 cs
  let cs ← expect '}' tail.2
  pure (head.1 ++ tail.1, cs)

/-- The GUID that a text `{xxxxxxxx-xxxx-xxxx-xxxx-xxxxxxxxxxxx}` stands for. -/
def parseGuid (s : String) : Option GUID := do
  let fields ← readFields s.data
  let data4 ← readData4 fields.2
  if h : data4.2 = [] ∧ data4.1.length = 8 then
    some ⟨fields.1.1.toUInt32, fields.1.2.1.toUInt16, fields.1.2.2.toUInt16,
      data4.1.map Nat.toUInt8, by rw [List.length_map, h.2]⟩
  else none

example : parseGuid "\x7b00020400-0000-0000-c000-000000000046\x7d" =
    some ⟨0x20400, 0, 0, [0xc0, 0, 0, 0, 0, 0, 0, 0x46], rfl⟩ := by
  decide

/-! ## The round trip -/

theorem hexDigitValue_digitChar (k : Nat) (hk : k < 16) :
    hexDigitValue (Nat.digitChar k) = some k := by
  have : ∀ k : Fin 16, hexDigitValue (Nat.digitChar k) = some k := by decide
  exact this ⟨k, hk⟩

theorem hexValue_map_digitChar {ks : List Nat} (hne : ks ≠ []) (hks : ∀ k ∈ ks, k < 16) :
    hexValue (ks.map Nat.digitChar) = some (digitsValueIn 16 ks) := by
  have hall : (ks.map Nat.digitChar).all fun c => (hexDigitValue c).isSome :=
    List.all_eq_true.2 fun c hc => by
      obtain ⟨k, hk, rfl⟩ := List.mem_map.1 hc
      simp [hexDigitValue_digitChar k (hks k hk)]
  rw [hexValue, if_pos ⟨by simpa using hne, hall⟩,
    foldl_map_digitChar _ (fun k hk => by simp [hexDigitValue_digitChar k hk]) ks hks]
  rfl

/-- What `%0*x` writes, as digits: `width` of them when the value fits. -/
theorem hexPad_data {width n : Nat} (hw : 0 < width) (h : n < 16 ^ width) :
    ∃ ks : List Nat, ks ≠ [] ∧ (∀ k ∈ ks, k < 16) ∧ ks.length = width ∧
      digitsValueIn 16 ks = n ∧ (hexPad width n).data = ks.map Nat.digitChar := by
  obtain ⟨ds, hne, hds, hval, hlen, he⟩ := toDigits_eq_map (by decide : 1 < 16) n
  have hle := hlen width hw h
  refine ⟨List.replicate (width - ds.length) 0 ++ ds, by simp [hne], ?_, ?_, ?_, ?_⟩
  · simpa [or_imp, forall_and] using hds
  · simp only [List.length_append, List.length_replicate]; omega
  · rw [digitsValueIn_zeros_append, hval]
  · show List.replicate _ '0' ++ Nat.toDigits 16 n = _
    rw [he, List.length_map, List.map_append, List.map_replicate]
    rfl

theorem length_hexPad {width n : Nat} (hw : 0 < width) (h : n < 16 ^ width) :
    (hexPad width n).data.length = width := by
  obtain ⟨ks, -, -, hlen, -, he⟩ := hexPad_data hw h
  rw [he, List.length_map, hlen]

/-- A field written with `%0*x` reads back, when its value fits its width. -/
theorem readHex_hexPad {width n : Nat} (hw : 0 < width) (h : n < 16 ^ width) (rest : List Char) :
    readHex width ((hexPad width n).data ++ rest) = some (n, rest) := by
  obtain ⟨ks, hne, hks, -, hval, he⟩ := hexPad_data hw h
  have hl := length_hexPad hw h
  rw [readHex, if_pos (by simp [hl]), List.take_left' hl, List.drop_left' hl, he,
    hexValue_map_digitChar hne hks, hval]
  rfl

theorem readBytes_hexPad (bs : List UInt8) (rest : List Char) :
    readBytes bs.length (bs.flatMap (fun b => (hexPad 2 b.toNat).data) ++ rest) =
      some (bs.map UInt8.toNat, rest) := by
  induction bs with
  | nil => rfl
  | cons b bs ih =>
    have hb : b.toNat < 16 ^ 2 := b.toNat_lt_size
    simp only [List.length_cons, readBytes, List.flatMap_cons, List.append_assoc,
      readHex_hexPad (by decide) hb, Option.some_bind, ih, Option.map_some', List.map_cons]

theorem length_flatMap_hexPad (bs : List UInt8) :
    (bs.flatMap fun b => (hexPad 2 b.toNat).data).length = 2 * bs.length := by
  induction bs with
  | nil => rfl
  | cons b bs ih =>
    rw [List.flatMap_cons, List.length_append, ih, length_hexPad (by decide) b.toNat_lt_size,
      List.length_cons]
    omega

theorem data_join (l : List String) : (String.join l).data = l.flatMap String.data := by
  suffices ∀ acc : String, (l.foldl (fun r s => r ++ s) acc).data = acc.data ++ l.flatMap String.data
    from this ""
  induction l with
  | nil => simp
  | cons s l ih => intro acc; simp [ih]

@[simp] theorem toUInt32_toNat (d : UInt32) : d.toNat.toUInt32 = d :=
  UInt32.toNat.inj (UInt32.toNat_ofNat_of_lt d.toNat_lt_size)

@[simp] theorem toUInt16_toNat (d : UInt16) : d.toNat.toUInt16 = d :=
  UInt16.toNat.inj (UInt16.toNat_ofNat_of_lt d.toNat_lt_size)

@[simp] theorem toUInt8_toNat (d : UInt8) : d.toNat.toUInt8 = d :=
  UInt8.toNat.inj (UInt8.toNat_ofNat_of_lt d.toNat_lt_size)

@[simp] theorem expect_cons (c : Char) (cs : List Char) : expect c (c :: cs) = some cs := by
  simp [expect]

/-- Every GUID is written as 38 characters that read back to it. -/
theorem parseGuid_str (g : GUID) : parseGuid g.str = some g ∧ g.str.length = 38 := by
  obtain ⟨d1, d2, d3, data4, hlen⟩ := g
  have h1 : d1.toNat < 16 ^ 8 := d1.toNat_lt_size
  have h2 : d2.toNat < 16 ^ 4 := d2.toNat_lt_size
  have h3 : d3.toNat < 16 ^ 4 := d3.toNat_lt_size
  have htake : (data4.take 2).length = 2 := by simp [hlen]
  have hdrop : (data4.drop 2).length = 6 := by simp [hlen]
  have hdata : (GUID.str ⟨d1, d2, d3, data4, hlen⟩).data =
      '{' :: ((hexPad 8 d1.toNat).data ++ '-' :: ((hexPad 4 d2.toNat).data ++ '-' ::
        ((hexPad 4 d3.toNat).data ++ '-' ::
          ((data4.take 2).flatMap (fun b => (hexPad 2 b.toNat).data) ++ '-' ::
            ((data4.drop 2).flatMap (fun b => (hexPad 2 b.toNat).data) ++ ['}']))))) := by
    simp only [GUID.str, String.data_append, data_join, List.flatMap_map, List.append_assoc,
      List.cons_append, List.singleton_append]
    rfl
  constructor
  · have hb := readBytes_hexPad (data4.take 2) ('-' ::
      ((data4.drop 2).flatMap (fun b => (hexPad 2 b.toNat).data) ++ ['}']))
    have hb' := readBytes_hexPad (data4.drop 2) ['}']
    rw [htake] at hb
    rw [hdrop] at hb'
    simp only [parseGuid, readFields, readData4, hdata, expect_cons, readHex_hexPad (by decide) h1,
      readHex_hexPad (by decide) h2, readHex_hexPad (by decide) h3, hb, hb', Option.some_bind, bind, pure]
    rw [← List.map_append, List.take_append_drop, dif_pos ⟨trivial, by simpa using hlen⟩]
    simp [Function.comp_def]
  · show (GUID.str _).data.length = 38
    rw [hdata]
    simp only [List.length_cons, List.length_append, length_hexPad (by decide) h1,
      length_hexPad (by decide) h2, length_hexPad (by decide) h3, length_flatMap_hexPad, htake,
      hdrop, List.length_nil]

end Xpra.Platform.Win32
