import Xpra.Net.Websockets.Header

/-!
# Frames written by `encode_hybi_header` decode to themselves

`encodeHybiHeader_eq` says what `encode_hybi_header` returns for an opcode
of four bits and a payload length below `2 ^ 64`: the bytes `headerBytes`,
with the 7-bit `lengthCode` in the second byte and, for long payloads, a 16-
or 64-bit big-endian length after it.  The `*_headerBytes_append` lemmas read
those bytes back through `headerLength`, `declaredLength` and `frameOf` of
`Header`, whatever follows them.  From there:

* `decodeHybi_unmasked_frame` and `decodeHybi_masked_frame` decode one frame
  followed by arbitrary bytes.  In the masked case the key sits right after
  the extended length field, where `decode_hybi` looks for it (`hlen - 4`).
* `decodeFrames` is a reader that decodes frames one after another and drops
  the bytes each one took.  `decodeFrames_encodeFrames` gives it back a whole
  sequence of unmasked frames.
* `closePacket` is `close_packet`, and `decodeHybi_closePacket` decodes it;
  `closePacket_code_too_large` is the status code that does not fit.
-/

namespace Xpra.Net.Websockets

/-! ## What `encode_hybi_header` writes -/

/-- The 7-bit length `encode_hybi_header` writes for a payload of `n` bytes. -/
def lengthCode (n : Nat) : Nat := if n ≤ 125 then n else if n < 65536 then 126 else 127

/-- The bytes `encode_hybi_header` returns when it raises nothing. -/
def headerBytes (opcode payloadLen : Nat) (hasMask fin : Bool) : List UInt8 :=
  toBytesBE 1 (opcode ||| 0x80 * fin.toNat) ++
    toBytesBE 1 (lengthCode payloadLen ||| 0x80 * hasMask.toNat) ++
    toBytesBE (extendedLengthSize (lengthCode payloadLen)) payloadLen

theorem lengthCode_lt (n : Nat) : lengthCode n < 128 := by
  unfold lengthCode; split_ifs <;> omega

/-- The header is two bytes and the extended length field: 2, 4 or 10 bytes
by length class. -/
theorem length_headerBytes (op n : Nat) (m f : Bool) :
    (headerBytes op n m f).length = 2 + extendedLengthSize (lengthCode n) ∧
      2 + extendedLengthSize (lengthCode n) =
        if n ≤ 125 then 2 else if n ≤ 65535 then 4 else 10 := by
  refine ⟨by simp [headerBytes]; omega, ?_⟩
  unfold lengthCode extendedLengthSize
  split_ifs <;> omega

/-- The extended length field holds the payload length, and a short payload
length is the 7-bit length itself. -/
theorem declared_lengthCode {n : Nat} (hn : n < 2 ^ 64) :
    (if extendedLengthSize (lengthCode n) = 0 then lengthCode n
      else n % 256 ^ extendedLengthSize (lengthCode n)) = n := by
  unfold lengthCode extendedLengthSize
  by_cases h1 : n ≤ 125
  · simp [h1, show n ≠ 126 by omega, show n ≠ 127 by omega]
  by_cases h2 : n < 65536
  · simp only [h1, h2, if_false, if_true]
    exact Nat.mod_eq_of_lt (show n < 65536 from h2)
  · simp only [h1, h2, if_false, if_true]
    exact Nat.mod_eq_of_lt (show n < 2 ^ 64 from hn)

theorem encodeHybiHeader_eq {op n : Nat} (hop : op ≤ 15) (hn : n < 2 ^ 64) (m f : Bool) :
    encodeHybiHeader op n m f = pure (headerBytes op n m f) := by
  have hop' : op &&& 0x0f = op :=
    Nat.and_pow_two_sub_one_of_lt_two_pow (n := 4) (by omega)
  have hb1 := flagByte_lt (show op < 128 by omega) f
  have hb2 := flagByte_lt (lengthCode_lt n) m
  rw [encodeHybiHeader, if_neg (by simp [hop']), headerBytes]
  by_cases h1 : n ≤ 125
  · have hc : lengthCode n = n := if_pos h1
    have he : extendedLengthSize n = 0 := by
      simp [extendedLengthSize, show n ≠ 126 by omega, show n ≠ 127 by omega]
    rw [hc] at hb2
    rw [if_pos h1, pack_ok _ (by simp [hb1, hb2]), hc, he]
    simp [toBytesBE]
  by_cases h2 : n < 65536
  · have hc : lengthCode n = 126 := by simp [lengthCode, h1, h2]
    rw [hc] at hb2
    rw [if_neg h1, if_pos h2, pack_ok _ (by simp [hb1, hb2]; exact h2), hc]
    simp [extendedLengthSize]
  · have hc : lengthCode n = 127 := by simp [lengthCode, h1, h2]
    rw [hc] at hb2
    rw [if_neg h1, if_neg h2, pack_ok _ (by simp [hb1, hb2]; exact hn), hc]
    simp [extendedLengthSize]

/-! ## Reading a header back -/

section Header

variable (op n : Nat) (m f : Bool) (rest : List UInt8)

theorem secondByte_headerBytes_append :
    secondByte (headerBytes op n m f ++ rest) = lengthCode n ||| 0x80 * m.toNat := by
  simp [secondByte, headerBytes, toBytesBE, UInt8.toNat, UInt8.ofNat,
    Nat.mod_eq_of_lt (flagByte_lt (lengthCode_lt n) m)]

theorem isMasked_headerBytes_append : isMasked (headerBytes op n m f ++ rest) = m := by
  rw [isMasked, secondByte_headerBytes_append, flagByte_high (lengthCode_lt n)]

theorem shortLength_headerBytes_append :
    shortLength (headerBytes op n m f ++ rest) = lengthCode n := by
  rw [shortLength, secondByte_headerBytes_append, flagByte_low (by decide),
    Nat.and_pow_two_sub_one_of_lt_two_pow (n := 7) (lengthCode_lt n)]

theorem headerLength_headerBytes_append :
    headerLength (headerBytes op n m f ++ rest) =
      (headerBytes op n m f).length + 4 * m.toNat := by
  rw [headerLength, isMasked_headerBytes_append, shortLength_headerBytes_append,
    (length_headerBytes op n m f).1]
  cases m
  · simp
  · simp; omega

theorem declaredLength_headerBytes_append (hn : n < 2 ^ 64) :
    declaredLength (headerBytes op n m f ++ rest) = n := by
  rw [declaredLength, shortLength_headerBytes_append]
  conv_rhs => rw [← declared_lengthCode hn]
  split
  · rfl
  · rw [← ofBytesBE_toBytesBE]
    congr 1
    simp [headerBytes, List.append_assoc, toBytesBE]

theorem firstByte_headerBytes_append (hop : op ≤ 15) :
    ((headerBytes op n m f ++ rest).getD 0 0).toNat &&& 0x0f = op ∧
      (((headerBytes op n m f ++ rest).getD 0 0).toNat &&& 0x80 != 0) = f := by
  have hb : ((headerBytes op n m f ++ rest).getD 0 0).toNat = op ||| 0x80 * f.toNat := by
    simp [headerBytes, toBytesBE, UInt8.toNat, UInt8.ofNat,
      Nat.mod_eq_of_lt (flagByte_lt (show op < 128 by omega) f)]
  rw [hb, flagByte_low (by decide), flagByte_high (by omega),
    Nat.and_pow_two_sub_one_of_lt_two_pow (n := 4) (by omega)]
  exact ⟨rfl, rfl⟩

end Header

/-! ## The mask -/

@[simp] theorem length_xorMask (key data : List UInt8) : (xorMask key data).length = data.length :=
  List.length_mapIdx

theorem xor_xor_cancel (a b : UInt8) : a ^^^ b ^^^ b = a := by
  obtain ⟨a⟩ := a
  obtain ⟨b⟩ := b
  show UInt8.mk ((a ^^^ b) ^^^ b) = UInt8.mk a
  rw [BitVec.xor_assoc, BitVec.xor_self, BitVec.xor_zero]

/-- Masking twice with one key gives the data back. -/
theorem xorMask_xorMask (key data : List UInt8) : xorMask key (xorMask key data) = data := by
  apply List.ext_getElem (by simp)
  intro i h₁ h₂
  simp only [xorMask, List.getElem_mapIdx, xor_xor_cancel]

/-! ## One frame -/

/-- An unmasked frame followed by any bytes decodes to its opcode, payload and
fin flag, and takes exactly the header and the payload. -/
theorem decodeHybi_unmasked_frame {op : Nat} (hop : op ≤ 15) (fin : Bool) (p r : List UInt8)
    (hp : p.length < 2 ^ 64) :
    decodeHybi (headerBytes op p.length false fin ++ p ++ r) =
      pure (some ⟨op, p, (headerBytes op p.length false fin).length + p.length, fin⟩) := by
  have hh := headerLength_headerBytes_append op p.length false fin (p ++ r)
  have hd := declaredLength_headerBytes_append op p.length false fin (p ++ r) hp
  obtain ⟨hop1, hfin⟩ := firstByte_headerBytes_append op p.length false fin (p ++ r) hop
  simp only [Bool.toNat_false, Nat.mul_zero, Nat.add_zero] at hh
  rw [List.append_assoc, decodeHybi_eq, if_neg (by simp [frameLength, hh, hd]), frameOf,
    hop1, hfin, framePayload, isMasked_headerBytes_append]
  simp [frameLength, hh, hd]

/-- A masked frame decodes to the unmasked payload: the key is read right
after the extended length field, and exactly the payload is unmasked. -/
theorem decodeHybi_masked_frame {op : Nat} (hop : op ≤ 15) (fin : Bool) (key p r : List UInt8)
    (hkey : key.length = 4) (hp : p.length < 2 ^ 64) :
    decodeHybi (headerBytes op p.length true fin ++ key ++ xorMask key p ++ r) =
      pure (some ⟨op, p, (headerBytes op p.length true fin).length + 4 + p.length, fin⟩) := by
  have hh := headerLength_headerBytes_append op p.length true fin (key ++ (xorMask key p ++ r))
  have hd := declaredLength_headerBytes_append op p.length true fin (key ++ (xorMask key p ++ r)) hp
  obtain ⟨hop1, hfin⟩ :=
    firstByte_headerBytes_append op p.length true fin (key ++ (xorMask key p ++ r)) hop
  simp only [Bool.toNat_true, Nat.mul_one] at hh
  rw [List.append_assoc, List.append_assoc, decodeHybi_eq,
    if_neg (by simp [frameLength, hh, hd, hkey]; omega), frameOf, hop1, hfin, framePayload,
    isMasked_headerBytes_append]
  simp [frameLength, hh, hd, hybiUnmask, hkey, xorMask_xorMask, List.drop_append_eq_append_drop,
    Nat.add_assoc, List.drop_eq_nil_of_le (Nat.le_add_right _ 4)]

/-! ## A sequence of frames -/

/-- The bytes a sender writes for a sequence of unmasked frames: for each
`(opcode, payload, fin)`, `encode_hybi_header(opcode, len(payload), False,
fin) + payload`. -/
def encodeFrames : List (Nat × List UInt8 × Bool) → Except HybiError (List UInt8)
  | [] => pure []
  | (op, p, fin) :: frames => do
    let header ← encodeHybiHeader op p.length false fin
    let rest ← encodeFrames frames
    pure (header ++ p ++ rest)

/-- A reader that decodes a frame off the front of the buffer and drops the
`length` bytes it took, until `decode_hybi` returns `None` or the fuel runs
out. -/
def decodeFramesFuel : Nat → List UInt8 → List (Nat × List UInt8 × Bool)
  | 0, _ => []
  | fuel + 1, buf =>
    match decodeHybi buf with
    | .ok (some f) => (f.opcode, f.payload, f.fin) :: decodeFramesFuel fuel (buf.drop f.length)
    | _ => []

/-- The reader with as much fuel as the buffer has bytes: every frame takes at
least two. -/
def decodeFrames (buf : List UInt8) : List (Nat × List UInt8 × Bool) :=
  decodeFramesFuel buf.length buf

section Frames

variable {frames : List (Nat × List UInt8 × Bool)}
  (hframes : ∀ fr ∈ frames, fr.1 ≤ 15 ∧ fr.2.1.length < 2 ^ 64)
include hframes

/-- The bytes of a sequence of frames, each header followed by its payload. -/
theorem encodeFrames_eq : encodeFrames frames =
    pure (frames.flatMap fun fr => headerBytes fr.1 fr.2.1.length false fr.2.2 ++ fr.2.1) := by
  induction frames with
  | nil => rfl
  | cons fr frames ih =>
    obtain ⟨op, p, fin⟩ := fr
    simp only [List.forall_mem_cons] at hframes
    simp [encodeFrames, encodeHybiHeader_eq hframes.1.1 hframes.1.2, ih hframes.2]

theorem length_le_length_flatMap :
    frames.length ≤
      (frames.flatMap fun fr => headerBytes fr.1 fr.2.1.length false fr.2.2 ++ fr.2.1).length := by
  induction frames with
  | nil => exact Nat.le_refl 0
  | cons fr frames ih =>
    simp only [List.forall_mem_cons] at hframes
    have := (length_headerBytes fr.1 fr.2.1.length false fr.2.2).1
    simp only [List.flatMap_cons, List.length_append, List.length_cons] at ih ⊢
    have := ih hframes.2
    omega

theorem decodeFramesFuel_flatMap (fuel : Nat) (hfuel : frames.length ≤ fuel) :
    decodeFramesFuel fuel
      (frames.flatMap fun fr => headerBytes fr.1 fr.2.1.length false fr.2.2 ++ fr.2.1) = frames := by
  induction frames generalizing fuel with
  | nil =>
    cases fuel with
    | zero => rfl
    | succ fuel => simp [decodeFramesFuel, decodeHybi, pure, Except.pure]
  | cons fr frames ih =>
    obtain ⟨op, p, fin⟩ := fr
    simp only [List.forall_mem_cons] at hframes
    obtain ⟨fuel, rfl⟩ : ∃ f, fuel = f + 1 := ⟨fuel - 1, by simp at hfuel; omega⟩
    have hdec := decodeHybi_unmasked_frame hframes.1.1 fin p
      (frames.flatMap fun fr => headerBytes fr.1 fr.2.1.length false fr.2.2 ++ fr.2.1) hframes.1.2
    simp only [List.flatMap_cons, decodeFramesFuel, hdec, pure, Except.pure]
    rw [List.drop_left' (List.length_append _ _), ih hframes.2 fuel (by simp at hfuel; omega)]

end Frames

/-! ## Round trips -/

/-- An unmasked frame written by `encode_hybi_header` decodes to itself,
whatever follows it, and takes a header of 2, 4 or 10 bytes by length class;
so a reader that decodes a stream of such frames one after another gets the
sequence back. -/
theorem hybi_unmasked_roundtrip :
    (∀ (op : Nat) (fin : Bool) (p r : List UInt8), op ≤ 15 → p.length < 2 ^ 64 →
      ∃ header, encodeHybiHeader op p.length false fin = pure header ∧
        header.length = (if p.length ≤ 125 then 2 else if p.length ≤ 65535 then 4 else 10) ∧
        decodeHybi (header ++ p ++ r) = pure (some ⟨op, p, header.length + p.length, fin⟩)) ∧
    (∀ frames : List (Nat × List UInt8 × Bool),
      (∀ fr ∈ frames, fr.1 ≤ 15 ∧ fr.2.1.length < 2 ^ 64) →
      ∃ bytes, encodeFrames frames = pure bytes ∧ decodeFrames bytes = frames) := by
  refine ⟨fun op fin p r hop hp => ?_, fun frames hframes => ?_⟩
  · obtain ⟨hlen, hclass⟩ := length_headerBytes op p.length false fin
    exact ⟨_, encodeHybiHeader_eq hop hp false fin, hlen.trans hclass,
      decodeHybi_unmasked_frame hop fin p r hp⟩
  · exact ⟨_, encodeFrames_eq hframes,
      decodeFramesFuel_flatMap hframes _ (length_le_length_flatMap hframes)⟩

theorem hybi_unmasked_roundtrip_hi :
    (∃ header, encodeHybiHeader 1 2 false true = pure header ∧ header.length = 2 ∧
      decodeHybi (header ++ [0x68, 0x69] ++ [0x81]) =
        pure (some ⟨1, [0x68, 0x69], header.length + 2, true⟩)) ∧
    ∃ bytes, encodeFrames [(1, [0x68, 0x69], false), (0, [0x21], true)] = pure bytes ∧
      decodeFrames bytes = [(1, [0x68, 0x69], false), (0, [0x21], true)] :=
  ⟨hybi_unmasked_roundtrip.1 1 true [0x68, 0x69] [0x81] (by decide) (by decide),
    hybi_unmasked_roundtrip.2 _ (by decide)⟩

/-- A masked frame decodes to the unmasked payload for every key and every
length class: the key is read right after the extended length field that
`encode_hybi_header` wrote, and exactly the payload is unmasked. -/
theorem hybi_masked_roundtrip (op : Nat) (fin : Bool) (key p r : List UInt8)
    (hop : op ≤ 15) (hkey : key.length = 4) (hp : p.length < 2 ^ 64) :
    ∃ header, encodeHybiHeader op p.length true fin = pure header ∧
      header.length = (if p.length ≤ 125 then 2 else if p.length ≤ 65535 then 4 else 10) ∧
      decodeHybi (header ++ key ++ xorMask key p ++ r) =
        pure (some ⟨op, p, header.length + 4 + p.length, fin⟩) := by
  obtain ⟨hlen, hclass⟩ := length_headerBytes op p.length true fin
  exact ⟨_, encodeHybiHeader_eq hop hp true fin, hlen.trans hclass,
    decodeHybi_masked_frame hop fin key p r hkey hp⟩

theorem hybi_masked_roundtrip_hi :
    ∃ header, encodeHybiHeader 1 2 true true = pure header ∧ header.length = 2 ∧
      decodeHybi (header ++ [0x37, 0xfa, 0x21, 0x3d] ++ xorMask [0x37, 0xfa, 0x21, 0x3d] [0x68, 0x69] ++
        [0x81]) = pure (some ⟨1, [0x68, 0x69], header.length + 4 + 2, true⟩) :=
  hybi_masked_roundtrip 1 true [0x37, 0xfa, 0x21, 0x3d] [0x68, 0x69] [0x81] (by decide) (by decide)
    (by decide)

/-! ## `close_packet` -/

/-- `close_packet(code, reason)`.  `OPCODE.CLOSE` comes from
`xpra.net.websockets.common`, which is not among the sources, and is a
parameter here. -/
def closePacket (opcodeClose code : Nat) (reason : String) : Except HybiError (List UInt8) := do
  let data ← pack [(2, code)]
  let data := if reason.isEmpty then data else data ++ reason.toUTF8.data.toList
  let header ← encodeHybiHeader opcodeClose data.length false true
  pure (header ++ data)

/-- A close packet is one final frame whose payload is the 16-bit status code
followed by the UTF-8 reason.  Nothing checks that the payload stays within
the 125 bytes of a control frame, and nothing needs to for it to decode. -/
theorem decodeHybi_closePacket {opcodeClose code : Nat} (hop : opcodeClose ≤ 15)
    (hcode : code < 65536) (reason : String)
    (hr : reason.toUTF8.data.toList.length + 2 < 2 ^ 64) :
    ∃ bytes, closePacket opcodeClose code reason = pure bytes ∧
      decodeHybi bytes = pure (some ⟨opcodeClose,
        toBytesBE 2 code ++ (if reason.isEmpty then [] else reason.toUTF8.data.toList),
        bytes.length, true⟩) := by
  have hpack : pack [(2, code)] = pure (toBytesBE 2 code) := by
    rw [pack_ok _ (by simpa using hcode)]; simp
  have hdata : (if reason.isEmpty then toBytesBE 2 code
      else toBytesBE 2 code ++ reason.toUTF8.data.toList) =
      toBytesBE 2 code ++ (if reason.isEmpty then [] else reason.toUTF8.data.toList) := by
    split <;> simp
  set data := toBytesBE 2 code ++ (if reason.isEmpty then [] else reason.toUTF8.data.toList)
  have hlen : data.length < 2 ^ 64 := by
    simp only [data, List.length_append, length_toBytesBE]
    split
    · simp
    · omega
  refine ⟨headerBytes opcodeClose data.length false true ++ data, ?_, ?_⟩
  · simp [closePacket, hpack, hdata, encodeHybiHeader_eq hop hlen]
  · simpa using decodeHybi_unmasked_frame hop true data [] hlen

theorem decodeHybi_closePacket_bye :
    ∃ bytes, closePacket 8 1000 "bye" = pure bytes ∧
      decodeHybi bytes = pure (some ⟨8,
        toBytesBE 2 1000 ++ (if "bye".isEmpty then [] else "bye".toUTF8.data.toList),
        bytes.length, true⟩) :=
  decodeHybi_closePacket (by decide) (by decide) "bye" (by decide)

example : closePacket 8 1000 "bye" = pure [0x88, 0x05, 0x03, 0xe8, 0x62, 0x79, 0x65] := rfl

/-- A status code that does not fit 16 bits makes `struct.pack("!H", code)`
raise. -/
theorem closePacket_code_too_large {code : Nat} (opcodeClose : Nat) (reason : String)
    (hcode : 65536 ≤ code) : closePacket opcodeClose code reason = throw .structError := by
  have hpack : pack [(2, code)] = throw .structError := by
    simp [pack, packUnsigned, Nat.not_lt.2 hcode]
  rw [closePacket, hpack]
  rfl

end Xpra.Net.Websockets
