import Reframe.Fragment.Codec

/-
  Words and datagrams are read back as they were written,
  and are written as they were read: fragments and
  well-formed datagrams stand for each other.

  Main declarations:
    * `Bytes.word16At_ofWord16`
    * `Bytes.word32At_ofWord32`
    * `Bytes.valueAt`
    * `Fragment.decode_wire`
    * `Fragment.decode_of_encode`
    * `Fragment.IsDatagram`
    * `Fragment.wire_ofWire`
    * `Fragment.encodeInto_eq`
    * `Fragment.codec_is_bijective`
-/

namespace Reframe

------------------------------------------------------------
-- Little-Endian Words
------------------------------------------------------------

namespace Bytes

/- The word in front of a byte string is read back. -/
theorem word16At_ofWord16
    (w : UInt16)
    (rest : Bytes) :
    (ofWord16 w ++ rest).word16At 0 = w := by
  have hWord := w.toNat_lt
  apply UInt16.toNat_inj.mp
  simp [word16At, byteAt, ofWord16]
  omega

/- The word in front of a byte string is read back. -/
theorem word32At_ofWord32
    (w : UInt32)
    (rest : Bytes) :
    (ofWord32 w ++ rest).word32At 0 = w := by
  have hWord := w.toNat_lt
  apply UInt32.toNat_inj.mp
  simp [word32At, byteAt, ofWord32]
  omega

/- Bytes in front only shift the position of a byte. -/
theorem byteAt_append_right
    (front bs : Bytes)
    (i : Nat) :
    (front ++ bs).byteAt (front.length + i) =
      bs.byteAt i := by
  simp [byteAt, List.getD_eq_getElem?_getD,
    List.getElem?_append_right]

/- Bytes in front only shift the position of a word. -/
theorem word16At_append_right
    (front bs : Bytes) :
    (front ++ bs).word16At front.length =
      bs.word16At 0 := by
  have hLow := byteAt_append_right front bs 0
  have hHigh := byteAt_append_right front bs 1
  simp only [Nat.add_zero] at hLow
  simp only [word16At, hLow, hHigh, Nat.zero_add]

/- Bytes in front only shift the position of a word. -/
theorem word32At_append_right
    (front bs : Bytes) :
    (front ++ bs).word32At front.length =
      bs.word32At 0 := by
  have h₀ := byteAt_append_right front bs 0
  have h₁ := byteAt_append_right front bs 1
  have h₂ := byteAt_append_right front bs 2
  have h₃ := byteAt_append_right front bs 3
  simp only [Nat.add_zero] at h₀
  simp only [word32At, h₀, h₁, h₂, h₃, Nat.zero_add]

/-
  The number that some bytes from a position on make up, the
  least significant byte first.
-/
def valueAt
    (bs : Bytes)
    (i : Nat) : Nat → Nat
| 0 => 0
| n + 1 => bs.byteAt i + 256 * valueAt bs (i + 1) n

/- A byte is less than 256. -/
theorem byteAt_lt
    (bs : Bytes)
    (i : Nat) :
    bs.byteAt i < 256 :=
  UInt8.toNat_lt _

/- A two-byte word is the number that its bytes make up. -/
theorem toNat_word16At
    (bs : Bytes)
    (i : Nat) :
    (bs.word16At i).toNat = bs.valueAt i 2 := by
  have hLow := bs.byteAt_lt i
  have hHigh := bs.byteAt_lt (i + 1)
  rw [word16At, UInt16.toNat_ofNat_of_lt']
  · rfl
  · simp only [UInt16.size]
    omega

/- A four-byte word is the number that its bytes make up. -/
theorem toNat_word32At
    (bs : Bytes)
    (i : Nat) :
    (bs.word32At i).toNat = bs.valueAt i 4 := by
  have h₀ := bs.byteAt_lt i
  have h₁ := bs.byteAt_lt (i + 1)
  have h₂ := bs.byteAt_lt (i + 2)
  have h₃ := bs.byteAt_lt (i + 3)
  rw [word32At, UInt32.toNat_ofNat_of_lt']
  · simp only [valueAt, Nat.add_assoc, Nat.reduceAdd]
    omega
  · simp only [UInt32.size]
    omega

/- The number of a byte within the bytes gives it back. -/
theorem ofNat_byteAt
    {bs : Bytes}
    {i : Nat}
    (hWithin : i < bs.length) :
    UInt8.ofNat (bs.byteAt i) = bs[i] := by
  simp [byteAt, List.getD_eq_getElem?_getD, hWithin]

/- A two-byte word is written as it was read. -/
theorem take_append_ofWord16
    {bs : Bytes}
    {i : Nat}
    (hWithin : i + 2 ≤ bs.length) :
    bs.take i ++ ofWord16 (bs.word16At i) =
      bs.take (i + 2) := by
  have hLow := bs.byteAt_lt i
  have hValue := bs.toNat_word16At i
  simp only [valueAt] at hValue
  have hFirst :
      (bs.word16At i).toNat % 256 = bs.byteAt i := by
    omega
  have hSecond :
      (bs.word16At i).toNat / 256 = bs.byteAt (i + 1) := by
    omega
  rw [ofWord16, hFirst, hSecond, ofNat_byteAt (by omega),
    ofNat_byteAt (by omega),
    List.take_succ_eq_append_getElem (by omega),
    List.take_succ_eq_append_getElem (by omega)]
  simp only [List.append_assoc, List.cons_append,
    List.nil_append]

/- A four-byte word is written as it was read. -/
theorem take_append_ofWord32
    {bs : Bytes}
    {i : Nat}
    (hWithin : i + 4 ≤ bs.length) :
    bs.take i ++ ofWord32 (bs.word32At i) =
      bs.take (i + 4) := by
  have h₀ := bs.byteAt_lt i
  have h₁ := bs.byteAt_lt (i + 1)
  have h₂ := bs.byteAt_lt (i + 2)
  have hValue := bs.toNat_word32At i
  simp only [valueAt, Nat.add_assoc, Nat.reduceAdd]
    at hValue
  have hFirst :
      (bs.word32At i).toNat % 256 = bs.byteAt i := by
    omega
  have hSecond :
      (bs.word32At i).toNat / 256 % 256 =
        bs.byteAt (i + 1) := by
    omega
  have hThird :
      (bs.word32At i).toNat / 65536 % 256 =
        bs.byteAt (i + 2) := by
    omega
  have hFourth :
      (bs.word32At i).toNat / 16777216 =
        bs.byteAt (i + 3) := by
    omega
  rw [ofWord32, hFirst, hSecond, hThird, hFourth,
    ofNat_byteAt (by omega), ofNat_byteAt (by omega),
    ofNat_byteAt (by omega), ofNat_byteAt (by omega),
    List.take_succ_eq_append_getElem (by omega),
    List.take_succ_eq_append_getElem (by omega),
    List.take_succ_eq_append_getElem (by omega),
    List.take_succ_eq_append_getElem (by omega)]
  simp only [List.append_assoc, List.cons_append,
    List.nil_append]

end Bytes

------------------------------------------------------------
-- Datagrams
------------------------------------------------------------

namespace Fragment

/- The four words of a header stand where they are read. -/
theorem ofWire_wire
    (f : Fragment) :
    ofWire f.wire = f := by
  have hIndex :=
    Bytes.word16At_append_right (Bytes.ofWord32 f.frameId)
      (Bytes.ofWord16 f.index ++
        (Bytes.ofWord16 f.count ++
          (Bytes.ofWord32 (UInt32.ofNat f.payload.length) ++
            f.payload)))
  have hCount :=
    Bytes.word16At_append_right
      (Bytes.ofWord32 f.frameId ++ Bytes.ofWord16 f.index)
      (Bytes.ofWord16 f.count ++
        (Bytes.ofWord32 (UInt32.ofNat f.payload.length) ++
          f.payload))
  have hPayload : f.wire.drop headerSize = f.payload := by
    rw [wire, ← f.length_header, List.drop_left]
  have hFrameId : f.wire.word32At 0 = f.frameId := by
    simp only [wire, header, List.append_assoc,
      Bytes.word32At_ofWord32]
  simp only [Bytes.word16At_ofWord16, List.append_assoc,
    Bytes.length_ofWord32, Bytes.length_ofWord16,
    List.length_append] at hIndex hCount
  simp only [ofWire, hFrameId, hPayload]
  simp only [wire, header, List.append_assoc, hIndex,
    hCount]

/- A datagram declares the length of its payload. -/
theorem declaredLength_wire
    (f : Fragment) :
    declaredLength f.wire =
      UInt32.ofNat f.payload.length := by
  have hLength :=
    Bytes.word32At_append_right
      (Bytes.ofWord32 f.frameId ++ Bytes.ofWord16 f.index ++
        Bytes.ofWord16 f.count)
      (Bytes.ofWord32 (UInt32.ofNat f.payload.length) ++
        f.payload)
  simp only [Bytes.word32At_ofWord32, List.append_assoc,
    Bytes.length_ofWord32, Bytes.length_ofWord16,
    List.length_append] at hLength
  simpa only [declaredLength, wire, header,
    List.append_assoc] using hLength

/- The datagram of a fragment decodes to the fragment. -/
theorem decode_wire
    (f : Fragment)
    (hPayload : f.payload.length ≤ payloadLimit) :
    decode f.wire = .ok f := by
  have hDeclared :
      (UInt32.ofNat f.payload.length).toNat =
        f.payload.length := by
    simp only [payloadLimit] at hPayload
    exact UInt32.toNat_ofNat_of_lt' (by
      simp only [UInt32.size]
      omega)
  simp only [decode, declaredLength_wire, hDeclared,
    ofWire_wire, length_wire, wireSize]
  simp

/- What was encoded is decoded to the fragment. -/
theorem decode_of_encode
    {f : Fragment}
    {datagram : Bytes}
    (hEncode : f.encode [] = .ok datagram) :
    decode datagram = .ok f := by
  unfold encode at hEncode
  split at hEncode
  · simp at hEncode
  · rename_i hPayload
    simp only [List.nil_append, Except.ok.injEq] at hEncode
    rw [← hEncode]
    exact decode_wire f (by omega)

------------------------------------------------------------
-- Well-Formed Datagrams
------------------------------------------------------------

/-
  A datagram holds a header, and behind it as many bytes as
  the last four bytes of the header say.
-/
structure IsDatagram
    (d : Bytes) : Prop where
  headerSize_le : headerSize ≤ d.length
  valueAt_eq : d.valueAt 8 4 = d.length - headerSize

/- A well-formed datagram is that of its fragment. -/
theorem wire_ofWire
    {d : Bytes}
    (hDatagram : IsDatagram d) :
    (ofWire d).wire = d := by
  have hSize := hDatagram.headerSize_le
  have hLength :
      UInt32.ofNat (d.length - headerSize) =
        d.word32At 8 := by
    rw [← hDatagram.valueAt_eq, ← Bytes.toNat_word32At,
      UInt32.ofNat_toNat]
  have hHeader :
      (ofWire d).header = d.take headerSize := by
    simp only [headerSize] at hSize
    calc
      (ofWire d).header
          = d.take 0 ++ Bytes.ofWord32 (d.word32At 0) ++
              Bytes.ofWord16 (d.word16At 4) ++
              Bytes.ofWord16 (d.word16At 6) ++
              Bytes.ofWord32 (d.word32At 8) := by
            simp [header, ofWire, hLength]
      _ = d.take headerSize := by
            rw [Bytes.take_append_ofWord32 (by omega),
              Bytes.take_append_ofWord16 (by omega),
              Bytes.take_append_ofWord16 (by omega),
              Bytes.take_append_ofWord32 (by omega)]
            rfl
  rw [wire, hHeader]
  exact List.take_append_drop headerSize d

/- A well-formed datagram is decoded. -/
theorem decode_of_isDatagram
    {d : Bytes}
    (hDatagram : IsDatagram d) :
    decode d = .ok (ofWire d) := by
  have hSize := Nat.not_lt.mpr hDatagram.headerSize_le
  have hDeclared :
      d.length - headerSize = (declaredLength d).toNat := by
    rw [declaredLength, Bytes.toNat_word32At,
      hDatagram.valueAt_eq]
  simp only [decode, if_neg hSize, if_pos hDeclared]

/- A datagram without a whole header is refused. -/
theorem decode_of_short
    {d : Bytes}
    (hShort : d.length < headerSize) :
    decode d = .error (.malformedHeader d.length) := by
  simp only [decode, if_pos hShort]

/- A datagram that declares another length is refused. -/
theorem decode_of_mismatch
    {d : Bytes}
    (hSize : headerSize ≤ d.length)
    (hOther : d.valueAt 8 4 ≠ d.length - headerSize) :
    decode d =
      .error
        (.lengthMismatch (d.word32At 8)
          (d.length - headerSize)) := by
  have hDeclared :
      d.length - headerSize ≠ (declaredLength d).toNat := by
    rw [declaredLength, Bytes.toNat_word32At]
    exact hOther.symm
  simp only [decode, if_neg (Nat.not_lt.mpr hSize),
    if_neg hDeclared]
  rfl

/- The well-formed datagrams are those that are decoded. -/
theorem decode_eq_ok_iff
    (d : Bytes)
    (f : Fragment) :
    decode d = .ok f ↔ IsDatagram d ∧ f = ofWire d := by
  constructor
  · intro hDecode
    by_cases hSize : headerSize ≤ d.length
    · by_cases hSame :
          d.valueAt 8 4 = d.length - headerSize
      · have hDatagram : IsDatagram d := ⟨hSize, hSame⟩
        rw [decode_of_isDatagram hDatagram,
          Except.ok.injEq] at hDecode
        exact ⟨hDatagram, hDecode.symm⟩
      · rw [decode_of_mismatch hSize hSame] at hDecode
        cases hDecode
    · rw [decode_of_short (by omega)] at hDecode
      cases hDecode
  · rintro ⟨hDatagram, rfl⟩
    exact decode_of_isDatagram hDatagram

------------------------------------------------------------
-- Writing To A Buffer
------------------------------------------------------------

/- Bytes are written behind those of the buffer. -/
theorem run_put
    (bs buffer : Bytes) :
    ((BufferWrite.put bs).run.run buffer).run =
      (.ok (), buffer ++ bs) :=
  rfl

/- Writing goes on behind the bytes that were written. -/
theorem run_put_bind
    (bs buffer : Bytes)
    (next : Unit → BufferWrite Unit) :
    ((BufferWrite.put bs >>= next).run.run buffer).run =
      ((next ()).run.run (buffer ++ bs)).run :=
  rfl

/-
  Writing word by word comes to the whole datagram, and a
  fragment that is refused leaves the buffer as it was.
-/
theorem encodeInto_eq
    (f : Fragment)
    (buffer : Bytes) :
    f.encodeInto buffer =
      match f.encode buffer with
      | .error e => (.error e, buffer)
      | .ok after => (.ok (), after) := by
  unfold encodeInto write encode
  split
  · rfl
  · simp only [run_put_bind, run_put, wire, header,
      List.append_assoc]

/- A payload within the limit is written. -/
theorem encodeInto_of_fits
    {f : Fragment}
    (hFits : f.payload.length ≤ payloadLimit)
    (buffer : Bytes) :
    f.encodeInto buffer = (.ok (), buffer ++ f.wire) := by
  rw [encodeInto_eq, encode, if_neg (Nat.not_lt.mpr hFits)]

/- A payload past the limit is refused. -/
theorem encodeInto_of_exceeds
    {f : Fragment}
    (hExceeds : payloadLimit < f.payload.length)
    (buffer : Bytes) :
    f.encodeInto buffer =
      (.error
        (.payloadTooLarge f.payload.length payloadLimit),
        buffer) := by
  rw [encodeInto_eq, encode, if_pos hExceeds]

/- The payload of a datagram is within the limit. -/
theorem length_payload_ofWire_le
    {d : Bytes}
    (hDatagram : IsDatagram d) :
    (ofWire d).payload.length ≤ payloadLimit := by
  have hDeclared := (d.word32At 8).toNat_lt
  rw [Bytes.toNat_word32At, hDatagram.valueAt_eq]
    at hDeclared
  simp only [ofWire, List.length_drop, payloadLimit]
  omega

------------------------------------------------------------
-- Fragments And Datagrams
------------------------------------------------------------

/-
  Fragments whose payload has a length of four bytes and
  well-formed datagrams stand for each other, and all else
  is refused: fragments without a trace in the buffer, and
  datagrams for the header that they lack or the length that
  they declare.
-/
theorem codec_is_bijective :
    (∀ (f : Fragment) (buffer : Bytes),
      f.payload.length ≤ UInt32.size - 1 →
        ∃ d,
          f.encodeInto buffer = (.ok (), buffer ++ d) ∧
            d.length = f.wireSize ∧
            decode d = .ok f) ∧
      (∀ (f : Fragment) (buffer : Bytes) (e : FrameError),
        (f.encodeInto buffer).1 = .error e →
          UInt32.size - 1 < f.payload.length ∧
            e =
              .payloadTooLarge f.payload.length
                (UInt32.size - 1) ∧
            (f.encodeInto buffer).2 = buffer) ∧
      ∀ d : Bytes,
        ((∃ f, decode d = .ok f) ↔
            12 ≤ d.length ∧
              d.valueAt 8 4 = d.length - 12) ∧
          (∀ f, decode d = .ok f →
            f.frameId.toNat = d.valueAt 0 4 ∧
              f.index.toNat = d.valueAt 4 2 ∧
              f.count.toNat = d.valueAt 6 2 ∧
              f.payload = d.drop 12 ∧
              ∀ buffer,
                f.encodeInto buffer =
                  (.ok (), buffer ++ d)) ∧
          (d.length < 12 →
            decode d =
              .error (.malformedHeader d.length)) ∧
          (12 ≤ d.length →
            d.valueAt 8 4 ≠ d.length - 12 →
              ∃ declared : UInt32,
                declared.toNat = d.valueAt 8 4 ∧
                  decode d =
                    .error
                      (.lengthMismatch declared
                        (d.length - 12))) := by
  refine ⟨?_, ?_, fun d => ⟨?_, ?_, ?_, ?_⟩⟩
  · intro f buffer hFits
    exact
      ⟨f.wire, encodeInto_of_fits hFits buffer,
        f.length_wire, decode_wire f hFits⟩
  · intro f buffer e hError
    by_cases hFits : f.payload.length ≤ payloadLimit
    · rw [encodeInto_of_fits hFits] at hError
      cases hError
    · have hExceeds := Nat.lt_of_not_le hFits
      rw [encodeInto_of_exceeds hExceeds] at hError ⊢
      cases hError
      exact ⟨hExceeds, rfl, rfl⟩
  · constructor
    · rintro ⟨f, hDecode⟩
      rw [decode_eq_ok_iff] at hDecode
      exact
        ⟨hDecode.1.headerSize_le, hDecode.1.valueAt_eq⟩
    · rintro ⟨hSize, hValue⟩
      exact ⟨_, decode_of_isDatagram ⟨hSize, hValue⟩⟩
  · intro f hDecode
    rcases (decode_eq_ok_iff d f).mp hDecode with
      ⟨hDatagram, rfl⟩
    refine
      ⟨d.toNat_word32At 0, d.toNat_word16At 4,
        d.toNat_word16At 6, rfl, ?_⟩
    intro buffer
    have hFits := length_payload_ofWire_le hDatagram
    rw [encodeInto_of_fits hFits, wire_ofWire hDatagram]
  · exact decode_of_short
  · intro hSize hOther
    exact
      ⟨d.word32At 8, d.toNat_word32At 8,
        decode_of_mismatch hSize hOther⟩

/-
  A fragment of four different words is written behind two
  bytes and read back.  A payload that is one byte too long
  is refused, as are datagrams of eleven bytes, and of one
  byte too few or too many behind the header.
-/
theorem codec_is_bijective_at_bounds :
    let f : Fragment := ⟨0x04030201, 0x0605, 0x0807, [1, 2]⟩
    let d : Bytes :=
      [1, 2, 3, 4, 5, 6, 7, 8, 2, 0, 0, 0, 1, 2]
    let large : Fragment :=
      ⟨1, 0, 1, List.replicate UInt32.size 7⟩
    f.payload.length ≤ UInt32.size - 1 ∧
      (∃ w, f.encodeInto [8, 9] = (.ok (), [8, 9] ++ w) ∧
        w.length = 14 ∧ decode w = .ok f) ∧
      (large.encodeInto [8, 9]).1 =
        .error (.payloadTooLarge UInt32.size (UInt32.size - 1)) ∧
      (large.encodeInto [8, 9]).2 = [8, 9] ∧
      decode d = .ok f ∧
      f.encodeInto [8, 9] = (.ok (), [8, 9] ++ d) ∧
      decode (d.take 11) = .error (.malformedHeader 11) ∧
      (∃ declared : UInt32, declared.toNat = 2 ∧
        decode (d.take 13) =
          .error (.lengthMismatch declared 1)) ∧
      (∃ declared : UInt32, declared.toNat = 2 ∧
        decode (d ++ [3]) =
          .error (.lengthMismatch declared 3)) := by
  intro f d large
  have hFits : f.payload.length ≤ UInt32.size - 1 := by
    decide
  have hDecode : decode d = .ok f := by
    simp only [d, f]
    rfl
  have hLength : large.payload.length = UInt32.size :=
    List.length_replicate
  have hLarge :
      (large.encodeInto [8, 9]).1 =
        .error (.payloadTooLarge UInt32.size (UInt32.size - 1)) := by
    rw [encodeInto_of_exceeds, hLength]
    · rfl
    · rw [hLength]
      decide
  rcases codec_is_bijective with ⟨hWrite, hRefuse, hRead⟩
  rcases hRead d with ⟨_, hBack, _, _⟩
  rcases hRead (d.take 11) with ⟨_, _, hShort, _⟩
  rcases hRead (d.take 13) with ⟨_, _, _, hFew⟩
  rcases hRead (d ++ [3]) with ⟨_, _, _, hMany⟩
  rcases hBack f hDecode with ⟨_, _, _, _, hAgain⟩
  exact
    ⟨hFits, hWrite f [8, 9] hFits, hLarge,
      (hRefuse large [8, 9] _ hLarge).2.2, hDecode,
      hAgain [8, 9], hShort (by decide),
      hFew (by decide) (by decide),
      hMany (by decide) (by decide)⟩

end Fragment

end Reframe
