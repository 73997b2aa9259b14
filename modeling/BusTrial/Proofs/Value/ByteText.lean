import BusTrial.Proofs.Value.Reading
import BusTrial.Value.ByteText

/-!
# Texts as byte arrays, read back

`Value.toText` takes off one NUL, so a text keeps those that are its own.  It reads bytes in each of
the forms in which they come (`HoldsBytes`), and what it reads is told by the bytes alone.

* `toBytes_eq_ok_iff` — which values hold which bytes;
* `dropTerminator_eq_iff` — what is left when a NUL is taken off the end;
* `toText_eq_ok_iff` — a text is read exactly from its UTF-8 form, with a NUL behind it or with none
  at its end;
* **`ofText_toText`** — so texts and bytes are read back from each other, up to that NUL.
-/

namespace BusTrial

namespace Text

/-- The UTF-8 form of a text is that of its characters, one after the other. -/
theorem toUtf8_eq_flatMap (text : String) :
    toUtf8 text = text.toList.flatMap String.utf8EncodeChar := by
  have hbytes : text.toUTF8 = text.toList.utf8Encode := String.utf8Encode_toList.symm
  rw [toUtf8, hbytes, List.utf8Encode, List.data_toByteArray]

theorem decode_eq_ok_iff {bytes : List UInt8} {text : String} :
    decode bytes = .ok text ↔ bytes = toUtf8 text := by
  rw [← ofUtf8?_eq_some_iff, decode]
  cases ofUtf8? bytes <;> simp

end Text

namespace Value

variable {bytes : List UInt8} {text : String}

/-! ## Which bytes a value holds -/

/-- The value holds the bytes: as such or as an array of single bytes, in any number of variants. -/
inductive HoldsBytes (bytes : List UInt8) : Value → Prop
  | whole : HoldsBytes bytes (.bytes bytes)
  | listed : HoldsBytes bytes (.array (bytes.map .byte))
  | wrapped {inner : Value} (holds : HoldsBytes bytes inner) : HoldsBytes bytes (.variant inner)

theorem itemBytes_eq_ok_iff {items : List Value} :
    itemBytes items = .ok bytes ↔ items = bytes.map .byte := by
  induction items generalizing bytes with
  | nil => simp [itemBytes, eq_comm]
  | cons item rest ih =>
    cases item with
    | byte b =>
      rw [itemBytes, Success.map_eq_ok]
      constructor
      · rintro ⟨tail, htail, rfl⟩
        rw [ih.1 htail, List.map_cons]
      · intro h
        obtain ⟨_, tail, rfl, hb, htail⟩ := List.map_eq_cons_iff.1 h.symm
        cases hb
        exact ⟨tail, ih.2 htail.symm, rfl⟩
    -- any other item is refused
    | _ => cases bytes <;> simp [itemBytes]

theorem toBytes_eq_ok_iff : ∀ {v : Value}, v.toBytes = .ok bytes ↔ HoldsBytes bytes v
  | .bytes values => by
    rw [toBytes, Except.ok.injEq]
    exact ⟨by rintro rfl; exact .whole, by rintro ⟨⟩; rfl⟩
  | .array items => by
    rw [toBytes, itemBytes_eq_ok_iff]
    exact ⟨by rintro rfl; exact .listed, by rintro ⟨⟩; rfl⟩
  | .variant inner => by
    rw [toBytes, toBytes_eq_ok_iff (v := inner)]
    exact ⟨.wrapped, by rintro (_ | _ | h); exact h⟩
  | .bool _ | .byte _ | .int16 _ | .uint16 _ | .int32 _ | .uint32 _ | .int64 _ | .uint64 _
  | .double _ | .string _ | .objectPath _ | .signature _ | .dict _ | .struct _ =>
    ⟨nofun, nofun⟩

/-! ## Taking off a NUL -/

theorem dropTerminator_concat (bytes : List UInt8) : dropTerminator (bytes ++ [0]) = bytes := by
  rw [dropTerminator, if_pos List.getLast?_concat, List.dropLast_concat]

theorem dropTerminator_of_ne (h : bytes.getLast? ≠ some 0) : dropTerminator bytes = bytes :=
  if_neg h

theorem dropTerminator_eq_iff {front : List UInt8} : dropTerminator bytes = front ↔
    bytes = front ++ [0] ∨ bytes.getLast? ≠ some 0 ∧ bytes = front := by
  by_cases hlast : bytes.getLast? = some 0
  · obtain ⟨front', rfl⟩ := List.getLast?_eq_some_iff.1 hlast
    rw [dropTerminator_concat, List.append_left_inj]
    exact ⟨.inl, fun h => h.resolve_right fun hright => hright.1 hlast⟩
  · rw [dropTerminator_of_ne hlast]
    refine ⟨fun h => .inr ⟨hlast, h⟩, fun h => ?_⟩
    rcases h with rfl | ⟨-, rfl⟩
    · exact absurd List.getLast?_concat hlast
    · rfl

/-! ## Reading texts -/

/-- **A text is read exactly from its UTF-8 form**, with a NUL behind it or with none at its end. -/
theorem toText_eq_ok_iff {v : Value} : v.toText = .ok text ↔
    ∃ bytes, HoldsBytes bytes v ∧
      (bytes = Text.toUtf8 text ++ [0] ∨ bytes.getLast? ≠ some 0 ∧ bytes = Text.toUtf8 text) := by
  rw [toText, Success.bind_eq_ok]
  refine exists_congr fun bytes => ?_
  rw [toBytes_eq_ok_iff, Success.mapError_eq_ok, Text.decode_eq_ok_iff, dropTerminator_eq_iff]

/-- A list of the numbers of bytes is read as the bytes. -/
theorem decode_bytes (bytes : List UInt8) :
    decode "ay" (.array (bytes.map fun b => .int b.toNat)) = .ok (.bytes bytes) :=
  (decodeAs_bytes rfl).2 ⟨_, bytes, rfl, readBytes_eq_some.2 rfl, rfl⟩

/-- **Texts and byte arrays are read back from each other.**

* A text is read from its bytes with a NUL behind them, whatever the form in which these come and
  whatever NULs the text itself has.  `busctl` gives them as a list of numbers.
* Bytes are read as a text exactly if they are its UTF-8 form, when one NUL at the end is left out.
  The text then has these bytes, with a NUL behind them if they did not end in one. -/
theorem ofText_toText (text : String) (bytes : List UInt8) :
    let encoded := text.toList.flatMap String.utf8EncodeChar
    (ofText text).toText = .ok text ∧
      (∀ v, HoldsBytes (encoded ++ [0]) v → v.toText = .ok text) ∧
      decode "ay" (.array ((encoded ++ [0]).map fun b : UInt8 => .int b.toNat)) = .ok (ofText text) ∧
      ((Value.bytes bytes).toText = .ok text ↔
        bytes = encoded ++ [0] ∨ bytes.getLast? ≠ some 0 ∧ bytes = encoded) ∧
      ((Value.bytes bytes).toText = .ok text →
        ofText text = .bytes (if bytes.getLast? = some 0 then bytes else bytes ++ [0])) := by
  intro encoded
  have hencoded : Text.toUtf8 text = encoded := Text.toUtf8_eq_flatMap text
  have hofText : ofText text = .bytes (encoded ++ [0]) := by rw [ofText, hencoded]
  have hread : ∀ v, HoldsBytes (encoded ++ [0]) v → v.toText = .ok text := fun v hv =>
    toText_eq_ok_iff.2 ⟨_, hv, .inl (by rw [hencoded])⟩
  have hbytes : (Value.bytes bytes).toText = .ok text ↔
      bytes = encoded ++ [0] ∨ bytes.getLast? ≠ some 0 ∧ bytes = encoded := by
    rw [toText_eq_ok_iff, hencoded]
    constructor
    · rintro ⟨_, ⟨⟩, h⟩
      exact h
    · exact fun h => ⟨bytes, .whole, h⟩
  refine ⟨?_, hread, ?_, hbytes, fun h => ?_⟩
  · rw [hofText]
    exact hread _ .whole
  · rw [hofText]
    exact decode_bytes _
  · rw [hofText]
    rcases hbytes.1 h with rfl | ⟨hlast, rfl⟩
    · rw [if_pos List.getLast?_concat]
    · rw [if_neg hlast]

/-- A text with a NUL of its own at its end, as an array in two variants; without that and without
any other, it is the text before it. -/
theorem ofText_toText_nuls :
    (Value.variant (.variant (.array [.byte 0xc5, .byte 0xa1, .byte 0, .byte 0]))).toText
        = .ok "š\x00" ∧
      (Value.bytes [0xc5, 0xa1]).toText = .ok "š" ∧
      ofText "š" = .bytes [0xc5, 0xa1, 0] := by
  obtain ⟨-, hread, -⟩ := ofText_toText "š\x00" []
  obtain ⟨-, -, -, hbytes, hback⟩ := ofText_toText "š" [0xc5, 0xa1]
  have h : (Value.bytes [0xc5, 0xa1]).toText = .ok "š" :=
    hbytes.2 (.inr ⟨by decide, by decide +kernel⟩)
  refine ⟨hread _ (.wrapped (.wrapped ?_)), h, hback h⟩
  exact .listed

end Value

end BusTrial
