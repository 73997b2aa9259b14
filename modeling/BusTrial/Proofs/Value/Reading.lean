import BusTrial.Proofs.Decimal
import BusTrial.Proofs.KeyMap
import BusTrial.Proofs.Signature.Grammar
import BusTrial.Value.Decode

/-!
# Reading JSON at a type

A JSON value is decoded by cutting the text of its type apart on the way down.  `CompleteType.Reads`
says what a JSON value says at a type without any text: it follows the grammar of types.  The two
agree on every type and every JSON value, as long as the variants that the reading comes to name
their types as the grammar writes them.

* `read_eq_some_iff` — basic types, with the ranges of the integers;
* `ofText_array`, `ofText_dict`, `ofText_struct` — the text of a type shows how it is put together;
* `decodeAs_array`, `decodeAs_dict`, `decodeAs_struct`, `decodeAs_variant` — which JSON values each
  shape takes, and what is decoded inside them;
* `decodeFields_iff` — a row of items is read as it says if each item is;
* `agrees_array`, `agrees_dict`, `agrees_struct`, `agrees_variant` — text and grammar agree about a
  value if they agree about its parts;
* `agrees_of_names`, **`decode_iff_reads`** — all types, by induction on the parts of the value.
-/

namespace BusTrial

/-! ## JSON values and their parts -/

namespace Json

/-- The items of an array or the values of the members of an object. -/
def parts : Json → List Json
  | .array items => items
  | .object members => members.map Prod.snd
  | _ => []

mutual

/-- What holds of a value whenever it holds of its parts holds of every value. -/
theorem induction_on_parts {P : Json → Prop}
    (step : ∀ data, (∀ part ∈ data.parts, P part) → P data) : ∀ data, P data
  | .null | .bool _ | .int _ | .float _ | .string _ => step _ (by simp [parts])
  | .array items => step _ (forall_items_of_step step items)
  | .object members => step _ (forall_members_of_step step members)

/-- The items of an array are parts of it. -/
theorem forall_items_of_step {P : Json → Prop}
    (step : ∀ data, (∀ part ∈ data.parts, P part) → P data) :
    ∀ items : List Json, ∀ item ∈ items, P item
  | [] => nofun
  | item :: rest => List.forall_mem_cons.2
      ⟨induction_on_parts step item, forall_items_of_step step rest⟩

/-- The values of the members of an object are parts of it. -/
theorem forall_members_of_step {P : Json → Prop}
    (step : ∀ data, (∀ part ∈ data.parts, P part) → P data) :
    ∀ members : List (String × Json), ∀ part ∈ members.map Prod.snd, P part
  | [] => nofun
  | (_, data) :: rest => List.forall_mem_cons.2
      ⟨induction_on_parts step data, forall_members_of_step step rest⟩

end

end Json

/-! ## Integers -/

namespace Value

section

variable {α : Type} {width : Nat} {data : Json}

/-- A JSON value that is read without a range is in that of 64 bits anyway. -/
theorem unsigned?_eq_within (data : Json) : data.unsigned? = unsignedWithin 64 data := by
  cases data with
  | int n =>
      cases h : Decimal.fitsUnsigned 64 n with
      | false => simp [unsignedWithin, Json.unsigned?, h]
      | true =>
          have hn : (n.toNat : Int) = n := by
            simp only [Decimal.fitsUnsigned, Bool.and_eq_true, decide_eq_true_eq] at h
            omega
          simp [unsignedWithin, Json.unsigned?, Option.filter, h, hn]
  | null | bool _ | float _ | string _ | array _ | object _ => rfl

/-- An integer that is read without a range is in that of 64 bits with a sign. -/
theorem signed?_eq_within (data : Json) : data.signed? = signedWithin 64 data := by
  cases data with
  | int n =>
      cases h : Decimal.fitsSigned 64 n <;> simp [signedWithin, Json.signed?, Option.filter, h]
  | null | bool _ | float _ | string _ | array _ | object _ => rfl

/-- Only an integer is read as one, and only if it is not too large for its type. -/
theorem unsignedWithin_eq_some {n : Nat} (hwidth : width ≤ 64) :
    unsignedWithin width data = some n ↔ data = .int n ∧ n < Decimal.twoTo width := by
  have hpow : Decimal.twoTo width ≤ Decimal.twoTo 64 :=
    Nat.pow_le_pow_right (by decide) hwidth
  cases data with
  | int m =>
      simp only [unsignedWithin, Json.unsigned?, Option.filter_eq_some_iff, Decimal.fitsUnsigned,
        Bool.and_eq_true, decide_eq_true_eq, Option.ite_none_right_eq_some, Option.some.injEq,
        Json.int.injEq]
      omega
  | null | bool _ | float _ | string _ | array _ | object _ =>
      simp [unsignedWithin, Json.unsigned?]

/-- Only an integer is read as one, and only if it is in the range of its type. -/
theorem signedWithin_eq_some {n : Int} (hwidth : width ≤ 64) :
    signedWithin width data = some n ↔ data = .int n ∧ Decimal.fitsSigned width n = true := by
  have hpow : Decimal.twoTo (width - 1) ≤ Decimal.twoTo (64 - 1) :=
    Nat.pow_le_pow_right (by decide) (by omega)
  cases data with
  | int m =>
      simp only [signedWithin, Json.signed?, Option.filter_eq_some_iff, Decimal.fitsSigned,
        Bool.and_eq_true, decide_eq_true_eq, Option.ite_none_right_eq_some, Option.some.injEq,
        Json.int.injEq]
      omega
  | null | bool _ | float _ | string _ | array _ | object _ =>
      simp [signedWithin, Json.signed?]

/-- An unsigned integer is read as the word with that number. -/
theorem unsignedWithin_map_eq_some {ofNat : Nat → α} {toNat : α → Nat} {make : α → Value}
    {value : Value} (hwidth : width ≤ 64) (hlt : ∀ x, toNat x < Decimal.twoTo width)
    (hto : ∀ n < Decimal.twoTo width, toNat (ofNat n) = n) (hof : ∀ x, ofNat (toNat x) = x) :
    (unsignedWithin width data).map (fun n => make (ofNat n)) = some value
      ↔ ∃ x, data = .int (toNat x) ∧ value = make x := by
  simp only [Option.map_eq_some_iff, unsignedWithin_eq_some hwidth]
  constructor
  · rintro ⟨n, ⟨rfl, hn⟩, rfl⟩
    exact ⟨ofNat n, by rw [hto n hn], rfl⟩
  · rintro ⟨x, rfl, rfl⟩
    exact ⟨toNat x, ⟨rfl, hlt x⟩, by rw [hof]⟩

/-- A signed integer is read as the word with that number. -/
theorem signedWithin_map_eq_some {ofInt : Int → α} {toInt : α → Int} {make : α → Value}
    {value : Value} (hwidth : width ≤ 64) (hfits : ∀ x, Decimal.fitsSigned width (toInt x) = true)
    (hto : ∀ n, Decimal.fitsSigned width n = true → toInt (ofInt n) = n)
    (hof : ∀ x, ofInt (toInt x) = x) :
    (signedWithin width data).map (fun n => make (ofInt n)) = some value
      ↔ ∃ x, data = .int (toInt x) ∧ value = make x := by
  simp only [Option.map_eq_some_iff, signedWithin_eq_some hwidth]
  constructor
  · rintro ⟨n, ⟨rfl, hn⟩, rfl⟩
    exact ⟨ofInt n, by rw [hto n hn], rfl⟩
  · rintro ⟨x, rfl, rfl⟩
    exact ⟨toInt x, ⟨rfl, hfits x⟩, by rw [hof]⟩

end

end Value

/-! ## Basic types -/

namespace BasicCode

/-- The kind of value that a basic type is read as; a handle is an unsigned number. -/
def kind : BasicCode → Value.BasicType
  | .bool => .bool
  | .byte => .byte
  | .int16 => .int16
  | .uint16 => .uint16
  | .int32 => .int32
  | .uint32 => .uint32
  | .handle => .uint32
  | .int64 => .int64
  | .uint64 => .uint64
  | .double => .double
  | .string => .string
  | .objectPath => .objectPath
  | .signature => .signature

/-- What a JSON value says at a basic type.  An integer keeps its number, so it is in the range of
the type; any number is a double. -/
inductive Reads : BasicCode → Json → Value → Prop
  | bool (b : Bool) : Reads .bool (.bool b) (.bool b)
  | byte (n : UInt8) : Reads .byte (.int n.toNat) (.byte n)
  | int16 (n : Int16) : Reads .int16 (.int n.toInt) (.int16 n)
  | uint16 (n : UInt16) : Reads .uint16 (.int n.toNat) (.uint16 n)
  | int32 (n : Int32) : Reads .int32 (.int n.toInt) (.int32 n)
  | uint32 (n : UInt32) : Reads .uint32 (.int n.toNat) (.uint32 n)
  | handle (n : UInt32) : Reads .handle (.int n.toNat) (.uint32 n)
  | int64 (n : Int64) : Reads .int64 (.int n.toInt) (.int64 n)
  | uint64 (n : UInt64) : Reads .uint64 (.int n.toNat) (.uint64 n)
  | whole (n : Int) : Reads .double (.int n) (.double (Decimal.nearestInt n))
  | double (x : Float) : Reads .double (.float x) (.double x)
  | string (text : String) : Reads .string (.string text) (.string text)
  | objectPath (text : String) : Reads .objectPath (.string text) (.objectPath text)
  | signature (text : String) : Reads .signature (.string text) (.signature text)

open Value

/-- A byte is read from its number. -/
theorem read_uint8 {data : Json} {value : Value} :
    BasicType.byte.read data = some value ↔ ∃ n : UInt8, data = .int n.toNat ∧ value = .byte n :=
  unsignedWithin_map_eq_some (by decide) UInt8.toNat_lt (fun _ h => UInt8.toNat_ofNat_of_lt' h)
    fun _ => UInt8.ofNat_toNat

/-- An unsigned integer of 16 bits is read from its number. -/
theorem read_uint16 {data : Json} {value : Value} :
    BasicType.uint16.read data = some value
      ↔ ∃ n : UInt16, data = .int n.toNat ∧ value = .uint16 n :=
  unsignedWithin_map_eq_some (by decide) UInt16.toNat_lt (fun _ h => UInt16.toNat_ofNat_of_lt' h)
    fun _ => UInt16.ofNat_toNat

/-- An unsigned integer of 32 bits is read from its number. -/
theorem read_uint32 {data : Json} {value : Value} :
    BasicType.uint32.read data = some value
      ↔ ∃ n : UInt32, data = .int n.toNat ∧ value = .uint32 n :=
  unsignedWithin_map_eq_some (by decide) UInt32.toNat_lt (fun _ h => UInt32.toNat_ofNat_of_lt' h)
    fun _ => UInt32.ofNat_toNat

/-- An unsigned integer of 64 bits is read from its number. -/
theorem read_uint64 {data : Json} {value : Value} :
    BasicType.uint64.read data = some value
      ↔ ∃ n : UInt64, data = .int n.toNat ∧ value = .uint64 n := by
  rw [BasicType.read, unsigned?_eq_within]
  exact unsignedWithin_map_eq_some le_rfl UInt64.toNat_lt
    (fun _ h => UInt64.toNat_ofNat_of_lt' h) fun _ => UInt64.ofNat_toNat

/-- A signed integer of 16 bits is read from its number. -/
theorem read_int16 {data : Json} {value : Value} :
    BasicType.int16.read data = some value ↔ ∃ n : Int16, data = .int n.toInt ∧ value = .int16 n :=
  signedWithin_map_eq_some (by decide)
    (fun n => Decimal.fitsSigned_iff.2 ⟨n.le_toInt, n.toInt_lt⟩)
    (fun _ h => (Decimal.fitsSigned_iff.1 h).elim Int16.toInt_ofInt_of_le)
    Int16.ofInt_toInt

/-- A signed integer of 32 bits is read from its number. -/
theorem read_int32 {data : Json} {value : Value} :
    BasicType.int32.read data = some value ↔ ∃ n : Int32, data = .int n.toInt ∧ value = .int32 n :=
  signedWithin_map_eq_some (by decide)
    (fun n => Decimal.fitsSigned_iff.2 ⟨n.le_toInt, n.toInt_lt⟩)
    (fun _ h => (Decimal.fitsSigned_iff.1 h).elim Int32.toInt_ofInt_of_le)
    Int32.ofInt_toInt

/-- A signed integer of 64 bits is read from its number. -/
theorem read_int64 {data : Json} {value : Value} :
    BasicType.int64.read data = some value
      ↔ ∃ n : Int64, data = .int n.toInt ∧ value = .int64 n := by
  rw [BasicType.read, signed?_eq_within]
  exact signedWithin_map_eq_some le_rfl
    (fun n => Decimal.fitsSigned_iff.2 ⟨n.le_toInt, n.toInt_lt⟩)
    (fun _ h => (Decimal.fitsSigned_iff.1 h).elim Int64.toInt_ofInt_of_le)
    Int64.ofInt_toInt

/-- A JSON value is read at a basic type as what it says. -/
theorem read_eq_some_iff (code : BasicCode) {data : Json} {value : Value} :
    code.kind.read data = some value ↔ code.Reads data value := by
  cases code with
  | byte | int16 | uint16 | int32 | uint32 | handle | int64 | uint64 =>
      simp only [kind, read_uint8, read_int16, read_uint16, read_int32, read_uint32, read_int64,
        read_uint64]
      constructor
      · rintro ⟨n, rfl, rfl⟩
        constructor
      · rintro ⟨⟩
        exact ⟨_, rfl, rfl⟩
  | bool | double | string | objectPath | signature =>
      constructor
      · intro h
        cases data <;> cases h <;> constructor
      · rintro ⟨⟩ <;> rfl

end BasicCode

/-! ## How a type is taken apart -/

namespace Value

/-- A single character shows its basic type. -/
theorem ofText_basic (code : BasicCode) : TypeShape.ofText [code.char] = .basic code.kind := by
  cases code <;> rfl

/-- An array is an `a` and what stands behind it, unless that begins like an entry or is a byte. -/
theorem ofText_element {element : List Char} (hbyte : element ≠ ['y'])
    (hbrace : element.head? ≠ some '\x7b') : TypeShape.ofText ('a' :: element) = .array element := by
  have hsingle : BasicType.ofText? ('a' :: element) = none := by
    cases element <;> rfl
  unfold TypeShape.ofText
  rw [hsingle]
  dsimp only
  split
  · rename_i heq
    injection heq with heq
    cases heq
  · rename_i heq
    injection heq with _ heq
    exact absurd heq hbyte
  · rename_i rest heq
    injection heq with _ heq
    exact absurd (congrArg List.head? heq) hbrace
  · rename_i heq
    injection heq with _ heq
    rw [heq]
  · rename_i heq
    injection heq with heq
    cases heq
  · rename_i hother _
    exact absurd rfl (hother element)

/-- The text of an array shows the text of the type of its items, unless these are bytes. -/
theorem ofText_array {element : CompleteType} (h : element ≠ .basic .byte) :
    TypeShape.ofText ('a' :: element.chars) = .array element.chars := by
  refine ofText_element (mt CompleteType.chars_eq_byte.1 h) fun hhead => ?_
  obtain ⟨rest, hchars⟩ := List.head?_eq_some_iff.1 hhead
  exact element.chars_ne_brace rest hchars

/-- The closing bracket is dropped from behind the text that it closes. -/
theorem dropClosing_append (cs : List Char) (closing : Char) :
    dropClosing closing (cs ++ [closing]) = some cs := by
  simp [dropClosing]

/-- The text of a dictionary shows that of its entries. -/
theorem ofText_dict (entry : List Char) :
    TypeShape.ofText ('a' :: '\x7b' :: (entry ++ ['\x7d'])) = .dict (some entry) := by
  rw [← dropClosing_append entry '\x7d']
  rfl

/-- The text of a struct shows that of its fields. -/
theorem ofText_struct (fields : List Char) :
    TypeShape.ofText ('(' :: (fields ++ [')'])) = .struct (some fields) := by
  rw [← dropClosing_append fields ')']
  cases fields <;> rfl

/-! ## How JSON is taken apart -/

section

variable {type : List Char} {data : Json} {value : Value}

/-- No array is read at a basic type. -/
theorem read_array (single : BasicType) (items : List Json) :
    single.read (.array items) = none := by
  cases single <;> rfl

/-- No object is read at a basic type. -/
theorem read_object (single : BasicType) (members : List (String × Json)) :
    single.read (.object members) = none := by
  cases single <;> rfl

attribute [local simp] decodeAs

/-- At the text of a basic type a JSON value is read as at that type. -/
theorem decodeAs_basic {single : BasicType} (h : TypeShape.ofText type = .basic single) :
    decodeAs type data = .ok value ↔ single.read data = some value := by
  cases data with
  | null | bool _ | int _ | float _ | string _ =>
      simp only [decodeAs, h]
      cases single.read _ <;> simp
  | array items => simp [h, read_array]
  | object members => simp [h, read_object]

/-- An array of bytes takes an array of numbers, and keeps them as bytes. -/
theorem decodeAs_bytes (h : TypeShape.ofText type = .bytes) :
    decodeAs type data = .ok value
      ↔ ∃ items bytes, data = .array items ∧ readBytes items = some bytes ∧
          .bytes bytes = value := by
  cases data with
  | null | bool _ | int _ | float _ | string _ | object _ => simp [h]
  | array items =>
      cases hbytes : readBytes items <;> simp [h, hbytes]

/-- An array takes an array, whose items are all read at one type. -/
theorem decodeAs_array {element : List Char} (h : TypeShape.ofText type = .array element) :
    decodeAs type data = .ok value
      ↔ ∃ items values, data = .array items ∧ decodeItems element items = .ok values ∧
          .array values = value := by
  cases data with
  | null | bool _ | int _ | float _ | string _ | object _ => simp [h]
  | array items => simp [h]

/-- A struct takes an array with an item for each field, read at the type of the field. -/
theorem decodeAs_struct {fields : List Char} {types : List (List Char)}
    (h : TypeShape.ofText type = .struct (some fields))
    (hfields : Signature.splitChars fields = .ok types) :
    decodeAs type data = .ok value
      ↔ ∃ items values, data = .array items ∧ types.length = items.length ∧
          decodeFields types items = .ok values ∧ .struct values = value := by
  have htypes : fieldTypes? fields = .ok types := by rw [fieldTypes?, hfields]; rfl
  cases data with
  | null | bool _ | int _ | float _ | string _ | object _ => simp [h, htypes]
  | array items =>
      by_cases hlength : types.length = items.length
      · simp [h, htypes, hlength]
      · simp [h, htypes, hlength]

/-- A dictionary takes an object, whose values are all read at one type; the last value of a key is
kept. -/
theorem decodeAs_dict {entry keyType valueType : List Char}
    (h : TypeShape.ofText type = .dict (some entry))
    (hentry : Signature.splitFirstChars entry = .ok (keyType, valueType)) (hkey : keyType ≠ []) :
    decodeAs type data = .ok value
      ↔ ∃ members entries, data = .object members ∧
          decodeMembers valueType members = .ok entries ∧
          .dict (KeyMap.ofList entries) = value := by
  cases data with
  | null | bool _ | int _ | float _ | string _ | array _ => simp [h, hentry]
  | object members => simp [h, hentry, hkey]

/-- Reading a member is looking it up and reading what was found. -/
theorem decodeMember_eq (type : List Char) (key : String) (members : KeyMap Json) :
    decodeMember type key members = (members.get? key).map (decodeAs type) := by
  induction members with
  | nil => rfl
  | cons member rest ih =>
      obtain ⟨k, data⟩ := member
      rw [decodeMember, KeyMap.get?]
      by_cases hkey : k = key
      · rw [if_pos hkey, if_pos hkey]
        rfl
      · rw [if_neg hkey, if_neg hkey, ih]

/-- A variant names its type by a text. -/
theorem variantType?_eq_some {members : KeyMap Json} {type : List Char} :
    variantType? members = some type
      ↔ members.get? "type" = some (.string (.ofList type)) := by
  rw [variantType?, Option.bind_eq_some_iff]
  constructor
  · rintro ⟨named, hnamed, htype⟩
    cases named <;> cases htype
    rw [hnamed, String.ofList_toList]
  · intro h
    exact ⟨_, h, by simp [Json.string?]⟩

/-- A variant takes an object that names a type and has data, which are read at that type. -/
theorem decodeAs_variant (h : TypeShape.ofText type = .variant) :
    decodeAs type data = .ok value
      ↔ ∃ members inner content found, data = .object members ∧
          KeyMap.get? "type" members = some (.string (.ofList inner)) ∧
          KeyMap.get? "data" members = some content ∧
          decodeAs inner content = .ok found ∧ .variant found = value := by
  cases data with
  | null | bool _ | int _ | float _ | string _ | array _ => simp [h]
  | object members =>
      simp only [← variantType?_eq_some]
      cases htype : variantType? members with
      | none => simp [h, htype]
      | some inner =>
          cases hdata : KeyMap.get? "data" members <;>
            simp [h, htype, decodeMember_eq, hdata]

end

/-! ### Rows

Items are read at one type each, the items of an array all at the same one; the values of the
members of an object are such a row as well.
-/

/-- A row is read item by item, and ends at the first item that is not read. -/
theorem decodeFields_cons (type : List Char) (types : List (List Char)) (item : Json)
    (rest : List Json) :
    decodeFields (type :: types) (item :: rest) = (do
      let value ← decodeAs type item
      return value :: (← decodeFields types rest)) := by
  rw [decodeFields]

/-- Without types nothing is read. -/
theorem decodeFields_nil_left (items : List Json) : decodeFields [] items = .ok [] := by
  cases items <;> simp [decodeFields]

/-- Without items nothing is read. -/
theorem decodeFields_nil_right (types : List (List Char)) : decodeFields types [] = .ok [] := by
  cases types <;> simp [decodeFields]

/-- The items of an array are a row with one type. -/
theorem decodeItems_eq_fields (element : List Char) (items : List Json) :
    decodeItems element items = decodeFields (List.replicate items.length element) items := by
  induction items with
  | nil => rfl
  | cons item rest ih =>
      rw [decodeItems, List.length_cons, List.replicate_succ, decodeFields_cons, ih]

/-- The values of the members of an object are a row with one type, put beside the keys. -/
theorem decodeMembers_eq_fields (type : List Char) (members : List (String × Json)) :
    decodeMembers type members
      = (decodeFields (List.replicate members.length type) (members.map Prod.snd)).map
          fun values => (members.map Prod.fst).zip values := by
  induction members with
  | nil => rfl
  | cons member rest ih =>
      obtain ⟨key, data⟩ := member
      rw [decodeMembers, List.length_cons, List.replicate_succ, List.map_cons, List.map_cons,
        decodeFields_cons, ih]
      cases decodeAs type data with
      | error e => rfl
      | ok value =>
          cases decodeFields (List.replicate rest.length type) (rest.map Prod.snd) <;> rfl

/-- Bytes are read from their numbers, one by one. -/
theorem readBytes_eq_some {items : List Json} {bytes : List UInt8} :
    readBytes items = some bytes ↔ items = bytes.map fun b => .int b.toNat := by
  induction items generalizing bytes with
  | nil => cases bytes <;> simp [readBytes]
  | cons item rest ih =>
      have hword : ∀ n, n < Decimal.twoTo 8 → (UInt8.ofNat n).toNat = n :=
        fun _ h => UInt8.toNat_ofNat_of_lt' h
      simp only [readBytes, Option.bind_eq_bind, Option.bind_eq_some_iff, Option.pure_def,
        Option.some.injEq, unsignedWithin_eq_some (show 8 ≤ 64 by decide), ih]
      constructor
      · rintro ⟨n, ⟨rfl, hn⟩, bytes, rfl, rfl⟩
        simp [hword n hn]
      · cases bytes with
        | nil => simp
        | cons b bytes =>
            intro h
            rw [List.map_cons, List.cons.injEq] at h
            exact ⟨b.toNat, ⟨h.1, b.toNat_lt⟩, bytes, h.2, by rw [UInt8.ofNat_toNat]⟩

/-! ### What a reading has come to

The type need not be one that the grammar writes: what is known is only that something was read.
-/

/-- Items that are read in a row are read one by one. -/
theorem decodeAs_of_decodeFields {types : List (List Char)} {items : List Json}
    {values : List Value} (hlength : types.length = items.length)
    (h : decodeFields types items = .ok values) :
    ∀ type item, (type, item) ∈ types.zip items → ∃ value, decodeAs type item = .ok value := by
  induction types generalizing items values with
  | nil => nofun
  | cons type types ih =>
      cases items with
      | nil => cases hlength
      | cons item items =>
          rw [decodeFields_cons] at h
          obtain ⟨value, hvalue, h⟩ := Success.bind_eq_ok.1 h
          obtain ⟨rest, hrest, h⟩ := Success.bind_eq_ok.1 h
          intro type' item' hmem
          rcases List.mem_cons.1 hmem with heq | hmem
          · cases heq
            exact ⟨value, hvalue⟩
          · exact ih (Nat.succ.inj hlength) hrest type' item' hmem

/-- Items that are read in a row at one type are read at it one by one. -/
theorem decodeAs_of_replicate {type : List Char} {items : List Json} {count : Nat}
    {values : List Value} (hcount : count = items.length)
    (h : decodeFields (List.replicate count type) items = .ok values) :
    ∀ item ∈ items, ∃ value, decodeAs type item = .ok value := by
  subst hcount
  have hzip : ∀ items : List Json, ∀ item ∈ items,
      (type, item) ∈ (List.replicate items.length type).zip items := by
    intro items
    induction items with
    | nil => nofun
    | cons first rest ih =>
        intro item hmem
        rw [List.length_cons, List.replicate_succ, List.zip_cons_cons]
        rcases List.mem_cons.1 hmem with rfl | hmem
        · exact List.mem_cons_self
        · exact List.mem_cons_of_mem _ (ih item hmem)
  exact fun item hmem =>
    decodeAs_of_decodeFields (List.length_replicate ..) h type item (hzip items item hmem)

/-- What comes out of a row has been read there. -/
theorem mem_of_decodeFields {types : List (List Char)} {items : List Json} {values : List Value}
    (h : decodeFields types items = .ok values) :
    ∀ value ∈ values, ∃ type, ∃ item ∈ items, decodeAs type item = .ok value := by
  induction types generalizing items values with
  | nil =>
      cases items <;>
        · cases h
          exact fun _ hmem => absurd hmem List.not_mem_nil
  | cons type types ih =>
      cases items with
      | nil =>
          cases h
          exact fun _ hmem => absurd hmem List.not_mem_nil
      | cons item items =>
          rw [decodeFields_cons] at h
          obtain ⟨first, hfirst, h⟩ := Success.bind_eq_ok.1 h
          obtain ⟨rest, hrest, h⟩ := Success.bind_eq_ok.1 h
          cases h
          intro value hmem
          rcases List.mem_cons.1 hmem with rfl | hmem
          · exact ⟨type, item, List.mem_cons_self, hfirst⟩
          · obtain ⟨type', item', hitem, hvalue⟩ := ih hrest value hmem
            exact ⟨type', item', List.mem_cons_of_mem _ hitem, hvalue⟩

section

variable {type : List Char} {data : Json} {value : Value}

/-- What is read at a dictionary is an object; the type of the keys may even be missing, if there
are no members. -/
theorem dict_of_decodeAs {entry : List Char} (hshape : TypeShape.ofText type = .dict (some entry))
    (h : decodeAs type data = .ok value) :
    ∃ keyType valueType members values,
      Signature.splitFirstChars entry = .ok (keyType, valueType) ∧ data = .object members ∧
        (keyType = [] → members = []) ∧
        decodeFields (List.replicate members.length valueType) (members.map Prod.snd)
          = .ok values ∧
        value = .dict (KeyMap.ofList ((members.map Prod.fst).zip values)) := by
  cases hentry : Signature.splitFirstChars entry with
  | error e => cases data <;> simp [decodeAs, hshape, hentry, Except.mapError] at h
  | ok parts =>
      obtain ⟨keyType, valueType⟩ := parts
      by_cases hkey : keyType = []
      · subst hkey
        cases data with
        | null | bool _ | int _ | float _ | string _ | array _ =>
            simp [decodeAs, hshape, hentry] at h
        | object members =>
            cases members with
            | nil =>
                simp [decodeAs, hshape, hentry, decodeMembers] at h
                exact ⟨[], valueType, [], [], rfl, rfl, fun _ => rfl, rfl, h.symm⟩
            | cons member rest => simp [decodeAs, hshape, hentry] at h
      · obtain ⟨members, entries, rfl, hentries, rfl⟩ := (decodeAs_dict hshape hentry hkey).1 h
        rw [decodeMembers_eq_fields] at hentries
        obtain ⟨values, hvalues, rfl⟩ := Success.map_eq_ok.1 hentries
        exact ⟨keyType, valueType, members, values, rfl, rfl, fun hnil => absurd hnil hkey,
          hvalues, rfl⟩

/-- What is read at a struct is an array, with an item for each field that the text was cut into. -/
theorem struct_of_decodeAs {fields : List Char}
    (hshape : TypeShape.ofText type = .struct (some fields)) (h : decodeAs type data = .ok value) :
    ∃ types items values, Signature.splitChars fields = .ok types ∧ data = .array items ∧
      types.length = items.length ∧ decodeFields types items = .ok values ∧
      value = .struct values := by
  cases hfields : Signature.splitChars fields with
  | error e => cases data <;> simp [decodeAs, hshape, fieldTypes?, hfields, Except.mapError] at h
  | ok types =>
      obtain ⟨items, values, rfl, hlength, hvalues, rfl⟩ := (decodeAs_struct hshape hfields).1 h
      exact ⟨types, items, values, rfl, rfl, hlength, hvalues, rfl⟩

/-- Nothing is read at a type that is not taken apart. -/
theorem decodeAs_ne_ok (hshape : TypeShape.ofText type = .dict none ∨
    TypeShape.ofText type = .struct none ∨ TypeShape.ofText type = .unknown) :
    decodeAs type data ≠ .ok value := by
  rcases hshape with hshape | hshape | hshape <;> cases data <;> simp [decodeAs, hshape]

end

end Value

/-! ## What JSON says at a type -/

namespace CompleteType

mutual

/-- What a JSON value says at a type. -/
inductive Reads : CompleteType → Json → Value → Prop
  | basic {code : BasicCode} {data : Json} {value : Value} :
    code.Reads data value → Reads (.basic code) data value
  /-- A variant says what its data does at the type that it names. -/
  | variant {members : KeyMap Json} {inner : CompleteType} {data : Json} {value : Value} :
    members.get? "type" = some (.string inner.text) → members.get? "data" = some data →
      Reads inner data value → Reads .variant (.object members) (.variant value)
  /-- An array of bytes is kept as bytes. -/
  | bytes (bytes : List UInt8) :
    Reads (.array (.basic .byte)) (.array (bytes.map fun b => .int b.toNat)) (.bytes bytes)
  | array {element : CompleteType} {items : List Json} {values : List Value} :
    element ≠ .basic .byte → ReadsRow (List.replicate items.length element) items values →
      Reads (.array element) (.array items) (.array values)
  /-- The values of the members are kept under their keys, whatever the type of the keys. -/
  | dict {key : BasicCode} {type : CompleteType} {members : KeyMap Json} {values : List Value} :
    ReadsRow (List.replicate members.length type) (members.map Prod.snd) values →
      Reads (.dict key type) (.object members)
        (.dict (KeyMap.ofList ((members.map Prod.fst).zip values)))
  | struct {first : CompleteType} {rest : List CompleteType} {items : List Json}
      {values : List Value} :
    ReadsRow (first :: rest) items values →
      Reads (.struct first rest) (.array items) (.struct values)

/-- What the items of a row say, one at each type. -/
inductive ReadsRow : List CompleteType → List Json → List Value → Prop
  | nil : ReadsRow [] [] []
  | cons {type : CompleteType} {types : List CompleteType} {item : Json} {items : List Json}
      {value : Value} {values : List Value} :
    Reads type item value → ReadsRow types items values →
      ReadsRow (type :: types) (item :: items) (value :: values)

end

/-- Reading the value at the type comes to a variant that names its type by the text. -/
inductive Names : CompleteType → Json → String → Prop
  | here {members : KeyMap Json} {text : String} :
    members.get? "type" = some (.string text) → Names .variant (.object members) text
  | inside {members : KeyMap Json} {inner : CompleteType} {data : Json} {text : String} :
    members.get? "type" = some (.string inner.text) → members.get? "data" = some data →
      Names inner data text → Names .variant (.object members) text
  | item {element : CompleteType} {items : List Json} {item : Json} {text : String} :
    item ∈ items → Names element item text → Names (.array element) (.array items) text
  | member {key : BasicCode} {type : CompleteType} {members : KeyMap Json} {data : Json}
      {text : String} :
    data ∈ members.map Prod.snd → Names type data text →
      Names (.dict key type) (.object members) text
  | field {first type : CompleteType} {rest : List CompleteType} {items : List Json} {item : Json}
      {text : String} :
    (type, item) ∈ (first :: rest).zip items → Names type item text →
      Names (.struct first rest) (.array items) text

/-- A row has as many items as types, and says as many values. -/
theorem lengths_of_readsRow {types : List CompleteType} {items : List Json} {values : List Value}
    (h : ReadsRow types items values) :
    types.length = items.length ∧ items.length = values.length := by
  induction types generalizing items values with
  | nil =>
      cases h
      exact ⟨rfl, rfl⟩
  | cons type types ih =>
      cases h with
      | cons _ h =>
          obtain ⟨hitems, hvalues⟩ := ih h
          exact ⟨congrArg Nat.succ hitems, congrArg Nat.succ hvalues⟩

/-! ## The text and the grammar agree -/

/-- The value is read at the written type as what it says there. -/
def Agrees (type : CompleteType) (data : Json) : Prop :=
  ∀ value, Value.decodeAs type.chars data = .ok value ↔ type.Reads data value

/-- A row is read as it says if each of its items is. -/
theorem decodeFields_iff {types : List CompleteType} {items : List Json}
    (hlength : types.length = items.length)
    (h : ∀ type item, (type, item) ∈ types.zip items → type.Agrees item) (values : List Value) :
    Value.decodeFields (types.map chars) items = .ok values ↔ ReadsRow types items values := by
  induction types generalizing items values with
  | nil =>
      obtain rfl : items = [] := List.eq_nil_of_length_eq_zero hlength.symm
      constructor
      · rintro ⟨⟩
        exact .nil
      · rintro ⟨⟩
        rfl
  | cons type types ih =>
      cases items with
      | nil => cases hlength
      | cons item items =>
          have hfirst := h type item (List.mem_cons_self ..)
          have hrest := ih (Nat.succ.inj hlength)
            fun t i hmem => h t i (List.mem_cons_of_mem _ hmem)
          simp only [List.map_cons, Value.decodeFields_cons, Success.bind_eq_ok,
            Success.pure_eq_ok, hfirst _, hrest]
          constructor
          · rintro ⟨value, hvalue, values, hvalues, rfl⟩
            exact .cons hvalue hvalues
          · rintro ⟨⟩
            rename_i value values hvalue hvalues
            exact ⟨value, hvalue, values, hvalues, rfl⟩

/-- Items at one type are read as they say if each of them is. -/
theorem decodeFields_replicate_iff {type : CompleteType} {items : List Json} {count : Nat}
    (hcount : count = items.length) (h : ∀ item ∈ items, type.Agrees item) (values : List Value) :
    Value.decodeFields (List.replicate count type.chars) items = .ok values
      ↔ ReadsRow (List.replicate count type) items values := by
  rw [← List.map_replicate]
  refine decodeFields_iff (by rw [List.length_replicate, hcount]) (fun t item hmem => ?_) values
  obtain ⟨ht, hitem⟩ := List.of_mem_zip hmem
  rw [List.eq_of_mem_replicate ht]
  exact h item hitem

section

variable {data : Json}

/-- Text and grammar agree about a basic type. -/
theorem agrees_basic (code : BasicCode) : Agrees (.basic code) data := by
  intro value
  rw [chars, Value.decodeAs_basic (Value.ofText_basic code), code.read_eq_some_iff]
  constructor
  · exact .basic
  · rintro ⟨h⟩
    exact h

/-- Text and grammar agree about an array of bytes. -/
theorem agrees_bytes : Agrees (.array (.basic .byte)) data := by
  intro value
  rw [chars, Value.decodeAs_bytes rfl]
  constructor
  · rintro ⟨items, bytes, rfl, hbytes, rfl⟩
    rw [Value.readBytes_eq_some.1 hbytes]
    exact .bytes bytes
  · intro h
    cases h with
    | bytes bytes => exact ⟨_, bytes, rfl, Value.readBytes_eq_some.2 rfl, rfl⟩
    | array hne => exact absurd rfl hne

/-- Text and grammar agree about an array if they agree about its items. -/
theorem agrees_array {element : CompleteType} (hbyte : element ≠ .basic .byte)
    (h : ∀ items, data = .array items → ∀ item ∈ items, element.Agrees item) :
    Agrees (.array element) data := by
  intro value
  rw [chars, Value.decodeAs_array (Value.ofText_array hbyte)]
  constructor
  · rintro ⟨items, values, rfl, hvalues, rfl⟩
    rw [Value.decodeItems_eq_fields] at hvalues
    exact .array hbyte ((decodeFields_replicate_iff rfl (h items rfl) values).1 hvalues)
  · intro hreads
    cases hreads with
    | bytes bytes => exact absurd rfl hbyte
    | @array _ items values _ hrow =>
        refine ⟨items, values, rfl, ?_, rfl⟩
        rw [Value.decodeItems_eq_fields]
        exact (decodeFields_replicate_iff rfl (h items rfl) values).2 hrow

/-- Text and grammar agree about a dictionary if they agree about its values. -/
theorem agrees_dict {key : BasicCode} {type : CompleteType}
    (h : ∀ members, data = .object members → ∀ part ∈ members.map Prod.snd, type.Agrees part) :
    Agrees (.dict key type) data := by
  intro value
  have hentry := splitFirstChars_entry key type
  rw [chars, Value.decodeAs_dict (Value.ofText_dict _) hentry (List.cons_ne_nil _ _)]
  simp only [Value.decodeMembers_eq_fields, Success.map_eq_ok]
  have hcount (members : KeyMap Json) : members.length = (members.map Prod.snd).length :=
    (List.length_map _).symm
  constructor
  · rintro ⟨members, _, rfl, ⟨values, hvalues, rfl⟩, rfl⟩
    exact .dict ((decodeFields_replicate_iff (hcount members) (h members rfl) values).1 hvalues)
  · intro hreads
    cases hreads with
    | @dict _ _ members values hrow =>
        have hvalues := (decodeFields_replicate_iff (hcount members) (h members rfl) values).2 hrow
        exact ⟨members, _, rfl, ⟨values, hvalues, rfl⟩, rfl⟩

/-- Text and grammar agree about a struct if they agree about each field. -/
theorem agrees_struct {first : CompleteType} {rest : List CompleteType}
    (h : ∀ items, data = .array items → ∀ type item, (type, item) ∈ (first :: rest).zip items →
      type.Agrees item) : Agrees (.struct first rest) data := by
  intro value
  have hfields : Signature.splitChars (first.chars ++ rowChars rest)
      = .ok ((first :: rest).map chars) := splitChars_rowChars (first :: rest)
  rw [chars, Value.decodeAs_struct (Value.ofText_struct _) hfields]
  constructor
  · rintro ⟨items, values, rfl, hlength, hvalues, rfl⟩
    rw [List.length_map] at hlength
    exact .struct ((decodeFields_iff hlength (h items rfl) values).1 hvalues)
  · intro hreads
    cases hreads with
    | @struct _ _ items values hrow =>
        have hlength := (lengths_of_readsRow hrow).1
        have hvalues := (decodeFields_iff hlength (h items rfl) values).2 hrow
        exact ⟨items, values, rfl, by rw [List.length_map, hlength], hvalues, rfl⟩

/-- The text is the signature of a single complete type. -/
def Spells (text : String) : Prop :=
  ∃ type : CompleteType, type.text = text

/-- Text and grammar agree about a variant if the type that it names is one, and they agree about
its data. -/
theorem agrees_variant
    (hspells : ∀ (members : KeyMap Json) text, data = .object members →
      members.get? "type" = some (.string text) → Spells text)
    (h : ∀ (members : KeyMap Json) (inner : CompleteType) (content : Json),
      data = .object members → members.get? "type" = some (.string inner.text) →
        members.get? "data" = some content → inner.Agrees content) : Agrees .variant data := by
  intro value
  rw [chars, Value.decodeAs_variant rfl]
  constructor
  · rintro ⟨members, inner, content, found, rfl, htype, hdata, hfound, rfl⟩
    obtain ⟨named, hnamed⟩ := hspells members _ rfl htype
    obtain rfl : named.chars = inner := String.ofList_inj.1 hnamed
    exact .variant htype hdata ((h members named content rfl htype hdata found).1 hfound)
  · intro hreads
    cases hreads with
    | @variant members inner content found htype hdata hinner =>
        have hfound := (h members inner content rfl htype hdata found).2 hinner
        exact ⟨members, inner.chars, content, found, rfl, htype, hdata, hfound, rfl⟩

end

/-- **A value is read at a written type as its grammar says.** -/
theorem agrees_of_names (data : Json) : ∀ type : CompleteType,
    (∀ text, type.Names data text → Spells text) → type.Agrees data := by
  induction data using Json.induction_on_parts with
  | step data ih =>
  intro type hnames
  -- a part of the value, at a type under which it names no new text
  have hpart (part : Json) (hmem : part ∈ data.parts) (t : CompleteType)
      (htexts : ∀ text, t.Names part text → type.Names data text) : t.Agrees part :=
    ih part hmem t fun text htext => hnames text (htexts text htext)
  cases type with
  | basic code => exact agrees_basic code
  | variant =>
      refine agrees_variant ?_ ?_
      · rintro members text rfl htype
        exact hnames text (.here htype)
      · rintro members inner content rfl htype hdata
        exact hpart content (List.mem_map_of_mem (KeyMap.mem_of_get? hdata)) inner
          fun _ htext => .inside htype hdata htext
  | array element =>
      by_cases hbyte : element = .basic .byte
      · subst hbyte
        exact agrees_bytes
      · refine agrees_array hbyte ?_
        rintro items rfl item hitem
        exact hpart item hitem element fun _ htext => .item hitem htext
  | dict key type =>
      refine agrees_dict ?_
      rintro members rfl part hmem
      exact hpart part hmem type fun _ htext => .member hmem htext
  | struct first rest =>
      refine agrees_struct ?_
      rintro items rfl t item hmem
      exact hpart item (List.of_mem_zip hmem).2 t fun _ htext => .field hmem htext

/-- Members whose keys are in order are all kept. -/
theorem Reads.dict_of_sorted {key : BasicCode} {type : CompleteType} {members : KeyMap Json}
    {values : List Value} (hsorted : members.Sorted)
    (h : ReadsRow (List.replicate members.length type) (members.map Prod.snd) values) :
    Reads (.dict key type) (.object members) (.dict ((members.map Prod.fst).zip values)) := by
  have hlength : (members.map Prod.fst).length ≤ values.length := by
    simpa using (lengths_of_readsRow h).2.le
  have hentries : KeyMap.Sorted ((members.map Prod.fst).zip values) := by
    rw [KeyMap.sorted_iff_keys, List.map_fst_zip hlength]
    exact KeyMap.sorted_iff_keys.1 hsorted
  have hdict : Reads (.dict key type) (.object members) _ := .dict h
  rwa [KeyMap.ofList_of_sorted hentries] at hdict

/-- **Decoding agrees with the grammar.**  A JSON value is decoded at the signature of a type to what
it says at the type, and decoding fails if it says nothing there. -/
theorem decode_iff_reads (type : CompleteType) (data : Json)
    (named : ∀ text, type.Names data text → Spells text) :
    (∀ value, Value.decode type.text data = .ok value ↔ type.Reads data value) ∧
      ((∃ error, Value.decode type.text data = .error error)
        ↔ ¬ ∃ value, type.Reads data value) := by
  have hiff (value : Value) : Value.decode type.text data = .ok value ↔ type.Reads data value := by
    rw [Value.decode, text, String.toList_ofList]
    exact agrees_of_names data type named value
  refine ⟨hiff, ?_⟩
  simp only [← hiff]
  cases Value.decode type.text data <;> simp

/-- Interfaces with their settings: an array of structs of a name and a dictionary of variants. -/
def settingsType : CompleteType :=
  .array (.struct (.basic .string) [.dict .string .variant])

def settingsData : Json :=
  .array [.array [.string "eth0",
    .object [("mtu", .object [("data", .int 1500), ("type", .string "q")])]]]

/-- An array of a struct with a text and a dictionary, in which there is a variant. -/
theorem decode_iff_reads_settings :
    (∀ text, settingsType.Names settingsData text → Spells text) ∧
      Value.decode settingsType.text settingsData
        = .ok (.array [.struct [.string "eth0", .dict [("mtu", .variant (.uint16 1500))]]]) := by
  have hnamed (text : String) (h : settingsType.Names settingsData text) : Spells text := by
    cases h with
    | item hitem h =>
    obtain rfl := List.mem_singleton.1 hitem
    cases h with
    | field hfield h =>
    rw [List.zip_cons_cons, List.zip_cons_cons, List.zip_nil_left, List.mem_cons,
      List.mem_singleton] at hfield
    obtain hfield | hfield := hfield <;> cases hfield
    · cases h
    · cases h with
      | member hmember h =>
      obtain rfl := List.mem_singleton.1 hmember
      cases h with
      | here htype =>
          cases htype
          exact ⟨.basic .uint16, rfl⟩
      | inside _ hdata h =>
          cases hdata
          cases h
  have hreads : settingsType.Reads settingsData
      (.array [.struct [.string "eth0", .dict [("mtu", .variant (.uint16 1500))]]]) := by
    have hword : Reads (.basic .uint16) (.int 1500) (.uint16 1500) := .basic (.uint16 1500)
    have hmtu : Reads .variant (.object [("data", .int 1500), ("type", .string "q")])
        (.variant (.uint16 1500)) := .variant rfl rfl hword
    exact .array nofun (.cons (.struct (.cons (.basic (.string "eth0"))
      (.cons (.dict_of_sorted (List.pairwise_singleton _ _) (.cons hmtu .nil)) .nil))) .nil)
  exact ⟨hnamed, ((decode_iff_reads settingsType settingsData hnamed).1 _).2 hreads⟩

end CompleteType

end BusTrial
