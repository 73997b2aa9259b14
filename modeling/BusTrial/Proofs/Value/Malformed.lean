import BusTrial.Proofs.Value.Reading

/-!
# Malformed types

`Value.decode` cuts the text of a type apart on the way down into a JSON value, so a fault in a part
of the text that the value does not lead to goes unnoticed.

* `ReadAlong` — wherever the reading comes, the type is well formed and the datum is one of it;
* `Overlooked` — a malformed part is passed over, of which there are three kinds: the type of the
  items of an empty array, of the values of an empty object, and of keys;
* **`readAlong_of_decodeAs`**, **`decodeAs_of_readAlong`** — so much is needed to read a value, by
  induction on the parts of the JSON value, and no more, by induction along the reading;
* `ReadAlong.spelled_or_overlooked` — a type that is read along is well formed or overlooked;
* **`malformed_rejected_iff`** — so a malformed type is rejected unless its faults are overlooked,
  and only then.

The gap is real: `decodeAs_empty_array` and `decodeAs_empty_object` read an empty value at any such
type.
-/

namespace BusTrial

namespace Value

open Signature (Spelled splitChars splitFirstChars)

/-- Wherever the reading of the JSON value comes, the type is well formed and the datum is one of
it.  A variant goes on with the type that it names. -/
inductive ReadAlong : List Char → Json → Prop
  | basic {code : BasicCode} {data : Json} {value : Value} : code.Reads data value →
    ReadAlong [code.char] data
  | variant {members : KeyMap Json} {named : List Char} {data : Json} :
    members.get? "type" = some (.string (.ofList named)) → members.get? "data" = some data →
      ReadAlong named data → ReadAlong ['v'] (.object members)
  | array {element : List Char} {items : List Json} : element.head? ≠ some '\x7b' →
    (∀ item ∈ items, ReadAlong element item) → ReadAlong ('a' :: element) (.array items)
  | dict {entry key value : List Char} {members : List (String × Json)} :
    splitFirstChars entry = .ok (key, value) → (key = [] → members = []) →
      (∀ data ∈ members.map Prod.snd, ReadAlong value data) →
        ReadAlong ('a' :: '\x7b' :: (entry ++ ['\x7d'])) (.object members)
  | struct {fields : List Char} {types : List (List Char)} {items : List Json} :
    splitChars fields = .ok types → types.length = items.length →
      (∀ type item, (type, item) ∈ types.zip items → ReadAlong type item) →
        ReadAlong ('(' :: (fields ++ [')'])) (.array items)

/-- The type has a malformed part that the reading passes over: the type of the items of an empty
array, that of the values of an empty object, or that of keys, which are texts in any case. -/
inductive Overlooked : List Char → Json → Prop
  | element {element : List Char} : ¬ Spelled element → element.head? ≠ some '\x7b' →
    Overlooked ('a' :: element) (.array [])
  | value {entry key value : List Char} : splitFirstChars entry = .ok (key, value) →
    ¬ Spelled value → Overlooked ('a' :: '\x7b' :: (entry ++ ['\x7d'])) (.object [])
  | key {entry key value : List Char} {members : List (String × Json)} :
    splitFirstChars entry = .ok (key, value) → (∀ code : BasicCode, key ≠ [code.char]) →
      (key = [] → members = []) →
        Overlooked ('a' :: '\x7b' :: (entry ++ ['\x7d'])) (.object members)
  | item {element : List Char} {items : List Json} {item : Json} : item ∈ items →
    Overlooked element item → Overlooked ('a' :: element) (.array items)
  | member {entry key value : List Char} {members : List (String × Json)} {data : Json} :
    splitFirstChars entry = .ok (key, value) → data ∈ members.map Prod.snd →
      Overlooked value data →
        Overlooked ('a' :: '\x7b' :: (entry ++ ['\x7d'])) (.object members)
  | field {fields type : List Char} {types : List (List Char)} {items : List Json} {item : Json} :
    splitChars fields = .ok types → (type, item) ∈ types.zip items → Overlooked type item →
      Overlooked ('(' :: (fields ++ [')'])) (.array items)

/-! ## How a text shows its shape -/

/-- The texts that have the shape. -/
def TypeShape.Covers (type : List Char) : TypeShape → Prop
  | .basic _ => ∃ code : BasicCode, type = [code.char]
  | .variant => type = ['v']
  | .bytes => type = ['a', 'y']
  | .dict entry => ∃ rest, type = 'a' :: '\x7b' :: rest ∧ dropClosing '\x7d' rest = entry
  | .array element => type = 'a' :: element ∧ element.head? ≠ some '\x7b'
  | .struct fields => ∃ rest, type = '(' :: rest ∧ dropClosing ')' rest = fields
  | .unknown => True

theorem ofText?_eq_some {type : List Char} {single : BasicType}
    (h : BasicType.ofText? type = some single) : ∃ code : BasicCode, type = [code.char] := by
  unfold BasicType.ofText? at h
  split at h
  · exact ⟨.bool, rfl⟩
  · exact ⟨.byte, rfl⟩
  · exact ⟨.int16, rfl⟩
  · exact ⟨.uint16, rfl⟩
  · exact ⟨.int32, rfl⟩
  · exact ⟨.uint32, rfl⟩
  · exact ⟨.handle, rfl⟩
  · exact ⟨.int64, rfl⟩
  · exact ⟨.uint64, rfl⟩
  · exact ⟨.double, rfl⟩
  · exact ⟨.string, rfl⟩
  · exact ⟨.objectPath, rfl⟩
  · exact ⟨.signature, rfl⟩
  · cases h

theorem ofText_covers (type : List Char) : (TypeShape.ofText type).Covers type := by
  unfold TypeShape.ofText
  cases hsingle : BasicType.ofText? type with
  | some single => exact ofText?_eq_some hsingle
  | none =>
    dsimp only
    split
    · rfl
    · rfl
    · exact ⟨_, rfl, rfl⟩
    · rename_i element hbyte hbrace
      refine ⟨rfl, fun hhead => ?_⟩
      obtain ⟨rest, rfl⟩ := List.head?_eq_some_iff.1 hhead
      exact hbrace rest rfl
    · exact ⟨_, rfl, rfl⟩
    · trivial

theorem dropClosing_eq_some {closing : Char} {cs inner : List Char}
    (h : dropClosing closing cs = some inner) : cs = inner ++ [closing] := by
  rw [dropClosing] at h
  split at h
  · rename_i hlast
    cases h
    exact (List.dropLast_append_getLast? closing hlast).symm
  · cases h

/-! ## What is read -/

/-- **What is read has a type that is well formed wherever the reading came**, and data that are of
it. -/
theorem readAlong_of_decodeAs {data : Json} : ∀ {type : List Char} {value : Value},
    decodeAs type data = .ok value → ReadAlong type data := by
  induction data using Json.induction_on_parts with
  | step data ih =>
  intro type value h
  have htype := ofText_covers type
  cases hshape : TypeShape.ofText type with
  | basic single =>
    rw [hshape] at htype
    obtain ⟨code, rfl⟩ := htype
    rw [decodeAs_basic (ofText_basic code), code.read_eq_some_iff] at h
    exact .basic h
  | variant =>
    rw [hshape] at htype
    obtain rfl := htype
    obtain ⟨members, named, content, found, rfl, hnamed, hdata, hfound, -⟩ :=
      (decodeAs_variant hshape).1 h
    have hmem : content ∈ members.map Prod.snd := List.mem_map_of_mem (KeyMap.mem_of_get? hdata)
    exact .variant hnamed hdata (ih content hmem hfound)
  | bytes =>
    rw [hshape] at htype
    obtain rfl := htype
    obtain ⟨items, bytes, rfl, hbytes, -⟩ := (decodeAs_bytes hshape).1 h
    obtain rfl := readBytes_eq_some.1 hbytes
    refine .array (by decide) fun item hmem => ?_
    obtain ⟨b, -, rfl⟩ := List.mem_map.1 hmem
    exact .basic (.byte b)
  | array element =>
    rw [hshape] at htype
    obtain ⟨rfl, hbrace⟩ := htype
    obtain ⟨items, values, rfl, hvalues, -⟩ := (decodeAs_array hshape).1 h
    rw [decodeItems_eq_fields] at hvalues
    refine .array hbrace fun item hmem => ?_
    obtain ⟨_, hitem⟩ := decodeAs_of_replicate rfl hvalues item hmem
    exact ih item hmem hitem
  | dict entry =>
    cases entry with
    | none => exact absurd h (decodeAs_ne_ok (.inl hshape))
    | some entry =>
      rw [hshape] at htype
      obtain ⟨inner, rfl, hclosing⟩ := htype
      obtain rfl := dropClosing_eq_some hclosing
      obtain ⟨key, valueType, members, values, hentry, rfl, hnil, hvalues, -⟩ :=
        dict_of_decodeAs hshape h
      refine .dict hentry hnil fun data hmem => ?_
      obtain ⟨_, hdata⟩ := decodeAs_of_replicate (List.length_map _).symm hvalues data hmem
      exact ih data hmem hdata
  | struct fields =>
    cases fields with
    | none => exact absurd h (decodeAs_ne_ok (.inr (.inl hshape)))
    | some fields =>
      rw [hshape] at htype
      obtain ⟨inner, rfl, hclosing⟩ := htype
      obtain rfl := dropClosing_eq_some hclosing
      obtain ⟨types, items, values, hfields, rfl, hlength, hvalues, -⟩ :=
        struct_of_decodeAs hshape h
      refine .struct hfields hlength fun type item hmem => ?_
      obtain ⟨_, hitem⟩ := decodeAs_of_decodeFields hlength hvalues type item hmem
      exact ih item (List.of_mem_zip hmem).2 hitem
  | unknown => exact absurd h (decodeAs_ne_ok (.inr (.inr hshape)))

/-- A row is read if each of its items is, at a type of its own. -/
theorem exists_decodeFields {types : List (List Char)} {items : List Json}
    (h : ∀ type item, (type, item) ∈ types.zip items → ∃ value, decodeAs type item = .ok value) :
    ∃ values, decodeFields types items = .ok values := by
  induction types generalizing items with
  | nil => exact ⟨[], decodeFields_nil_left items⟩
  | cons type types ih =>
    cases items with
    | nil => exact ⟨[], decodeFields_nil_right (type :: types)⟩
    | cons item items =>
      obtain ⟨value, hvalue⟩ := h type item List.mem_cons_self
      obtain ⟨values, hvalues⟩ := ih fun type item hmem => h type item (List.mem_cons_of_mem _ hmem)
      refine ⟨value :: values, ?_⟩
      rw [decodeFields_cons, hvalue, hvalues]
      rfl

theorem exists_decodeFields_replicate {type : List Char} {items : List Json} (count : Nat)
    (h : ∀ item ∈ items, ∃ value, decodeAs type item = .ok value) :
    ∃ values, decodeFields (List.replicate count type) items = .ok values := by
  refine exists_decodeFields fun type' item hmem => ?_
  obtain ⟨htype, hitem⟩ := List.of_mem_zip hmem
  rw [List.eq_of_mem_replicate htype]
  exact h item hitem

/-- Items that are read as bytes one by one are bytes in a row. -/
theorem exists_readBytes {items : List Json}
    (h : ∀ item ∈ items, ∃ value, decodeAs ['y'] item = .ok value) :
    ∃ bytes, readBytes items = some bytes := by
  induction items with
  | nil => exact ⟨[], rfl⟩
  | cons item items ih =>
    obtain ⟨⟨value, hvalue⟩, hrest⟩ := List.forall_mem_cons.1 h
    obtain ⟨b, rfl, -⟩ := BasicCode.read_uint8.1 ((decodeAs_basic (ofText_basic .byte)).1 hvalue)
    obtain ⟨bytes, hbytes⟩ := ih hrest
    exact ⟨b :: bytes, readBytes_eq_some.2 (by rw [readBytes_eq_some.1 hbytes]; rfl)⟩

/-- An empty object is read whatever stands for the types of keys and values. -/
theorem decodeAs_empty_object {entry key value : List Char}
    (h : splitFirstChars entry = .ok (key, value)) :
    decodeAs ('a' :: '\x7b' :: (entry ++ ['\x7d'])) (.object []) = .ok (.dict []) := by
  simp [decodeAs, ofText_dict, h, decodeMembers, KeyMap.ofList]

/-- **Whatever is well formed wherever the reading comes is read**, if the data are of it. -/
theorem decodeAs_of_readAlong {type : List Char} {data : Json} (h : ReadAlong type data) :
    ∃ value, decodeAs type data = .ok value := by
  induction h with
  | @basic code data value hreads =>
    exact ⟨value, (decodeAs_basic (ofText_basic code)).2 (code.read_eq_some_iff.2 hreads)⟩
  | @variant members named data hnamed hdata _ ih =>
    obtain ⟨found, hfound⟩ := ih
    refine ⟨.variant found, (decodeAs_variant rfl).2 ?_⟩
    exact ⟨members, named, data, found, rfl, hnamed, hdata, hfound, rfl⟩
  | @array element items hbrace _ ih =>
    by_cases hbyte : element = ['y']
    · subst hbyte
      obtain ⟨bytes, hbytes⟩ := exists_readBytes ih
      exact ⟨_, (decodeAs_bytes rfl).2 ⟨items, bytes, rfl, hbytes, rfl⟩⟩
    · obtain ⟨values, hvalues⟩ := exists_decodeFields_replicate items.length ih
      rw [← decodeItems_eq_fields] at hvalues
      exact ⟨_, (decodeAs_array (ofText_element hbyte hbrace)).2 ⟨items, values, rfl, hvalues, rfl⟩⟩
  | @dict entry key value members hentry hnil _ ih =>
    by_cases hkey : key = []
    · obtain rfl := hnil hkey
      exact ⟨_, decodeAs_empty_object hentry⟩
    · obtain ⟨values, hvalues⟩ := exists_decodeFields_replicate members.length ih
      refine ⟨_, (decodeAs_dict (ofText_dict entry) hentry hkey).2
        ⟨members, (members.map Prod.fst).zip values, rfl, ?_, rfl⟩⟩
      rw [decodeMembers_eq_fields, hvalues]
      rfl
  | @struct fields types items hfields hlength _ ih =>
    obtain ⟨values, hvalues⟩ := exists_decodeFields ih
    exact ⟨_, (decodeAs_struct (ofText_struct fields) hfields).2
      ⟨items, values, rfl, hlength, hvalues, rfl⟩⟩

/-! ## What can be wrong with such a type -/

/-- A type that is well formed wherever the reading comes is well formed, or something in it is
passed over. -/
theorem ReadAlong.spelled_or_overlooked {type : List Char} {data : Json}
    (h : ReadAlong type data) : Spelled type ∨ Overlooked type data := by
  induction h with
  | @basic code _ _ _ => exact .inl (.basic code)
  | variant _ _ _ _ => exact .inl .variant
  | @array element items hbrace _ ih =>
    by_cases helement : Spelled element
    · exact .inl (.array helement)
    · cases items with
      | nil => exact .inr (.element helement hbrace)
      | cons first rest =>
        have hover := (ih first List.mem_cons_self).resolve_left helement
        exact .inr (.item List.mem_cons_self hover)
  | @dict entry key value members hentry hnil _ ih =>
    by_cases hvalue : Spelled value
    · by_cases hkey : ∃ code : BasicCode, key = [code.char]
      · obtain ⟨code, rfl⟩ := hkey
        obtain rfl := Signature.takeType_append (Signature.splitFirstChars_eq_ok.1 hentry).2
        exact .inl (.dict code hvalue)
      · exact .inr (.key hentry (not_exists.1 hkey) hnil)
    · cases members with
      | nil => exact .inr (.value hentry hvalue)
      | cons first rest =>
        have hover := (ih first.2 List.mem_cons_self).resolve_left hvalue
        exact .inr (.member hentry List.mem_cons_self hover)
  | @struct fields types items hfields hlength _ ih =>
    by_cases hall : ∀ type ∈ types, Spelled type
    · obtain ⟨rfl, -⟩ := Signature.splitChars_eq_ok_iff.1 hfields
      exact .inl (.struct hall)
    · obtain ⟨type, hmem, hnot⟩ : ∃ type ∈ types, ¬ Spelled type := by simpa using hall
      obtain ⟨i, hi, rfl⟩ := List.getElem_of_mem hmem
      have hpair : (types[i], items[i]) ∈ types.zip items :=
        List.mem_iff_getElem.2 ⟨i, by simp; omega, by simp⟩
      exact .inr (.field hfields hpair ((ih _ _ hpair).resolve_left hnot))

/-! ## What comes of malformed types -/

/-- An empty array is read whatever stands for the type of its items. -/
theorem decodeAs_empty_array {element : List Char} (h : ¬ Spelled element)
    (hbrace : element.head? ≠ some '\x7b') :
    decodeAs ('a' :: element) (.array []) = .ok (.array []) := by
  have hbyte : element ≠ ['y'] := by
    rintro rfl
    exact h (.basic .byte)
  exact (decodeAs_array (ofText_element hbyte hbrace)).2 ⟨[], [], rfl, rfl, rfl⟩

/-- **A malformed type is rejected**, whatever the JSON value, exactly unless the reading comes to
well formed parts only, with data that are of them, and passes over the others. -/
theorem malformed_rejected_iff {type : String} {data : Json} (hmalformed : ¬ Spelled type.toList) :
    (∃ error, decode type data = .error error ∧ error.failure = .bus error.message) ↔
      ¬ (ReadAlong type.toList data ∧ Overlooked type.toList data) := by
  constructor
  · rintro ⟨error, herror, -⟩ ⟨halong, -⟩
    obtain ⟨value, hvalue⟩ := decodeAs_of_readAlong halong
    exact absurd (hvalue.symm.trans herror) nofun
  · intro hseen
    cases h : decode type data with
    | error error => exact ⟨error, rfl, rfl⟩
    | ok value =>
      have halong : ReadAlong type.toList data := readAlong_of_decodeAs h
      exact absurd ⟨halong, halong.spelled_or_overlooked.resolve_left hmalformed⟩ hseen

/-- No type is written with a `Q`. -/
theorem not_mem_of_spelled {type : List Char} (h : Spelled type) : 'Q' ∉ type := by
  have hcode (code : BasicCode) : 'Q' ≠ code.char := by cases code <;> decide
  induction h with
  | basic code => simpa using hcode code
  | variant => decide
  | array _ ih => simpa using ih
  | dict key _ ih => simpa using ⟨hcode key, ih⟩
  | struct _ ih => simpa using ih

/-- Beside an empty array whose type is malformed stands a text that is no number, and it is for
that text that the type is rejected. -/
theorem malformed_rejected_iff_beside :
    let data := Json.array [.string "x", .array []]
    ¬ Spelled "(yaQ)".toList ∧
      ¬ (ReadAlong "(yaQ)".toList data ∧ Overlooked "(yaQ)".toList data) ∧
      ∃ error, decode "(yaQ)" data = .error error ∧ error.failure = .bus error.message := by
  intro data
  have hmalformed : ¬ Spelled "(yaQ)".toList := fun h => not_mem_of_spelled h (by decide)
  have hseen : ¬ (ReadAlong "(yaQ)".toList data ∧ Overlooked "(yaQ)".toList data) := by
    rintro ⟨halong, -⟩
    obtain ⟨value, hvalue⟩ := decodeAs_of_readAlong halong
    cases hvalue
  exact ⟨hmalformed, hseen, (malformed_rejected_iff hmalformed).2 hseen⟩

/-- The type of an array that ends before the type of the items is read all the same, when there
are no items. -/
theorem truncated_array_read :
    ¬ Spelled "a".toList ∧ decode "a" (.array []) = .ok (.array []) := by
  refine ⟨fun h => ?_, rfl⟩
  cases h.typed.taken

end Value

end BusTrial
