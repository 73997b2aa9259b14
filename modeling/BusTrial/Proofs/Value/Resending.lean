import BusTrial.Proofs.Bus.Busctl
import BusTrial.Proofs.Value.Arguments
import BusTrial.Proofs.Value.Malformed

/-!
# Sending back what was read

A value is read at a type that is text, and it is sent under a type that is worked out from the value
(`Value.typeText`): from the first item of an array, and without a look into a dictionary.  The two
are the same for the types that a value can have (`Signature.Sendable`), as long as no array is empty
whose type only its items would show (`Value.Filled`).

* `typeText_eq_of_decodeAs` — two values that are read at one text are of one type, whatever the
  text.  The induction is on the parts of the first JSON value, and the second one goes along.
* `homogeneous_of_decodeAs` — so the items of an array are of one type, also inside variants, where
  nothing is known of the text that the variant names.
* `typeText_of_decodeAs` — at a sendable text that type is the text; by induction on how the text is
  spelled.
* **`sent_under_its_type`** — and a call that passes the value passes that text as its type.
-/

namespace BusTrial

namespace Signature

/-- The text spells one complete type without handles, all of whose dictionaries map texts to
variants. -/
inductive Sendable : List Char → Prop
  | basic {code : BasicCode} : code ≠ .handle → Sendable [code.char]
  | variant : Sendable ['v']
  | array {element : List Char} : Sendable element → Sendable ('a' :: element)
  | options : Sendable ['a', '\x7b', 's', 'v', '\x7d']
  | struct {fields : List (List Char)} : (∀ field ∈ fields, Sendable field) →
    Sendable ('(' :: (fields.flatten ++ [')']))

theorem Sendable.spelled {type : List Char} (h : Sendable type) : Spelled type := by
  induction h with
  | basic _ => exact .basic _
  | variant => exact .variant
  | array _ ih => exact .array ih
  | options => exact .dict .string .variant
  | struct _ ih => exact .struct ih

theorem Sendable.head?_ne_brace {type : List Char} (h : Sendable type) :
    type.head? ≠ some '\x7b' := by
  cases h with
  | @basic code _ => cases code <;> simp [BasicCode.char]
  | variant => simp
  | array _ => simp
  | options => simp
  | struct _ => simp

end Signature

namespace Value

open Signature (Sendable splitChars splitFirstChars)

/-! ## What a reading comes to -/

/-- Reading a JSON value at a type comes to a part of it, which is read at a type of its own. -/
inductive Reaches : List Char → Json → List Char → Json → Prop
  | here (type : List Char) (data : Json) : Reaches type data type data
  | item {type element inner : List Char} {items : List Json} {item part : Json} :
    TypeShape.ofText type = .array element → item ∈ items → Reaches element item inner part →
      Reaches type (.array items) inner part
  | member {type entry key value inner : List Char} {members : List (String × Json)}
      {data part : Json} :
    TypeShape.ofText type = .dict (some entry) → splitFirstChars entry = .ok (key, value) →
      data ∈ members.map Prod.snd → Reaches value data inner part →
        Reaches type (.object members) inner part
  | field {type fields field inner : List Char} {types : List (List Char)} {items : List Json}
      {item part : Json} :
    TypeShape.ofText type = .struct (some fields) → splitChars fields = .ok types →
      (field, item) ∈ types.zip items → Reaches field item inner part →
        Reaches type (.array items) inner part
  | content {type named inner : List Char} {members : KeyMap Json} {data part : Json} :
    TypeShape.ofText type = .variant → members.get? "type" = some (.string (.ofList named)) →
      members.get? "data" = some data → Reaches named data inner part →
        Reaches type (.object members) inner part

/-- No array is empty that the reading comes to, except at the types of texts in a row and of
bytes. -/
def Filled (type : List Char) (data : Json) : Prop :=
  ∀ element, Reaches type data ('a' :: element) (.array []) → element = ['s'] ∨ element = ['y']

theorem Filled.part {type inner : List Char} {data part : Json} (h : Filled type data)
    (hpart : ∀ t d, Reaches inner part t d → Reaches type data t d) : Filled inner part :=
  fun element hreaches => h element (hpart _ _ hreaches)

/-! ## Rows of values -/

/-- A row that is read has one value for each type and item, read from them. -/
theorem getElem_of_decodeFields {types : List (List Char)} {items : List Json}
    {values : List Value} (hlength : types.length = items.length)
    (h : decodeFields types items = .ok values) :
    values.length = types.length ∧
      ∀ (i : Nat) (ht : i < types.length) (hi : i < items.length) (hv : i < values.length),
        decodeAs types[i] items[i] = .ok values[i] := by
  induction types generalizing items values with
  | nil =>
      obtain rfl : items = [] := List.eq_nil_of_length_eq_zero hlength.symm
      cases h
      exact ⟨rfl, nofun⟩
  | cons type types ih =>
      cases items with
      | nil => cases hlength
      | cons item items =>
          rw [decodeFields_cons] at h
          obtain ⟨value, hvalue, h⟩ := Success.bind_eq_ok.1 h
          obtain ⟨rest, hrest, h⟩ := Success.bind_eq_ok.1 h
          cases h
          obtain ⟨hcount, hall⟩ := ih (Nat.succ.inj hlength) hrest
          refine ⟨by simp [hcount], fun i ht hi hv => ?_⟩
          cases i with
          | zero => exact hvalue
          | succ i =>
              exact hall i (Nat.lt_of_succ_lt_succ ht) (Nat.lt_of_succ_lt_succ hi)
                (Nat.lt_of_succ_lt_succ hv)

theorem getElem_mem_zip {types : List (List Char)} {items : List Json}
    (hlength : types.length = items.length) {i : Nat} (hi : i < types.length) :
    (types[i], items[i]) ∈ types.zip items := by
  have hzip : i < (types.zip items).length := by
    rw [List.length_zip]
    omega
  have hpair : (types.zip items)[i] = (types[i], items[i]) := List.getElem_zip
  rw [← hpair]
  exact List.getElem_mem hzip

/-- The types of the items of an array that was read, given by its first item if it has one. -/
theorem typeText_array_of_decodeItems {element : List Char} {items : List Json}
    {values : List Value} (hvalues : decodeItems element items = .ok values) :
    (items = [] ∧ values = []) ∨
      ∃ item ∈ items, ∃ first, decodeAs element item = .ok first ∧
        typeText (.array values) = "a" ++ first.typeText := by
  cases items with
  | nil =>
      cases hvalues
      exact .inl ⟨rfl, rfl⟩
  | cons item rest =>
      rw [decodeItems] at hvalues
      obtain ⟨first, hfirst, hvalues⟩ := Success.bind_eq_ok.1 hvalues
      obtain ⟨others, -, hvalues⟩ := Success.bind_eq_ok.1 hvalues
      cases hvalues
      exact .inr ⟨item, List.mem_cons_self, first, hfirst, by rw [typeText]⟩

/-! ## Values of one text -/

theorem typeText_eq_of_read {single : BasicType} {data data' : Json} {value value' : Value}
    (h : single.read data = some value) (h' : single.read data' = some value') :
    value.typeText = value'.typeText := by
  cases single <;>
    · obtain ⟨_, -, rfl⟩ := Option.map_eq_some_iff.1 h
      obtain ⟨_, -, rfl⟩ := Option.map_eq_some_iff.1 h'
      rw [typeText, typeText]

/-- An array that is read where none is empty: its type is that of its items, and if it has none it
is an array of texts. -/
theorem Filled.typeText_array {element : List Char} {items : List Json} {values : List Value}
    (filled : Filled ('a' :: element) (.array items))
    (hshape : TypeShape.ofText ('a' :: element) = .array element)
    (hvalues : decodeItems element items = .ok values) :
    ∃ text : String, (Value.array values).typeText = "a" ++ text ∧
      (element = ['s'] ∧ text = "s" ∨
        ∃ item ∈ items, ∃ first, decodeAs element item = .ok first ∧ text = first.typeText) := by
  rcases typeText_array_of_decodeItems hvalues with ⟨rfl, rfl⟩ | ⟨item, hitem, first, hfirst, htype⟩
  · have helement : element = ['s'] := by
      refine (filled element (.here _ _)).resolve_right ?_
      rintro rfl
      cases hshape
    exact ⟨"s", by rw [typeText]; rfl, .inl ⟨helement, rfl⟩⟩
  · exact ⟨first.typeText, htype, .inr ⟨item, hitem, first, hfirst, rfl⟩⟩

theorem typeText_of_text {data : Json} {value : Value} (h : decodeAs ['s'] data = .ok value) :
    value.typeText = "s" := by
  have hread : BasicType.string.read data = some value := (decodeAs_basic rfl).1 h
  obtain ⟨_, -, rfl⟩ := Option.map_eq_some_iff.1 hread
  rw [typeText]

/-- **What is read at one text is of one type**, however the text is spelled. -/
theorem typeText_eq_of_decodeAs {data : Json} : ∀ {type : List Char} {data' : Json}
    {value value' : Value}, Filled type data → Filled type data' →
      decodeAs type data = .ok value → decodeAs type data' = .ok value' →
        value.typeText = value'.typeText := by
  induction data using Json.induction_on_parts with
  | step data ih =>
  intro type data' value value' filled filled' h h'
  have htype := ofText_covers type
  cases hshape : TypeShape.ofText type with
  | basic single =>
    exact typeText_eq_of_read ((decodeAs_basic hshape).1 h) ((decodeAs_basic hshape).1 h')
  | variant =>
    obtain ⟨_, _, _, _, -, -, -, -, rfl⟩ := (decodeAs_variant hshape).1 h
    obtain ⟨_, _, _, _, -, -, -, -, rfl⟩ := (decodeAs_variant hshape).1 h'
    rw [typeText, typeText]
  | bytes =>
    obtain ⟨_, _, -, -, rfl⟩ := (decodeAs_bytes hshape).1 h
    obtain ⟨_, _, -, -, rfl⟩ := (decodeAs_bytes hshape).1 h'
    rw [typeText, typeText]
  | array element =>
    rw [hshape] at htype
    obtain ⟨rfl, -⟩ := htype
    obtain ⟨items, values, rfl, hvalues, rfl⟩ := (decodeAs_array hshape).1 h
    obtain ⟨items', values', rfl, hvalues', rfl⟩ := (decodeAs_array hshape).1 h'
    obtain ⟨text, htext, hfrom⟩ := filled.typeText_array hshape hvalues
    obtain ⟨text', htext', hfrom'⟩ := filled'.typeText_array hshape hvalues'
    have hitems : ∀ item ∈ items, Filled element item :=
      fun item hitem => filled.part fun _ _ => .item hshape hitem
    have hitems' : ∀ item ∈ items', Filled element item :=
      fun item hitem => filled'.part fun _ _ => .item hshape hitem
    have hsame : text = text' := by
      rcases hfrom with ⟨rfl, rfl⟩ | ⟨item, hitem, first, hfirst, rfl⟩ <;>
        rcases hfrom' with ⟨heq, rfl⟩ | ⟨item', hitem', first', hfirst', rfl⟩
      · rfl
      · exact (typeText_of_text hfirst').symm
      · subst heq
        exact typeText_of_text hfirst
      · exact ih item hitem (hitems item hitem) (hitems' item' hitem') hfirst hfirst'
    rw [htext, htext', hsame]
  | dict entry =>
    cases entry with
    | none => exact absurd h (decodeAs_ne_ok (.inl hshape))
    | some entry =>
      obtain ⟨_, _, _, _, -, -, -, -, rfl⟩ := dict_of_decodeAs hshape h
      obtain ⟨_, _, _, _, -, -, -, -, rfl⟩ := dict_of_decodeAs hshape h'
      rw [typeText, typeText]
  | struct fields =>
    cases fields with
    | none => exact absurd h (decodeAs_ne_ok (.inr (.inl hshape)))
    | some fields =>
      obtain ⟨types, items, values, hfields, rfl, hlength, hvalues, rfl⟩ :=
        struct_of_decodeAs hshape h
      obtain ⟨types', items', values', hfields', rfl, hlength', hvalues', rfl⟩ :=
        struct_of_decodeAs hshape h'
      obtain rfl : types = types' := Except.ok.inj (hfields.symm.trans hfields')
      obtain ⟨hcount, hrow⟩ := getElem_of_decodeFields hlength hvalues
      obtain ⟨hcount', hrow'⟩ := getElem_of_decodeFields hlength' hvalues'
      have hmap : values.map typeText = values'.map typeText := by
        refine List.ext_getElem (by simp [hcount, hcount']) fun i hi hi' => ?_
        simp only [List.length_map] at hi hi'
        have ht : i < types.length := by omega
        have hitem := getElem_mem_zip hlength ht
        have hitem' := getElem_mem_zip hlength' ht
        rw [List.getElem_map, List.getElem_map]
        exact ih _ (List.of_mem_zip hitem).2
          (filled.part fun _ _ => .field hshape hfields hitem)
          (filled'.part fun _ _ => .field hshape hfields hitem')
          (hrow i ht (by omega) hi) (hrow' i ht (by omega) hi')
      have hjoin : typesText values = typesText values' := by
        rw [Signature.typesText_eq_join, Signature.typesText_eq_join, hmap]
      show "(" ++ typesText values ++ ")" = "(" ++ typesText values' ++ ")"
      rw [hjoin]
  | unknown => exact absurd h (decodeAs_ne_ok (.inr (.inr hshape)))

/-- The items of an array that is read where none is empty are of one type. -/
theorem typeText_eq_of_decodeItems {element : List Char} {items : List Json} {values : List Value}
    (hitems : ∀ item ∈ items, Filled element item)
    (hvalues : decodeItems element items = .ok values) :
    ∀ a ∈ values, ∀ b ∈ values, a.typeText = b.typeText := by
  have hread : ∀ v ∈ values, ∃ item ∈ items, decodeAs element item = .ok v := by
    intro v hv
    rw [decodeItems_eq_fields] at hvalues
    have hlength : (List.replicate items.length element).length = items.length := by simp
    obtain ⟨hcount, hrow⟩ := getElem_of_decodeFields hlength hvalues
    obtain ⟨i, hi, rfl⟩ := List.getElem_of_mem hv
    have ht : i < (List.replicate items.length element).length := by omega
    have hv := hrow i ht (by omega) hi
    rw [List.getElem_replicate] at hv
    exact ⟨items[i], List.getElem_mem _, hv⟩
  intro a ha b hb
  obtain ⟨item, hitem, hdecode⟩ := hread a ha
  obtain ⟨item', hitem', hdecode'⟩ := hread b hb
  exact typeText_eq_of_decodeAs (hitems item hitem) (hitems item' hitem') hdecode hdecode'

/-- **The items of every array are of one type**, at any depth and also inside variants. -/
theorem homogeneous_of_decodeAs {data : Json} : ∀ {type : List Char} {value : Value},
    Filled type data → decodeAs type data = .ok value → value.Homogeneous := by
  induction data using Json.induction_on_parts with
  | step data ih =>
  intro type value filled h
  have hrow : ∀ {types items values}, types.length = items.length →
      decodeFields types items = .ok values → (∀ item ∈ items, item ∈ data.parts) →
        (∀ t item, (t, item) ∈ types.zip items → Filled t item) →
          ∀ v ∈ values, v.Homogeneous := by
    intro types items values hlength hvalues hitems hfilled v hv
    obtain ⟨hcount, hrow⟩ := getElem_of_decodeFields hlength hvalues
    obtain ⟨i, hi, rfl⟩ := List.getElem_of_mem hv
    have ht : i < types.length := by omega
    have hpair := getElem_mem_zip hlength ht
    exact ih _ (hitems _ (List.of_mem_zip hpair).2) (hfilled _ _ hpair) (hrow i ht (by omega) hi)
  cases hshape : TypeShape.ofText type with
  | basic single =>
    have hread := (decodeAs_basic hshape).1 h
    cases single <;>
      · obtain ⟨_, -, rfl⟩ := Option.map_eq_some_iff.1 hread
        refine .intro ?_ ?_ <;> rintro _ ⟨⟩
  | variant =>
    obtain ⟨members, inner, content, found, rfl, hnamed, hdata, hfound, rfl⟩ :=
      (decodeAs_variant hshape).1 h
    have hmem : content ∈ members.map Prod.snd := List.mem_map_of_mem (KeyMap.mem_of_get? hdata)
    have hcontent : Filled inner content := filled.part fun _ _ => .content hshape hnamed hdata
    exact .intro (by rintro _ ⟨⟩) (List.forall_mem_singleton.2 (ih content hmem hcontent hfound))
  | bytes =>
    obtain ⟨_, _, -, -, rfl⟩ := (decodeAs_bytes hshape).1 h
    exact .intro (by rintro _ ⟨⟩) (by rintro _ ⟨⟩)
  | array element =>
    obtain ⟨items, values, rfl, hvalues, rfl⟩ := (decodeAs_array hshape).1 h
    have hitems : ∀ item ∈ items, Filled element item :=
      fun item hitem => filled.part fun _ _ => .item hshape hitem
    refine .intro ?_ ?_
    · rintro _ ⟨⟩
      exact typeText_eq_of_decodeItems hitems hvalues
    · rw [decodeItems_eq_fields] at hvalues
      refine hrow (by simp) hvalues (fun item hitem => hitem) fun t item hpair => ?_
      obtain ⟨ht, hitem⟩ := List.of_mem_zip hpair
      rw [List.eq_of_mem_replicate ht]
      exact hitems item hitem
  | dict entry =>
    cases entry with
    | none => exact absurd h (decodeAs_ne_ok (.inl hshape))
    | some entry =>
      obtain ⟨_, valueType, members, values, hentry, rfl, -, hvalues, rfl⟩ :=
        dict_of_decodeAs hshape h
      refine .intro (by rintro _ ⟨⟩) fun part hpart => ?_
      obtain ⟨⟨key, _⟩, hkept, rfl⟩ := List.mem_map.1 hpart
      have hread := (List.of_mem_zip ((KeyMap.ofList_spec _).2 _ hkept)).2
      refine hrow (by simp) hvalues (fun item hitem => hitem) (fun t item hpair => ?_) _ hread
      obtain ⟨ht, hitem⟩ := List.of_mem_zip hpair
      rw [List.eq_of_mem_replicate ht]
      exact filled.part fun _ _ => .member hshape hentry hitem
  | struct fields =>
    cases fields with
    | none => exact absurd h (decodeAs_ne_ok (.inr (.inl hshape)))
    | some fields =>
      obtain ⟨types, items, values, hfields, rfl, hlength, hvalues, rfl⟩ :=
        struct_of_decodeAs hshape h
      exact .intro (by rintro _ ⟨⟩) (hrow hlength hvalues (fun item hitem => hitem)
        fun t item hpair => filled.part fun _ _ => .field hshape hfields hpair)
  | unknown => exact absurd h (decodeAs_ne_ok (.inr (.inr hshape)))

/-! ## Values of a sendable text -/

theorem typeText_of_reads {code : BasicCode} {data : Json} {value : Value}
    (h : code.Reads data value) (hne : code ≠ .handle) :
    value.typeText = String.ofList [code.char] := by
  cases h <;> first | exact absurd rfl hne | (rw [typeText]; rfl)

/-- **What is read at a sendable text is of the type that the text spells.** -/
theorem typeText_of_decodeAs {type : List Char} (h : Sendable type) : ∀ {data : Json}
    {value : Value}, Filled type data → decodeAs type data = .ok value →
      value.typeText = String.ofList type := by
  induction h with
  | @basic code hne =>
    intro data value _ hread
    rw [decodeAs_basic (ofText_basic code), code.read_eq_some_iff] at hread
    exact typeText_of_reads hread hne
  | variant =>
    intro data value _ hread
    obtain ⟨_, _, _, _, -, -, -, -, rfl⟩ := (decodeAs_variant rfl).1 hread
    rw [typeText]
  | @array element helement ih =>
    intro data value filled hread
    by_cases hbyte : element = ['y']
    · subst hbyte
      obtain ⟨_, _, -, -, rfl⟩ := (decodeAs_bytes rfl).1 hread
      rw [typeText]
    · have hshape := ofText_element hbyte helement.head?_ne_brace
      obtain ⟨items, values, rfl, hvalues, rfl⟩ := (decodeAs_array hshape).1 hread
      obtain ⟨text, htext, hfrom⟩ := filled.typeText_array hshape hvalues
      have hitems : text = String.ofList element := by
        rcases hfrom with ⟨rfl, rfl⟩ | ⟨item, hitem, first, hfirst, rfl⟩
        · rfl
        · exact ih (filled.part fun _ _ => .item hshape hitem) hfirst
      rw [htext, hitems, ← String.toList_inj]
      simp
  | options =>
    intro data value _ hread
    obtain ⟨_, _, _, _, -, -, -, -, rfl⟩ := dict_of_decodeAs (ofText_dict ['s', 'v']) hread
    rw [typeText]
  | @struct fields hfields ih =>
    intro data value filled hread
    have hcut : splitChars fields.flatten = .ok fields :=
      Signature.splitChars_eq_ok_iff.2
        ⟨rfl, fun field hmem => (hfields field hmem).spelled.typed.toComplete⟩
    have hshape := ofText_struct fields.flatten
    obtain ⟨items, values, rfl, hlength, hvalues, rfl⟩ := (decodeAs_struct hshape hcut).1 hread
    obtain ⟨hcount, hrow⟩ := getElem_of_decodeFields hlength hvalues
    have hmap : values.map typeText = fields.map String.ofList := by
      refine List.ext_getElem (by simp [hcount]) fun i hi hi' => ?_
      simp only [List.length_map] at hi hi'
      have hpair := getElem_mem_zip hlength hi'
      rw [List.getElem_map, List.getElem_map]
      exact ih _ (List.getElem_mem hi') (filled.part fun _ _ => .field hshape hcut hpair)
        (hrow i hi' (by omega) hi)
    have hjoin : typesText values = String.ofList fields.flatten := by
      rw [Signature.typesText_eq_join, hmap, ← String.toList_inj]
      simp [List.flatMap_def]
    show "(" ++ typesText values ++ ")" = _
    rw [hjoin, ← String.toList_inj]
    simp

end Value

/-! ## The call that sends it -/

namespace Value

open Signature (Sendable)

/-- **A value that was read can be sent back under its own type.**  If it was read at a sendable
text, and no array was empty where only its items show their type, then its type is that text, the
items of each of its arrays are of one type, and a call that it is the only argument of starts one
process, which is given the text as the type of what follows. -/
theorem sent_under_its_type {type : String} {data : Json} {value : Value}
    (sendable : Sendable type.toList) (filled : Filled type.toList data)
    (hread : decode type data = .ok value) :
    value.typeText = type ∧ value.Homogeneous ∧
      ∀ (client : Busctl) (object : ObjectRef) (interface method : String) (b : Bench),
        Busctl.spawned (client.callMethod object interface method [value] b).2
          = (Busctl.spawned b).push
              { program := "busctl"
                arguments :=
                  ["--system", "--json=short",
                    "--timeout=" ++ Nat.repr (max client.callTimeout.wholeSeconds 1), "call",
                    object.service, object.path, interface, method, type] ++ value.arguments } := by
  have htype : value.typeText = type := by
    rw [typeText_of_decodeAs sendable filled hread, String.ofList_toList]
  refine ⟨htype, homogeneous_of_decodeAs filled hread, fun client object interface method b => ?_⟩
  have hwords : Busctl.argumentWords [value] = type :: value.arguments := by
    simp [Busctl.argumentWords, Signature.typesText_eq_join, htype]
  rw [Busctl.callMethod_spawned, Busctl.callRequest, hwords]
  rfl

/-! ### An empty row

The type of the rows is told by the other one, and that of the variant by what is in it.
-/

/-- Texts in two rows, of which one is empty, and handles in a variant. -/
def rowsData : Json :=
  .array [.array [.array [], .array [.string "x"]],
    .object [("data", .array [.int 3, .int 4]), ("type", .string "ah")]]

theorem rowsData_sendable : Sendable "(aasv)".toList := by
  have htext : Sendable [BasicCode.string.char] := .basic nofun
  have hfields : ∀ field ∈ [['a', 'a', 's'], ['v']], Sendable field := by
    simp only [List.forall_mem_cons]
    exact ⟨htext.array.array, .variant, nofun⟩
  exact .struct hfields

/-- The row that is empty is one of texts. -/
theorem rows_filled : Filled ['a', 'a', 's'] (.array [.array [], .array [.string "x"]]) := by
  intro element h
  cases h with
  | item hshape hitem h =>
    cases hshape
    simp only [List.mem_cons, List.not_mem_nil, or_false] at hitem
    rcases hitem with rfl | rfl
    · cases h with
      | here => exact .inl rfl
      | item hshape hitem h => cases hitem
      | field hshape => cases hshape
    · cases h with
      | item hshape hitem h =>
        cases hshape
        obtain rfl := List.mem_singleton.1 hitem
        cases h
      | field hshape => cases hshape
  | field hshape => cases hshape

theorem handles_filled : Filled ['a', 'h'] (.array [.int 3, .int 4]) := by
  intro element h
  cases h with
  | item hshape hitem h =>
    cases hshape
    simp only [List.mem_cons, List.not_mem_nil, or_false] at hitem
    rcases hitem with rfl | rfl <;> cases h
  | field hshape => cases hshape

theorem rowsData_filled : Filled "(aasv)".toList rowsData := by
  intro element h
  cases h with
  | item hshape => cases hshape
  | field hshape hcut hpair h =>
    cases hshape
    cases hcut
    rw [List.zip_cons_cons, List.zip_cons_cons, List.zip_nil_left, List.mem_cons,
      List.mem_singleton] at hpair
    obtain hpair | hpair := hpair <;> cases hpair
    · exact rows_filled element h
    · cases h with
      | member hshape => cases hshape
      | content hshape hnamed hdata h =>
        cases hdata
        have hnamed := Json.string.inj (Option.some.inj hnamed)
        rw [← String.ofList_inj.1 hnamed] at h
        exact handles_filled element h

/-- The rows are sent with their counts, and the handles as the numbers that they were read as. -/
theorem sent_under_its_type_rows :
    Sendable "(aasv)".toList ∧ Filled "(aasv)".toList rowsData ∧
      ∃ value, decode "(aasv)" rowsData = .ok value ∧ value.typeText = "(aasv)" ∧
        value.Homogeneous ∧
        Busctl.spawned (Busctl.callMethod ⟨.ofSeconds 5⟩ ⟨"org.example", "/rows"⟩ "org.example.Rows"
            "Put" [value] ({} : Bench)).2
          = #[{ program := "busctl"
                arguments :=
                  ["--system", "--json=short", "--timeout=5", "call", "org.example", "/rows",
                    "org.example.Rows", "Put", "(aasv)", "2", "0", "1", "x", "au", "2", "3",
                    "4"] }] := by
  obtain ⟨value, hread, hwords⟩ : ∃ value, decode "(aasv)" rowsData = .ok value ∧
      value.arguments = ["2", "0", "1", "x", "au", "2", "3", "4"] := ⟨_, rfl, by decide +kernel⟩
  obtain ⟨htype, hall, hsent⟩ := sent_under_its_type rowsData_sendable rowsData_filled hread
  refine ⟨rowsData_sendable, rowsData_filled, value, hread, htype, hall, ?_⟩
  rw [hsent, hwords]
  rfl

end Value

end BusTrial
