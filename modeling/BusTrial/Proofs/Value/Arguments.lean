import BusTrial.Bus.Busctl
import BusTrial.Proofs.Signature.Concatenation
import BusTrial.Proofs.Value.Parts
import Mathlib

/-!
# Calls are told apart by their words

The counts, keys, types and numbers of all arguments of a call are passed in one row of words.  For
values whose arrays hold items of one type each, the row says which values were passed, as far as
`Value.Alike` goes.

* `Value.delimits` — the words of a value end where the value ends, whatever follows them: two
  values of one type whose words begin the same row are alike, and the same words are left;
* `Value.Alike.passedAlike` — alike values are passed by the same words;
* **`Busctl.callRequest_tells_apart`** — so two requests are the same exactly when they call the
  same method of the same object with arguments that are alike one by one.

The induction of `delimits` is on the parts of a value, where an entry of a dictionary counts as
what it holds without the variants around it.
-/

namespace BusTrial

namespace Value

/-! ## Values of one type throughout -/

/-- The items of every array in the value, at any depth, are of one type. -/
inductive Homogeneous : Value → Prop
  | intro {value : Value} :
    (∀ items, value = .array items → ∀ a ∈ items, ∀ b ∈ items, a.typeText = b.typeText) →
      (∀ part ∈ value.parts, Homogeneous part) → Homogeneous value

/-- The parts of a value whose arrays are of one type each are such values. -/
theorem Homogeneous.part {value : Value} (h : value.Homogeneous) :
    ∀ part ∈ value.parts, part.Homogeneous := by
  cases h with
  | intro _ hparts => exact hparts

/-- All items of such an array have the type of any of them. -/
theorem Homogeneous.map_typeText {items : List Value} (h : Homogeneous (.array items)) {a : Value}
    (ha : a ∈ items) : items.map typeText = List.replicate items.length a.typeText := by
  cases h with
  | intro hitems _ =>
  rw [List.eq_replicate_iff, List.length_map]
  refine ⟨rfl, fun text htext => ?_⟩
  obtain ⟨b, hb, rfl⟩ := List.mem_map.1 htext
  exact hitems items rfl b hb a ha

/-- A value whose arrays are of one type each stays one without the variants around it. -/
theorem Homogeneous.unwrapped : ∀ {value : Value}, value.Homogeneous → value.unwrapped.Homogeneous
  | .variant inner, h => (h.part inner (List.mem_singleton_self _)).unwrapped
  | .bool _, h | .byte _, h | .int16 _, h | .uint16 _, h | .int32 _, h | .uint32 _, h
  | .int64 _, h | .uint64 _, h | .double _, h | .string _, h | .objectPath _, h
  | .signature _, h | .bytes _, h | .array _, h | .dict _, h | .struct _, h => h

/-! ## What the words tell -/

/-- The values are the same but for what is not passed: whether bytes are kept as bytes or as items
of an array, which of the doubles with one text a double is, and how many variants are around the
value of an entry. -/
inductive Alike : Value → Value → Prop
  | refl (value : Value) : Alike value value
  | double {x y : Float} : doubleLayout.write x = doubleLayout.write y →
    Alike (.double x) (.double y)
  | bytes {values : List UInt8} : values ≠ [] →
    Alike (.bytes values) (.array (values.map .byte))
  | items {values : List UInt8} : values ≠ [] →
    Alike (.array (values.map .byte)) (.bytes values)
  | array {vs ws : List Value} : List.Forall₂ Alike vs ws → Alike (.array vs) (.array ws)
  | dict {es fs : List (String × Value)} : es.map Prod.fst = fs.map Prod.fst →
    List.Forall₂ Alike (es.map fun e => e.2.unwrapped) (fs.map fun e => e.2.unwrapped) →
      Alike (.dict es) (.dict fs)
  | struct {vs ws : List Value} : List.Forall₂ Alike vs ws → Alike (.struct vs) (.struct ws)
  | variant {v w : Value} : Alike v w → Alike (.variant v) (.variant w)

/-! ## The words of a value -/

/-- The words of an entry are those of its value without variants. -/
theorem words_unwrapped : ∀ value : Value, value.words.unwrapped = value.unwrapped.arguments
  | .variant inner => words_unwrapped inner
  | .bool _ | .byte _ | .int16 _ | .uint16 _ | .int32 _ | .uint32 _ | .int64 _ | .uint64 _
  | .double _ | .string _ | .objectPath _ | .signature _ | .bytes _ | .array _ | .dict _
  | .struct _ => rfl

/-- The words of items are those of one after the other. -/
theorem itemWords_eq (items : List Value) : itemWords items = items.flatMap arguments := by
  induction items with
  | nil => rfl
  | cons item rest ih => rw [itemWords, ih, List.flatMap_cons, arguments]

/-- The words of an entry of a dictionary. -/
def entryArguments (entry : String × Value) : List String :=
  entry.1 :: entry.2.unwrapped.typeText :: entry.2.unwrapped.arguments

/-- The words of entries are those of one after the other. -/
theorem entryWords_eq (entries : List (String × Value)) :
    entryWords entries = entries.flatMap entryArguments := by
  induction entries with
  | nil => rfl
  | cons entry rest ih =>
      rw [entryWords, ih, List.flatMap_cons, entryArguments, words_unwrapped]

/-- Bytes are passed as their count and their numbers. -/
theorem arguments_bytes (values : List UInt8) :
    (bytes values).arguments = Nat.repr values.length :: values.map fun b => Nat.repr b.toNat :=
  rfl

/-- An array is passed as its count and its items. -/
theorem arguments_array (items : List Value) :
    (array items).arguments = Nat.repr items.length :: items.flatMap arguments := by
  rw [← itemWords_eq]
  rfl

/-- A dictionary is passed as its count and its entries. -/
theorem arguments_dict (entries : List (String × Value)) :
    (dict entries).arguments = Nat.repr entries.length :: entries.flatMap entryArguments := by
  rw [← entryWords_eq]
  rfl

/-- A struct is passed as its fields, without a count. -/
theorem arguments_struct (fields : List Value) :
    (struct fields).arguments = fields.flatMap arguments := by
  rw [← itemWords_eq]
  rfl

/-- A variant is passed as its type and what is in it. -/
theorem arguments_variant (inner : Value) :
    (variant inner).arguments = inner.typeText :: inner.arguments :=
  rfl

/-- Bytes in an array are passed by the words of the bytes. -/
theorem arguments_byteItems (values : List UInt8) :
    (array (values.map .byte)).arguments = (bytes values).arguments := by
  rw [arguments_array, arguments_bytes, List.length_map, List.flatMap_map]
  exact congrArg _ List.map_eq_flatMap.symm

/-! ## The types of values -/

/-- The first character of the type. -/
def initial : Value → Char
  | .bool _ => 'b'
  | .byte _ => 'y'
  | .int16 _ => 'n'
  | .uint16 _ => 'q'
  | .int32 _ => 'i'
  | .uint32 _ => 'u'
  | .int64 _ => 'x'
  | .uint64 _ => 't'
  | .double _ => 'd'
  | .string _ => 's'
  | .objectPath _ => 'o'
  | .signature _ => 'g'
  | .bytes _ | .array _ | .dict _ => 'a'
  | .struct _ => '('
  | .variant _ => 'v'

/-- The first character of a type tells its kind. -/
theorem typeText_initial (value : Value) : value.typeText.toList.head? = some value.initial := by
  cases value with
  | array items =>
      cases items with
      | nil => rfl
      | cons first rest =>
          rw [typeText, String.toList_append]
          rfl
  | struct fields =>
      rw [typeText, String.toList_append, String.toList_append]
      rfl
  | _ =>
      rw [typeText]
      rfl

/-- Values of one type are of one kind. -/
theorem initial_eq {v w : Value} (h : v.typeText = w.typeText) : v.initial = w.initial := by
  have hhead := typeText_initial v
  rw [h, typeText_initial w] at hhead
  exact (Option.some.inj hhead).symm

/-- Only bytes have the type of a byte. -/
theorem eq_byte_of_typeText {value : Value} (h : value.typeText = "y") : ∃ b, value = .byte b := by
  have hinitial : value.initial = (byte 0).initial := initial_eq h
  cases value with
  | byte b => exact ⟨b, rfl⟩
  | _ => cases hinitial

/-- An array does not have the type of a dictionary. -/
theorem typeText_array_ne_dict (items : List Value) (entries : List (String × Value)) :
    (array items).typeText ≠ (dict entries).typeText := by
  intro h
  cases items with
  | nil =>
      rw [typeText, typeText] at h
      exact absurd h (by decide)
  | cons first rest =>
      have hfirst : "a" ++ first.typeText = "a" ++ "\x7bsv\x7d" := by
        rw [typeText, typeText] at h
        exact h
      have hhead := typeText_initial first
      rw [(String.append_right_inj _).1 hfirst] at hhead
      cases first <;> cases hhead

/-- Types in a row are told apart, since they are found again. -/
theorem fieldTypes_inj {vs ws : List Value} (h : fieldTypes vs = fieldTypes ws) :
    vs.map typeText = ws.map typeText := by
  have htypes := Signature.split_typesText vs
  rw [typesText, h, ← typesText, Signature.split_typesText] at htypes
  exact (Except.ok.inj htypes).symm

/-! ## Values of one word -/

/-- The value is passed as one word. -/
def isScalar (value : Value) : Bool :=
  !(['a', '(', 'v'].contains value.initial)

/-- A scalar is passed as one word, which displays it. -/
theorem arguments_scalar {value : Value} (h : value.isScalar = true) :
    value.arguments = [value.display] := by
  cases value <;> first | rfl | cases h

/-- A value of one word is what its type and its word say. -/
theorem alike_of_display {v w : Value} (hscalar : v.isScalar = true)
    (hinitial : v.initial = w.initial) (h : v.display = w.display) : Alike v w := by
  cases v with
  | bool a =>
      cases w <;> cases hinitial
      rename_i b
      obtain rfl : a = b := by
        revert h
        cases a <;> cases b <;> decide
      exact .refl _
  | byte _ | uint16 _ | uint32 _ | uint64 _ =>
      cases w <;> cases hinitial
      simp only [display, Nat.repr_inj, UInt8.toNat_inj, UInt16.toNat_inj, UInt32.toNat_inj,
        UInt64.toNat_inj] at h
      rw [h]
      exact .refl _
  | int16 _ | int32 _ | int64 _ =>
      cases w <;> cases hinitial
      simp only [display, Int.repr_inj, Int16.toInt_inj, Int32.toInt_inj, Int64.toInt_inj] at h
      rw [h]
      exact .refl _
  | double x =>
      cases w <;> cases hinitial
      exact .double h
  | string _ | objectPath _ | signature _ =>
      cases w <;> cases hinitial
      cases h
      exact .refl _
  | bytes _ | array _ | dict _ | struct _ | variant _ => cases hscalar

/-! ## Where the words of a value end -/

/-- Words that begin with those of the value, and with those of another value of its type, say that
the two are alike, and go on in one way. -/
def Delimits (v : Value) : Prop :=
  ∀ w : Value, v.Homogeneous → w.Homogeneous → v.typeText = w.typeText → ∀ r s : List String,
    v.arguments ++ r = w.arguments ++ s → Alike v w ∧ r = s

/-- A scalar of a known type can be told from what follows it. -/
theorem scalar_delimits {v w : Value} (hscalar : v.isScalar = true)
    (htype : v.typeText = w.typeText) {r s : List String}
    (h : v.arguments ++ r = w.arguments ++ s) : Alike v w ∧ r = s := by
  have hinitial := initial_eq htype
  have hscalar' : w.isScalar = true := by rw [isScalar, ← hinitial]; exact hscalar
  rw [arguments_scalar hscalar, arguments_scalar hscalar'] at h
  obtain ⟨hword, hrest⟩ := List.cons.inj h
  exact ⟨alike_of_display hscalar hinitial hword, hrest⟩

/-- Bytes can be told from what follows them by their count. -/
theorem bytes_delimit {as bs : List UInt8} {r s : List String}
    (h : (bytes as).arguments ++ r = (bytes bs).arguments ++ s) : as = bs ∧ r = s := by
  rw [arguments_bytes, arguments_bytes] at h
  obtain ⟨hcount, h⟩ := List.cons.inj h
  have hlength : as.length = bs.length := Nat.repr_inj.1 hcount
  obtain ⟨hwords, hrest⟩ := List.append_inj h (by simpa using hlength)
  have hinj : Function.Injective fun b : UInt8 => Nat.repr b.toNat :=
    fun _ _ hb => UInt8.toNat_inj.1 (Nat.repr_inj.1 hb)
  exact ⟨List.map_injective_iff.2 hinj hwords, hrest⟩

/-- An array with the type of bytes holds bytes. -/
theorem eq_byteItems {items : List Value} (hitems : Homogeneous (.array items)) {bs : List UInt8}
    (h : (bytes bs).typeText = (array items).typeText) :
    ∃ values ≠ [], items = values.map .byte := by
  cases items with
  | nil => exact absurd h (by simp [typeText])
  | cons first rest =>
      have hfirst : first.typeText = "y" := ((String.append_right_inj "a").1 h).symm
      have htypes := hitems.map_typeText (List.mem_cons_self ..)
      have hrange : first :: rest ∈ Set.range (List.map Value.byte) := by
        rw [Set.range_list_map]
        intro item hitem
        have htype : item.typeText ∈ (first :: rest).map typeText := List.mem_map_of_mem hitem
        rw [htypes, hfirst] at htype
        obtain ⟨b, hb⟩ := eq_byte_of_typeText (List.eq_of_mem_replicate htype)
        exact ⟨b, hb.symm⟩
      obtain ⟨values, hvalues⟩ := hrange
      refine ⟨values, ?_, hvalues.symm⟩
      rintro rfl
      cases hvalues

/-- Values in a row are delimited if each of them is, whatever follows. -/
theorem row_delimits {vs ws : List Value} (hrow : ∀ v ∈ vs, v.Delimits)
    (hvs : ∀ v ∈ vs, v.Homogeneous) (hws : ∀ w ∈ ws, w.Homogeneous)
    (htypes : vs.map typeText = ws.map typeText) {r s : List String}
    (h : vs.flatMap arguments ++ r = ws.flatMap arguments ++ s) :
    List.Forall₂ Alike vs ws ∧ r = s := by
  induction vs generalizing ws with
  | nil =>
      obtain rfl : ws = [] := List.map_eq_nil_iff.1 htypes.symm
      exact ⟨.nil, h⟩
  | cons v vs ih =>
      cases ws with
      | nil => cases htypes
      | cons w ws =>
          rw [List.forall_mem_cons] at hrow hvs hws
          rw [List.map_cons, List.map_cons, List.cons.injEq] at htypes
          rw [List.flatMap_cons, List.flatMap_cons, List.append_assoc, List.append_assoc] at h
          obtain ⟨hv, hrest⟩ := hrow.1 w hvs.1 hws.1 htypes.1 _ _ h
          obtain ⟨hvs, hrest⟩ := ih hrow.2 hvs.2 hws.2 htypes.2 hrest
          exact ⟨.cons hv hvs, hrest⟩

/-- So are the entries of a dictionary, since each names the type of what it holds. -/
theorem entries_delimit {es fs : List (String × Value)}
    (hrow : ∀ e ∈ es, e.2.unwrapped.Delimits) (hes : ∀ e ∈ es, e.2.Homogeneous)
    (hfs : ∀ f ∈ fs, f.2.Homogeneous) (hlength : es.length = fs.length) {r s : List String}
    (h : es.flatMap entryArguments ++ r = fs.flatMap entryArguments ++ s) :
    es.map Prod.fst = fs.map Prod.fst ∧
      List.Forall₂ Alike (es.map fun e => e.2.unwrapped) (fs.map fun e => e.2.unwrapped) ∧
        r = s := by
  induction es generalizing fs with
  | nil =>
      obtain rfl : fs = [] := List.eq_nil_of_length_eq_zero hlength.symm
      exact ⟨rfl, .nil, h⟩
  | cons e es ih =>
      cases fs with
      | nil => cases hlength
      | cons f fs =>
          rw [List.forall_mem_cons] at hrow hes hfs
          simp only [List.flatMap_cons, entryArguments, List.append_assoc, List.cons_append,
            List.cons.injEq] at h
          obtain ⟨hkey, htype, h⟩ := h
          obtain ⟨hvalue, hrest⟩ :=
            hrow.1 f.2.unwrapped hes.1.unwrapped hfs.1.unwrapped htype _ _ h
          obtain ⟨hkeys, hvalues, hrest⟩ :=
            ih hrow.2 hes.2 hfs.2 (Nat.succ.inj hlength) hrest
          exact ⟨by rw [List.map_cons, List.map_cons, hkey, hkeys], .cons hvalue hvalues, hrest⟩

/-- Arrays of one type and of one length hold items of the same types. -/
theorem Homogeneous.map_typeText_eq {vs ws : List Value} (hvs : Homogeneous (.array vs))
    (hws : Homogeneous (.array ws)) (hlength : vs.length = ws.length)
    (htype : (array vs).typeText = (array ws).typeText) : vs.map typeText = ws.map typeText := by
  cases vs with
  | nil =>
      obtain rfl : ws = [] := List.eq_nil_of_length_eq_zero hlength.symm
      rfl
  | cons v vs =>
      cases ws with
      | nil => cases hlength
      | cons w ws =>
          have hfirst : v.typeText = w.typeText := (String.append_right_inj "a").1 htype
          rw [hvs.map_typeText (List.mem_cons_self ..), hws.map_typeText (List.mem_cons_self ..),
            hlength, hfirst]

/-- Bytes can be told from what follows them, also from an array of bytes. -/
theorem delimits_bytes (as : List UInt8) : Delimits (.bytes as) := by
  intro w hv hw htype r s h
  -- three kinds of values have a type that begins with `a`; the type decides which pairs can meet
  have hinitial := initial_eq htype
  cases w with
  | bytes bs =>
      obtain ⟨rfl, hrest⟩ := bytes_delimit h
      exact ⟨.refl _, hrest⟩
  | array items =>
      -- an empty array has the type of an array of texts, so this one holds bytes
      obtain ⟨bs, hne, rfl⟩ := eq_byteItems hw htype
      rw [arguments_byteItems] at h
      obtain ⟨rfl, hrest⟩ := bytes_delimit h
      exact ⟨.bytes hne, hrest⟩
  | dict entries => exact absurd htype (by simp [typeText])
  | _ => cases hinitial

/-- An array can be told from what follows it if its items can: the count says how many there are,
and the first one of what type they are. -/
theorem delimits_array {vs : List Value} (ih : ∀ v ∈ vs, v.Delimits) : Delimits (.array vs) := by
  intro w hv hw htype r s h
  have hinitial := initial_eq htype
  cases w with
  | bytes bs =>
      obtain ⟨as, hne, rfl⟩ := eq_byteItems hv htype.symm
      rw [arguments_byteItems] at h
      obtain ⟨rfl, hrest⟩ := bytes_delimit h
      exact ⟨.items hne, hrest⟩
  | array ws =>
      -- the count comes first: without it an empty array and one of texts would not be told apart
      rw [arguments_array, arguments_array] at h
      obtain ⟨hcount, h⟩ := List.cons.inj h
      have htypes := hv.map_typeText_eq hw (Nat.repr_inj.1 hcount) htype
      obtain ⟨hitems, hrest⟩ := row_delimits ih hv.part hw.part htypes h
      exact ⟨.array hitems, hrest⟩
  | dict entries => exact absurd htype (typeText_array_ne_dict vs entries)
  | _ => cases hinitial

/-- A dictionary can be told from what follows it if its values can. -/
theorem delimits_dict {es : List (String × Value)} (ih : ∀ e ∈ es, e.2.unwrapped.Delimits) :
    Delimits (.dict es) := by
  intro w hv hw htype r s h
  have hinitial := initial_eq htype
  cases w with
  | bytes bs => exact absurd htype (by simp [typeText])
  | array items => exact absurd htype.symm (typeText_array_ne_dict items es)
  | dict fs =>
      rw [arguments_dict, arguments_dict] at h
      obtain ⟨hcount, h⟩ := List.cons.inj h
      have hes (e : String × Value) (he : e ∈ es) := hv.part e.2 (List.mem_map_of_mem he)
      have hfs (f : String × Value) (hf : f ∈ fs) := hw.part f.2 (List.mem_map_of_mem hf)
      obtain ⟨hkeys, hvalues, hrest⟩ := entries_delimit ih hes hfs (Nat.repr_inj.1 hcount) h
      exact ⟨.dict hkeys hvalues, hrest⟩
  | _ => cases hinitial

/-- A struct can be told from what follows it if its fields can: the type says how many there are.
-/
theorem delimits_struct {vs : List Value} (ih : ∀ v ∈ vs, v.Delimits) : Delimits (.struct vs) := by
  intro w hv hw htype r s h
  have hinitial := initial_eq htype
  cases w with
  | struct ws =>
      rw [arguments_struct, arguments_struct] at h
      have hfields : fieldTypes vs = fieldTypes ws :=
        (String.append_right_inj "(").1 ((String.append_left_inj ")").1 htype)
      obtain ⟨hvalues, hrest⟩ := row_delimits ih hv.part hw.part (fieldTypes_inj hfields) h
      exact ⟨.struct hvalues, hrest⟩
  | _ => cases hinitial

/-- A variant can be told from what follows it, since its first word is a type. -/
theorem delimits_variant {v : Value} (ih : v.Delimits) : Delimits (.variant v) := by
  intro w hv hw htype r s h
  have hinitial := initial_eq htype
  cases w with
  | variant w =>
      rw [arguments_variant, arguments_variant] at h
      obtain ⟨hinner, h⟩ := List.cons.inj h
      obtain ⟨halike, hrest⟩ := ih w (hv.part v (List.mem_singleton_self v))
        (hw.part w (List.mem_singleton_self w)) hinner _ _ h
      exact ⟨.variant halike, hrest⟩
  | _ => cases hinitial

/-- **The words of a value end where it ends.** -/
theorem delimits (v : Value) : v.Delimits := by
  induction v using induction_on_unwrapped_parts with
  | step v ih =>
  cases v with
  | bool _ | byte _ | int16 _ | uint16 _ | int32 _ | uint32 _ | int64 _ | uint64 _ | double _
  | string _ | objectPath _ | signature _ =>
      intro w _ _ htype r s h
      exact scalar_delimits rfl htype h
  | bytes values => exact delimits_bytes values
  | array items => exact delimits_array fun v hv => (ih v hv).1
  | dict entries => exact delimits_dict fun e he => (ih e.2 (List.mem_map_of_mem he)).2
  | struct fields => exact delimits_struct fun v hv => (ih v hv).1
  | variant inner => exact delimits_variant (ih inner (List.mem_singleton_self inner)).1

/-! ## Alike values are passed alike -/

/-- The values have one type and are passed by the same words. -/
def PassedAlike (v w : Value) : Prop :=
  v.typeText = w.typeText ∧ v.arguments = w.arguments

/-- Rows of values that are alike one by one are passed alike. -/
theorem passedAlike_row {vs ws : List Value} (h : List.Forall₂ Alike vs ws)
    (hrow : ∀ v ∈ vs, ∀ w, Alike v w → v.PassedAlike w) :
    vs.map typeText = ws.map typeText ∧ vs.flatMap arguments = ws.flatMap arguments := by
  induction h with
  | nil => exact ⟨rfl, rfl⟩
  | cons hv _ ih =>
      rw [List.forall_mem_cons] at hrow
      obtain ⟨htype, hwords⟩ := hrow.1 _ hv
      obtain ⟨htypes, hrest⟩ := ih hrow.2
      rw [List.map_cons, List.map_cons, List.flatMap_cons, List.flatMap_cons, htype, hwords, htypes,
        hrest]
      exact ⟨rfl, rfl⟩

/-- Entries with the same keys and values that are alike are passed alike. -/
theorem passedAlike_entries {es fs : List (String × Value)}
    (hrow : ∀ e ∈ es, ∀ w, Alike e.2.unwrapped w → e.2.unwrapped.PassedAlike w)
    (hkeys : es.map Prod.fst = fs.map Prod.fst)
    (h : List.Forall₂ Alike (es.map fun e => e.2.unwrapped) (fs.map fun e => e.2.unwrapped)) :
    es.flatMap entryArguments = fs.flatMap entryArguments := by
  induction es generalizing fs with
  | nil =>
      obtain rfl : fs = [] := List.map_eq_nil_iff.1 hkeys.symm
      rfl
  | cons e es ih =>
      cases fs with
      | nil => cases hkeys
      | cons f fs =>
          rw [List.forall_mem_cons] at hrow
          rw [List.map_cons, List.map_cons, List.cons.injEq] at hkeys
          rw [List.map_cons, List.map_cons, List.forall₂_cons] at h
          obtain ⟨htype, hwords⟩ := hrow.1 _ h.1
          rw [List.flatMap_cons, List.flatMap_cons, ih hrow.2 hkeys.2 h.2, entryArguments,
            entryArguments, hkeys.1, htype, hwords]

/-- The type of an array is that of its first item, or that of a text. -/
theorem typeText_array_eq (items : List Value) :
    (array items).typeText = "a" ++ (items.map typeText).headD "s" := by
  cases items <;> rfl

/-- An array of bytes that is not empty is passed as the bytes would be. -/
theorem byteItems_passedAlike {values : List UInt8} (hne : values ≠ []) :
    (array (values.map .byte)).PassedAlike (bytes values) := by
  refine ⟨?_, arguments_byteItems values⟩
  obtain ⟨b, bs, rfl⟩ := List.exists_cons_of_ne_nil hne
  rfl

/-- **Alike values are passed by the same words.** -/
theorem Alike.passedAlike : ∀ {v w : Value}, Alike v w → v.PassedAlike w := by
  intro v
  induction v using induction_on_unwrapped_parts with
  | step v ih =>
  intro w h
  cases h with
  | refl => exact ⟨rfl, rfl⟩
  | double htext => exact ⟨rfl, congrArg (fun text => [text]) htext⟩
  | bytes hne =>
      obtain ⟨htype, hwords⟩ := byteItems_passedAlike hne
      exact ⟨htype.symm, hwords.symm⟩
  | items hne => exact byteItems_passedAlike hne
  | array hitems =>
      obtain ⟨htypes, hwords⟩ := passedAlike_row hitems fun v hv w => (ih v hv).1
      refine ⟨by rw [typeText_array_eq, typeText_array_eq, htypes], ?_⟩
      rw [arguments_array, arguments_array, hwords, hitems.length_eq]
  | dict hkeys hvalues =>
      have hwords := passedAlike_entries
        (fun e he w => (ih e.2 (List.mem_map_of_mem he)).2) hkeys hvalues
      have hlength := congrArg List.length hkeys
      rw [List.length_map, List.length_map] at hlength
      refine ⟨rfl, ?_⟩
      rw [arguments_dict, arguments_dict, hwords, hlength]
  | struct hfields =>
      obtain ⟨htypes, hwords⟩ := passedAlike_row hfields fun v hv w => (ih v hv).1
      refine ⟨?_, by rw [arguments_struct, arguments_struct, hwords]⟩
      rw [typeText, typeText, ← typesText, ← typesText, Signature.typesText_eq_join,
        Signature.typesText_eq_join, htypes]
  | variant hinner =>
      obtain ⟨htype, hwords⟩ := (ih _ (List.mem_singleton_self _)).1 hinner
      refine ⟨rfl, ?_⟩
      rw [arguments_variant, arguments_variant, htype, hwords]

end Value

/-! ## Calls -/

namespace Busctl

open Value

variable {values others : List Value}

/-- The words that pass arguments tell which arguments they pass. -/
theorem argumentWords_eq_iff (hvalues : ∀ v ∈ values, v.Homogeneous)
    (hothers : ∀ v ∈ others, v.Homogeneous) :
    argumentWords values = argumentWords others ↔ List.Forall₂ Alike values others := by
  constructor
  · intro h
    cases values with
    | nil =>
        cases others with
        | nil => exact .nil
        | cons w ws => cases h
    | cons v vs =>
        cases others with
        | nil => cases h
        | cons w ws =>
            obtain ⟨htypes, hwords⟩ := List.cons.inj h
            have hrow := row_delimits (fun v _ => v.delimits) hvalues hothers (fieldTypes_inj htypes)
              (congrArg (· ++ []) hwords)
            exact hrow.1
  · intro h
    obtain ⟨htypes, hwords⟩ := passedAlike_row h fun _ _ _ hv => hv.passedAlike
    have hempty : values.isEmpty = others.isEmpty := by cases h <;> rfl
    rw [argumentWords, argumentWords, hempty, hwords, Signature.typesText_eq_join,
      Signature.typesText_eq_join, htypes]

/-- **Calls are told apart by their words.**  Two requests are the same exactly when they call the
same method of the same object with as many arguments, alike one by one; and the words of an
argument end where it ends, whatever stands behind them. -/
theorem callRequest_tells_apart (client : Busctl) :
    (∀ (object object' : ObjectRef) (interface interface' method method' : String)
        (values values' : List Value),
      (∀ v ∈ values, v.Homogeneous) → (∀ v ∈ values', v.Homogeneous) →
        (client.callRequest object interface method values
            = client.callRequest object' interface' method' values'
          ↔ object = object' ∧ interface = interface' ∧ method = method' ∧
              List.Forall₂ Alike values values')) ∧
      ∀ v w : Value, v.Homogeneous → w.Homogeneous → v.typeText = w.typeText →
        ∀ r s : List String, v.arguments ++ r = w.arguments ++ s → r = s := by
  refine ⟨?_, fun v w hv hw htype r s h => (v.delimits w hv hw htype r s h).2⟩
  intro object object' interface interface' method method' values values' hvalues hvalues'
  rw [← argumentWords_eq_iff hvalues hvalues']
  constructor
  · intro h
    have hwords : memberWords object interface method ++ argumentWords values
        = memberWords object' interface' method' ++ argumentWords values' :=
      List.append_cancel_left (congrArg Request.arguments h)
    obtain ⟨hmember, harguments⟩ := List.append_inj hwords rfl
    cases object
    cases object'
    cases hmember
    exact ⟨rfl, rfl, rfl, harguments⟩
  · rintro ⟨rfl, rfl, rfl, h⟩
    rw [callRequest, callRequest, h]

/-- Texts in two groups, of which one is empty. -/
def groups : Value :=
  .array [.array [.string "a"], .array []]

/-- Settings as they are read, with a variant around each. -/
def settings : Value :=
  .dict [("mtu", .variant (.uint16 1500))]

/-- Two calls that differ in a variant around an entry of a dictionary make one request, since the
variant has no words of its own there. -/
theorem callRequest_tells_apart_settings :
    (∀ v ∈ [groups, settings], v.Homogeneous) ∧
      callRequest ⟨.ofSeconds 5⟩ ⟨"org.example", "/"⟩ "org.example.Link" "Set" [groups, settings]
        = callRequest ⟨.ofSeconds 5⟩ ⟨"org.example", "/"⟩ "org.example.Link" "Set"
            [groups, .dict [("mtu", .uint16 1500)]] := by
  have hword : Homogeneous (.uint16 1500) := .intro nofun nofun
  have hvariant : Homogeneous (.variant (.uint16 1500)) := .intro nofun (by simp [parts, hword])
  have hsettings : settings.Homogeneous := .intro nofun (by simp [settings, parts, hvariant])
  have hbare : Homogeneous (.dict [("mtu", .uint16 1500)]) := .intro nofun (by simp [parts, hword])
  have htext : Homogeneous (.string "a") := .intro nofun nofun
  have hone : Homogeneous (.array [.string "a"]) :=
    .intro (by rintro _ ⟨⟩; simp) (by simp [parts, htext])
  have hnone : Homogeneous (.array []) := .intro (by rintro _ ⟨⟩; simp) nofun
  have hgroups : groups.Homogeneous :=
    .intro (by rintro _ ⟨⟩; simp [typeText]) (by simp [groups, parts, hone, hnone])
  have hvalues : ∀ v ∈ [groups, settings], v.Homogeneous := by simp [hgroups, hsettings]
  refine ⟨hvalues, ((callRequest_tells_apart _).1 _ _ _ _ _ _ _ _ hvalues ?_).2 ⟨rfl, rfl, rfl, ?_⟩⟩
  · simp [hgroups, hbare]
  · exact .cons (.refl _) (.cons (.dict rfl (.cons (.refl _) .nil)) .nil)

end Busctl

end BusTrial
