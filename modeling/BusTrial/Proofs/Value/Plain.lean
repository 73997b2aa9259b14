import BusTrial.Proofs.Value.Keyed
import BusTrial.Value.Compare

/-!
# What a value says

`Value.looseEq` goes through pairs of kinds one after the other.  Here it is shown to be an equality:
`Value.plain` is what a value says, with integers as numbers, texts of all kinds as texts, bytes as a
row of numbers and no variants, and on values without doubles two are loosely equal exactly when
they say the same.

* `integer?_eq`, `text?_eq`, `isTruthy_eq`, `size?_eq`, `get?_eq` — what is asked of a value is
  answered by what it says;
* `looseEqBytes_iff`, `looseEqItems_iff`, `looseEqEntries_iff` — the rows.  Entries are only looked
  up from one side; that this is enough rests on the key order of both (`KeyMap.eq_of_subset`);
* **`looseEq_iff`** — loose equality is equality of what is said, by induction on the parts of the
  left value against every right one (`ComparedByPlain`);
* **`looseEq_congruence`** — so it is an equivalence, and what is asked of a value does not tell
  apart what is loosely equal.

Doubles are left out because a double is equal to every integer that rounds to it.
-/

namespace BusTrial

/-- What a value says. -/
inductive Plain where
  | bool (value : Bool)
  | number (n : Int)
  | text (text : String)
  | real (x : Float)
  | row (items : List Plain)
  | dict (entries : List (String × Plain))
  | struct (fields : List Plain)

namespace Plain

def number? : Plain → Option Int
  | number n => some n
  | _ => none

def text? : Plain → Option String
  | text s => some s
  | _ => none

def bool? : Plain → Option Bool
  | bool value => some value
  | _ => none

/-- Numbers, texts and truth values. -/
def isScalar : Plain → Bool
  | number _ | text _ | bool _ => true
  | _ => false

/-- What holds: neither false nor zero nor empty. -/
def truthy : Plain → Bool
  | bool value => value
  | number n => n != 0
  | text s => s != ""
  | real x => x != 0.0
  | row items => !items.isEmpty
  | dict entries => !entries.isEmpty
  | struct fields => !fields.isEmpty

/-- The number of characters, items, entries or fields. -/
def size? : Plain → Option Nat
  | text s => some s.length
  | row items => some items.length
  | dict entries => some entries.length
  | struct fields => some fields.length
  | _ => none

/-- What a dictionary says of a key. -/
def get? (key : String) : Plain → Option Plain
  | dict entries => KeyMap.get? key entries
  | _ => none

end Plain

namespace Value

mutual

/-- What the value says. -/
def plain : Value → Plain
  | .bool value => .bool value
  | .byte value => .number value.toNat
  | .int16 value => .number value.toInt
  | .uint16 value => .number value.toNat
  | .int32 value => .number value.toInt
  | .uint32 value => .number value.toNat
  | .int64 value => .number value.toInt
  | .uint64 value => .number value.toNat
  | .double value => .real value
  | .string text => .text text
  | .objectPath text => .text text
  | .signature text => .text text
  | .bytes values => .row (values.map fun b => .number b.toNat)
  | .array items => .row (plainItems items)
  | .dict entries => .dict (plainEntries entries)
  | .struct fields => .struct (plainItems fields)
  | .variant inner => inner.plain

def plainItems : List Value → List Plain
  | [] => []
  | item :: rest => item.plain :: plainItems rest

def plainEntries : List (String × Value) → List (String × Plain)
  | [] => []
  | (key, value) :: rest => (key, value.plain) :: plainEntries rest

end

@[simp] theorem plainItems_eq (items : List Value) : plainItems items = items.map plain := by
  induction items with
  | nil => rfl
  | cons item rest ih => rw [plainItems, ih, List.map_cons]

@[simp] theorem plainEntries_eq (entries : List (String × Value)) :
    plainEntries entries = entries.map (Prod.map id plain) := by
  induction entries with
  | nil => rfl
  | cons entry rest ih =>
    rw [plainEntries, ih, List.map_cons]
    rfl

@[simp] theorem unwrapped_unwrapped : ∀ v : Value, v.unwrapped.unwrapped = v.unwrapped
  | .variant inner => unwrapped_unwrapped inner
  | .bool _ | .byte _ | .int16 _ | .uint16 _ | .int32 _ | .uint32 _ | .int64 _ | .uint64 _
  | .double _ | .string _ | .objectPath _ | .signature _ | .bytes _ | .array _ | .dict _
  | .struct _ => rfl

@[simp] theorem plain_unwrapped : ∀ v : Value, v.unwrapped.plain = v.plain
  | .variant inner => by rw [unwrapped, plain, plain_unwrapped inner]
  | .bool _ | .byte _ | .int16 _ | .uint16 _ | .int32 _ | .uint32 _ | .int64 _ | .uint64 _
  | .double _ | .string _ | .objectPath _ | .signature _ | .bytes _ | .array _ | .dict _
  | .struct _ => rfl

/-- The integer in a value is that of its plain form, through any number of variants. -/
theorem integer?_eq : ∀ v : Value, v.integer? = v.plain.number?
  | .variant inner => by rw [integer?, plain, integer?_eq inner]
  | .bool _ | .byte _ | .int16 _ | .uint16 _ | .int32 _ | .uint32 _ | .int64 _ | .uint64 _
  | .double _ | .string _ | .objectPath _ | .signature _ | .bytes _ | .array _ | .dict _
  | .struct _ => rfl

/-- The text in a value is that of its plain form. -/
theorem text?_eq : ∀ v : Value, v.text? = v.plain.text?
  | .variant inner => by rw [text?, plain, text?_eq inner]
  | .bool _ | .byte _ | .int16 _ | .uint16 _ | .int32 _ | .uint32 _ | .int64 _ | .uint64 _
  | .double _ | .string _ | .objectPath _ | .signature _ | .bytes _ | .array _ | .dict _
  | .struct _ => rfl

/-- The truth value in a value is that of its plain form. -/
theorem bool?_eq : ∀ v : Value, v.bool? = v.plain.bool?
  | .variant inner => by rw [bool?, plain, bool?_eq inner]
  | .bool _ | .byte _ | .int16 _ | .uint16 _ | .int32 _ | .uint32 _ | .int64 _ | .uint64 _
  | .double _ | .string _ | .objectPath _ | .signature _ | .bytes _ | .array _ | .dict _
  | .struct _ => rfl

/-- Whether a value counts as true can be told from its plain form. -/
theorem isTruthy_eq : ∀ v : Value, v.isTruthy = v.plain.truthy
  | .variant inner => by rw [isTruthy, plain, isTruthy_eq inner]
  | .bool _ | .byte _ | .int16 _ | .uint16 _ | .int32 _ | .uint32 _ | .int64 _ | .uint64 _
  | .double _ | .string _ | .objectPath _ | .signature _ | .bytes _ | .array _ | .dict _
  | .struct _ => by simp [isTruthy, integer?, plain, Plain.truthy]

/-- How many items a value has can be told from its plain form. -/
theorem size?_eq : ∀ v : Value, v.size? = v.plain.size?
  | .variant inner => by rw [size?, plain, size?_eq inner]
  | .bool _ | .byte _ | .int16 _ | .uint16 _ | .int32 _ | .uint32 _ | .int64 _ | .uint64 _
  | .double _ | .string _ | .objectPath _ | .signature _ | .bytes _ | .array _ | .dict _
  | .struct _ => by simp [size?, plain, Plain.size?]

/-- What is found under a key is found in the plain form, in plain form. -/
theorem get?_eq (key : String) : ∀ v : Value, (v.get? key).map plain = v.plain.get? key
  | .variant inner => by rw [get?, plain, get?_eq key inner]
  | .dict entries => by
    simp only [get?, plain, plainEntries_eq, Plain.get?, KeyMap.get?_map, Option.map_map]
    exact congrArg (Option.map · _) (funext plain_unwrapped)
  | .bool _ | .byte _ | .int16 _ | .uint16 _ | .int32 _ | .uint32 _ | .int64 _ | .uint64 _
  | .double _ | .string _ | .objectPath _ | .signature _ | .bytes _ | .array _ | .struct _ => by
    simp [get?, plain, Plain.get?]

/-! ## Values without doubles -/

/-- No double is in the value, at any depth. -/
def Exact (v : Value) : Prop :=
  v.Throughout fun part => ∀ x, part ≠ .double x

/-- A value without doubles is none, inside variants either. -/
theorem Exact.double?_eq_none : ∀ {v : Value}, v.Exact → v.double? = none
  | .variant inner, h =>
    have hinner : inner.Exact := h.part inner (List.mem_singleton_self _)
    hinner.double?_eq_none
  | .double x, h => absurd rfl (h.here x)
  | .bool _, _ | .byte _, _ | .int16 _, _ | .uint16 _, _ | .int32 _, _ | .uint32 _, _
  | .int64 _, _ | .uint64 _, _ | .string _, _ | .objectPath _, _ | .signature _, _ | .bytes _, _
  | .array _, _ | .dict _, _ | .struct _, _ => rfl

/-- A scalar that is no double is compared by its plain form. -/
theorem looseEqScalar_iff {v w : Value} (hv : v.double? = none) (hw : w.double? = none)
    (hscalar : v.plain.isScalar = true) : looseEqScalar v w = true ↔ v.plain = w.plain := by
  cases hp : v.plain <;> cases hq : w.plain <;>
    simp_all [looseEqScalar, integer?_eq, text?_eq, bool?_eq, Plain.number?, Plain.text?,
      Plain.bool?, Plain.isScalar]

/-- A byte is compared with an item by its number. -/
theorem looseEqByte_iff (b : UInt8) {item : Value} (h : item.double? = none) :
    looseEqByte b item = true ↔ item.plain = .number b.toNat := by
  cases hp : item.plain <;> simp [looseEqByte, integer?_eq, h, hp, Plain.number?]

/-- A row of bytes is compared with items number by number. -/
theorem looseEqBytes_iff : ∀ (bs : List UInt8) {items : List Value},
    (∀ item ∈ items, item.double? = none) →
      (looseEqBytes bs items = true ↔ bs.map (fun b => .number b.toNat) = items.map plain)
  | [], [], _ => by simp [looseEqBytes]
  | [], _ :: _, _ => by simp [looseEqBytes]
  | _ :: _, [], _ => by simp [looseEqBytes]
  | b :: bs, item :: items, h => by
    obtain ⟨hitem, hitems⟩ := List.forall_mem_cons.1 h
    rw [looseEqBytes, Bool.and_eq_true, looseEqByte_iff b hitem, looseEqBytes_iff bs hitems,
      List.map_cons, List.map_cons, List.cons.injEq, @eq_comm _ item.plain]

/-- Against every value, loose equality is the equality of what the two say. -/
def ComparedByPlain (v : Value) : Prop :=
  ∀ w : Value, w.Exact → w.Keyed → (looseEq v w = true ↔ v.plain = w.plain)

/-- Two rows of items are equal if their plain forms are, item by item. -/
theorem looseEqItems_iff : ∀ {as bs : List Value}, (∀ a ∈ as, a.ComparedByPlain) →
    (∀ b ∈ bs, b.Exact) → (∀ b ∈ bs, b.Keyed) →
      (looseEqItems as bs = true ↔ as.map plain = bs.map plain)
  | [], [], _, _, _ => by simp [looseEqItems]
  | [], _ :: _, _, _, _ => by simp [looseEqItems]
  | _ :: _, [], _, _, _ => by simp [looseEqItems]
  | a :: as, b :: bs, has, hexact, hkeyed => by
    obtain ⟨ha, has⟩ := List.forall_mem_cons.1 has
    obtain ⟨hb, hexact⟩ := List.forall_mem_cons.1 hexact
    obtain ⟨hb', hkeyed⟩ := List.forall_mem_cons.1 hkeyed
    rw [looseEqItems, Bool.and_eq_true, ha b hb hb', looseEqItems_iff has hexact hkeyed,
      List.map_cons, List.map_cons, List.cons.injEq]

/-- The entries of one dictionary are found in the other exactly if they are among its entries in
plain form; the keys of the other one are in order, and so each has one value. -/
theorem looseEqEntries_iff {others : KeyMap Value} (hsorted : others.Sorted)
    (hexact : ∀ e ∈ others, e.2.Exact) (hkeyed : ∀ e ∈ others, e.2.Keyed) :
    ∀ {entries : List (String × Value)}, (∀ e ∈ entries, e.2.ComparedByPlain) →
      (looseEqEntries entries others = true ↔
        entries.map (Prod.map id plain) ⊆ others.map (Prod.map id plain))
  | [], _ => by simp [looseEqEntries]
  | (key, a) :: rest, h => by
    obtain ⟨ha, hrest⟩ := List.forall_mem_cons.1 h
    rw [looseEqEntries, Bool.and_eq_true, looseEqEntries_iff hsorted hexact hkeyed hrest,
      List.map_cons, List.cons_subset, Prod.map_apply, id_eq,
      ← KeyMap.get?_eq_some_iff (hsorted.map plain), KeyMap.get?_map]
    refine and_congr_left fun _ => ?_
    cases hget : others.get? key with
    | none => simp
    | some b =>
      have hmem : (key, b) ∈ others := KeyMap.mem_of_get? hget
      rw [Option.map_some, Option.some.injEq]
      exact (ha b (hexact _ hmem) (hkeyed _ hmem)).trans eq_comm

/-- A value that was unwrapped is no variant. -/
theorem unwrapped_ne_variant : ∀ v inner : Value, v.unwrapped ≠ .variant inner
  | .variant v, inner => unwrapped_ne_variant v inner
  | .bool _, _ | .byte _, _ | .int16 _, _ | .uint16 _, _ | .int32 _, _ | .uint32 _, _
  | .int64 _, _ | .uint64 _, _ | .double _, _ | .string _, _ | .objectPath _, _ | .signature _, _
  | .bytes _, _ | .array _, _ | .dict _, _ | .struct _, _ => nofun

/-- A value that looks through the variants of the other need only be compared with what is in
them. -/
theorem ComparedByPlain.of_unwrapped {v : Value} (hright : ∀ w, looseEq v w = looseEq v w.unwrapped)
    (h : ∀ w : Value, (∀ inner, w ≠ .variant inner) → w.Exact → w.Keyed →
      (looseEq v w = true ↔ v.plain = w.plain)) : v.ComparedByPlain := by
  intro w hw hw'
  rw [hright, ← plain_unwrapped w]
  exact h w.unwrapped (unwrapped_ne_variant w) hw.unwrapped hw'.unwrapped

/-- Bytes are compared by their plain form, with other bytes and with items. -/
theorem comparedByPlain_bytes (values : List UInt8) : (bytes values).ComparedByPlain := by
  have hright (w : Value) : looseEq (bytes values) w = looseEq (bytes values) w.unwrapped := by
    rw [looseEq, looseEq, unwrapped_unwrapped]
  refine .of_unwrapped hright fun w hvariant hw _ => ?_
  rw [looseEq]
  cases w with
  | variant inner => exact absurd rfl (hvariant inner)
  | bytes others =>
    have hinj : Function.Injective fun b : UInt8 => Plain.number b.toNat := by
      intro x y hxy
      exact UInt8.toNat_inj.1 (Int.natCast_inj.1 (Plain.number.inj hxy))
    simp only [unwrapped, plain, Plain.row.injEq, beq_iff_eq, hinj.list_map.eq_iff]
  | array items =>
    have hitems : ∀ item ∈ items, item.double? = none :=
      fun item hmem => Exact.double?_eq_none (hw.part item hmem)
    simp only [unwrapped, plain, plainItems_eq, Plain.row.injEq, looseEqBytes_iff values hitems]
  | _ => simp [unwrapped, plain]

/-- An array is compared by its plain form if its items are, also with bytes. -/
theorem comparedByPlain_array {items : List Value} (hexact : ∀ item ∈ items, item.Exact)
    (h : ∀ item ∈ items, item.ComparedByPlain) : (array items).ComparedByPlain := by
  have hright (w : Value) : looseEq (array items) w = looseEq (array items) w.unwrapped := by
    rw [looseEq, looseEq, unwrapped_unwrapped]
  refine .of_unwrapped hright fun w hvariant hw hw' => ?_
  rw [looseEq]
  cases w with
  | variant inner => exact absurd rfl (hvariant inner)
  | bytes values =>
    have hitems : ∀ item ∈ items, item.double? = none :=
      fun item hmem => (hexact item hmem).double?_eq_none
    simp only [unwrapped, plain, plainItems_eq, Plain.row.injEq, looseEqBytes_iff values hitems,
      eq_comm]
  | array others =>
    simp only [unwrapped, plain, plainItems_eq, Plain.row.injEq]
    exact looseEqItems_iff h hw.part hw'.part
  | _ => simp [unwrapped, plain]

/-- A struct is compared by its plain form if its fields are. -/
theorem comparedByPlain_struct {fields : List Value} (h : ∀ field ∈ fields, field.ComparedByPlain) :
    (struct fields).ComparedByPlain := by
  have hright (w : Value) : looseEq (struct fields) w = looseEq (struct fields) w.unwrapped := by
    rw [looseEq, looseEq, unwrapped_unwrapped]
  refine .of_unwrapped hright fun w hvariant hw hw' => ?_
  rw [looseEq]
  cases w with
  | variant inner => exact absurd rfl (hvariant inner)
  | struct others =>
    simp only [unwrapped, plain, plainItems_eq, Plain.struct.injEq]
    exact looseEqItems_iff h hw.part hw'.part
  | _ => simp [unwrapped, plain]

/-- Entries of one dictionary are found in the other, and the sizes agree: the dictionaries are
the same because both are in key order. -/
theorem comparedByPlain_dict {entries : List (String × Value)} (hsorted : KeyMap.Sorted entries)
    (h : ∀ e ∈ entries, e.2.ComparedByPlain) : (dict entries).ComparedByPlain := by
  have hright (w : Value) : looseEq (dict entries) w = looseEq (dict entries) w.unwrapped := by
    rw [looseEq, looseEq, unwrapped_unwrapped]
  refine .of_unwrapped hright fun w hvariant hw hw' => ?_
  rw [looseEq]
  cases w with
  | variant inner => exact absurd rfl (hvariant inner)
  | dict others =>
    have hsorted' : KeyMap.Sorted others := hw'.here others rfl
    have hentries := looseEqEntries_iff hsorted'
      (fun e he => hw.part e.2 (List.mem_map_of_mem he))
      (fun e he => hw'.part e.2 (List.mem_map_of_mem he)) h
    simp only [unwrapped, plain, plainEntries_eq, Plain.dict.injEq, Bool.and_eq_true, beq_iff_eq,
      hentries]
    constructor
    · rintro ⟨hlength, hsub⟩
      exact KeyMap.eq_of_subset (hsorted.map plain) (hsorted'.map plain) (by simpa) hsub
    · intro heq
      exact ⟨by simpa using congrArg List.length heq, heq ▸ List.Subset.refl _⟩
  | _ => simp [unwrapped, plain]

/-- **Loose equality is equality of what is said.** -/
theorem looseEq_iff {a b : Value} (ha : a.Exact) (ha' : a.Keyed) (hb : b.Exact) (hb' : b.Keyed) :
    looseEq a b = true ↔ a.plain = b.plain := by
  suffices h : a.ComparedByPlain from h b hb hb'
  clear hb hb'
  induction a using induction_on_parts with
  | step a ih =>
  have hparts : ∀ part ∈ a.parts, part.ComparedByPlain :=
    fun part hmem => ih part hmem (ha.part part hmem) (ha'.part part hmem)
  cases a with
  | double x => exact absurd rfl (ha.here x)
  | variant inner =>
    intro b hb hb'
    rw [looseEq, plain]
    exact hparts inner (List.mem_singleton_self _) b hb hb'
  | bytes values => exact comparedByPlain_bytes values
  | array items => exact comparedByPlain_array ha.part hparts
  | struct fields => exact comparedByPlain_struct hparts
  | dict entries =>
    exact comparedByPlain_dict (ha'.here entries rfl)
      fun e he => hparts e.2 (List.mem_map_of_mem he)
  | _ => exact fun b hb _ => looseEqScalar_iff rfl hb.double?_eq_none rfl

/-! ## What follows -/

/-- What holds throughout a value holds throughout what is found in it under a key. -/
theorem Throughout.get? {P : Value → Prop} {key : String} :
    ∀ {v w : Value}, v.Throughout P → v.get? key = some w → w.Throughout P
  | .variant inner, _, h, hget =>
    (h.part inner (List.mem_singleton_self _)).get? hget
  | .dict entries, _, h, hget => by
    obtain ⟨value, hvalue, rfl⟩ := Option.map_eq_some_iff.1 hget
    have hmem : value ∈ entries.map Prod.snd := List.mem_map_of_mem (KeyMap.mem_of_get? hvalue)
    exact (h.part value hmem).unwrapped

/-- Two values are alike to what is asked of them: whether they hold, how large they are and what
their keys hold. -/
structure ObservedAlike (a b : Value) : Prop where
  truthy : a.isTruthy = b.isTruthy
  size : a.size? = b.size?
  entries : ∀ key, Option.Rel (fun v w => looseEq v w = true) (a.get? key) (b.get? key)

/-- Values with one plain form cannot be told apart by what is read off them. -/
theorem ObservedAlike.of_plain {a b : Value} (ha : a.Exact) (ha' : a.Keyed) (hb : b.Exact)
    (hb' : b.Keyed) (h : a.plain = b.plain) : ObservedAlike a b where
  truthy := by rw [isTruthy_eq, isTruthy_eq, h]
  size := by rw [size?_eq, size?_eq, h]
  entries := by
    intro key
    have hplain : (a.get? key).map plain = (b.get? key).map plain := by
      rw [get?_eq, get?_eq, h]
    cases hv : a.get? key with
    | none =>
      rw [hv, Option.map_none, eq_comm, Option.map_eq_none_iff] at hplain
      rw [hplain]
      exact .none
    | some v =>
      rw [hv, Option.map_some, eq_comm, Option.map_eq_some_iff] at hplain
      obtain ⟨w, hw, hsame⟩ := hplain
      rw [hw]
      exact .some ((looseEq_iff (ha.get? hv) (ha'.get? hv) (hb.get? hw) (hb'.get? hw)).2 hsame.symm)

/-- **Loose equality is the equality of normal forms**, so an equivalence, and what is asked of a
value does not tell apart what is loosely equal. -/
theorem looseEq_congruence {a b c : Value} (ha : a.Exact) (ha' : a.Keyed) (hb : b.Exact)
    (hb' : b.Keyed) (hc : c.Exact) (hc' : c.Keyed) :
    (looseEq a b = true ↔ a.plain = b.plain) ∧
      looseEq a a = true ∧
      (looseEq a b = true → looseEq b a = true) ∧
      (looseEq a b = true → looseEq b c = true → looseEq a c = true) ∧
      (looseEq a b = true → ObservedAlike a b) := by
  have hab := looseEq_iff ha ha' hb hb'
  refine ⟨hab, (looseEq_iff ha ha' ha ha').2 rfl, fun h => ?_, fun h h' => ?_, fun h => ?_⟩
  · exact (looseEq_iff hb hb' ha ha').2 (hab.1 h).symm
  · exact (looseEq_iff ha ha' hc hc').2 ((hab.1 h).trans ((looseEq_iff hb hb' hc hc').1 h'))
  · exact .of_plain ha ha' hb hb' (hab.1 h)

/-- Three dictionaries with a row of one byte: as bytes, as an array of integers in a variant, and
as an array in a variant. -/
theorem looseEq_congruence_settings :
    ∃ a b c : Value,
      a = .dict [("code", .bytes [7])] ∧ b = .variant (.dict [("code", .array [.int32 7])]) ∧
        c = .dict [("code", .variant (.array [.uint64 7]))] ∧ a.Exact ∧ a.Keyed ∧ b.Exact ∧
        b.Keyed ∧ c.Exact ∧ c.Keyed ∧ looseEq a b = true ∧ looseEq b c = true ∧
        looseEq a c = true ∧ ObservedAlike a c := by
  have ha : Exact (.dict [("code", .bytes [7])]) :=
    .intro nofun (List.forall_mem_singleton.2 (.intro nofun nofun))
  have hb : Exact (.variant (.dict [("code", .array [.int32 7])])) :=
    .intro nofun (List.forall_mem_singleton.2 (.intro nofun (List.forall_mem_singleton.2
      (.intro nofun (List.forall_mem_singleton.2 (.intro nofun nofun))))))
  have hc : Exact (.dict [("code", .variant (.array [.uint64 7]))]) :=
    .intro nofun (List.forall_mem_singleton.2 (.intro nofun (List.forall_mem_singleton.2
      (.intro nofun (List.forall_mem_singleton.2 (.intro nofun nofun))))))
  have hsorted (v : Value) (entries : List (String × Value))
      (h : dict [("code", v)] = .dict entries) : KeyMap.Sorted entries := by
    cases h
    exact List.pairwise_singleton _ _
  have ha' : Keyed (.dict [("code", .bytes [7])]) :=
    .intro (hsorted _) (List.forall_mem_singleton.2 (.intro nofun nofun))
  have hb' : Keyed (.variant (.dict [("code", .array [.int32 7])])) :=
    .intro nofun (List.forall_mem_singleton.2 (.intro (hsorted _) (List.forall_mem_singleton.2
      (.intro nofun (List.forall_mem_singleton.2 (.intro nofun nofun))))))
  have hc' : Keyed (.dict [("code", .variant (.array [.uint64 7]))]) :=
    .intro (hsorted _) (List.forall_mem_singleton.2 (.intro nofun (List.forall_mem_singleton.2
      (.intro nofun (List.forall_mem_singleton.2 (.intro nofun nofun))))))
  have hab : looseEq (.dict [("code", .bytes [7])])
      (.variant (.dict [("code", .array [.int32 7])])) = true := by decide +kernel
  have hbc : looseEq (.variant (.dict [("code", .array [.int32 7])]))
      (.dict [("code", .variant (.array [.uint64 7]))]) = true := by decide +kernel
  have hac := (looseEq_congruence ha ha' hb hb' hc hc').2.2.2.1 hab hbc
  exact ⟨_, _, _, rfl, rfl, rfl, ha, ha', hb, hb', hc, hc', hab, hbc, hac,
    (looseEq_congruence ha ha' hc hc' hb hb').2.2.2.2 hac⟩

end Value

end BusTrial
