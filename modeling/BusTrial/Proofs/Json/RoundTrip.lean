import BusTrial.Proofs.Json.Scalars
import BusTrial.Proofs.KeyMap

/-!
# Values read back

A value that is written is read as that value, unless it is nested too deep or has something in it
that its text does not tell (`Exact`).

* `takeItems_render`, `takeMembers_render` — the items of an array and the members of an object, by
  induction on the row;
* `Exact.takeValue_render` — any value, by induction on its levels;
* **`parse_render`** — a whole text;
* `parse_render_object` — the members of an object may be written in any order.

Each value takes less fuel than it has characters.
-/

namespace BusTrial.Json

open Reading

/-- The value has at most `depth` levels of arrays and objects, and its text tells all of it: it has no
floats, its integers fit in 64 bits, and its objects are in key order. -/
inductive Exact : (depth : Nat) → Json → Prop
  | null (depth : Nat) : Exact depth .null
  | bool (depth : Nat) (value : Bool) : Exact depth (.bool value)
  | int (depth : Nat) {value : Int} (fits : Fits value) : Exact depth (.int value)
  | string (depth : Nat) (text : String) : Exact depth (.string text)
  | array {depth : Nat} {items : List Json} (exact : ∀ item ∈ items, Exact depth item) :
    Exact (depth + 1) (.array items)
  | object {depth : Nat} {members : List (String × Json)} (sorted : KeyMap.Sorted members)
      (exact : ∀ m ∈ members, Exact depth m.2) : Exact (depth + 1) (.object members)

variable {depth fuel : Nat} {c : Char} {cs rest : List Char} {v : Json}

/-! ## Beginnings -/

/-- A value can begin with the character: it is neither white space nor a closing bracket. -/
def Begins (c : Char) : Prop :=
  isBlank c = false ∧ c ≠ ']' ∧ c ≠ '\x7d'

instance (c : Char) : Decidable (Begins c) :=
  inferInstanceAs (Decidable (_ ∧ _))

/-- The first character of a number is no other than a minus or a digit. -/
theorem number_ne (h : c = '-' ∨ c.isDigit = true) {d : Char} (hd : d ≠ '-' ∧ d.isDigit = false) :
    c ≠ d := by
  rintro rfl
  rcases h with rfl | hdigit
  · exact hd.1 rfl
  · exact absurd hdigit (by simp [hd.2])

/-- A sign or a digit begins a value. -/
theorem begins_number (h : c = '-' ∨ c.isDigit = true) : Begins c := by
  refine ⟨?_, number_ne h (by decide), number_ne h (by decide)⟩
  simp only [isBlank, Bool.or_eq_false_iff, beq_eq_false_iff_ne]
  exact ⟨⟨⟨number_ne h (by decide), number_ne h (by decide)⟩, number_ne h (by decide)⟩,
    number_ne h (by decide)⟩

/-- What begins a value does not close an array or an object. -/
theorem Begins.ne_close (h : Begins c) (e : Enclosure) : c ≠ e.close := by
  cases e
  · exact h.2.1
  · exact h.2.2

/-- A text is printed between two quotes. -/
theorem toList_quote (text : String) :
    (quote text).toList = '"' :: (quotedChars text.toList ++ ['"']) := by
  simp [quote]

/-- An array is printed between brackets. -/
theorem toList_render_array (items : List Json) :
    (render (.array items)).toList = '[' :: ((renderItems items).toList ++ [']']) := by
  simp [render]

/-- An object is printed between braces. -/
theorem toList_render_object (members : List (String × Json)) :
    (render (.object members)).toList
      = '\x7b' :: ((renderMembers members).toList ++ ['\x7d']) := by
  simp [render]

/-! ## Brackets -/

/-- A value that is kept may hold one more level while there are levels left. -/
theorem enter_kept (c : Char) (cs : List Char) :
    (Use.kept (depth + 2)).enter (c :: cs) = .ok (.kept (depth + 1), cs) := by
  rw [Use.enter, if_neg (by omega)]
  rfl

/-- Right before the closing bracket there is no first item. -/
theorem Enclosure.hasFirst_close (e : Enclosure) (rest : List Char) :
    e.hasFirst (e.close :: rest) = .ok (false, rest) := by
  cases e <;> rfl

/-- Before a value there is a first one. -/
theorem Enclosure.hasFirst_of_begins (e : Enclosure) (h : Begins c) (cs : List Char) :
    e.hasFirst (c :: cs) = .ok (true, c :: cs) := by
  have hclose : (c :: cs).head? ≠ some e.close := by simpa using h.ne_close e
  rw [hasFirst]
  refine (bind_of_ok (token?_of_solid (.cons h.1 cs))).trans ?_
  rw [List.head?_cons, Option.isNone_some, if_neg Bool.false_ne_true]
  exact bind_of_ok (dropIf_of_ne hclose)

/-- Before the closing bracket there is no next item. -/
theorem Enclosure.hasNext_close (e : Enclosure) (rest : List Char) :
    e.hasNext (.kept depth) (e.close :: rest) = .ok (false, rest) := by
  cases e <;> rfl

/-- Before a comma and a value there is a next one. -/
theorem Enclosure.hasNext_comma (e : Enclosure) (h : Begins c) (cs : List Char) :
    e.hasNext (.kept depth) (',' :: c :: cs) = .ok (true, c :: cs) := by
  have hitem : (Use.kept depth).afterComma e.close (c :: cs) = .ok ((), c :: cs) := by
    rw [Use.afterComma, if_pos nofun]
    refine (bind_of_ok (token?_of_solid (.cons h.1 cs))).trans ?_
    rw [List.head?_cons]
    simp only [beq_iff_eq, h.ne_close e, if_false]
    rfl
  rw [hasNext]
  refine (bind_of_ok (skipBlanks_of_solid (.cons (by decide) _))).trans ?_
  refine (bind_of_ok (dropIf_self ',' _)).trans ?_
  exact bind_of_ok hitem

/-! ## Rows -/

/-- The value is read off its text, in front of what can stand behind a value. -/
structure Reads (depth : Nat) (v : Json) : Prop where
  begins : ∃ c cs, v.render.toList = c :: cs ∧ Begins c
  takes : ∀ (fuel : Nat) (rest : List Char), v.render.toList.length ≤ fuel → Ends rest →
    takeValue (.kept depth) fuel (v.render.toList ++ rest) = .ok (v, rest)

/-- A number that stands before a comma is over. -/
theorem ends_comma (rest : List Char) : Ends (',' :: rest) := by
  rintro _ ⟨⟩
  exact .inl rfl

/-- A number that stands before a closing bracket is over. -/
theorem ends_close (e : Enclosure) (rest : List Char) : Ends (e.close :: rest) := by
  rintro _ ⟨⟩
  cases e
  · exact .inr (.inl rfl)
  · exact .inr (.inr rfl)

/-- Items are printed with a comma after each but the last. -/
theorem toList_renderItems_cons (item next : Json) (items : List Json) :
    (renderItems (item :: next :: items)).toList
      = item.render.toList ++ ',' :: (renderItems (next :: items)).toList := by
  simp [renderItems]

/-- Items in a row begin as the first of them does. -/
theorem begins_renderItems {item : Json} (h : Reads depth item) (items : List Json) :
    ∃ c cs, (renderItems (item :: items)).toList = c :: cs ∧ Begins c := by
  obtain ⟨c, cs, hcons, hc⟩ := h.begins
  cases items with
  | nil => exact ⟨c, cs, by rw [renderItems, hcons], hc⟩
  | cons next items =>
    exact ⟨c, _, by rw [toList_renderItems_cons, hcons, List.cons_append], hc⟩

/-- **The items of an array are read one by one.** -/
theorem takeItems_render (item : Json) (items : List Json) :
    (∀ x ∈ item :: items, Reads depth x) → ∀ (fuel : Nat) (rest : List Char),
      (renderItems (item :: items)).toList.length < fuel →
      takeItems (.kept depth) fuel ((renderItems (item :: items)).toList ++ ']' :: rest)
        = .ok (item :: items, rest) := by
  induction items generalizing item with
  | nil =>
    intro h fuel rest hfuel
    obtain ⟨fuel, rfl⟩ : ∃ left, fuel = left + 1 := ⟨fuel - 1, by omega⟩
    rw [renderItems] at hfuel ⊢
    have hitem := (h item List.mem_cons_self).takes fuel (']' :: rest) (by omega)
      (ends_close .array rest)
    rw [takeItems, bind_of_ok hitem]
    exact bind_of_ok (Enclosure.hasNext_close .array rest)
  | cons next items ih =>
    intro h fuel rest hfuel
    obtain ⟨fuel, rfl⟩ : ∃ left, fuel = left + 1 := ⟨fuel - 1, by omega⟩
    rw [toList_renderItems_cons, List.length_append, List.length_cons] at hfuel
    have hitem := (h item List.mem_cons_self).takes fuel
      (',' :: ((renderItems (next :: items)).toList ++ ']' :: rest)) (by omega) (ends_comma _)
    obtain ⟨c, cs, hcons, hc⟩ :=
      begins_renderItems (h next (List.mem_cons_of_mem _ List.mem_cons_self)) items
    -- the next item begins with no bracket, so the comma is not taken for a trailing one
    have hcomma : Enclosure.array.hasNext (.kept depth)
        (',' :: ((renderItems (next :: items)).toList ++ ']' :: rest))
          = .ok (true, (renderItems (next :: items)).toList ++ ']' :: rest) := by
      rw [hcons]
      exact Enclosure.hasNext_comma .array hc _
    have hrest := ih next (fun x hx => h x (List.mem_cons_of_mem _ hx)) fuel rest (by omega)
    rw [toList_renderItems_cons, List.append_assoc, List.cons_append, takeItems, bind_of_ok hitem,
      bind_of_ok hcomma]
    exact bind_of_ok hrest

/-- A key is read back from between its quotes. -/
theorem takeKey_quoted (key : String) (rest : List Char) :
    takeKey (.kept depth) ('"' :: (quotedChars key.toList ++ '"' :: rest)) = .ok (key, rest) := by
  rw [takeKey, bind_of_ok (skipBlanks_of_solid (.cons (by decide) _)),
    bind_of_ok (dropIf_self '"' _)]
  exact takeString_quoted key rest

/-- The colon behind a key is dropped. -/
theorem takeColon_cons (rest : List Char) : takeColon (':' :: rest) = .ok ((), rest) := by
  rw [takeColon, bind_of_ok (skipBlanks_of_solid (.cons (by decide) _))]
  exact word_append _ _ [':'] rest

/-- A member is read as its key and its value. -/
theorem takeMembers_member (key : String) {text : List Char}
    (hvalue : takeValue (.kept depth) fuel text = .ok (v, rest)) :
    takeMembers (.kept depth) (fuel + 1) ('"' :: (quotedChars key.toList ++ '"' :: ':' :: text))
      = (do
          if ← Enclosure.object.hasNext (.kept depth) then
            return (key, v) :: (← takeMembers (.kept depth) fuel)
          else return [(key, v)] : Reading (List (String × Json))) rest := by
  rw [takeMembers, bind_of_ok (takeKey_quoted key _), bind_of_ok (takeColon_cons text),
    bind_of_ok hvalue]

/-- A member is printed as its key, a colon and its value. -/
theorem toList_renderMembers_singleton (key : String) (value : Json) :
    (renderMembers [(key, value)]).toList
      = '"' :: (quotedChars key.toList ++ '"' :: ':' :: value.render.toList) := by
  simp [renderMembers, toList_quote]

/-- Members are printed with a comma after each but the last. -/
theorem toList_renderMembers_cons (key : String) (value : Json) (next : String × Json)
    (members : List (String × Json)) :
    (renderMembers ((key, value) :: next :: members)).toList
      = '"' :: (quotedChars key.toList ++ '"' :: ':' ::
          (value.render.toList ++ ',' :: (renderMembers (next :: members)).toList)) := by
  simp [renderMembers, toList_quote]

/-- Members in a row begin with a quote, which is that of a key. -/
theorem begins_renderMembers (member : String × Json) (members : List (String × Json)) :
    ∃ cs, (renderMembers (member :: members)).toList = '"' :: cs := by
  cases members with
  | nil => exact ⟨_, toList_renderMembers_singleton ..⟩
  | cons next members => exact ⟨_, toList_renderMembers_cons ..⟩

/-- **The members of an object are read one by one.** -/
theorem takeMembers_render (member : String × Json) (members : List (String × Json)) :
    (∀ m ∈ member :: members, Reads depth m.2) → ∀ (fuel : Nat) (rest : List Char),
      (renderMembers (member :: members)).toList.length < fuel →
      takeMembers (.kept depth) fuel
          ((renderMembers (member :: members)).toList ++ '\x7d' :: rest)
        = .ok (member :: members, rest) := by
  induction members generalizing member with
  | nil =>
    obtain ⟨key, value⟩ := member
    intro h fuel rest hfuel
    obtain ⟨fuel, rfl⟩ : ∃ left, fuel = left + 1 := ⟨fuel - 1, by omega⟩
    rw [toList_renderMembers_singleton] at hfuel ⊢
    simp only [List.length_cons, List.length_append] at hfuel
    have hreads : Reads depth value := h (key, value) List.mem_cons_self
    have hvalue := hreads.takes fuel ('\x7d' :: rest) (by omega) (ends_close .object rest)
    rw [List.cons_append, List.append_assoc, List.cons_append, List.cons_append,
      takeMembers_member key hvalue]
    exact bind_of_ok (Enclosure.hasNext_close .object rest)
  | cons next members ih =>
    obtain ⟨key, value⟩ := member
    intro h fuel rest hfuel
    obtain ⟨fuel, rfl⟩ : ∃ left, fuel = left + 1 := ⟨fuel - 1, by omega⟩
    rw [toList_renderMembers_cons] at hfuel ⊢
    simp only [List.length_cons, List.length_append] at hfuel
    have hreads : Reads depth value := h (key, value) List.mem_cons_self
    have hvalue := hreads.takes fuel
      (',' :: ((renderMembers (next :: members)).toList ++ '\x7d' :: rest)) (by omega)
      (ends_comma _)
    obtain ⟨cs, hcons⟩ := begins_renderMembers next members
    have hcomma : Enclosure.object.hasNext (.kept depth)
        (',' :: ((renderMembers (next :: members)).toList ++ '\x7d' :: rest))
          = .ok (true, (renderMembers (next :: members)).toList ++ '\x7d' :: rest) := by
      rw [hcons]
      exact Enclosure.hasNext_comma .object (by decide) _
    have hrest := ih next (fun m hm => h m (List.mem_cons_of_mem _ hm)) fuel rest (by omega)
    rw [List.cons_append, List.append_assoc, List.cons_append, List.cons_append, List.append_assoc,
      List.cons_append, takeMembers_member key hvalue, bind_of_ok hcomma]
    exact bind_of_ok hrest

/-! ## Values -/

/-- What is neither an array nor an object is read as a scalar. -/
theorem takeValue_scalar (h : Begins c) (hitems : c ≠ '[') (hmembers : c ≠ '\x7b')
    (cs : List Char) :
    takeValue (.kept depth) (fuel + 1) (c :: cs) = takeScalar (.kept depth) (c :: cs) := by
  rw [takeValue, bind_of_ok (token?_of_solid (.cons h.1 cs)), List.head?_cons]
  simp only [beq_iff_eq, Option.some.injEq, hitems, hmembers, if_false]

/-- An integer that fits is read back, if what follows cannot belong to it. -/
theorem takeScalar_int {n : Int} (fits : Fits n) (hrest : Ends rest) :
    takeScalar (.kept depth) ((toString n).toList ++ rest) = .ok (.int n, rest) := by
  obtain ⟨c, cs, hcons, hc⟩ := exists_toString_eq_cons n
  have hnumber : takeNumber (.kept depth) ((toString n).toList ++ rest) = .ok (.int n, rest) :=
    takeNumber_toString fits hrest
  rw [hcons, List.cons_append] at hnumber ⊢
  have hstart : (c == '-' || (Decimal.digit? c).isSome) = true := by
    rcases hc with rfl | hdigit
    · rfl
    · simp [Decimal.digit?_of_isDigit hdigit]
  rw [takeScalar, bind_of_ok (next?_apply _), List.head?_cons]
  have hne (d : Char) (hd : d ≠ '-' ∧ d.isDigit = false) : c ≠ d := number_ne hc hd
  simp only [beq_iff_eq, hne 'n' (by decide), hne 't' (by decide), hne 'f' (by decide),
    hne '"' (by decide), hstart, if_false, if_true]
  exact hnumber

/-- A scalar is read off its text. -/
theorem reads_of_scalar (htext : v.render.toList = c :: cs) (h : Begins c)
    (hitems : c ≠ '[') (hmembers : c ≠ '\x7b')
    (htakes : ∀ rest, Ends rest → takeScalar (.kept depth) (c :: (cs ++ rest)) = .ok (v, rest)) :
    Reads depth v where
  begins := ⟨c, cs, htext, h⟩
  takes := by
    intro fuel rest hfuel hrest
    rw [htext, List.length_cons] at hfuel
    obtain ⟨fuel, rfl⟩ : ∃ left, fuel = left + 1 := ⟨fuel - 1, by omega⟩
    rw [htext, List.cons_append, takeValue_scalar h hitems hmembers]
    exact htakes rest hrest

/-- The levels inside an array are one less. -/
theorem takeValue_array {items : List Json} (h : ∀ item ∈ items, Reads (depth + 1) item)
    (hfuel : (render (.array items)).toList.length ≤ fuel) (rest : List Char) :
    takeValue (.kept (depth + 2)) fuel ((render (.array items)).toList ++ rest)
      = .ok (.array items, rest) := by
  rw [toList_render_array, List.length_cons, List.length_append] at hfuel
  obtain ⟨fuel, rfl⟩ : ∃ left, fuel = left + 1 := ⟨fuel - 1, by omega⟩
  rw [toList_render_array, List.cons_append, List.append_assoc, List.singleton_append, takeValue,
    bind_of_ok (token?_of_solid (.cons (by decide) _)), List.head?_cons]
  refine (bind_of_ok (enter_kept _ _)).trans ?_
  cases items with
  | nil =>
    rw [renderItems]
    exact bind_of_ok (Enclosure.hasFirst_close .array rest)
  | cons item items =>
    obtain ⟨c, cs, hcons, hc⟩ := begins_renderItems (h item List.mem_cons_self) items
    have hfirst : Enclosure.array.hasFirst ((renderItems (item :: items)).toList ++ ']' :: rest)
        = .ok (true, (renderItems (item :: items)).toList ++ ']' :: rest) := by
      rw [hcons]
      exact Enclosure.hasFirst_of_begins .array hc _
    refine (bind_of_ok hfirst).trans ?_
    exact bind_of_ok (takeItems_render item items h fuel rest (by simp at hfuel; omega))

/-- The members of an object are read in the order of its text, and the last one with a key stays. -/
theorem takeValue_object {members : List (String × Json)}
    (h : ∀ m ∈ members, Reads (depth + 1) m.2)
    (hfuel : (render (.object members)).toList.length ≤ fuel) (rest : List Char) :
    takeValue (.kept (depth + 2)) fuel ((render (.object members)).toList ++ rest)
      = .ok (ofMembers members, rest) := by
  rw [toList_render_object, List.length_cons, List.length_append] at hfuel
  obtain ⟨fuel, rfl⟩ : ∃ left, fuel = left + 1 := ⟨fuel - 1, by omega⟩
  rw [toList_render_object, List.cons_append, List.append_assoc, List.singleton_append, takeValue,
    bind_of_ok (token?_of_solid (.cons (by decide) _)), List.head?_cons]
  refine (bind_of_ok (enter_kept _ _)).trans ?_
  cases members with
  | nil =>
    rw [renderMembers]
    exact bind_of_ok (Enclosure.hasFirst_close .object rest)
  | cons member members =>
    obtain ⟨cs, hcons⟩ := begins_renderMembers member members
    have hfirst :
        Enclosure.object.hasFirst ((renderMembers (member :: members)).toList ++ '\x7d' :: rest)
          = .ok (true, (renderMembers (member :: members)).toList ++ '\x7d' :: rest) := by
      rw [hcons]
      exact Enclosure.hasFirst_of_begins .object (by decide) _
    refine (bind_of_ok hfirst).trans ?_
    exact bind_of_ok (takeMembers_render member members h fuel rest (by simp at hfuel; omega))

/-- **An exact value is read off its text.** -/
theorem Exact.reads (h : Exact depth v) : Reads (depth + 1) v := by
  induction h with
  | null depth =>
    have htext : render .null = "null" := by rw [render]
    exact reads_of_scalar (congrArg String.toList htext) (by decide) (by decide) (by decide)
      fun rest _ => rfl
  | bool depth value =>
    cases value with
    | false =>
      have htext : render (.bool false) = "false" := by rw [render]; rfl
      exact reads_of_scalar (congrArg String.toList htext) (by decide) (by decide) (by decide)
        fun rest _ => rfl
    | true =>
      have htext : render (.bool true) = "true" := by rw [render]; rfl
      exact reads_of_scalar (congrArg String.toList htext) (by decide) (by decide) (by decide)
        fun rest _ => rfl
  | @int depth value fits =>
    obtain ⟨c, cs, hcons, hc⟩ := exists_toString_eq_cons value
    refine reads_of_scalar (by rw [render, hcons]) (begins_number hc) (number_ne hc (by decide))
      (number_ne hc (by decide)) fun rest hrest => ?_
    rw [← List.cons_append, ← hcons]
    exact takeScalar_int fits hrest
  | string depth text =>
    refine reads_of_scalar (by rw [render, toList_quote]) (by decide) (by decide) (by decide)
      fun rest _ => ?_
    rw [List.append_assoc, List.singleton_append, takeScalar]
    refine (bind_of_ok (next?_apply _)).trans ?_
    refine (bind_of_ok (drop_apply _)).trans ?_
    exact bind_of_ok (takeString_quoted text rest)
  | array _ ih =>
    exact ⟨⟨'[', _, toList_render_array _, by decide⟩, fun fuel rest hfuel _ =>
      takeValue_array ih hfuel rest⟩
  -- the members come in key order, so the map that is built of them is the row itself
  | object sorted _ ih =>
    refine ⟨⟨'\x7b', _, toList_render_object _, by decide⟩, fun fuel rest hfuel _ => ?_⟩
    rw [takeValue_object ih hfuel rest, ofMembers, KeyMap.ofList_of_sorted sorted]

/-! ## Whole texts -/

/-- A text is read as the value that is taken off it, if nothing is left. -/
theorem parse_of_takeValue {text : String}
    (h : ∀ fuel, text.toList.length ≤ fuel →
      takeValue (.kept depthLimit) fuel (text.toList ++ []) = .ok (v, [])) :
    parse text = .ok v := by
  have htake : takeKept depthLimit text.toList = .ok (v, []) := by
    -- more fuel than there are characters
    have hall := h (2 * text.toList.length + 1) (by omega)
    rw [List.append_nil] at hall
    rw [takeKept, bind_of_ok (get_apply _)]
    exact hall
  have hwhole : (do let a ← takeKept depthLimit; finish; return a : Reading Json) text.toList
      = .ok (v, []) := (bind_of_ok htake).trans rfl
  simp only [parse, whole, hwhole]

/-- **A whole text is read as the value that it was written for.** -/
theorem parse_render (h : Exact 127 v) : parse v.render = .ok v :=
  parse_of_takeValue fun fuel hfuel => h.reads.takes fuel [] hfuel nofun

/-- The members of an object may be written in any order. -/
theorem parse_render_object {members : List (String × Json)}
    (h : ∀ m ∈ members, Exact 126 m.2) :
    parse (render (.object members)) = .ok (ofMembers members) :=
  parse_of_takeValue fun _ hfuel => takeValue_object (fun m hm => (h m hm).reads) hfuel []

end BusTrial.Json
