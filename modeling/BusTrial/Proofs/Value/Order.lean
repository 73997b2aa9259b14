import BusTrial.Proofs.Probe.Verdict
import BusTrial.Proofs.Value.Plain
import BusTrial.Probe.Assertion
import Mathlib.Data.Int.Order.Basic

/-!
# The order of values

`Value.compare` and `Value.looseEq` look through variants, widen integers and take texts of all
kinds alike, each in its own way.  On values that are not doubles both come down to what the values
say (`Value.plain`), and there the order is the one of numbers and of texts (`Plain.order?`).

* `compare_eq` — `compare` is the order of what is said;
* `looseEq_iff_of_scalar`, `order?_of_looseEq` — loose equality is equality in that order, and what
  is loosely equal has the same place in it, also when it has none;
* **`compare_is_total_order`** — two values have an order when both are numbers or both are texts;
  it is total up to loose equality and decides which one of *less*, *equal* and *greater* holds.
-/

namespace BusTrial

namespace Plain

/-- The order of two numbers or two texts. -/
def order? : Plain → Plain → Option Ordering
  | number m, number n => some (compare m n)
  | text s, text t => some (compare s t)
  | _, _ => none

theorem order?_swap (p q : Plain) : q.order? p = (p.order? q).map Ordering.swap := by
  cases p <;> cases q <;> try rfl
  · exact congrArg some (Int.compare_swap _ _).symm
  · exact congrArg some Std.OrientedOrd.eq_swap

theorem order?_eq_iff {p q : Plain} {o : Ordering} (h : p.order? q = some o) :
    o = .eq ↔ p = q := by
  cases p <;> cases q <;> cases h
  · rw [compare_eq_iff_eq, number.injEq]
  · rw [compare_eq_iff_eq, text.injEq]

theorem order?_lt_trans {p q r : Plain} (h : p.order? q = some .lt) (h' : q.order? r = some .lt) :
    p.order? r = some .lt := by
  cases p <;> cases q <;> cases r <;>
    simp only [order?, Option.some.injEq, reduceCtorEq, compare_lt_iff_lt] at h h' ⊢
  · exact lt_trans h h'
  · exact lt_trans h h'

theorem exists_order?_iff {p q : Plain} : (∃ o, p.order? q = some o) ↔
    p.number?.isSome ∧ q.number?.isSome ∨ p.text?.isSome ∧ q.text?.isSome := by
  cases p <;> cases q <;> simp [order?, number?, text?]

theorem order?_of_not_scalar {p : Plain} (h : p.isScalar = false) (q : Plain) :
    p.order? q = none := by
  cases p <;> first | rfl | cases h

end Plain

namespace Value

/-! ## Order and loose equality of single values -/

/-- Values that are not doubles are ordered by what they say. -/
theorem compare_eq {a b : Value} (ha : a.double? = none) (hb : b.double? = none) :
    a.compare b = match a.plain.order? b.plain with
      | some o => .ok o
      | none => .error (.kinds a b) := by
  cases hp : a.plain <;> cases hq : b.plain <;>
    simp [compare, number?, integer?_eq, text?_eq, ha, hb, hp, hq, Plain.order?, Plain.number?,
      Plain.text?]
  exact (LinearOrder.compare_eq_compareOfLessAndEq _ _).symm

theorem looseEq_iff_of_scalar {b : Value} (hb : b.double? = none) :
    ∀ {a : Value}, a.double? = none → a.plain.isScalar = true →
      (looseEq a b = true ↔ a.plain = b.plain)
  | .variant inner, ha, hscalar => by
    rw [looseEq, plain]
    exact looseEq_iff_of_scalar hb (a := inner) ha hscalar
  | .bool _, ha, hscalar | .byte _, ha, hscalar | .int16 _, ha, hscalar | .uint16 _, ha, hscalar
  | .int32 _, ha, hscalar | .uint32 _, ha, hscalar | .int64 _, ha, hscalar
  | .uint64 _, ha, hscalar | .string _, ha, hscalar | .objectPath _, ha, hscalar
  | .signature _, ha, hscalar => looseEqScalar_iff ha hb hscalar

theorem isScalar_of_looseEq {b : Value} :
    ∀ {a : Value}, a.plain.isScalar = false → a.double? = none → looseEq a b = true →
      b.plain.isScalar = false
  | .variant inner, hscalar, ha, h => by
    rw [looseEq] at h
    exact isScalar_of_looseEq (a := inner) hscalar ha h
  | .bytes _, _, _, h | .array _, _, _, h | .struct _, _, _, h | .dict _, _, _, h => by
    rw [← plain_unwrapped]
    rw [looseEq] at h
    revert h
    cases b.unwrapped <;> intro h <;> first | rfl | exact absurd h Bool.false_ne_true

/-- What is loosely equal has the same place in the order. -/
theorem order?_of_looseEq {a b : Value} (ha : a.double? = none) (hb : b.double? = none)
    (h : looseEq a b = true) (q : Plain) : a.plain.order? q = b.plain.order? q := by
  cases hscalar : a.plain.isScalar with
  | true => rw [(looseEq_iff_of_scalar hb ha hscalar).1 h]
  | false =>
    rw [Plain.order?_of_not_scalar hscalar,
      Plain.order?_of_not_scalar (isScalar_of_looseEq hscalar ha h)]

/-! ## The order -/

variable {a b c : Value}

theorem compare_eq_ok (ha : a.double? = none) (hb : b.double? = none) {o : Ordering} :
    a.compare b = .ok o ↔ a.plain.order? b.plain = some o := by
  rw [compare_eq ha hb]
  cases a.plain.order? b.plain <;> simp

/-- What the order `o` of two values comes to: it is turned around with them, and it decides which
one of three assertions holds. -/
structure Compared (a b : Value) (o : Ordering) : Prop where
  swapped : b.compare a = .ok o.swap
  equal : o = .eq ↔ looseEq a b = true
  less_holds : (Assertion.less b).holds (some a) = .ok (o == .lt)
  equal_holds : (Assertion.equal b Assertion.whole).holds (some a) = .ok (o == .eq)
  greater_holds : (Assertion.greater b).holds (some a) = .ok (o == .gt)

theorem Compared.of_compare (ha : a.double? = none) (hb : b.double? = none) {o : Ordering}
    (h : a.compare b = .ok o) : Compared a b o := by
  have horder : a.plain.order? b.plain = some o := (compare_eq_ok ha hb).1 h
  have hequal : o = .eq ↔ looseEq a b = true := by
    have hscalar : a.plain.isScalar = true := by
      by_contra hnot
      rw [Plain.order?_of_not_scalar (by simpa using hnot)] at horder
      cases horder
    rw [looseEq_iff_of_scalar hb ha hscalar, Plain.order?_eq_iff horder]
  have horderOf : Assertion.orderOf a b = .ok o := Assertion.orderOf_eq_ok.2 h
  refine ⟨?_, hequal, ?_, ?_, ?_⟩
  · rw [compare_eq_ok hb ha, Plain.order?_swap, horder, Option.map_some]
  · show (Assertion.orderOf a b >>= fun order => pure (order == .lt)) = _
    rw [horderOf]
    rfl
  · show Except.ok (a.looseEq b) = _
    rw [Except.ok.injEq, Bool.eq_iff_iff, beq_iff_eq]
    exact hequal.symm
  · show (Assertion.orderOf a b >>= fun order => pure (order == .gt)) = _
    rw [horderOf]
    rfl

/-- **Values that are not doubles have a total order, up to loose equality.** -/
theorem compare_is_total_order (ha : a.double? = none) (hb : b.double? = none)
    (hc : c.double? = none) :
    ((∃ o, a.compare b = .ok o) ↔
        a.integer?.isSome ∧ b.integer?.isSome ∨ a.text?.isSome ∧ b.text?.isSome) ∧
      ((∃ o, a.compare b = .ok o) ↔ ∃ o, b.compare a = .ok o) ∧
      (∀ o, a.compare b = .ok o → Compared a b o) ∧
      (a.compare b = .ok .lt → b.compare c = .ok .lt → a.compare c = .ok .lt) ∧
      (looseEq a b = true → ∀ o,
        (a.compare c = .ok o ↔ b.compare c = .ok o) ∧
          (c.compare a = .ok o ↔ c.compare b = .ok o)) ∧
      (∀ failure, Assertion.orderOf a b = .error failure →
        failure = .assertion ("cannot order " ++ a.kindName ++ " against " ++ b.kindName)) := by
  have hplace : looseEq a b = true → ∀ q, a.plain.order? q = b.plain.order? q :=
    order?_of_looseEq ha hb
  refine ⟨?_, ?_, fun o => .of_compare ha hb, ?_, fun h o => ⟨?_, ?_⟩, ?_⟩
  · simp only [compare_eq_ok ha hb, Plain.exists_order?_iff, integer?_eq, text?_eq]
  · simp only [compare_eq_ok ha hb, compare_eq_ok hb ha, Plain.exists_order?_iff]
    exact or_congr and_comm and_comm
  · rw [compare_eq_ok ha hb, compare_eq_ok hb hc, compare_eq_ok ha hc]
    exact Plain.order?_lt_trans
  · rw [compare_eq_ok ha hc, compare_eq_ok hb hc, hplace h]
  · rw [compare_eq_ok hc ha, compare_eq_ok hc hb, Plain.order?_swap a.plain,
      Plain.order?_swap b.plain, hplace h]
  · intro failure hfailure
    rw [Assertion.orderOf, compare_eq ha hb] at hfailure
    cases horder : a.plain.order? b.plain <;> rw [horder] at hfailure <;> cases hfailure
    rfl

theorem compare_is_total_order_extremes :
    ∃ a b c : Value,
      a = .variant (.int64 (-9223372036854775808)) ∧ b = .variant (.variant (.byte 7)) ∧
        c = .uint64 18446744073709551615 ∧ a.double? = none ∧ b.double? = none ∧
        c.double? = none ∧ a.compare b = .ok .lt ∧ b.compare c = .ok .lt ∧
        a.compare c = .ok .lt ∧ Compared b c .lt := by
  have h := compare_is_total_order (a := .variant (.int64 (-9223372036854775808)))
    (b := .variant (.variant (.byte 7))) (c := .uint64 18446744073709551615) rfl rfl rfl
  have h' := compare_is_total_order (a := .variant (.variant (.byte 7)))
    (b := .uint64 18446744073709551615) (c := .byte 0) rfl rfl rfl
  exact ⟨_, _, _, rfl, rfl, rfl, rfl, rfl, rfl, rfl, rfl, h.2.2.2.1 rfl rfl, h'.2.2.1 .lt rfl⟩

end Value

end BusTrial
