import BusTrial.Proofs.KeyMap
import BusTrial.Unstable

/-!
# What an environment decides

The variables of a process are bytes, and an `Environment` holds those of them that are text.  Whether
failures of unstable tests are fatal is asked of the environment, and so a variable has a say only if
its value is text as well as its name.

* `mem_textPairs` — which pairs of texts are read off the bytes;
* **`fatal_iff_text_value`** — failures are fatal exactly when the variable has a value that is text,
  among all that it is given;
* `fatal_overlooks_bytes` — a value that is no text is as good as none.
-/

namespace BusTrial

namespace Environment

/-- The pairs that are read off the bytes are those whose bytes are there. -/
theorem mem_textPairs {pairs : List (List UInt8 × List UInt8)} {name value : String} :
    (name, value) ∈ pairs.filterMap (fun pair => do
        return (← Text.ofUtf8? pair.1, ← Text.ofUtf8? pair.2))
      ↔ (Text.toUtf8 name, Text.toUtf8 value) ∈ pairs := by
  rw [List.mem_filterMap]
  constructor
  · rintro ⟨⟨nameBytes, valueBytes⟩, hmem, hread⟩
    simp only [Option.bind_eq_bind, Option.bind_eq_some_iff, Option.pure_def, Option.some.injEq,
      Prod.mk.injEq, Text.ofUtf8?_eq_some_iff] at hread
    obtain ⟨_, rfl, _, rfl, rfl, rfl⟩ := hread
    exact hmem
  · intro hmem
    refine ⟨_, hmem, ?_⟩
    simp only [Text.ofUtf8?_eq_some_iff.2 rfl]
    rfl

/-- **A variable makes failures fatal exactly when it is given a value that is text.**  What that
value is does not matter, nor do other values that the variable is given before or after it. -/
theorem fatal_iff_text_value (pairs : List (List UInt8 × List UInt8)) (name : String) :
    unstableFailuresFatal (.ofBytes pairs) name = true
      ↔ ∃ value : String, (Text.toUtf8 name, Text.toUtf8 value) ∈ pairs := by
  rw [unstableFailuresFatal, ofBytes, KeyMap.hasKey_ofList]
  exact exists_congr fun value => mem_textPairs

/-- A variable whose value is a byte that no text holds does not make failures fatal. -/
theorem fatal_overlooks_bytes :
    (∃ value : List UInt8, (Text.toUtf8 "UNSTABLE_TESTS_FATAL", value)
        ∈ [(Text.toUtf8 "UNSTABLE_TESTS_FATAL", [0xff])]) ∧
      unstableFailuresFatal (.ofBytes [(Text.toUtf8 "UNSTABLE_TESTS_FATAL", [0xff])])
        "UNSTABLE_TESTS_FATAL" = false :=
  ⟨⟨[0xff], List.mem_cons_self⟩, by decide +kernel⟩

end Environment

end BusTrial
