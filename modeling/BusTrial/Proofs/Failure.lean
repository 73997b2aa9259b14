import BusTrial.Failure
import Mathlib.Data.List.Basic

/-!
# What cleaning up adds to a failure

A failure carries a list of summaries of what went wrong after it, and `withCleanup` puts more of
them at the end of that list.  The failure that came first stays what it was.

* `root_withCleanup`, `summaries_withCleanup`, `wrappers_withCleanup`, `message_withCleanup` — what
  summaries change about a failure, and what they do not;
* `withCleanup_append`, `foldl_withCleanup` — lists that are attached one after another are attached
  as one;
* **`withCleanup_accumulates`** — the laws together.
-/

namespace BusTrial

namespace Failure

/-- The summaries that a failure carries; those of a failure inside it are not among them. -/
def summaries : Failure → List String
  | .plain _ _ => []
  | .cleanup _ summaries => summaries

/-- How often summaries are wrapped around the failure that came first. -/
def wrappers : Failure → Nat
  | .plain _ _ => 0
  | .cleanup first _ => first.wrappers + 1

@[simp] theorem root_withCleanup (failure : Failure) (more : List String) :
    (failure.withCleanup more).root = failure.root := by
  unfold withCleanup
  split
  · rfl
  · cases failure <;> rfl

@[simp] theorem summaries_withCleanup (failure : Failure) (more : List String) :
    (failure.withCleanup more).summaries = failure.summaries ++ more := by
  unfold withCleanup
  split
  · next hnone => rw [List.isEmpty_iff.1 hnone, List.append_nil]
  · cases failure <;> rfl

@[simp] theorem isSkip_withCleanup (failure : Failure) (more : List String) :
    (failure.withCleanup more).isSkip = failure.isSkip := by
  rw [isSkip, root_withCleanup, isSkip]

@[simp] theorem withCleanup_nil (failure : Failure) : failure.withCleanup [] = failure := rfl

/-- To those that a wrapped failure carries, more summaries are added. -/
theorem withCleanup_cleanup (first : Failure) (earlier more : List String) :
    (cleanup first earlier).withCleanup more = .cleanup first (earlier ++ more) := by
  cases more <;> simp [withCleanup]

theorem withCleanup_plain (kind : FailureKind) (text : String) {more : List String}
    (h : more ≠ []) : (plain kind text).withCleanup more = .cleanup (.plain kind text) more := by
  simp [withCleanup, h]

/-- **Two lists are attached as one.** -/
theorem withCleanup_append (failure : Failure) (a b : List String) :
    (failure.withCleanup a).withCleanup b = failure.withCleanup (a ++ b) := by
  cases failure with
  | cleanup first earlier => simp only [withCleanup_cleanup, List.append_assoc]
  | plain kind text =>
    by_cases ha : a = []
    · rw [ha, withCleanup_nil, List.nil_append]
    · have hab : a ++ b ≠ [] := by simp [ha]
      rw [withCleanup_plain kind text ha, withCleanup_cleanup, withCleanup_plain kind text hab]

/-- Any number of lists are attached as one. -/
theorem foldl_withCleanup (failure : Failure) (lists : List (List String)) :
    lists.foldl withCleanup failure = failure.withCleanup lists.flatten := by
  induction lists generalizing failure with
  | nil => rfl
  | cons a rest ih => rw [List.foldl_cons, ih, withCleanup_append, List.flatten_cons]

/-- Summaries are wrapped around a failure once; a failure that is wrapped already stays as it
is. -/
theorem wrappers_withCleanup (failure : Failure) {more : List String} (h : more ≠ []) :
    (failure.withCleanup more).wrappers = max failure.wrappers 1 := by
  cases failure with
  | cleanup first earlier => simp [withCleanup_cleanup, wrappers]
  | plain kind text => simp [withCleanup_plain kind text h, wrappers]

theorem message_withCleanup {failure : Failure} (bare : failure.wrappers = 0)
    {more : List String} (h : more ≠ []) : (failure.withCleanup more).message
      = failure.message ++ " (cleanup also failed: " ++ "; ".intercalate more ++ ")" := by
  cases failure with
  | cleanup first earlier => simp [wrappers] at bare
  | plain kind text => simp only [withCleanup_plain kind text h, message]

/-- **Summaries accumulate on the failure that came first.**  To attach none changes nothing, and to
attach some list and then another one is to attach both at once.  What came first, and whether it
says that the test does not apply, stays the same.  However many lists are attached, no more than one
wrapper is added, and that only to a failure without one; its message then goes on with all the
summaries, in order. -/
theorem withCleanup_accumulates (failure : Failure) :
    failure.withCleanup [] = failure ∧
      (∀ a b : List String,
        (failure.withCleanup a).withCleanup b = failure.withCleanup (a ++ b)) ∧
      (∀ a : List String, (failure.withCleanup a).root = failure.root ∧
        (failure.withCleanup a).isSkip = failure.isSkip) ∧
      (∀ lists : List (List String),
        failure.wrappers ≤ (lists.foldl withCleanup failure).wrappers ∧
          (lists.foldl withCleanup failure).wrappers ≤ max failure.wrappers 1) ∧
      ∀ a b : List String, failure.wrappers = 0 → a ++ b ≠ [] →
        ((failure.withCleanup a).withCleanup b).message
          = failure.message ++ " (cleanup also failed: " ++ "; ".intercalate (a ++ b) ++ ")" := by
  refine ⟨withCleanup_nil failure, withCleanup_append failure, fun a => ⟨?_, ?_⟩, fun lists => ?_,
    fun a b bare hab => ?_⟩
  · exact root_withCleanup failure a
  · exact isSkip_withCleanup failure a
  · rw [foldl_withCleanup]
    by_cases hnone : lists.flatten = []
    · rw [hnone, withCleanup_nil]
      omega
    · rw [wrappers_withCleanup failure hnone]
      omega
  · rw [withCleanup_append]
    exact message_withCleanup bare hab

/-- Of two lists the first one may well be empty. -/
theorem withCleanup_accumulates_late :
    (plain .skipped "no lvm").wrappers = 0 ∧
      [] ++ ["journal: boom", "udevadm: gone"] ≠ ([] : List String) ∧
      (((plain .skipped "no lvm").withCleanup []).withCleanup
          ["journal: boom", "udevadm: gone"]).message
        = "skipped: no lvm (cleanup also failed: journal: boom; udevadm: gone)" := by
  have hbare : (plain .skipped "no lvm").wrappers = 0 := rfl
  have hsome : [] ++ ["journal: boom", "udevadm: gone"] ≠ ([] : List String) := by decide
  obtain ⟨-, -, -, -, hmessage⟩ := withCleanup_accumulates (plain .skipped "no lvm")
  refine ⟨hbare, hsome, (hmessage [] _ hbare hsome).trans ?_⟩
  decide +kernel

end Failure

end BusTrial
