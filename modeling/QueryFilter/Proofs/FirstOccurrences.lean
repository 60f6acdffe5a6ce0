import Mathlib.Data.List.Induction
import Mathlib.Data.List.Nodup

/-!
# First occurrences

Lists from which repetitions are left out (`List.eraseDups`): of each element the first occurrence
is kept.

* `eraseDups_concat`: an element after others;
* `nodup_eraseDups`, `eraseDups_sublist`: what is left;
* `eraseDups_map_of_injective`, `eraseDups_filter`: lists that are changed or chosen from.
-/

namespace QueryFilter

variable {α β : Type} [BEq α] [LawfulBEq α] [BEq β] [LawfulBEq β]

/-- An element after others is kept if it is a new one. -/
theorem eraseDups_concat (l : List α) (a : α) :
    (l ++ [a]).eraseDups = l.eraseDups ++ if a ∈ l then [] else [a] := by
  rw [List.eraseDups_append, List.removeAll]
  by_cases h : a ∈ l <;> simp [h, List.eraseDups_cons]

/-- No element is kept twice. -/
theorem nodup_eraseDups (l : List α) : l.eraseDups.Nodup := by
  induction l using List.reverseRecOn with
  | nil => simp
  | append_singleton l a ih =>
    rw [eraseDups_concat]
    by_cases h : a ∈ l
    · rwa [if_pos h, List.append_nil]
    · rw [if_neg h, List.nodup_append]
      refine ⟨ih, by simp, fun b hb c hc => ?_⟩
      rw [List.mem_singleton.1 hc]
      exact fun e => h (e ▸ List.mem_eraseDups.1 hb)

/-- What is kept is in its old order. -/
theorem eraseDups_sublist (l : List α) : l.eraseDups.Sublist l := by
  induction l using List.reverseRecOn with
  | nil => simp
  | append_singleton l a ih =>
    rw [eraseDups_concat]
    refine ih.append ?_
    split_ifs <;> simp

/-- Elements that are changed, different ones to different ones, are kept as before. -/
theorem eraseDups_map_of_injective {f : α → β} (hf : Function.Injective f) (l : List α) :
    (l.map f).eraseDups = l.eraseDups.map f := by
  induction l using List.reverseRecOn with
  | nil => simp
  | append_singleton l a ih =>
    rw [List.map_append, List.map_singleton, eraseDups_concat, eraseDups_concat, ih, List.map_append]
    by_cases h : a ∈ l <;> simp [h, List.mem_map_of_injective hf]

/-- Elements may be chosen before or after repetitions are left out. -/
theorem eraseDups_filter (p : α → Bool) (l : List α) :
    (l.filter p).eraseDups = l.eraseDups.filter p := by
  induction l using List.reverseRecOn with
  | nil => simp
  | append_singleton l a ih =>
    rw [List.filter_append, eraseDups_concat, List.filter_append, ← ih]
    by_cases ha : p a = true
    · rw [List.filter_cons_of_pos ha, List.filter_nil, eraseDups_concat]
      by_cases h : a ∈ l <;> simp [h, ha]
    · rw [List.filter_cons_of_neg ha, List.filter_nil, List.append_nil]
      by_cases h : a ∈ l <;> simp [h, ha]

end QueryFilter
