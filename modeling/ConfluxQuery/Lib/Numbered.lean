import Mathlib

/-!
# A numbered log

A log whose entries carry their own positions is appended to in one place. Two readers of it can
compare what they have by the numbers alone.
-/

section

variable {α : Type}

/-- A log is numbered when every entry carries its position, counted from one. -/
def Numbered (number : α → Nat) (log : List α) : Prop :=
  ∀ position entry, log[position]? = some entry → number entry = position + 1

namespace Numbered

variable {number : α → Nat} {log : List α}

theorem nil : Numbered number [] := fun _ _ present => by cases present

theorem concat (numbered : Numbered number log) {entry : α}
    (next : number entry = log.length + 1) : Numbered number (log ++ [entry]) := by
  intro position found present
  rcases Nat.lt_trichotomy position log.length with inside | rfl | outside
  · rw [List.getElem?_append_left inside] at present
    exact numbered position found present
  · rw [List.getElem?_concat_length, Option.some.injEq] at present
    exact present ▸ next
  · rw [List.getElem?_eq_none (by simp; omega)] at present
    cases present

theorem map_eq (numbered : Numbered number log) : log.map number = List.range' 1 log.length := by
  refine List.ext_getElem (by simp) fun position inside _ => ?_
  rw [List.getElem_map, List.getElem_range', numbered position _ (List.getElem?_eq_getElem _)]
  omega

/-- What has a larger number is what stands further back. -/
theorem filter_eq_drop (numbered : Numbered number log) (after : Nat) :
    log.filter (fun entry => decide (after < number entry)) = log.drop after := by
  rw [← List.take_append_drop after log, List.filter_append]
  have before : (log.take after).filter (fun entry => decide (after < number entry)) = [] := by
    refine List.filter_eq_nil_iff.mpr fun entry member => ?_
    obtain ⟨position, inside, rfl⟩ := List.mem_iff_getElem.mp member
    have near : position < after := by
      rw [List.length_take] at inside
      omega
    have counted := numbered position _ (List.getElem?_eq_getElem (by
      rw [List.length_take] at inside
      omega))
    rw [List.getElem_take, counted]
    simp
    omega
  have beyond : (log.drop after).filter (fun entry => decide (after < number entry)) =
      log.drop after := by
    refine List.filter_eq_self.mpr fun entry member => ?_
    obtain ⟨position, inside, rfl⟩ := List.mem_iff_getElem.mp member
    have counted := numbered (after + position) _ (List.getElem?_eq_getElem (by
      rw [List.length_drop] at inside
      omega))
    rw [List.getElem_drop, counted]
    exact decide_eq_true (by omega)
  rw [before, beyond, List.nil_append, List.take_append_drop]

end Numbered

end
