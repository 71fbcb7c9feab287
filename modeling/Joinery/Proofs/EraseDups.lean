import Mathlib.Data.List.Induction
import Mathlib.Data.List.Nodup

/-!
# First occurrences

`List.eraseDups` keeps each element where it first comes up. Read from the other end, a list with one
more element keeps that element only if it is new (`eraseDups_concat`). Where all elements have different
names, a name finds one of them (`filter_eq_singleton_of_nodup`).
-/

namespace Joinery

variable {α : Type} [DecidableEq α]

theorem eraseDups_concat (l : List α) (a : α) :
    (l ++ [a]).eraseDups = if a ∈ l then l.eraseDups else l.eraseDups ++ [a] := by
  rw [List.eraseDups_append]
  by_cases h : a ∈ l <;> simp [List.removeAll, h, List.eraseDups_cons]

/-- One more element comes behind the others, unless it is there. -/
theorem eraseDups_concat_eq (l : List α) (a : α) : (l ++ [a]).eraseDups =
    if a ∈ l.eraseDups then l.eraseDups else l.eraseDups ++ [a] := by
  rw [eraseDups_concat]
  exact if_congr List.mem_eraseDups.symm rfl rfl

theorem nodup_eraseDups (l : List α) : l.eraseDups.Nodup := by
  induction l using List.reverseRecOn with
  | nil => simp
  | append_singleton l a ih =>
    rw [eraseDups_concat]
    split_ifs with mem
    · exact ih
    · refine List.nodup_append.2 ⟨ih, List.nodup_singleton a, fun x hx y hy e => mem ?_⟩
      rw [List.mem_singleton.1 hy] at e
      exact List.mem_eraseDups.1 (e ▸ hx)

theorem eraseDups_filter (p : α → Bool) (l : List α) :
    (l.filter p).eraseDups = l.eraseDups.filter p := by
  induction l using List.reverseRecOn with
  | nil => rfl
  | append_singleton l a ih =>
    rw [List.filter_append, eraseDups_concat]
    by_cases keep : p a
    · have one : [a].filter p = [a] := by simp [keep]
      rw [one, eraseDups_concat, ih]
      by_cases mem : a ∈ l <;> simp [mem, keep]
    · by_cases mem : a ∈ l <;> simp [mem, keep, ih]

/-- Parts of a list may be exchanged for others with the same first occurrences. -/
theorem eraseDups_append_congr {l₁ l₁' l₂ l₂' : List α} (first : l₁.eraseDups = l₁'.eraseDups)
    (second : l₂.eraseDups = l₂'.eraseDups) : (l₁ ++ l₂).eraseDups = (l₁' ++ l₂').eraseDups := by
  have same_elements : ∀ a, a ∈ l₁ ↔ a ∈ l₁' := fun a => by
    rw [← List.mem_eraseDups, first, List.mem_eraseDups]
  have new (l : List α) : l.removeAll l₁ = l.removeAll l₁' :=
    List.filter_congr fun a _ => by simp [same_elements]
  rw [List.eraseDups_append, List.eraseDups_append, first, new, List.removeAll, List.removeAll,
    eraseDups_filter, eraseDups_filter, second]

theorem eraseDups_flatMap_congr {β : Type} {f g : β → List α} {l : List β}
    (same : ∀ b ∈ l, (f b).eraseDups = (g b).eraseDups) : (l.flatMap f).eraseDups = (l.flatMap g).eraseDups := by
  induction l with
  | nil => rfl
  | cons b l ih =>
    rw [List.forall_mem_cons] at same
    rw [List.flatMap_cons, List.flatMap_cons]
    exact eraseDups_append_congr same.1 (ih same.2)

theorem eraseDups_of_forall_eq {l : List α} {a : α} (ne : l ≠ []) (all : ∀ x ∈ l, x = a) :
    l.eraseDups = [a] := by
  rw [List.eq_replicate_of_mem all, ← Nat.succ_pred (mt List.length_eq_zero_iff.1 ne)]
  induction l.length.pred with
  | zero => rfl
  | succ n ih =>
    rw [List.replicate_succ', eraseDups_concat, ih]
    simp

theorem eraseDups_of_nodup {l : List α} (h : l.Nodup) : l.eraseDups = l := by
  induction l using List.reverseRecOn with
  | nil => simp
  | append_singleton l a ih =>
    obtain ⟨front, -, disjoint⟩ := List.nodup_append.1 h
    rw [eraseDups_concat, if_neg fun mem => disjoint a mem a (by simp) rfl, ih front]

omit [DecidableEq α] in
theorem filter_eq_singleton_of_nodup {β : Type} [DecidableEq β] {f : α → β} {l : List α}
    (nodup : (l.map f).Nodup) {a : α} (mem : a ∈ l) : (l.filter fun x => f x = f a) = [a] := by
  obtain ⟨front, back, rfl⟩ := List.append_of_mem mem
  rw [List.map_append, List.map_cons, List.nodup_append, List.nodup_cons] at nodup
  obtain ⟨-, ⟨not_back, -⟩, disjoint⟩ := nodup
  have front_nil : (front.filter fun x => decide (f x = f a)) = [] := by
    rw [List.filter_eq_nil_iff]
    intro x hx same
    exact disjoint (f x) (List.mem_map_of_mem hx) (f a) (by simp) (of_decide_eq_true same)
  have back_nil : (back.filter fun x => decide (f x = f a)) = [] := by
    rw [List.filter_eq_nil_iff]
    intro x hx same
    exact not_back (List.mem_map.2 ⟨x, hx, of_decide_eq_true same⟩)
  rw [List.filter_append, front_nil, List.filter_cons, back_nil]
  simp

end Joinery
