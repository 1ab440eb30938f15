import Mathlib.Data.List.Basic
import Mathlib.Data.List.Pairwise
import Mathlib.Order.Lattice

namespace GasReport

/-- Elements of which each is before each keep their order. -/
theorem filter_mergeSort {A : Type} {before : A → A → Bool}
    (trans : ∀ first second third, before first second = true → before second third = true →
      before first third = true)
    (total : ∀ first second, (before first second || before second first) = true)
    {elements : List A} (alike : A → Bool)
    (level : ∀ first ∈ elements, ∀ second ∈ elements, alike first = true → alike second = true →
      before first second = true) :
    (elements.mergeSort before).filter alike = elements.filter alike := by
  have sorted : (elements.filter alike).Pairwise fun first second =>
      before first second = true := by
    apply List.pairwise_of_forall_mem_list
    intro first firstInside second secondInside
    obtain ⟨firstGiven, firstAlike⟩ := List.mem_filter.mp firstInside
    obtain ⟨secondGiven, secondAlike⟩ := List.mem_filter.mp secondInside
    exact level first firstGiven second secondGiven firstAlike secondAlike
  -- These elements are already sorted, and a stable sort leaves a sorted sublist as it is.
  have inside : (elements.filter alike).Sublist (elements.mergeSort before) :=
    List.sublist_mergeSort trans total sorted List.filter_sublist
  have part := inside.filter alike
  rw [List.filter_filter] at part
  simp only [Bool.and_self] at part
  have length := ((List.mergeSort_perm elements before).filter alike).length_eq
  exact (part.eq_of_length length.symm).symm

variable {A K : Type} [LinearOrder K] (key : A → K)

theorem key_trans (first second third : A) (before : decide (key first ≤ key second) = true)
    (after : decide (key second ≤ key third) = true) : decide (key first ≤ key third) = true := by
  rw [decide_eq_true_eq] at *
  exact le_trans before after

theorem key_total (first second : A) :
    (decide (key first ≤ key second) || decide (key second ≤ key first)) = true := by
  rw [Bool.or_eq_true, decide_eq_true_eq, decide_eq_true_eq]
  exact le_total _ _

/-- The sorted keys never fall. -/
theorem pairwise_mergeSort_key (elements : List A) :
    (elements.mergeSort fun first second => key first ≤ key second).Pairwise fun first second =>
      key first ≤ key second := by
  have sorted := List.pairwise_mergeSort (key_trans key) (key_total key) elements
  exact sorted.imp fun before => of_decide_eq_true before

/-- Elements of one key keep their order. -/
theorem filter_mergeSort_key {elements : List A} (alike : A → Bool)
    (level : ∀ first ∈ elements, ∀ second ∈ elements, alike first = true → alike second = true →
      key first = key second) :
    (elements.mergeSort fun first second => key first ≤ key second).filter alike =
      elements.filter alike := by
  apply filter_mergeSort (key_trans key) (key_total key)
  intro first firstInside second secondInside firstAlike secondAlike
  exact decide_eq_true
    (le_of_eq (level first firstInside second secondInside firstAlike secondAlike))

end GasReport
