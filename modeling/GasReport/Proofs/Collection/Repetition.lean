import GasReport.Proofs.Collection.Gather

namespace GasReport

variable {A B Key : Type}

/-- Each of the two parts of a list stands twice. -/
def Repeated (once twice : List A) : Prop :=
  ∃ first second, once = first ++ second ∧ twice = (first ++ first) ++ (second ++ second)

namespace Repeated

variable {once twice : List A}

/-- A converted list is repeated with the list. -/
theorem map (repeated : Repeated once twice) (convert : A → B) :
    Repeated (once.map convert) (twice.map convert) := by
  obtain ⟨first, second, rfl, rfl⟩ := repeated
  exact ⟨first.map convert, second.map convert, by simp, by simp⟩

/-- What a test keeps of a repeated list is repeated. -/
theorem filter (repeated : Repeated once twice) (keep : A → Bool) :
    Repeated (once.filter keep) (twice.filter keep) := by
  obtain ⟨first, second, rfl, rfl⟩ := repeated
  exact ⟨first.filter keep, second.filter keep, by simp, by simp⟩

theorem filterMap (repeated : Repeated once twice) (make : A → Option B) :
    Repeated (once.filterMap make) (twice.filterMap make) := by
  obtain ⟨first, second, rfl, rfl⟩ := repeated
  exact ⟨first.filterMap make, second.filterMap make, by simp, by simp⟩

/-- What the entries expand to is repeated. -/
theorem flatMap (repeated : Repeated once twice) (expand : A → List B) :
    Repeated (once.flatMap expand) (twice.flatMap expand) := by
  obtain ⟨first, second, rfl, rfl⟩ := repeated
  exact ⟨first.flatMap expand, second.flatMap expand, by simp, by simp⟩

/-- A repetition brings no new entry. -/
theorem mem_iff (repeated : Repeated once twice) {entry : A} : entry ∈ twice ↔ entry ∈ once := by
  obtain ⟨first, second, rfl, rfl⟩ := repeated
  simp only [List.mem_append, or_self]

/-- The first entry that is wanted is the same. -/
theorem find?_eq (repeated : Repeated once twice) (wanted : A → Bool) :
    twice.find? wanted = once.find? wanted := by
  obtain ⟨first, second, rfl, rfl⟩ := repeated
  simp only [List.find?_append, Option.or_self]

/-- The first result is the same. -/
theorem findSome?_eq (repeated : Repeated once twice) (make : A → Option B) :
    twice.findSome? make = once.findSome? make := by
  obtain ⟨first, second, rfl, rfl⟩ := repeated
  simp only [List.findSome?_append, Option.or_self]

theorem any_eq (repeated : Repeated once twice) (wanted : A → Bool) :
    twice.any wanted = once.any wanted := by
  obtain ⟨first, second, rfl, rfl⟩ := repeated
  simp only [List.any_append, Bool.or_self]

/-- The first entry is the same. -/
theorem head?_eq (repeated : Repeated once twice) : twice.head? = once.head? := by
  obtain ⟨first, second, rfl, rfl⟩ := repeated
  simp only [List.head?_append, Option.or_self]

variable [DecidableEq Key]

/-- The first entries of the keys are the same. -/
theorem firsts_eq (repeated : Repeated once twice) (key : A → Key) :
    firsts key twice = firsts key once := by
  obtain ⟨first, second, rfl, rfl⟩ := repeated
  rw [firsts_append, firsts_append_self, firsts_append_self, firsts_append]
  congr 2
  funext entry
  simp only [List.map_append, List.mem_append, or_self]

end Repeated

end GasReport
