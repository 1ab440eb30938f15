import GasReport.Proofs.Collection.Gather

/-!
Entries that are converted together with their keys. Whatever looks at keys alone, and only at
whether they are equal, commutes with a conversion that keeps different keys different.
-/

namespace GasReport

variable {Key OtherKey A B : Type}

/-- The key of a converted entry is the new name of its key, and no two keys get the same name. -/
structure Rekeyed (key : A → Key) (otherKey : B → OtherKey) (convert : A → B)
    (rename : Key → OtherKey) : Prop where
  injective : rename.Injective
  keyed : ∀ entry, otherKey (convert entry) = rename (key entry)

namespace Rekeyed

variable [DecidableEq Key] [DecidableEq OtherKey] {key : A → Key} {otherKey : B → OtherKey}
  {convert : A → B} {rename : Key → OtherKey}

/-- The renamed key is found where the key was found. -/
theorem decide_eq (rekeyed : Rekeyed key otherKey convert rename) (found : Key) :
    (fun entry => decide (otherKey entry = rename found)) ∘ convert =
      fun entry => decide (key entry = found) := by
  funext entry
  rw [Function.comp_apply, rekeyed.keyed]
  exact decide_eq_decide.mpr rekeyed.injective.eq_iff

/-- The entries of a renamed key are the converted entries of the key. -/
theorem filter_map (rekeyed : Rekeyed key otherKey convert rename) (found : Key)
    (entries : List A) :
    (entries.map convert).filter (otherKey · = rename found) =
      (entries.filter (key · = found)).map convert := by
  rw [List.filter_map, rekeyed.decide_eq]

/-- The first entry of a renamed key is the converted first entry of the key. -/
theorem find?_map (rekeyed : Rekeyed key otherKey convert rename) (found : Key)
    (entries : List A) :
    (entries.map convert).find? (otherKey · = rename found) =
      (entries.find? (key · = found)).map convert := by
  rw [List.find?_map, rekeyed.decide_eq]

/-- First entries are first entries under the new keys. -/
theorem firsts_map (rekeyed : Rekeyed key otherKey convert rename) (entries : List A) :
    firsts otherKey (entries.map convert) = (firsts key entries).map convert := by
  induction entries using List.reverseRecOn with
  | nil => rfl
  | append_singleton entries entry ih =>
      have met : otherKey (convert entry) ∈ (entries.map convert).map otherKey ↔
          key entry ∈ entries.map key := by
        simp only [List.mem_map, exists_exists_and_eq_and, rekeyed.keyed,
          rekeyed.injective.eq_iff]
      rw [List.map_append, List.map_singleton, firsts_concat, firsts_concat, if_congr met rfl rfl,
        ih]
      split
      · rfl
      · rw [List.map_append, List.map_singleton]

end Rekeyed

/-- Keys that are renamed by themselves are told apart as before. -/
theorem firsts_id_map [DecidableEq Key] [DecidableEq OtherKey] {rename : Key → OtherKey}
    (injective : rename.Injective) (keys : List Key) :
    firsts id (keys.map rename) = (firsts id keys).map rename := by
  have rekeyed : Rekeyed id id rename rename := ⟨injective, fun _ => rfl⟩
  exact rekeyed.firsts_map keys

end GasReport
