import GasReport.Collection.Gather
import Mathlib.Data.List.Induction
import Mathlib.Data.List.Nodup

namespace GasReport

variable {Key A : Type} [DecidableEq Key]

/-- A key that was met adds nothing, and a new one is added at the end. -/
theorem firsts_step (key : A → Key) (entries : List A) (entry : A) :
    firsts key (entries ++ [entry]) =
      if key entry ∈ (firsts key entries).map key then firsts key entries
      else firsts key entries ++ [entry] := by
  rw [firsts, List.foldl_append, List.foldl_cons, List.foldl_nil]
  change (if (firsts key entries).any _ = true then firsts key entries
    else firsts key entries ++ [entry]) = _
  simp only [List.any_eq_true, decide_eq_true_eq, List.mem_map]

/-- No key is lost. -/
theorem mem_map_firsts (key : A → Key) (entries : List A) (found : Key) :
    found ∈ (firsts key entries).map key ↔ found ∈ entries.map key := by
  induction entries using List.reverseRecOn with
  | nil => rfl
  | append_singleton entries entry ih =>
      rw [firsts_step, List.map_append, List.mem_append, ← ih]
      split
      · rename_i known
        constructor
        · exact Or.inl
        · rintro (old | new)
          · exact old
          · rw [List.map_singleton, List.mem_singleton] at new
            exact new ▸ known
      · rw [List.map_append, List.mem_append]

/-- A later entry is kept only if its key is new. -/
theorem firsts_concat (key : A → Key) (entries : List A) (entry : A) :
    firsts key (entries ++ [entry]) =
      if key entry ∈ entries.map key then firsts key entries
      else firsts key entries ++ [entry] := by
  simp only [firsts_step, mem_map_firsts]

/-- Each key stands once. -/
theorem nodup_map_firsts (key : A → Key) (entries : List A) :
    ((firsts key entries).map key).Nodup := by
  induction entries using List.reverseRecOn with
  | nil => exact List.nodup_nil
  | append_singleton entries entry ih =>
      rw [firsts_step]
      split
      · exact ih
      · rename_i new
        rw [List.map_append, List.map_singleton, ← List.concat_eq_append]
        exact ih.concat new

/-- Leaving out whole keys leaves the other first entries as they are. -/
theorem firsts_filter (key : A → Key) (keep : Key → Bool) (entries : List A) :
    firsts key (entries.filter fun entry => keep (key entry)) =
      (firsts key entries).filter fun entry => keep (key entry) := by
  induction entries using List.reverseRecOn with
  | nil => rfl
  | append_singleton entries entry ih =>
      rw [List.filter_append, firsts_concat]
      cases kept : keep (key entry) with
      | false =>
          rw [List.filter_singleton, kept, cond_false, List.append_nil, ih]
          split
          · rfl
          · rw [List.filter_append, List.filter_singleton, kept, cond_false, List.append_nil]
      | true =>
          rw [List.filter_singleton, kept, cond_true, firsts_concat, ih]
          have same : key entry ∈ (entries.filter fun entry => keep (key entry)).map key ↔
              key entry ∈ entries.map key := by
            simp only [List.mem_map, List.mem_filter]
            constructor
            · rintro ⟨other, ⟨inside, -⟩, equal⟩
              exact ⟨other, inside, equal⟩
            · rintro ⟨other, inside, equal⟩
              exact ⟨other, ⟨inside, equal ▸ kept⟩, equal⟩
          rw [if_congr same rfl rfl]
          split
          · rfl
          · rw [List.filter_append, List.filter_singleton, kept, cond_true]

/-- Looking for a key among the first entries finds the first entry of the key. -/
theorem find?_firsts (key : A → Key) (entries : List A) (found : Key) :
    (firsts key entries).find? (key · = found) = entries.find? (key · = found) := by
  induction entries using List.reverseRecOn with
  | nil => rfl
  | append_singleton entries entry ih =>
      rw [firsts_concat, List.find?_append, ← ih]
      split
      · rename_i known
        by_cases same : key entry = found
        · -- The key was met before, so the search ends before the last entry.
          obtain ⟨other, inside, equal⟩ :=
            List.mem_map.mp ((mem_map_firsts key entries _).mpr known)
          have met : ((firsts key entries).find? (key · = found)).isSome := by
            rw [List.find?_isSome]
            exact ⟨other, inside, decide_eq_true (equal.trans same)⟩
          rw [Option.or_of_isSome met]
        · rw [List.find?_singleton, if_neg (by simpa using same), Option.or_none]
      · rw [List.find?_append]

/-- Entries that come later are first entries when their keys are new. -/
theorem firsts_append (key : A → Key) (earlier later : List A) :
    firsts key (earlier ++ later) = firsts key earlier ++
      (firsts key later).filter fun entry => key entry ∉ earlier.map key := by
  induction later using List.reverseRecOn with
  | nil => simp [firsts]
  | append_singleton later entry ih =>
      have met : key entry ∈ (earlier ++ later).map key ↔
          key entry ∈ earlier.map key ∨ key entry ∈ later.map key := by
        rw [List.map_append, List.mem_append]
      rw [← List.append_assoc, firsts_concat, firsts_concat, if_congr met rfl rfl, ih]
      by_cases late : key entry ∈ later.map key
      · rw [if_pos (Or.inr late), if_pos late]
      · rw [if_neg late, List.filter_append, List.filter_singleton]
        by_cases early : key entry ∈ earlier.map key
        · rw [if_pos (Or.inl early)]
          simp [early]
        · rw [if_neg (not_or.mpr ⟨early, late⟩)]
          simp [early]

/-- The first entry is never left out. -/
theorem head?_firsts (key : A → Key) (entries : List A) :
    (firsts key entries).head? = entries.head? := by
  cases entries with
  | nil => rfl
  | cons first rest =>
      change (firsts key ([first] ++ rest)).head? = some first
      rw [firsts_append]
      rfl

/-- A repeated list brings no new keys. -/
theorem firsts_append_self (key : A → Key) (entries : List A) :
    firsts key (entries ++ entries) = firsts key entries := by
  have known : ((firsts key entries).filter fun entry => key entry ∉ entries.map key) = [] := by
    rw [List.filter_eq_nil_iff]
    intro entry inside
    have met := (mem_map_firsts key entries (key entry)).mp (List.mem_map_of_mem inside)
    simpa using met
  rw [firsts_append, known, List.append_nil]

/-- No key is lost. -/
theorem mem_firsts_id (keys : List Key) (key : Key) : key ∈ firsts id keys ↔ key ∈ keys := by
  simpa using mem_map_firsts id keys key

/-- No key stands twice. -/
theorem nodup_firsts_id (keys : List Key) : (firsts id keys).Nodup := by
  simpa using nodup_map_firsts id keys

theorem firsts_id_concat (keys : List Key) (key : Key) :
    firsts id (keys ++ [key]) =
      if key ∈ keys then firsts id keys else firsts id keys ++ [key] := by
  simpa using firsts_concat id keys key

/-- Keys stand in the order in which they were first met. -/
theorem firsts_id_pairwise (keys : List Key) :
    (firsts id keys).Pairwise fun first second => keys.idxOf first < keys.idxOf second := by
  induction keys using List.reverseRecOn with
  | nil => exact List.Pairwise.nil
  | append_singleton keys key ih =>
      have position {found : Key} (inside : found ∈ firsts id keys) :
          (keys ++ [key]).idxOf found = keys.idxOf found :=
        List.idxOf_append_of_mem ((mem_firsts_id keys found).mp inside)
      have kept : (firsts id keys).Pairwise fun first second =>
          (keys ++ [key]).idxOf first < (keys ++ [key]).idxOf second := by
        refine ih.imp_of_mem fun {first second} firstInside secondInside less => ?_
        rw [position firstInside, position secondInside]
        exact less
      rw [firsts_id_concat]
      split
      · exact kept
      · rename_i new
        refine List.pairwise_append.mpr ⟨kept, List.pairwise_singleton _ _, ?_⟩
        intro old inside added fresh
        rw [List.mem_singleton.mp fresh, position inside, List.idxOf_append_of_notMem new]
        have below := List.idxOf_lt_length_of_mem ((mem_firsts_id keys old).mp inside)
        omega

/-- The keys of first entries are the first keys. -/
theorem map_firsts (key : A → Key) (entries : List A) :
    (firsts key entries).map key = firsts id (entries.map key) := by
  induction entries using List.reverseRecOn with
  | nil => rfl
  | append_singleton entries entry ih =>
      rw [firsts_concat, List.map_append, List.map_singleton, firsts_id_concat, ← ih]
      split
      · rfl
      · rw [List.map_append, List.map_singleton]

/-- First entries stand in the order in which their keys were first met. -/
theorem firsts_pairwise (key : A → Key) (entries : List A) :
    (firsts key entries).Pairwise fun first second =>
      (entries.map key).idxOf (key first) < (entries.map key).idxOf (key second) := by
  have named := firsts_id_pairwise (entries.map key)
  rw [← map_firsts, List.pairwise_map] at named
  exact named

/-- A first entry is the one that is found under its key. -/
theorem mem_firsts (key : A → Key) (entries : List A) (entry : A) :
    entry ∈ firsts key entries ↔ entries.find? (key · = key entry) = some entry := by
  rw [← find?_firsts]
  constructor
  · intro inside
    cases looked : (firsts key entries).find? (key · = key entry) with
    | none => simpa using List.find?_eq_none.mp looked entry inside
    | some found =>
        have same : key found = key entry := by simpa using List.find?_some looked
        have known := List.mem_of_find?_eq_some looked
        rw [List.inj_on_of_nodup_map (nodup_map_firsts key entries) known inside same]
  · exact List.mem_of_find?_eq_some

omit [DecidableEq Key] in
/-- What is made of some keys, each under its own key, follows the keys. -/
theorem map_filterMap_key {make : Key → Option A} {key : A → Key}
    (keyed : ∀ {found made}, make found = some made → key made = found) (keys : List Key) :
    (keys.filterMap make).map key = keys.filter fun found => (make found).isSome := by
  induction keys with
  | nil => rfl
  | cons first rest ih =>
      cases made : make first with
      | none => rw [List.filterMap_cons_none made, ih, List.filter_cons_of_neg (by simp [made])]
      | some value =>
          rw [List.filterMap_cons_some made, List.map_cons, ih, keyed made,
            List.filter_cons_of_pos (by simp [made])]

/-- These are the values that stand under a key. -/
def valuesOf (key : Key) (entries : List (Key × A)) : List A :=
  (entries.filter (·.1 = key)).map Prod.snd

/-- A later entry is the last value of its key and changes no other. -/
theorem valuesOf_concat (key : Key) (entries : List (Key × A)) (entry : Key × A) :
    valuesOf key (entries ++ [entry]) =
      if key = entry.1 then valuesOf key entries ++ [entry.2] else valuesOf key entries := by
  rw [valuesOf, List.filter_append, List.map_append, List.filter_singleton]
  by_cases same : key = entry.1
  · simp [valuesOf, same]
  · simp [valuesOf, same, Ne.symm same]

/-- These are the entries of some parts, each with the key of its part. -/
def entriesOf (parts : List (Key × List A)) : List (Key × A) :=
  parts.flatMap fun part => part.2.map fun value => (part.1, value)

/-- An entry is added once, and no other is lost. -/
theorem gatherInto_perm (parts : List (Key × List A)) (entry : Key × A) :
    (entriesOf (gatherInto parts entry)).Perm (entry :: entriesOf parts) := by
  induction parts with
  | nil => exact List.Perm.refl _
  | cons part rest ih =>
      rw [gatherInto]
      split
      · rename_i same
        have added : entriesOf ((part.1, part.2 ++ [entry.2]) :: rest) =
            part.2.map (fun value => (part.1, value)) ++ entry :: entriesOf rest := by
          simp [entriesOf, same]
        rw [added]
        exact List.perm_middle
      · change (part.2.map _ ++ entriesOf (gatherInto rest entry)).Perm _
        exact (ih.append_left _).trans List.perm_middle

/-- Gathering keeps every entry, and each as often as it was given. -/
theorem gather_perm (entries : List (Key × A)) : (entriesOf (gather entries)).Perm entries := by
  induction entries using List.reverseRecOn with
  | nil => exact List.Perm.refl _
  | append_singleton entries entry ih =>
      rw [gather, List.foldl_append, List.foldl_cons, List.foldl_nil]
      calc
        List.Perm (entriesOf (gatherInto (gather entries) entry))
            (entry :: entriesOf (gather entries)) := gatherInto_perm (gather entries) entry
        List.Perm _ (entry :: entries) := ih.cons entry
        List.Perm _ (entries ++ [entry]) := (List.perm_append_singleton entry entries).symm

/-- An entry joins the only part with its key. -/
theorem gatherInto_map (keys : List Key) (distinct : keys.Nodup) (values : Key → List A)
    (entry : Key × A) :
    gatherInto (keys.map fun key => (key, values key)) entry =
      if entry.1 ∈ keys then
        keys.map fun key => (key, if key = entry.1 then values key ++ [entry.2] else values key)
      else keys.map (fun key => (key, values key)) ++ [(entry.1, [entry.2])] := by
  induction keys with
  | nil => rfl
  | cons key rest ih =>
      have ⟨absent, restDistinct⟩ := List.nodup_cons.mp distinct
      rw [List.map_cons, gatherInto]
      by_cases same : key = entry.1
      · have others : rest.map (fun key => (key, values key)) = rest.map fun key =>
            (key, if key = entry.1 then values key ++ [entry.2] else values key) := by
          refine List.map_congr_left fun other inside => ?_
          rw [if_neg]
          rintro equal
          exact absent (same ▸ equal ▸ inside)
        simp only [same, if_true, List.mem_cons, true_or, List.map_cons, others]
      · rw [if_neg same, ih restDistinct]
        have apart : entry.1 ∈ key :: rest ↔ entry.1 ∈ rest := by
          simp [Ne.symm same]
        rw [if_congr apart rfl rfl]
        split
        · rw [List.map_cons, if_neg same]
        · rfl

/-- Gathering gives one part for each key, with all its values. -/
theorem gather_eq (entries : List (Key × A)) :
    gather entries =
      (firsts id (entries.map Prod.fst)).map fun key => (key, valuesOf key entries) := by
  induction entries using List.reverseRecOn with
  | nil => rfl
  | append_singleton entries entry ih =>
      rw [gather, List.foldl_append, List.foldl_cons, List.foldl_nil]
      change gatherInto (gather entries) entry = _
      rw [ih, gatherInto_map _ (nodup_firsts_id _), List.map_append, List.map_singleton,
        firsts_id_concat, if_congr (mem_firsts_id _ _) rfl rfl]
      split
      · simp only [valuesOf_concat]
      · rename_i new
        have others : ∀ key ∈ firsts id (entries.map Prod.fst),
            (key, valuesOf key entries) = (key, valuesOf key (entries ++ [entry])) := by
          intro key inside
          rw [valuesOf_concat, if_neg]
          rintro rfl
          exact new ((mem_firsts_id _ _).mp inside)
        have empty : valuesOf entry.1 entries = [] := by
          simp only [valuesOf, List.map_eq_nil_iff, List.filter_eq_nil_iff, decide_eq_true_eq]
          intro other inside same
          exact new (same ▸ List.mem_map_of_mem inside)
        rw [List.map_append, List.map_singleton, valuesOf_concat, if_pos rfl, empty,
          List.nil_append, List.map_congr_left others]

end GasReport
