namespace GasReport

/-- Keys are strictly increasing, so each stands once. -/
structure Dictionary (A : Type) where
  entries : List (String × A)
  sorted : entries.Pairwise (fun first second => first.1 < second.1)

namespace Dictionary

variable {A B : Type}

def empty : Dictionary A := ⟨[], .nil⟩

def find (key : String) (entries : List (String × A)) : Option A :=
  (entries.find? (·.1 == key)).map (·.2)

def get? (dictionary : Dictionary A) (key : String) : Option A := find key dictionary.entries

def keys (dictionary : Dictionary A) : List String := dictionary.entries.map (·.1)

/-- The entry takes the place of one with its key, or its place in the order. -/
def place (key : String) (value : A) : List (String × A) → List (String × A)
  | [] => [(key, value)]
  | entry :: rest =>
    if key < entry.1 then (key, value) :: entry :: rest
    else if key = entry.1 then (key, value) :: rest
    else entry :: place key value rest

theorem mem_place {key : String} {value : A} {entries : List (String × A)} {entry : String × A}
    (inside : entry ∈ place key value entries) : entry = (key, value) ∨ entry ∈ entries := by
  induction entries with
  | nil => simpa [place] using inside
  | cons head rest ih =>
    simp only [place] at inside
    split at inside
    · simpa using inside
    · split at inside
      · rcases List.mem_cons.mp inside with same | tail
        · exact .inl same
        · exact .inr (List.mem_cons_of_mem _ tail)
      · rcases List.mem_cons.mp inside with same | tail
        · exact .inr (same ▸ List.mem_cons_self)
        · exact (ih tail).imp_right (List.mem_cons_of_mem _)

theorem greater_of_not_less {first second : String} (notLess : ¬ first < second)
    (different : ¬ first = second) : second < first := by
  rcases String.le_total first second with below | below
  · exact Decidable.byContradiction fun notGreater =>
      different (String.le_antisymm below (String.not_lt.mp notLess))
  · exact Decidable.byContradiction fun notGreater =>
      different (String.le_antisymm (String.not_lt.mp notGreater) below)

/-- A placed entry keeps the order of the keys. -/
theorem place_sorted (key : String) (value : A) {entries : List (String × A)}
    (sorted : entries.Pairwise (fun first second => first.1 < second.1)) :
    (place key value entries).Pairwise (fun first second => first.1 < second.1) := by
  induction entries with
  | nil => simp [place]
  | cons head rest ih =>
    have ⟨above, restSorted⟩ := List.pairwise_cons.mp sorted
    simp only [place]
    split
    · rename_i less
      refine List.pairwise_cons.mpr ⟨?_, sorted⟩
      intro entry inside
      rcases List.mem_cons.mp inside with same | tail
      · exact same ▸ less
      · exact String.lt_trans less (above entry tail)
    · split
      · rename_i same
        exact List.pairwise_cons.mpr ⟨fun entry inside => same ▸ above entry inside, restSorted⟩
      · rename_i notLess different
        refine List.pairwise_cons.mpr ⟨?_, ih restSorted⟩
        intro entry inside
        rcases mem_place inside with same | tail
        · exact same ▸ greater_of_not_less notLess different
        · exact above entry tail

def insert (dictionary : Dictionary A) (key : String) (value : A) : Dictionary A :=
  ⟨place key value dictionary.entries, place_sorted key value dictionary.sorted⟩

/-- A placed entry is found under its key, and every other key finds what it found. -/
theorem find_place (key : String) (value : A) (entries : List (String × A)) (other : String) :
    find other (place key value entries) =
      if other = key then some value else find other entries := by
  induction entries with
  | nil =>
    by_cases same : other = key
    · simp [place, find, same]
    · simp [place, find, same, Ne.symm same]
  | cons head rest ih =>
    simp only [find] at ih
    by_cases same : other = key
    · subst same
      simp only [place]
      split
      · simp [find]
      · split
        · simp [find]
        · rename_i different
          simp [find, Ne.symm different, ih]
    · simp only [place]
      split
      · simp [find, Ne.symm same]
      · split
        · rename_i taken
          subst taken
          simp [find, Ne.symm same]
        · by_cases met : head.1 = other
          · simp [find, met]
          · simp [find, met, ih, same]

/-- An insertion changes its own key alone. -/
theorem get?_insert (dictionary : Dictionary A) (key : String) (value : A) (other : String) :
    (dictionary.insert key value).get? other =
      if other = key then some value else dictionary.get? other :=
  find_place key value dictionary.entries other

theorem find_none_of_less {key : String} {entries : List (String × A)}
    (below : ∀ entry ∈ entries, key < entry.1) : find key entries = none := by
  simp only [find, Option.map_eq_none_iff, List.find?_eq_none, beq_iff_eq]
  intro entry inside same
  exact String.lt_irrefl key (same ▸ below entry inside)

/-- Keys in order leave no choice of the entries. -/
theorem entries_eq_of_find {first second : List (String × A)}
    (firstSorted : first.Pairwise (fun left right => left.1 < right.1))
    (secondSorted : second.Pairwise (fun left right => left.1 < right.1))
    (same : ∀ key, find key first = find key second) : first = second := by
  induction first generalizing second with
  | nil =>
    cases second with
    | nil => rfl
    | cons head rest => simpa [find] using same head.1
  | cons head rest ih =>
    cases second with
    | nil => simpa [find] using same head.1
    | cons other tail =>
      have ⟨above, restSorted⟩ := List.pairwise_cons.mp firstSorted
      have ⟨otherAbove, tailSorted⟩ := List.pairwise_cons.mp secondSorted
      have sameKey : head.1 = other.1 := by
        refine Decidable.byContradiction fun different => ?_
        have atHead := same head.1
        have atOther := same other.1
        rcases String.le_total head.1 other.1 with below | below
        · have less := greater_of_not_less
            (fun less => different (String.le_antisymm below (String.not_lt.mp fun greater =>
              String.lt_asymm less greater))) (Ne.symm different)
          have missing : find head.1 (other :: tail) = none :=
            find_none_of_less fun entry inside => by
            rcases List.mem_cons.mp inside with first | later
            · exact first ▸ less
            · exact String.lt_trans less (otherAbove entry later)
          rw [missing] at atHead
          simp [find] at atHead
        · have less := greater_of_not_less
            (fun less => different (String.le_antisymm (String.not_lt.mp fun greater =>
              String.lt_asymm less greater) below)) different
          have missing : find other.1 (head :: rest) = none :=
            find_none_of_less fun entry inside => by
            rcases List.mem_cons.mp inside with first | later
            · exact first ▸ less
            · exact String.lt_trans less (above entry later)
          rw [missing] at atOther
          simp [find] at atOther
      have sameValue : head.2 = other.2 := by
        have atHead := same head.1
        simpa [find, sameKey] using atHead
      have sameRest : rest = tail := by
        refine ih restSorted tailSorted fun key => ?_
        by_cases atHead : key = head.1
        · rw [find_none_of_less fun entry inside => atHead ▸ above entry inside,
            find_none_of_less fun entry inside => atHead ▸ sameKey ▸ otherAbove entry inside]
        · have here := same key
          simpa [find, Ne.symm atHead, sameKey ▸ Ne.symm atHead] using here
      rw [sameRest, Prod.ext sameKey sameValue]

/-- Dictionaries are equal when every key finds the same value. -/
theorem eq_of_get? {first second : Dictionary A}
    (same : ∀ key, first.get? key = second.get? key) : first = second := by
  have entries := entries_eq_of_find first.sorted second.sorted same
  cases first
  cases second
  simpa using entries

/-- A missing key is updated from the given value. -/
def update (dictionary : Dictionary A) (key : String) (missing : A) (change : A → A) :
    Dictionary A :=
  dictionary.insert key (change ((dictionary.get? key).getD missing))

/-- An update changes its own key alone. -/
theorem get?_update (dictionary : Dictionary A) (key : String) (missing : A) (change : A → A)
    (other : String) :
    (dictionary.update key missing change).get? other =
      if other = key then some (change ((dictionary.get? key).getD missing))
      else dictionary.get? other :=
  dictionary.get?_insert key _ other

/-- A key that is updated twice takes both changes, one after the other. -/
theorem update_update (dictionary : Dictionary A) (key : String) (missing : A)
    (first second : A → A) :
    (dictionary.update key missing first).update key missing second =
      dictionary.update key missing fun value => second (first value) := by
  apply eq_of_get?
  intro other
  simp only [get?_update, if_true, Option.getD_some]
  split <;> rfl

/-- A key that comes again takes the later value. -/
def ofList (entries : List (String × A)) : Dictionary A :=
  entries.foldl (fun dictionary entry => dictionary.insert entry.1 entry.2) empty

theorem find_cons (key : String) (entry : String × A) (rest : List (String × A)) :
    find key (entry :: rest) = if key = entry.1 then some entry.2 else find key rest := by
  by_cases same : entry.1 = key
  · simp [find, same]
  · simp [find, same, Ne.symm same]

theorem find_eq_none {key : String} {entries : List (String × A)}
    (absent : key ∉ entries.map (·.1)) : find key entries = none := by
  simp only [find, Option.map_eq_none_iff, List.find?_eq_none, beq_iff_eq]
  intro entry inside same
  exact absent (List.mem_map.mpr ⟨entry, inside, same⟩)

theorem get?_foldl_insert {entries : List (String × A)} (distinct : (entries.map (·.1)).Nodup)
    (dictionary : Dictionary A) (key : String) :
    (entries.foldl (fun dictionary entry => dictionary.insert entry.1 entry.2)
      dictionary).get? key =
      (find key entries).or (dictionary.get? key) := by
  induction entries generalizing dictionary with
  | nil => rfl
  | cons entry rest ih =>
    have ⟨absent, restDistinct⟩ := List.nodup_cons.mp distinct
    rw [List.foldl_cons, ih restDistinct, get?_insert, find_cons]
    split
    · rename_i same
      rw [same, find_eq_none absent, Option.none_or, Option.some_or]
    · rfl

/-- Distinct keys are all kept, in whichever order they come. -/
theorem get?_ofList {entries : List (String × A)} (distinct : (entries.map (·.1)).Nodup)
    (key : String) : (ofList entries).get? key = find key entries := by
  rw [ofList, get?_foldl_insert distinct]
  exact Option.or_none

/-- No key stands twice. -/
theorem nodup_keys (dictionary : Dictionary A) : dictionary.keys.Nodup := by
  refine List.pairwise_map.mpr (dictionary.sorted.imp ?_)
  intro first second less same
  exact String.lt_irrefl second.1 (same ▸ less)

/-- The entries of a dictionary make it again. -/
theorem ofList_entries (dictionary : Dictionary A) : ofList dictionary.entries = dictionary :=
  eq_of_get? fun key => get?_ofList dictionary.nodup_keys key

end Dictionary

end GasReport
