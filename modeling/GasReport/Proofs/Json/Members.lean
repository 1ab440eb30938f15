import GasReport.Json.Value
import Mathlib.Data.List.Induction
import Mathlib.Data.List.Nodup

namespace GasReport.Json

/-- A member that is set keeps its place, and a new one is added at the end. -/
theorem map_fst_setMember {A : Type} (key : String) (value : A)
    (members : List (String × A)) :
    (setMember key value members).map Prod.fst =
      if key ∈ members.map Prod.fst then members.map Prod.fst
      else members.map Prod.fst ++ [key] := by
  induction members with
  | nil => rfl
  | cons member rest ih =>
      rw [setMember]
      by_cases same : member.1 = key
      · simp [same]
      · have apart : key ∈ (member :: rest).map Prod.fst ↔ key ∈ rest.map Prod.fst := by
          simp [Ne.symm same]
        rw [if_neg same, List.map_cons, ih, if_congr apart rfl rfl]
        split
        · rfl
        · rfl

/-- A new key stands last. -/
theorem setMember_new {A : Type} {key : String} {members : List (String × A)}
    (new : key ∉ members.map Prod.fst) (value : A) :
    setMember key value members = members ++ [(key, value)] := by
  induction members with
  | nil => rfl
  | cons member rest ih =>
      rw [List.map_cons, List.mem_cons, not_or] at new
      obtain ⟨different, absent⟩ := new
      rw [setMember, if_neg (Ne.symm different), ih absent]
      rfl

/-- A member that is set is the new one or was there before. -/
theorem mem_setMember {A : Type} {key : String} {value : A} {members : List (String × A)}
    {member : String × A} (inside : member ∈ setMember key value members) :
    member = (key, value) ∨ member ∈ members := by
  induction members with
  | nil => exact .inl (List.mem_singleton.mp inside)
  | cons first rest ih =>
      rw [setMember] at inside
      split at inside
      · rcases List.mem_cons.mp inside with set | later
        · exact .inl set
        · exact .inr (List.mem_cons_of_mem _ later)
      · rcases List.mem_cons.mp inside with kept | later
        · exact .inr (kept ▸ List.mem_cons_self)
        · exact (ih later).imp_right (List.mem_cons_of_mem _)

theorem mergeMembers_concat {A : Type} (members : List (String × A)) (member : String × A) :
    mergeMembers (members ++ [member]) = setMember member.1 member.2 (mergeMembers members) := by
  rw [mergeMembers, List.foldl_append]
  rfl

/-- Merged members have distinct keys. -/
theorem nodup_mergeMembers {A : Type} (members : List (String × A)) :
    ((mergeMembers members).map Prod.fst).Nodup := by
  induction members using List.reverseRecOn with
  | nil => exact List.nodup_nil
  | append_singleton members member ih =>
      rw [mergeMembers_concat, map_fst_setMember]
      split
      · exact ih
      · rename_i new
        rw [← List.concat_eq_append]
        exact ih.concat new

/-- Merging loses no key. -/
theorem mem_map_fst_mergeMembers {A : Type} (members : List (String × A)) (key : String) :
    key ∈ (mergeMembers members).map Prod.fst ↔ key ∈ members.map Prod.fst := by
  induction members using List.reverseRecOn with
  | nil => rfl
  | append_singleton members member ih =>
      rw [mergeMembers_concat, map_fst_setMember, List.map_append, List.mem_append, ← ih]
      split
      · rename_i known
        constructor
        · exact Or.inl
        · rintro (old | new)
          · exact old
          · exact List.mem_singleton.mp new ▸ known
      · exact List.mem_append

/-- Merging brings no new member. -/
theorem mem_of_mem_mergeMembers {A : Type} {members : List (String × A)} {member : String × A}
    (inside : member ∈ mergeMembers members) : member ∈ members := by
  induction members using List.reverseRecOn with
  | nil => exact inside
  | append_singleton members last ih =>
      rw [mergeMembers_concat] at inside
      rcases mem_setMember inside with set | kept
      · exact List.mem_append_right _ (List.mem_singleton.mpr set)
      · exact List.mem_append_left _ (ih kept)

/-- Members with distinct keys are already merged. -/
theorem mergeMembers_eq_self {A : Type} {members : List (String × A)}
    (distinct : (members.map Prod.fst).Nodup) : mergeMembers members = members := by
  induction members using List.reverseRecOn with
  | nil => rfl
  | append_singleton members member ih =>
      rw [List.map_append, List.map_singleton, List.nodup_append] at distinct
      obtain ⟨earlier, -, apart⟩ := distinct
      rw [mergeMembers_concat, ih earlier]
      refine setMember_new ?_ _
      intro again
      exact apart _ again _ (List.mem_singleton_self _) rfl

/-- One element at most is sought, so the first that is found is any that is there. -/
theorem find?_eq_some_iff_of_unique {A : Type} {sought : A → Bool} {elements : List A}
    (unique : ∀ first ∈ elements, ∀ second ∈ elements,
      sought first = true → sought second = true → first = second) {element : A} :
    elements.find? sought = some element ↔ element ∈ elements ∧ sought element = true := by
  constructor
  · intro found
    exact ⟨List.mem_of_find?_eq_some found, List.find?_some found⟩
  · rintro ⟨inside, wanted⟩
    cases found : elements.find? sought with
    | none => exact absurd wanted (List.find?_eq_none.mp found element inside)
    | some other =>
        rw [unique other (List.mem_of_find?_eq_some found) element inside (List.find?_some found)
          wanted]

/-- With distinct keys a member is found wherever it stands. -/
theorem Value.member?_eq_some {members : List (String × Value)}
    (distinct : (members.map Prod.fst).Nodup) {key : String} {value : Value} :
    (object members).member? key = some value ↔ (key, value) ∈ members := by
  have unique : ∀ first ∈ members, ∀ second ∈ members,
      (first.1 == key) = true → (second.1 == key) = true → first = second := by
    intro first firstInside second secondInside firstKey secondKey
    exact List.inj_on_of_nodup_map distinct firstInside secondInside
      ((beq_iff_eq.mp firstKey).trans (beq_iff_eq.mp secondKey).symm)
  rw [member?, Option.map_eq_some_iff]
  constructor
  · rintro ⟨⟨other, _⟩, found, rfl⟩
    obtain ⟨inside, same⟩ := (find?_eq_some_iff_of_unique unique).mp found
    cases beq_iff_eq.mp same
    exact inside
  · intro inside
    exact ⟨_, (find?_eq_some_iff_of_unique unique).mpr ⟨inside, beq_self_eq_true key⟩, rfl⟩

/-- Nothing is found under a key that is not written. -/
theorem Value.member?_eq_none {members : List (String × Value)} {key : String} :
    (object members).member? key = none ↔ key ∉ members.map Prod.fst := by
  simp only [member?, Option.map_eq_none_iff, List.find?_eq_none, beq_iff_eq, List.mem_map,
    not_exists, not_and]

/-- Members with distinct keys are found wherever they stand. -/
theorem Value.member?_perm {members others : List (String × Value)}
    (distinct : (members.map Prod.fst).Nodup) (same : members.Perm others) (key : String) :
    (object members).member? key = (object others).member? key := by
  apply Option.ext
  intro value
  rw [member?_eq_some distinct, same.mem_iff,
    member?_eq_some ((same.map Prod.fst).nodup_iff.mp distinct)]

mutual

/-- All objects of a value, at any depth, have each key once. -/
def Value.keysOnce : Value → Bool
  | .array items => Value.allOnce items
  | .object members => decide (members.map Prod.fst).Nodup && Value.membersOnce members
  | _ => true

def Value.allOnce : List Value → Bool
  | [] => true
  | item :: rest => Value.keysOnce item && Value.allOnce rest

def Value.membersOnce : List (String × Value) → Bool
  | [] => true
  | (_, value) :: rest => Value.keysOnce value && Value.membersOnce rest

end

theorem Value.membersOnce_eq_true {members : List (String × Value)} :
    membersOnce members = true ↔ ∀ member ∈ members, member.2.keysOnce = true := by
  induction members with
  | nil => simp [membersOnce]
  | cons member rest ih => simp [membersOnce, ih]

/-- An object has each key once when its keys are distinct and so are those of its members. -/
theorem Value.keysOnce_object {members : List (String × Value)} :
    (object members).keysOnce = true ↔
      (members.map Prod.fst).Nodup ∧ ∀ member ∈ members, member.2.keysOnce = true := by
  rw [keysOnce, Bool.and_eq_true, decide_eq_true_eq, membersOnce_eq_true]

/-- Every member of a value has each key once when the value does. -/
theorem Value.keysOnce_member? {value member : Value} {key : String} (once : value.keysOnce = true)
    (found : value.member? key = some member) : member.keysOnce = true := by
  cases value with
  | object members =>
      obtain ⟨entry, given, rfl⟩ := Option.map_eq_some_iff.mp found
      exact (keysOnce_object.mp once).2 entry (List.mem_of_find?_eq_some given)
  | _ => cases found

mutual

/-- Reading a document merges the members of every object. -/
theorem Tree.keysOnce_value? {room : Nat} {tree : Tree} {value : Value}
    (read : Tree.value? room tree = some value) : value.keysOnce = true := by
  cases tree with
  | null =>
      cases read
      rfl
  | truth value =>
      cases read
      rfl
  | number numeral =>
      obtain ⟨number, -, rfl⟩ := Option.map_eq_some_iff.mp read
      rfl
  | text glyphs =>
      obtain ⟨text, -, rfl⟩ := Option.map_eq_some_iff.mp read
      rfl
  | array items =>
      cases room with
      | zero => cases read
      | succ room =>
          obtain ⟨values, each, rfl⟩ := Option.map_eq_some_iff.mp read
          exact Tree.allOnce_items? each
  | object members =>
      cases room with
      | zero => cases read
      | succ room =>
          obtain ⟨values, each, rfl⟩ := Option.map_eq_some_iff.mp read
          refine Value.keysOnce_object.mpr ⟨nodup_mergeMembers values, ?_⟩
          intro member inside
          exact Value.membersOnce_eq_true.mp (Tree.membersOnce_members? each) member
            (mem_of_mem_mergeMembers inside)

theorem Tree.allOnce_items? {room : Nat} {items : List Tree} {values : List Value}
    (read : Tree.items? room items = some values) : Value.allOnce values = true := by
  cases items with
  | nil =>
      cases read
      rfl
  | cons item rest =>
      obtain ⟨value, first, others⟩ := Option.bind_eq_some_iff.mp read
      obtain ⟨tail, later, made⟩ := Option.bind_eq_some_iff.mp others
      cases made
      rw [Value.allOnce, Tree.keysOnce_value? first, Tree.allOnce_items? later]
      rfl

theorem Tree.membersOnce_members? {room : Nat} {members : List (List Glyph × Tree)}
    {values : List (String × Value)} (read : Tree.members? room members = some values) :
    Value.membersOnce values = true := by
  cases members with
  | nil =>
      cases read
      rfl
  | cons member rest =>
      obtain ⟨key, -, keyed⟩ := Option.bind_eq_some_iff.mp read
      obtain ⟨value, first, others⟩ := Option.bind_eq_some_iff.mp keyed
      obtain ⟨tail, later, made⟩ := Option.bind_eq_some_iff.mp others
      cases made
      rw [Value.membersOnce, Tree.keysOnce_value? first, Tree.membersOnce_members? later]
      rfl

end

/-- So no document has an object with a key twice. -/
theorem Value.keysOnce_ofText? {document : String} {value : Value}
    (read : ofText? document = some value) : value.keysOnce = true := by
  obtain ⟨tree, -, made⟩ := Option.bind_eq_some_iff.mp read
  exact Tree.keysOnce_value? made

end GasReport.Json
