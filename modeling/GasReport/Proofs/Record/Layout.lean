import GasReport.Proofs.Json.Members
import GasReport.Proofs.Record.Reading
import Mathlib.Data.List.Pairwise

/-!
Structures that are read from objects. A structure is made of its fields, so that reading it member
by member is the same as reading each field on its own. Main statement: an object is read when no
field is given twice and the value of each field is read, wherever it stands.
-/

namespace GasReport.Record

open Json (Value)

/-- A field that is not there is read like a null. -/
def present {A : Type} (read : Value → Except ShapeError A) :
    Option Value → Except ShapeError (Option A)
  | none => .ok none
  | some value => optional read value

section

variable {A : Type} {read : Value → Except ShapeError A}

theorem optional_eq {value : Value} (given : value ≠ .null) :
    optional read value = (read value).map some := by
  cases value with
  | null => exact absurd rfl given
  | _ => rfl

/-- What is null counts as absent. -/
theorem present_eq_none {field : Option Value} :
    present read field = .ok none ↔ field = none ∨ field = some .null := by
  cases field with
  | none => exact ⟨fun _ => .inl rfl, fun _ => rfl⟩
  | some value =>
      by_cases empty : value = .null
      · subst empty
        exact ⟨fun _ => .inr rfl, fun _ => rfl⟩
      · rw [present, optional_eq empty, map_eq_ok]
        constructor
        · rintro ⟨content, -, same⟩
          cases same
        · rintro (missing | null)
          · cases missing
          · exact absurd (Option.some.inj null) empty

/-- Readers do not take a null, so what is read was given. -/
theorem present_eq_some (refused : ∀ content, read .null ≠ .ok content) {field : Option Value}
    {content : A} :
    present read field = .ok (some content) ↔
      ∃ value, field = some value ∧ read value = .ok content := by
  cases field with
  | none =>
      constructor
      · intro missing
        cases missing
      · rintro ⟨value, missing, -⟩
        cases missing
  | some value =>
      by_cases empty : value = .null
      · subst empty
        constructor
        · intro missing
          cases missing
        · rintro ⟨_, same, done⟩
          cases same
          exact absurd done (refused content)
      · rw [present, optional_eq empty, map_eq_ok]
        constructor
        · rintro ⟨_, done, same⟩
          cases same
          exact ⟨value, rfl, done⟩
        · rintro ⟨_, same, done⟩
          cases same
          exact ⟨content, done, rfl⟩

end

variable {F S : Type}

namespace Layout

/-- These fields are given, in the order of the members. -/
def given (layout : Layout F S) (members : List (String × Value)) : List F :=
  members.filterMap fun member => layout.ofKey? member.1

/-- A member with an unknown key gives no field. -/
theorem given_cons_unknown (layout : Layout F S) {key : String} {value : Value}
    {rest : List (String × Value)} (unknown : layout.ofKey? key = none) :
    layout.given ((key, value) :: rest) = layout.given rest :=
  List.filterMap_cons_none unknown

/-- A member with a known key gives its field. -/
theorem given_cons_known (layout : Layout F S) {key : String} {value : Value}
    {rest : List (String × Value)} {field : F} (known : layout.ofKey? key = some field) :
    layout.given ((key, value) :: rest) = field :: layout.given rest :=
  List.filterMap_cons_some known

/-- Each field has one key. -/
def Named (layout : Layout F S) : Prop :=
  ∀ key field, layout.ofKey? key = some field ↔ key = layout.name field

/-- Distinct keys give distinct fields when each field has one key. -/
theorem Named.nodup_given {layout : Layout F S} (named : layout.Named)
    {members : List (String × Value)} (distinct : (members.map Prod.fst).Nodup) :
    (layout.given members).Nodup := by
  have keys : layout.given members = (members.map Prod.fst).filterMap layout.ofKey? := by
    rw [given, List.filterMap_map]
    rfl
  rw [keys]
  refine distinct.filterMap ?_
  intro first second field firstKnown secondKnown
  exact ((named first field).mp firstKnown).trans ((named second field).mp secondKnown).symm

/-- A field that is given once has one member. -/
theorem eq_of_nodup_given {layout : Layout F S} {members : List (String × Value)}
    (distinct : (layout.given members).Nodup) {first second : String × Value}
    (firstInside : first ∈ members) (secondInside : second ∈ members) {field : F}
    (firstKnown : layout.ofKey? first.1 = some field)
    (secondKnown : layout.ofKey? second.1 = some field) : first = second := by
  rw [given, List.Nodup, List.pairwise_filterMap] at distinct
  by_contra different
  have symmetric : Std.Symm fun left right : String × Value =>
      ∀ one, layout.ofKey? left.1 = some one → ∀ other, layout.ofKey? right.1 = some other →
        one ≠ other :=
    ⟨fun _ _ apart one oneKnown other otherKnown => (apart other otherKnown one oneKnown).symm⟩
  exact distinct.forall firstInside secondInside different field firstKnown field secondKnown rfl

variable [DecidableEq F]

/-- A new field that comes last is stored in what the other members gave. -/
theorem readMembers_concat {layout : Layout F S} {key : String} {field : F}
    (known : layout.ofKey? key = some field) (value : Value) {seen : List F} (unseen : field ∉ seen)
    {members : List (String × Value)} (new : field ∉ layout.given members) (state : S) :
    layout.readMembers seen state (members ++ [(key, value)]) =
      layout.readMembers seen state members >>= fun before => layout.store field value before := by
  induction members generalizing seen state with
  | nil =>
      change layout.readMembers seen state [(key, value)] = layout.store field value state
      simp only [readMembers, known, if_neg unseen]
      cases layout.store field value state <;> rfl
  | cons member rest ih =>
      obtain ⟨other, content⟩ := member
      rw [List.cons_append, readMembers, readMembers]
      cases found : layout.ofKey? other with
      | none =>
          rw [layout.given_cons_unknown found] at new
          exact ih unseen new state
      | some earlier =>
          rw [layout.given_cons_known found, List.mem_cons, not_or] at new
          change (if earlier ∈ seen then _ else _) = (if earlier ∈ seen then _ else _) >>= _
          by_cases again : earlier ∈ seen
          · rw [if_pos again, if_pos again]
            rfl
          · rw [if_neg again, if_neg again]
            cases layout.store earlier content state with
            | error cause => rfl
            | ok next => exact ih (List.not_mem_cons_of_ne_of_not_mem new.1 unseen) new.2 next

/-- This is the first value that is given for a field, under any of its keys. -/
def value? (layout : Layout F S) (field : F) (members : List (String × Value)) : Option Value :=
  (members.find? fun member => layout.ofKey? member.1 = some field).map (·.2)

theorem value?_cons (layout : Layout F S) {key : String} {value : Value}
    {rest : List (String × Value)} (field : F) :
    layout.value? field ((key, value) :: rest) =
      if layout.ofKey? key = some field then some value else layout.value? field rest := by
  rw [value?, List.find?_cons]
  split
  · rename_i known
    rw [if_pos (of_decide_eq_true known)]
    rfl
  · rename_i other
    rw [if_neg (of_decide_eq_false other)]
    rfl

/-- A field has no value when it is not given. -/
theorem value?_eq_none (layout : Layout F S) {field : F} {members : List (String × Value)} :
    layout.value? field members = none ↔ field ∉ layout.given members := by
  simp only [value?, given, Option.map_eq_none_iff, List.find?_eq_none, decide_eq_true_eq,
    List.mem_filterMap, not_exists, not_and]

/-- A field that is given once has the value of its member, wherever it stands. -/
theorem value?_eq_some {layout : Layout F S} {members : List (String × Value)}
    (distinct : (layout.given members).Nodup) {field : F} {value : Value} :
    layout.value? field members = some value ↔
      ∃ key, layout.ofKey? key = some field ∧ (key, value) ∈ members := by
  have unique : ∀ first ∈ members, ∀ second ∈ members,
      decide (layout.ofKey? first.1 = some field) = true →
        decide (layout.ofKey? second.1 = some field) = true → first = second := by
    intro first firstInside second secondInside firstKnown secondKnown
    exact eq_of_nodup_given distinct firstInside secondInside (of_decide_eq_true firstKnown)
      (of_decide_eq_true secondKnown)
  rw [value?, Option.map_eq_some_iff]
  constructor
  · rintro ⟨⟨key, _⟩, found, rfl⟩
    obtain ⟨inside, known⟩ := (Json.find?_eq_some_iff_of_unique unique).mp found
    exact ⟨key, of_decide_eq_true known, inside⟩
  · rintro ⟨key, known, inside⟩
    exact ⟨_, (Json.find?_eq_some_iff_of_unique unique).mpr ⟨inside, decide_eq_true known⟩, rfl⟩

/-- This says that a structure is made of its fields: each is read on its own, and what is stored in
one field leaves the others. -/
structure Parts (layout : Layout F S) where
  Content : F → Type
  get : (field : F) → S → Option (Content field)
  set : (field : F) → Option (Content field) → S → S
  read : (field : F) → Value → Except ShapeError (Content field)
  get_set : ∀ field content state, get field (set field content state) = content
  get_set_of_ne : ∀ field content state other, other ≠ field →
    get other (set field content state) = get other state
  ext : ∀ first second, (∀ field, get field first = get field second) → first = second
  store_eq : ∀ field value state, layout.store field value state =
    (optional (read field) value).map fun content => set field content state

namespace Parts

variable {layout : Layout F S} (parts : layout.Parts)

/-- The field holds what its member gives, and else what it held before. -/
def Holds (before after : S) (members : List (String × Value)) (field : F) : Prop :=
  match layout.value? field members with
  | none => parts.get field after = parts.get field before
  | some value => optional (parts.read field) value = .ok (parts.get field after)

theorem holds_cons_known {key : String} {value : Value} {rest : List (String × Value)} {field : F}
    (known : layout.ofKey? key = some field) {content : Option (parts.Content field)}
    {before after : S}
    (stored : optional (parts.read field) value = .ok content) (new : field ∉ layout.given rest) :
    (∀ other, parts.Holds before after ((key, value) :: rest) other) ↔
      ∀ other, parts.Holds (parts.set field content before) after rest other := by
  have absent : layout.value? field rest = none := layout.value?_eq_none.mpr new
  refine forall_congr' fun other => ?_
  rw [Holds, Holds, layout.value?_cons]
  by_cases same : other = field
  · subst same
    rw [if_pos known, absent]
    change _ = _ ↔ _ = _
    rw [parts.get_set, stored, Except.ok.injEq]
    exact eq_comm
  · have unknown : ¬ layout.ofKey? key = some other := by
      rw [known, Option.some.injEq]
      exact Ne.symm same
    rw [if_neg unknown, parts.get_set_of_ne _ _ _ _ same]

/-- Members are read one after the other, and each field once. -/
theorem readMembers_eq_ok {seen : List F} {before after : S} {members : List (String × Value)} :
    layout.readMembers seen before members = .ok after ↔
      (layout.given members).Nodup ∧ (∀ field ∈ layout.given members, field ∉ seen) ∧
        ∀ field, parts.Holds before after members field := by
  induction members generalizing seen before with
  | nil =>
      constructor
      · intro done
        cases done
        exact ⟨List.nodup_nil, fun _ inside => absurd inside List.not_mem_nil, fun _ => rfl⟩
      · rintro ⟨-, -, holds⟩
        exact congrArg Except.ok (parts.ext _ _ fun field => (holds field).symm)
  | cons member rest ih =>
      obtain ⟨key, value⟩ := member
      rw [readMembers]
      cases known : layout.ofKey? key with
      | none =>
          have passed : ∀ field, parts.Holds before after ((key, value) :: rest) field ↔
              parts.Holds before after rest field := by
            intro field
            rw [Holds, Holds, layout.value?_cons, known, if_neg (Option.some_ne_none _).symm]
          rw [layout.given_cons_unknown known, forall_congr' passed]
          exact ih
      | some field =>
          rw [layout.given_cons_known known, List.nodup_cons, List.forall_mem_cons]
          change (if field ∈ seen then _ else _) = _ ↔ _
          by_cases again : field ∈ seen
          · rw [if_pos again]
            constructor
            · intro refused
              cases refused
            · rintro ⟨-, ⟨new, -⟩, -⟩
              exact absurd again new
          · rw [if_neg again, bind_eq_ok]
            simp only [parts.store_eq, map_eq_ok]
            constructor
            · rintro ⟨_, ⟨content, stored, rfl⟩, others⟩
              obtain ⟨distinct, apart, holds⟩ := ih.mp others
              have new : field ∉ layout.given rest :=
                fun inside => apart field inside List.mem_cons_self
              refine ⟨⟨new, distinct⟩, ⟨again, fun other inside met => ?_⟩,
                (parts.holds_cons_known known stored new).mpr holds⟩
              exact apart other inside (List.mem_cons_of_mem _ met)
            · rintro ⟨⟨new, distinct⟩, ⟨-, apart⟩, holds⟩
              have stored := holds field
              rw [Holds, layout.value?_cons, if_pos known] at stored
              refine ⟨_, ⟨_, stored, rfl⟩, ih.mpr ⟨distinct, fun other inside met => ?_,
                (parts.holds_cons_known known stored new).mp holds⟩⟩
              rcases List.mem_cons.mp met with same | earlier
              · exact new (same ▸ inside)
              · exact apart other inside earlier

omit [DecidableEq F] in
/-- Elements of an array are stored in their own fields and leave the others. -/
theorem get_of_readItems {found : Nat} {before after : S} {fields : List F} {items : List Value}
    (done : layout.readItems found before fields items = .ok after) {field : F}
    (absent : field ∉ fields) : parts.get field after = parts.get field before := by
  induction fields generalizing found before items with
  | nil =>
      cases items with
      | nil => exact congrArg (parts.get field) (Except.ok.inj done).symm
      | cons item rest => cases done
  | cons first fields ih =>
      cases items with
      | nil => cases done
      | cons item rest =>
          rw [List.mem_cons, not_or] at absent
          obtain ⟨next, stored, others⟩ := bind_eq_ok.mp done
          rw [parts.store_eq, map_eq_ok] at stored
          obtain ⟨content, -, rfl⟩ := stored
          rw [ih others absent.2, parts.get_set_of_ne _ _ _ _ absent.1]

/-- An object is read field by field. -/
theorem read_object_eq_ok {start final : S} (empty : ∀ field, parts.get field start = none)
    {members : List (String × Value)} :
    layout.read start (.object members) = .ok final ↔
      (layout.given members).Nodup ∧
        ∀ field, present (parts.read field) (layout.value? field members) =
          .ok (parts.get field final) := by
  have holds_iff : ∀ field, parts.Holds start final members field ↔
      present (parts.read field) (layout.value? field members) = .ok (parts.get field final) := by
    intro field
    rw [Holds]
    cases layout.value? field members with
    | some value => rfl
    | none =>
        change parts.get field final = parts.get field start ↔ Except.ok none = Except.ok _
        rw [empty field, Except.ok.injEq]
        exact eq_comm
  rw [Layout.read, parts.readMembers_eq_ok, forall_congr' holds_iff]
  constructor
  · rintro ⟨distinct, -, holds⟩
    exact ⟨distinct, holds⟩
  · rintro ⟨distinct, holds⟩
    exact ⟨distinct, fun _ _ => List.not_mem_nil, holds⟩

end Parts

/-- A field with one key is found by it. -/
theorem Named.value?_eq {layout : Layout F S} (named : layout.Named) (field : F)
    (members : List (String × Value)) :
    layout.value? field members = (Value.object members).member? (layout.name field) := by
  rw [value?, Value.member?]
  congr 2
  funext member
  rw [decide_eq_decide.mpr (named member.1 field)]
  rfl

end Layout

end GasReport.Record
