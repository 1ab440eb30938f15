import GasReport.Proofs.Collection.Sorting
import GasReport.Proofs.Gas.Difference
import GasReport.Proofs.Versions.Statistics

namespace GasReport

/-- This holds of the gas of every measured function. -/
def Record.EachMean (P : Gas → Prop) (records : List Record) : Prop :=
  ∀ measurement ∈ measurements records, ∀ mean ∈ measurement.functions, P mean.2

instance (P : Gas → Prop) [DecidablePred P] (records : List Record) :
    Decidable (Record.EachMean P records) :=
  inferInstanceAs (Decidable (∀ measurement ∈ Record.measurements records,
    ∀ mean ∈ measurement.functions, P mean.2))

/-- What is made of some entries of a list stands in the order of these entries. -/
theorem forall₂_filterMap {A B : Type} (make : A → Option B) (entries : List A) :
    List.Forall₂ (fun entry made => make entry = some made)
      (entries.filter fun entry => (make entry).isSome) (entries.filterMap make) := by
  induction entries with
  | nil => exact .nil
  | cons entry rest ih =>
      cases found : make entry with
      | none =>
          rw [List.filterMap_cons_none found, List.filter_cons_of_neg (by simp [found])]
          exact ih
      | some made =>
          rw [List.filterMap_cons_some found, List.filter_cons_of_pos (by simp [found])]
          exact .cons found ih

/-- The delta names the function and the contract of a row and has its difference. -/
structure FunctionDelta.Describes (delta : FunctionDelta) (entry : String × MethodRow) : Prop where
  contract : delta.contract = entry.1
  function : delta.function = entry.2.name
  difference : entry.2.difference = some delta.difference

namespace Summary

open FunctionDelta Record

/-- Each entry is described by one delta, and there are no other deltas. -/
def Lists (deltas : List FunctionDelta) (entries : List (String × MethodRow)) : Prop :=
  ∃ ordered, ordered.Perm entries ∧ List.Forall₂ Describes deltas ordered

/-- The deltas are sorted by their values, and entries of equal value are described in their order.
-/
structure Ranks (before : Float → Float → Prop) (deltas : List FunctionDelta)
    (entries : List (String × MethodRow)) : Prop where
  complete : Lists deltas entries
  sorted : deltas.Pairwise fun first second =>
    before first.difference.value second.difference.value
  stable : ∀ value : Float, List.Forall₂ Describes
    (deltas.filter (·.difference.value == value))
    (entries.filter fun entry => entry.2.difference.any (·.value == value))

/-- As many changes are listed as there are entries. -/
theorem Lists.length_eq {deltas : List FunctionDelta} {entries : List (String × MethodRow)}
    (lists : Lists deltas entries) : deltas.length = entries.length := by
  obtain ⟨ordered, same, described⟩ := lists
  rw [described.length_eq, same.length_eq]

/-! The rows of all contracts. -/

variable {reports : List ContractReport} {select : ContractReport → VersionPair}
  {entry : String × MethodRow}

/-- A row belongs to a function of a report. -/
theorem exists_of_mem_rows (inside : entry ∈ rows reports select) :
    ∃ report ∈ reports, ∃ function ∈ report.results, entry = (report.contract,
      .ofGas function.name (function.gas? .solx (select report).candidate)
        (function.gas? .solc (select report).reference)) := by
  obtain ⟨report, given, listed⟩ := List.mem_flatMap.mp inside
  obtain ⟨row, found, rfl⟩ := List.mem_map.mp listed
  obtain ⟨function, measured, rfl⟩ := List.mem_map.mp found
  exact ⟨report, given, function, measured, rfl⟩

theorem difference_of_mem_rows (inside : entry ∈ rows reports select) {gas base : Gas}
    (candidate : entry.2.candidate = some gas) (reference : entry.2.reference = some base) :
    entry.2.difference = difference? gas base := by
  obtain ⟨report, -, function, -, rfl⟩ := exists_of_mem_rows inside
  exact MethodRow.difference_ofGas _ candidate reference

/-- The difference of a row is that of its two amounts. -/
theorem exists_of_difference (inside : entry ∈ rows reports select) {difference : Percentage}
    (found : entry.2.difference = some difference) :
    ∃ gas base, entry.2.candidate = some gas ∧ entry.2.reference = some base ∧
      difference? gas base = some difference := by
  obtain ⟨gas, base, candidate, reference⟩ :
      ∃ gas base, entry.2.candidate = some gas ∧ entry.2.reference = some base := by
    obtain ⟨report, -, function, -, rfl⟩ := exists_of_mem_rows inside
    have present := Option.isSome_iff_exists.mpr ⟨difference, found⟩
    obtain ⟨gas, base, candidate, reference, -⟩ :=
      (MethodRow.isSome_difference_ofGas _ _ _).mp present
    exact ⟨gas, base, candidate, reference⟩
  have related := difference_of_mem_rows inside candidate reference
  exact ⟨gas, base, candidate, reference, related.symm.trans found⟩

/-- What holds of all measured gas holds of the gas of the rows. -/
theorem gas_of_mem_rows {options : ComparisonOptions} {reference candidate : List Record}
    {P : Gas → Prop} (compared : compareRecords options reference candidate = .ok reports)
    (all : EachMean P (reference ++ candidate))
    (inside : entry ∈ rows reports select) {gas : Gas}
    (found : entry.2.candidate = some gas ∨ entry.2.reference = some gas) : P gas := by
  obtain ⟨report, given, function, listed, rfl⟩ := exists_of_mem_rows inside
  obtain ⟨first, made⟩ := exists_madeFrom compared given
  have measured : ∃ measurement ∈ measurements (reference ++ candidate),
      ∃ mean ∈ measurement.functions, mean.2 = gas := by
    rcases found with paid | paid
    · exact made.exists_measured listed paid
    · exact made.exists_measured listed paid
  obtain ⟨measurement, recorded, mean, called, rfl⟩ := measured
  exact all measurement recorded mean called

/-- Finite amounts have proper differences. -/
theorem proper_of_mem_rows {options : ComparisonOptions} {reference candidate : List Record}
    (finite : EachMean (·.isFinite = true) (reference ++ candidate))
    (compared : compareRecords options reference candidate = .ok reports)
    (inside : entry ∈ rows reports select) {difference : Percentage}
    (found : entry.2.difference = some difference) : difference.Proper := by
  obtain ⟨gas, base, paid, based, related⟩ := exists_of_difference inside found
  have gasFinite := gas_of_mem_rows compared finite inside (Or.inl paid)
  have baseFinite := gas_of_mem_rows compared finite inside (Or.inr based)
  exact proper_of_difference? gasFinite baseFinite related

/-! The deltas of these rows. -/

/-- The differences of finite gas are proper. -/
theorem proper_deltas {options : ComparisonOptions} {reference candidate : List Record}
    (finite : EachMean (·.isFinite = true) (reference ++ candidate))
    (compared : compareRecords options reference candidate = .ok reports)
    (changed : MethodRow → Bool) :
    ∀ delta ∈ deltas changed (rows reports select), delta.difference.Proper := by
  intro delta inside
  obtain ⟨entry, kept, made⟩ := List.mem_filterMap.mp inside
  rw [delta?, Option.map_eq_some_iff] at made
  obtain ⟨difference, found, rfl⟩ := made
  exact proper_of_mem_rows finite compared (List.mem_filter.mp kept).1 found

/-- Only entries with a difference are described. -/
theorem forall₂_filterMap_delta? (entries : List (String × MethodRow)) :
    List.Forall₂ Describes (entries.filterMap delta?)
      (entries.filter (·.2.difference.isSome)) := by
  have kept : (fun entry => (delta? entry).isSome) = fun entry => entry.2.difference.isSome := by
    funext entry
    rw [delta?, Option.isSome_map]
  rw [← kept]
  apply List.Forall₂.flip
  refine (forall₂_filterMap delta? entries).imp ?_
  intro entry delta made
  rw [delta?, Option.map_eq_some_iff] at made
  obtain ⟨difference, found, rfl⟩ := made
  exact ⟨rfl, rfl, found⟩

theorem forall₂_filter_value {deltas : List FunctionDelta} {entries : List (String × MethodRow)}
    (described : List.Forall₂ Describes deltas entries) (value : Float) :
    List.Forall₂ Describes (deltas.filter (·.difference.value == value))
      (entries.filter fun entry => entry.2.difference.any (·.value == value)) := by
  apply List.rel_filter ?_ described
  intro delta entry same
  simp only [same.difference, Option.any_some]

/-- Sorting loses nothing and adds nothing. -/
theorem lists_mergeSort {deltas : List FunctionDelta} {entries : List (String × MethodRow)}
    (described : List.Forall₂ Describes deltas entries)
    (before : FunctionDelta → FunctionDelta → Bool) : Lists (deltas.mergeSort before) entries := by
  obtain ⟨ordered, each, same⟩ :=
    List.perm_comp_forall₂ (List.mergeSort_perm deltas before) described
  exact ⟨ordered, same, each⟩

/-- Deltas that are sorted by a key are ranked if the key goes by the order of the differences. -/
theorem ranks_mergeSort {K : Type} [LinearOrder K] (key : Percentage → K)
    {before : Float → Float → Prop} {deltas : List FunctionDelta}
    {entries : List (String × MethodRow)} (described : List.Forall₂ Describes deltas entries)
    (proper : ∀ delta ∈ deltas, delta.difference.Proper)
    (agrees : ∀ {first second : Percentage}, first.Proper → second.Proper → key first ≤ key second →
      before first.value second.value)
    (level : ∀ {first second : Percentage}, first.order = second.order → key first = key second) :
    Ranks before
      (deltas.mergeSort fun first second => key first.difference ≤ key second.difference)
      entries where
  complete := lists_mergeSort described _
  sorted := by
    have sorted := pairwise_mergeSort_key (fun delta : FunctionDelta => key delta.difference) deltas
    apply sorted.imp_of_mem
    intro first second firstInside secondInside least
    have firstProper := proper first (List.mem_mergeSort.mp firstInside)
    have secondProper := proper second (List.mem_mergeSort.mp secondInside)
    exact agrees firstProper secondProper least
  stable value := by
    have level : ∀ first ∈ deltas, ∀ second ∈ deltas, (first.difference.value == value) = true →
        (second.difference.value == value) = true →
        key first.difference = key second.difference := by
      intro first firstInside second secondInside firstValue secondValue
      apply level
      exact Percentage.order_eq_of_beq (proper first firstInside) (proper second secondInside)
        firstValue secondValue
    rw [filter_mergeSort_key (fun delta : FunctionDelta => key delta.difference) _ level]
    exact forall₂_filter_value described value

/-- Improvements are ranked from the lowest difference up. -/
theorem ranks_mostImprovedFirst {deltas : List FunctionDelta}
    {entries : List (String × MethodRow)} (described : List.Forall₂ Describes deltas entries)
    (proper : ∀ delta ∈ deltas, delta.difference.Proper) :
    Ranks (· ≤ ·) (mostImprovedFirst deltas) entries := by
  apply ranks_mergeSort Percentage.order described proper
  · intro first second firstProper secondProper least
    exact (Percentage.le_iff_order_le firstProper secondProper).mpr least
  · exact id

/-- Regressions are ranked from the highest difference down. -/
theorem ranks_mostRegressedFirst {deltas : List FunctionDelta}
    {entries : List (String × MethodRow)} (described : List.Forall₂ Describes deltas entries)
    (proper : ∀ delta ∈ deltas, delta.difference.Proper) :
    Ranks (· ≥ ·) (mostRegressedFirst deltas) entries := by
  apply ranks_mergeSort (fun difference => OrderDual.toDual difference.order) described proper
  · intro first second firstProper secondProper least
    exact (Percentage.le_iff_order_le secondProper firstProper).mpr least
  · intro first second same
    exact congrArg OrderDual.toDual same

end Summary

/-- This is the document of a measurement. -/
def measurementValue (toolchain version contract : String) (functions : List (String × Nat)) :
    Json.Value :=
  .object [("compiler", .object [("type", .text toolchain), ("version", .text version)]),
    ("contract", .text contract), ("deployment", .object [("gas", .count 1000)]),
    ("functions", .object (functions.map fun function =>
      (function.1, .object [("mean", .count function.2)])))]

end GasReport
