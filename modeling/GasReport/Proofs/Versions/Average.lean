import GasReport.Proofs.Versions.Regressions

namespace GasReport

open Record

namespace MethodRow

/-- Both versions measured the function, and the reference is not free. -/
def isRelative (row : MethodRow) : Bool := row.isCompared && !row.isFree

/-- This is the difference of the gas that a row shows. -/
def Differs (row : MethodRow) (difference : Percentage) : Prop :=
  ∃ gas base, row.candidate = some gas ∧ row.reference = some base ∧
    difference? gas base = some difference

/-- The difference of the row was made from its gas. -/
def IsMade (row : MethodRow) : Prop := row = .ofGas row.name row.candidate row.reference

/-- A row is relative when both amounts are known and the reference is not free. -/
theorem isRelative_iff {row : MethodRow} :
    row.isRelative = true ↔ ∃ gas base, row.candidate = some gas ∧ row.reference = some base ∧
      (base == 0.0) = false := by
  rw [isRelative, isCompared, isFree]
  cases row.candidate with
  | none => simp
  | some gas => cases row.reference <;> simp

/-- A row has a difference exactly when it is relative. -/
theorem IsMade.isSome_difference {row : MethodRow} (made : row.IsMade) :
    row.difference.isSome = row.isRelative := by
  rw [Bool.eq_iff_iff, isRelative_iff, made]
  exact isSome_difference_ofGas _ _ _

theorem IsMade.differs {row : MethodRow} (made : row.IsMade) {difference : Percentage}
    (found : row.difference = some difference) : row.Differs difference := by
  have relative : row.isRelative = true := by
    rw [← made.isSome_difference, found]
    rfl
  obtain ⟨gas, base, candidate, reference, -⟩ := isRelative_iff.mp relative
  refine ⟨gas, base, candidate, reference, ?_⟩
  rw [← found, made]
  exact (difference_ofGas _ candidate reference).symm

end MethodRow

/-- This says what the average of some rows is. Of the compared rows, those with a free reference
are left out, and it covers all compared rows when there is none of them. -/
structure PairStatistics.Averages (statistics : PairStatistics) (rows : List MethodRow) : Prop where
  compared : rows.countP MethodRow.isRelative +
    rows.countP (fun row => row.isCompared && row.isFree) = statistics.compared
  present : statistics.average.isSome ↔ 0 < rows.countP MethodRow.isRelative
  mean : ∀ average, statistics.average = some average → ∃ differences : List Percentage,
    List.Forall₂ MethodRow.Differs (rows.filter MethodRow.isRelative) differences ∧
    average = .round ((differences.map Percentage.value).foldl (· + ·) 0.0 /
      Decimal.ofNat false differences.length)
  covers : (∀ row ∈ rows, row.isCompared = true → row.isFree = false) →
    rows.countP MethodRow.isRelative = statistics.compared ∧
      (statistics.average.isSome ↔ 0 < statistics.compared)

/-- The mean is the rounded sum over the number of percentages. -/
theorem Percentage.mean?_eq_some {percentages : List Percentage} {average : Percentage} :
    mean? percentages = some average ↔ percentages ≠ [] ∧
      average = .round ((percentages.map value).foldl (· + ·) 0.0 /
        Decimal.ofNat false percentages.length) := by
  rw [mean?, List.foldl_map]
  cases percentages with
  | nil => simp
  | cons first rest => simp [eq_comm]

theorem Percentage.isSome_mean? (percentages : List Percentage) :
    (mean? percentages).isSome ↔ 0 < percentages.length := by
  cases percentages <;> simp [mean?]

/-- The statistics of rows average their differences. -/
theorem PairStatistics.averages_ofRows (total : Nat) {rows : List MethodRow}
    (made : ∀ row ∈ rows, row.IsMade) : (ofRows total rows).Averages rows := by
  have described : List.Forall₂ MethodRow.Differs (rows.filter MethodRow.isRelative)
      (rows.filterMap MethodRow.difference) := by
    have relative : rows.filter MethodRow.isRelative = rows.filter (·.difference.isSome) :=
      List.filter_congr fun row inside => (made row inside).isSome_difference.symm
    have madeRelative : ∀ row ∈ rows.filter (·.difference.isSome), row.IsMade :=
      fun row inside => made row (List.mem_filter.mp inside).1
    rw [relative]
    refine ((List.forall₂_and_left _ _).mpr
      ⟨madeRelative, forall₂_filterMap MethodRow.difference rows⟩).imp ?_
    rintro row difference ⟨rowMade, found⟩
    exact rowMade.differs found
  have count : (rows.filterMap MethodRow.difference).length = rows.countP MethodRow.isRelative := by
    rw [← described.length_eq, List.countP_eq_length_filter]
  have divided : rows.countP MethodRow.isRelative +
      rows.countP (fun row => row.isCompared && row.isFree) = rows.countP MethodRow.isCompared :=
    countP_and_not_add _ _ _
  have present : (ofRows total rows).average.isSome ↔ 0 < rows.countP MethodRow.isRelative := by
    rw [← count]
    exact Percentage.isSome_mean? _
  constructor
  case compared => exact divided
  case present => exact present
  case mean =>
    intro average found
    exact ⟨_, described, (Percentage.mean?_eq_some.mp found).2⟩
  case covers =>
    intro charged
    have none : rows.countP (fun row => row.isCompared && row.isFree) = 0 := by
      rw [List.countP_eq_zero]
      intro row inside
      cases both : row.isCompared with
      | false => simp
      | true => simp [charged row inside both]
    rw [none, Nat.add_zero] at divided
    exact ⟨divided, present.trans (by rw [divided]; rfl)⟩

/-- Every row of a report is made from two amounts. -/
theorem isMade_of_mem_methodRows {report : ContractReport} {pair : VersionPair} {row : MethodRow}
    (inside : row ∈ report.methodRows pair) : row.IsMade := by
  obtain ⟨function, -, rfl⟩ := List.mem_map.mp inside
  rfl

/-- The averages of contracts and of the summary cover the compared rows whose reference is not
free. -/
theorem average_of_charged :
    (∀ (report : ContractReport) (pair : VersionPair),
      (report.pairStatistics pair).Averages (report.methodRows pair)) ∧
    ∀ (reports : List ContractReport) (select : ContractReport → VersionPair),
      (Summary.ofReports reports select).statistics.Averages
        (reports.flatMap fun report => report.methodRows (select report)) := by
  constructor
  · intro report pair
    exact PairStatistics.averages_ofRows _ fun row inside => isMade_of_mem_methodRows inside
  · intro reports select
    rw [← Summary.map_rows]
    apply PairStatistics.averages_ofRows
    rw [Summary.map_rows]
    intro row inside
    obtain ⟨report, -, listed⟩ := List.mem_flatMap.mp inside
    exact isMade_of_mem_methodRows listed

/-- All compared functions of one contract are free with the reference, and some of another. -/
def freeReferences : List Json.Value × List Json.Value :=
  ([measurementValue "solc" "0.8.30" "Token" [("f()", 0)],
    measurementValue "solc" "0.8.30" "Vault" [("open()", 0), ("close()", 20)]],
   [measurementValue "solx" "0.1.0" "Token" [("f()", 90)],
    measurementValue "solx" "0.1.0" "Vault" [("open()", 65), ("close()", 15)]])

/-- Functions may be compared without an average, or with an average that leaves some of them out.
-/
theorem not_average_of_compared_freeReferences :
    ∃ reports, compareRecords ⟨false⟩ (ingest .standard freeReferences.1)
        (ingest .standard freeReferences.2) = .ok reports ∧
      reports.map (fun report => (report.contract,
        (report.pairStatistics report.defaultPair).compared,
        (report.methodRows report.defaultPair).countP (·.difference.isSome),
        (report.pairStatistics report.defaultPair).average.isSome)) =
        [("Token", 1, 0, false), ("Vault", 2, 1, true)] ∧
      ¬ ∀ report ∈ reports, ∀ pair, (report.pairStatistics pair).average.isSome ↔
        0 < (report.pairStatistics pair).compared := by
  have referenceGiven : ingest .standard freeReferences.1 ≠ [] :=
    List.ne_nil_of_length_pos (by decide +kernel)
  have candidateGiven : ingest .standard freeReferences.2 ≠ [] :=
    List.ne_nil_of_length_pos (by decide +kernel)
  have figures : ((contracts (ingest .standard freeReferences.1 ++
      ingest .standard freeReferences.2)).filterMap (reportOf? ⟨false⟩
        (ingest .standard freeReferences.1 ++ ingest .standard freeReferences.2))).map
          (fun report => (report.contract, (report.pairStatistics report.defaultPair).compared,
            (report.methodRows report.defaultPair).countP (·.difference.isSome),
            (report.pairStatistics report.defaultPair).average.isSome)) =
        [("Token", 1, 0, false), ("Vault", 2, 1, true)] := by
    decide +kernel
  refine ⟨_, compareRecords_eq ⟨false⟩ referenceGiven candidateGiven, figures, ?_⟩
  intro claimed
  have token : ("Token", 1, 0, false) ∈ [("Token", 1, 0, false), ("Vault", 2, 1, true)] :=
    List.mem_cons_self
  rw [← figures] at token
  obtain ⟨report, inside, same⟩ := List.mem_map.mp token
  simp only [Prod.mk.injEq] at same
  obtain ⟨-, one, -, absent⟩ := same
  have present := (claimed report inside report.defaultPair).mpr (by rw [one]; exact Nat.one_pos)
  rw [absent] at present
  cases present

end GasReport
