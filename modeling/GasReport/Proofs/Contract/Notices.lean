import GasReport.Proofs.Contract.Results
import Mathlib.Data.List.Forall2

namespace GasReport

open Record Measurement

/-- Functions are divided between the results and the notices, and both keep the order of the
functions. A function is skipped when the baseline did not measure it, or measured it without any
gas. -/
inductive Divides (baseline : Build) (measurements : List Measurement) :
    List String → List FunctionComparison → List Notice → Prop
  | nil : Divides baseline measurements [] [] []
  | compared (function : FunctionComparison) {signatures : List String}
      {results : List FunctionComparison} {notices : List Notice}
      (others : Divides baseline measurements signatures results notices) :
      Divides baseline measurements (function.name :: signatures) (function :: results) notices
  | notMeasured {signature : String} {signatures : List String}
      {results : List FunctionComparison} {notices : List Notice}
      (unmeasured : firstMean? baseline.name signature measurements = none)
      (others : Divides baseline measurements signatures results notices) :
      Divides baseline measurements (signature :: signatures) results
        (.skippedFunction signature baseline .notMeasured :: notices)
  | zeroGas {signature : String} {base : Gas} {signatures : List String}
      {results : List FunctionComparison} {notices : List Notice}
      (measured : firstMean? baseline.name signature measurements = some base)
      (zero : (base == 0.0) = true)
      (others : Divides baseline measurements signatures results notices) :
      Divides baseline measurements (signature :: signatures) results
        (.skippedFunction signature baseline .zeroGas :: notices)

/-- The report belongs to the contract and follows its first eligible measurement. The functions
that the contract measures stand in the results or in these notices, in the order of their
discovery. -/
structure ContractReport.AccountsFor (report : ContractReport) (contract : String)
    (measurements : List Measurement) (skipped : List Notice) : Prop where
  named : report.contract = contract
  given : report.measurements = measurements
  based : (eligible measurements).head?.map (·.build) = some report.baseline
  divided : Divides report.baseline measurements (firsts id (signatures measurements))
    report.results skipped

/-- This is what a comparison tells of one contract: its report, if it has one, and its notices. -/
inductive Told (options : ComparisonOptions) (contract : String)
    (measurements : List Measurement) : List ContractReport → List Notice → Prop
  | withoutBaseline (absent : eligible measurements = []) :
      Told options contract measurements [] [.noBaseline contract]
  | refused (strict : options.strictBaseline = true)
      (several : 1 < (eligible measurements).length) :
      Told options contract measurements []
        [.droppedAmbiguous contract (eligible measurements).length]
  | reported {report : ContractReport} {skipped : List Notice}
      (single : (eligible measurements).length = 1)
      (accounts : report.AccountsFor contract measurements skipped) :
      Told options contract measurements [report] skipped
  | chosen {report : ContractReport} {skipped : List Notice}
      (lenient : options.strictBaseline = false) (several : 1 < (eligible measurements).length)
      (accounts : report.AccountsFor contract measurements skipped) :
      Told options contract measurements [report]
        (.ambiguousBaseline contract (eligible measurements).length report.baseline :: skipped)

/-- Reports and notices are what is told of the measured contracts, one contract after the other, in
the order of their first measurements. -/
def Accounts (options : ComparisonOptions) (records : List Record)
    (reports : List ContractReport) (notices : List Notice) : Prop :=
  ∃ parts : List (List ContractReport × List Notice),
    List.Forall₂ (fun contract part =>
      Told options contract (measurementsOf contract records) part.1 part.2)
      (contracts records) parts ∧
    reports = parts.flatMap (·.1) ∧ notices = parts.flatMap (·.2)

/-- The details are the notices of skipped functions. -/
theorem Notice.isDetail_iff (notice : Notice) :
    notice.isDetail = true ↔ "Skipping function".toList <+: notice.message.toList := by
  cases notice with
  | malformedRecord | noBaseline | droppedAmbiguous | ambiguousBaseline =>
      simp only [isDetail, message]
      decide
  | skippedFunction signature baseline reason =>
      cases reason
      all_goals
        simp only [isDetail, message]
        decide

/-- A function is compared, or there is a reason in the gas of the baseline why it is not. -/
theorem FunctionSamples.compare_cases (function : FunctionSamples) (baseline : Build) :
    (∃ result, function.compare baseline = .ok result ∧ result.name = function.signature) ∨
    (function.compare baseline = .error .notMeasured ∧ function.base? baseline = none) ∨
    ∃ base, function.compare baseline = .error .zeroGas ∧
      function.base? baseline = some base ∧ (base == 0.0) = true := by
  rw [compare]
  cases function.base? baseline with
  | none => exact .inr (.inl ⟨rfl, rfl⟩)
  | some base =>
      cases zero : base == 0.0 with
      | true => exact .inr (.inr ⟨base, by simp only [zero, if_true], rfl, zero⟩)
      | false =>
          refine .inl ⟨⟨function.signature,
            (function.samples.filter (retains baseline)).filterMap (relative? base)⟩, ?_, rfl⟩
          simp only [zero, Bool.false_eq_true, if_false]

/-- The functions of a group are divided, whatever the baseline. -/
theorem divides_functions (group : ContractGroup) (baseline : Build) :
    Divides baseline group.measurements (firsts id (signatures group.measurements))
      (ContractReport.results? group baseline) (ContractReport.skipped group baseline) := by
  rw [ContractReport.results?, ContractReport.skipped, ContractGroup.functions_eq]
  -- The division holds for any list of signatures, and it goes on signature by signature.
  generalize firsts id (signatures group.measurements) = listed
  induction listed with
  | nil => exact .nil
  | cons signature rest ih =>
      have base := base?_samples group baseline signature
      rw [List.map_cons, List.filterMap_cons, List.filterMap_cons]
      rcases FunctionSamples.compare_cases ⟨signature, (means signature group.measurements).map
        fun mean => group.sample mean.1 mean.2⟩ baseline with
        ⟨result, compared, named⟩ | ⟨skipped, unmeasured⟩ | ⟨gas, skipped, measured, zero⟩
      · rw [compared]
        change result.name = signature at named
        exact named ▸ .compared result ih
      · rw [skipped]
        exact .notMeasured (base.symm.trans unmeasured) ih
      · rw [skipped]
        exact .zeroGas (base.symm.trans measured) zero ih

/-- One eligible measurement, or the first of several, makes a report that accounts for the group.
-/
theorem accountsFor_ofGroup (group : ContractGroup) {first : Measurement}
    {rest : List Measurement} (selected : eligible group.measurements = first :: rest)
    (count : Nat) :
    (ContractReport.ofGroup group ⟨first, count⟩).AccountsFor group.contract group.measurements
      (ContractReport.skipped group first.build) where
  named := rfl
  given := rfl
  based := by
    rw [selected]
    rfl
  divided := divides_functions group first.build

/-- The verdict on a group tells of its contract. -/
theorem told_ofGroup (options : ComparisonOptions) (group : ContractGroup) :
    Told options group.contract group.measurements
      (Verdict.ofGroup options group).report?.toList
      (Verdict.ofGroup options group).notices := by
  rw [Verdict.ofGroup, Baseline.select?_eq]
  cases selected : eligible group.measurements with
  | nil => exact .withoutBaseline selected
  | cons first rest =>
      have accounts := accountsFor_ofGroup group selected (first :: rest).length
      have count := congrArg List.length selected
      cases rest with
      | nil => exact .reported count accounts
      | cons second others =>
          have several : 1 < (first :: second :: others).length := by
            rw [List.length_cons, List.length_cons]
            omega
          have ambiguous :
              Baseline.isAmbiguous ⟨first, (first :: second :: others).length⟩ = true :=
            decide_eq_true several
          rw [← count] at several
          dsimp only [List.head?_cons, Option.map_some]
          cases strict : options.strictBaseline with
          | true =>
              have refused : Told options group.contract group.measurements [] _ :=
                .refused strict several
              rw [ambiguous, Bool.and_true, if_pos rfl, ← count]
              exact refused
          | false =>
              have chosen := Told.chosen strict several accounts
              rw [ambiguous, Bool.and_false, if_neg Bool.false_ne_true, if_pos rfl, ← count]
              rw [← count] at chosen
              exact chosen

/-- A comparison accounts for every contract that it was given. -/
theorem accounts_verdicts (options : ComparisonOptions) (reference candidate : List Record) :
    Accounts options (reference ++ candidate)
      ((verdicts options reference candidate).filterMap Verdict.report?)
      ((verdicts options reference candidate).flatMap Verdict.notices) := by
  refine ⟨(verdicts options reference candidate).map fun verdict =>
    (verdict.report?.toList, verdict.notices), ?_, ?_, ?_⟩
  · rw [verdicts, ContractGroup.ofRecords_eq, List.map_map, List.map_map,
      List.forall₂_map_right_iff, List.forall₂_same]
    intro contract _
    exact told_ofGroup options (.ofContract (reference ++ candidate) contract)
  · rw [List.flatMap_map, List.filterMap_eq_flatMap_toList]
  · rw [List.flatMap_map]

end GasReport
