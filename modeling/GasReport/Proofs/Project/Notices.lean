import GasReport.Project.Records
import GasReport.Record.Printer
import GasReport.Proofs.Contract.Notices

namespace GasReport

open Record

namespace Record

/-- These are the refused values of a list, each with its position and its cause. -/
structure ListsRefused (markers : Markers) (values : List Json.Value)
    (refused : List (Nat × Error)) : Prop where
  ordered : refused.Pairwise fun first second => first.1 < second.1
  listed : ∀ index error, (index, error) ∈ refused ↔
    ∃ value, values[index]? = some value ∧ read markers value = .error error

/-- A record is malformed when its reader fails at its place. -/
theorem mem_malformed {results : List (Except Error Record)} {index : Nat} {error : Error} :
    (index, error) ∈ malformed results ↔ results[index]? = some (.error error) := by
  rw [malformed, List.mem_filterMap]
  constructor
  · rintro ⟨⟨result, position⟩, inside, found⟩
    rw [List.mk_mem_zipIdx_iff_getElem?] at inside
    cases result with
    | ok record => cases found
    | error cause =>
        cases found
        exact inside
  · intro found
    exact ⟨(.error error, index), List.mk_mem_zipIdx_iff_getElem?.mpr found, rfl⟩

/-- Positions are counted from the first value on, also over the values that can be read. -/
theorem pairwise_malformed (results : List (Except Error Record)) :
    (malformed results).Pairwise fun first second => first.1 < second.1 := by
  have positions : results.zipIdx.Pairwise fun first second => first.2 < second.2 := by
    apply List.pairwise_map.mp
    rw [List.zipIdx_map_snd]
    exact List.pairwise_lt_range'
  refine positions.filterMap _ ?_
  rintro ⟨result, index⟩ ⟨other, later⟩ before refused here otherRefused there
  cases result with
  | ok record => cases here
  | error cause =>
      cases other with
      | ok record => cases there
      | error otherCause =>
          cases here
          cases there
          exact before

/-- The malformed records are listed once, in their order. -/
theorem listsRefused_malformed (markers : Markers) (values : List Json.Value) :
    ListsRefused markers values (malformed (readAll markers values)) where
  ordered := pairwise_malformed _
  listed index error := by
    rw [mem_malformed, readAll, List.getElem?_map, Option.map_eq_some_iff]

end Record

namespace ProjectRecords

/-- The comparison leaves the reports of the verdicts. -/
theorem compare_eq_ok {records : ProjectRecords} {markers : Markers} {options : ComparisonOptions}
    {reports : List ContractReport} :
    records.compare markers options = .ok reports ↔
      ∃ verdicts, records.judge markers options = .ok verdicts ∧
        verdicts.filterMap Verdict.report? = reports := by
  change (records.judge markers options).map (·.filterMap Verdict.report?) = _ ↔ _
  cases records.judge markers options with
  | error cause => simp [Except.map]
  | ok verdicts => simp [Except.map]

/-- Verdicts are given on all readable records. -/
theorem verdicts_of_judge {records : ProjectRecords} {markers : Markers}
    {options : ComparisonOptions} {judged : List Verdict}
    (given : records.judge markers options = .ok judged) :
    judged = verdicts options (records.ingest markers .solc) (records.ingest markers .solx) := by
  rw [judge, GasReport.judge] at given
  split at given
  · cases given
  · split at given
    · cases given
    · exact (Except.ok.inj given).symm

/-- Whatever a project leaves out is noted: the refused records of both lists first, and then what
becomes of each contract and each function. There are no other notices. -/
theorem notices_account (records : ProjectRecords) (markers : Markers)
    (options : ComparisonOptions) :
    ∃ solc solx judged,
      records.notices markers options =
        solc.map (fun refused => .malformedRecord refused.1 refused.2) ++
          solx.map (fun refused => .malformedRecord refused.1 refused.2) ++ judged ∧
      ListsRefused markers records.solc solc ∧ ListsRefused markers records.solx solx ∧
      (∀ reports, records.compare markers options = .ok reports →
        Accounts options (records.ingest markers .solc ++ records.ingest markers .solx) reports
          judged) ∧
      (∀ error, records.compare markers options = .error error → judged = []) ∧
      ∀ notice : Notice, notice.isDetail = true ↔
        "Skipping function".toList <+: notice.message.toList := by
  refine ⟨_, _, _, rfl, listsRefused_malformed markers records.solc,
    listsRefused_malformed markers records.solx, ?_, ?_, Notice.isDetail_iff⟩
  · intro reports compared
    obtain ⟨judged, given, rfl⟩ := compare_eq_ok.mp compared
    rw [given, verdicts_of_judge given]
    exact accounts_verdicts options _ _
  · intro error failed
    change (records.judge markers options).map (·.filterMap Verdict.report?) = _ at failed
    cases given : records.judge markers options with
    | error cause => rfl
    | ok judged =>
        rw [given] at failed
        cases failed

/-- Both lists hold a record that cannot be read. One contract has no baseline, and the other one
has two of which the first did not measure every function. -/
def faulty : ProjectRecords where
  solc := [.null,
    Measurement.toValue ⟨.tagged .standard ⟨.solc, "0.8.30"⟩, "Vault", 2000.0, [("g()", 200.0)]⟩,
    Measurement.toValue ⟨.tagged .standard ⟨.solc, "0.8.30"⟩, "Token", 1000.0,
      [("f()", 100.0), ("g()", 50.0), ("h()", 10.0)]⟩]
  solx := [
    Measurement.toValue ⟨.tagged .standard ⟨.solx, "0.1.0"⟩, "Token", 900.0,
      [("h()", 0.0), ("f()", 90.0)]⟩,
    .object [],
    Measurement.toValue ⟨.tagged .standard ⟨.solx, "0.2.0"⟩, "Token", 800.0, [("g()", 40.0)]⟩]

theorem notices_account_faulty :
    (faulty.notices .standard ⟨false⟩).map (fun notice => (notice.isDetail, notice.message)) = [
      (false, "Skipping malformed record"), (false, "Skipping malformed record"),
      (false, "Dropping contract without a default pipeline solx measurement"),
      (false, "Ambiguous function baseline, using the first one"),
      (true, "Skipping function without a baseline measurement"),
      (true, "Skipping function with zero baseline gas")] ∧
    ∃ reports judged, faulty.compare .standard ⟨false⟩ = .ok reports ∧
      reports.map (fun report => report.results.map (·.name)) = [["f()"]] ∧
      Accounts ⟨false⟩ (faulty.ingest .standard .solc ++ faulty.ingest .standard .solx) reports
        judged := by
  have referenceGiven : faulty.ingest .standard .solc ≠ [] :=
    List.ne_nil_of_length_pos (by decide +kernel)
  have candidateGiven : faulty.ingest .standard .solx ≠ [] :=
    List.ne_nil_of_length_pos (by decide +kernel)
  have compared := compareRecords_eq ⟨false⟩ referenceGiven candidateGiven
  obtain ⟨solc, solx, judged, -, -, -, accounts, -⟩ := faulty.notices_account .standard ⟨false⟩
  exact ⟨by decide +kernel, _, judged, compared, by decide +kernel, accounts _ compared⟩

end ProjectRecords

end GasReport
