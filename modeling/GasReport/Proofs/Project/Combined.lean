import GasReport.Proofs.Project.Archive
import Mathlib.Data.List.Nodup

namespace GasReport

/-- This report has one list of a project, and says nothing of a version. -/
def ProjectRecords.report (records : ProjectRecords) (project : String) (toolchain : Toolchain) :
    SingleReport :=
  ⟨project, toolchain, none, records.of toolchain⟩

/-- These are the reports of all lists, also of the empty ones. -/
def Archive.reports (projects : Archive) : List SingleReport :=
  projects.entries.flatMap fun entry => Toolchain.all.map (entry.2.report entry.1)

namespace Archive

theorem mem_reports {projects : Archive} {report : SingleReport} :
    report ∈ projects.reports ↔
      ∃ entry ∈ projects.entries, ∃ toolchain, entry.2.report entry.1 toolchain = report := by
  simp only [reports, List.mem_flatMap, List.mem_map]
  refine exists_congr fun entry => and_congr_right fun _ => exists_congr fun toolchain => ?_
  cases toolchain <;> simp [Toolchain.all]

/-- Each project and toolchain has one report. -/
theorem eq_of_mem_reports {projects : Archive} {first second : SingleReport}
    (firstInside : first ∈ projects.reports) (secondInside : second ∈ projects.reports)
    (project : first.project = second.project) (toolchain : first.toolchain = second.toolchain) :
    first = second := by
  obtain ⟨entry, entryInside, side, rfl⟩ := mem_reports.mp firstInside
  obtain ⟨other, otherInside, otherSide, rfl⟩ := mem_reports.mp secondInside
  have same : entry = other :=
    List.inj_on_of_nodup_map projects.nodup_keys entryInside otherInside project
  have sameSide : side = otherSide := toolchain
  rw [same, sameSide]

/-- Different reports of one archive fill different slots. -/
theorem apart_of_ne {projects : Archive} {first second : SingleReport}
    (firstInside : first ∈ projects.reports) (secondInside : second ∈ projects.reports)
    (different : first ≠ second) : (ReportFile.single first).Apart (.single second) := by
  rintro project toolchain ⟨firstFills, secondFills⟩
  rw [ReportFile.fills_iff, ReportFile.listOf_part_single] at firstFills secondFills
  obtain ⟨firstProject, firstToolchain⟩ := (ite_ne_right_iff.mp firstFills).1
  obtain ⟨secondProject, secondToolchain⟩ := (ite_ne_right_iff.mp secondFills).1
  exact different (eq_of_mem_reports firstInside secondInside
    (firstProject.trans secondProject.symm) (firstToolchain.trans secondToolchain.symm))

/-- The lists of one project are added in one step. -/
theorem foldl_report (archive : Archive) (project : String) (records : ProjectRecords) :
    (Toolchain.all.map (records.report project)).foldl extendSingle archive =
      archive.update project .empty fun before =>
        (before.extend .solc records.solc).extend .solx records.solx :=
  Dictionary.update_update archive project .empty (·.extend .solc records.solc)
    (·.extend .solx records.solx)

/-- The reports in the order of the projects, with the reference first. -/
theorem foldl_reports (archive projects : Archive) :
    projects.reports.foldl extendSingle archive = archive.extendCombined projects := by
  rw [reports, List.foldl_flatMap, extendCombined]
  congr 1
  funext before entry
  exact before.foldl_report entry.1 entry.2

/-- A combined file is loaded as its lists are, each on its own and in any order. -/
theorem extend_combined (archive projects : Archive) {reports : List SingleReport}
    (order : reports.Perm projects.reports) :
    reports.foldl (fun archive report => archive.extend (.single report)) archive =
      archive.extend (.combined projects) := by
  have swap : ∀ first ∈ reports, ∀ second ∈ reports, ∀ before : Archive,
      (before.extend (.single first)).extend (.single second) =
        (before.extend (.single second)).extend (.single first) := by
    intro first firstInside second secondInside before
    by_cases same : first = second
    · rw [same]
    · exact before.extend_comm
        (apart_of_ne (order.mem_iff.mp firstInside) (order.mem_iff.mp secondInside) same)
  rw [order.foldl_eq' swap]
  exact archive.foldl_reports projects

/-- One project is there already, one has no records, and one has a list for one toolchain only. -/
def threeProjects : Archive :=
  .ofList [("beta", ⟨[.truth true], [.truth false, .null]⟩), ("alpha", ⟨[], []⟩),
    ("gamma", ⟨[], [.text "Token"]⟩)]

theorem extend_combined_threeProjects :
    threeProjects.reports.reverse.Perm threeProjects.reports ∧
    threeProjects.reports.reverse.map (fun report => (report.project, report.toolchain)) =
      [("gamma", .solx), ("gamma", .solc), ("beta", .solx), ("beta", .solc), ("alpha", .solx),
        ("alpha", .solc)] ∧
    threeProjects.reports.reverse.foldl (fun archive report => archive.extend (.single report))
        (.ofList [("beta", ⟨[.null], []⟩)]) =
      extend (.ofList [("beta", ⟨[.null], []⟩)]) (.combined threeProjects) ∧
    (extend (.ofList [("beta", ⟨[.null], []⟩)]) (.combined threeProjects)).entries =
      [("alpha", ⟨[], []⟩), ("beta", ⟨[.null, .truth true], [.truth false, .null]⟩),
        ("gamma", ⟨[], [.text "Token"]⟩)] := by
  have order : threeProjects.reports.reverse.Perm threeProjects.reports := List.reverse_perm _
  exact ⟨order, rfl, extend_combined _ _ order, rfl⟩

end Archive

end GasReport
