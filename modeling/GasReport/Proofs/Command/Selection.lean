import GasReport.Command.Run
import GasReport.Proofs.Contract.Verdict
import GasReport.Proofs.Project.Archive
import Mathlib.Data.List.Basic

namespace GasReport.Command

/-- Each toolchain has records of the project that can be read. -/
def Comparable (archive : Archive) (markers : Markers) (project : String) : Prop :=
  ∃ records, archive.get? project = some records ∧
    ∀ toolchain, records.ingest markers toolchain ≠ []

/-- This is the report of a project whose records can be compared. -/
def projectReport? (archive : Archive) (markers : Markers) (arguments : Arguments)
    (project : String) : Option ProjectReport :=
  (archive.get? project).bind fun records =>
    (records.compare markers ⟨arguments.strictBaseline⟩).toOption.map fun contracts =>
      ⟨project, contracts, arguments.candidateVersion, arguments.referenceVersion⟩

/-- These are the reports of all comparable projects in the order of their names, each made from the
records of its own project. -/
structure ReportsProjects (archive : Archive) (markers : Markers) (arguments : Arguments)
    (reports : List ProjectReport) : Prop where
  ordered : reports.Pairwise fun first second => first.project < second.project
  listed : ∀ project, project ∈ reports.map (·.project) ↔ Comparable archive markers project
  compared : ∀ report ∈ reports, ∃ records, archive.get? report.project = some records ∧
    records.compare markers ⟨arguments.strictBaseline⟩ = .ok report.contracts ∧
    report.candidateVersion = arguments.candidateVersion ∧
    report.referenceVersion = arguments.referenceVersion

variable {archive : Archive} {markers : Markers} {arguments : Arguments}

/-- A project has a report when the archive holds it and its comparison succeeds. -/
theorem projectReport?_eq_some {project : String} {report : ProjectReport} :
    projectReport? archive markers arguments project = some report ↔
      ∃ records contracts, archive.get? project = some records ∧
        records.compare markers ⟨arguments.strictBaseline⟩ = .ok contracts ∧
        report = ⟨project, contracts, arguments.candidateVersion, arguments.referenceVersion⟩ := by
  rw [projectReport?, Option.bind_eq_some_iff]
  constructor
  · rintro ⟨records, given, made⟩
    cases compared : records.compare markers ⟨arguments.strictBaseline⟩ with
    | error failed =>
        rw [compared] at made
        cases made
    | ok contracts =>
        rw [compared] at made
        exact ⟨records, contracts, given, compared, (Option.some.inj made).symm⟩
  · rintro ⟨records, contracts, given, compared, rfl⟩
    refine ⟨records, given, ?_⟩
    rw [compared]
    rfl

/-- A report carries the name of its project. -/
theorem project_of_projectReport? {project : String} {report : ProjectReport}
    (found : projectReport? archive markers arguments project = some report) :
    report.project = project := by
  obtain ⟨records, contracts, -, -, rfl⟩ := projectReport?_eq_some.mp found
  rfl

/-- A project has a report when there is something to compare. -/
theorem isSome_projectReport? (project : String) :
    (projectReport? archive markers arguments project).isSome ↔
      Comparable archive markers project := by
  rw [Option.isSome_iff_exists]
  constructor
  · rintro ⟨report, found⟩
    obtain ⟨records, contracts, given, compared, -⟩ := projectReport?_eq_some.mp found
    obtain ⟨reference, candidate⟩ := given_of_compareRecords compared
    refine ⟨records, given, fun toolchain => ?_⟩
    cases toolchain with
    | solc => exact reference
    | solx => exact candidate
  · rintro ⟨records, given, readable⟩
    have compared := compareRecords_eq ⟨arguments.strictBaseline⟩ (readable .solc)
      (readable .solx)
    exact ⟨_, projectReport?_eq_some.mpr ⟨records, _, given, compared, rfl⟩⟩

/-- A project that is there adds its report, if it has one, to those of the rest. -/
theorem compareProjects_cons {project : String} (rest : List String)
    (present : project ∈ archive.keys) :
    (compareProjects archive markers arguments (project :: rest)).result =
      (compareProjects archive markers arguments rest).result.map
        ((projectReport? archive markers arguments project).toList ++ ·) := by
  rw [Dictionary.mem_keys, Option.isSome_iff_exists] at present
  obtain ⟨records, given⟩ := present
  rw [compareProjects, Archive.project, projectReport?, given, Option.bind_some]
  dsimp only
  cases records.compare markers ⟨arguments.strictBaseline⟩ with
  | error failed =>
      cases failed
      exact (congrFun Except.map_id _).symm
  | ok contracts => rfl

/-- Projects that are there are compared one by one, and no failure ends the run. -/
theorem compareProjects_result {projects : List String}
    (present : ∀ project ∈ projects, project ∈ archive.keys) :
    (compareProjects archive markers arguments projects).result =
      .ok (projects.filterMap (projectReport? archive markers arguments)) := by
  induction projects with
  | nil => rfl
  | cons project rest ih =>
      have others := ih fun other inside => present other (List.mem_cons_of_mem _ inside)
      rw [compareProjects_cons rest (present project List.mem_cons_self), others,
        List.filterMap_cons]
      cases projectReport? archive markers arguments project <;> rfl

/-- A project that is not there is a failure. -/
theorem compareProjects_missing {project : String} (absent : project ∉ archive.keys) :
    (compareProjects archive markers arguments [project]).result =
      .error (.input (.missingProject project)) := by
  rw [Dictionary.mem_keys, Bool.not_eq_true, Option.isSome_eq_false_iff,
    Option.isNone_iff_eq_none] at absent
  rw [compareProjects, Archive.project, absent]

/-- All projects are compared in the order of their names. -/
theorem reportsProjects_keys (archive : Archive) (markers : Markers) (arguments : Arguments) :
    ReportsProjects archive markers arguments
      (archive.keys.filterMap (projectReport? archive markers arguments)) where
  ordered := by
    have keys : archive.keys.Pairwise (· < ·) := List.pairwise_map.mpr archive.sorted
    refine keys.filterMap _ ?_
    intro project other before report here otherReport there
    rw [project_of_projectReport? here, project_of_projectReport? there]
    exact before
  listed project := by
    rw [map_filterMap_key project_of_projectReport?, List.mem_filter, isSome_projectReport?]
    apply and_iff_right_of_imp
    rintro ⟨records, given, -⟩
    rw [Dictionary.mem_keys, given]
    rfl
  compared report inside := by
    obtain ⟨project, -, found⟩ := List.mem_filterMap.mp inside
    obtain ⟨records, contracts, given, compared, rfl⟩ := projectReport?_eq_some.mp found
    exact ⟨records, given, compared, rfl, rfl⟩

/-- Among the reports of all projects there is one of a comparable project and none of another one.
-/
theorem filter_reports {project : String} (present : project ∈ archive.keys) :
    (archive.keys.filterMap (projectReport? archive markers arguments)).filter
      (·.project = project) = [project].filterMap (projectReport? archive markers arguments) := by
  have alone : archive.keys.filter (· = project) = [project] := by
    rw [List.filter_eq, List.count_eq_one_of_mem archive.nodup_keys present, List.replicate_one]
  rw [List.filter_filterMap, ← alone, List.filterMap_filter]
  congr 1
  funext key
  cases found : projectReport? archive markers arguments key with
  | none => rw [Option.filter_none, ite_self]
  | some report => rw [Option.filter_some, project_of_projectReport? found]

/-- A comparison of all projects does not fail and reports the comparable ones. The selection of one
project gives what is reported of it there, and fails if there is no such project. -/
theorem compareArchive_selects (archive : Archive) (markers : Markers) (arguments : Arguments) :
    ∃ reports,
      (compareArchive archive markers { arguments with project := none }).result = .ok reports ∧
      ReportsProjects archive markers arguments reports ∧
      ∀ project,
        (compareArchive archive markers { arguments with project := some project }).result =
          if project ∈ archive.keys then .ok (reports.filter (·.project = project))
          else .error (.input (.missingProject project)) := by
  refine ⟨archive.keys.filterMap (projectReport? archive markers arguments), ?_,
    reportsProjects_keys archive markers arguments, fun project => ?_⟩
  · exact compareProjects_result fun _ inside => inside
  · change (compareProjects archive markers _ [project]).result = _
    split
    case isTrue present =>
        rw [filter_reports present]
        apply compareProjects_result
        intro other inside
        rw [List.mem_singleton.mp inside]
        exact present
    case isFalse absent => exact compareProjects_missing absent

end GasReport.Command
