import GasReport.Versions.Summary

namespace GasReport

structure ProjectReport where
  project : String
  contracts : List ContractReport
  candidateVersion : Option String
  referenceVersion : Option String

namespace ProjectReport

/-- A version that is not selected is the one that the contract discovered first. -/
def pair (report : ProjectReport) (contract : ContractReport) : VersionPair :=
  let default := contract.defaultPair
  ⟨report.candidateVersion.getD default.candidate, report.referenceVersion.getD default.reference⟩

def summary (report : ProjectReport) : Summary := .ofReports report.contracts report.pair

end ProjectReport

end GasReport
