import GasReport.Proofs.Record.Ingest

namespace GasReport.Record

/-- This is one check of a record. The last three are made of a function of a measurement. -/
inductive Check where
  | given (field : RequiredField)
  | toolchainKnown
  | deploymentNotNegative
  | settingsGiven
  | decoded (signature : String) (function : Json.Value)
  | meanGiven (signature : String) (function : Json.Value)
  | meanNotNegative (signature : String) (function : Json.Value)

def Draft.toolchain? (draft : Draft) : Option String := draft.compiler.bind (·.toolchain)

def Draft.gas? (draft : Draft) : Option Gas := draft.deployment.join

/-- A repeated function has its first place and its last value. -/
def Draft.calls (draft : Draft) : List (String × Json.Value) :=
  Json.mergeMembers (draft.functions.getD [])

def Draft.has (draft : Draft) : RequiredField → Bool
  | .compiler => draft.compiler.isSome
  | .compilerType => draft.toolchain?.isSome
  | .compilerVersion => (draft.compiler.bind (·.version)).isSome
  | .deploymentGas => draft.gas?.isSome

/-- The text is the name of no toolchain, in whatever case it is written. -/
def isUnknown (text : String) : Bool := Toolchain.all.all (·.name != Text.lowercase text)

def negative? (place : String) (gas : Gas) : Option Error :=
  if gas < 0.0 then some (.negativeGas place gas) else none

namespace Check

/-- This is the error of a check that fails. A check of what is missing does not fail, since an
earlier one does. -/
def failure? (draft : Draft) : Check → Option Error
  | .given field => if draft.has field then none else some (.missingField field)
  | .toolchainKnown => (draft.toolchain?.filter isUnknown).map .unknownToolchain
  | .deploymentNotNegative => draft.gas?.bind (negative? "deployment.gas")
  | .settingsGiven => if draft.settings.isSome then none else some .untagged
  | .decoded _ function =>
    match readFunction function with
    | .error cause => some (.shape cause)
    | .ok _ => none
  | .meanGiven signature function =>
    match readFunction function with
    | .ok none => some (.functionWithoutMean signature)
    | _ => none
  | .meanNotNegative signature function =>
    match readFunction function with
    | .ok (some mean) => negative? signature mean
    | _ => none

def signature? : Check → Option String
  | .decoded signature _ => some signature
  | .meanGiven signature _ => some signature
  | .meanNotNegative signature _ => some signature
  | _ => none

def ofBuild : List Check :=
  [.given .compiler, .given .compilerType, .toolchainKnown, .given .compilerVersion]

def ofCall (call : String × Json.Value) : List Check :=
  [.decoded call.1 call.2, .meanGiven call.1 call.2, .meanNotNegative call.1 call.2]

def ofMeasurement (draft : Draft) : List Check :=
  [.given .deploymentGas, .deploymentNotNegative] ++ draft.calls.flatMap ofCall

end Check

/-- These are the checks of a record, in their order. -/
def Draft.checks (draft : Draft) : List Check :=
  Check.ofBuild ++
    match draft.contract with
    | some _ => Check.ofMeasurement draft
    | none => [.settingsGiven]

/-- The name stands in the message of the error. -/
def Error.Names (error : Error) (name : String) : Prop := name.toList <:+: error.message.toList

instance (error : Error) (name : String) : Decidable (error.Names name) :=
  inferInstanceAs (Decidable (_ <:+: _))

/-- This says what becomes of a record with such a draft. -/
structure Draft.Decides (draft : Draft) (result : Except Error Record) : Prop where
  first : ∀ error, result = .error error ↔ ∃ before check after,
    draft.checks = before ++ check :: after ∧ check.failure? draft = some error ∧
      ∀ earlier ∈ before, earlier.failure? draft = none
  refused : (∃ error, result = .error error) ↔
    ∃ check ∈ draft.checks, (check.failure? draft).isSome
  named : ∀ check ∈ draft.checks, ∀ signature error, check.signature? = some signature →
    check.failure? draft = some error → error.Names signature ∨ ∃ cause, error = .shape cause
  whole : ∀ measurement, result = .ok (.measurement measurement) →
    List.Forall₂ (fun call function =>
      function.1 = call.1 ∧ readFunction call.2 = .ok (some function.2))
      draft.calls measurement.functions ∧
    ∀ call ∈ draft.functions.getD [], call.1 ∈ measurement.functions.map Prod.fst

/-- This is the error of a reader that fails. -/
def refusal? {A : Type} : Except Error A → Option Error
  | .error error => some error
  | .ok _ => none

section

variable {A B : Type}

theorem refusal?_eq_some {result : Except Error A} {error : Error} :
    refusal? result = some error ↔ result = .error error := by
  cases result with
  | error other => simp [refusal?]
  | ok value => simp [refusal?]

theorem isSome_refusal? {result : Except Error A} :
    (refusal? result).isSome ↔ ∃ error, result = .error error := by
  simp only [Option.isSome_iff_exists, refusal?_eq_some]

theorem refusal?_map (result : Except Error A) (change : A → B) :
    refusal? (result.map change) = refusal? result := by
  cases result <;> rfl

/-- A reader that cannot fail any more leaves the refusal as it is. -/
theorem refusal?_bind_ok (result : Except Error A) (next : A → B) :
    refusal? (result >>= fun value => .ok (next value)) = refusal? result := by
  cases result <;> rfl

/-- The first of two readers that fails gives the error, if the second needs no value of the first.
-/
theorem refusal?_bind (result : Except Error A) {next : A → Except Error B} {later : Option Error}
    (same : ∀ value, refusal? (next value) = later) :
    refusal? (result >>= next) = (refusal? result).or later := by
  cases result with
  | error error => rfl
  | ok value => exact same value

end

/-- Gas is refused when it is below zero. -/
theorem refusal?_checkGas (place : String) (gas : Gas) :
    refusal? (checkGas place gas) = negative? place gas := by
  rw [checkGas, negative?]
  split <;> rfl

/-- A toolchain is unknown when no name matches. -/
theorem isUnknown_eq (text : String) : isUnknown text = (Toolchain.ofName? text).isNone := by
  rw [isUnknown, Toolchain.ofName?, Toolchain.ofExactName?, Bool.eq_iff_iff]
  simp

/-- A compiler with a type is refused for an unknown toolchain or for its missing version. -/
theorem refusal?_readBuild_typed (markers : Markers) (text : String) (version : Option String) :
    refusal? (readBuild markers (some ⟨some text, version⟩)) =
      if isUnknown text then some (.unknownToolchain text)
      else if version.isSome then none else some (.missingField .compilerVersion) := by
  rw [isUnknown_eq]
  cases known : Toolchain.ofName? text with
  | none => simp [readBuild, readBuild.need, known, bind, Except.bind, refusal?]
  | some toolchain =>
      cases version with
      | none => simp [readBuild, readBuild.need, known, bind, Except.bind, refusal?]
      | some version => simp [readBuild, readBuild.need, known, bind, Except.bind, refusal?]

/-- A build is refused by the first of its checks that fails. -/
theorem refusal?_readBuild (markers : Markers) (draft : Draft) :
    refusal? (readBuild markers draft.compiler) =
      Check.ofBuild.findSome? (Check.failure? draft) := by
  obtain ⟨compiler, contract, deployment, functions, settings⟩ := draft
  cases compiler with
  | none => rfl
  | some compiler =>
      obtain ⟨toolchain, version⟩ := compiler
      cases toolchain with
      | none => rfl
      | some text =>
          rw [refusal?_readBuild_typed]
          cases unknown : isUnknown text with
          | true =>
              simp [Check.ofBuild, Check.failure?, Draft.has, Draft.toolchain?, unknown,
                Option.filter_some]
          | false =>
              cases version
              all_goals
                simp [Check.ofBuild, Check.failure?, Draft.has, Draft.toolchain?, unknown,
                  Option.filter_some]

/-- A function is refused by the first of its checks that fails. -/
theorem refusal?_readMean (draft : Draft) (call : String × Json.Value) :
    refusal? (readMean call.1 call.2) = (Check.ofCall call).findSome? (Check.failure? draft) := by
  rw [readMean]
  cases read : readFunction call.2 with
  | error cause => simp [Check.ofCall, Check.failure?, read, refusal?]
  | ok mean =>
      cases mean with
      | none => simp [Check.ofCall, Check.failure?, read, refusal?]
      | some mean => simp [Check.ofCall, Check.failure?, read, refusal?_checkGas]

/-- Function by function, the first check that fails decides. -/
theorem refusal?_readMeans (draft : Draft) (calls : List (String × Json.Value)) :
    refusal? (readMeans calls) = (calls.flatMap Check.ofCall).findSome? (Check.failure? draft) := by
  induction calls with
  | nil => rfl
  | cons call rest ih =>
      have others (mean : Gas) : refusal? (readMeans rest >>= fun means =>
          .ok ((call.1, mean) :: means)) = refusal? (readMeans rest) := refusal?_bind_ok _ _
      rw [List.flatMap_cons, List.findSome?_append, ← ih, ← refusal?_readMean]
      exact refusal?_bind _ others

/-- A measurement is refused by the first check that fails, those of its functions included. -/
theorem refusal?_readMeasurement (build : Build) (contract : String) (draft : Draft) :
    refusal? (readMeasurement build contract draft) =
      (Check.ofMeasurement draft).findSome? (Check.failure? draft) := by
  rw [Check.ofMeasurement, List.findSome?_append, ← refusal?_readMeans, readMeasurement]
  split
  · rename_i deployed given
    have gas : draft.gas? = some deployed := by
      rw [Draft.gas?, given]
      rfl
    have charged : [Check.given .deploymentGas, .deploymentNotNegative].findSome?
        (Check.failure? draft) = negative? "deployment.gas" deployed := by
      simp [Check.failure?, Draft.has, gas]
    rw [refusal?_bind _ fun _ => refusal?_bind_ok _ _, refusal?_checkGas, charged]
    rfl
  · rename_i missing
    have gas : draft.gas? = none := by
      cases given : draft.deployment with
      | none => rw [Draft.gas?, given, Option.join_none]
      | some deployed =>
          cases deployed with
          | none => rw [Draft.gas?, given, Option.join_some]
          | some gas => exact absurd given (missing gas)
    simp [Check.failure?, Draft.has, gas, refusal?]

/-- A record is refused by the first of all its checks that fails. -/
theorem refusal?_read (markers : Markers) {value : Json.Value} {draft : Draft}
    (drafted : Draft.read value = .ok draft) :
    refusal? (read markers value) = draft.checks.findSome? (Check.failure? draft) := by
  rw [read, drafted, Draft.checks, List.findSome?_append, ← refusal?_readBuild markers]
  apply refusal?_bind
  intro build
  cases draft.contract with
  | some contract =>
      rw [refusal?_map]
      exact refusal?_readMeasurement build contract draft
  | none =>
      cases settings : draft.settings <;> simp [Check.failure?, settings, refusal?]

/-- A name stands in the text around it. -/
theorem within_append (before name after : String) :
    name.toList <:+: (before ++ name ++ after).toList :=
  ⟨before.toList, after.toList, by rw [String.toList_append, String.toList_append]⟩

/-- The error for a missing mean names the function. -/
theorem Error.names_functionWithoutMean (signature : String) :
    (functionWithoutMean signature).Names signature :=
  within_append "Function `" signature "` has no mean gas value"

/-- The error for negative gas names its place. -/
theorem Error.names_negativeGas (place : String) (gas : Gas) :
    (negativeGas place gas).Names place :=
  within_append ("Negative gas amount " ++ Decimal.plain gas ++ " in `") place "`"

/-- Only what is decoded wrongly is refused without the name of the function. -/
theorem Check.names_of_failure? {draft : Draft} {check : Check} {signature : String} {error : Error}
    (owner : check.signature? = some signature) (failed : check.failure? draft = some error) :
    error.Names signature ∨ ∃ cause, error = .shape cause := by
  cases check with
  | given | toolchainKnown | deploymentNotNegative | settingsGiven => cases owner
  | decoded other function =>
      rw [failure?] at failed
      split at failed
      · exact .inr ⟨_, (Option.some.inj failed).symm⟩
      · cases failed
  | meanGiven other function =>
      have same : other = signature := Option.some.inj owner
      rw [failure?] at failed
      split at failed
      · have named := Error.names_functionWithoutMean other
        rw [Option.some.inj failed, same] at named
        exact .inl named
      · cases failed
  | meanNotNegative other function =>
      have same : other = signature := Option.some.inj owner
      rw [failure?] at failed
      split at failed
      · rename_i mean read
        rw [negative?] at failed
        split at failed
        · have named := Error.names_negativeGas other mean
          rw [Option.some.inj failed, same] at named
          exact .inl named
        · cases failed
      · cases failed

/-- The functions of a measurement are its calls with their means. -/
theorem calls_of_readMeans {draft : Draft} {functions : List (String × Gas)}
    (read : readMeans draft.calls = .ok functions) :
    List.Forall₂ (fun call function =>
      function.1 = call.1 ∧ readFunction call.2 = .ok (some function.2)) draft.calls functions := by
  refine (readMeans_eq_ok.mp read).imp ?_
  rintro call function ⟨same, mean⟩
  exact ⟨same, (readMean_eq_ok.mp mean).1⟩

/-- The signatures of the document are those of the measurement. -/
theorem mem_signatures_of_readMeans {draft : Draft} {functions : List (String × Gas)}
    (read : readMeans draft.calls = .ok functions) {call : String × Json.Value}
    (inside : call ∈ draft.functions.getD []) : call.1 ∈ functions.map Prod.fst := by
  rw [map_fst_readMeans read, Draft.calls, Json.mem_map_fst_mergeMembers]
  exact List.mem_map_of_mem inside

/-- A record without the expected shape is refused for its shape. Any other record is refused by the
first check that fails, if there is one, and a measurement is never accepted without some of its
functions. -/
theorem read_decides (markers : Markers) (value : Json.Value) :
    (∀ cause, Draft.read value = .error cause → read markers value = .error (.shape cause)) ∧
      ∀ draft, Draft.read value = .ok draft → draft.Decides (read markers value) := by
  constructor
  · intro cause failed
    rw [read, failed]
  · intro draft drafted
    have refusal := refusal?_read markers drafted
    constructor
    case first =>
      intro error
      rw [← refusal?_eq_some, refusal, List.findSome?_eq_some_iff]
    case refused =>
      rw [← isSome_refusal?, refusal, List.findSome?_isSome_iff]
    case named => exact fun _ _ _ _ owner failed => Check.names_of_failure? owner failed
    case whole =>
      intro measurement done
      obtain ⟨other, same, -, -, measured⟩ := read_measurement_iff.mp done
      obtain rfl := Except.ok.inj (same.symm.trans drafted)
      obtain ⟨-, -, -, -, means⟩ := readMeasurement_eq_ok.mp measured
      exact ⟨calls_of_readMeans means, fun _ inside => mem_signatures_of_readMeans means inside⟩

/-- The first function has no mean, and the next ones are not decoded or negative. -/
def severalFaults : Json.Value :=
  .object [("compiler", .object [("type", .text "SOLX"), ("version", .text "0.1.0")]),
    ("contract", .text "Token"), ("deployment", .object [("gas", .count 1000)]),
    ("functions", .object [("f()", .object [("mean", .count 90)]), ("g()", .object []),
      ("h()", .text "free"), ("k()", .object [("mean", .number (.integer (-1)))])])]

theorem read_decides_severalFaults :
    (∀ cause, Draft.read severalFaults = .error cause →
      read .standard severalFaults = .error (.shape cause)) ∧
    (∃ draft, Draft.read severalFaults = .ok draft ∧ draft.Decides (read .standard severalFaults)) ∧
    read .standard severalFaults = .error (.functionWithoutMean "g()") := by
  obtain ⟨shaped, decides⟩ := read_decides .standard severalFaults
  refine ⟨shaped, ⟨_, rfl, decides _ rfl⟩, ?_⟩
  rfl

/-- The only function of a measurement is no structure, and a record of settings has functions too.
-/
def unnamedFunctions : Json.Value × Json.Value :=
  (.object [("compiler", .object [("type", .text "solx"), ("version", .text "0.1.0")]),
    ("contract", .text "Token"), ("deployment", .object [("gas", .count 1000)]),
    ("functions", .object [("transfer()", .count 5)])],
   .object [("compiler", .object [("type", .text "solx"), ("version", .text "0.1.0")]),
    ("compilerSettings", .object []), ("functions", .object [("transfer()", .count 5)])])

/-- A function that is not decoded is refused without its name, and a record of settings is accepted
without its functions. -/
theorem not_names_unnamedFunctions :
    (∃ draft before check after error, Draft.read unnamedFunctions.1 = .ok draft ∧
      draft.checks = before ++ check :: after ∧ check.signature? = some "transfer()" ∧
      (∀ earlier ∈ before, earlier.failure? draft = none) ∧ check.failure? draft = some error ∧
      read .standard unnamedFunctions.1 = .error error ∧ ¬ error.Names "transfer()") ∧
    ∃ draft settings, Draft.read unnamedFunctions.2 = .ok draft ∧
      draft.calls.map Prod.fst = ["transfer()"] ∧
      read .standard unnamedFunctions.2 = .ok (.settings settings) := by
  constructor
  · refine ⟨_, Check.ofBuild ++ [.given .deploymentGas, .deploymentNotNegative],
      .decoded "transfer()" (.count 5), _, _, rfl, rfl, rfl, ?_, rfl, rfl, by decide +kernel⟩
    intro earlier inside
    simp only [Check.ofBuild, List.cons_append, List.nil_append, List.mem_cons, List.not_mem_nil,
      or_false] at inside
    rcases inside with rfl | rfl | rfl | rfl | rfl | rfl
    all_goals rfl
  · exact ⟨_, _, rfl, rfl, rfl⟩

end GasReport.Record
