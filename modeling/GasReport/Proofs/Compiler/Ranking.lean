import GasReport.Compiler.Build
import GasReport.Proofs.Collection.Sorting

namespace GasReport

variable {A B : Type}

/-- This is the relation by which entries are ranked. -/
def rankedBefore (build : A → Build) (first second : A) : Bool :=
  (Priority.ofBuild (build first)).rank ≤ (Priority.ofBuild (build second)).rank

theorem rankedBefore_trans (build : A → Build) (first second third : A)
    (before : rankedBefore build first second = true)
    (after : rankedBefore build second third = true) : rankedBefore build first third = true := by
  simp only [rankedBefore, decide_eq_true_eq] at *
  omega

theorem rankedBefore_total (build : A → Build) (first second : A) :
    (rankedBefore build first second || rankedBefore build second first) = true := by
  simp only [rankedBefore, Bool.or_eq_true, decide_eq_true_eq]
  omega

/-- Ranking neither drops nor repeats an entry. -/
theorem rankBy_perm (build : A → Build) (entries : List A) :
    (rankBy build entries).Perm entries :=
  List.mergeSort_perm entries _

theorem mem_rankBy {build : A → Build} {entries : List A} {entry : A} :
    entry ∈ rankBy build entries ↔ entry ∈ entries :=
  (rankBy_perm build entries).mem_iff

/-- The ranks never fall along a ranked list. -/
theorem rankBy_pairwise (build : A → Build) (entries : List A) :
    (rankBy build entries).Pairwise fun first second =>
      (Priority.ofBuild (build first)).rank ≤ (Priority.ofBuild (build second)).rank := by
  have ranked :=
    List.pairwise_mergeSort (rankedBefore_trans build) (rankedBefore_total build) entries
  exact ranked.imp fun before => of_decide_eq_true before

/-- Entries may be converted before they are ranked or after. -/
theorem map_rankBy (build : A → Build) (otherBuild : B → Build) (convert : A → B)
    (kept : ∀ entry, Priority.ofBuild (otherBuild (convert entry)) = Priority.ofBuild (build entry))
    (entries : List A) :
    (rankBy build entries).map convert = rankBy otherBuild (entries.map convert) := by
  apply List.map_mergeSort
  intro first _ second _
  rw [kept, kept]

/-- These are the entries of one priority. -/
def ofPriority (build : A → Build) (priority : Priority) (entries : List A) : List A :=
  entries.filter fun entry => Priority.ofBuild (build entry) = priority

theorem ofPriority_cons (build : A → Build) (priority : Priority) (first : A) (rest : List A) :
    ofPriority build priority (first :: rest) =
      if Priority.ofBuild (build first) = priority then first :: ofPriority build priority rest
      else ofPriority build priority rest := by
  simp only [ofPriority, List.filter_cons, decide_eq_true_eq]

/-- Entries of one priority keep their order. -/
theorem ofPriority_rankBy (build : A → Build) (priority : Priority) (entries : List A) :
    ofPriority build priority (rankBy build entries) = ofPriority build priority entries := by
  apply filter_mergeSort (rankedBefore_trans build) (rankedBefore_total build)
  intro first _ second _ firstPriority secondPriority
  rw [decide_eq_true_eq] at firstPriority secondPriority
  rw [rankedBefore, firstPriority, secondPriority]
  exact decide_eq_true (Nat.le_refl _)

/-- Ranked entries stand priority by priority. -/
theorem eq_ofPriority_append {build : A → Build} {entries : List A}
    (ranked : entries.Pairwise fun first second =>
      (Priority.ofBuild (build first)).rank ≤ (Priority.ofBuild (build second)).rank) :
    entries = ofPriority build .optimizedReference entries ++
      (ofPriority build .reference entries ++ ofPriority build .candidate entries) := by
  induction entries with
  | nil => rfl
  | cons first rest ih =>
      obtain ⟨below, others⟩ := List.pairwise_cons.mp ranked
      have absent (priority : Priority)
          (above : priority.rank < (Priority.ofBuild (build first)).rank) :
          ofPriority build priority rest = [] := by
        rw [ofPriority, List.filter_eq_nil_iff]
        intro entry inside same
        have least := below entry inside
        rw [of_decide_eq_true same] at least
        omega
      have follows := ih others
      cases priority : Priority.ofBuild (build first) with
      | optimizedReference => simpa [ofPriority_cons, priority] using follows
      | reference =>
          have noOptimized := absent .optimizedReference (by rw [priority]; decide)
          rw [noOptimized] at follows
          simpa [ofPriority_cons, priority, noOptimized] using follows
      | candidate =>
          have noOptimized := absent .optimizedReference (by rw [priority]; decide)
          have noReference := absent .reference (by rw [priority]; decide)
          rw [noOptimized, noReference] at follows
          simpa [ofPriority_cons, priority, noOptimized, noReference] using follows

/-- The three priorities stand one after the other. -/
theorem rankBy_eq (build : A → Build) (entries : List A) :
    rankBy build entries = ofPriority build .optimizedReference entries ++
      (ofPriority build .reference entries ++ ofPriority build .candidate entries) := by
  rw [eq_ofPriority_append (rankBy_pairwise build entries)]
  simp only [ofPriority_rankBy]

/-- A later entry stands last in its own priority. -/
theorem ofPriority_concat (build : A → Build) (priority : Priority) (entries : List A) (entry : A) :
    ofPriority build priority (entries ++ [entry]) =
      if Priority.ofBuild (build entry) = priority then ofPriority build priority entries ++ [entry]
      else ofPriority build priority entries := by
  rw [ofPriority, List.filter_append, List.filter_singleton, ofPriority]
  by_cases same : Priority.ofBuild (build entry) = priority <;> simp [same]

theorem rank_of_mem_ofPriority {build : A → Build} {priority : Priority} {entries : List A}
    {entry : A} (inside : entry ∈ ofPriority build priority entries) :
    (Priority.ofBuild (build entry)).rank = priority.rank := by
  rw [of_decide_eq_true (List.mem_filter.mp inside).2]

/-- The entry is placed right behind the last entry whose priority is not lower. -/
def PlacedByRank (build : A → Build) (entry : A) (ranked placed : List A) : Prop :=
  ∃ before after, ranked = before ++ after ∧ placed = before ++ entry :: after ∧
    (∀ earlier ∈ before,
      (Priority.ofBuild (build earlier)).rank ≤ (Priority.ofBuild (build entry)).rank) ∧
    ∀ later ∈ after, (Priority.ofBuild (build entry)).rank < (Priority.ofBuild (build later)).rank

/-- A new entry finds its place among the ranked ones, which keep their order. -/
theorem placedByRank_rankBy (build : A → Build) (entries : List A) (entry : A) :
    PlacedByRank build entry (rankBy build entries) (rankBy build (entries ++ [entry])) := by
  rw [rankBy_eq, rankBy_eq]
  simp only [ofPriority_concat]
  cases priority : Priority.ofBuild (build entry) with
  | optimizedReference =>
      refine ⟨ofPriority build .optimizedReference entries,
        ofPriority build .reference entries ++ ofPriority build .candidate entries, rfl,
        by simp, ?_, ?_⟩
      · intro earlier inside
        rewrite [rank_of_mem_ofPriority inside, priority]
        decide
      · intro later inside
        rcases List.mem_append.mp inside with found | found
        all_goals
          rewrite [rank_of_mem_ofPriority found, priority]
          decide
  | reference =>
      refine ⟨ofPriority build .optimizedReference entries ++ ofPriority build .reference entries,
        ofPriority build .candidate entries, by simp, by simp, ?_, ?_⟩
      · intro earlier inside
        rcases List.mem_append.mp inside with found | found
        all_goals
          rewrite [rank_of_mem_ofPriority found, priority]
          decide
      · intro later inside
        rewrite [rank_of_mem_ofPriority inside, priority]
        decide
  | candidate =>
      refine ⟨ofPriority build .optimizedReference entries ++
        (ofPriority build .reference entries ++ ofPriority build .candidate entries), [], by simp,
        by simp, ?_, by simp⟩
      intro earlier inside
      rw [priority]
      cases Priority.ofBuild (build earlier) <;> decide

/-- The first entry of the highest priority comes first. -/
theorem head?_rankBy (build : A → Build) (entries : List A) :
    (rankBy build entries).head? =
      (entries.find? fun entry => Priority.ofBuild (build entry) = .optimizedReference).or
        ((entries.find? fun entry => Priority.ofBuild (build entry) = .reference).or
          (entries.find? fun entry => Priority.ofBuild (build entry) = .candidate)) := by
  simp only [rankBy_eq, List.head?_append, ofPriority, List.head?_filter]

end GasReport
