import GasReport.Compiler.Build
import GasReport.Proofs.Pattern.Literal

namespace GasReport

open Pattern (StandsIn)

namespace Markers

/-- A build is tagged by whether these texts stand in its version. -/
structure TagsBy (markers : Markers) (viaIR optimized : String) : Prop where
  pipeline : ∀ name, (Build.tagged markers name).pipeline = .viaIR ↔ StandsIn viaIR name.version
  optimized : ∀ name, (Build.tagged markers name).optimized = true ↔ StandsIn optimized name.version

/-- Literal markers tag by the texts that stand in a version. -/
theorem tagsBy_literals (viaIR optimized : String) :
    TagsBy ⟨.literal viaIR, .literal optimized⟩ viaIR optimized where
  pipeline := by
    intro name
    rw [← Pattern.occursIn_literal_iff]
    cases found : (Pattern.literal viaIR).occursIn name.version <;>
      simp [Build.tagged, Markers.pipeline, found]
  optimized := by
    intro name
    exact Pattern.occursIn_literal_iff optimized name.version

/-- Two spelled texts are read as the markers of their literals, unless an automaton would be too
large. -/
theorem ofTexts?_of_spells {writtenViaIR writtenOptimized viaIR optimized : String}
    (spellsViaIR : Pattern.Spells writtenViaIR.toList viaIR.toList)
    (spellsOptimized : Pattern.Spells writtenOptimized.toList optimized.toList) :
    ofTexts? writtenViaIR writtenOptimized =
      if (Pattern.literal viaIR).fits && (Pattern.literal optimized).fits then
        some ⟨.literal viaIR, .literal optimized⟩
      else none := by
  rw [ofTexts?, Pattern.ofText?_of_spells spellsViaIR, Pattern.ofText?_of_spells spellsOptimized]
  cases (Pattern.literal viaIR).fits <;> cases (Pattern.literal optimized).fits <;> rfl

/-- The automata of the standard markers fit their limit. -/
theorem fits_standard :
    ((Pattern.literal viaIRText).fits && (Pattern.literal optimizedText).fits) = true := by
  decide

/-- Both ways of writing the standard texts give markers that tag every build alike: as built
through the other pipeline exactly when `via-ir` stands in its version, and as optimized exactly
when `opt` does. -/
theorem standard_tagsBy :
    ∃ escaped plain,
      ofTexts? (Pattern.escaped viaIRText) (Pattern.escaped optimizedText) = some escaped ∧
      ofTexts? viaIRText optimizedText = some plain ∧
      escaped = standard ∧
      (∀ name, Build.tagged escaped name = Build.tagged plain name) ∧
      TagsBy escaped "via-ir" "opt" ∧ TagsBy plain "via-ir" "opt" := by
  have escapedViaIR := Pattern.spells_escaped viaIRText
  have escapedOptimized := Pattern.spells_escaped optimizedText
  have plainViaIR : Pattern.Spells viaIRText.toList viaIRText.toList :=
    Pattern.spells_self (by decide)
  have plainOptimized : Pattern.Spells optimizedText.toList optimizedText.toList :=
    Pattern.spells_self (by decide)
  refine ⟨standard, standard, ?_, ?_, rfl, fun name => rfl, tagsBy_literals _ _,
    tagsBy_literals _ _⟩
  · rw [ofTexts?_of_spells escapedViaIR escapedOptimized, fits_standard]
    rfl
  · rw [ofTexts?_of_spells plainViaIR plainOptimized, fits_standard]
    rfl

end Markers

end GasReport
