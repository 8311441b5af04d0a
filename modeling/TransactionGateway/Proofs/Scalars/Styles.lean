import TransactionGateway.Proofs.Scalars.Literal
import TransactionGateway.Proofs.Scalars.Plain
import TransactionGateway.Proofs.Scalars.Quoted

/-! # Styles of scalars

A text is written in the style that fits it (`styleOf_cases`); in each style the written characters
are kept (`allKept_value`). -/

namespace TransactionGateway.Yaml

namespace Printer

/-- What the style of a text says of it. -/
theorem styleOf_cases (s : List Char) :
    (styleOf s = .plain ∧ Plain.Fits s)
    ∨ (styleOf s = .singleQuoted ∧ fitsSingle s = true)
    ∨ (styleOf s = .literal ∧ isAllShown s = true ∧ s ≠ [])
    ∨ styleOf s = .doubleQuoted := by
  unfold styleOf
  split
  · next hline =>
    have hne : s ≠ [] := by rintro rfl; simp at hline
    split
    · next hfits =>
      simp only [fitsLiteral, Bool.and_eq_true] at hfits
      exact .inr (.inr (.inl ⟨rfl, hfits.1.1, hne⟩))
    · exact .inr (.inr (.inr rfl))
  · split
    · next hfits =>
      simp only [Bool.and_eq_true, Bool.not_eq_true'] at hfits
      have hne : s ≠ [] := by rintro rfl; exact absurd hfits.1 (by decide)
      exact .inl ⟨rfl, hfits.2, hne⟩
    · split
      · next hfits => exact .inr (.inl ⟨rfl, hfits⟩)
      · exact .inr (.inr (.inr rfl))

theorem allKept_value (s : List Char) : AllKept (value s) := by
  have hline : IsKept '\n' := by decide
  have hquote : IsKept '\'' := by decide
  have hdouble : IsKept '"' := by decide
  obtain ⟨hstyle, hs⟩ | ⟨hstyle, hs⟩ | ⟨hstyle, hs, -⟩ | hstyle := styleOf_cases s <;>
    simp only [value, hstyle]
  · simp [allKept_of_isAllShown hs.goesOn.shown, hline]
  · simp only [fitsSingle, Bool.and_eq_true] at hs
    have := allKept_singleBody (allKept_of_isAllShown hs.1.1) false
    simp [this, hline, hquote]
  · have hbody := allKept_literalBody (allKept_of_isAllShown hs) true
    have hheader : AllKept (literalHeader s) := by
      unfold literalHeader chompingSign
      split <;> split <;> (try split) <;> (try split) <;> decide
    split <;> simp [hheader, hline, hbody]
  · have : AllKept (s.flatMap doubleChar) := fun c hc => by
      obtain ⟨d, -, hd⟩ := List.mem_flatMap.mp hc
      exact allKept_doubleChar d c hd
    simp [this, hline, hdouble]

end Printer

end TransactionGateway.Yaml
