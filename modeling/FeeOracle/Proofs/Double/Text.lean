import FeeOracle.Double.Text

/-!
# Written doubles

In the style of data interchange a finite double shows that it is a fraction, by a point or by an
exponent, and so its text is never the one that stands for what cannot be said.
-/

namespace FeeOracle.Double

theorem point_mem_positionalText (digits : List Char) (place : Int) :
    '.' ∈ (positionalText ".0" digits place).toList := by
  unfold positionalText
  split
  · simp
  · split <;> simp

theorem e_mem_exponentText (digits : List Char) (exponent : Int) :
    'e' ∈ (exponentText digits exponent).toList := by
  simp [exponentText]

/-- The text of a magnitude has a point or an exponent. -/
theorem point_or_e_mem_magnitudeText (magnitude : Nat) :
    '.' ∈ (magnitudeText .interchange magnitude).toList ∨
    'e' ∈ (magnitudeText .interchange magnitude).toList := by
  have hending : Style.interchange.wholeEnding = ".0" := rfl
  simp only [magnitudeText, hending]
  split
  · exact .inl (point_mem_positionalText _ _)
  · exact .inr (e_mem_exponentText _ _)

/-- So has the text of a finite double. -/
theorem point_or_e_mem_write {x : Double} (hfinite : x.isFinite = true) :
    '.' ∈ (x.write .interchange).toList ∨ 'e' ∈ (x.write .interchange).toList := by
  rw [isFinite_iff] at hfinite
  have hnumber : x.isNaN = false := by
    simp only [isNaN, decide_eq_false_iff_not]
    omega
  have hinfinite : x.isInfinite = false := by
    simp only [isInfinite, beq_eq_false_iff_ne]
    omega
  have hending : Style.interchange.wholeEnding = ".0" := rfl
  simp only [write, hnumber, hinfinite, hending, Bool.false_eq_true, if_false]
  split
  · simp
  · simp only [String.toList_append, List.mem_append]
    exact (point_or_e_mem_magnitudeText x.magnitude).imp .inr .inr

/-- What cannot be said is what is not finite. -/
theorem write_interchange_eq_null_iff {x : Double} :
    x.write .interchange = "null" ↔ x.isFinite = false := by
  constructor
  · intro hnull
    by_cases hfinite : x.isFinite = true
    · have hmem := point_or_e_mem_write hfinite
      rw [hnull] at hmem
      simp at hmem
    · exact Bool.eq_false_iff.2 hfinite
  · intro hinfinite
    rw [Bool.eq_false_iff, ne_eq, isFinite_iff] at hinfinite
    unfold write
    split
    next => rfl
    next hnumber =>
      have hsame : x.magnitude = infinityMagnitude := by
        simp only [isNaN, decide_eq_true_eq] at hnumber
        omega
      rw [if_pos (by simp [isInfinite, hsame])]
      split <;> rfl

end FeeOracle.Double
