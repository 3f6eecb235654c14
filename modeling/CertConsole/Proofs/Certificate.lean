import CertConsole.Certificate

/-!
# Lines of a certificate

What is true of every line of a certificate that was cut from a text.
-/
namespace CertConsole.Certificate

/-- What stands between separators has none. -/
theorem splitOnP_plain {α : Type} (separates : α → Bool) (text : List α) :
    ∀ piece ∈ text.splitOnP separates, ∀ item ∈ piece, separates item = false := by
  induction text with
  | nil =>
    intro piece inside item member
    rw [List.splitOnP_nil, List.mem_singleton] at inside
    rw [inside] at member
    cases member
  | cons head text ih =>
    intro piece inside item member
    rw [List.splitOnP_cons_eq_if_modifyHead] at inside
    by_cases separator : separates head = true
    · rw [if_pos separator] at inside
      rcases List.mem_cons.mp inside with rfl | later
      · cases member
      · exact ih piece later item member
    · rw [if_neg separator] at inside
      obtain ⟨first, rest, pieces⟩ := List.exists_cons_of_ne_nil
        (List.splitOnP_ne_nil separates text)
      rw [pieces] at inside ih
      rcases List.mem_cons.mp inside with rfl | later
      · rcases List.mem_cons.mp member with rfl | within
        · exact Bool.eq_false_iff.mpr separator
        · exact ih first List.mem_cons_self item within
      · exact ih piece (List.mem_cons_of_mem first later) item member

/-- No line of a text has a character that ends lines. -/
theorem ofText_plain {text line : String} (inside : line ∈ (ofText text).lines) :
    ∀ char ∈ line.toList, isLineEnd char = false := by
  obtain ⟨piece, kept, rfl⟩ := List.mem_map.mp inside
  rw [String.toList_ofList]
  exact splitOnP_plain isLineEnd text.toList piece (List.mem_filter.mp kept).1

end CertConsole.Certificate
