/-! # Phrases in a text -/
namespace TxCourier.Text

/-- Whether some characters stand next to one another somewhere in a text. -/
def hasPhrase (phrase : List Char) : List Char → Bool
  | [] => phrase.isEmpty
  | c :: rest => phrase.isPrefixOf (c :: rest) || hasPhrase phrase rest

theorem hasPhrase_iff {phrase text : List Char} :
    hasPhrase phrase text = true ↔ ∃ before after, text = before ++ phrase ++ after := by
  induction text with
  | nil => simp [hasPhrase]
  | cons c rest ih =>
    simp only [hasPhrase, Bool.or_eq_true, List.isPrefixOf_iff_prefix, ih]
    constructor
    · rintro (⟨after, h⟩ | ⟨before, after, h⟩)
      · exact ⟨[], after, by simpa using h.symm⟩
      · exact ⟨c :: before, after, by simp [h]⟩
    · rintro ⟨before, after, h⟩
      cases before with
      | nil => exact Or.inl ⟨after, by simpa using h.symm⟩
      | cons b before =>
        simp only [List.cons_append, List.cons.injEq] at h
        exact Or.inr ⟨before, after, h.2⟩

end TxCourier.Text
