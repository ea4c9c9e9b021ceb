import TxCourier.Text.Phrase

/-! # Phrases in joined parts

A text that is put together from parts has a phrase just if one of the parts has it, as long as the
phrase cannot reach from one part into the next: nothing that stands between two parts may be inside
of it, nor a blank at its front. Phrases for which that is not so are not held here. -/
namespace TxCourier

namespace Text

variable {phrase : List Char}

theorem hasPhrase_iff_infix {text : List Char} :
    hasPhrase phrase text = true ↔ phrase <:+: text := by
  rw [hasPhrase_iff]
  constructor
  · rintro ⟨before, after, same⟩
    exact ⟨before, after, same.symm⟩
  · rintro ⟨before, after, same⟩
    exact ⟨before, after, same.symm⟩

/-- No phrase reaches over a character that it does not have. -/
theorem infix_append_cons_iff {c : Char} {left right : List Char} (absent : c ∉ phrase) :
    phrase <:+: left ++ c :: right ↔ phrase <:+: left ∨ phrase <:+: right := by
  constructor
  · rintro ⟨before, after, same⟩
    rcases List.append_eq_append_iff.mp same with ⟨middle, within, -⟩ | ⟨middle, ended, rest⟩
    · exact .inl ⟨before, middle, within.symm⟩
    · cases middle with
      | nil =>
        rw [List.append_nil] at ended
        exact .inl ⟨before, [], by rw [List.append_nil, ended]⟩
      | cons d middle =>
        obtain ⟨rfl, rfl⟩ := List.cons.inj rest
        -- The phrase ends to the right of the character, and so it begins there as well.
        rcases List.append_eq_append_iff.mp ended with ⟨gap, -, inside⟩ | ⟨gap, passed, inside⟩
        · exact absurd (inside ▸ List.mem_append_right gap List.mem_cons_self) absent
        · cases gap with
          | nil =>
            rw [List.nil_append] at inside
            exact absurd (inside ▸ List.mem_cons_self) absent
          | cons d gap =>
            obtain ⟨-, rfl⟩ := List.cons.inj inside
            exact .inr ⟨gap, after, rfl⟩
  · rintro (inside | inside)
    · exact inside.trans (List.prefix_append left (c :: right)).isInfix
    · exact inside.trans ((List.suffix_cons c right).trans (List.suffix_append left _)).isInfix

/-- What a phrase has to be for it to stand in one part only: it has several words, and nothing in
it or at its front is what is put between parts or behind their labels. -/
structure IsWording (phrase : List Char) : Prop where
  spaced : ' ' ∈ phrase
  begun : phrase.head? ≠ some ' '
  comma : ',' ∉ phrase
  equals : '=' ∉ phrase

namespace IsWording

instance (phrase : List Char) : Decidable (IsWording phrase) :=
  decidable_of_iff (' ' ∈ phrase ∧ phrase.head? ≠ some ' ' ∧ ',' ∉ phrase ∧ '=' ∉ phrase)
    ⟨fun ⟨spaced, begun, comma, equals⟩ => ⟨spaced, begun, comma, equals⟩,
      fun wording => ⟨wording.spaced, wording.begun, wording.comma, wording.equals⟩⟩

theorem not_infix (wording : IsWording phrase) {text : List Char} (unspaced : ' ' ∉ text) :
    ¬phrase <:+: text := fun inside => unspaced (inside.mem wording.spaced)

theorem infix_blank_iff (wording : IsWording phrase) {text : List Char} :
    phrase <:+: ' ' :: text ↔ phrase <:+: text := by
  rw [List.infix_cons_iff]
  constructor
  · rintro (front | inside)
    · rcases List.prefix_cons_iff.mp front with rfl | ⟨rest, rfl, -⟩
      · exact List.nil_infix
      · exact absurd rfl wording.begun
    · exact inside
  · exact .inr

theorem infix_joined_iff (wording : IsWording phrase) {parts : List String} :
    phrase <:+: (", ".intercalate parts).toList ↔ ∃ part ∈ parts, phrase <:+: part.toList := by
  induction parts with
  | nil =>
    constructor
    · intro inside
      exact absurd inside (wording.not_infix (by simp))
    · rintro ⟨part, member, -⟩
      cases member
  | cons part rest ih =>
    cases rest with
    | nil => simp
    | cons next rest =>
      have joined : (", ".intercalate (part :: next :: rest)).toList
          = part.toList ++ ',' :: ' ' :: (", ".intercalate (next :: rest)).toList := by
        rw [String.intercalate_cons_cons, String.toList_append, String.toList_append,
          List.append_assoc]
        rfl
      rw [joined, infix_append_cons_iff wording.comma, wording.infix_blank_iff, ih]
      simp

/-- A label in one word has nothing of the phrase. -/
theorem infix_labelled_iff (wording : IsWording phrase) (label text : List Char)
    (word : ' ' ∉ label) : phrase <:+: label ++ '=' :: text ↔ phrase <:+: text := by
  rw [infix_append_cons_iff wording.equals]
  exact or_iff_right (wording.not_infix word)

end IsWording

end Text

end TxCourier
