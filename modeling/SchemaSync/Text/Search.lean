/-
Finding one text in another: at its front, at its end, or anywhere.
-/
namespace SchemaSync.Text

/-- Whether `s` begins with `start`. -/
def beginsWith (s start : String) : Bool :=
  start.toList.isPrefixOf s.toList

/-- Whether `s` ends with `final`. -/
def endsIn (s final : String) : Bool :=
  final.toList.isSuffixOf s.toList

/-- Whether a part stands somewhere among the characters. -/
def hasPartChars (part : List Char) : List Char → Bool
  | [] => part.isEmpty
  | c :: rest => part.isPrefixOf (c :: rest) || hasPartChars part rest

/-- Whether `part` stands somewhere in `s`. -/
def hasPart (s part : String) : Bool :=
  hasPartChars part.toList s.toList

theorem hasPartChars_iff {part cs : List Char} :
    hasPartChars part cs = true ↔ ∃ before after, cs = before ++ part ++ after := by
  induction cs with
  | nil =>
    simp only [hasPartChars, List.isEmpty_iff]
    constructor
    · rintro rfl; exact ⟨[], [], rfl⟩
    · rintro ⟨before, after, h⟩
      simp only [List.append_assoc, List.nil_eq, List.append_eq_nil_iff] at h
      exact h.2.1
  | cons c rest ih =>
    simp only [hasPartChars, Bool.or_eq_true, List.isPrefixOf_iff_prefix, ih]
    constructor
    · rintro (⟨after, h⟩ | ⟨before, after, rfl⟩)
      · exact ⟨[], after, by simp [h]⟩
      · exact ⟨c :: before, after, rfl⟩
    · rintro ⟨before, after, h⟩
      cases before with
      | nil => exact .inl ⟨after, by simpa using h.symm⟩
      | cons b before =>
        simp only [List.cons_append, List.cons.injEq] at h
        exact .inr ⟨before, after, h.2⟩

end SchemaSync.Text
