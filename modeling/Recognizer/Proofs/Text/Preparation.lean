import Recognizer.Text.Source

/-!
# Preparing texts one behind the other

Returns are dropped from two texts with a line feed between them as they are from either alone. So
either is accepted as a source if both together are.
-/

namespace Recognizer.Source

/-- Carriage returns are dropped from each line by itself. -/
theorem withoutReturns_append_newline (front back : String) :
    withoutReturns (front ++ "\n" ++ back) = withoutReturns front ++ '\n' :: withoutReturns back := by
  unfold withoutReturns
  rw [String.toList_append, String.toList_append, List.filter_append, List.filter_append,
    List.append_assoc]
  rfl

/-- A text is accepted if what is read of it is part of an accepted source. -/
theorem exists_prepare_of_part {raw : String} {limits : Limits} {st : Source}
    (hst : st.chars.length + 2 ≤ limits.sourceLength)
    (h : (withoutReturns raw).Sublist st.chars) :
    ∃ s, prepare raw limits = .ok s ∧ s.chars = withoutReturns raw := by
  have hmark : endMark ∉ withoutReturns raw := fun hm => st.endMark_notMem (h.subset hm)
  refine ⟨⟨withoutReturns raw, hmark, return_notMem_withoutReturns raw⟩,
    prepare_eq_ok_iff.2 ⟨?_, rfl⟩, rfl⟩
  have hlength := h.length_le
  dsimp only
  omega

/-- If two texts with a line feed between them are accepted as a source, either of them is. -/
theorem exists_prepare_parts {front back : String} {limits : Limits} {st : Source}
    (hst : prepare (front ++ "\n" ++ back) limits = .ok st) :
    ∃ s t, prepare front limits = .ok s ∧ prepare back limits = .ok t ∧
      st.chars = s.chars ++ '\n' :: t.chars := by
  obtain ⟨hlength, hchars⟩ := prepare_eq_ok_iff.1 hst
  rw [withoutReturns_append_newline] at hchars
  have hsubFront : (withoutReturns front).Sublist st.chars := by
    rw [hchars]
    exact List.sublist_append_left _ _
  have hsubBack : (withoutReturns back).Sublist st.chars := by
    rw [hchars]
    exact (List.sublist_cons_self _ _).trans (List.sublist_append_right _ _)
  obtain ⟨s, hs, hfront⟩ := exists_prepare_of_part hlength hsubFront
  obtain ⟨t, ht, hback⟩ := exists_prepare_of_part hlength hsubBack
  refine ⟨s, t, hs, ht, ?_⟩
  rw [hfront, hback]
  exact hchars

/-- As many lines are complete in a source as in the text it was made of. -/
theorem count_newline_of_prepare {raw : String} {limits : Limits} {s : Source}
    (h : prepare raw limits = .ok s) : s.chars.count '\n' = raw.toList.count '\n' := by
  rw [(prepare_eq_ok_iff.1 h).2, withoutReturns, List.count_filter (by decide)]

end Recognizer.Source
