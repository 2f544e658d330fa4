import PasswordAudit.Text.Basic

/-! Texts that are cut at a separator. The pieces hold no separator and nothing that was not in the
text, and there is one piece more than there are separators. -/
namespace PasswordAudit.Text

private theorem splitOn_cons (separator c : Char) (rest : Text) :
    List.splitOn separator (c :: rest) =
      if c = separator then [] :: List.splitOn separator rest
      else (List.splitOn separator rest).modifyHead (c :: ·) := by
  rw [List.splitOn_eq_splitOnP, List.splitOn_eq_splitOnP, List.splitOnP_cons_eq_if_modifyHead]
  simp only [beq_iff_eq]

private theorem of_mem_splitOn {separator c : Char} {text piece : Text}
    (listed : piece ∈ List.splitOn separator text) (member : c ∈ piece) :
    c ∈ text ∧ c ≠ separator := by
  induction text generalizing piece with
  | nil =>
    obtain rfl : piece = [] := by simpa using listed
    cases member
  | cons d rest ih =>
    have later {piece : Text} (listed : piece ∈ List.splitOn separator rest) (member : c ∈ piece) :
        c ∈ d :: rest ∧ c ≠ separator := (ih listed member).imp_left (List.mem_cons_of_mem _)
    rw [splitOn_cons] at listed
    split at listed
    · rcases List.mem_cons.1 listed with rfl | listed
      · cases member
      · exact later listed member
    · next apart =>
      cases pieces : List.splitOn separator rest with
      | nil => exact absurd pieces (List.splitOn_ne_nil separator rest)
      | cons first others =>
        rw [pieces] at listed later
        rcases List.mem_cons.1 listed with rfl | listed
        · rcases List.mem_cons.1 member with rfl | inside
          · exact ⟨List.mem_cons_self .., apart⟩
          · exact later (List.mem_cons_self ..) inside
        · exact later (List.mem_cons_of_mem _ listed) member

theorem mem_of_mem_splitOn {separator c : Char} {text piece : Text}
    (listed : piece ∈ List.splitOn separator text) (member : c ∈ piece) : c ∈ text :=
  (of_mem_splitOn listed member).1

theorem not_mem_of_mem_splitOn {separator : Char} {text piece : Text}
    (listed : piece ∈ List.splitOn separator text) : separator ∉ piece :=
  fun member => (of_mem_splitOn listed member).2 rfl

theorem splitOn_eq_pair_iff (separator : Char) (text left right : Text) :
    List.splitOn separator text = [left, right] ↔
      text = left ++ separator :: right ∧ separator ∉ left ∧ separator ∉ right := by
  constructor
  · intro pieces
    have joined : List.intercalate [separator] (List.splitOn separator text) = text :=
      List.intercalate_splitOn separator
    have free : ∀ piece ∈ List.splitOn separator text, separator ∉ piece :=
      fun _ => not_mem_of_mem_splitOn
    rw [pieces] at joined free
    refine ⟨by simpa [List.intercalate_cons_cons] using joined.symm, ?_, ?_⟩
    · exact free left (List.mem_cons_self ..)
    · exact free right (List.mem_cons_of_mem _ (List.mem_cons_self ..))
  · rintro ⟨rfl, leftFree, rightFree⟩
    have free : ∀ piece ∈ [left, right], separator ∉ piece := by simp [leftFree, rightFree]
    have pieces := List.splitOn_intercalate separator free (List.cons_ne_nil left _)
    simpa [List.intercalate_cons_cons] using pieces

theorem length_splitOn (separator : Char) (text : Text) :
    (List.splitOn separator text).length = text.count separator + 1 := by
  induction text with
  | nil => rfl
  | cons c rest ih =>
    rw [splitOn_cons]
    by_cases same : c = separator
    · simp [same, ih]
    · simp [same, ih, List.length_modifyHead]

end PasswordAudit.Text
