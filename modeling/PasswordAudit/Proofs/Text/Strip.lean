import Mathlib.Data.List.DropRight
import PasswordAudit.Text.Blank

/-! Stripping, said without the way in which it is done: what is left begins and ends with
characters that are not blank, and only blanks were taken off its ends. -/
namespace PasswordAudit.Text

/-- The core is the text without the blanks at its ends. -/
def Strips (text core : Text) : Prop :=
  ∃ before after, text = before ++ core ++ after ∧
    (∀ c ∈ before, isBlank c = true) ∧ (∀ c ∈ after, isBlank c = true) ∧
    (∀ c ∈ core.head?, isBlank c = false) ∧ (∀ c ∈ core.getLast?, isBlank c = false)

private theorem trim_eq (mark : Char → Bool) (text : Text) :
    trim mark text = (text.dropWhile mark).rdropWhile mark := rfl

theorem head?_dropWhile (mark : Char → Bool) (text : Text) :
    ∀ c ∈ (text.dropWhile mark).head?, mark c = false := by
  intro c first
  have unmarked := List.head?_dropWhile_not mark text
  rw [Option.mem_def.1 first] at unmarked
  simpa using unmarked

theorem getLast?_rdropWhile (mark : Char → Bool) (text : Text) :
    ∀ c ∈ (text.rdropWhile mark).getLast?, mark c = false := by
  intro c last
  rw [List.rdropWhile, List.getLast?_reverse] at last
  exact head?_dropWhile mark text.reverse c last

private theorem head?_rdropWhile (mark : Char → Bool) (text : Text) :
    ∀ c ∈ (text.rdropWhile mark).head?, c ∈ text.head? := by
  intro c first
  obtain ⟨after, whole⟩ := List.rdropWhile_prefix mark (l := text)
  rw [← whole, List.head?_append, Option.mem_def.1 first]
  rfl

theorem rdropWhile_append_of_marked (mark : Char → Bool) (text after : Text)
    (marked : ∀ c ∈ after, mark c = true) :
    (text ++ after).rdropWhile mark = text.rdropWhile mark := by
  rw [List.rdropWhile, List.reverse_append, List.dropWhile_append_of_pos, List.rdropWhile]
  intro c member
  exact marked c (List.mem_reverse.1 member)

theorem strips_strip (text : Text) : Strips text (strip text) := by
  refine ⟨text.takeWhile isBlank, (text.dropWhile isBlank).rtakeWhile isBlank, ?_, ?_, ?_, ?_, ?_⟩
  · rw [strip, trim_eq, List.append_assoc, List.rdropWhile_append_rtakeWhile,
      List.takeWhile_append_dropWhile]
  · intro c member
    exact List.mem_takeWhile_imp member
  · intro c member
    exact List.mem_rtakeWhile_imp member
  · intro c first
    exact head?_dropWhile isBlank text c (head?_rdropWhile isBlank _ c first)
  · exact getLast?_rdropWhile isBlank _

theorem strip_eq_of_strips {text core : Text} (strips : Strips text core) : strip text = core := by
  obtain ⟨before, after, rfl, blankBefore, blankAfter, first, last⟩ := strips
  rw [strip, trim_eq, List.append_assoc, List.dropWhile_append_of_pos blankBefore]
  cases core with
  | nil =>
    rw [List.nil_append, List.dropWhile_eq_nil_iff.2 blankAfter]
    rfl
  | cons c rest =>
    have inked : isBlank c = false := first c rfl
    rw [List.cons_append, List.dropWhile_cons_of_neg (by simp [inked]), ← List.cons_append,
      rdropWhile_append_of_marked isBlank _ after blankAfter, List.rdropWhile_eq_self_iff]
    intro filled
    simpa using last _ (List.getLast?_eq_getLast_of_ne_nil filled)

theorem strips_iff (text core : Text) : Strips text core ↔ strip text = core :=
  ⟨strip_eq_of_strips, fun same => same ▸ strips_strip text⟩

/-- Only a text whose ends are not blank is left as it is. -/
theorem strip_eq_self_iff (text : Text) :
    strip text = text ↔
      (∀ c ∈ text.head?, isBlank c = false) ∧ ∀ c ∈ text.getLast?, isBlank c = false := by
  constructor
  · intro same
    obtain ⟨_, _, _, _, _, ends⟩ := strips_strip text
    rwa [same] at ends
  · rintro ⟨first, last⟩
    exact strip_eq_of_strips ⟨[], [], by simp, by simp, by simp, first, last⟩

theorem strip_strip (text : Text) : strip (strip text) = strip text := by
  obtain ⟨_, _, _, _, _, ends⟩ := strips_strip text
  exact (strip_eq_self_iff _).2 ends

theorem mem_of_mem_strip {text : Text} {c : Char} (member : c ∈ strip text) : c ∈ text := by
  obtain ⟨before, after, whole, _⟩ := strips_strip text
  rw [whole]
  exact List.mem_append_left _ (List.mem_append_right _ member)

theorem strip_eq_nil_iff (text : Text) : strip text = [] ↔ isAllBlank text = true := by
  constructor
  · intro nothing
    obtain ⟨before, after, whole, left, right, _⟩ := strips_strip text
    rw [nothing, List.append_nil] at whole
    rw [whole, isAllBlank, List.all_append, Bool.and_eq_true]
    exact ⟨List.all_eq_true.2 left, List.all_eq_true.2 right⟩
  · intro blank
    exact strip_eq_of_strips ⟨text, [], by simp, List.all_eq_true.1 blank, nofun, nofun, nofun⟩

end PasswordAudit.Text
