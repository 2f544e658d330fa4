import PasswordAudit.Text.Basic

/-! The distinct texts of a list, in ascending order of their code points. Two lists have the same
distinct texts exactly when they have the same members. -/
namespace PasswordAudit.Text

/-- The order of dictionaries: the first difference decides, and a text comes after its beginnings.
-/
def before : Text → Text → Bool
  | _, [] => false
  | [], _ :: _ => true
  | a :: as, b :: bs => if a = b then before as bs else a.toNat < b.toNat

def sorted (texts : List Text) : List Text := texts.mergeSort fun a b => !before b a

def dropRepeats : List Text → List Text
  | [] => []
  | [a] => [a]
  | a :: b :: rest => if a = b then dropRepeats (b :: rest) else a :: dropRepeats (b :: rest)

def distinct (texts : List Text) : List Text := dropRepeats (sorted texts)

theorem before_irrefl (a : Text) : before a a = false := by
  induction a with
  | nil => rfl
  | cons c rest ih => simp [before, ih]

theorem before_trans {a b c : Text} (hab : before a b = true) (hbc : before b c = true) :
    before a c = true := by
  induction a generalizing b c with
  | nil => cases b <;> cases c <;> simp_all [before]
  | cons d as ih =>
    cases b with
    | nil => simp [before] at hab
    | cons e bs =>
      cases c with
      | nil => simp [before] at hbc
      | cons f cs =>
        simp only [before] at hab hbc ⊢
        split at hab
        · next first =>
          subst first
          split at hbc
          · next second => simp [second, ih hab hbc]
          · next second => simpa [second] using hbc
        · next first =>
          have lower : d.toNat < e.toNat := by simpa using hab
          split at hbc
          · next second => simpa [← second, first] using lower
          · have upper : e.toNat < f.toNat := by simpa using hbc
            have apart : d ≠ f := by rintro rfl; omega
            simp only [apart, if_false, decide_eq_true_eq]
            omega

private theorem before_or_eq_or_before (a b : Text) :
    before a b = true ∨ a = b ∨ before b a = true := by
  induction a generalizing b with
  | nil => cases b <;> simp [before]
  | cons c as ih =>
    cases b with
    | nil => simp [before]
    | cons d bs =>
      by_cases same : c = d
      · subst same
        simpa [before] using ih bs
      · have apart : c.toNat ≠ d.toNat := fun h => same (Char.toNat_inj.1 h)
        rcases Nat.lt_or_gt_of_ne apart with lower | upper
        · simp [before, same, lower]
        · simp [before, Ne.symm same, upper]

private theorem notAfter_trans (a b c : Text) (hab : (!before b a) = true)
    (hbc : (!before c b) = true) : (!before c a) = true := by
  cases later : before c a with
  | false => rfl
  | true =>
    rcases before_or_eq_or_before a b with lower | rfl | upper
    · simp [before_trans later lower] at hbc
    · simp [later] at hbc
    · simp [upper] at hab

private theorem notAfter_total (a b : Text) : (!before b a || !before a b) = true := by
  cases hba : before b a with
  | false => rfl
  | true =>
    cases hab : before a b with
    | false => rfl
    | true => simpa [before_irrefl] using before_trans hab hba

private theorem sorted_ascending (texts : List Text) :
    (sorted texts).Pairwise fun a b => before b a = false :=
  (List.pairwise_mergeSort notAfter_trans notAfter_total texts).imp (by simp)

private theorem mem_dropRepeats {w : Text} (texts : List Text) :
    w ∈ dropRepeats texts ↔ w ∈ texts := by
  fun_induction dropRepeats texts with
  | case1 => rfl
  | case2 => rfl
  | case3 b rest ih => simp [ih]
  | case4 a b rest _ ih => simp [ih]

private theorem dropRepeats_ascending (texts : List Text)
    (h : texts.Pairwise fun a b => before b a = false) :
    (dropRepeats texts).Pairwise fun a b => before a b = true := by
  fun_induction dropRepeats texts with
  | case1 => exact .nil
  | case2 a => exact List.pairwise_singleton _ a
  | case3 b rest ih => exact ih h.tail
  | case4 a b rest ne ih =>
    refine List.pairwise_cons.2 ⟨fun w member => ?_, ih h.tail⟩
    have lower : before a b = true := by
      rcases before_or_eq_or_before a b with lower | same | upper
      · exact lower
      · exact absurd same ne
      · simp [List.rel_of_pairwise_cons h (List.mem_cons_self ..)] at upper
    rcases List.mem_cons.1 ((mem_dropRepeats _).1 member) with rfl | later
    · exact lower
    · rcases before_or_eq_or_before b w with next | rfl | earlier
      · exact before_trans lower next
      · exact lower
      · simp [List.rel_of_pairwise_cons h.tail later] at earlier

theorem mem_distinct {w : Text} {texts : List Text} : w ∈ distinct texts ↔ w ∈ texts := by
  rw [distinct, mem_dropRepeats, sorted, List.mem_mergeSort]

theorem distinct_ascending (texts : List Text) :
    (distinct texts).Pairwise fun a b => before a b = true :=
  dropRepeats_ascending _ (sorted_ascending texts)

end PasswordAudit.Text
