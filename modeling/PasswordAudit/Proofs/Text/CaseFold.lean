import PasswordAudit.Text.Blank
import PasswordAudit.Text.CaseFold

/-! Case folding settles a text. What a character folds to is not moved again, is not blank and is
no number sign; blanks and the number sign are not moved. The tables are compared as sets of code
points, written as the bits of one number each. -/
namespace PasswordAudit.Text

/-- The number that has exactly these bits. -/
def bits (points : List Nat) : Nat := points.foldr (fun n set => set ||| 1 <<< n) 0

private theorem testBit_bits (points : List Nat) (n : Nat) :
    (bits points).testBit n = true ↔ n ∈ points := by
  induction points with
  | nil => simp [bits]
  | cons m rest ih =>
    have step : bits (m :: rest) = bits rest ||| 1 <<< m := rfl
    rw [step, Nat.testBit_or, Bool.or_eq_true, ih, List.mem_cons, Nat.one_shiftLeft,
      Nat.testBit_two_pow, decide_eq_true_eq]
    exact ⟨fun h => h.symm.imp_left Eq.symm, fun h => (h.imp_left Eq.symm).symm⟩

/-- Two lists of points whose numbers share no bit have no point in common. -/
private theorem not_mem_of_bits {these those : List Nat} (apart : bits these &&& bits those = 0)
    {n : Nat} (member : n ∈ these) : n ∉ those := by
  intro other
  have both : (bits these &&& bits those).testBit n = true := by
    rw [Nat.testBit_and, (testBit_bits _ _).2 member, (testBit_bits _ _).2 other]
    rfl
  simp [apart] at both

namespace CaseBand

def size (band : CaseBand) : Nat := (band.last - band.first) / band.step + 1

def sources (band : CaseBand) : List Nat := List.range' band.first band.size band.step

def targets (band : CaseBand) : List Nat := List.range' band.target band.size band.step

private theorem exists_place {band : CaseBand} {n : Nat} (held : band.holds n = true) :
    ∃ place < band.size, n - band.first = band.step * place ∧ band.first ≤ n := by
  simp only [holds, Bool.and_eq_true, decide_eq_true_eq, beq_iff_eq] at held
  obtain ⟨⟨lower, upper⟩, even⟩ := held
  refine ⟨(n - band.first) / band.step, ?_, ?_, lower⟩
  · exact Nat.lt_succ_of_le (Nat.div_le_div_right (by omega))
  · exact (Nat.mul_div_cancel' (Nat.dvd_of_mod_eq_zero even)).symm

private theorem mem_sources {band : CaseBand} {n : Nat} (held : band.holds n = true) :
    n ∈ band.sources := by
  obtain ⟨place, inside, away, lower⟩ := exists_place held
  exact List.mem_range'.2 ⟨place, inside, by omega⟩

private theorem mem_targets {band : CaseBand} {n : Nat} (held : band.holds n = true) :
    band.target + (n - band.first) ∈ band.targets := by
  obtain ⟨place, inside, away, _⟩ := exists_place held
  exact List.mem_range'.2 ⟨place, inside, by omega⟩

end CaseBand

def movedPoints : List Nat := foldBands.flatMap CaseBand.sources ++ foldExpansions.map (·.1)

def foldedPoints : List Nat :=
  foldBands.flatMap CaseBand.targets ++ foldExpansions.flatMap (·.2)

def markPoints : List Nat :=
  List.range' 9 5 ++ List.range' 0x1C 5 ++ [0x23, 0x85, 0xA0, 0x1680] ++ List.range' 0x2000 11
    ++ [0x2028, 0x2029, 0x202F, 0x205F, 0x3000]

private theorem folded_apart : bits foldedPoints &&& bits (movedPoints ++ markPoints) = 0 := by
  decide +kernel

private theorem marks_apart : bits markPoints &&& bits movedPoints = 0 := by
  decide +kernel

private theorem folded_valid : ∀ n ∈ foldedPoints, n.isValidChar := by
  decide +kernel

private theorem foldPoint_of_not_moved {c : Char} (still : c.toNat ∉ movedPoints) :
    foldPoint c = [c] := by
  rw [movedPoints, List.mem_append, not_or] at still
  have noBand : foldBands.find? (·.holds c.toNat) = none := by
    rw [List.find?_eq_none]
    intro band member held
    exact still.1 (List.mem_flatMap.2 ⟨band, member, CaseBand.mem_sources held⟩)
  have noExpansion : foldExpansions.find? (·.1 == c.toNat) = none := by
    rw [List.find?_eq_none]
    intro entry member same
    exact still.2 (List.mem_map.2 ⟨entry, member, eq_of_beq same⟩)
  rw [foldPoint, noBand, noExpansion]

private theorem toNat_ofNat_of_folded {n : Nat} (folded : n ∈ foldedPoints) :
    (Char.ofNat n).toNat = n := by
  rw [Char.ofNat, dif_pos (folded_valid n folded)]
  rfl

/-- A character stays, or moves to what folding leads to. -/
private theorem foldPoint_stays_or_moves (c : Char) :
    foldPoint c = [c] ∨ ∀ d ∈ foldPoint c, d.toNat ∈ foldedPoints := by
  unfold foldPoint
  split
  · next band found =>
    right
    intro d member
    obtain rfl := List.mem_singleton.1 member
    have held : band.holds c.toNat = true := by simpa using List.find?_some found
    have target := CaseBand.mem_targets held
    have folded : band.target + (c.toNat - band.first) ∈ foldedPoints :=
      List.mem_append_left _ (List.mem_flatMap.2 ⟨band, List.mem_of_find?_eq_some found, target⟩)
    rwa [toNat_ofNat_of_folded folded]
  · split
    · next expansion found =>
      right
      intro d member
      obtain ⟨n, listed, rfl⟩ := List.mem_map.1 member
      have folded : n ∈ foldedPoints :=
        List.mem_append_right _ (List.mem_flatMap.2 ⟨_, List.mem_of_find?_eq_some found, listed⟩)
      rwa [toNat_ofNat_of_folded folded]
    · exact .inl rfl

private theorem foldPoint_of_mem_foldPoint {c d : Char} (member : d ∈ foldPoint c) :
    foldPoint d = [d] := by
  rcases foldPoint_stays_or_moves c with stays | moves
  · rw [stays, List.mem_singleton] at member
    rwa [member]
  · have apart := not_mem_of_bits folded_apart (moves d member)
    exact foldPoint_of_not_moved fun moved => apart (List.mem_append_left _ moved)

theorem fold_eq_self {text : Text} (still : ∀ c ∈ text, foldPoint c = [c]) : fold text = text := by
  induction text with
  | nil => rfl
  | cons c rest ih =>
    have later := ih fun d member => still d (List.mem_cons_of_mem _ member)
    rw [fold] at later ⊢
    rw [List.flatMap_cons, still c (List.mem_cons_self ..), later]
    rfl

theorem fold_fold (text : Text) : fold (fold text) = fold text := by
  apply fold_eq_self
  intro d member
  obtain ⟨c, _, inside⟩ := List.mem_flatMap.1 member
  exact foldPoint_of_mem_foldPoint inside

def IsMark (c : Char) : Prop := isBlank c = true ∨ c = '#'

private theorem isMark_iff (c : Char) : IsMark c ↔ c.toNat ∈ markPoints := by
  have sign : c = '#' ↔ c.toNat = 0x23 := Char.toNat_inj.symm
  simp only [IsMark, sign, isBlank, isWhiteSpace, markPoints, List.mem_append, List.mem_range'_1,
    List.mem_cons, List.not_mem_nil, or_false, Bool.or_eq_true, Bool.and_eq_true,
    decide_eq_true_eq, beq_iff_eq]
  omega

theorem foldPoint_of_isMark {c : Char} (mark : IsMark c) : foldPoint c = [c] :=
  foldPoint_of_not_moved (not_mem_of_bits marks_apart ((isMark_iff c).1 mark))

/-- Folding makes no new marks. -/
theorem eq_of_isMark_of_mem_foldPoint {c d : Char} (member : d ∈ foldPoint c) (mark : IsMark d) :
    d = c := by
  rcases foldPoint_stays_or_moves c with stays | moves
  · rwa [stays, List.mem_singleton] at member
  · have apart := not_mem_of_bits folded_apart (moves d member)
    exact absurd (List.mem_append_right _ ((isMark_iff d).1 mark)) apart

theorem isMark_of_mem_head?_fold {text : Text} {d : Char} (start : d ∈ (fold text).head?)
    (mark : IsMark d) : d ∈ text.head? := by
  cases text with
  | nil => cases start
  | cons c rest =>
    obtain ⟨e, more, expanded⟩ := List.exists_cons_of_ne_nil (foldPoint_ne_nil c)
    rw [fold, List.flatMap_cons, expanded] at start
    have member : d ∈ foldPoint c := by
      rw [expanded]
      exact List.mem_of_mem_head? start
    rw [eq_of_isMark_of_mem_foldPoint member mark]
    rfl

theorem isMark_of_mem_getLast?_fold {text : Text} {d : Char} (stop : d ∈ (fold text).getLast?)
    (mark : IsMark d) : d ∈ text.getLast? := by
  induction text with
  | nil => cases stop
  | cons c rest ih =>
    rw [fold, List.flatMap_cons, List.getLast?_append] at stop
    cases rest with
    | nil =>
      have member : d ∈ foldPoint c := List.mem_of_mem_getLast? (by simpa using stop)
      rw [eq_of_isMark_of_mem_foldPoint member mark]
      rfl
    | cons next more =>
      have filled : (next :: more).flatMap foldPoint ≠ [] := fold_ne_nil (by simp)
      have known := List.getLast?_eq_some_getLast filled
      rw [known, Option.some_or, ← known] at stop
      rw [List.getLast?_cons_cons]
      exact ih stop

end PasswordAudit.Text
