import PasswordAudit.Proofs.Decimal.Whole
import PasswordAudit.Proofs.Text.Strip
import PasswordAudit.Text.Lines

/-! Texts of one line, and the lines of several of them written one under the other. Cutting such a
text at every line boundary that Unicode knows gives the lines back, and no line of any text holds
such a boundary. The first line of an input is another matter: only a line feed ends it. -/
namespace PasswordAudit.Text

theorem isBlank_of_isLineBoundary {c : Char} (boundary : isLineBoundary c = true) :
    isBlank c = true := by
  simp only [isLineBoundary, isBlank, isWhiteSpace, Bool.or_eq_true, Bool.and_eq_true,
    decide_eq_true_eq, beq_iff_eq] at boundary ⊢
  omega

def IsOneLine (text : Text) : Prop := ∀ c ∈ text, isLineBoundary c = false

instance (text : Text) : Decidable text.IsOneLine :=
  List.decidableBAll (isLineBoundary · = false) text

theorem isOneLine_append {first second : Text} (one : first.IsOneLine) (other : second.IsOneLine) :
    IsOneLine (first ++ second) := by
  intro c member
  rcases List.mem_append.1 member with left | right
  · exact one c left
  · exact other c right

theorem isOneLine_around {before inside after : Text} (first : before.IsOneLine)
    (middle : inside.IsOneLine) (last : after.IsOneLine) : IsOneLine (before ++ inside ++ after) :=
  isOneLine_append (isOneLine_append first middle) last

theorem isOneLine_natural (n : Nat) : IsOneLine (Decimal.natural n) := by
  intro c member
  obtain ⟨lower, upper⟩ := toNat_of_isDigit (Decimal.isDigit_of_mem_natural member)
  simp only [isLineBoundary, Bool.or_eq_false_iff, Bool.and_eq_false_iff, decide_eq_false_iff_not,
    beq_eq_false_iff_ne]
  omega

private theorem lines_cons (c : Char) (rest : Text) (inside : isLineBoundary c = false) :
    lines (c :: rest) =
      match lines rest with
      | [] => [[c]]
      | line :: more => (c :: line) :: more := by
  have feedless : c ≠ '\r' := by
    rintro rfl
    exact absurd inside (by decide)
  rw [lines, inside]
  · rfl
  · intro _ same
    exact absurd same feedless

theorem lines_of_isOneLine (line : Text) (one : line.IsOneLine) (filled : line ≠ []) :
    lines line = [line] := by
  induction line with
  | nil => exact absurd rfl filled
  | cons c rest ih =>
    rw [lines_cons c rest (one c (List.mem_cons_self ..))]
    cases rest with
    | nil => rfl
    | cons d more =>
      rw [ih (fun e member => one e (List.mem_cons_of_mem _ member)) (by simp)]

theorem lines_append_feed (line rest : Text) (one : line.IsOneLine) :
    lines (line ++ '\n' :: rest) = line :: lines rest := by
  induction line with
  | nil => simp [lines, isLineBoundary]
  | cons c before ih =>
    rw [List.cons_append, lines_cons c _ (one c (List.mem_cons_self ..)),
      ih (fun e member => one e (List.mem_cons_of_mem _ member))]

/-- Lines written one under the other are read back, as long as none of them is empty. -/
theorem lines_intercalate (texts : List Text) (one : ∀ text ∈ texts, text.IsOneLine)
    (filled : ∀ text ∈ texts, text ≠ []) :
    lines (List.intercalate "\n".toList texts) = texts := by
  induction texts with
  | nil => rfl
  | cons text rest ih =>
    have first := one text (List.mem_cons_self ..)
    cases rest with
    | nil =>
      rw [List.intercalate_singleton]
      exact lines_of_isOneLine text first (filled text (List.mem_cons_self ..))
    | cons next more =>
      have later := ih (fun other member => one other (List.mem_cons_of_mem _ member))
        (fun other member => filled other (List.mem_cons_of_mem _ member))
      rw [List.intercalate_cons_cons, List.append_assoc]
      exact (lines_append_feed text _ first).trans (congrArg _ later)

/-- With a line feed at the end even empty lines are read back, as long as there are any. -/
theorem lines_intercalate_feed (texts : List Text) (one : ∀ text ∈ texts, text.IsOneLine)
    (some : texts ≠ []) :
    lines (List.intercalate "\n".toList texts ++ "\n".toList) = texts := by
  induction texts with
  | nil => exact absurd rfl some
  | cons text rest ih =>
    have first := one text (List.mem_cons_self ..)
    cases rest with
    | nil =>
      rw [List.intercalate_singleton]
      exact lines_append_feed text [] first
    | cons next more =>
      have later := ih (fun other member => one other (List.mem_cons_of_mem _ member)) (by simp)
      rw [List.intercalate_cons_cons, List.append_assoc, List.append_assoc]
      exact (lines_append_feed text _ first).trans (congrArg _ later)

theorem mem_of_mem_intercalate {c : Char} {between : Text} {texts : List Text}
    (member : c ∈ List.intercalate between texts) : c ∈ between ∨ ∃ text ∈ texts, c ∈ text := by
  induction texts with
  | nil => cases member
  | cons text rest ih =>
    cases rest with
    | nil =>
      rw [List.intercalate_singleton] at member
      exact .inr ⟨text, List.mem_singleton_self text, member⟩
    | cons next more =>
      rw [List.intercalate_cons_cons, List.append_assoc] at member
      rcases List.mem_append.1 member with first | later
      · exact .inr ⟨text, List.mem_cons_self .., first⟩
      rcases List.mem_append.1 later with middle | last
      · exact .inl middle
      rcases ih last with middle | ⟨other, listed, inside⟩
      · exact .inl middle
      · exact .inr ⟨other, List.mem_cons_of_mem _ listed, inside⟩

theorem isOneLine_of_mem_lines {text line : Text} (member : line ∈ lines text) :
    line.IsOneLine := by
  fun_induction lines text generalizing line with
  | case1 => cases member
  | case2 rest ih =>
    rcases List.mem_cons.1 member with rfl | later
    · intro c inside
      cases inside
    · exact ih later
  | case3 c rest _ _ ih =>
    rcases List.mem_cons.1 member with rfl | later
    · intro c inside
      cases inside
    · exact ih later
  | case4 c rest _ inside ended ih =>
    obtain rfl := List.mem_singleton.1 member
    intro d same
    obtain rfl := List.mem_singleton.1 same
    simpa using inside
  | case5 c rest _ inside first more cut ih =>
    rw [cut] at ih
    rcases List.mem_cons.1 member with rfl | later
    · intro d place
      rcases List.mem_cons.1 place with rfl | place
      · simpa using inside
      · exact ih (List.mem_cons_self ..) d place
    · exact ih (List.mem_cons_of_mem _ later)

theorem unifyNewlines_eq_self {text : Text} (free : '\r' ∉ text) : unifyNewlines text = text := by
  fun_induction unifyNewlines text with
  | case1 => rfl
  | case2 rest ih => simp at free
  | case3 c rest _ ih =>
    have first : c ≠ '\r' := fun same => free (same ▸ List.mem_cons_self ..)
    rw [if_neg first, ih fun later => free (List.mem_cons_of_mem _ later)]

theorem unifyNewlines_append {text : Text} (free : '\r' ∉ text) (rest : Text) :
    unifyNewlines (text ++ rest) = text ++ unifyNewlines rest := by
  induction text with
  | nil => rfl
  | cons c more ih =>
    obtain ⟨here, later⟩ := not_or.1 (mt List.mem_cons.2 free)
    rw [List.cons_append, unifyNewlines, if_neg (Ne.symm here), ih later, List.cons_append]
    intro _ same
    exact absurd same.symm here

theorem lines_flatMap_feed (texts : List Text) (one : ∀ text ∈ texts, text.IsOneLine) :
    lines (texts.flatMap (· ++ "\n".toList)) = texts := by
  induction texts with
  | nil => rfl
  | cons text rest ih =>
    have first := one text (List.mem_cons_self ..)
    have later := ih fun other member => one other (List.mem_cons_of_mem _ member)
    rw [List.flatMap_cons, List.append_assoc]
    exact (lines_append_feed text _ first).trans (congrArg _ later)

/-- After this line come carriage returns, if any, and then a line feed or the end. -/
inductive HasFirstLine (line : Text) : Text → Prop
  | feed (returns : Nat) (rest : Text) :
      HasFirstLine line (line ++ List.replicate returns '\r' ++ '\n' :: rest)
  | ended (returns : Nat) : HasFirstLine line (line ++ List.replicate returns '\r')

/-- The line holds no line feed and has no carriage return at its end. -/
structure IsFirstLine (line text : Text) : Prop where
  feedFree : '\n' ∉ line
  unreturned : '\r' ∉ line.getLast?
  starts : HasFirstLine line text

private theorem takeWhile_eq_of_feedFree {line : Text} (feedFree : '\n' ∉ line) (returns : Nat)
    (rest : Text) :
    (line ++ List.replicate returns '\r' ++ rest).takeWhile (· ≠ '\n') =
      line ++ List.replicate returns '\r' ++ rest.takeWhile (· ≠ '\n') := by
  refine List.takeWhile_append_of_pos fun c member => ?_
  have apart : c ≠ '\n' := by
    rintro rfl
    rcases List.mem_append.1 member with inLine | returned
    · exact feedFree inLine
    · exact absurd (List.eq_of_mem_replicate returned) (by decide)
  simpa using apart

private theorem firstLine_eq_of_isFirstLine {line text : Text} (first : IsFirstLine line text) :
    firstLine text = line := by
  obtain ⟨feedFree, unreturned, starts⟩ := first
  have stripped : ∀ returns,
      (line ++ List.replicate returns '\r').rdropWhile (· = '\r') = line := by
    intro returns
    rw [rdropWhile_append_of_marked _ _ _ (by simp [List.mem_replicate]),
      List.rdropWhile_eq_self_iff]
    intro filled
    have last := List.getLast?_eq_getLast_of_ne_nil filled
    simpa [last] using unreturned
  cases starts with
  | feed returns rest =>
    have line_eq := takeWhile_eq_of_feedFree feedFree returns ('\n' :: rest)
    rw [List.takeWhile_cons_of_neg (by decide), List.append_nil] at line_eq
    rw [firstLine, line_eq]
    exact stripped returns
  | ended returns =>
    have line_eq := takeWhile_eq_of_feedFree feedFree returns []
    rw [List.takeWhile_nil, List.append_nil] at line_eq
    rw [firstLine, line_eq]
    exact stripped returns

theorem isFirstLine_firstLine (text : Text) : IsFirstLine (firstLine text) text := by
  have split : firstLine text ++ (text.takeWhile (· ≠ '\n')).rtakeWhile (· = '\r') =
      text.takeWhile (· ≠ '\n') := List.rdropWhile_append_rtakeWhile ..
  have returns : (text.takeWhile (· ≠ '\n')).rtakeWhile (· = '\r') =
      List.replicate ((text.takeWhile (· ≠ '\n')).rtakeWhile (· = '\r')).length '\r' := by
    refine List.eq_replicate_iff.2 ⟨rfl, fun c member => ?_⟩
    simpa using List.mem_rtakeWhile_imp member
  rw [returns] at split
  refine ⟨fun feed => ?_, fun last => ?_, ?_⟩
  · have inside : '\n' ∈ text.takeWhile (· ≠ '\n') := by
      rw [← split]
      exact List.mem_append_left _ feed
    simpa using List.mem_takeWhile_imp inside
  · simpa using getLast?_rdropWhile (· = '\r') (text.takeWhile (· ≠ '\n')) '\r' last
  · have whole := List.takeWhile_append_dropWhile (p := (· ≠ '\n')) (l := text)
    cases after : text.dropWhile (· ≠ '\n') with
    | nil =>
      rw [after, List.append_nil, ← split] at whole
      conv => rhs; rw [← whole]
      exact .ended _
    | cons c rest =>
      have feed := head?_dropWhile (· ≠ '\n') text c (by rw [after]; rfl)
      rw [after, ← split, show c = '\n' by simpa using feed] at whole
      conv => rhs; rw [← whole]
      exact .feed _ _

theorem firstLine_eq_iff (text line : Text) : firstLine text = line ↔ IsFirstLine line text :=
  ⟨fun same => same ▸ isFirstLine_firstLine text, firstLine_eq_of_isFirstLine⟩

end PasswordAudit.Text
