import Mathlib
import PasswordAudit.Checklist
import PasswordAudit.Proofs.Decimal.Whole
import PasswordAudit.Proofs.Evaluation
import PasswordAudit.Proofs.Except
import PasswordAudit.Proofs.Text.Lines

/-! The checklist against evaluation. A policy has a line for a kind of violation just if it has
that requirement, so whatever an evaluation reports has its line, and the lines marked as failed
are what was reported. Written out, each requirement takes one line. An evaluation writes no
numbers; a checklist does, and if one of them has too many digits there is none. -/
namespace PasswordAudit

namespace Count

theorem isWritable_iff (count : Count) :
    count.isWritable = true ↔ count.toNat < 10 ^ Decimal.digitLimit := by
  cases count with
  | number n =>
    change Decimal.isWritable (n : Int).natAbs = true ↔ _
    rw [Int.natAbs_natCast, Decimal.isWritable_iff]
    rfl
  | flag b =>
    have limit : 1 < 10 ^ Decimal.digitLimit := Nat.one_lt_pow (by decide) (by decide)
    exact iff_of_true rfl ((Bool.toNat_le b).trans_lt limit)

private theorem isWritable_of_isZero {count : Count} (zero : count.isZero = true) :
    count.isWritable = true := by
  have nothing : count.toNat = 0 := by simpa [isZero_eq] using zero
  rw [isWritable_iff, nothing]
  exact Nat.pow_pos (by decide)

private theorem write_eq_ok_iff (count : Count) (text : Text) :
    count.write = .ok text ↔ count.isWritable = true ∧ text = count.text := by
  unfold write
  cases count.isWritable <;> simp [eq_comm]

private theorem isOneLine_text (count : Count) : Text.IsOneLine count.text := by
  cases count with
  | number n => exact Text.isOneLine_natural n
  | flag b => cases b <;> decide

end Count

namespace Policy

variable (policy : Policy)

instance : DecidablePred policy.Requires := fun violation => by
  cases violation <;> unfold Requires <;> infer_instance

structure HasWritableCounts : Prop where
  minLength : policy.minLength.isWritable = true
  goodStrength : 0 < policy.minLength.toNat → policy.goodStrength.isWritable = true
  maxLength : policy.maxLength.isWritable = true
  minCharacteristics : policy.minCharacteristics.isWritable = true
  maxRepeating : ∀ limit ∈ policy.maxRepeating, limit.isWritable = true
  expirationDays : policy.expirationDays.isWritable = true
  graceLength : 0 < policy.expirationDays.toNat → policy.graceLength.isWritable = true

section Wording

variable {policy} {violation : Violation} {text : Text} {wording? : Option Text}

/-- What is written of a count unless it is zero: phrases and notes are all of this form. -/
theorem unlessZero_eq_ok_iff {α : Type} (count : Count) (silent result : α)
    (next : Text → Except Count.Fault α) :
    (if count.isZero then .ok silent else count.write >>= next) = .ok result ↔
      (count.isZero = true ∧ result = silent) ∨
      (0 < count.toNat ∧ count.isWritable = true ∧ next count.text = .ok result) := by
  rw [← Count.isZero_eq_false_iff]
  cases count.isZero with
  | true => simp [@eq_comm _ silent]
  | false => simp [Except.bind_eq_ok_iff, Count.write_eq_ok_iff, and_assoc]

private theorem exists_unlessZero_iff {α : Type} (count : Count) (silent : α)
    (next : Text → Except Count.Fault α) :
    (∃ result, (if count.isZero then .ok silent else count.write >>= next) = .ok result) ↔
      count.isWritable = true ∧ (0 < count.toNat → ∃ result, next count.text = .ok result) := by
  simp only [unlessZero_eq_ok_iff, ← Count.isZero_eq_false_iff]
  cases zero : count.isZero with
  | true => simp [Count.isWritable_of_isZero zero]
  | false => simp

private theorem phraseUnlessZero_eq_ok_iff (count : Count) (before after : Text)
    (note : Except Count.Fault Text) (wording? : Option Text) :
    phraseUnlessZero count before after note = .ok wording? ↔
      (count.isZero = true ∧ wording? = none) ∨
      (0 < count.toNat ∧ count.isWritable = true ∧
        ∃ noted, note = .ok noted ∧ wording? = some (before ++ count.text ++ after ++ noted)) := by
  rw [phraseUnlessZero, unlessZero_eq_ok_iff]
  simp only [Except.bind_eq_ok_iff, pure, Except.pure, Except.ok.injEq, @eq_comm _ _ wording?]

theorem exists_of_phraseUnlessZero {count : Count} {before after : Text}
    {note : Except Count.Fault Text}
    (worded : phraseUnlessZero count before after note = .ok (some text)) :
    ∃ noted, note = .ok noted ∧ text = before ++ count.text ++ after ++ noted := by
  rcases (phraseUnlessZero_eq_ok_iff _ _ _ _ _).1 worded with ⟨_, none⟩ | ⟨_, _, noted, told, same⟩
  · cases none
  · exact ⟨noted, told, Option.some.inj same⟩

private theorem isSome_phraseUnlessZero {count : Count} {before after : Text}
    {note : Except Count.Fault Text}
    (worded : phraseUnlessZero count before after note = .ok wording?) :
    wording?.isSome = true ↔ 0 < count.toNat := by
  rcases (phraseUnlessZero_eq_ok_iff _ _ _ _ _).1 worded with
    ⟨zero, rfl⟩ | ⟨positive, _, noted, _, rfl⟩
  · rw [← Count.isZero_eq_false_iff, zero]
    simp
  · simp [positive]

private theorem exists_phraseUnlessZero_iff (count : Count) (before after : Text)
    (note : Except Count.Fault Text) :
    (∃ wording?, phraseUnlessZero count before after note = .ok wording?) ↔
      count.isWritable = true ∧ (0 < count.toNat → ∃ noted, note = .ok noted) := by
  unfold phraseUnlessZero
  rw [exists_unlessZero_iff]
  cases note <;> simp [bind, Except.bind, pure, Except.pure]

private theorem exists_exemptionNote_iff :
    (∃ note, policy.exemptionNote = .ok note) ↔ policy.goodStrength.isWritable = true := by
  unfold exemptionNote
  rw [exists_unlessZero_iff]
  exact and_iff_left fun _ => ⟨_, rfl⟩

private theorem exists_graceNote_iff :
    (∃ note, policy.graceNote = .ok note) ↔ policy.graceLength.isWritable = true := by
  unfold graceNote
  rw [exists_unlessZero_iff]
  exact and_iff_left fun _ => ⟨_, rfl⟩

theorem isSome_wording (worded : policy.wording violation = .ok wording?) :
    wording?.isSome = true ↔ policy.Requires violation := by
  cases violation with
  | repeatedCharacters =>
    simp only [wording, Requires] at worded ⊢
    cases limited : policy.maxRepeating with
    | none =>
      rw [limited] at worded
      simp [← Except.ok.inj worded]
    | some limit =>
      rw [limited] at worded
      obtain ⟨number, _, same⟩ := (Except.bind_eq_ok_iff _ _ _).1 worded
      simp [← Except.ok.inj same]
  | dictionaryMatch =>
    rw [← Except.ok.inj worded]
    simp [Requires, usesLexicon, Lexicon.isEmpty]
  | _ => exact isSome_phraseUnlessZero worded

/-- No wording breaks a line, whatever the numbers in it are. -/
private theorem isOneLine_phraseUnlessZero {count : Count} {before after : Text}
    {note : Except Count.Fault Text}
    (worded : phraseUnlessZero count before after note = .ok (some text))
    (first : before.IsOneLine) (last : after.IsOneLine)
    (noted : ∀ shown, note = .ok shown → shown.IsOneLine) : text.IsOneLine := by
  obtain ⟨shown, told, rfl⟩ := exists_of_phraseUnlessZero worded
  exact Text.isOneLine_append (Text.isOneLine_around first count.isOneLine_text last)
    (noted shown told)

private theorem isOneLine_exemptionNote (noted : policy.exemptionNote = .ok text) :
    text.IsOneLine := by
  rcases (unlessZero_eq_ok_iff _ _ _ _).1 noted with ⟨_, rfl⟩ | ⟨_, _, same⟩
  · decide
  · rw [← Except.ok.inj same]
    split <;> exact Text.isOneLine_around (by decide) (Count.isOneLine_text _) (by decide)

private theorem isOneLine_graceNote (noted : policy.graceNote = .ok text) : text.IsOneLine := by
  rcases (unlessZero_eq_ok_iff _ _ _ _).1 noted with ⟨_, rfl⟩ | ⟨_, _, same⟩
  · decide
  · rw [← Except.ok.inj same]
    exact Text.isOneLine_around (by decide) (Count.isOneLine_text _) (by decide)

private theorem isOneLine_phrase (rules : List (Rule Count)) :
    Text.IsOneLine (Rule.phrase rules) := by
  unfold Rule.phrase
  split <;> decide

private theorem isOneLine_wording (worded : policy.wording violation = .ok (some text)) :
    text.IsOneLine := by
  cases violation with
  | tooShort =>
    exact isOneLine_phraseUnlessZero worded (by decide) (by decide) fun _ =>
      isOneLine_exemptionNote
  | tooLong =>
    refine isOneLine_phraseUnlessZero worded (by decide) (by decide) fun shown told => ?_
    cases told
    decide
  | insufficientCharacteristics =>
    refine isOneLine_phraseUnlessZero worded (by decide) (by decide) fun shown told => ?_
    cases told
    exact isOneLine_phrase policy.rules
  | repeatedCharacters =>
    simp only [wording] at worded
    cases limited : policy.maxRepeating with
    | none =>
      rw [limited] at worded
      cases worded
    | some limit =>
      rw [limited] at worded
      obtain ⟨number, written, same⟩ := (Except.bind_eq_ok_iff _ _ _).1 worded
      obtain ⟨_, rfl⟩ := (Count.write_eq_ok_iff _ _).1 written
      cases same
      exact Text.isOneLine_around (by decide) limit.isOneLine_text (by decide)
  | dictionaryMatch =>
    have told := Except.ok.inj worded
    rw [Option.ite_none_right_eq_some] at told
    cases told.2
    decide
  | expired =>
    exact isOneLine_phraseUnlessZero worded (by decide) (by decide) fun _ => isOneLine_graceNote

end Wording

theorem forall_exists_wording_iff :
    (∀ violation, ∃ wording?, policy.wording violation = .ok wording?) ↔
      policy.HasWritableCounts := by
  have repeated : (∃ wording?, policy.wording .repeatedCharacters = .ok wording?) ↔
      ∀ limit ∈ policy.maxRepeating, limit.isWritable = true := by
    simp only [wording]
    cases policy.maxRepeating with
    | none => simp
    | some limit =>
      simp [Except.bind_eq_ok_iff, Count.write_eq_ok_iff, pure, Except.pure]
  constructor
  · intro worded
    obtain ⟨minLength, goodStrength⟩ :=
      (exists_phraseUnlessZero_iff _ _ _ _).1 (worded .tooShort)
    obtain ⟨expirationDays, graceLength⟩ :=
      (exists_phraseUnlessZero_iff _ _ _ _).1 (worded .expired)
    exact {
      minLength, expirationDays
      goodStrength := fun enabled => exists_exemptionNote_iff.1 (goodStrength enabled)
      maxLength := ((exists_phraseUnlessZero_iff _ _ _ _).1 (worded .tooLong)).1
      minCharacteristics :=
        ((exists_phraseUnlessZero_iff _ _ _ _).1 (worded .insufficientCharacteristics)).1
      maxRepeating := repeated.1 (worded .repeatedCharacters)
      graceLength := fun enabled => exists_graceNote_iff.1 (graceLength enabled) }
  · intro writable violation
    cases violation with
    | tooShort =>
      exact (exists_phraseUnlessZero_iff _ _ _ _).2 ⟨writable.minLength,
        fun enabled => exists_exemptionNote_iff.2 (writable.goodStrength enabled)⟩
    | tooLong =>
      exact (exists_phraseUnlessZero_iff _ _ _ _).2 ⟨writable.maxLength, fun _ => ⟨_, rfl⟩⟩
    | insufficientCharacteristics =>
      exact (exists_phraseUnlessZero_iff _ _ _ _).2 ⟨writable.minCharacteristics,
        fun _ => ⟨_, rfl⟩⟩
    | repeatedCharacters => exact repeated.2 writable.maxRepeating
    | dictionaryMatch => exact ⟨_, rfl⟩
    | expired =>
      exact (exists_phraseUnlessZero_iff _ _ _ _).2 ⟨writable.expirationDays,
        fun enabled => exists_graceNote_iff.2 (writable.graceLength enabled)⟩

/-- Only what is required is reported, whether or not other checks answer. -/
private theorem requires_of_mem_reported {changed : Option (Given Moment)} {now : Moment}
    {password : Text} {violation : Violation}
    (member : violation ∈ policy.reported changed now password) : policy.Requires violation := by
  obtain ⟨_, failing⟩ := List.mem_filter.1 member
  obtain ⟨check, guarded, _⟩ := (Option.any_eq_true _ _).1 failing
  exact policy.requires_of_guardFor? guarded

def listed : List Violation := Violation.all.filter (policy.Requires ·)

private theorem listed_ranked : policy.listed.Pairwise fun a b => a.rank < b.rank :=
  Violation.all_ranked.sublist List.filter_sublist

section Lines

variable {policy} {kinds : List Violation} {texts : List (Violation × Text)}
  {violated : Option (List Violation)} {shown : List Requirement}

private theorem exists_wordings_iff (kinds : List Violation) :
    (∃ texts, policy.wordings kinds = .ok texts) ↔
      ∀ violation ∈ kinds, ∃ wording?, policy.wording violation = .ok wording? := by
  induction kinds with
  | nil => simp [wordings]
  | cons violation rest ih =>
    rw [List.forall_mem_cons, ← ih]
    simp [wordings, Except.bind_eq_ok_iff, pure, Except.pure]

private theorem wordings_cons {violation : Violation} {rest : List Violation}
    (worded : policy.wordings (violation :: rest) = .ok texts) :
    ∃ wording? others, policy.wording violation = .ok wording? ∧
      policy.wordings rest = .ok others ∧
        texts = (wording?.map (violation, ·)).toList ++ others := by
  obtain ⟨wording?, first, later⟩ := (Except.bind_eq_ok_iff _ _ _).1 worded
  obtain ⟨others, second, same⟩ := (Except.bind_eq_ok_iff _ _ _).1 later
  exact ⟨wording?, others, first, second, (Except.ok.inj same).symm⟩

private theorem kinds_of_wordings (worded : policy.wordings kinds = .ok texts) :
    texts.map Prod.fst = kinds.filter (policy.Requires ·) := by
  induction kinds generalizing texts with
  | nil =>
    cases worded
    rfl
  | cons violation rest ih =>
    obtain ⟨wording?, others, first, second, rfl⟩ := wordings_cons worded
    have required := isSome_wording first
    rw [List.map_append, ih second]
    cases wording? with
    | none => simp [← required]
    | some text => simp [← required]

theorem wording_of_mem_wordings (worded : policy.wordings kinds = .ok texts)
    {violation : Violation} {text : Text} :
    (violation, text) ∈ texts ↔
      violation ∈ kinds ∧ policy.wording violation = .ok (some text) := by
  induction kinds generalizing texts with
  | nil =>
    cases worded
    simp
  | cons other rest ih =>
    obtain ⟨wording?, others, first, second, rfl⟩ := wordings_cons worded
    rw [List.mem_append, ih second, List.mem_cons, or_and_right]
    refine or_congr_left ?_
    rw [Option.mem_toList, Option.map_eq_some_iff]
    constructor
    · rintro ⟨_, rfl, same⟩
      cases same
      exact ⟨rfl, first⟩
    · rintro ⟨rfl, same⟩
      rw [first] at same
      exact ⟨text, Except.ok.inj same, rfl⟩

theorem checklist_eq_ok_iff (violated : Option (List Violation)) (shown : List Requirement) :
    policy.checklist violated = .ok shown ↔ ∃ texts, policy.wordings Violation.all = .ok texts ∧
      shown = texts.map fun (violation, text) =>
        ⟨violation, violated.map fun found => !found.contains violation, text⟩ := by
  rw [checklist, Except.bind_eq_ok_iff]
  simp [pure, Except.pure, eq_comm]

/-- There is a checklist just if its numbers can be written, however it is to be marked. -/
theorem exists_checklist_iff (violated : Option (List Violation)) :
    (∃ shown, policy.checklist violated = .ok shown) ↔ policy.HasWritableCounts := by
  rw [← forall_exists_wording_iff]
  simp only [checklist_eq_ok_iff]
  constructor
  · rintro ⟨_, texts, worded, _⟩ violation
    exact (exists_wordings_iff _).1 ⟨texts, worded⟩ violation violation.mem_all
  · intro worded
    obtain ⟨texts, all⟩ := (exists_wordings_iff Violation.all).2 fun violation _ => worded violation
    exact ⟨_, texts, all, rfl⟩

private theorem checklist_eq_error_iff (violated : Option (List Violation)) (fault : Count.Fault) :
    policy.checklist violated = .error fault ↔ ¬ policy.HasWritableCounts := by
  rw [← exists_checklist_iff violated]
  cases fault
  cases policy.checklist violated with
  | error fault => cases fault; simp
  | ok shown => simp

private theorem kinds_of_checklist (listing : policy.checklist violated = .ok shown) :
    shown.map Requirement.violation = policy.listed := by
  obtain ⟨texts, worded, rfl⟩ := (checklist_eq_ok_iff _ _).1 listing
  rw [listed, ← kinds_of_wordings worded, List.map_map]
  rfl

private theorem failed_of_checklist {found : List Violation}
    (listing : policy.checklist (some found) = .ok shown) :
    (shown.filter (·.satisfied = some false)).map Requirement.violation =
      policy.listed.filter found.contains := by
  obtain ⟨texts, worded, rfl⟩ := (checklist_eq_ok_iff _ _).1 listing
  rw [listed, ← kinds_of_wordings worded, List.filter_map, List.filter_map, List.map_map]
  congr 1
  apply List.filter_congr
  rintro ⟨violation, text⟩ _
  simp

private theorem filter_contains_of_sublist {found kinds : List Violation}
    (inside : found.Sublist kinds)
    (distinct : kinds.Nodup) : kinds.filter found.contains = found := by
  induction inside with
  | slnil => rfl
  | @cons found kinds violation inside ih =>
    have fresh := (List.nodup_cons.1 distinct).1
    have absent : violation ∉ found := fun member => fresh (inside.subset member)
    rw [List.filter_cons_of_neg (by simpa using absent), ih (List.nodup_cons.1 distinct).2]
  | @cons_cons found kinds violation inside ih =>
    have fresh := (List.nodup_cons.1 distinct).1
    rw [List.filter_cons_of_pos (by simp)]
    congr 1
    rw [← ih (List.nodup_cons.1 distinct).2]
    apply List.filter_congr
    intro other member
    have apart : other ≠ violation := fun same => fresh (same ▸ member)
    simp [apart, ih (List.nodup_cons.1 distinct).2]

private theorem reported_sublist_listed (changed : Option (Given Moment)) (now : Moment)
    (password : Text) : (policy.reported changed now password).Sublist policy.listed := by
  have kept : (policy.reported changed now password).filter (policy.Requires ·) =
      policy.reported changed now password := by
    rw [List.filter_eq_self]
    intro violation member
    exact decide_eq_true (policy.requires_of_mem_reported member)
  rw [← kept]
  exact (policy.reported_sublist changed now password).filter _

private theorem isOneLine_of_checklist (listing : policy.checklist violated = .ok shown) :
    ∀ line ∈ shown.map Requirement.line, Text.IsOneLine line := by
  intro line member
  obtain ⟨requirement, shows, rfl⟩ := List.mem_map.1 member
  obtain ⟨texts, worded, rfl⟩ := (checklist_eq_ok_iff _ _).1 listing
  obtain ⟨⟨violation, text⟩, told, rfl⟩ := List.mem_map.1 shows
  have one := isOneLine_wording ((wording_of_mem_wordings worded).1 told).2
  refine Text.isOneLine_around ?_ (by decide) one
  unfold Requirement.mark
  split <;> decide

end Lines

end Policy

namespace Requirement

private theorem line_ne_nil (requirement : Requirement) : requirement.line ≠ [] := by
  simp [line]

private theorem isPrefixOf_line (requirement : Requirement) :
    "[fail]".toList.isPrefixOf requirement.line = decide (requirement.satisfied = some false) := by
  obtain ⟨violation, satisfied, text⟩ := requirement
  match satisfied with
  | none => rfl
  | some true => rfl
  | some false => rfl

end Requirement

namespace Policy

variable {policy : Policy} {violated : Option (List Violation)} {shown : List Requirement}
  {found : List Violation}

private theorem lines_render_checklist (listing : policy.checklist violated = .ok shown) :
    Text.lines (Requirement.render shown) = shown.map Requirement.line := by
  refine Text.lines_intercalate _ (isOneLine_of_checklist listing) fun line member => ?_
  obtain ⟨requirement, _, rfl⟩ := List.mem_map.1 member
  exact requirement.line_ne_nil

private theorem failed_of_evaluate {clock : Moment} {context : Context} {password : Text}
    (evaluated : policy.evaluate clock context password = .ok found)
    (listing : policy.checklist (some found) = .ok shown) :
    (shown.filter (·.satisfied = some false)).map Requirement.violation = found := by
  obtain ⟨_, rfl⟩ := (policy.violations_eq_ok_iff _ _ _ _).1 evaluated
  rw [failed_of_checklist listing]
  exact filter_contains_of_sublist (reported_sublist_listed _ _ _)
    (Violation.all_nodup.sublist List.filter_sublist)

private theorem length_failLines (listing : policy.checklist violated = .ok shown) :
    ((Text.lines (Requirement.render shown)).filter ("[fail]".toList.isPrefixOf ·)).length =
      (shown.filter (·.satisfied = some false)).length := by
  rw [lines_render_checklist listing, List.filter_map, List.length_map]
  congr 2
  funext requirement
  exact requirement.isPrefixOf_line

private theorem lines_print_checklist (listing : policy.checklist violated = .ok shown) :
    Text.lines (Requirement.render shown ++ "\n".toList) =
      if shown = [] then [[]] else shown.map Requirement.line := by
  split
  · next empty =>
    rw [empty]
    rfl
  · next filled =>
    exact Text.lines_intercalate_feed _ (isOneLine_of_checklist listing) (by simpa using filled)

theorem exists_failLine_iff (listing : policy.checklist (some found) = .ok shown) :
    (∃ line ∈ Text.lines (Requirement.render shown ++ "\n".toList), "[fail]".toList <+: line) ↔
      ∃ violation ∈ found, policy.Requires violation := by
  have marked : (∃ line ∈ Text.lines (Requirement.render shown ++ "\n".toList),
        "[fail]".toList <+: line) ↔
      ∃ requirement ∈ shown, requirement.satisfied = some false := by
    have failing : ∀ requirement : Requirement,
        "[fail]".toList <+: requirement.line ↔ requirement.satisfied = some false := by
      intro requirement
      rw [← List.isPrefixOf_iff_prefix, requirement.isPrefixOf_line, decide_eq_true_iff]
    rw [lines_print_checklist listing]
    split
    · next empty => simp [empty]
    · simp only [List.mem_map, exists_exists_and_eq_and, failing]
  have kinds := failed_of_checklist listing
  rw [marked]
  constructor
  · rintro ⟨requirement, member, failed⟩
    have kind : requirement.violation ∈ policy.listed.filter found.contains := by
      rw [← kinds]
      exact List.mem_map_of_mem (List.mem_filter.2 ⟨member, by simpa using failed⟩)
    obtain ⟨listed, reported⟩ := List.mem_filter.1 kind
    exact ⟨_, by simpa using reported, of_decide_eq_true (List.mem_filter.1 listed).2⟩
  · rintro ⟨violation, reported, required⟩
    have kind : violation ∈ policy.listed.filter found.contains :=
      List.mem_filter.2 ⟨List.mem_filter.2 ⟨violation.mem_all, decide_eq_true required⟩,
        by simpa using reported⟩
    rw [← kinds] at kind
    obtain ⟨requirement, member, _⟩ := List.mem_map.1 kind
    exact ⟨requirement, (List.mem_filter.1 member).1, by simpa using (List.mem_filter.1 member).2⟩

/-- Whenever an evaluation gives a result and the numbers of the policy can be written, there is a
checklist marked with the result, and it agrees. Its lines come in the order of the violations,
every violation that was found has its line, the lines marked as failed are those violations and
all others are marked as met. Unmarked it holds the same lines. It is written with one line for
each requirement, and the lines that tell of a failure are as many as the violations. -/
theorem checklist_agrees_with_evaluate (policy : Policy) (clock : Moment) (context : Context)
    (password : Text) (found : List Violation)
    (evaluated : policy.evaluate clock context password = .ok found) :
    (∀ violated, (∃ shown, policy.checklist violated = .ok shown) ↔ policy.HasWritableCounts) ∧
    (∀ violated shown, policy.checklist violated = .ok shown →
      Text.lines (Requirement.render shown) = shown.map Requirement.line) ∧
    Requirement.render [] = [] ∧
    ∀ shown, policy.checklist (some found) = .ok shown →
      (shown.map Requirement.violation).Pairwise (fun a b => a.rank < b.rank) ∧
      (∀ violation ∈ found, ∃ requirement ∈ shown, requirement.violation = violation) ∧
      (shown.filter (·.satisfied = some false)).map Requirement.violation = found ∧
      (∀ requirement ∈ shown,
        requirement.satisfied ≠ some false → requirement.satisfied = some true) ∧
      policy.checklist none =
        .ok (shown.map fun requirement => { requirement with satisfied := none }) ∧
      ((Text.lines (Requirement.render shown)).filter ("[fail]".toList.isPrefixOf ·)).length =
        found.length := by
  refine ⟨exists_checklist_iff, fun _ _ => lines_render_checklist, rfl, ?_⟩
  intro shown listing
  have failed := failed_of_evaluate evaluated listing
  refine ⟨?_, ?_, failed, ?_, ?_, ?_⟩
  · rw [kinds_of_checklist listing]
    exact policy.listed_ranked
  · intro violation member
    rw [← failed] at member
    obtain ⟨requirement, marked, same⟩ := List.mem_map.1 member
    exact ⟨requirement, (List.mem_filter.1 marked).1, same⟩
  · intro requirement member unfailed
    obtain ⟨texts, _, rfl⟩ := (checklist_eq_ok_iff _ _).1 listing
    obtain ⟨⟨violation, text⟩, _, rfl⟩ := List.mem_map.1 member
    simpa using unfailed
  · obtain ⟨texts, worded, rfl⟩ := (checklist_eq_ok_iff _ _).1 listing
    exact (checklist_eq_ok_iff _ _).2 ⟨texts, worded, by simp⟩
  · rw [length_failLines listing, ← List.length_map Requirement.violation, failed]

theorem checklist_agrees_with_evaluate_oneDay :
    let clock : Moment := ⟨0, none, by decide, by simp⟩
    let found : List Violation := [.tooShort, .insufficientCharacteristics, .dictionaryMatch]
    oneDay.evaluate clock Context.blank "AB" = .ok found ∧ oneDay.HasWritableCounts ∧
      ∃ shown, oneDay.checklist (some found) = .ok shown ∧
        (shown.filter (·.satisfied = some false)).map Requirement.violation = found ∧
        ((Text.lines (Requirement.render shown)).filter
          ("[fail]".toList.isPrefixOf ·)).length = found.length := by
  intro clock found
  have evaluated : oneDay.evaluate clock Context.blank "AB" = .ok found := by decide +kernel
  obtain ⟨exists_iff, _, _, agrees⟩ :=
    checklist_agrees_with_evaluate oneDay clock Context.blank "AB" found evaluated
  have writable : oneDay.HasWritableCounts := by
    constructor <;> decide +kernel
  obtain ⟨shown, listing⟩ := (exists_iff (some found)).2 writable
  obtain ⟨_, _, failed, _, _, counted⟩ := agrees shown listing
  exact ⟨evaluated, writable, shown, listing, failed, counted⟩

/-- A password that is too short gets no checklist if the length asked for has one digit too many.
-/
theorem checklist_agrees_with_evaluate_fails_longCount :
    let policy : Policy := { preset Lexicon.empty with
      minLength := .number (10 ^ Decimal.digitLimit)
      rules := []
      minCharacteristics := .number 0
      goodStrength := .number 0
      lengths_le := .inl rfl
      characteristics_le := Nat.le_refl 0 }
    let clock : Moment := ⟨0, none, by decide, by simp⟩
    policy.evaluate clock Context.blank "a" = .ok [.tooShort] ∧
      ∀ violated, policy.checklist violated = .error .unwritable := by
  intro policy clock
  refine ⟨by decide +kernel, fun violated => (checklist_eq_error_iff violated _).2 ?_⟩
  intro writable
  have bounded := writable.minLength
  rw [Count.isWritable_iff, Count.toNat] at bounded
  exact Nat.lt_irrefl _ bounded

end Policy
end PasswordAudit
