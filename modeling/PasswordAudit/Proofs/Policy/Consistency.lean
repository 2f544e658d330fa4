import Mathlib.Algebra.Order.BigOperators.Group.List
import PasswordAudit.Proofs.Policy.Expiry

/-! Policies do not contradict themselves. No password is both too short and too long, and unless
the length is limited or words must not even be held, there is a password that a policy has nothing
against, whatever else it asks for. Such a password mixes all classes of characters, never repeats
one at once, and is longer than every word. -/
namespace PasswordAudit

namespace Text

/-- Copies of a stretch with a character of every class. -/
def mixed (copies : Nat) : Text := (List.replicate copies ['a', 'A', '0', '!']).flatten

private theorem length_mixed (copies : Nat) : (mixed copies).length = copies * 4 := by
  rw [mixed, List.length_flatten, List.map_replicate, List.sum_replicate]
  rfl

private theorem le_countP_mixed (kind : CharacterClass) (copies : Nat) :
    copies ≤ (mixed copies).countP kind.holds := by
  have occurs : 0 < (['a', 'A', '0', '!'] : Text).countP kind.holds := by
    cases kind <;> decide
  rw [mixed, List.countP_flatten, List.map_replicate, List.sum_replicate, smul_eq_mul]
  exact Nat.le_mul_of_pos_right copies occurs

private theorem isChain_mixed (copies : Nat) : (mixed copies).IsChain (· ≠ ·) := by
  induction copies with
  | zero => exact .nil
  | succ copies ih =>
    have unrolled : mixed (copies + 1) = 'a' :: 'A' :: '0' :: '!' :: mixed copies := by
      simp [mixed, List.replicate_succ]
    have joined : ('!' :: mixed copies).IsChain (· ≠ ·) := by
      cases copies with
      | zero => exact .singleton '!'
      | succ copies => exact ih.cons_cons (by decide)
    rw [unrolled]
    exact ((joined.cons_cons (by decide)).cons_cons (by decide)).cons_cons (by decide)

private theorem not_replicate_isInfix {text : Text} (chain : text.IsChain (· ≠ ·)) {copies : Nat}
    (several : 2 ≤ copies) (c : Char) : ¬ List.replicate copies c <:+: text := by
  intro inside
  obtain ⟨more, rfl⟩ := Nat.exists_eq_add_of_le' several
  have neighbours := chain.infix inside
  rw [List.replicate_succ, List.replicate_succ, List.isChain_cons_cons] at neighbours
  exact neighbours.1 rfl

private theorem length_le_length_normalize (caseSensitive : Bool) (text : Text) :
    text.length ≤ (normalize caseSensitive text).length := by
  cases caseSensitive with
  | true => exact Nat.le_refl _
  | false =>
    change text.length ≤ (fold text).length
    induction text with
    | nil => exact Nat.le_refl _
    | cons c rest ih =>
      have filled := List.length_pos_iff.2 (foldPoint_ne_nil c)
      rw [fold, List.flatMap_cons, List.length_append, List.length_cons]
      change _ ≤ _ + (fold rest).length
      omega

end Text

namespace Policy

variable (policy : Policy)

def ampleCopies : Nat :=
  policy.minLength.toNat + (policy.rules.map (·.count.toNat)).sum + policy.lexicon.longest + 1

private theorem minLength_le_ampleCopies : policy.minLength.toNat ≤ policy.ampleCopies := by
  unfold ampleCopies
  omega

private theorem longest_lt_ampleCopies : policy.lexicon.longest < policy.ampleCopies := by
  unfold ampleCopies
  omega

private theorem count_le_ampleCopies {rule : Rule Count} (member : rule ∈ policy.rules) :
    rule.count.toNat ≤ policy.ampleCopies := by
  have part : rule.count.toNat ≤ (policy.rules.map (·.count.toNat)).sum :=
    List.le_sum_of_mem (List.mem_map_of_mem member)
  unfold ampleCopies
  omega

private theorem meets_all_rules :
    (policy.rules.countP fun rule =>
      rule.count.toNat ≤ (Text.mixed policy.ampleCopies).countP rule.kind.holds) =
        policy.rules.length := by
  rw [List.countP_eq_length]
  intro rule member
  rw [decide_eq_true_eq]
  exact (policy.count_le_ampleCopies member).trans (Text.le_countP_mixed rule.kind _)

private theorem not_isBrokenBy_mixed (unlimited : policy.maxLength.toNat = 0)
    (exact : policy.lexicon.words = [] ∨ policy.substringMatch.holds = false) (now : Moment)
    {violation : Violation} (required : policy.Requires violation) :
    ¬ policy.IsBrokenBy none now (Text.mixed policy.ampleCopies) violation := by
  have size := Text.length_mixed policy.ampleCopies
  cases violation with
  | tooShort =>
    have enough := policy.minLength_le_ampleCopies
    simp only [IsBrokenBy, size]
    omega
  | tooLong => exact absurd required (by simp [Requires, unlimited])
  | insufficientCharacteristics =>
    simp only [IsBrokenBy, policy.meets_all_rules]
    exact Nat.not_lt.2 policy.characteristics_le
  | repeatedCharacters =>
    rintro ⟨limit, member, c, _, inside⟩
    have several : 2 ≤ limit.toNat + 1 := Nat.succ_le_succ (policy.repeating_pos limit member)
    exact Text.not_replicate_isInfix (Text.isChain_mixed _) several c inside
  | dictionaryMatch =>
    rcases exact with empty | whole
    · exact absurd empty required
    · rw [IsBrokenBy, if_neg (by simp [whole])]
      intro word
      have short := policy.lexicon.le_longest word
      have long := Text.length_le_length_normalize policy.lexicon.caseSensitive
        (Text.mixed policy.ampleCopies)
      have beyond := policy.longest_lt_ampleCopies
      omega
  | expired =>
    rintro ⟨_, changed, _⟩
    cases changed

/-- A policy never finds a password both too short and too long. And if it neither limits the length
nor forbids to hold words, it has nothing against some password, at any time, as long as it is not
known when that was changed. -/
theorem is_free_of_contradiction (policy : Policy) :
    (∀ clock context password found, policy.evaluate clock context password = .ok found →
      ¬ (.tooShort ∈ found ∧ .tooLong ∈ found)) ∧
    (policy.maxLength.toNat = 0 →
      policy.lexicon.words = [] ∨ policy.substringMatch.holds = false →
        ∃ password, ∀ clock now, policy.evaluate clock ⟨none, now⟩ password = .ok []) := by
  constructor
  · rintro clock context password found run ⟨short, long⟩
    obtain ⟨_, _, tooFew⟩ := (policy.mem_iff_of_evaluate_eq_ok run _).1 short
    obtain ⟨limited, _, tooMany⟩ := (policy.mem_iff_of_evaluate_eq_ok run _).1 long
    have ordered := policy.lengths_le
    simp only [Requires, IsBrokenBy] at tooFew limited tooMany
    omega
  · intro unlimited exact
    refine ⟨Text.mixed policy.ampleCopies, fun clock now => ?_⟩
    obtain ⟨found, run⟩ : ∃ found,
        policy.evaluate clock ⟨none, now⟩ (Text.mixed policy.ampleCopies) = .ok found :=
      evaluate_returns fun asks => absurd rfl asks.changed
    have clean : found = [] := by
      rw [List.eq_nil_iff_forall_not_mem]
      intro violation member
      obtain ⟨required, _, broken⟩ := (policy.mem_iff_of_evaluate_eq_ok run violation).1 member
      exact policy.not_isBrokenBy_mixed unlimited exact _ required broken
    rw [run, clean]

/-- Three special characters and an upper case letter, no character twice in a row, and not the one
word there is. -/
theorem is_free_of_contradiction_oneDay :
    let strict : Policy := { oneDay with
      rules := [⟨.special, .number 3⟩, ⟨.special, .number 3⟩, ⟨.upperCase, .flag true⟩]
      minCharacteristics := .number 3
      characteristics_le := Nat.le_refl 3
      maxRepeating := some (.flag true)
      repeating_pos := by simp [Count.toNat]
      substringMatch := .null }
    let clock : Moment := ⟨58 * Moment.microsPerDay, none, by decide, by simp⟩
    let found : List Violation := [.tooShort, .insufficientCharacteristics, .dictionaryMatch]
    (strict.evaluate clock Context.blank "aB" = .ok found ∧
      ¬ (.tooShort ∈ found ∧ .tooLong ∈ found)) ∧
    (strict.maxLength.toNat = 0 ∧
      (strict.lexicon.words = [] ∨ strict.substringMatch.holds = false)) ∧
    ∃ password, ∀ clock now, strict.evaluate clock ⟨none, now⟩ password = .ok [] := by
  intro strict clock found
  have run : strict.evaluate clock Context.blank "aB" = .ok found := by decide +kernel
  obtain ⟨lengths, password⟩ := is_free_of_contradiction strict
  exact ⟨⟨run, lengths clock Context.blank "aB" found run⟩, ⟨rfl, .inr rfl⟩,
    password rfl (.inr rfl)⟩

end Policy
end PasswordAudit
