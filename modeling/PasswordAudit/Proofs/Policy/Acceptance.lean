import PasswordAudit.Failure
import PasswordAudit.Proofs.Decimal.Whole
import PasswordAudit.Proofs.Policy.Draft

/-! Which drafts are accepted, and what is wrong with the others. The conditions on a draft are said
one by one, without the readers that check them. A condition that compares speaks of the integers
that are given, so it says nothing where there are none; one before it asks for them. A check goes
through the conditions in order, and its fault is that of the first one that is not met. -/
namespace PasswordAudit

/-- The integer that a value is. A flag is zero or one. -/
def Value.integer? : Value → Option Int
  | .int n => some n
  | .flag b => some b.toNat
  | _ => none

private theorem Count.integer?_toValue (count : Count) :
    count.toValue.integer? = some (count.toNat : Int) := by
  cases count <;> rfl

/-- The integers from a least one on that is not negative are what counts stand for. -/
private theorem Count.exists_toValue_iff (value : Value) (least : Nat) :
    (∃ count : Count, value = count.toValue ∧ least ≤ count.toNat) ↔
      ∃ n ∈ value.integer?, (least : Int) ≤ n := by
  constructor
  · rintro ⟨count, rfl, enough⟩
    exact ⟨count.toNat, count.integer?_toValue, Int.ofNat_le.2 enough⟩
  · rintro ⟨n, given, enough⟩
    cases value with
    | int m =>
      obtain rfl := Option.some.inj given
      have whole : (m.toNat : Int) = m := by omega
      refine ⟨.number m.toNat, ?_, ?_⟩
      · rw [toValue, whole]
      · rw [toNat]
        omega
    | flag b =>
      cases given
      exact ⟨.flag b, rfl, Int.ofNat_le.1 enough⟩
    | _ => cases given

namespace Policy

def Field.all : List Field :=
  [.minLength, .maxLength, .minCharacteristics, .goodStrength, .expirationDays, .graceLength]

inductive Condition
  | knownEstimator
  | integer (field : Field)
  | notNegative (field : Field)
  | lengthsInOrder
  | enoughRules
  | ruleCounts
  | roomToRepeat

/-- The conditions in the order in which they are checked. -/
def conditions : List Condition :=
  .knownEstimator :: Field.all.flatMap (fun field => [.integer field, .notNegative field])
    ++ [.lengthsInOrder, .enoughRules, .ruleCounts, .roomToRepeat]

private theorem mem_conditions (condition : Condition) : condition ∈ conditions := by
  cases condition with
  | integer field => cases field <;> simp [conditions, Field.all]
  | notNegative field => cases field <;> simp [conditions, Field.all]
  | _ => simp [conditions]

end Policy

namespace Draft
open Policy

def given (draft : Draft) : Field → Value
  | .minLength => draft.minLength
  | .maxLength => draft.maxLength
  | .minCharacteristics => draft.minCharacteristics
  | .goodStrength => draft.goodStrength
  | .expirationDays => draft.expirationDays
  | .graceLength => draft.graceLength

def Meets (draft : Draft) : Condition → Prop
  | .knownEstimator => draft.estimator = .text "length" ∨ draft.estimator = .text "entropy"
  | .integer field => ∃ n, (draft.given field).integer? = some n
  | .notNegative field => ∀ n ∈ (draft.given field).integer?, 0 ≤ n
  | .lengthsInOrder => ∀ least ∈ draft.minLength.integer?, ∀ most ∈ draft.maxLength.integer?,
    most = 0 ∨ least ≤ most
  | .enoughRules => ∀ needed ∈ draft.minCharacteristics.integer?, needed ≤ draft.rules.length
  | .ruleCounts => ∀ rule ∈ draft.rules, ∃ n ∈ rule.count.integer?, 0 ≤ n
  | .roomToRepeat => draft.maxRepeating = .null ∨ ∃ n ∈ draft.maxRepeating.integer?, 1 ≤ n

def faultOf (draft : Draft) : Condition → Fault
  | .knownEstimator => .unknownEstimator draft.estimator
  | .integer field => .notInteger field (draft.given field)
  | .notNegative field => .negative field
  | .lengthsInOrder => .lengthsCrossed
  | .enoughRules =>
    .tooManyCharacteristics ((Count.ofValue? draft.minCharacteristics).getD (.number 0))
      draft.rules.length
  | .ruleCounts => .invalidRuleCount
  | .roomToRepeat => .invalidRepetition

/-- The first in a list of conditions that a draft does not meet. -/
inductive FirstUnmet (draft : Draft) : List Condition → Condition → Prop
  | here {condition : Condition} {rest : List Condition} (unmet : ¬ draft.Meets condition) :
      FirstUnmet draft (condition :: rest) condition
  | later {condition first : Condition} {rest : List Condition} (met : draft.Meets condition)
      (more : FirstUnmet draft rest first) : FirstUnmet draft (condition :: rest) first

/-- An outcome is a result if a draft meets the conditions, and otherwise the fault of the first
that it does not meet. -/
def Decides {α : Type} (draft : Draft) (conditions : List Condition) : Except Fault α → Prop
  | .ok _ => ∀ condition ∈ conditions, draft.Meets condition
  | .error fault => ∃ condition, draft.FirstUnmet conditions condition ∧
      fault = draft.faultOf condition

variable {α β : Type} {draft : Draft} {earlier later : List Condition}

theorem FirstUnmet.append {condition : Condition} (first : draft.FirstUnmet earlier condition)
    (later : List Condition) : draft.FirstUnmet (earlier ++ later) condition := by
  induction first with
  | here unmet => exact .here unmet
  | later met _ ih => exact .later met ih

theorem FirstUnmet.after {condition : Condition} (met : ∀ known ∈ earlier, draft.Meets known)
    (first : draft.FirstUnmet later condition) :
    draft.FirstUnmet (earlier ++ later) condition := by
  induction earlier with
  | nil => exact first
  | cons known rest ih =>
    exact .later (met known (List.mem_cons_self ..))
      (ih fun other member => met other (List.mem_cons_of_mem _ member))

private theorem FirstUnmet.not_meets {conditions : List Condition} {condition : Condition}
    (first : draft.FirstUnmet conditions condition) :
    condition ∈ conditions ∧ ¬ draft.Meets condition := by
  induction first with
  | here unmet => exact ⟨List.mem_cons_self .., unmet⟩
  | later _ _ ih => exact ⟨List.mem_cons_of_mem _ ih.1, ih.2⟩

private theorem FirstUnmet.unique {conditions : List Condition} {condition other : Condition}
    (first : draft.FirstUnmet conditions condition) (same : draft.FirstUnmet conditions other) :
    condition = other := by
  induction first with
  | here unmet =>
    cases same with
    | here _ => rfl
    | later met _ => exact absurd met unmet
  | later met _ ih =>
    cases same with
    | here unmet => exact absurd met unmet
    | later _ more => exact ih more

theorem Decides.bind {first : Except Fault α} {next : α → Except Fault β}
    (decided : draft.Decides earlier first)
    (rest : ∀ value, first = .ok value → draft.Decides later (next value)) :
    draft.Decides (earlier ++ later) (first >>= next) := by
  cases first with
  | error fault =>
    obtain ⟨condition, unmet, same⟩ := decided
    exact ⟨condition, unmet.append later, same⟩
  | ok value =>
    have outcome := rest value rfl
    change draft.Decides (earlier ++ later) (next value)
    cases run : next value with
    | error fault =>
      rw [run] at outcome
      obtain ⟨condition, unmet, same⟩ := outcome
      exact ⟨condition, .after decided unmet, same⟩
    | ok result =>
      rw [run] at outcome
      exact List.forall_mem_append.2 ⟨decided, outcome⟩

theorem Decides.cons {condition : Condition} {outcome : Except Fault α}
    (met : draft.Meets condition) (rest : draft.Decides later outcome) :
    draft.Decides (condition :: later) outcome := by
  cases outcome with
  | error fault =>
    obtain ⟨first, unmet, same⟩ := rest
    exact ⟨first, .later met unmet, same⟩
  | ok result => exact List.forall_mem_cons.2 ⟨met, rest⟩

private theorem decides_error (condition : Condition) (unmet : ¬ draft.Meets condition)
    (later : List Condition) :
    draft.Decides (condition :: later) (.error (draft.faultOf condition) : Except Fault α) :=
  ⟨condition, .here unmet, rfl⟩

private theorem readEstimator_eq_error {value : Value} {fault : Fault}
    (run : readEstimator value = .error fault) : fault = .unknownEstimator value := by
  unfold readEstimator at run
  split at run
  · split at run <;> cases run
    rfl
  · cases run
    rfl

private theorem decides_readEstimator (draft : Draft) :
    draft.Decides [.knownEstimator] (readEstimator draft.estimator) := by
  cases run : readEstimator draft.estimator with
  | ok estimator =>
    have named := (readEstimator_eq_ok_iff _ _).1 run
    refine List.forall_mem_singleton.2 ?_
    cases estimator with
    | length => exact .inl named
    | entropy => exact .inr named
  | error fault =>
    rw [readEstimator_eq_error run]
    refine decides_error .knownEstimator ?_ []
    rintro (named | named)
    · rw [(readEstimator_eq_ok_iff _ .length).2 named] at run
      cases run
    · rw [(readEstimator_eq_ok_iff _ .entropy).2 named] at run
      cases run

private theorem decides_readCount (draft : Draft) (field : Field) :
    draft.Decides [.integer field, .notNegative field] (readCount field (draft.given field)) := by
  have strange (none : (draft.given field).integer? = none) :
      draft.Decides [.integer field, .notNegative field]
        (.error (.notInteger field (draft.given field)) : Except Fault Count) := by
    refine decides_error (.integer field) ?_ _
    rintro ⟨n, known⟩
    rw [none] at known
    cases known
  cases found : draft.given field with
  | int n =>
    have whole : draft.Meets (.integer field) := ⟨n, by rw [found]; rfl⟩
    refine Decides.cons whole ?_
    by_cases negative : n < 0
    · rw [readCount, if_pos negative]
      refine decides_error (.notNegative field) (fun positive => ?_) []
      have sign := positive n (by rw [found]; rfl)
      omega
    · rw [readCount, if_neg negative]
      refine List.forall_mem_singleton.2 fun m known => ?_
      rw [found] at known
      cases known
      omega
  | flag b =>
    have whole : draft.Meets (.integer field) := ⟨b.toNat, by rw [found]; rfl⟩
    refine Decides.cons whole (List.forall_mem_singleton.2 fun m known => ?_)
    rw [found] at known
    cases known
    exact Int.natCast_nonneg _
  | _ =>
    rw [found] at strange
    exact strange rfl

private theorem exists_readRules_iff (rules : List (Rule Value)) :
    (∃ counted, readRules rules = some counted) ↔
      ∀ rule ∈ rules, ∃ n ∈ rule.count.integer?, 0 ≤ n := by
  simp only [readRules_eq_some_iff]
  constructor
  · rintro ⟨counted, rfl⟩ rule member
    obtain ⟨original, _, rfl⟩ := List.mem_map.1 member
    exact ⟨original.count.toNat, original.count.integer?_toValue, Int.natCast_nonneg _⟩
  · intro counts
    induction rules with
    | nil => exact ⟨[], rfl⟩
    | cons rule rest ih =>
      obtain ⟨here, later⟩ := List.forall_mem_cons.1 counts
      obtain ⟨count, same, _⟩ := (Count.exists_toValue_iff rule.count 0).2 here
      obtain ⟨counted, rfl⟩ := ih later
      refine ⟨⟨rule.kind, count⟩ :: counted, ?_⟩
      rw [List.map_cons, Rule.map, ← same]

private theorem exists_readRepetition_iff (value : Value) :
    (∃ limit, readRepetition value = some limit) ↔
      value = .null ∨ ∃ n ∈ value.integer?, 1 ≤ n := by
  simp only [readRepetition_eq_some_iff]
  constructor
  · rintro ⟨⟨limit, positive⟩, rfl⟩
    cases limit with
    | none => exact .inl rfl
    | some count => exact .inr ((Count.exists_toValue_iff _ 1).1 ⟨count, rfl, positive count rfl⟩)
  · rintro (rfl | limited)
    · exact ⟨⟨none, Count.no_limit_pos⟩, rfl⟩
    · obtain ⟨count, rfl, positive⟩ := (Count.exists_toValue_iff value 1).2 limited
      exact ⟨⟨some count, fun _ same => Option.some.inj same ▸ positive⟩, rfl⟩

private theorem decides_check (draft : Draft) : draft.Decides conditions draft.check := by
  refine (decides_readEstimator draft).bind fun estimator _ => ?_
  refine (decides_readCount draft .minLength).bind fun minLength least => ?_
  refine (decides_readCount draft .maxLength).bind fun maxLength most => ?_
  refine (decides_readCount draft .minCharacteristics).bind fun minCharacteristics needed => ?_
  refine (decides_readCount draft .goodStrength).bind fun goodStrength _ => ?_
  refine (decides_readCount draft .expirationDays).bind fun expirationDays _ => ?_
  refine (decides_readCount draft .graceLength).bind fun graceLength _ => ?_
  rw [readCount_eq_ok_iff] at least most needed
  simp only [given] at least most needed
  have ordered : draft.Meets .lengthsInOrder ↔
      maxLength.toNat = 0 ∨ minLength.toNat ≤ maxLength.toNat := by
    simp [Meets, least, most, Count.integer?_toValue]
  have enough : draft.Meets .enoughRules ↔ minCharacteristics.toNat ≤ draft.rules.length := by
    simp [Meets, needed, Count.integer?_toValue]
  split
  case isFalse crossed => exact decides_error .lengthsInOrder (mt ordered.1 crossed) _
  case isTrue lengths =>
    refine Decides.cons (ordered.2 lengths) ?_
    split
    case isFalse few =>
      have wanted := (Count.ofValue?_eq_some_iff _ _).2 needed
      have told : draft.faultOf .enoughRules =
          .tooManyCharacteristics minCharacteristics draft.rules.length := by
        rw [faultOf, wanted, Option.getD_some]
      rw [← told]
      exact decides_error .enoughRules (mt enough.1 few) _
    case isTrue many =>
      refine Decides.cons (enough.2 many) ?_
      split
      case h_1 missing =>
        refine decides_error .ruleCounts (fun counts => ?_) _
        obtain ⟨rules, counted⟩ := (exists_readRules_iff _).2 counts
        cases missing.symm.trans counted
      case h_2 rules counted =>
        refine Decides.cons ((exists_readRules_iff _).1 ⟨rules, counted⟩) ?_
        split
        case h_1 missing =>
          refine decides_error .roomToRepeat (fun room => ?_) []
          obtain ⟨limit, repetition⟩ := (exists_readRepetition_iff _).2 room
          cases missing.symm.trans repetition
        case h_2 limit positive repetition =>
          exact List.forall_mem_singleton.2 ((exists_readRepetition_iff _).1 ⟨_, repetition⟩)

private theorem check_eq_error_iff (draft : Draft) (fault : Fault) :
    draft.check = .error fault ↔
      ∃ condition, draft.FirstUnmet conditions condition ∧ fault = draft.faultOf condition := by
  have decided := decides_check draft
  constructor
  · intro failed
    rwa [failed] at decided
  · rintro ⟨condition, first, rfl⟩
    cases run : draft.check with
    | error fault =>
      rw [run] at decided
      obtain ⟨other, alsoFirst, rfl⟩ := decided
      rw [first.unique alsoFirst]
    | ok policy =>
      rw [run] at decided
      exact absurd (decided condition first.not_meets.1) first.not_meets.2

private theorem check_returns_iff (draft : Draft) :
    (∃ policy, draft.check = .ok policy) ↔ ∀ condition, draft.Meets condition := by
  have decided := decides_check draft
  cases run : draft.check with
  | error fault =>
    rw [run] at decided
    obtain ⟨condition, first, _⟩ := decided
    refine iff_of_false ?_ fun met => first.not_meets.2 (met condition)
    rintro ⟨policy, same⟩
    cases same
  | ok policy =>
    rw [run] at decided
    exact iff_of_true ⟨policy, rfl⟩ fun condition => decided condition (mem_conditions condition)

/-- The values that the message of the fault of a condition names. -/
def namedBy (draft : Draft) : Condition → List Value
  | .knownEstimator => [draft.estimator]
  | .integer field => [draft.given field]
  | .enoughRules => [draft.minCharacteristics]
  | _ => []

private theorem faultOf_enoughRules (unmet : ¬ draft.Meets .enoughRules) :
    ∃ count : Count, draft.minCharacteristics = count.toValue ∧
      draft.faultOf .enoughRules = .tooManyCharacteristics count draft.rules.length := by
  obtain ⟨needed, known, few⟩ : ∃ needed ∈ draft.minCharacteristics.integer?,
      ¬ needed ≤ draft.rules.length := by
    simpa [Meets] using unmet
  obtain ⟨count, same, _⟩ := (Count.exists_toValue_iff draft.minCharacteristics 0).2
    ⟨needed, known, by omega⟩
  refine ⟨count, same, ?_⟩
  rw [faultOf, (Count.ofValue?_eq_some_iff _ _).2 same, Option.getD_some]

private theorem isTellable_faultOf_iff {condition : Condition} (unmet : ¬ draft.Meets condition) :
    (draft.faultOf condition).isTellable = true ↔
      ∀ value ∈ draft.namedBy condition, value.isWritable = true := by
  cases condition with
  | knownEstimator =>
    rw [namedBy, List.forall_mem_singleton]
    rfl
  | integer field =>
    rw [namedBy, List.forall_mem_singleton]
    rfl
  | enoughRules =>
    obtain ⟨count, same, fault⟩ := faultOf_enoughRules unmet
    rw [fault, namedBy, List.forall_mem_singleton, same]
    rfl
  | _ => exact iff_of_true rfl (List.forall_mem_nil _)

/-- A draft is accepted just if it meets all conditions, whatever kinds its values are of and
however large its integers. If it is not, the fault is that of the first condition that it does not
meet; and it is told as a broken invariant just if the values that its message names can be written.
A policy that is accepted has every field as it was given, and a draft of its own fields gives it
again. -/
theorem check_follows_conditions (draft : Draft) :
    ((∃ policy, draft.check = .ok policy) ↔ ∀ condition, draft.Meets condition) ∧
    (∀ fault, draft.check = .error fault ↔
      ∃ condition, draft.FirstUnmet conditions condition ∧ fault = draft.faultOf condition) ∧
    (∀ condition, draft.FirstUnmet conditions condition →
      ((Failure.policy (draft.faultOf condition)).code? = some .policyInvariant ↔
        ∀ value ∈ draft.namedBy condition, value.isWritable = true)) ∧
    ∀ policy, draft.check = .ok policy →
      policy.toDraft = draft ∧ policy.toDraft.check = .ok policy := by
  refine ⟨check_returns_iff draft, check_eq_error_iff draft, ?_, ?_⟩
  · intro condition first
    rw [← isTellable_faultOf_iff first.not_meets.2, Failure.code?]
    simp
  · intro policy accepted
    have described := (check_eq_ok_iff draft policy).1 accepted
    exact ⟨described.symm, described ▸ accepted⟩

/-- Four things are wrong with a draft, and it is refused for the sign of a count. With flags for
counts and an unlimited length, a draft of the same rules is accepted. -/
theorem check_follows_conditions_fourFaults :
    let rules : List (Rule Value) := [⟨.digit, .real ⟨0⟩⟩]
    let faulty : Draft :=
      { minLength := .flag true, maxLength := .int (-1), minCharacteristics := .text "2", rules,
        maxRepeating := .int 0 }
    let sound : Draft :=
      { minLength := .int 6, maxLength := .flag false, minCharacteristics := .flag true,
        rules := [⟨.digit, .flag true⟩], maxRepeating := .flag true }
    faulty.FirstUnmet conditions (.notNegative .maxLength) ∧
      faulty.check = .error (.negative .maxLength) ∧
      (Failure.policy (.negative .maxLength)).code? = some .policyInvariant ∧
      ∃ policy, sound.check = .ok policy ∧ policy.toDraft = sound ∧
        policy.toDraft.check = .ok policy := by
  intro rules faulty sound
  have first : faulty.FirstUnmet conditions (.notNegative .maxLength) := by
    refine .later (.inl rfl) (.later ⟨1, rfl⟩ (.later ?_ (.later ⟨-1, rfl⟩ (.here ?_))))
    · rintro n known
      cases known
      decide
    · intro positive
      exact absurd (positive (-1) rfl) (by decide)
  obtain ⟨_, refused, told, _⟩ := check_follows_conditions faulty
  obtain ⟨_, _, _, kept⟩ := check_follows_conditions sound
  obtain ⟨policy, accepted⟩ : ∃ policy, sound.check = .ok policy := ⟨_, rfl⟩
  exact ⟨first, (refused _).2 ⟨_, first, rfl⟩, (told _ first).2 nofun, policy, accepted,
    kept policy accepted⟩

theorem check_follows_conditions_fails_longCount :
    let count : Count := .number (10 ^ Decimal.digitLimit)
    let draft : Draft := { minCharacteristics := count.toValue }
    draft.check = .error (.tooManyCharacteristics count 0) ∧
      (Failure.policy (.tooManyCharacteristics count 0)).code? = none := by
  have failed (n : Nat) (positive : 0 < n) :
      ({ minCharacteristics := (Count.number n).toValue } : Draft).check =
        .error (.tooManyCharacteristics (.number n) 0) := by
    have needed : readCount .minCharacteristics (Count.number n).toValue = .ok (.number n) :=
      (readCount_eq_ok_iff _ _ _).2 rfl
    simp only [check, needed]
    exact dif_neg (Nat.not_le.2 positive)
  have long : ¬ Decimal.isWritable (10 ^ Decimal.digitLimit) = true := by
    rw [Decimal.isWritable_iff]
    exact Nat.lt_irrefl _
  have untold (n : Nat) (long : ¬ Decimal.isWritable n = true) :
      (Failure.policy (.tooManyCharacteristics (.number n) 0)).code? = none := if_neg long
  exact ⟨failed _ (Nat.pow_pos (by decide)), untold _ long⟩

end Draft
end PasswordAudit
