import Mathlib.Data.Rat.Floor
import PasswordAudit.Proofs.Policy.Expiry
import PasswordAudit.Proofs.Time.Calendar

/-! The age of a password, and what becomes of an evaluation as time passes. Ages and evaluations
know times by their instants only, and a later evaluation adds expiry at most, after all else. -/
namespace PasswordAudit

namespace Moment

/-- The age, rounded down from the days between the instants, tells which of them is first. -/
private theorem ageInDays_eq_floor {changed now : Moment} (earlier : changed.HasUniversalForm)
    (later : now.HasUniversalForm) :
    ∃ age, ageInDays changed now = .ok age ∧
      age = ⌊((now.instant - changed.instant : Int) : ℚ) / (microsPerDay : ℚ)⌋ ∧
      (age < 0 ↔ now.instant < changed.instant) := by
  have positive : (0 : Int) < microsPerDay := by exact_mod_cast zero_lt_microsPerDay
  refine ⟨_, ageInDays_of_hasUniversalForm earlier later, ?_, ?_⟩
  · rw [Rat.floor_intCast_div_natCast]
  · rw [Int.ediv_lt_iff_lt_mul positive, Int.zero_mul, sub_neg]

end Moment

/-- The same times, whatever clocks show them. -/
def Context.SameInstants (context other : Context) : Prop :=
  context.changed.map Moment.instant = other.changed.map Moment.instant ∧
    context.now.map Moment.instant = other.now.map Moment.instant

section SameInstants

variable {context other : Context}

theorem Context.SameInstants.now (same : context.SameInstants other) (clock : Moment) :
    (context.now.getD clock).instant = (other.now.getD clock).instant := by
  have mapped : ∀ time : Option Moment,
      (time.getD clock).instant = (time.map Moment.instant).getD clock.instant := by
    intro time
    cases time <;> rfl
  rw [mapped, mapped, same.2]

private theorem Context.SameInstants.exists_changed_iff (same : context.SameInstants other)
    {holds : Moment → Prop}
    (ofInstant : ∀ one two : Moment, one.instant = two.instant → (holds one ↔ holds two)) :
    (∃ changed ∈ context.changed, holds changed) ↔ ∃ changed ∈ other.changed, holds changed := by
  obtain ⟨first, now⟩ := context
  obtain ⟨second, later⟩ := other
  have changed : first.map Moment.instant = second.map Moment.instant := same.1
  cases first with
  | none =>
    cases second with
    | none => rfl
    | some two => cases changed
  | some one =>
    cases second with
    | none => cases changed
    | some two => simpa using ofInstant one two (Option.some.inj changed)

private theorem Context.SameInstants.hasUniversalForms_iff (same : context.SameInstants other)
    (clock : Moment) : context.HasUniversalForms clock ↔ other.HasUniversalForms clock := by
  have outside := same.exists_changed_iff fun _ _ equal =>
    not_congr (Moment.hasUniversalForm_iff_of_instant_eq equal)
  have current := Moment.hasUniversalForm_iff_of_instant_eq (same.now clock)
  refine and_congr ?_ current
  simpa using not_congr outside

end SameInstants

/-- Where a second choice of violations differs from a first by expiry at most, and keeps it, it is
the first or has expiry after it. -/
private theorem Violation.filter_all_of_expired {first second : Violation → Bool}
    (alike : ∀ violation, violation ≠ .expired → second violation = first violation)
    (kept : first .expired = true → second .expired = true) :
    all.filter second = all.filter first ∨ all.filter second = all.filter first ++ [.expired] := by
  have others : timeless.filter second = timeless.filter first :=
    List.filter_congr fun violation member => alike violation (ne_expired_of_mem_timeless member)
  rw [all_eq_timeless, List.filter_append, List.filter_append, others, List.append_assoc]
  cases expired : first .expired with
  | true => exact .inl (by simp [expired, kept expired])
  | false =>
    cases expires : second .expired with
    | true => exact .inr (by simp [expired, expires])
    | false => exact .inl (by simp [expired, expires])

namespace Policy

variable {policy : Policy}

/-- Of the times, it only matters whether a change is known. -/
private theorem AsksForAge.of_changed {context other : Context} {password : Text}
    (known : context.changed ≠ none → other.changed ≠ none)
    (asks : policy.AsksForAge context password) : policy.AsksForAge other password :=
  { asks with changed := known asks.changed }

/-- Of two evaluations that ask for the age and can tell it alike, both fail or both give a result.
-/
private theorem evaluate_alike {clock current : Moment} {context other : Context} {password : Text}
    (asks : policy.AsksForAge context password ↔ policy.AsksForAge other password)
    (forms : context.HasUniversalForms clock ↔ other.HasUniversalForms current) :
    (∃ fault, policy.evaluate clock context password = .error fault ∧
      policy.evaluate current other password = .error fault) ∨
    ∃ found noted, policy.evaluate clock context password = .ok found ∧
      policy.evaluate current other password = .ok noted := by
  by_cases fit : policy.AsksForAge context password → context.HasUniversalForms clock
  · obtain ⟨found, run⟩ := evaluate_returns fit
    obtain ⟨noted, rerun⟩ := evaluate_returns fun asked => forms.1 (fit (asks.2 asked))
    exact .inr ⟨found, noted, run, rerun⟩
  · obtain ⟨asked, untold⟩ := Classical.not_imp.1 fit
    exact .inl ⟨_, evaluate_of_untold asked untold,
      evaluate_of_untold (asks.1 asked) fun told => untold (forms.2 told)⟩

private theorem isBrokenBy_iff_of_sameInstants {context other : Context}
    (same : context.SameInstants other) (clock : Moment) (password : Text)
    (violation : Violation) :
    policy.IsBrokenBy context.changed (context.now.getD clock) password violation ↔
      policy.IsBrokenBy other.changed (other.now.getD clock) password violation := by
  cases violation with
  | expired =>
    simp only [IsBrokenBy, same.now clock]
    apply same.exists_changed_iff
    intro one two equal
    rw [equal]
  | _ => exact Iff.rfl

private theorem evaluate_eq_of_sameInstants {context other : Context}
    (same : context.SameInstants other) (clock : Moment) (password : Text) :
    policy.evaluate clock context password = policy.evaluate clock other password := by
  have changed : context.changed ≠ none ↔ other.changed ≠ none := by
    simpa [Option.ne_none_iff_exists'] using
      same.exists_changed_iff fun _ _ _ => @Iff.rfl True
  have asks : policy.AsksForAge context password ↔ policy.AsksForAge other password :=
    ⟨.of_changed changed.1, .of_changed changed.2⟩
  rcases evaluate_alike asks (same.hasUniversalForms_iff clock) with
    ⟨fault, failed, refailed⟩ | ⟨found, noted, run, rerun⟩
  · rw [failed, refailed]
  · have members : ∀ violation, violation ∈ found ↔ violation ∈ noted := by
      intro violation
      rw [policy.mem_iff_of_evaluate_eq_ok run, policy.mem_iff_of_evaluate_eq_ok rerun,
        isBrokenBy_iff_of_sameInstants same clock]
    have equal : found = noted := by
      rw [policy.eq_filter_of_evaluate_eq_ok run, policy.eq_filter_of_evaluate_eq_ok rerun]
      simp only [members]
    rw [run, rerun, equal]

/-- Once broken, expiry stays broken. The time decides about nothing else. -/
private theorem isBrokenBy_later (changed : Option Moment) {now later : Moment}
    (passed : now.instant ≤ later.instant) (password : Text) :
    (∀ violation, violation ≠ .expired →
      (policy.IsBrokenBy changed later password violation ↔
        policy.IsBrokenBy changed now password violation)) ∧
    (policy.IsBrokenBy changed now password .expired →
      policy.IsBrokenBy changed later password .expired) := by
  constructor
  · intro violation timeless
    cases violation with
    | expired => exact absurd rfl timeless
    | _ => exact Iff.rfl
  · rintro ⟨moment, member, graceless, old⟩
    exact ⟨moment, member, graceless, old.trans (Int.sub_le_sub_right passed _)⟩

private theorem evaluate_later {clock current : Moment} {changed now later : Option Moment}
    {password : Text} (before : (now.getD clock).HasUniversalForm)
    (after : (later.getD current).HasUniversalForm)
    (passed : (now.getD clock).instant ≤ (later.getD current).instant) :
    policy.evaluate current ⟨changed, later⟩ password =
        policy.evaluate clock ⟨changed, now⟩ password ∨
      ∃ found, policy.evaluate clock ⟨changed, now⟩ password = .ok found ∧
        policy.evaluate current ⟨changed, later⟩ password = .ok (found ++ [.expired]) := by
  have asks : policy.AsksForAge ⟨changed, now⟩ password ↔
      policy.AsksForAge ⟨changed, later⟩ password :=
    ⟨.of_changed id, .of_changed id⟩
  have forms : Context.HasUniversalForms ⟨changed, now⟩ clock ↔
      Context.HasUniversalForms ⟨changed, later⟩ current :=
    and_congr_right fun _ => iff_of_true before after
  rcases evaluate_alike asks forms with ⟨fault, failed, refailed⟩ | ⟨found, noted, run, rerun⟩
  · exact .inl (refailed.trans failed.symm)
  · have grown : noted = found ∨ noted = found ++ [.expired] := by
      obtain ⟨others, expired⟩ := policy.isBrokenBy_later changed passed password
      rw [policy.eq_filter_of_evaluate_eq_ok run, policy.eq_filter_of_evaluate_eq_ok rerun]
      apply Violation.filter_all_of_expired
      · intro violation timeless
        rw [decide_eq_decide, policy.mem_iff_of_evaluate_eq_ok rerun,
          policy.mem_iff_of_evaluate_eq_ok run, others violation timeless]
      · rw [decide_eq_true_iff, decide_eq_true_iff, policy.mem_iff_of_evaluate_eq_ok run,
          policy.mem_iff_of_evaluate_eq_ok rerun]
        exact And.imp_right (And.imp_right expired)
    rw [run, rerun]
    exact grown.imp (congrArg _) fun appended => ⟨found, rfl, congrArg _ appended⟩

/-- Times are known by their instants. What a clock in any zone shows tells the instant, and the
universal form keeps it. The age is the whole days between two instants, rounded down. Ages and
evaluations stay the same when times are shown in other zones, and an evaluation at a later time is
the earlier one or has expiry after it. -/
theorem tells_time_by_instants :
    (∀ moment : Moment, moment.date.isValid = true ∧
      moment.instant = (((moment.date.dayNumber * 24 + moment.hour) * 60 + moment.minute) * 60 +
        moment.second) * 1000000 + moment.micro - moment.offset.getD 0) ∧
    (∀ moment : Moment, moment.HasUniversalForm →
      ∃ utc, moment.toUtc = .ok utc ∧ utc.instant = moment.instant ∧ utc.offset = some 0 ∧
        utc.toUtc = .ok utc) ∧
    (∀ changed now : Moment, changed.HasUniversalForm → now.HasUniversalForm →
      ∃ age, Moment.ageInDays changed now = .ok age ∧
        age = ⌊((now.instant - changed.instant : Int) : ℚ) / (Moment.microsPerDay : ℚ)⌋ ∧
        (age < 0 ↔ now.instant < changed.instant)) ∧
    (∀ bare zoned : Moment, bare.offset = none → zoned.offset = some 0 →
      bare.reading = zoned.reading → bare.instant = zoned.instant) ∧
    (∀ changed now other later : Moment, changed.instant = other.instant →
      now.instant = later.instant → Moment.ageInDays changed now = Moment.ageInDays other later) ∧
    (∀ (policy : Policy) (clock : Moment) (context other : Context) (password : Text),
      context.SameInstants other →
        policy.evaluate clock context password = policy.evaluate clock other password) ∧
    (∀ (policy : Policy) (clock current : Moment) (changed now later : Option Moment)
      (password : Text), Context.HasUniversalForms ⟨changed, now⟩ clock →
      Context.HasUniversalForms ⟨changed, later⟩ current →
      (now.getD clock).instant ≤ (later.getD current).instant →
        ∃ found, policy.evaluate clock ⟨changed, now⟩ password = .ok found ∧
          (policy.evaluate current ⟨changed, later⟩ password = .ok found ∨
            policy.evaluate current ⟨changed, later⟩ password = .ok (found ++ [.expired]))) := by
  refine ⟨Moment.instant_eq_shown, ?_, fun _ _ => Moment.ageInDays_eq_floor, ?_,
    fun _ _ _ _ => Moment.ageInDays_eq_of_instant_eq, ?_, ?_⟩
  · intro moment form
    obtain ⟨utc, made, same, offset⟩ := Moment.toUtc_of_hasUniversalForm form
    exact ⟨utc, made, same, offset, Moment.toUtc_toUtc form made⟩
  · intro bare zoned absent zero shown
    rw [Moment.instant, Moment.instant, absent, zero, shown]
    rfl
  · intro policy clock context other password same
    exact evaluate_eq_of_sameInstants same clock password
  · intro policy clock current changed now later password before after passed
    have run := policy.evaluate_eq_reported clock ⟨changed, now⟩ password before
    refine ⟨_, run, ?_⟩
    rcases @evaluate_later policy _ _ changed _ _ password before.2 after.2 passed with
      same | ⟨found, rerun, grown⟩
    · exact .inl (same.trans run)
    · cases run.symm.trans rerun
      exact .inr grown

/-- Half past midnight on a leap day by a clock an hour ahead, which is still the day before in
universal time, and two later times: a microsecond short of a day, and two days. -/
theorem tells_time_by_instants_leapDay :
    let changed : Moment := ⟨63844763400000000, some 3600000000, by decide, by decide⟩
    let shown : Moment := ⟨63844759800000000, none, by decide, by simp⟩
    let now : Moment := ⟨63844846199999999, none, by decide, by simp⟩
    let later : Moment := ⟨63844932600000000, some 0, by decide, by decide⟩
    (changed.HasUniversalForm ∧ now.HasUniversalForm ∧ later.HasUniversalForm ∧
      changed.instant = shown.instant ∧ now.instant ≤ later.instant) ∧
    (∃ utc, changed.toUtc = .ok utc ∧ utc.instant = changed.instant ∧ utc.offset = some 0 ∧
      utc.toUtc = .ok utc) ∧
    (∃ age, Moment.ageInDays changed now = .ok age ∧
      age = ⌊((now.instant - changed.instant : Int) : ℚ) / (Moment.microsPerDay : ℚ)⌋ ∧
      (age < 0 ↔ now.instant < changed.instant)) ∧
    Moment.ageInDays changed now = Moment.ageInDays shown now ∧
    oneDay.evaluate now ⟨some changed, none⟩ "AB" = oneDay.evaluate now ⟨some shown, none⟩ "AB" ∧
    ∃ found, oneDay.evaluate now ⟨some changed, none⟩ "AB" = .ok found ∧
      (oneDay.evaluate now ⟨some changed, some later⟩ "AB" = .ok found ∨
        oneDay.evaluate now ⟨some changed, some later⟩ "AB" = .ok (found ++ [.expired])) := by
  intro changed shown now later
  obtain ⟨_, universal, age, _, zones, evaluation, passage⟩ := tells_time_by_instants
  have form : changed.HasUniversalForm := by decide
  have current : now.HasUniversalForm := by decide
  have following : later.HasUniversalForm := by decide
  have same : changed.instant = shown.instant := by decide
  have passed : now.instant ≤ later.instant := by decide
  have dated : ∀ moment ∈ some changed, moment.HasUniversalForm := by
    rintro moment ⟨⟩
    exact form
  exact ⟨⟨form, current, following, same, passed⟩, universal changed form,
    age changed now form current, zones changed now shown now same rfl,
    evaluation oneDay now _ _ _ ⟨congrArg some same, rfl⟩,
    passage oneDay now now (some changed) none (some later) _ ⟨dated, current⟩
      ⟨dated, following⟩ passed⟩

end Policy
end PasswordAudit
