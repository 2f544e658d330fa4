import PasswordAudit.CommandLine.Arguments
import PasswordAudit.Proofs.Except

/-! Arguments of which nothing is left over fall into options, each with its value. A password that
is attached to its option can be put in between any two others, and it changes nothing else. -/
namespace PasswordAudit.CommandLine

def Taken.withPassword (taken : Taken) (password : Option (Given Text)) : Taken :=
  { taken with password }

/-- A step of taking that leaves nothing over and does not look at the password. -/
structure Spares (step : Taken → Except Stop Taken) (taken next : Taken) : Prop where
  extra : next.extra = taken.extra
  password : next.password = taken.password
  anyPassword : ∀ password, step (taken.withPassword password) = .ok (next.withPassword password)

private theorem takeSwitch_spares {taken next : Taken} {switch : Switch}
    (took : takeSwitch taken switch = .ok next) : Spares (takeSwitch · switch) taken next := by
  unfold takeSwitch at took
  cases wanted : switch.action? with
  | none => simp [wanted] at took
  | some action =>
    cases before : taken.action with
    | none =>
      simp only [wanted, before, Except.ok.injEq] at took
      subst took
      exact ⟨rfl, rfl, fun _ => by simp [takeSwitch, wanted, before, Taken.withPassword]⟩
    | some other =>
      by_cases same : other = action
      · simp only [wanted, before, same, if_true, Except.ok.injEq] at took
        subst took same
        exact ⟨rfl, rfl, fun _ => by simp [takeSwitch, wanted, before, Taken.withPassword]⟩
      · simp [wanted, before, same] at took

private theorem takeValue_spares_or_sets {taken next : Taken} {switch : Switch} {value : Text}
    (took : takeValue taken switch value = .ok next) :
    Spares (takeValue · switch value) taken next ∨
      next = taken.withPassword (some (.value value)) := by
  cases switch with
  | changed =>
    unfold takeValue at took
    cases read : Iso.read value with
    | none => simp [read] at took
    | some moment =>
      simp only [read, Except.ok.injEq] at took
      subst took
      exact .inl ⟨rfl, rfl, fun _ => by simp [takeValue, read, Taken.withPassword]⟩
  | _ =>
    cases took
    exact .inr rfl

private theorem takeAttached_of_ne {switch : Switch} {value : Text}
    (valued : switch.takesValue = true) (plain : value ≠ ['-', '-']) (taken : Taken) :
    takeAttached taken switch value = takeValue taken switch value := by
  simp [takeAttached, valued, plain]

private theorem takeAttached_divider {switch : Switch} (valued : switch.takesValue = true)
    (taken : Taken) :
    takeAttached taken switch ['-', '-'] =
      .ok (if switch = .changed then { taken with changed := some .blank }
        else taken.withPassword (some .blank)) := by
  simp [takeAttached, valued, Taken.withPassword]

private theorem takeAttached_spares_or_sets {taken next : Taken} {switch : Switch} {value : Text}
    (took : takeAttached taken switch value = .ok next) :
    Spares (takeAttached · switch value) taken next ∨
      ∃ given, next = taken.withPassword (some given) := by
  have valued : switch.takesValue = true := by
    cases valued : switch.takesValue with
    | true => rfl
    | false => simp [takeAttached, valued] at took
  by_cases divider : value = ['-', '-']
  · subst divider
    rw [takeAttached_divider valued, Except.ok.injEq] at took
    by_cases dated : switch = .changed
    · rw [if_pos dated] at took
      subst took
      refine .inl ⟨rfl, rfl, fun password => ?_⟩
      rw [takeAttached_divider valued, if_pos dated]
      rfl
    · rw [if_neg dated] at took
      exact .inr ⟨.blank, took.symm⟩
  · have same : (takeAttached · switch value) = (takeValue · switch value) :=
      funext (takeAttached_of_ne valued divider)
    rw [takeAttached_of_ne valued divider] at took
    rw [same]
    exact (takeValue_spares_or_sets took).imp_right fun set => ⟨_, set⟩

/-- An option with the value that belongs to it, and what has been taken before and after. -/
inductive TakesOption : List Token → Taken → Taken → Prop
  | attached {taken next : Taken} {switch : Switch} {value : Text}
      (took : takeAttached taken switch value = .ok next) :
      TakesOption [.switch switch (some value)] taken next
  | separate {taken next : Taken} {switch : Switch} {value : Text}
      (valued : switch.takesValue = true) (took : takeValue taken switch value = .ok next) :
      TakesOption [.switch switch none, .word value] taken next
  | bare {taken next : Taken} {switch : Switch} (valueless : switch.takesValue = false)
      (took : takeSwitch taken switch = .ok next) :
      TakesOption [.switch switch none] taken next

inductive Takes : List Token → Taken → Taken → Prop
  | done {taken : Taken} : Takes [] taken taken
  | next {option rest : List Token} {taken next final : Taken}
      (first : TakesOption option taken next) (later : Takes rest next final) :
      Takes (option ++ rest) taken final

theorem TakesOption.extra {option : List Token} {taken next : Taken}
    (takes : TakesOption option taken next) : next.extra = taken.extra := by
  cases takes with
  | attached took =>
    rcases takeAttached_spares_or_sets took with spares | ⟨_, rfl⟩
    · exact spares.extra
    · rfl
  | separate _ took =>
    rcases takeValue_spares_or_sets took with spares | rfl
    · exact spares.extra
    · rfl
  | bare _ took => exact (takeSwitch_spares took).extra

private theorem TakesOption.password_eq_none {option : List Token} {taken next : Taken}
    (takes : TakesOption option taken next) (unset : next.password = none) :
    taken.password = none := by
  cases takes with
  | attached took =>
    rcases takeAttached_spares_or_sets took with spares | ⟨_, rfl⟩
    · rw [← spares.password, unset]
    · cases unset
  | separate _ took =>
    rcases takeValue_spares_or_sets took with spares | rfl
    · rw [← spares.password, unset]
    · cases unset
  | bare _ took => rw [← (takeSwitch_spares took).password, unset]

private theorem TakesOption.withPassword {option : List Token} {taken next : Taken}
    (takes : TakesOption option taken next) (unset : next.password = none)
    (password : Option (Given Text)) :
    TakesOption option (taken.withPassword password) (next.withPassword password) := by
  cases takes with
  | attached took =>
    rcases takeAttached_spares_or_sets took with spares | ⟨_, rfl⟩
    · exact .attached (spares.anyPassword password)
    · cases unset
  | separate valued took =>
    rcases takeValue_spares_or_sets took with spares | rfl
    · exact .separate valued (spares.anyPassword password)
    · cases unset
  | bare valueless took => exact .bare valueless ((takeSwitch_spares took).anyPassword password)

namespace Takes

theorem extra {tokens : List Token} {taken final : Taken} (takes : Takes tokens taken final) :
    final.extra = taken.extra := by
  induction takes with
  | done => rfl
  | next first _ ih => rw [ih, first.extra]

private theorem password_eq_none {tokens : List Token} {taken final : Taken}
    (takes : Takes tokens taken final) (unset : final.password = none) :
    taken.password = none := by
  induction takes with
  | done => exact unset
  | next first _ ih => exact first.password_eq_none (ih unset)

private theorem withPassword {tokens : List Token} {taken final : Taken}
    (takes : Takes tokens taken final) (unset : final.password = none)
    (password : Option (Given Text)) :
    Takes tokens (taken.withPassword password) (final.withPassword password) := by
  induction takes with
  | done => exact .done
  | next first later ih =>
    exact .next (first.withPassword (later.password_eq_none unset) password) (ih unset)

theorem append {first last : List Token} {taken middle final : Taken}
    (takes : Takes first taken middle) (more : Takes last middle final) :
    Takes (first ++ last) taken final := by
  induction takes with
  | done => exact more
  | next option _ ih =>
    rw [List.append_assoc]
    exact .next option (ih more)

/-- An option with an attached value stands between two others. -/
theorem split {first last : List Token} {taken final : Taken} {switch : Switch} {value : Text}
    (takes : Takes (first ++ .switch switch (some value) :: last) taken final) :
    ∃ middle next, Takes first taken middle ∧ takeAttached middle switch value = .ok next ∧
      Takes last next final := by
  generalize whole : first ++ .switch switch (some value) :: last = tokens at takes
  induction takes generalizing first with
  | done => simp at whole
  | @next option rest taken next final one later ih =>
    cases first with
    | nil =>
      cases one with
      | attached took =>
        cases whole
        exact ⟨taken, next, .done, took, later⟩
      | separate => cases whole
      | bare => cases whole
    | cons token others =>
      cases one with
      | attached took =>
        obtain ⟨rfl, more⟩ := List.cons.inj whole
        obtain ⟨middle, after, before, took', last⟩ := ih more
        exact ⟨middle, after, .next (.attached took) before, took', last⟩
      | bare valueless took =>
        obtain ⟨rfl, more⟩ := List.cons.inj whole
        obtain ⟨middle, after, before, took', last⟩ := ih more
        exact ⟨middle, after, .next (.bare valueless took) before, took', last⟩
      | separate valued took =>
        cases others with
        | nil => cases whole
        | cons word others =>
          simp only [List.cons_append, List.nil_append, List.cons.injEq] at whole
          obtain ⟨rfl, rfl, more⟩ := whole
          obtain ⟨middle, after, before, took', last⟩ := ih more
          exact ⟨middle, after, .next (.separate valued took) before, took', last⟩

end Takes

private theorem take_append_of_takesOption {option : List Token} {taken next : Taken}
    (takes : TakesOption option taken next) (rest : List Token) :
    take (option ++ rest) taken = take rest next := by
  cases takes with
  | attached took => simp [take, took, bind, Except.bind]
  | separate valued took => simp [take, valued, took, bind, Except.bind]
  | bare valueless took =>
    rw [List.singleton_append, take.eq_def]
    simp [valueless, took, bind, Except.bind]

private theorem take_append_of_takes {tokens : List Token} {taken next : Taken}
    (takes : Takes tokens taken next) (rest : List Token) :
    take (tokens ++ rest) taken = take rest next := by
  induction takes with
  | done => rfl
  | next first _ ih => rw [List.append_assoc, take_append_of_takesOption first, ih]

private theorem take_of_takes {tokens : List Token} {taken final : Taken}
    (takes : Takes tokens taken final) : take tokens taken = .ok final := by
  have run := take_append_of_takes takes []
  rwa [List.append_nil] at run

private theorem extra_prefix_of_take {tokens : List Token} {taken final : Taken}
    (run : take tokens taken = .ok final) : taken.extra <+: final.extra := by
  fun_induction take tokens taken with
  | case1 =>
    cases run
    exact List.prefix_rfl
  | case2 _ _ _ ih => exact (List.prefix_append ..).trans (ih run)
  | case3 _ _ ih => exact (List.prefix_append ..).trans (ih run)
  | case4 _ _ _ ih => exact (List.prefix_append ..).trans (ih run)
  | case5 => cases run
  | case6 _ _ _ _ ih =>
    obtain ⟨next, took, later⟩ := (Except.bind_eq_ok_iff _ _ _).1 run
    rw [← (TakesOption.attached took).extra]
    exact ih next later
  | case7 _ _ valued _ _ ih =>
    obtain ⟨next, took, later⟩ := (Except.bind_eq_ok_iff _ _ _).1 run
    rw [← (TakesOption.separate valued took).extra]
    exact ih next later
  | case8 => cases run
  | case9 _ _ _ valueless ih =>
    obtain ⟨next, took, later⟩ := (Except.bind_eq_ok_iff _ _ _).1 run
    rw [← (TakesOption.bare (by simpa using valueless) took).extra]
    exact ih next later

private theorem takes_of_take {tokens : List Token} {taken final : Taken}
    (run : take tokens taken = .ok final) (all : final.extra = taken.extra) :
    Takes tokens taken final := by
  have noneLeft : ∀ text, ¬ taken.extra ++ [text] <+: final.extra := by
    intro text longer
    have grown := longer.length_le
    rw [all, List.length_append] at grown
    exact Nat.not_succ_le_self _ grown
  fun_induction take tokens taken with
  | case1 =>
    cases run
    exact .done
  | case2 text _ _ _ => exact absurd (extra_prefix_of_take run) (noneLeft text)
  | case3 _ _ _ => exact absurd (extra_prefix_of_take run) (noneLeft ['-', '-'])
  | case4 text _ _ _ => exact absurd (extra_prefix_of_take run) (noneLeft text)
  | case5 => cases run
  | case6 _ _ _ _ ih =>
    obtain ⟨next, took, later⟩ := (Except.bind_eq_ok_iff _ _ _).1 run
    have option := TakesOption.attached took
    rw [← option.extra] at all noneLeft
    exact .next option (ih next later all noneLeft)
  | case7 _ _ valued _ _ ih =>
    obtain ⟨next, took, later⟩ := (Except.bind_eq_ok_iff _ _ _).1 run
    have option := TakesOption.separate valued took
    rw [← option.extra] at all noneLeft
    exact .next option (ih next later all noneLeft)
  | case8 => cases run
  | case9 _ _ _ valueless ih =>
    obtain ⟨next, took, later⟩ := (Except.bind_eq_ok_iff _ _ _).1 run
    have option := TakesOption.bare (by simpa using valueless) took
    rw [← option.extra] at all noneLeft
    exact .next option (ih next later all noneLeft)

private theorem takes_iff (tokens : List Token) (taken final : Taken) :
    Takes tokens taken final ↔ take tokens taken = .ok final ∧ final.extra = taken.extra :=
  ⟨fun takes => ⟨take_of_takes takes, takes.extra⟩, fun both => takes_of_take both.1 both.2⟩

private theorem divider_not_mem {tokens : List Token} {taken final : Taken}
    (takes : Takes tokens taken final) : Token.divider ∉ tokens := by
  induction takes with
  | done => simp
  | next first _ ih => cases first <;> simp [ih]

private theorem divider_mem_of_sort {words : List Text} {tokens : List Token}
    (run : sort words = .ok tokens) (divided : ['-', '-'] ∈ words) : Token.divider ∈ tokens := by
  induction words generalizing tokens with
  | nil => cases divided
  | cons text rest ih =>
    rw [sort] at run
    by_cases here : text = ['-', '-']
    · rw [if_pos here] at run
      cases run
      exact List.mem_cons_self ..
    · rw [if_neg here] at run
      obtain ⟨token, _, run⟩ := (Except.bind_eq_ok_iff _ _ _).1 run
      obtain ⟨others, later, run⟩ := (Except.bind_eq_ok_iff _ _ _).1 run
      cases run
      rcases List.mem_cons.1 divided with same | there
      · exact absurd same.symm here
      · exact List.mem_cons_of_mem _ (ih later there)

private theorem sort_cons {text : Text} {token : Token} (undivided : text ≠ ['-', '-'])
    (one : sortOne text = .ok token) (rest : List Text) :
    sort (text :: rest) = (sort rest).map (token :: ·) := by
  rw [sort, if_neg undivided, one]
  rfl

private theorem sort_append_eq_ok_iff {before : List Text} (undivided : ['-', '-'] ∉ before)
    (after : List Text) (tokens : List Token) :
    sort (before ++ after) = .ok tokens ↔
      ∃ first last, sort before = .ok first ∧ sort after = .ok last ∧ tokens = first ++ last := by
  induction before generalizing tokens with
  | nil => simp [sort]
  | cons text rest ih =>
    obtain ⟨here, later⟩ := not_or.1 (mt List.mem_cons.2 undivided)
    cases one : sortOne text with
    | error refusal => simp [sort, Ne.symm here, one, bind, Except.bind]
    | ok token =>
      rw [List.cons_append, sort_cons (Ne.symm here) one, sort_cons (Ne.symm here) one,
        Except.map_eq_ok_iff]
      simp only [ih later, Except.map_eq_ok_iff]
      constructor
      · rintro ⟨_, ⟨first, last, sorted, more, rfl⟩, rfl⟩
        exact ⟨token :: first, last, ⟨first, sorted, rfl⟩, more, rfl⟩
      · rintro ⟨_, last, ⟨first, sorted, rfl⟩, more, rfl⟩
        exact ⟨first ++ last, ⟨first, last, sorted, more, rfl⟩, rfl⟩

/-- Arguments lead to an action just if they are options, and one of them names it. -/
theorem read_eq_ok_iff (words : List Text) (arguments : Arguments) :
    Arguments.read words = .ok arguments ↔
      ∃ tokens, sort words = .ok tokens ∧
        Takes tokens ⟨none, none, none, []⟩
          ⟨some arguments.action, arguments.password, arguments.changed, []⟩ := by
  simp only [Arguments.read, Except.bind_eq_ok_iff, Except.mapError_eq_ok_iff, takes_iff, and_true]
  refine exists_congr fun tokens => and_congr_right fun _ => ?_
  constructor
  · rintro ⟨⟨action, password, changed, extra⟩, run, ended⟩
    cases action with
    | none => cases ended
    | some action =>
      cases extra with
      | nil =>
        cases ended
        exact run
      | cons word others => cases ended
  · intro run
    exact ⟨_, run, rfl⟩

def passwordArgument (password : Text) : Text := "--password=" ++ password

private theorem sortOne_passwordArgument (password : Text) :
    sortOne (passwordArgument password) = .ok (.switch .password (some password)) := rfl

private theorem sort_passwordArgument (password : Text) (rest : List Text) :
    sort (passwordArgument password :: rest) =
      (sort rest).map (Token.switch .password (some password) :: ·) := by
  have undivided : passwordArgument password ≠ ['-', '-'] := by
    intro same
    cases (List.cons.inj (List.cons.inj same).2).2
  exact sort_cons undivided (sortOne_passwordArgument password) rest

/-- A password that is attached to its option, wherever it is put, is all that changes. -/
theorem read_insert_password {before after : List Text} {password : Text}
    {given piped : Arguments} (plain : password ≠ ['-', '-'])
    (attached : Arguments.read (before ++ passwordArgument password :: after) = .ok given)
    (without : Arguments.read (before ++ after) = .ok piped) (unset : piped.password = none) :
    given = { piped with password := some (.value password) } := by
  obtain ⟨tokens, sorted, takes⟩ := (read_eq_ok_iff _ _).1 without
  obtain ⟨more, sortedMore, takesMore⟩ := (read_eq_ok_iff _ _).1 attached
  have undivided : ['-', '-'] ∉ before := fun divided =>
    divider_not_mem takes (divider_mem_of_sort sorted (List.mem_append_left _ divided))
  obtain ⟨first, last, sortedFirst, sortedLast, rfl⟩ :=
    (sort_append_eq_ok_iff undivided _ _).1 sorted
  obtain ⟨again, rest, sortedAgain, sortedRest, rfl⟩ :=
    (sort_append_eq_ok_iff undivided _ _).1 sortedMore
  cases sortedFirst.symm.trans sortedAgain
  rw [sort_passwordArgument, sortedLast] at sortedRest
  cases sortedRest
  obtain ⟨middle, next, takesFirst, took, takesLast⟩ := takesMore.split
  -- The same options come before, so both runs stand at the same place when the password is met.
  have set : next = middle.withPassword (some (.value password)) := by
    rw [takeAttached_of_ne rfl plain] at took
    cases took
    rfl
  have restRun := take_of_takes takes
  rw [take_append_of_takes takesFirst] at restRun
  have takesRest := (takes_of_take restRun takesFirst.extra.symm).withPassword unset
    (some (.value password))
  rw [← set] at takesRest
  have same := (take_of_takes takesLast).symm.trans (take_of_takes takesRest)
  simp only [Taken.withPassword, Except.ok.injEq, Taken.mk.injEq, Option.some.injEq, and_true]
    at same
  obtain ⟨action, set, changed⟩ := same
  obtain ⟨_, _, _⟩ := given
  cases action
  cases set
  cases changed
  rfl

end PasswordAudit.CommandLine
