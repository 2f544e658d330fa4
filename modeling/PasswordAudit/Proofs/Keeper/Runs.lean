import PasswordAudit.Keeper
import PasswordAudit.Proofs.Policy.Digits

/-! Runs of a keeper. A request either installs a policy as a whole and tells of it in one line, or
it leaves the policy in force and tells of no change. So the policy in force is always the one that
was installed last, and a request that fails might as well not have been made. Numbers have to be
written for this, and those of the requests are taken to have few enough digits. -/
namespace PasswordAudit.Keeper

/-- A request puts a policy in force: the one that a draft describes, the one that an amendment
makes of the policy in force, or the policy to start from. -/
inductive Installs (current : Policy) : Request → Policy → Prop
  | update {draft : Draft} {policy : Policy} (accepted : draft.check = .ok policy) :
      Installs current (.update draft) policy
  | amend {changes : Draft.Changes} {draft : Draft} {policy : Policy}
      (amended : current.toDraft.Amended changes draft) (accepted : draft.check = .ok policy) :
      Installs current (.amend changes) policy
  | reset : Installs current .reset (Policy.preset current.lexicon)

def Request.isChange : Request → Bool
  | .update _ => true
  | .amend _ => true
  | .reset => true
  | .get => false
  | .check _ _ => false
  | .requirements _ => false

def Request.IsWritable : Request → Prop
  | .update draft => ∀ value ∈ draft.numbers, value.isWritable = true
  | .amend changes => ∀ value ∈ changes.numbers, value.isWritable = true
  | _ => True

variable {current policy : Policy} {request : Request}

private theorem isWritable_of_installs (writable : current.IsWritable) (asked : request.IsWritable)
    (installs : Installs current request policy) : policy.IsWritable := by
  cases installs with
  | update accepted =>
    rw [Policy.IsWritable, ← (Draft.check_eq_ok_iff _ _).1 accepted]
    exact asked
  | amend amended accepted =>
    rw [Policy.IsWritable, ← (Draft.check_eq_ok_iff _ _).1 accepted]
    intro value member
    rcases Draft.mem_numbers_of_amended amended member with old | new
    · exact writable value old
    · exact asked value new
  | reset =>
    have numbers : (Policy.preset current.lexicon).toDraft.numbers =
        (Policy.preset Lexicon.empty).toDraft.numbers := rfl
    rw [Policy.IsWritable, numbers]
    decide +kernel

private theorem isTellable_of_isWritable (writable : policy.IsWritable) :
    isTellable policy = true := by
  have counts := writable.hasWritableCounts
  have rules := writable.rules
  simp only [isTellable, Bool.and_eq_true, List.all_eq_true]
  exact ⟨⟨⟨counts.minLength, counts.maxLength⟩, rules⟩, counts.minCharacteristics⟩

def tellsUpdate (event : Log.Event) : Bool :=
  "Password policy updated: ".toList.isPrefixOf event.message

private theorem tellsUpdate_updated (policy : Policy) : tellsUpdate (updated policy) = true := rfl

private theorem filter_tellsUpdate_evaluationEvents (policy : Policy) (exempt : Bool)
    (outcome : Except CheckFault (List Violation)) :
    (policy.evaluationEvents exempt outcome).filter tellsUpdate = [] := by
  have waived : tellsUpdate .exempted = false := rfl
  have found : ∀ violations, tellsUpdate (.violationsFound violations) = false := fun _ => rfl
  rw [List.filter_eq_nil_iff]
  intro event member
  simp only [Policy.evaluationEvents, List.mem_append] at member
  rcases member with first | second
  · split at first
    · rw [List.mem_singleton.1 first, waived]
      exact Bool.false_ne_true
    · cases first
  · split at second
    · cases second
    · split at second
      · rw [List.mem_singleton.1 second, found]
        exact Bool.false_ne_true
      · cases second

private theorem install_of_accepted {draft : Draft} (accepted : draft.check = .ok policy)
    (tellable : isTellable policy = true) :
    install current draft = (policy, ⟨.ok .done, [updated policy]⟩) := by
  simp only [install, accepted, tellable, if_true]

private theorem install_of_refused (current : Policy) {draft : Draft}
    (refused : ∀ policy, draft.check ≠ .ok policy) :
    ∃ fault, install current draft = (current, ⟨.error (.policy fault), []⟩) := by
  rw [install]
  cases checked : draft.check with
  | ok policy => exact absurd checked (refused policy)
  | error fault => exact ⟨fault, rfl⟩

private theorem serve_of_installs (clock : Moment) (installs : Installs current request policy)
    (tellable : isTellable policy = true) :
    (serve clock current request).1 = policy ∧
      (serve clock current request).2.events.filter tellsUpdate = [updated policy] ∧
      ∃ answer, (serve clock current request).2.answer = .ok answer := by
  have told : [updated policy].filter tellsUpdate = [updated policy] :=
    List.filter_cons_of_pos (tellsUpdate_updated policy)
  cases installs with
  | update accepted =>
    rw [serve, install_of_accepted accepted tellable]
    exact ⟨rfl, told, _, rfl⟩
  | amend amended accepted =>
    rw [amended.eq_override] at accepted
    rw [serve, install_of_accepted accepted tellable]
    exact ⟨rfl, told, _, rfl⟩
  | reset => exact ⟨rfl, told, _, rfl⟩

private theorem serve_of_not_installs (clock : Moment) {current : Policy} {request : Request}
    (idle : ∀ policy, ¬ Installs current request policy) :
    (serve clock current request).1 = current ∧
      (serve clock current request).2.events.filter tellsUpdate = [] ∧
      (request.isChange = true →
        ∃ fault, (serve clock current request).2.answer = .error fault) := by
  cases request with
  | get => exact ⟨rfl, rfl, fun change => absurd change Bool.false_ne_true⟩
  | update draft =>
    obtain ⟨fault, refused⟩ := install_of_refused current
      fun policy accepted => idle policy (.update accepted)
    rw [serve, refused]
    exact ⟨rfl, rfl, fun _ => ⟨_, rfl⟩⟩
  | amend changes =>
    obtain ⟨fault, refused⟩ := install_of_refused current
      fun policy accepted => idle policy (.amend (Draft.override_amended _ changes) accepted)
    rw [serve, refused]
    exact ⟨rfl, rfl, fun _ => ⟨_, rfl⟩⟩
  | reset => exact absurd .reset (idle _)
  | check password context =>
    exact ⟨rfl, filter_tellsUpdate_evaluationEvents current _ _,
      fun change => absurd change Bool.false_ne_true⟩
  | requirements violated => exact ⟨rfl, rfl, fun change => absurd change Bool.false_ne_true⟩

/-- What serving one request comes to, from the policy in force to the next one. -/
structure Lawful (clock : Moment) (current : Policy) (request : Request) (next : Policy)
    (reply : Reply) : Prop where
  succeeds_iff : request.isChange = true →
    ((∃ answer, reply.answer = .ok answer) ↔ ∃ policy, Installs current request policy)
  installed : ∀ policy, Installs current request policy → next = policy
  told : ∀ policy, Installs current request policy →
    reply.events.filter tellsUpdate = [updated policy]
  kept : (∀ policy, ¬ Installs current request policy) → next = current
  untold : (∀ policy, ¬ Installs current request policy) → reply.events.filter tellsUpdate = []
  failed : ∀ fault, reply.answer = .error fault → next = current
  amended : ∀ changes answer, request = .amend changes → reply.answer = .ok answer →
    current.toDraft.Amended changes next.toDraft ∧ next.toDraft.check = .ok next
  asked : request = .get → next = current ∧ reply.answer = .ok (.policy current)
  checked : ∀ password context, request = .check password context → next = current ∧
    reply.answer = ((current.evaluate clock context password).map .violations).mapError .check
  listed : ∀ violated, request = .requirements violated → next = current ∧
    ∃ shown, current.checklist violated = .ok shown ∧ reply.answer = .ok (.checklist shown)

private theorem serve_lawful (clock : Moment) (writable : current.IsWritable)
    (given : request.IsWritable) :
    Lawful clock current request (serve clock current request).1
      (serve clock current request).2 := by
  have served {policy : Policy} (installs : Installs current request policy) :=
    serve_of_installs clock installs
      (isTellable_of_isWritable (isWritable_of_installs writable given installs))
  exact {
    succeeds_iff := fun change => by
      constructor
      · rintro ⟨answer, succeeded⟩
        by_cases installed : ∃ policy, Installs current request policy
        · exact installed
        · obtain ⟨fault, failed⟩ :=
            (serve_of_not_installs clock (not_exists.1 installed)).2.2 change
          cases failed.symm.trans succeeded
      · rintro ⟨policy, installs⟩
        exact (served installs).2.2
    installed := fun policy installs => (served installs).1
    told := fun policy installs => (served installs).2.1
    kept := fun idle => (serve_of_not_installs clock idle).1
    untold := fun idle => (serve_of_not_installs clock idle).2.1
    failed := fun fault failed => by
      refine (serve_of_not_installs clock fun policy installs => ?_).1
      obtain ⟨_, _, answer, succeeded⟩ := served installs
      cases failed.symm.trans succeeded
    amended := by
      rintro changes answer rfl succeeded
      cases checked : (current.toDraft.override changes).check with
      | error fault =>
        rw [serve, install, checked] at succeeded
        cases succeeded
      | ok policy =>
        have described := (Draft.check_eq_ok_iff _ _).1 checked
        rw [(served (.amend (Draft.override_amended _ _) checked)).1]
        exact ⟨(Draft.amended_iff _ _ _).2 described.symm, (Draft.check_eq_ok_iff _ _).2 rfl⟩
    asked := by
      rintro rfl
      exact ⟨rfl, rfl⟩
    checked := by
      rintro password context rfl
      exact ⟨rfl, rfl⟩
    listed := by
      rintro violated rfl
      obtain ⟨shown, listing⟩ :=
        (Policy.exists_checklist_iff violated).2 writable.hasWritableCounts
      refine ⟨rfl, shown, listing, ?_⟩
      rw [serve, listing]
      rfl }

private theorem isWritable_serve (clock : Moment) (writable : current.IsWritable)
    (given : request.IsWritable) : (serve clock current request).1.IsWritable := by
  have law := serve_lawful clock writable given
  by_cases installed : ∃ policy, Installs current request policy
  · obtain ⟨policy, installs⟩ := installed
    rw [law.installed policy installs]
    exact isWritable_of_installs writable given installs
  · rw [law.kept (not_exists.1 installed)]
    exact writable

def inForce (initial : Policy) (calls : List (Moment × Request)) : Policy :=
  (serveAll initial calls).1

private theorem serveAll_cons (initial : Policy) (call : Moment × Request)
    (rest : List (Moment × Request)) :
    serveAll initial (call :: rest) =
      (inForce (serve call.1 initial call.2).1 rest,
        (serve call.1 initial call.2).2 :: (serveAll (serve call.1 initial call.2).1 rest).2) := rfl

theorem inForce_cons (initial : Policy) (call : Moment × Request)
    (rest : List (Moment × Request)) :
    inForce initial (call :: rest) = inForce (serve call.1 initial call.2).1 rest := rfl

private theorem serveAll_append (initial : Policy) (before after : List (Moment × Request)) :
    serveAll initial (before ++ after) =
      (inForce (inForce initial before) after,
        (serveAll initial before).2 ++ (serveAll (inForce initial before) after).2) := by
  induction before generalizing initial with
  | nil => rfl
  | cons call rest ih =>
    rw [List.cons_append, serveAll_cons, inForce, ih]
    rfl

theorem inForce_append (initial : Policy) (before after : List (Moment × Request)) :
    inForce initial (before ++ after) = inForce (inForce initial before) after := by
  rw [inForce, serveAll_append]

private theorem isWritable_inForce {initial : Policy} {calls : List (Moment × Request)}
    (writable : initial.IsWritable) (given : ∀ call ∈ calls, call.2.IsWritable) :
    (inForce initial calls).IsWritable := by
  induction calls generalizing initial with
  | nil => exact writable
  | cons call rest ih =>
    obtain ⟨first, later⟩ := List.forall_mem_cons.1 given
    exact ih (isWritable_serve call.1 writable first) later

private theorem length_replies (initial : Policy) (calls : List (Moment × Request)) :
    (serveAll initial calls).2.length = calls.length := by
  induction calls generalizing initial with
  | nil => rfl
  | cons call rest ih => exact congrArg (· + 1) (ih _)

/-- No call installs a policy, in whatever state it is served. -/
def NoneInstalls (initial : Policy) (calls : List (Moment × Request)) : Prop :=
  ∀ before call after, calls = before ++ call :: after →
    ∀ policy, ¬ Installs (inForce initial before) call.2 policy

/-- The last policy that a call installed, or the initial one if none did. -/
inductive IsLastInstalled (initial : Policy) (calls : List (Moment × Request)) : Policy → Prop
  | initial (idle : NoneInstalls initial calls) : IsLastInstalled initial calls initial
  | installed {policy : Policy} (before : List (Moment × Request)) (call : Moment × Request)
      (after : List (Moment × Request)) (split : calls = before ++ call :: after)
      (installs : Installs (inForce initial before) call.2 policy)
      (idle : NoneInstalls policy after) : IsLastInstalled initial calls policy

private theorem noneInstalls_cons {initial : Policy} {call : Moment × Request}
    {rest : List (Moment × Request)} (first : ∀ policy, ¬ Installs initial call.2 policy)
    (later : NoneInstalls (serve call.1 initial call.2).1 rest) :
    NoneInstalls initial (call :: rest) := by
  intro before other after split
  cases before with
  | nil =>
    cases split
    exact first
  | cons _ earlier =>
    cases split
    exact later earlier other after rfl

private theorem isLastInstalled_inForce {initial : Policy} {calls : List (Moment × Request)}
    (writable : initial.IsWritable) (given : ∀ call ∈ calls, call.2.IsWritable) :
    IsLastInstalled initial calls (inForce initial calls) := by
  induction calls generalizing initial with
  | nil => exact .initial fun before _ _ split => by simp at split
  | cons call rest ih =>
    obtain ⟨here, there⟩ := List.forall_mem_cons.1 given
    have law := serve_lawful call.1 writable here
    have later := ih (isWritable_serve call.1 writable here) there
    rw [inForce_cons]
    generalize inForce (serve call.1 initial call.2).1 rest = final at later
    cases later with
    | installed before other after split installs idle =>
      exact .installed (call :: before) other after (by rw [split]; rfl) installs idle
    | initial idle =>
      by_cases installed : ∃ policy, Installs initial call.2 policy
      · obtain ⟨policy, installs⟩ := installed
        rw [law.installed policy installs] at idle ⊢
        exact .installed [] call rest rfl installs idle
      · have first := not_exists.1 installed
        have unchanged := law.kept first
        have none := noneInstalls_cons first idle
        rw [unchanged]
        exact .initial none

private theorem serveAll_erase_idle {initial : Policy} {before after : List (Moment × Request)}
    {clock : Moment} {request : Request}
    (idle : (serve clock (inForce initial before) request).1 = inForce initial before) :
    serveAll initial (before ++ after) =
      (inForce initial (before ++ (clock, request) :: after),
        (serveAll initial (before ++ (clock, request) :: after)).2.eraseIdx before.length) := by
  have place := length_replies initial before
  rw [inForce_append, serveAll_append, serveAll_append, serveAll_cons, inForce_cons, idle,
    List.eraseIdx_append_of_length_le (Nat.le_of_eq place), place, Nat.sub_self,
    List.eraseIdx_cons_zero]

theorem reply_of_call (initial : Policy) (before after : List (Moment × Request))
    (clock : Moment) (request : Request) :
    (serveAll initial (before ++ (clock, request) :: after)).2[before.length]? =
      some (serve clock (inForce initial before) request).2 := by
  have place := length_replies initial before
  rw [serveAll_append, serveAll_cons, List.getElem?_append_right (Nat.le_of_eq place), place,
    Nat.sub_self, List.getElem?_cons_zero]

/-- The service of any calls whose numbers can be written. The policy in force at the end passes
the check of its own fields, and is the last that was installed. Every call on the way is served
lawfully under the policy in force then, and one that fails leaves that policy and all other
replies as if it had been left out. -/
theorem serves_last_installed_policy (initial : Policy) (calls : List (Moment × Request))
    (writable : initial.IsWritable) (given : ∀ call ∈ calls, call.2.IsWritable) :
    (inForce initial calls).toDraft.check = .ok (inForce initial calls) ∧
      IsLastInstalled initial calls (inForce initial calls) ∧
      ∀ before clock request after, calls = before ++ (clock, request) :: after →
        ∃ reply, (serveAll initial calls).2[before.length]? = some reply ∧
          Lawful clock (inForce initial before) request
            (inForce initial (before ++ [(clock, request)])) reply ∧
          ∀ fault, reply.answer = .error fault →
            serveAll initial (before ++ after) =
              (inForce initial calls, (serveAll initial calls).2.eraseIdx before.length) := by
  refine ⟨(Draft.check_eq_ok_iff _ _).2 rfl, isLastInstalled_inForce writable given, ?_⟩
  rintro before clock request after rfl
  obtain ⟨earlier, later⟩ := List.forall_mem_append.1 given
  have law := serve_lawful clock (isWritable_inForce writable earlier)
    (List.forall_mem_cons.1 later).1
  refine ⟨_, reply_of_call initial before after clock request, ?_, ?_⟩
  · rw [inForce_append]
    exact law
  · intro fault failed
    exact serveAll_erase_idle (law.failed fault failed)

theorem serves_last_installed_policy_afterRefusal :
    let initial := Policy.preset Lexicon.empty
    let clock : Moment := ⟨0, none, by decide, nofun⟩
    let crossed : Request := .update { minLength := .int 9, maxLength := .int 8 }
    let changes : Draft.Changes :=
      { maxLength := some (.int 9), rules := some [⟨.digit, .int 3⟩]
        minCharacteristics := some (.int 1), maxRepeating := some (.int 2)
        estimator := some (.text "entropy"), expirationDays := some (.int 30) }
    let calls := [(clock, crossed), (clock, .amend changes)]
    (initial.IsWritable ∧ ∀ call ∈ calls, call.2.IsWritable) ∧
      (serve clock initial crossed).2.answer = .error (.policy .lengthsCrossed) ∧
      serveAll initial [(clock, .amend changes)] =
        (inForce initial calls, (serveAll initial calls).2.eraseIdx 0) ∧
      (inForce initial calls).toDraft =
        { initial.toDraft with
          maxLength := .int 9, rules := [⟨.digit, .int 3⟩], minCharacteristics := .int 1
          maxRepeating := .int 2, estimator := .text "entropy", expirationDays := .int 30 } := by
  intro initial clock crossed changes calls
  have writable : initial.IsWritable := by unfold Policy.IsWritable; decide +kernel
  have given : ∀ call ∈ calls, call.2.IsWritable := by
    refine List.forall_mem_cons.2 ⟨?_, List.forall_mem_singleton.2 ?_⟩ <;>
      unfold Request.IsWritable <;> decide +kernel
  have failed : (serve clock initial crossed).2.answer = .error (.policy .lengthsCrossed) := rfl
  obtain ⟨_, _, served⟩ := serves_last_installed_policy initial calls writable given
  obtain ⟨_, replied, _, erased⟩ := served [] clock crossed [(clock, .amend changes)] rfl
  cases replied
  obtain ⟨_, answered, law, _⟩ := served [(clock, crossed)] clock (.amend changes) [] rfl
  cases answered
  obtain ⟨amended, _⟩ := law.amended changes .done rfl rfl
  exact ⟨⟨writable, given⟩, failed, erased _ failed, amended.eq_override⟩

end PasswordAudit.Keeper
