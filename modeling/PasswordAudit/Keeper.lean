import PasswordAudit.Checklist
import PasswordAudit.Policy.Draft

/-! A keeper holds the policy in force. A new policy takes its place as a whole once it has been
checked, and each such change is told; whatever fails or only asks leaves it as it is. -/
namespace PasswordAudit.Keeper

/-- What can be asked of a keeper. An amendment gives new values to some fields of the policy in
force. -/
inductive Request
  | get
  | update (draft : Draft)
  | amend (changes : Draft.Changes)
  | reset
  | check (password : Text) (context : Context)
  | requirements (violated : Option (List Violation))

inductive Answer
  | policy (policy : Policy)
  | done
  | violations (found : List Violation)
  | checklist (requirements : List Requirement)

inductive Fault
  | policy (fault : Policy.Fault)
  | check (fault : CheckFault)
  | count (fault : Count.Fault)

structure Reply where
  answer : Except Fault Answer
  events : List Log.Event

def updated (policy : Policy) : Log.Event :=
  .policyUpdated policy.minLength policy.maxLength policy.rules policy.minCharacteristics
    policy.lexicon.size

/-- Whether the numbers that are told of a new policy can be written. -/
def isTellable (policy : Policy) : Bool :=
  policy.minLength.isWritable && policy.maxLength.isWritable &&
    policy.rules.all (·.count.isWritable) && policy.minCharacteristics.isWritable

/-- Puts the policy that a draft describes in force. It is told only then, and if it cannot be told
it is in force all the same. -/
def install (current : Policy) (draft : Draft) : Policy × Reply :=
  match draft.check with
  | .error fault => (current, ⟨.error (.policy fault), []⟩)
  | .ok policy =>
    if isTellable policy then (policy, ⟨.ok .done, [updated policy]⟩)
    else (policy, ⟨.error (.count .unwritable), []⟩)

def serve (clock : Moment) (current : Policy) : Request → Policy × Reply
  | .get => (current, ⟨.ok (.policy current), []⟩)
  | .update draft => install current draft
  | .amend changes => install current (current.toDraft.override changes)
  | .reset =>
    let policy := Policy.preset current.lexicon
    (policy, ⟨.ok (.policy policy), [.rulesGiven (some []), updated policy]⟩)
  | .check password context =>
    let outcome := current.evaluate clock context password
    (current, ⟨(outcome.map Answer.violations).mapError Fault.check,
      current.evaluationEvents (current.isExempt password) outcome⟩)
  | .requirements violated =>
    (current, ⟨((current.checklist violated).map Answer.checklist).mapError Fault.count, []⟩)

def serveAll (current : Policy) : List (Moment × Request) → Policy × List Reply
  | [] => (current, [])
  | (clock, request) :: rest =>
    let (next, reply) := serve clock current request
    let (last, replies) := serveAll next rest
    (last, reply :: replies)

end PasswordAudit.Keeper
