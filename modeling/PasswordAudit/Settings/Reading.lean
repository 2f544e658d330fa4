import PasswordAudit.Settings.IntegerText
import PasswordAudit.Strength

/-! Reading the value of a single setting. Integers and flags are also read from texts and from
numbers that stand for them without loss. -/
namespace PasswordAudit.Settings

def wordBound : Int := 9223372036854775808

def fitsWord (n : Int) : Bool := -wordBound < n && n < wordBound

def integerOfReal (x : Decimal.Binary64) : Except IssueKind Int :=
  if !x.isFinite then .error .notFinite
  else match x.toInt? with
    | none => .error .integerFraction
    | some n => if fitsWord n then .ok n else .error .integerSize

def readInteger : Value → Except IssueKind Int
  | .int n => .ok n
  | .flag b => .ok b.toNat
  | .real x => integerOfReal x
  | .text t => IntegerText.read t
  | _ => .error .integerKind

def readNatural (least : Nat) (value : Value) : Except IssueKind { n : Nat // least ≤ n } :=
  match readInteger value with
  | .error kind => .error kind
  | .ok n => if h : (least : Int) ≤ n then .ok ⟨n.toNat, by omega⟩ else .error (.tooSmall least)

def affirmative : List String := ["1", "on", "t", "true", "y", "yes"]

def negative : List String := ["0", "off", "f", "false", "n", "no"]

def flagOfText (text : Text) : Except IssueKind Bool :=
  let lowered := text.map Char.toLower
  if affirmative.any (·.toList == lowered) then .ok true
  else if negative.any (·.toList == lowered) then .ok false
  else .error .flagText

def flagOfInteger (n : Int) : Except IssueKind Bool :=
  if n = 0 then .ok false else if n = 1 then .ok true else .error .flagText

def readFlag : Value → Except IssueKind Bool
  | .flag b => .ok b
  | .text t => flagOfText t
  | .int n => if -wordBound ≤ n ∧ n < wordBound then flagOfInteger n else .error .flagKind
  | .real x => match integerOfReal x with
    | .ok n => flagOfInteger n
    | .error _ => .error .flagKind
  | _ => .error .flagKind

def readText : Value → Except IssueKind Text
  | .text t => .ok t
  | _ => .error .textKind

def readEstimator : Value → Except IssueKind Estimator
  | .text t => match Estimator.ofName? t with
    | some estimator => .ok estimator
    | none => .error .notAChoice
  | _ => .error .notAChoice

abbrev Limit := { n : Option Nat // ∀ m ∈ n, 1 ≤ m }

theorem no_limit_pos : ∀ m ∈ (none : Option Nat), 1 ≤ m := by simp

def noLimit : Limit := ⟨none, no_limit_pos⟩

/-- Nothing, or a blank text, is no limit. -/
def readLimit (value : Value) : Except IssueKind Limit :=
  let absent := match value with
    | .null => true
    | .text t => Text.isAllBlank t
    | _ => false
  if absent then .ok noLimit
  else (readNatural 1 value).map fun n => ⟨some n.1, fun _ h => Option.some.inj h ▸ n.2⟩

/-- A list written as one text: the items are stripped, and blank ones dropped. -/
def splitPaths (text : Text) : List Text :=
  ((List.splitOn ',' text).map Text.strip).filter (!·.isEmpty)

def readPaths : Value → Except (List (Option Nat × IssueKind × Value)) (List Text)
  | .text t => .ok (splitPaths t)
  | .list items =>
    let faulty := items.zipIdx.filterMap fun (item, place) => match readText item with
      | .ok _ => none
      | .error kind => some (some place, kind, item)
    if faulty.isEmpty then .ok (items.filterMap fun item => (readText item).toOption)
    else .error faulty
  | value => .error [(none, .listKind, value)]

end PasswordAudit.Settings
