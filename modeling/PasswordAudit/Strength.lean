import PasswordAudit.CharacterClass
import PasswordAudit.Decimal.Fixed

/-! Strength of a password: its length, or its entropy when each character is drawn at random from a
pool made up of the classes that occur. A score is a double-precision number. It is held as a whole
number of small parts, so that nothing is rounded but what floating point rounds. -/
namespace PasswordAudit

inductive Estimator
  | length
  | entropy
  deriving DecidableEq

namespace Estimator

def name : Estimator → Text
  | .length => "length"
  | .entropy => "entropy"

def ofName? (name : Text) : Option Estimator := [length, entropy].find? (·.name == name)

end Estimator

namespace Strength

/-- What each class adds to the pool when one of its characters occurs. -/
def pools : List ((Char → Bool) × Nat) :=
  [(CharacterClass.lowerCase.holds, 26), (CharacterClass.upperCase.holds, 26),
    (CharacterClass.digit.holds, 10), (CharacterClass.special.holds, 32), (Text.isBlank, 1)]

def poolSize (password : Text) : Nat :=
  ((pools.filter fun pool => password.any pool.1).map (·.2)).foldr (· + ·) 0

/-- The number of parts of a whole that scores are given in. Every score is a whole number of them.
-/
def unit : Nat := Nat.pow 2 51

/-- For each pool of more than one character the double-precision number nearest to the binary
logarithm of its size. -/
def logarithms : List (Nat × Nat) :=
  [(10, 7480317065143153), (11, 7789947474304322), (26, 10584449281548850),
    (27, 10707054791466012), (32, 11258999068426240), (33, 11358965738126326),
    (36, 11641636155014504), (37, 11730646118125258), (42, 12142419367944930),
    (43, 12218861963645012), (52, 12836249095234098), (53, 12898130212389332),
    (58, 13191000513399990), (59, 13246534522529814), (62, 13407658142374556),
    (63, 13459637818081686), (68, 13707747691743384), (69, 13755174233664862),
    (84, 14394219181630178), (85, 14432665315830794), (94, 14759621954991108),
    (95, 14793999634778610)]

def bitsPerCharacter (size : Nat) : Nat := (logarithms.lookup size).getD 0

/-- The score. Lengths and products are rounded to double precision. -/
def score (estimator : Estimator) (password : Text) : Nat :=
  match estimator with
  | .length => Decimal.nearest password.length * unit
  | .entropy =>
    if poolSize password ≤ 1 then 0
    else Decimal.nearest
      (Decimal.nearest password.length * bitsPerCharacter (poolSize password))

def reaches (estimator : Estimator) (threshold : Nat) (password : Text) : Bool :=
  threshold * unit ≤ score estimator password

def scoreText (estimator : Estimator) (password : Text) : Text :=
  Decimal.fixed 6 (score estimator password) unit

end Strength
end PasswordAudit
