import PasswordAudit.Proofs.Except
import PasswordAudit.Text.Utf8

/-! UTF-8 by its syntax. A character has one spelling of one to four octets, which leaves out
overlong forms and surrogates. Reading accepts the spellings of characters one after the other and
nothing else, so it undoes writing and there is no second way to write a text. -/
namespace PasswordAudit

namespace Text.Utf8

def IsTail (octet : UInt8) : Prop := 0x80 ≤ octet.toNat ∧ octet.toNat ≤ 0xBF

/-- The octets that spell a character, by how many there are. -/
inductive Spells (c : Char) : Octets → Prop
  | one {a : UInt8} (lead : a.toNat < 0x80) (value : c.toNat = a.toNat) : Spells c [a]
  | two {a b : UInt8} (lead : 0xC2 ≤ a.toNat ∧ a.toNat < 0xE0) (second : IsTail b)
      (value : c.toNat = (a.toNat - 0xC0) * 64 + (b.toNat - 0x80)) : Spells c [a, b]
  | three {a b d : UInt8} (lead : 0xE0 ≤ a.toNat ∧ a.toNat < 0xF0) (second : IsTail b)
      (short : a.toNat = 0xE0 → 0xA0 ≤ b.toNat) (valid : a.toNat = 0xED → b.toNat ≤ 0x9F)
      (third : IsTail d)
      (value : c.toNat =
        ((a.toNat - 0xE0) * 64 + (b.toNat - 0x80)) * 64 + (d.toNat - 0x80)) :
      Spells c [a, b, d]
  | four {a b d e : UInt8} (lead : 0xF0 ≤ a.toNat ∧ a.toNat ≤ 0xF4) (second : IsTail b)
      (short : a.toNat = 0xF0 → 0x90 ≤ b.toNat) (valid : a.toNat = 0xF4 → b.toNat ≤ 0x8F)
      (third : IsTail d) (fourth : IsTail e)
      (value : c.toNat =
        (((a.toNat - 0xF0) * 64 + (b.toNat - 0x80)) * 64 + (d.toNat - 0x80)) * 64
          + (e.toNat - 0x80)) :
      Spells c [a, b, d, e]

/-- The code points of characters leave out the surrogates. -/
private theorem toNat_cases (c : Char) : c.toNat < 0xD800 ∨ 0xDFFF < c.toNat ∧ c.toNat < 0x110000 :=
  c.valid

private theorem toNat_octet {n : Nat} (small : n < 256) : (UInt8.ofNat n).toNat = n :=
  UInt8.toNat_ofNat_of_lt small

private theorem isTail_octet (n : Nat) : IsTail (UInt8.ofNat (0x80 + n % 64)) := by
  rw [IsTail, toNat_octet (by omega)]
  omega

private theorem spells_encodePoint (c : Char) : Spells c (encodePoint c) := by
  have valid := toNat_cases c
  unfold encodePoint
  simp only
  split
  · next small =>
    exact .one (by rw [toNat_octet] <;> omega) (by rw [toNat_octet]; omega)
  · split
    · refine .two ?_ (isTail_octet _) ?_
      · rw [toNat_octet] <;> omega
      · rw [toNat_octet, toNat_octet] <;> omega
    · split
      · refine .three ?_ (isTail_octet _) ?_ ?_ (isTail_octet _) ?_
        all_goals
          simp only [toNat_octet (show 0xE0 + c.toNat / 4096 < 256 by omega),
            toNat_octet (show 0x80 + c.toNat / 64 % 64 < 256 by omega),
            toNat_octet (show 0x80 + c.toNat / 1 % 64 < 256 by omega)]
          omega
      · refine .four ?_ (isTail_octet _) ?_ ?_ (isTail_octet _) (isTail_octet _) ?_
        all_goals
          simp only [toNat_octet (show 0xF0 + c.toNat / 262144 < 256 by omega),
            toNat_octet (show 0x80 + c.toNat / 4096 % 64 < 256 by omega),
            toNat_octet (show 0x80 + c.toNat / 64 % 64 < 256 by omega),
            toNat_octet (show 0x80 + c.toNat / 1 % 64 < 256 by omega)]
          omega

private theorem octet_eq {n : Nat} {octet : UInt8} (value : n = octet.toNat) :
    UInt8.ofNat n = octet := by
  rw [value, UInt8.ofNat_toNat]

private theorem encodePoint_eq_of_spells {c : Char} {octets : Octets} (spells : Spells c octets) :
    encodePoint c = octets := by
  unfold encodePoint
  simp only
  cases spells with
  | one lead value => rw [if_pos (by omega), octet_eq value]
  | @two a b lead second value =>
    have inside := second
    unfold IsTail at inside
    rw [if_neg (by omega), if_pos (by omega), @octet_eq _ a (by omega),
      @octet_eq _ b (by omega)]
  | @three a b d lead second short valid third value =>
    unfold IsTail at second third
    rw [if_neg (by omega), if_neg (by omega), if_pos (by omega), @octet_eq _ a (by omega),
      @octet_eq _ b (by omega), @octet_eq _ d (by omega)]
  | @four a b d e lead second short valid third fourth value =>
    unfold IsTail at second third fourth
    rw [if_neg (by omega), if_neg (by omega), if_neg (by omega), @octet_eq _ a (by omega),
      @octet_eq _ b (by omega), @octet_eq _ d (by omega),
      @octet_eq _ e (by omega)]

/-! How many octets follow a first one, and where the second lies. -/

private theorem following_of_one {a : UInt8} (lead : a.toNat < 0x80) :
    following a = some (0, 0x80, 0xBF) := by
  rw [following, if_pos lead]

private theorem following_of_two {a : UInt8} (lead : 0xC2 ≤ a.toNat ∧ a.toNat < 0xE0) :
    following a = some (1, 0x80, 0xBF) := by
  rw [following, if_neg (by omega), if_neg (by omega), if_pos lead.2]

private theorem following_of_three {a : UInt8} (lead : 0xE0 ≤ a.toNat ∧ a.toNat < 0xF0) :
    following a = some (2, if a.toNat = 0xE0 then 0xA0 else 0x80,
      if a.toNat = 0xED then 0x9F else 0xBF) := by
  rw [following, if_neg (by omega), if_neg (by omega), if_neg (by omega)]
  by_cases short : a.toNat = 0xE0
  · simp [short]
  · by_cases surrogate : a.toNat = 0xED
    · simp [surrogate]
    · simp [short, surrogate, lead.2]

private theorem following_of_four {a : UInt8} (lead : 0xF0 ≤ a.toNat ∧ a.toNat ≤ 0xF4) :
    following a = some (3, if a.toNat = 0xF0 then 0x90 else 0x80,
      if a.toNat = 0xF4 then 0x8F else 0xBF) := by
  rw [following, if_neg (by omega), if_neg (by omega), if_neg (by omega), if_neg (by omega),
    if_neg (by omega), if_neg (by omega)]
  by_cases short : a.toNat = 0xF0
  · simp [short]
  · by_cases last : a.toNat = 0xF4
    · simp [last]
    · rw [if_neg short, if_neg short, if_neg last, if_neg last, if_pos (by omega)]

private theorem inside_three_iff (a b : UInt8) :
    ((if a.toNat = 0xE0 then 0xA0 else 0x80) ≤ b.toNat ∧
        b.toNat ≤ (if a.toNat = 0xED then 0x9F else 0xBF)) ↔
      IsTail b ∧ (a.toNat = 0xE0 → 0xA0 ≤ b.toNat) ∧ (a.toNat = 0xED → b.toNat ≤ 0x9F) := by
  unfold IsTail
  split <;> split <;> omega

private theorem inside_four_iff (a b : UInt8) :
    ((if a.toNat = 0xF0 then 0x90 else 0x80) ≤ b.toNat ∧
        b.toNat ≤ (if a.toNat = 0xF4 then 0x8F else 0xBF)) ↔
      IsTail b ∧ (a.toNat = 0xF0 → 0x90 ≤ b.toNat) ∧ (a.toNat = 0xF4 → b.toNat ≤ 0x8F) := by
  unfold IsTail
  split <;> split <;> omega

private theorem lead_of_following {a : UInt8} (known : following a ≠ none) :
    a.toNat < 0x80 ∨ (0xC2 ≤ a.toNat ∧ a.toNat < 0xE0) ∨ (0xE0 ≤ a.toNat ∧ a.toNat < 0xF0) ∨
      (0xF0 ≤ a.toNat ∧ a.toNat ≤ 0xF4) := by
  refine Classical.byContradiction fun outside => known ?_
  unfold following
  simp only
  split
  · omega
  · split
    · rfl
    · repeat rw [if_neg (by omega)]

variable {position start accepted value low high : Nat} {first : UInt8}

private theorem run_one (lead : first.toNat < 0x80) (rest : Octets) :
    run position none (first :: rest) =
      (run (position + 1) none rest).map (Char.ofNat first.toNat :: ·) := by
  rw [run, following_of_one lead]
  rfl

private theorem run_two (lead : 0xC2 ≤ first.toNat ∧ first.toNat < 0xE0) (rest : Octets) :
    run position none (first :: rest) =
      run (position + 1) (some ⟨position, first, 1, first.toNat - 0xC0, 1, 0x80, 0xBF⟩) rest := by
  rw [run, following_of_two lead]
  rfl

private theorem run_three (lead : 0xE0 ≤ first.toNat ∧ first.toNat < 0xF0) (rest : Octets) :
    run position none (first :: rest) =
      run (position + 1) (some ⟨position, first, 1, first.toNat - 0xE0, 2,
        if first.toNat = 0xE0 then 0xA0 else 0x80,
        if first.toNat = 0xED then 0x9F else 0xBF⟩) rest := by
  rw [run, following_of_three lead]
  rfl

private theorem run_four (lead : 0xF0 ≤ first.toNat ∧ first.toNat ≤ 0xF4) (rest : Octets) :
    run position none (first :: rest) =
      run (position + 1) (some ⟨position, first, 1, first.toNat - 0xF0, 3,
        if first.toNat = 0xF0 then 0x90 else 0x80,
        if first.toNat = 0xF4 then 0x8F else 0xBF⟩) rest := by
  rw [run, following_of_four lead]
  rfl

private theorem run_last {octet : UInt8} (inside : low ≤ octet.toNat ∧ octet.toNat ≤ high)
    (rest : Octets) :
    run position (some ⟨start, first, accepted, value, 1, low, high⟩) (octet :: rest) =
      (run (position + 1) none rest).map (Char.ofNat (value * 64 + (octet.toNat - 0x80)) :: ·) := by
  have kept : ¬ (octet.toNat < low ∨ high < octet.toNat) := by omega
  simp [run, kept]

private theorem run_more {octet : UInt8} (inside : low ≤ octet.toNat ∧ octet.toNat ≤ high)
    (missing : Nat) (rest : Octets) :
    run position (some ⟨start, first, accepted, value, missing + 2, low, high⟩) (octet :: rest) =
      run (position + 1) (some ⟨start, first, accepted + 1, value * 64 + (octet.toNat - 0x80),
        missing + 1, 0x80, 0xBF⟩) rest := by
  have kept : ¬ (octet.toNat < low ∨ high < octet.toNat) := by omega
  simp [run, kept]

/-- A sequence that is under way is read only if its next octet is there and in range. -/
private theorem run_pending_inside {missing : Nat} {octets : Octets} {text : Text}
    (read : run position (some ⟨start, first, accepted, value, missing, low, high⟩) octets =
      .ok text) :
    ∃ octet rest, octets = octet :: rest ∧ low ≤ octet.toNat ∧ octet.toNat ≤ high := by
  cases octets with
  | nil => simp [run] at read
  | cons octet rest =>
    refine ⟨octet, rest, rfl, ?_⟩
    refine Classical.byContradiction fun outside => ?_
    have refused : octet.toNat < low ∨ high < octet.toNat := by omega
    simp [run, refused] at read

private theorem run_of_spells {c : Char} {octets : Octets} (spells : Spells c octets)
    (position : Nat) (rest : Octets) :
    run position none (octets ++ rest) =
      (run (position + octets.length) none rest).map (c :: ·) := by
  have same := Char.ofNat_toNat c
  cases spells with
  | one lead value =>
    rw [value] at same
    rw [List.singleton_append, run_one lead, same]
    rfl
  | two lead second value =>
    rw [value] at same
    simp only [List.cons_append, List.nil_append]
    rw [run_two lead, run_last second, same]
    rfl
  | three lead second short valid third value =>
    rw [value] at same
    have inside := (inside_three_iff _ _).2 ⟨second, short, valid⟩
    simp only [List.cons_append, List.nil_append]
    rw [run_three lead, run_more inside, run_last third, same]
    rfl
  | four lead second short valid third fourth value =>
    rw [value] at same
    have inside := (inside_four_iff _ _).2 ⟨second, short, valid⟩
    simp only [List.cons_append, List.nil_append]
    rw [run_four lead, run_more inside, run_more third, run_last fourth, same]
    rfl

private theorem exists_char {n : Nat} (valid : n < 0xD800 ∨ 0xDFFF < n ∧ n < 0x110000) :
    ∃ c : Char, c.toNat = n ∧ Char.ofNat n = c :=
  ⟨Char.ofNat n, by rw [Char.ofNat, dif_pos valid]; rfl, rfl⟩

private theorem spells_of_run {position : Nat} {a : UInt8} {rest : Octets} {text : Text}
    (read : run position none (a :: rest) = .ok text) :
    ∃ c octets later more, Spells c octets ∧ a :: rest = octets ++ later ∧ text = c :: more ∧
      run (position + octets.length) none later = .ok more := by
  have known : following a ≠ none := by
    intro unknown
    rw [run, unknown] at read
    cases read
  rcases lead_of_following known with lead | lead | lead | lead
  · rw [run_one lead, Except.map_eq_ok_iff] at read
    obtain ⟨more, read, rfl⟩ := read
    obtain ⟨c, value, same⟩ := exists_char (n := a.toNat) (by omega)
    exact ⟨c, [a], rest, more, .one lead value, rfl, by rw [same], read⟩
  · rw [run_two lead] at read
    obtain ⟨b, rest, rfl, second⟩ := run_pending_inside read
    rw [run_last second, Except.map_eq_ok_iff] at read
    obtain ⟨more, read, rfl⟩ := read
    obtain ⟨c, value, same⟩ := exists_char
      (n := (a.toNat - 0xC0) * 64 + (b.toNat - 0x80)) (by omega)
    exact ⟨c, [a, b], rest, more, .two lead second value, rfl, by rw [same], read⟩
  · rw [run_three lead] at read
    obtain ⟨b, rest, rfl, inside⟩ := run_pending_inside read
    rw [run_more inside] at read
    obtain ⟨d, rest, rfl, third⟩ := run_pending_inside read
    rw [run_last third, Except.map_eq_ok_iff] at read
    obtain ⟨more, read, rfl⟩ := read
    obtain ⟨second, short, valid⟩ := (inside_three_iff a b).1 inside
    have range := second.2
    obtain ⟨c, value, same⟩ := exists_char
      (n := ((a.toNat - 0xE0) * 64 + (b.toNat - 0x80)) * 64 + (d.toNat - 0x80)) (by omega)
    exact ⟨c, [a, b, d], rest, more, .three lead second short valid third value, rfl,
      by rw [same], read⟩
  · rw [run_four lead] at read
    obtain ⟨b, rest, rfl, inside⟩ := run_pending_inside read
    rw [run_more inside] at read
    obtain ⟨d, rest, rfl, third⟩ := run_pending_inside read
    rw [run_more third] at read
    obtain ⟨e, rest, rfl, fourth⟩ := run_pending_inside read
    rw [run_last fourth, Except.map_eq_ok_iff] at read
    obtain ⟨more, read, rfl⟩ := read
    obtain ⟨second, short, valid⟩ := (inside_four_iff a b).1 inside
    have range := second.2
    obtain ⟨c, value, same⟩ := exists_char
      (n := (((a.toNat - 0xF0) * 64 + (b.toNat - 0x80)) * 64 + (d.toNat - 0x80)) * 64
        + (e.toNat - 0x80)) (by omega)
    exact ⟨c, [a, b, d, e], rest, more, .four lead second short valid third fourth value, rfl,
      by rw [same], read⟩

private theorem run_encode (text : Text) (position : Nat) :
    run position none (encode text) = .ok text := by
  induction text generalizing position with
  | nil => rfl
  | cons c rest ih =>
    have split : encode (c :: rest) = encodePoint c ++ encode rest := rfl
    rw [split, run_of_spells (spells_encodePoint c), ih]
    rfl

private theorem encode_of_run {position : Nat} {octets : Octets} {text : Text}
    (read : run position none octets = .ok text) : encode text = octets := by
  induction text generalizing position octets with
  | nil =>
    cases octets with
    | nil => rfl
    | cons a rest =>
      obtain ⟨c, _, _, more, _, _, same, _⟩ := spells_of_run read
      cases same
  | cons c rest ih =>
    cases octets with
    | nil => cases read
    | cons a later =>
      obtain ⟨d, front, back, more, spells, whole, same, next⟩ := spells_of_run read
      cases same
      have split : encode (c :: rest) = encodePoint c ++ encode rest := rfl
      rw [split, encodePoint_eq_of_spells spells, ih next, whole]

/-- Reading undoes writing, and what it accepts has been written by it. -/
theorem decode_eq_ok_iff (octets : Octets) (text : Text) :
    decode octets = .ok text ↔ octets = encode text := by
  constructor
  · intro read
    exact (encode_of_run read).symm
  · rintro rfl
    exact run_encode text 0

theorem decode_encode (text : Text) : decode (encode text) = .ok text :=
  (decode_eq_ok_iff _ _).2 rfl

end Text.Utf8
end PasswordAudit
