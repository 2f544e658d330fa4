import PasswordAudit.Pattern.Fill

/-! Patterns that ask for nothing: a text whose braces are written twice is filled to itself, at any
time. -/
namespace PasswordAudit.Pattern

def isBrace (c : Char) : Bool := c == '\x7b' || c == '\x7d'

def doubled (text : Text) : Text := text.flatMap fun c => if isBrace c then [c, c] else [c]

private theorem readFrom_doubled_cons (c : Char) (rest : Text) :
    readFrom .outside ((if isBrace c then [c, c] else [c]) ++ rest) =
      (.char c :: (readFrom .outside rest).1, (readFrom .outside rest).2) := by
  by_cases opening : c = '\x7b'
  · subst opening
    rfl
  by_cases closing : c = '\x7d'
  · subst closing
    rfl
  simp [isBrace, opening, closing, readFrom, Place.step]

theorem read_doubled (text : Text) : read (doubled text) = (text.map .char, none) := by
  induction text with
  | nil => rfl
  | cons c rest ih =>
    rw [doubled, List.flatMap_cons, read, readFrom_doubled_cons]
    change (Part.char c :: (read (doubled rest)).1, (read (doubled rest)).2) = _
    rw [ih]
    rfl

theorem fill_doubled (text : Text) (clock : Moment) : fill (doubled text) clock = .ok text := by
  rw [fill, read_doubled]
  change fillTo clock 2 (doubled text) = _
  rw [fillTo, read_doubled]
  dsimp only
  rw [List.mapM_map]
  change (text.mapM (fun c => pure [c]) >>= fun filled => Except.ok filled.flatten) = _
  rw [List.mapM_pure]
  exact congrArg Except.ok (List.flatMap_singleton' text)

private theorem doubled_of_no_brace {text : Text} (plain : ∀ c ∈ text, isBrace c = false) :
    doubled text = text := by
  induction text with
  | nil => rfl
  | cons c rest ih =>
    rw [List.forall_mem_cons] at plain
    rw [doubled, List.flatMap_cons, plain.1]
    exact congrArg (c :: ·) (ih plain.2)

/-- A text without braces asks for nothing. -/
theorem fill_of_no_brace {text : Text} (plain : ∀ c ∈ text, isBrace c = false) (clock : Moment) :
    fill text clock = .ok text := by
  have filled := fill_doubled text clock
  rwa [doubled_of_no_brace plain] at filled

end PasswordAudit.Pattern
