import PasswordAudit.Proofs.Keeper.Runs
import PasswordAudit.Proofs.Lexicon.Words

/-! Resetting a keeper. The policy to start from comes into force with the words of the policy that
it replaces, so the same passwords are or hold a word. The lexicon itself is kept only if it has
words, or is like a fresh one: without words it loses its sources and whether case matters. -/
namespace PasswordAudit

private theorem Lexicon.kept_nil (caseSensitive : Bool) : kept [] caseSensitive = [] := by
  simp [kept, Text.distinct, Text.sorted, Text.dropRepeats]

private theorem Lexicon.words_empty : empty.words = [] := kept_nil false

namespace Policy

/-- All fields but the lexicon are those of the policy to start from. -/
def IsPreset (policy : Policy) : Prop :=
  policy = { preset Lexicon.empty with lexicon := policy.lexicon }

private theorem isPreset_preset (lexicon : Lexicon) : (preset lexicon).IsPreset := rfl

private theorem lexicon_preset_of_filled {lexicon : Lexicon} (filled : lexicon.words ≠ []) :
    (preset lexicon).lexicon = lexicon := by
  have words : lexicon.isEmpty = false := by simpa [Lexicon.isEmpty] using filled
  simp [preset, words]

private theorem lexicon_preset_of_empty {lexicon : Lexicon} (none : lexicon.words = []) :
    (preset lexicon).lexicon = Lexicon.empty := by
  simp [preset, Lexicon.isEmpty, none]

private theorem words_lexicon_preset (lexicon : Lexicon) :
    (preset lexicon).lexicon.words = lexicon.words := by
  by_cases none : lexicon.words = []
  · rw [lexicon_preset_of_empty none, none, Lexicon.words_empty]
  · rw [lexicon_preset_of_filled none]

/-- A policy to start from starts from itself. -/
private theorem preset_lexicon_preset (lexicon : Lexicon) :
    preset (preset lexicon).lexicon = preset lexicon := by
  by_cases none : lexicon.words = []
  · have same : preset lexicon = preset Lexicon.empty := by
      simp [preset, Lexicon.isEmpty, none]
    rw [same, lexicon_preset_of_empty Lexicon.words_empty]
  · rw [lexicon_preset_of_filled none]

end Policy

namespace Lexicon

private theorem same_iff (a b : Lexicon) :
    a.same b = true ↔
      a.words = b.words ∧ a.sources = b.sources ∧ a.caseSensitive = b.caseSensitive := by
  simp [same, and_assoc]

private theorem finds_iff_of_words_eq {a b : Lexicon} (words : a.words = b.words)
    (alike : a.words ≠ [] → a.caseSensitive = b.caseSensitive) (password : Text) :
    a.equalsAny password = b.equalsAny password ∧
      a.containsAny password = b.containsAny password := by
  by_cases none : a.words = []
  · have others : b.words = [] := words.symm.trans none
    simp [equalsAny, containsAny, isEmpty, none, others]
  · exact ⟨equalsAny_eq_of_words_eq words (alike none) password,
      containsAny_eq_of_words_eq words (alike none) password⟩

private theorem same_preset_iff (lexicon : Lexicon) :
    (Policy.preset lexicon).lexicon.same lexicon = true ↔
      ¬ (lexicon.words = [] ∧ (lexicon.sources ≠ [] ∨ lexicon.caseSensitive = true)) := by
  rw [same_iff]
  by_cases none : lexicon.words = []
  · have fresh : Lexicon.empty.sources = [] ∧ Lexicon.empty.caseSensitive = false := ⟨rfl, rfl⟩
    simp [Policy.lexicon_preset_of_empty none, none, words_empty, fresh, List.nil_eq]
  · simp [Policy.lexicon_preset_of_filled none, none]

end Lexicon

namespace Keeper

private theorem inForce_resets (lexicon : Lexicon) (clocks : List Moment) :
    inForce (Policy.preset lexicon) (clocks.map (·, .reset)) = Policy.preset lexicon := by
  induction clocks with
  | nil => rfl
  | cons clock rest ih =>
    have again : (serve clock (Policy.preset lexicon) .reset).1 = Policy.preset lexicon :=
      Policy.preset_lexicon_preset lexicon
    rw [List.map_cons, inForce_cons, again, ih]

/-- A reset after any calls. It installs and returns the policy to start from, with the words of
the policy in force before; a password is or holds a word just if it was or did before. The lexicon
is the same, with its sources and whether case matters, unless it has no words and is not like a
fresh one. However often the reset is repeated, it changes nothing more. -/
theorem reset_keeps_lexicon_iff (initial : Policy) (calls : List (Moment × Request))
    (clock : Moment) :
    let before := inForce initial calls
    let after := inForce initial (calls ++ [(clock, .reset)])
    (serveAll initial (calls ++ [(clock, .reset)])).2[calls.length]?.map Reply.answer =
        some (.ok (.policy after)) ∧
      after.IsPreset ∧ after.lexicon.words = before.lexicon.words ∧
      (∀ password, after.lexicon.equalsAny password = before.lexicon.equalsAny password ∧
        after.lexicon.containsAny password = before.lexicon.containsAny password) ∧
      (after.lexicon.same before.lexicon = true ↔ ¬ (before.lexicon.words = [] ∧
        (before.lexicon.sources ≠ [] ∨ before.lexicon.caseSensitive = true))) ∧
      ∀ clocks : List Moment,
        inForce initial (calls ++ (clock, .reset) :: clocks.map (·, .reset)) = after := by
  intro before after
  have installed : after = Policy.preset before.lexicon := inForce_append initial calls _
  have words : after.lexicon.words = before.lexicon.words := by
    rw [installed, Policy.words_lexicon_preset]
  refine ⟨?_, ?_, words, Lexicon.finds_iff_of_words_eq words ?_, ?_, ?_⟩
  · rw [reply_of_call, installed]
    rfl
  · rw [installed]
    exact Policy.isPreset_preset before.lexicon
  · intro filled
    rw [words] at filled
    rw [installed, Policy.lexicon_preset_of_filled filled]
  · rw [installed]
    exact Lexicon.same_preset_iff before.lexicon
  · intro clocks
    rw [inForce_append, inForce_cons, installed]
    exact inForce_resets before.lexicon clocks

/-- A lexicon made of a list that has only a comment does not stay through a reset. -/
theorem reset_keeps_lexicon_fails_noWords :
    let lexicon := Lexicon.ofEntries ["# none yet"] ["words.txt"] true
    let clock : Moment := ⟨0, none, by decide, nofun⟩
    let initial := Policy.preset Lexicon.empty
    let calls := [(clock, Request.update { lexicon })]
    let before := inForce initial calls
    let after := inForce initial (calls ++ [(clock, .reset)])
    before.lexicon.words = [] ∧ before.lexicon.sources = ["words.txt".toList] ∧
      before.lexicon.caseSensitive = true ∧ after.lexicon.sources = [] ∧
      after.lexicon.caseSensitive = false ∧ after.lexicon.same before.lexicon = false := by
  intro lexicon clock initial calls before after
  have current : before.lexicon = lexicon := rfl
  have none : lexicon.words = [] := Lexicon.kept_nil true
  have fresh : after.lexicon = Lexicon.empty := Policy.lexicon_preset_of_empty none
  rw [current, fresh]
  exact ⟨none, rfl, rfl, rfl, rfl, by simp [Lexicon.same, lexicon, Lexicon.ofEntries,
    Lexicon.ofWords, Lexicon.empty]⟩

end Keeper
end PasswordAudit
