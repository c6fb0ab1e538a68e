import SolverDeck.Diagnostic
import SolverDeck.Log.Event

/-!
# Telling the lines of the error output apart

The error output mixes log lines with the lines that end a failing run. They can be told apart by
how they begin: two texts *fork* if neither begins with the other, and then nothing put behind
them makes them the same (`Forks.append_ne`). A log line begins with the name of a level and a
blank, which forks with every beginning of a diagnostic (`Log.Event.line_ne_line`). What a line
says after its beginning, which may be any text of the user's, does not matter.
-/

namespace SolverDeck

/-! ### Texts that fork -/

/-- Neither of two texts begins with the other. -/
def Forks (s t : String) : Prop :=
  ¬ s.toList <+: t.toList ∧ ¬ t.toList <+: s.toList

instance (s t : String) : Decidable (Forks s t) :=
  inferInstanceAs (Decidable (_ ∧ _))

/-- Two texts that fork do not begin the same text. -/
theorem Forks.not_prefix {s t : String} (h : Forks s t) {whole : List Char}
    (hs : s.toList <+: whole) (ht : t.toList <+: whole) : False := by
  rcases List.prefix_or_prefix_of_prefix hs ht with hst | hts
  · exact h.1 hst
  · exact h.2 hts

/-- Texts go on forking when one of them is made longer. -/
theorem Forks.longer {s t u : String} (h : Forks s t) (hs : s.toList <+: u.toList) :
    Forks u t := by
  refine ⟨?_, ?_⟩
  · intro hut
    exact h.1 (hs.trans hut)
  · intro htu
    exact h.not_prefix hs htu

theorem Forks.append_ne {s t : String} (h : Forks s t) (more other : String) :
    s ++ more ≠ t ++ other := by
  intro heq
  have hs : s.toList <+: (s ++ more).toList := ⟨more.toList, by simp⟩
  have ht : t.toList <+: (s ++ more).toList := ⟨other.toList, by simp [heq]⟩
  exact h.not_prefix hs ht

/-! ### Lines by their beginnings -/

/-- How the line of a diagnostic begins. -/
def Diagnostic.beginning (d : Diagnostic) : String :=
  if d.category.isFatal then "ERROR: [" else "INFO: ["

theorem Diagnostic.line_eq (d : Diagnostic) :
    d.line = d.beginning ++ (d.placeholder ++ ("] " ++ d.message)) := by
  unfold Diagnostic.line Diagnostic.beginning
  cases d.category.isFatal <;> simp only [← String.append_assoc] <;> rfl

/-- What forks with both beginnings begins no line of a diagnostic. -/
theorem Diagnostic.append_ne_line {s : String} (herror : Forks s "ERROR: [")
    (hinfo : Forks s "INFO: [") (more : String) (d : Diagnostic) : s ++ more ≠ d.line := by
  rw [d.line_eq]
  unfold Diagnostic.beginning
  split
  · exact herror.append_ne _ _
  · exact hinfo.append_ne _ _

theorem Diagnostic.exitLine_ne_line (code : String) (d : Diagnostic) :
    "FATAL EXIT CODE: " ++ code ≠ d.line :=
  d.append_ne_line (by decide) (by decide) code

theorem Diagnostic.breakLine_ne_line (reason : String) (d : Diagnostic) :
    "failed printing to stdout: " ++ reason ≠ d.line :=
  d.append_ne_line (by decide) (by decide) reason

theorem Diagnostic.beginning_eq_or_forks (d e : Diagnostic) :
    d.beginning = e.beginning ∨ Forks d.beginning e.beginning := by
  unfold Diagnostic.beginning
  cases d.category.isFatal <;> cases e.category.isFatal <;> decide

/-- A diagnostic is told by its line: another one with the same line has a placeholder that does
not fork with its own, whatever the messages are. -/
theorem Diagnostic.not_forks_of_line_eq {d e : Diagnostic} (h : d.line = e.line) :
    ¬ Forks d.placeholder e.placeholder := by
  intro hforks
  rw [d.line_eq, e.line_eq] at h
  rcases d.beginning_eq_or_forks e with hsame | hbegin
  · rw [hsame, String.append_right_inj] at h
    exact hforks.append_ne _ _ h
  · exact hbegin.append_ne _ _ h

namespace Log.Event

/-- A log line begins with its level. -/
theorem exists_line (event : Event) :
    ∃ rest, event.line = event.level.name ++ " " ++ rest := by
  simp [Event.line]

theorem line_ne_line (event : Event) (d : Diagnostic) : event.line ≠ d.line := by
  obtain ⟨rest, hline⟩ := event.exists_line
  rw [hline]
  refine d.append_ne_line ?_ ?_ rest
  · cases event.level <;> decide
  · cases event.level <;> decide

end Log.Event

end SolverDeck
