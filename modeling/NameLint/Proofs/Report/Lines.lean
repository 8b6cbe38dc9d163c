import NameLint.Proofs.Source.Lines
import NameLint.Report.Render
import NameLint.Scan.Scanner

/-!
# Reports line by line

In its compact form a report has a line for each violation and each failure, as long as none of the texts in them
holds a line feed itself.
-/

namespace NameLint.Report

open NameLint.Declaration NameLint.FileTree NameLint.Scan

variable {text : String} {r : ScanReport} {v : Violation} {x : Failure}

/-! ## Texts on one line -/

/-- A text without a line feed. -/
def OnOneLine (text : String) : Prop := '\n' ∉ text.toList

instance (text : String) : Decidable (OnOneLine text) := inferInstanceAs (Decidable ('\n' ∉ text.toList))

@[simp] theorem onOneLine_append (a b : String) : OnOneLine (a ++ b) ↔ OnOneLine a ∧ OnOneLine b := by
  simp [OnOneLine, not_or]

@[simp] theorem onOneLine_number (n : Nat) : OnOneLine (toString n) := by
  intro hmem
  have hdigit : '\n' ∈ Nat.toDigits 10 n := by simpa [toString, Nat.repr] using hmem
  cases Nat.isDigit_of_mem_toDigits (by decide) (by decide) hdigit

@[simp] theorem onOneLine_key (c : Context) : OnOneLine c.key := by
  have hall : ∀ c ∈ Context.all, OnOneLine c.key := by decide
  exact hall c (Context.mem_all c)

theorem onOneLine_fault (fault : Fault) : OnOneLine fault.message := by
  cases fault <;> decide

theorem onOneLine_extractError (e : ExtractError) : OnOneLine e.message := by
  have hwords : OnOneLine "file is not valid UTF-8 (invalid byte at offset " ∧ OnOneLine ")" ∧
      OnOneLine "unbalanced '\x7d' at line " ∧ OnOneLine ", column " ∧
      OnOneLine "braces nested deeper than " ∧ OnOneLine " levels at line " := by decide
  cases e with
  | notUtf8 offset =>
      show OnOneLine ("file is not valid UTF-8 (invalid byte at offset " ++ toString offset ++ ")")
      simp only [onOneLine_append, onOneLine_number, hwords, and_self]
  | unbalancedBrace place =>
      show OnOneLine ("unbalanced '\x7d' at line " ++ toString place.line ++ ", column " ++ toString place.column)
      simp only [onOneLine_append, onOneLine_number, hwords, and_self]
  | nestingTooDeep place limit =>
      show OnOneLine ("braces nested deeper than " ++ toString limit ++ " levels at line " ++ toString place.line
        ++ ", column " ++ toString place.column)
      simp only [onOneLine_append, onOneLine_number, hwords, and_self]

theorem onOneLine_fileError (e : FileError) : OnOneLine e.message := by
  cases e with
  | unreadable fault => exact (onOneLine_append ..).mpr ⟨by decide, onOneLine_fault fault⟩
  | malformed reason => exact (onOneLine_append ..).mpr ⟨by decide, onOneLine_extractError reason⟩

theorem Violation.onOneLine_compact_iff :
    OnOneLine v.compact ↔ OnOneLine v.file ∧ OnOneLine v.identifier ∧ OnOneLine v.expected := by
  have hmarks : OnOneLine ":" ∧ OnOneLine ": " ∧ OnOneLine " '" ∧ OnOneLine "' should be " := by decide
  simp only [compact, locationText, onOneLine_append, onOneLine_number, onOneLine_key, hmarks, and_true, and_assoc]

theorem Failure.onOneLine_text_iff : OnOneLine x.text ↔ OnOneLine x.path ∧ OnOneLine x.reason := by
  have hmark : OnOneLine ": skipped: " := by decide
  simp only [Failure.text, onOneLine_append, hmark, and_true]

/-! ## The compact form -/

namespace ScanReport

/-- What the lines of the compact form hold: the violations, and behind them the failures. -/
def compactLines (r : ScanReport) : List String := r.violations.map (·.compact) ++ r.failures.map (·.text)

theorem renderCompact_eq (r : ScanReport) : r.renderCompact = String.join (r.compactLines.map (· ++ "\n")) := by
  rw [renderCompact, compactLines, ← String.toList_inj]
  simp [String.toList_join, Function.comp_def]

theorem splitOn_ended {lines : List (List Char)} (h : ∀ line ∈ lines, '\n' ∉ line) :
    (lines.flatMap (· ++ ['\n'])).splitOn '\n' = lines ++ [[]] := by
  induction lines with
  | nil => rfl
  | cons line lines ih =>
      obtain ⟨hline, hlines⟩ := List.forall_mem_cons.mp h
      rw [List.flatMap_cons, List.append_assoc, List.singleton_append,
        List.splitOn_append_cons_self_of_not_mem hline, ih hlines]
      rfl

theorem not_mem_of_mem_splitOn {cs line : List Char} (h : line ∈ cs.splitOn '\n') : '\n' ∉ line := by
  induction cs generalizing line with
  | nil =>
      rw [List.splitOn_nil, List.mem_singleton] at h
      simp [h]
  | cons c cs ih =>
      rw [List.splitOn_cons_eq_if_modifyHead] at h
      split at h
      · rcases List.mem_cons.mp h with rfl | h
        · simp
        · exact ih h
      · rename_i hc
        cases hsplit : cs.splitOn '\n' with
        | nil => exact absurd hsplit (List.splitOn_ne_nil '\n' cs)
        | cons first others =>
            rw [hsplit, List.modifyHead_cons] at h
            rcases List.mem_cons.mp h with rfl | hmem
            · have hfirst : '\n' ∉ first := ih (hsplit ▸ List.mem_cons_self ..)
              rw [List.mem_cons, not_or]
              exact ⟨fun heq => hc (beq_iff_eq.mpr heq.symm), hfirst⟩
            · exact ih (hsplit ▸ List.mem_cons_of_mem _ hmem)

/-- The compact form divides at its line feeds into what its lines hold, with nothing behind the last line feed,
exactly when each of them is on one line. -/
theorem splitOn_renderCompact_iff (r : ScanReport) :
    r.renderCompact.toList.splitOn '\n' = r.compactLines.map (·.toList) ++ [[]] ↔
      ∀ line ∈ r.compactLines, OnOneLine line := by
  have hrender : r.renderCompact.toList = (r.compactLines.map (·.toList)).flatMap (· ++ ['\n']) := by
    rw [renderCompact_eq, String.toList_join]
    simp [List.flatMap_map]
  constructor
  · intro h line hline
    have hmem : line.toList ∈ r.renderCompact.toList.splitOn '\n' := by
      rw [h]
      exact List.mem_append_left _ (List.mem_map_of_mem hline)
    exact not_mem_of_mem_splitOn hmem
  · intro h
    rw [hrender]
    exact splitOn_ended (by simpa [OnOneLine] using h)

end ScanReport

end NameLint.Report
