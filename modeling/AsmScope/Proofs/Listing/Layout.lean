import AsmScope.Proofs.Listing.Filtering

/-! What is read from a line is the same before and after its layout is changed: before and after tabs are expanded and
blanks at the end are dropped, and so for a line as it is shown. -/

namespace AsmScope.Listing
open AsmScope.Text

/-- What is read from one line: its kind, the label that it defines, and whether it carries an opcode. -/
def reading (line : List Char) : Kind × Option (List Char) × Bool := (classify line, label? line, hasOpcode line)

theorem reading_of_relaid {line shown : List Char} (h : Relaid line shown) (oneLine : '\n' ∉ line) :
    reading shown = reading line := by
  rw [reading, h.classify oneLine, h.label?, h.hasOpcode]
  rfl

/-- Neither the expansion of tabs nor the loss of the blanks at the end changes what is read from a line; so it is read
the same from the line that is shown for it, trimmed or not. -/
theorem reading_ignores_layout {line : List Char} (oneLine : '\n' ∉ line) :
    reading (expandTabs line) = reading line ∧ reading (dropBlankEnd line) = reading line ∧
      ∀ s : Standing, reading (shownLine s (classify line) line).letters = reading line ∧
        reading (shownLine s (classify line) line).trimEnd.letters = reading line := by
  refine ⟨reading_of_relaid (.expandTabs line) oneLine, reading_of_relaid (Relaid.refl line).dropBlankEnd oneLine,
    fun s => ?_⟩
  have shown := relaid_shownLine s line
  rw [Line.letters_trimEnd]
  exact ⟨reading_of_relaid shown oneLine, reading_of_relaid shown.dropBlankEnd oneLine⟩

/-- A label before an instruction, with tabs between them and at the end. -/
theorem reading_ignores_layout_labelled :
    '\n' ∉ ".L3:\tmov\t%eax, 1\t \u00a0".toList ∧
    reading (expandTabs ".L3:\tmov\t%eax, 1\t \u00a0".toList) = (.instruction, some ".L3".toList, true) ∧
    reading (dropBlankEnd ".L3:\tmov\t%eax, 1\t \u00a0".toList) = (.instruction, some ".L3".toList, true) := by
  have oneLine : '\n' ∉ ".L3:\tmov\t%eax, 1\t \u00a0".toList := by decide
  have whole : reading ".L3:\tmov\t%eax, 1\t \u00a0".toList = (.instruction, some ".L3".toList, true) := by decide
  obtain ⟨expanded, cut, -⟩ := reading_ignores_layout oneLine
  exact ⟨oneLine, expanded.trans whole, cut.trans whole⟩

end AsmScope.Listing
