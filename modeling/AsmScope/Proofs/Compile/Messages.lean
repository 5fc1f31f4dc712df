import AsmScope.Compile.Diagnostic
import AsmScope.Proofs.Text.Template

/-! What messages show of the path of the compiled file. It stands in none of them, neither in a text nor in what is
tagged, and two jobs on one source whose tools say the same but for the path are told the same. Both are about the whole
way of an output: cut into lines, trimmed, the path replaced, lines dropped, places read. -/

namespace AsmScope.Diagnostic
open AsmScope.Text
variable {s r digits file : List Char}

section Tags

theorem suffix_of_after? {part : List Char} (h : after? part s = some r) : r <:+ s :=
  ⟨part, (after?_eq_some_iff.mp h).symm⟩

theorem suffix_of_asciiNumeral? (h : asciiNumeral? s = some (digits, r)) : r <:+ s := by
  simp only [asciiNumeral?] at h
  split at h
  · cases h
  · cases h
    exact List.dropWhile_suffix _

theorem suffix_of_column? (h : column? s = some (digits, r)) : r <:+ s := by
  unfold column? at h
  split at h
  · split at h
    · rename_i found
      cases h
      exact ((List.suffix_cons ':' _).trans (suffix_of_asciiNumeral? found)).trans (List.suffix_cons ':' _)
    · cases h
  · cases h

theorem infix_of_tagParts? {parts : TagParts} (h : tagParts? s = some parts) : parts.text <:+: s := by
  simp only [tagParts?, Option.bind_eq_bind, Option.bind_eq_some_iff] at h
  obtain ⟨r, after, h⟩ := h
  have marked : r <:+ s := (suffix_of_after? after).trans (List.dropWhile_suffix _)
  split at h
  · rename_i c r
    split at h
    · rw [Option.bind_eq_some_iff] at h
      obtain ⟨⟨line, r'⟩, number, h⟩ := h
      cases h
      have numbered : r' <:+ s := ((suffix_of_asciiNumeral? number).trans (List.suffix_cons c r)).trans marked
      have placed : ((column? r').map Prod.snd).getD r' <:+ s := by
        cases found : column? r' with
        | none => exact numbered
        | some rest => exact (suffix_of_column? found).trans numbered
      have message := ((List.dropWhile_suffix isBlank).trans (List.dropWhile_suffix isPlaceEnd)).trans placed
      exact ((trim_isInfix _).trans (List.takeWhile_prefix _).isInfix).trans message.isInfix
    · cases h
  · cases h

theorem infix_of_tag? {t : Tag} (h : tag? s = some t) : t.text.toList <:+: s := by
  obtain ⟨parts, read, rfl⟩ := Option.map_eq_some_iff.mp h
  rw [TagParts.tag, String.toList_ofList]
  exact infix_of_tagParts? read

end Tags

section Secrecy

theorem sourceMark_eq : sourceMark = '<' :: ("source".toList ++ ['>']) := rfl

/-- A record is made from one line of the output by replacing the path and reading a place. -/
theorem exists_line_of_mem {file output : String} {d : Diagnostic} (h : d ∈ ofOutput file output) :
    ∃ line ∈ allLines output.toList, d.text.toList = replaceAll file.toList sourceMark (trim line) ∧
      d.tag = tag? d.text.toList := by
  obtain ⟨line, there, told⟩ := List.mem_filterMap.mp h
  obtain ⟨shown, kept, rfl⟩ := Option.map_eq_some_iff.mp told
  unfold told? at kept
  simp only at kept
  split at kept
  · cases kept
  · cases kept
    exact ⟨line, there, by simp⟩

/-- The path has a slash, which the mark has not, and neither of the brackets that the mark begins and ends with; so it
is not found in any record. Each text is a line of the output in which the path is replaced and nothing else. -/
theorem path_not_shown (file output : String) (slash : '/' ∈ file.toList) (opens : '<' ∉ file.toList)
    (closes : '>' ∉ file.toList) (d : Diagnostic) (told : d ∈ ofOutput file output) :
    ¬ file.toList <:+: d.text.toList ∧ (∀ tag, d.tag = some tag → ¬ file.toList <:+: tag.text.toList) ∧
    ∃ line ∈ allLines output.toList, Replaced file.toList sourceMark (trim line) d.text.toList := by
  obtain ⟨line, there, text, tagged⟩ := exists_line_of_mem told
  have replaced : Replaced file.toList sourceMark (trim line) d.text.toList :=
    text ▸ replaced_replaceAll (List.ne_nil_of_mem slash) (trim line)
  have apart : ¬ file.toList <:+: "source".toList := fun inside => absurd (inside.subset slash) (by decide)
  have hidden : ¬ file.toList <:+: d.text.toList := (sourceMark_eq ▸ replaced).not_isInfix opens closes apart
  refine ⟨hidden, fun tag told shown => hidden (shown.trans (infix_of_tag? ?_)), line, there, replaced⟩
  rw [← tagged, told]

/-- The path overlaps with itself in the message. -/
theorem path_not_shown_overlapping :
    '/' ∈ "/a/a".toList ∧ '<' ∉ "/a/a".toList ∧ '>' ∉ "/a/a".toList ∧
    ofOutput "/a/a" "/a/a:1: /a/a/a/a/a" = [⟨"<source>:1: <source><source>/a", some ⟨1, 0, "<source><source>/a"⟩⟩] ∧
    ¬ "/a/a".toList <:+: "<source>:1: <source><source>/a".toList ∧
    ¬ "/a/a".toList <:+: "<source><source>/a".toList := by
  have slash : '/' ∈ "/a/a".toList := by decide
  have opens : '<' ∉ "/a/a".toList := by decide
  have closes : '>' ∉ "/a/a".toList := by decide
  have told : ofOutput "/a/a" "/a/a:1: /a/a/a/a/a" =
      [⟨"<source>:1: <source><source>/a", some ⟨1, 0, "<source><source>/a"⟩⟩] := by decide +kernel
  obtain ⟨text, tagged, -⟩ := path_not_shown _ _ slash opens closes _ (told ▸ List.mem_singleton_self _)
  exact ⟨slash, opens, closes, told, text, tagged _ rfl⟩

end Secrecy

section Alike
variable {name : List Char} {t : Template}

theorem isName_sourceMark : IsName sourceMark := by decide

/-- A line is read as if the mark had stood in the holes from the beginning. -/
theorem told?_fill (marks : t.Marks name) : told? name (t.fill name) = told? [] (t.fill sourceMark) := by
  have inside := marks.of_infix t.trim_isInfix
  have named : replaceAll name sourceMark (trim (t.fill name)) = t.trim.fill sourceMark := by
    rw [Template.trim_fill marks.toIsName, Template.replaceAll_fill marks.filled inside.only]
  have marked : replaceAll [] sourceMark (trim (t.fill sourceMark)) = t.trim.fill sourceMark := by
    rw [replaceAll_empty, Template.trim_fill isName_sourceMark]
  unfold told?
  simp only [named, marked]

theorem ofLine?_fill (marks : t.Marks name) : ofLine? name (t.fill name) = ofLine? [] (t.fill sourceMark) :=
  congrArg _ (told?_fill marks)

theorem ofOutput_fill {path : String} (marks : t.Marks path.toList) :
    ofOutput path (String.ofList (t.fill path.toList)) = ofOutput "" (String.ofList (t.fill sourceMark)) := by
  simp only [ofOutput, String.toList_ofList, Template.allLines_fill marks.toIsName,
    Template.allLines_fill isName_sourceMark, List.filterMap_map]
  exact List.filterMap_congr fun line there => ofLine?_fill (marks.of_infix (Template.infix_of_mem_lines there))

/-- Outputs that differ in the path only are told the same, and as an output that has the mark in place of the path. -/
theorem messages_alike (t : Template) (p q : String) (hp : t.Marks p.toList) (hq : t.Marks q.toList) :
    ofOutput p (String.ofList (t.fill p.toList)) = ofOutput q (String.ofList (t.fill q.toList)) ∧
    ofOutput p (String.ofList (t.fill p.toList)) = ofOutput "" (String.ofList (t.fill sourceMark)) :=
  ⟨(ofOutput_fill hp).trans (ofOutput_fill hq).symm, ofOutput_fill hp⟩

/-- A note that begins with the path and has it twice at its end, and a line that is dropped in both outputs. -/
def twiceNamed : Template :=
  [some ' ', none] ++ ":3:5: see ".toList.map some ++ [none, none] ++ "\r\nfixme: ".toList.map some ++ [none]

theorem messages_alike_twiceNamed :
    twiceNamed.Marks "/a.c".toList ∧ twiceNamed.Marks "/tmp/job12/a.c".toList ∧
    ofOutput "/a.c" (String.ofList (twiceNamed.fill "/a.c".toList)) =
      ofOutput "/tmp/job12/a.c" (String.ofList (twiceNamed.fill "/tmp/job12/a.c".toList)) := by
  have short : twiceNamed.Marks "/a.c".toList := by decide +kernel
  have long : twiceNamed.Marks "/tmp/job12/a.c".toList := by decide +kernel
  exact ⟨short, long, (messages_alike twiceNamed _ _ short long).1⟩

end Alike

end AsmScope.Diagnostic
