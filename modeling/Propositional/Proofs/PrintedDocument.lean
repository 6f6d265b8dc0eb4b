import Propositional.Proofs.Layout
import Propositional.Proofs.LiteralMarkup
import Propositional.Proofs.Renaming
import Propositional.Proofs.Writing
import Propositional.Proofs.WrittenCells
import Propositional.Shell.Presentation

namespace Propositional.Shell
open Console (Kept Library pictures splitLines)

theorem table_log [Interpreter] (expression : String) :
    ∃ logged, tableLog expression = .ok logged := by
  obtain ⟨verdict, hverdict, -⟩ := TruthTable.verdict_of_results expression
  exact ⟨_, by rw [tableLog, hverdict]; rfl⟩

section
variable [Interpreter] [Library]

/-- A text is put where the path leads, in whatever form it is opened. -/
theorem present_to_eq {mode : Mode} {files : Files} (hlogged : tableLog expression = .ok logged)
    (hsaved : saved mode.format expression = .ok content) (hopens : files.Opens path place) :
    presentTo mode expression path files = (savedNotice mode path).map (fun notice =>
      (⟨notices mode expression ++ notice, logged⟩,
        files.put place (.file (.text content)))) := by
  have hwrite : files.write (if mode.format = .tabla then path else Files.simplify path) content =
      .ok (files.put place (.file (.text content))) := by
    split
    · exact Files.write_of_opens hopens content
    · exact Files.write_of_opens (Files.opens_simplify hopens) content
  have hrest : presentTo mode expression path files = (do
      let files ← (files.write (if mode.format = .tabla then path else Files.simplify path)
        content).mapError .file
      let notice ← savedNotice mode path
      return (⟨notices mode expression ++ notice, logged⟩, files)) := by
    rw [presentTo, hlogged, hsaved]
    rfl
  rw [hrest, hwrite]
  cases savedNotice mode path with
  | ok notice => rfl
  | error e => rfl

theorem present_eq {mode : Mode} (hlogged : tableLog expression = .ok logged) :
    present mode expression = (printed mode.format mode.width expression).map (fun shown =>
      ⟨notices mode expression ++ shown, logged⟩) := by
  rw [present, hlogged]
  cases printed mode.format mode.width expression with
  | ok shown => rfl
  | error e => rfl

section
variable {format : Format} (hformat : format ≠ .tabla)
include hformat

/-- A document does not depend on the width. -/
theorem document_of_format (expression : String) :
    ∃ doc, ∀ width, document format width expression = .ok doc := by
  obtain ⟨verdict, hverdict, -⟩ := TruthTable.verdict_of_results expression
  have hwritable := TruthTable.writable_of_expression expression
  cases format with
  | tabla => exact absurd rfl hformat
  | html =>
    refine ⟨(TruthTable.ofExpression expression).htmlWith expression verdict, fun _ => ?_⟩
    rw [document, TruthTable.html_of_verdict expression hverdict, hwritable.check]
    rfl
  | json =>
    refine ⟨((TruthTable.ofExpression expression).valueWith expression verdict).indented,
      fun _ => ?_⟩
    rw [document, TruthTable.json_of_verdict expression hverdict, hwritable.check]
    rfl

theorem saved_eq (h : ∀ width, document format width expression = .ok doc) :
    saved format expression = .ok (doc ++ "\n") := by
  have hdocument : saved format expression =
      (document format fileWidth expression).map (· ++ "\n") := by
    cases format with
    | tabla => exact absurd rfl hformat
    | html => rfl
    | json => rfl
  rw [hdocument, h fileWidth]
  rfl

theorem printed_eq (h : ∀ width, document format width expression = .ok doc) (width : Nat) :
    printed format width expression = (Console.print? width doc).mapError .print := by
  have hdocument : printed format width expression =
      (document format width expression >>= fun doc =>
        (Console.print? width doc).mapError .print) := by
    cases format with
    | tabla => exact absurd rfl hformat
    | html => rfl
    | json => rfl
  rw [hdocument, h width]
  rfl

end

theorem present_eq_iff (mode : Mode) (hformat : mode.format ≠ .tabla)
    (hdocument : ∀ width, document mode.format width expression = .ok doc)
    (hlogged : tableLog expression = .ok logged) :
    present mode expression = .ok ⟨notices mode expression ++ (doc ++ "\n"), logged⟩ ↔
      pictures doc.toList = doc.toList ∧ 0 < mode.width ∧
        ∀ line ∈ splitLines doc.toList, Kept mode.width line := by
  rw [← Console.print_eq_iff, present_eq hlogged, printed_eq hformat hdocument]
  cases Console.print? mode.width doc with
  | ok shown => simp [Except.map, Except.mapError]
  | error e => simp [Except.map, Except.mapError]

/-- The document of an expression is put into a file with a line break behind it, wherever the path
leads, and is shown on a console in the same way if no codes of pictures occur in it and the console
keeps all its lines, and else in another way or not at all. -/
theorem printed_eq_saved_iff (mode : Mode) (hformat : mode.format ≠ .tabla)
    (expression : String) : ∃ doc logged,
    (∀ width, document mode.format width expression = .ok doc) ∧
    (∀ files path place, Files.Opens files path place →
      presentTo mode expression path files = (savedNotice mode path).map (fun notice =>
        (⟨notices mode expression ++ notice, logged⟩,
          files.put place (.file (.text (doc ++ "\n")))))) ∧
    (present mode expression = .ok ⟨notices mode expression ++ (doc ++ "\n"), logged⟩ ↔
      pictures doc.toList = doc.toList ∧ 0 < mode.width ∧
        ∀ line ∈ splitLines doc.toList, Kept mode.width line) := by
  obtain ⟨doc, hdocument⟩ := document_of_format hformat expression
  obtain ⟨logged, hlogged⟩ := table_log expression
  have hsaved := saved_eq hformat hdocument
  exact ⟨doc, logged, hdocument, fun _ _ _ hopens => present_to_eq hlogged hsaved hopens,
    present_eq_iff mode hformat hdocument hlogged⟩

end

theorem printed_eq_saved_iff_json : ∃ doc logged,
    (∀ width, document .json width "p" = .ok doc) ∧
    (∀ files path place, Files.Opens files path place →
      presentTo ⟨80, .count 512, .json, true⟩ "p" path files =
        (savedNotice ⟨80, .count 512, .json, true⟩ path).map (fun notice =>
          (⟨notices ⟨80, .count 512, .json, true⟩ "p" ++ notice, logged⟩,
            files.put place (.file (.text (doc ++ "\n")))))) ∧
    (present ⟨80, .count 512, .json, true⟩ "p" =
      .ok ⟨notices ⟨80, .count 512, .json, true⟩ "p" ++ (doc ++ "\n"), logged⟩ ↔
        pictures doc.toList = doc.toList ∧ 0 < 80 ∧
          ∀ line ∈ splitLines doc.toList, Kept 80 line) :=
  printed_eq_saved_iff ⟨80, .count 512, .json, true⟩ (by decide) "p"

/-- The shortest expression has a document that is wider than an ordinary console. -/
theorem printed_html_ne_saved : ∃ content,
    (∃ transcript files,
      presentTo ⟨120, .count 512, .html, false⟩ "p" "p.html" ⟨[]⟩ = .ok (transcript, files) ∧
      files.entry? ["p.html"] = some (.file (.text content))) ∧
    ∀ logged, present ⟨120, .count 512, .html, false⟩ "p" ≠ .ok ⟨content, logged⟩ := by
  have hdocument : ∀ width, document .html width "p" = .ok (
      "<table><thead><tr><th>p</th><th>p</th></tr></thead>" ++
      "<tbody><tr><td>0</td><td>0</td></tr><tr><td>1</td><td>1</td></tr></tbody></table>" ++
      "<p><strong>Resultado: Indeterminación</strong></p>") := by
    intro width
    change document .html 0 "p" = _
    decide +kernel
  have hopens : Files.Opens ⟨[]⟩ "p.html" ["p.html"] := by
    constructor <;> decide +kernel
  have hnotice : savedNotice ⟨120, .count 512, .html, false⟩ "p.html" =
      .ok "✅ Guardado en p.html\n" := by decide +kernel
  have hfolder : Files.entry? ⟨[]⟩ ["p.html"] ≠ some .folder := by decide
  obtain ⟨logged, hlogged⟩ := table_log "p"
  have hsaved := saved_eq (by decide : Format.html ≠ .tabla) hdocument
  have hput : presentTo ⟨120, .count 512, .html, false⟩ "p" "p.html" ⟨[]⟩ = _ :=
    present_to_eq hlogged hsaved hopens
  rw [hnotice] at hput
  refine ⟨_, ⟨_, _, hput, Files.entry_put hfolder _⟩, fun logged' h => ?_⟩
  have hprinted := (present_eq hlogged).symm.trans h
  obtain ⟨shown, -, hshown⟩ := Console.Markup.map_eq_ok hprinted
  obtain rfl : logged = logged' := congrArg Transcript.logged hshown
  have hiff := present_eq_iff ⟨120, .count 512, .html, false⟩ (by decide) hdocument hlogged
  have hnone : notices ⟨120, .count 512, .html, false⟩ "p" = "" := rfl
  rw [hnone, String.empty_append] at hiff
  exact absurd (hiff.mp h).2.2 (by decide +kernel)

end Propositional.Shell
