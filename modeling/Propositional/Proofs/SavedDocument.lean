import Propositional.Proofs.DrawnTable
import Propositional.Proofs.LiteralMarkup
import Propositional.Proofs.PrintedDocument
import Propositional.Proofs.Variables
import Propositional.Proofs.Writing
import Propositional.Shell.Command

namespace Propositional.Shell
open Console (Library Plain pictures typeset?)
open Console.Markup (Literal Styles render styled)

theorem notice_styles : Styles "bold green".toList ⟨"bold green", []⟩ := by
  refine ⟨?_, ?_, ?_⟩ <;> decide +kernel

theorem notice_markup (path : String) : "[bold green]✅ Guardado en " ++ path ++ "[/]" =
    styled "bold green".toList ("✅ Guardado en " ++ path) := by
  have hopening : "[bold green]✅ Guardado en " =
      String.ofList ('[' :: "bold green".toList ++ [']']) ++ "✅ Guardado en " := by
    decide +kernel
  rw [hopening, styled]
  exact congrArg (· ++ "[/]") String.append_assoc

theorem plain_notice_iff {path : String} :
    Plain ("✅ Guardado en " ++ path).toList ↔ Plain path.toList := by
  have hbefore : Plain "✅ Guardado en ".toList := by decide +kernel
  simp only [Plain, String.toList_append, List.forall_mem_append]
  exact and_iff_right hbefore

theorem count_notice (path : String) :
    ("[bold green]✅ Guardado en " ++ path ++ "[/]").toList.count ':' =
      ("✅ Guardado en " ++ path).toList.count ':' := by
  have hopening : "[bold green]✅ Guardado en ".toList.count ':' = 0 := by decide +kernel
  have hbefore : "✅ Guardado en ".toList.count ':' = 0 := by decide +kernel
  have hclosing : "[/]".toList.count ':' = 0 := by decide +kernel
  simp only [String.toList_append, List.count_append, hopening, hbefore, hclosing, Nat.add_zero]

section
variable [Library]

theorem render_notice_iff {path : String} :
    render ("[bold green]✅ Guardado en " ++ path ++ "[/]") = .ok ("✅ Guardado en " ++ path) ↔
      Literal path.toList ∧ pictures path.toList = path.toList := by
  have hbefore : '\\' ∉ "✅ Guardado en ".toList ∧ '[' ∉ "✅ Guardado en ".toList := by
    decide +kernel
  rw [notice_markup]
  exact Console.Markup.render_eq_iff notice_styles hbefore (by decide +kernel) (by decide +kernel)

theorem notice_of_render {mode : Mode}
    (h : render ("[bold green]✅ Guardado en " ++ path ++ "[/]") = .ok shown) :
    savedNotice mode path = .ok notice ↔ typeset? mode.width shown.toList = .ok notice := by
  have hnotice : savedNotice mode path = (typeset? mode.width shown.toList).mapError .print := by
    rw [savedNotice, Console.printMarkup, h]
    rfl
  rw [hnotice]
  cases typeset? mode.width shown.toList with
  | ok text => simp [Except.mapError]
  | error e => simp [Except.mapError]

/-- On a console that is wide enough, a path is told as it is if it is literal, without codes of
pictures, and has no tabs or controls that a console drops. -/
theorem notice_of_wide (path : String) : ∃ wide, ∀ mode : Mode, mode.width ≥ wide →
    (savedNotice mode path = .ok ("✅ Guardado en " ++ path ++ "\n") ↔
      Literal path.toList ∧ pictures path.toList = path.toList ∧ Plain path.toList) := by
  cases hrender : render ("[bold green]✅ Guardado en " ++ path ++ "[/]") with
  | error e =>
    refine ⟨0, fun mode _ => iff_of_false (fun h => ?_) (fun h => ?_)⟩
    · rw [savedNotice, Console.printMarkup, hrender] at h
      cases h
    · rw [render_notice_iff.mpr ⟨h.1, h.2.1⟩] at hrender
      cases hrender
  | ok shown =>
    have hsame : Literal path.toList ∧ pictures path.toList = path.toList ↔
        shown = "✅ Guardado en " ++ path := by
      simp [← render_notice_iff, hrender]
    -- Without pictures, what is shown of a plain path is plain, so that a wide console prints it
    -- unchanged. A picture leaves too few colons, and of another path the tabs and dropped controls
    -- are missing from what is printed, however it is read.
    by_cases hplain : Plain path.toList
    · rcases Console.Markup.bare_or_fewer hrender with hbare | hfewer
      · have hshown : Plain shown.toList := by
          intro c hc
          have hm := (Console.Markup.bare_sublist hbare).subset hc
          have hopening : Plain "[bold green]✅ Guardado en ".toList := by decide +kernel
          have hclosing : Plain "[/]".toList := by decide +kernel
          simp only [String.toList_append, List.mem_append] at hm
          rcases hm with (hm | hm) | hm
          · exact hopening c hm
          · exact hplain c hm
          · exact hclosing c hm
        obtain ⟨wide, hwide⟩ := Console.typeset_of_wide hshown
        refine ⟨wide, fun mode hmode => ?_⟩
        have hshows : savedNotice mode path = .ok ("✅ Guardado en " ++ path ++ "\n") ↔
            shown = "✅ Guardado en " ++ path := by
          simp [notice_of_render hrender, hwide mode.width hmode]
        rw [hshows, ← hsame, ← and_assoc]
        exact (and_iff_left hplain).symm
      · rw [count_notice] at hfewer
        refine ⟨0, fun mode _ => iff_of_false (fun h => ?_) (fun h => ?_)⟩
        · rw [notice_of_render hrender] at h
          have hcount := Console.count_typeset_le (c := ':') (by decide) (by decide) mode.width
            shown.toList
          rw [Console.typeset_of_ok h, String.toList_append, List.count_append] at hcount
          omega
        · rw [hsame.mp ⟨h.1, h.2.1⟩] at hfewer
          exact Nat.lt_irrefl _ hfewer
    · refine ⟨0, fun mode _ => iff_of_false (fun h => hplain ?_) (fun h => hplain h.2.2)⟩
      rw [notice_of_render hrender] at h
      exact plain_notice_iff.mp (Console.plain_of_typeset h)

end

/-- A bracket with a slash in a path closes the style of the notice, whose end has then nothing left
to close. -/
example : savedNotice ⟨80, .count 500, .json, false⟩ "a[/].json" =
    .error (.print (.markup (.nothingToClose 35))) := by
  decide +kernel

/-- There is a text to save of every expression, unless its table is drawn and a joiner in it cannot
be laid out. -/
theorem exists_saved [Interpreter] [Console.Library]
    (h : format = .tabla → Text.joiner ∉ expression.toList) :
    ∃ content, saved format expression = .ok content := by
  by_cases hformat : format = .tabla
  · subst hformat
    obtain ⟨grid, hgrid, hshows⟩ := TruthTable.grid_shows (h rfl)
    obtain ⟨text, htext⟩ := hshows.print fileWidth
    refine ⟨text, ?_⟩
    rw [saved, document, hgrid]
    change (grid.print fileWidth).mapError _ = _
    rw [htext]
    rfl
  · obtain ⟨doc, hdocument⟩ := document_of_format hformat expression
    exact ⟨_, saved_eq hformat hdocument⟩

/-- What decides on a run that saves an expression. -/
structure Saving [Interpreter] (inv : Invocation) (args : Arguments) (settings : Settings)
    (expression path : String) : Prop where
  parsed : Arguments.parse inv.arguments = .ok args
  loaded : loadSettings inv args = .ok settings
  single : args.interactive = false
  given : args.expression = some expression
  accepted : rejection? settings.limit expression = none
  output : args.output = some path

/-- The console does not matter. -/
theorem Saving.widen [Interpreter] (h : Saving inv args settings expression path) (width : Nat) :
    Saving { inv with width } args settings expression path :=
  ⟨h.parsed, h.loaded, h.single, h.given, h.accepted, h.output⟩

/-- The mode of a run. -/
def Invocation.mode (inv : Invocation) (args : Arguments) (settings : Settings) : Mode :=
  ⟨inv.width, settings.limit, args.format.getD settings.format, args.tree⟩

/-- A report of a run that went well, with a text in a place and no other file touched. -/
structure Report.Saved (report : Report) (before : Files) (place : Place)
    (content printed : String) : Prop where
  exit : report.exitCode = 0
  holds : report.files.entry? place = some (.file (.text content))
  keeps : ∀ other ≠ place, ∀ found,
    report.files.entry? other = some (.file found) ↔ before.entry? other = some (.file found)
  tells : ∃ logged, report.steps = [⟨none, ⟨printed, logged⟩⟩]

section
variable [Interpreter] [Console.Library]

/-- A run that saves something ends as its notice does. -/
theorem run_eq (h : Saving inv args settings expression path) (hopens : inv.files.Opens path place)
    (hsaved : saved (inv.mode args settings).format expression = .ok content)
    (lines : List (Option String)) :
    ∃ logged kept, run inv lines = (savedNotice (inv.mode args settings) path).map (fun notice =>
      ⟨0, [⟨none, ⟨notices (inv.mode args settings) expression ++ notice, logged⟩⟩], kept,
        inv.files.put place (.file (.text content))⟩) := by
  obtain ⟨logged, hlogged⟩ := table_log expression
  have hpresent := present_to_eq hlogged hsaved hopens
  have hbegin : begin inv = runWith inv args settings := by
    simp only [begin, h.parsed, h.loaded]
  have hwith : runWith inv args settings =
      (runOnce inv args (inv.mode args settings)
        ((Log.level? settings.logLevel).getD Log.initialLevel) expression).map .finished := by
    simp only [runWith, h.given, h.single]
    rfl
  have haccepted : rejection? (inv.mode args settings).limit expression = none := h.accepted
  have hne := hopens.ne_empty
  refine ⟨logged, Log.kept ((Log.level? settings.logLevel).getD Log.initialLevel) logged, ?_⟩
  rw [run, hbegin, hwith]
  simp only [runOnce, haccepted, h.output, hpresent]
  cases savedNotice (inv.mode args settings) path with
  | ok notice => rfl
  | error e => rfl

theorem notice_of_saved (h : Saving inv args settings expression path)
    (hopens : inv.files.Opens path place)
    (hsaved : saved (inv.mode args settings).format expression = .ok content)
    (hrun : run inv lines = .ok report)
    (hreport : report.Saved before place content
      (notices (inv.mode args settings) expression ++ ("✅ Guardado en " ++ path ++ "\n"))) :
    savedNotice (inv.mode args settings) path = .ok ("✅ Guardado en " ++ path ++ "\n") := by
  obtain ⟨logged, kept, heq⟩ := run_eq h hopens hsaved lines
  rw [heq] at hrun
  obtain ⟨notice, hnotice, rfl⟩ := Console.Markup.map_eq_ok hrun
  obtain ⟨_, htells⟩ := hreport.tells
  simp only [List.cons.injEq, Step.mk.injEq, Transcript.mk.injEq] at htells
  have hsame : notice = ("✅ Guardado en " ++ path ++ "\n") := by simpa using htells.1.2.1
  rw [hnotice, hsame]

/-- On a console that is wide enough, a run that saves an expression where its path can be opened
goes well and tells the path as it was given just if there is a text to save, and the path is
literal and has no codes of pictures and no tabs or controls that a console drops. -/
theorem saved_report_iff (h : Saving inv args settings expression path)
    (hopens : inv.files.Opens path place) (lines : List (Option String)) :
    let format := args.format.getD settings.format
    ((format = .tabla → Text.joiner ∉ expression.toList) →
      ∃ content, saved format expression = .ok content) ∧
    ∃ wide, ∀ width ≥ wide,
      (∃ content report, saved format expression = .ok content ∧
        run { inv with width } lines = .ok report ∧
        report.Saved inv.files place content
          (notices (Invocation.mode { inv with width } args settings) expression ++
            ("✅ Guardado en " ++ path ++ "\n"))) ↔
      (∃ content, saved format expression = .ok content) ∧
        Literal path.toList ∧ pictures path.toList = path.toList ∧ Plain path.toList := by
  have hfolder := (Files.locate_file_iff.mp hopens.2).2.2
  obtain ⟨wide, hwide⟩ := notice_of_wide path
  refine ⟨exists_saved, wide, fun width hwidth => ?_⟩
  have hsaving := h.widen width
  have htold := hwide (Invocation.mode { inv with width } args settings) hwidth
  constructor
  · rintro ⟨content, report, hsaved, hrun, hreport⟩
    have hnotice := notice_of_saved hsaving hopens hsaved hrun hreport
    exact ⟨⟨content, hsaved⟩, htold.mp hnotice⟩
  · rintro ⟨⟨content, hsaved⟩, hpath⟩
    obtain ⟨logged, kept, heq⟩ := run_eq hsaving hopens hsaved lines
    rw [htold.mpr hpath] at heq
    exact ⟨content, _, hsaved, heq, rfl, Files.entry_put hfolder _,
      fun _ hother _ => Files.file_put_iff hother, logged, rfl⟩

end

/-- A run that saves the table of a variable where there are no files yet. -/
def savingRun (path : String) : Invocation :=
  ⟨["p", "--formato", "json", "--salida", path], [], ⟨[]⟩, 80, ""⟩

/-- What the arguments of that run are read as. -/
def savingArguments (path : String) : Arguments :=
  ⟨some "p", some .json, some path, false, none, false⟩

theorem saving_run [Interpreter]
    (h : Arguments.parse (savingRun path).arguments = .ok (savingArguments path)) :
    Saving (savingRun path) (savingArguments path) Settings.initial "p" path := by
  have hsettings : Settings.ofDotenv [] ⟨[]⟩ "" = .ok Settings.initial :=
    Settings.of_dotenv_nowhere []
  exact ⟨h, hsettings, rfl, rfl, by decide +kernel, rfl⟩

theorem saved_report_iff_json : ∃ wide, ∀ width ≥ wide, ∃ content report,
    saved .json "p" = .ok content ∧ run { savingRun "a.json" with width } [] = .ok report ∧
      report.Saved ⟨[]⟩ ["a.json"] content (notices (Invocation.mode
        { savingRun "a.json" with width } (savingArguments "a.json") Settings.initial) "p" ++
          "✅ Guardado en a.json\n") := by
  have hparse :
      Arguments.parse (savingRun "a.json").arguments = .ok (savingArguments "a.json") := by
    decide +kernel
  have hopens : (savingRun "a.json").files.Opens "a.json" ["a.json"] := by
    constructor <;> decide +kernel
  obtain ⟨hsaved, wide, hwide⟩ := saved_report_iff (saving_run hparse) hopens []
  refine ⟨wide, fun width hwidth => (hwide width hwidth).mpr ⟨hsaved nofun, ?_⟩⟩
  refine ⟨?_, ?_, ?_⟩ <;> decide +kernel

/-- What stands in brackets in a path is taken for a style, and not told. -/
theorem bracketed_path_not_told : (savingRun "[b].json").files.Opens "[b].json" ["[b].json"] ∧
    ¬∃ wide, ∀ width ≥ wide, ∃ content report, saved .json "p" = .ok content ∧
      run { savingRun "[b].json" with width } [] = .ok report ∧
      report.Saved ⟨[]⟩ ["[b].json"] content (notices (Invocation.mode
        { savingRun "[b].json" with width } (savingArguments "[b].json") Settings.initial) "p" ++
          "✅ Guardado en [b].json\n") := by
  have hparse :
      Arguments.parse (savingRun "[b].json").arguments = .ok (savingArguments "[b].json") := by
    decide +kernel
  have hopens : (savingRun "[b].json").files.Opens "[b].json" ["[b].json"] := by
    constructor <;> decide +kernel
  obtain ⟨wide, hwide⟩ := notice_of_wide "[b].json"
  refine ⟨hopens, fun ⟨least, htold⟩ => ?_⟩
  obtain ⟨content, report, hsaved, hrun, hreport⟩ := htold (max wide least) (Nat.le_max_right _ _)
  have hsaving := (saving_run hparse).widen (max wide least)
  have hnotice := notice_of_saved hsaving hopens hsaved hrun hreport
  have hliteral := ((hwide _ (Nat.le_max_left wide least)).mp hnotice).1
  exact absurd hliteral (by decide +kernel)

end Propositional.Shell
