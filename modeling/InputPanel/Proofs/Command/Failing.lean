import InputPanel.Command
import InputPanel.Proofs.Command.Configure

/-!
# Commands that fail write nothing

A command first reads, and may give up with the exit code of an error while it does so. Only then
does it write, and from there on it either succeeds or breaks off by a failure that no command
expects. So an error that is reported leaves every file as it was.

A part of a task is quiet if it neither exits nor writes. Of the other parts it is said
where they lead from: at an untouched desk a task may still give up, and at one that is only
clear it may write.
-/

namespace InputPanel

/-- The exit codes of the errors that are reported. -/
def ExitCode.errors : List Int := [panelFailed, documentError, fileNotFound, invalidArgument]

namespace Report

theorem exitCode_append {report after : Report} {key : String} {item : Data}
    (appended : report.append key item = .ok after) : after.exitCode = report.exitCode := by
  unfold append at appended
  split at appended <;> cases appended
  rfl

theorem exitCode_tell (report : Report) (key mark message : String) (suggestion : Option String) :
    (report.tell key mark message suggestion).1.exitCode = report.exitCode := by
  unfold tell
  split
  · cases appended : report.append key (messageData message suggestion) with
    | ok after => exact exitCode_append appended
    | error failure => rfl
  · rfl

theorem exitCode_error (report : Report) (message : String) (suggestion : Option String)
    (code : Int) : (report.error message suggestion code).1.exitCode = code :=
  exitCode_tell _ _ _ _ _

theorem exitCode_success (report : Report) (message : String) (data : List (String × Data)) :
    (report.success message data).1.exitCode = report.exitCode := by
  unfold success
  split <;> rfl

theorem exitCode_table (report : Report) (title : String) (columns : List String)
    (rows : List (List String)) (key : Option String) :
    (report.table title columns rows key).1.exitCode = report.exitCode := by
  unfold table
  dsimp only
  split <;> rfl

theorem exitCode_finish (report : Report) : report.finish.1.exitCode = report.exitCode := by
  unfold finish
  split <;> rfl

end Report

namespace Desk

/-- No error has been reported. -/
def IsClear (desk : Desk) : Prop := desk.report.exitCode = 0

/-- No error has been reported, and the files are as they were at the start. -/
structure IsUntouched (start : FileTree) (desk : Desk) : Prop where
  clear : desk.IsClear
  same : desk.surroundings.files = start

end Desk

/-- An exit is one with success, or one with the code of an error and with the files as they were
at the start. -/
def Halt.IsHarmless (start : FileTree) (desk : Desk) : Halt → Prop
  | .exit code => code = 0 ∨ code ∈ ExitCode.errors ∧ desk.surroundings.files = start
  | .failure _ => True

namespace Task

open Desk

variable {α β : Type} {start : FileTree}

/-- An end that is no exit, with the files and the exit code of the report as they were. -/
structure EndsQuietly (desk : Desk) (ended : Except Halt α) (final : Desk) : Prop where
  files : final.surroundings.files = desk.surroundings.files
  exitCode : final.report.exitCode = desk.report.exitCode
  stays : ∀ code, ended ≠ .error (.exit code)

/-- A task that ends quietly wherever it is run. -/
def IsQuiet (task : Task α) : Prop :=
  ∀ desk, EndsQuietly desk (runAt task desk).1 (runAt task desk).2

/-- From a desk with `P` a task comes to one with `Q`, unless it halts, which then is harmless. -/
def Leads (start : FileTree) (P : Desk → Prop) (task : Task α) (Q : Desk → Prop) : Prop :=
  ∀ desk, P desk → match runAt task desk with
    | (.ok _, final) => Q final
    | (.error halt, final) => halt.IsHarmless start final

/-! ## Parts one after another -/

theorem Leads.bind {task : Task α} {next : α → Task β} {P Q R : Desk → Prop}
    (first : Leads start P task Q) (rest : ∀ a, Leads start Q (next a) R) :
    Leads start P (task >>= next) R := by
  intro desk holds
  have before := first desk holds
  rw [runAt_bind]
  cases run : runAt task desk with
  | mk ended middle =>
    rw [run] at before
    cases ended with
    | error halt => exact before
    | ok a => exact rest a middle before

theorem Leads.of_pre {task : Task α} {P P' Q : Desk → Prop} (leads : Leads start P' task Q)
    (implied : ∀ desk, P desk → P' desk) : Leads start P task Q :=
  fun desk holds => leads desk (implied desk holds)

/-- What may be done at a clear desk may be done at an untouched one. -/
theorem Leads.of_clear {task : Task α} {Q : Desk → Prop} (leads : Leads start IsClear task Q) :
    Leads start (IsUntouched start) task Q :=
  leads.of_pre fun _ untouched => untouched.clear

namespace IsQuiet

variable {task : Task α} {next : α → Task β}

theorem bind (first : IsQuiet task) (rest : ∀ a, IsQuiet (next a)) : IsQuiet (task >>= next) := by
  intro desk
  have before := first desk
  rw [runAt_bind]
  cases run : runAt task desk with
  | mk ended middle =>
    rw [run] at before
    obtain ⟨files, exitCode, stays⟩ := before
    cases ended with
    | error halt =>
      refine ⟨files, exitCode, fun code exits => ?_⟩
      cases exits
      exact stays code rfl
    | ok a =>
      have after := rest a middle
      exact ⟨after.files.trans files, after.exitCode.trans exitCode, after.stays⟩

theorem leads {P : Desk → Prop} (quiet : IsQuiet task)
    (kept : ∀ {desk final : Desk}, final.surroundings.files = desk.surroundings.files →
      final.report.exitCode = desk.report.exitCode → P desk → P final) :
    Leads start P task P := by
  intro desk holds
  have ended := quiet desk
  cases run : runAt task desk with
  | mk halted final =>
    rw [run] at ended
    cases halted with
    | ok a => exact kept ended.files ended.exitCode holds
    | error halt =>
      cases halt with
      | exit code => exact absurd rfl (ended.stays code)
      | failure failure => trivial

theorem clear (quiet : IsQuiet task) : Leads start IsClear task IsClear :=
  quiet.leads fun _ exitCode clear => exitCode.trans clear

theorem untouched (quiet : IsQuiet task) :
    Leads start (IsUntouched start) task (IsUntouched start) :=
  quiet.leads fun files exitCode ⟨clear, same⟩ => ⟨exitCode.trans clear, files.trans same⟩

end IsQuiet

/-! ## Quiet steps -/

section Quiet

theorem isQuiet_pure (a : α) : IsQuiet (pure a) := fun _ => ⟨rfl, rfl, nofun⟩

theorem isQuiet_get : IsQuiet get := fun _ => ⟨rfl, rfl, nofun⟩

theorem isQuiet_fail (failure : Failure) : IsQuiet (throw (.failure failure) : Task α) :=
  fun _ => ⟨rfl, rfl, nofun⟩

theorem isQuiet_display (events : List Event) : IsQuiet (display events) :=
  fun _ => ⟨rfl, rfl, nofun⟩

theorem isQuiet_line (text : String) : IsQuiet (line text) := isQuiet_display _

theorem isQuiet_print (text : String) : IsQuiet (print text) := fun _ => ⟨rfl, rfl, nofun⟩

theorem isQuiet_note (notices : List Notice) : IsQuiet (note notices) :=
  fun _ => ⟨rfl, rfl, nofun⟩

theorem isQuiet_files : IsQuiet files := fun _ => ⟨rfl, rfl, nofun⟩

theorem isQuiet_readers : IsQuiet readers := fun _ => ⟨rfl, rfl, nofun⟩

theorem isQuiet_expect : ∀ made : Except Failure α, IsQuiet (expect made)
  | .ok a => isQuiet_pure a
  | .error failure => isQuiet_fail failure

theorem isQuiet_expectNoted (made : Noted (Except Failure α)) : IsQuiet (expectNoted made) :=
  (isQuiet_note _).bind fun _ => isQuiet_expect _

theorem isQuiet_report {change : Report → Report × List Event}
    (kept : ∀ r, (change r).1.exitCode = r.exitCode) : IsQuiet (report change) :=
  fun desk => ⟨rfl, kept desk.report, nofun⟩

theorem isQuiet_setData (key : String) (value : Data) : IsQuiet (setData key value) :=
  isQuiet_report fun _ => rfl

theorem runAt_reportOrFail (change : Report → Report × Except Failure (List Event)) (desk : Desk) :
    runAt (reportOrFail change) desk =
      runAt (expect (change desk.report).2 >>= display)
        { desk with report := (change desk.report).1 } := rfl

theorem isQuiet_reportOrFail {change : Report → Report × Except Failure (List Event)}
    (kept : ∀ r, (change r).1.exitCode = r.exitCode) : IsQuiet (reportOrFail change) := by
  intro desk
  rw [runAt_reportOrFail]
  obtain ⟨files, exitCode, stays⟩ :=
    (isQuiet_expect (change desk.report).2).bind isQuiet_display
      { desk with report := (change desk.report).1 }
  exact ⟨files, exitCode.trans (kept desk.report), stays⟩

theorem isQuiet_config : IsQuiet Task.config := by
  intro desk
  rw [runAt_config_eq]
  obtain ⟨files, exitCode, stays⟩ := isQuiet_expectNoted (Config.load desk.surroundings).2
    { desk with surroundings := (Config.load desk.surroundings).1 }
  exact ⟨files.trans (Config.files_load desk.surroundings), exitCode, stays⟩

theorem isQuiet_showKeys : IsQuiet showKeys :=
  (isQuiet_line _).bind fun _ => (isQuiet_line _).bind fun _ => isQuiet_display _

end Quiet

/-! ## Steps that exit, and steps that write -/

section Exits

variable {Q : Desk → Prop}

theorem leads_finish :
    Leads start (fun desk => (Halt.exit desk.report.exitCode).IsHarmless start desk)
      (finish : Task α) Q := by
  intro desk harmless
  rw [← Report.exitCode_finish desk.report] at harmless
  exact harmless

theorem leads_finish_of_clear : Leads start IsClear (finish : Task α) Q :=
  leads_finish.of_pre fun _ clear => .inl clear

/-- Giving up is harmless while no file is touched. -/
theorem leads_giveUp (message : String) {code : Int} (known : code ∈ ExitCode.errors) :
    Leads start (IsUntouched start) (giveUp message code : Task α) Q := by
  refine Leads.bind ?_ fun _ => leads_finish
  intro desk untouched
  rw [runAt_reportOrFail]
  have told := Report.exitCode_error desk.report message none code
  cases (desk.report.error message none code).2 with
  | error failure => trivial
  | ok events => exact .inr ⟨told.symm ▸ known, untouched.same⟩

theorem leads_exit_one : Leads start (IsUntouched start) (throw (.exit 1) : Task α) Q :=
  fun _ untouched => .inr ⟨by decide, untouched.same⟩

theorem leads_setFiles (files : FileTree) : Leads start IsClear (setFiles files) IsClear :=
  fun _ clear => clear

theorem leads_write (path : FilePath) (text : String) :
    Leads start IsClear (write path text) IsClear :=
  isQuiet_files.clear.bind fun _ => (isQuiet_expect _).clear.bind fun _ =>
    (leads_setFiles _).bind fun _ => (isQuiet_expect _).clear.bind fun _ => leads_setFiles _

theorem leads_save (config : Config) : Leads start IsClear (save config) IsClear := by
  intro desk clear
  rw [runAt_save_eq]
  exact (isQuiet_expect (config.save desk.surroundings).2).clear
    { desk with surroundings := (config.save desk.surroundings).1 } clear

end Exits

/-! ## Commands on panels -/

theorem leads_openPanel (request : PanelRequest) (config : Config) :
    Leads start (IsUntouched start) (openPanel request config) (IsUntouched start) := by
  refine isQuiet_files.untouched.bind fun files => ?_
  split
  · exact leads_giveUp _ (by decide)
  · refine isQuiet_readers.untouched.bind fun readers => ?_
    split
    · exact ((isQuiet_note _).bind fun _ => isQuiet_pure _).untouched
    · exact leads_giveUp _ (by decide)
    · exact (isQuiet_fail _).untouched

theorem leads_orGiveUp (properties : Option FilePath) (made : Except PresetTrouble α) :
    Leads start (IsUntouched start) (orGiveUp properties made) (IsUntouched start) := by
  refine isQuiet_files.untouched.bind fun files => ?_
  split
  · exact (isQuiet_pure _).untouched
  · exact leads_giveUp _ (by decide)
  · exact leads_giveUp _ (by decide)
  · split
    · exact leads_giveUp _ (by decide)
    · exact (isQuiet_fail _).untouched

theorem isQuiet_session (request : PanelRequest) (config : Config) (loaded : LoadedPanel) :
    IsQuiet (session request config loaded) :=
  isQuiet_get.bind fun _ => (isQuiet_expect _).bind fun _ => isQuiet_pure _

theorem isQuiet_converse (source : AnswerSource) (dialogue : Dialogue α) (store : Store) :
    IsQuiet (converse source dialogue store) :=
  (isQuiet_display _).bind fun _ => (isQuiet_note _).bind fun _ => isQuiet_pure _

theorem isQuiet_converseUnread (dialogue : Dialogue α) (store : Store) (failure : Failure) :
    IsQuiet (converseUnread dialogue store failure) := by
  refine (isQuiet_display _).bind fun _ => (isQuiet_note _).bind fun _ => ?_
  split
  · exact isQuiet_fail _
  · exact isQuiet_pure _

theorem isQuiet_converseWith (answers : Option FilePath) (dialogue : Dialogue α) (store : Store) :
    IsQuiet (converseWith answers dialogue store) := by
  unfold converseWith
  split
  · exact isQuiet_get.bind fun _ => isQuiet_converse _ _ _
  · refine isQuiet_files.bind fun _ => ?_
    split
    · exact isQuiet_converse _ _ _
    · exact isQuiet_converseUnread _ _ _
    · exact isQuiet_fail _

theorem leads_saveStore (output : Option FilePath) (store : Store) :
    Leads start IsClear (saveStore output store) IsClear := by
  cases output with
  | none => exact (isQuiet_pure _).clear
  | some path => exact leads_write _ _

/-- Once a panel is complete, nothing is given up any more. -/
theorem leads_saved (output : Option FilePath) (store : Store) (message : String)
    (data : List (String × Data)) :
    Leads start IsClear
      (do saveStore output store; report fun r => r.success message data; finish : Task Unit)
      IsClear :=
  (leads_saveStore output store).bind fun _ =>
    (isQuiet_report fun r => r.exitCode_success message data).clear.bind fun _ =>
      leads_finish_of_clear

theorem leads_askPanel (request : PanelRequest) (properties answers output : Option FilePath) :
    Leads start (IsUntouched start) (askPanel request properties answers output) IsClear := by
  unfold askPanel
  refine isQuiet_config.untouched.bind fun config => ?_
  refine (leads_openPanel request config).bind fun loaded => ?_
  refine isQuiet_readers.untouched.bind fun readers => ?_
  refine isQuiet_files.untouched.bind fun files => ?_
  refine (leads_orGiveUp properties _).bind fun store => ?_
  refine (isQuiet_session request config loaded).untouched.bind fun session => ?_
  refine (isQuiet_converseWith answers _ store).untouched.bind fun outcome => ?_
  refine (isQuiet_expect _).untouched.bind fun completed => ?_
  split
  · exact (leads_giveUp _ (by decide)).bind fun _ => leads_saved output outcome.store _ _
  · exact (leads_saved output outcome.store _ _).of_clear

theorem leads_fillPanel (request : PanelRequest) (properties : FilePath)
    (output : Option FilePath) :
    Leads start (IsUntouched start) (fillPanel request properties output) IsClear := by
  unfold fillPanel
  refine isQuiet_config.untouched.bind fun config => ?_
  refine (leads_openPanel request config).bind fun loaded => ?_
  refine isQuiet_readers.untouched.bind fun readers => ?_
  refine isQuiet_files.untouched.bind fun files => ?_
  refine (leads_orGiveUp (some properties) _).bind fun values => ?_
  refine isQuiet_readers.untouched.bind fun readers => ?_
  refine isQuiet_files.untouched.bind fun files => ?_
  refine (leads_orGiveUp none _).bind fun store => ?_
  refine (isQuiet_session request config loaded).untouched.bind fun session => ?_
  refine (isQuiet_expectNoted _).untouched.bind fun store => Leads.of_clear ?_
  -- From here on there is no error to report.
  refine (leads_saveStore output store).bind fun _ => ?_
  refine (isQuiet_report fun r => r.exitCode_success _ _).clear.bind fun _ => ?_
  refine isQuiet_get.clear.bind fun desk => ?_
  split
  · exact (isQuiet_display _).clear.bind fun _ => leads_finish_of_clear
  · exact leads_finish_of_clear

theorem leads_writeTemplate (request : PanelRequest) (output : Option FilePath) :
    Leads start (IsUntouched start) (writeTemplate request output) IsClear := by
  unfold writeTemplate
  refine isQuiet_config.untouched.bind fun config => ?_
  refine (leads_openPanel request config).bind fun loaded => ?_
  refine (isQuiet_session request config loaded).untouched.bind fun session => Leads.of_clear ?_
  cases output with
  | none => exact ((isQuiet_expectNoted _).bind fun _ => isQuiet_print _).clear
  | some path =>
    refine (leads_write path _).bind fun _ => ?_
    refine (isQuiet_expectNoted _).clear.bind fun text => (leads_write path text).bind fun _ => ?_
    exact (isQuiet_report fun r => r.exitCode_success _ _).clear.bind fun _ => leads_finish_of_clear

theorem leads_listFields (request : PanelRequest) :
    Leads start (IsUntouched start) (listFields request) IsClear := by
  unfold listFields
  refine isQuiet_config.untouched.bind fun config => ?_
  refine (leads_openPanel request config).bind fun loaded => ?_
  refine isQuiet_readers.untouched.bind fun readers => ?_
  refine isQuiet_files.untouched.bind fun files => ?_
  refine (leads_orGiveUp none _).bind fun store => ?_
  refine (isQuiet_session request config loaded).untouched.bind fun session => ?_
  refine (isQuiet_expectNoted _).untouched.bind fun fields => Leads.of_clear ?_
  split
  · refine (isQuiet_reportOrFail fun r => r.exitCode_tell _ _ _ _).clear.bind fun _ => ?_
    exact (isQuiet_setData _ _).clear.bind fun _ => leads_finish_of_clear
  · refine (isQuiet_setData _ _).clear.bind fun _ => ?_
    exact (isQuiet_report fun r => r.exitCode_table _ _ _ _).clear.bind fun _ =>
      leads_finish_of_clear

/-! ## The command on the configuration -/

/-- What is done with a value that a setting does not accept. -/
theorem runAt_settingValue_of_refused {setting : Setting} {text : String}
    (refused : setting.accepted? text = none) (desk : Desk) :
    ∃ final, runAt (settingValue setting text) desk = (.error (.exit 1), final) ∧
      final.surroundings = desk.surroundings := by
  cases setting with
  | hidesPasswords =>
    simp only [Setting.accepted?] at refused
    split at refused
    · cases refused
    case isFalse notTrue =>
    split at refused
    · cases refused
    case isFalse notFalse =>
    rw [settingValue]
    split
    · exact absurd ‹_› notTrue
    · exact absurd ‹_› notFalse
    · exact ⟨_, rfl, rfl⟩
  | platform =>
    simp only [Setting.accepted?, ite_eq_right_iff, reduceCtorEq, imp_false] at refused
    simp only [settingValue, if_neg refused]
    exact ⟨_, rfl, rfl⟩
  | _ => cases refused

theorem leads_settingValue (setting : Setting) (text : String) :
    Leads start (IsUntouched start) (settingValue setting text) (IsUntouched start) := by
  cases judged : setting.accepted? text with
  | some value =>
    rw [settingValue_of_accepted judged]
    exact (isQuiet_pure _).untouched
  | none =>
    intro desk untouched
    obtain ⟨final, run, surroundings⟩ := runAt_settingValue_of_refused judged desk
    rw [run]
    exact .inr ⟨by decide, by rw [surroundings, untouched.same]⟩

theorem leads_setConfig (key text : String) :
    Leads start (IsUntouched start) (setConfig key text) IsClear := by
  unfold setConfig
  split
  · exact (isQuiet_line _).untouched.bind fun _ =>
      isQuiet_showKeys.untouched.bind fun _ => leads_exit_one
  · refine isQuiet_config.untouched.bind fun config => ?_
    refine (leads_settingValue _ _).bind fun value => Leads.of_clear ?_
    refine (leads_save _).bind fun _ => ?_
    exact ((isQuiet_line _).bind fun _ => isQuiet_get.bind fun _ => isQuiet_line _).clear

theorem leads_resetConfig : Leads start IsClear resetConfig IsClear := by
  refine isQuiet_get.clear.bind fun desk => isQuiet_files.clear.bind fun files => ?_
  split
  · refine (isQuiet_expect _).clear.bind fun after => (leads_setFiles after).bind fun _ => ?_
    exact ((isQuiet_line _).bind fun _ => isQuiet_line _).clear
  · exact (isQuiet_line _).clear

theorem isQuiet_showConfig : IsQuiet showConfig := by
  unfold showConfig
  refine isQuiet_config.bind fun config => ?_
  iterate 10 refine (isQuiet_line _).bind fun _ => ?_
  refine (isQuiet_expect _).bind fun names => ?_
  iterate 4 refine (isQuiet_line _).bind fun _ => ?_
  refine isQuiet_get.bind fun desk => isQuiet_files.bind fun files => ?_
  split <;> exact (isQuiet_line _).bind fun _ => isQuiet_line _

theorem leads_configure (action : String) (key value : Option String) :
    Leads start (IsUntouched start) (configure action key value) IsClear := by
  unfold configure
  split
  · exact isQuiet_showConfig.clear.of_clear
  · split
    · exact leads_setConfig _ _
    · exact (isQuiet_line _).untouched.bind fun _ =>
        isQuiet_showKeys.untouched.bind fun _ => leads_exit_one
  · exact leads_resetConfig.of_clear
  · exact (isQuiet_line _).untouched.bind fun _ =>
      (isQuiet_line _).untouched.bind fun _ => leads_exit_one

theorem leads_task (start : FileTree) (command : Command) :
    Leads start (IsUntouched start) command.task IsClear := by
  cases command with
  | run request properties answers output => exact leads_askPanel _ _ _ _
  | apply request properties output => exact leads_fillPanel _ _ _
  | template request output => exact leads_writeTemplate _ _
  | inspect request => exact leads_listFields _
  | config action key value => exact leads_configure _ _ _

end Task

/-- A command that is to set a setting, and rejects its key or its value. -/
inductive Command.IsRefused : Command → Prop
  | key {key text : String} (unknown : Setting.ofKey? key = none) :
    IsRefused (.config "set" (some key) (some text))
  | value {setting : Setting} {text : String} (refused : setting.accepted? text = none) :
    IsRefused (.config "set" (some setting.key) (some text))

namespace Task

/-- A setting that is refused its value is not saved, even if the configuration cannot be
loaded. -/
theorem runAt_setConfig_of_refused {setting : Setting} {text : String}
    (refused : setting.accepted? text = none) (desk : Desk) :
    ∃ halt final, runAt (setConfig setting.key text) desk = (.error halt, final) ∧
      final.surroundings.files = desk.surroundings.files ∧
      ∀ code, halt = .exit code → code = 1 := by
  rw [setConfig, Setting.ofKey?_key]
  dsimp only
  have loaded := isQuiet_config desk
  rw [runAt_bind]
  cases run : runAt Task.config desk with
  | mk ended middle =>
    rw [run] at loaded
    cases ended with
    | error halt =>
      refine ⟨halt, middle, rfl, loaded.files, fun code exits => ?_⟩
      exact absurd (congrArg Except.error exits) (loaded.stays code)
    | ok config =>
      obtain ⟨final, judged, same⟩ := runAt_settingValue_of_refused refused middle
      refine ⟨.exit 1, final, ?_, by rw [same, loaded.files], fun code exits => ?_⟩
      · dsimp only
        rw [runAt_bind, judged]
      · cases exits
        rfl

theorem runAt_of_refused {command : Command} (refused : command.IsRefused) (desk : Desk) :
    ∃ halt final, runAt command.task desk = (.error halt, final) ∧
      final.surroundings.files = desk.surroundings.files ∧
      ∀ code, halt = .exit code → code = 1 := by
  cases refused with
  | @key key text unknown =>
    rw [Command.task]
    by_cases named : key = ""
    · subst named
      exact ⟨_, _, rfl, rfl, fun code exits => (Halt.exit.inj exits).symm⟩
    · rw [configure_set named, setConfig, unknown]
      exact ⟨_, _, rfl, rfl, fun code exits => (Halt.exit.inj exits).symm⟩
  | @value setting text refused =>
    rw [Command.task, configure_set setting.key_ne_empty]
    exact runAt_setConfig_of_refused refused desk

end Task

namespace Command

variable {command : Command} {isJson : Bool} {surroundings : Surroundings} {running : String}
  {answers : List String}

theorem perform_of_runAt {ended : Except Halt Unit} {final : Desk}
    (run : Task.runAt command.task { surroundings, running, answers, report := .initial isJson } =
      (ended, final)) :
    command.perform isJson surroundings running answers =
      ⟨(ending ended).1, (ending ended).2, final.printed, final.events, final.notices,
        final.surroundings.files⟩ := by
  rw [Task.runAt] at run
  rw [perform, run]

theorem perform_of_error
    (reported : let done := command.perform isJson surroundings running answers
      done.failure = none ∧ done.exitCode ≠ 0) :
    let done := command.perform isJson surroundings running answers
    done.files = surroundings.files ∧ done.exitCode ∈ ExitCode.errors := by
  have leads := Task.leads_task surroundings.files command
    { surroundings, running, answers, report := .initial isJson } ⟨rfl, rfl⟩
  cases run : Task.runAt command.task
      { surroundings, running, answers, report := .initial isJson } with
  | mk ended final =>
    rw [run] at leads
    rw [perform_of_runAt run] at reported ⊢
    obtain ⟨unbroken, unequal⟩ := reported
    cases ended with
    | ok => exact absurd rfl unequal
    | error halt =>
      cases halt with
      | failure failure => cases unbroken
      | exit code =>
        obtain success | ⟨known, same⟩ := leads
        · exact absurd success unequal
        · exact ⟨same, known⟩

theorem perform_of_refused (refused : command.IsRefused) :
    let done := command.perform isJson surroundings running answers
    done.files = surroundings.files ∧ done.exitCode ∈ ExitCode.errors := by
  obtain ⟨halt, final, run, files, code⟩ := Task.runAt_of_refused refused
    { surroundings, running, answers, report := .initial isJson }
  rw [perform_of_runAt run]
  have known : (1 : Int) ∈ ExitCode.errors := by decide
  refine ⟨files, ?_⟩
  cases halt with
  | exit given => exact code given rfl ▸ known
  | failure failure => exact known

end Command

def Invocation.IsRefused : Invocation → Prop
  | perform _ _ command => command.IsRefused
  | _ => False

namespace Invocation

/-- Whatever the words of a command line ask for, it changes no file if it ends with an error that
is reported, or rejects what is to be set. -/
theorem errors_write_nothing (invocation : Invocation) (surroundings : Surroundings)
    (running : String) (answers : List String)
    (fails : let done := invocation.complete surroundings running answers
      done.failure = none ∧ done.exitCode ≠ 0 ∨ invocation.IsRefused) :
    let done := invocation.complete surroundings running answers
    done.files = surroundings.files ∧ done.exitCode ∈ ExitCode.errors := by
  cases invocation with
  | version | help =>
    obtain ⟨-, unequal⟩ | refused := fails
    · exact absurd rfl unequal
    · cases refused
  | misuse => exact ⟨rfl, (by decide : (2 : Int) ∈ ExitCode.errors)⟩
  | perform isJson least command =>
    obtain reported | refused := fails
    · exact Command.perform_of_error reported
    · exact Command.perform_of_refused refused

/-- A directory with one file. -/
def savedGiven : Surroundings where
  files := (FileTree.emptyAt ["home"]).put ["home", "saved"] (.file [120])
  environment := .empty
  configFile := ⟨false, ["config", "config.json"]⟩

theorem readVariables_savedGiven :
    savedGiven.readVariables = ({ savedGiven with hasReadVariables := true }, .ok ()) :=
  Surroundings.readVariables_of_absent rfl rfl rfl

theorem load_savedGiven : Config.load savedGiven =
    ({ savedGiven with hasReadVariables := true }, ⟨.ok .defaults, []⟩) := by
  rw [Config.load_of_gives (rfl : Config.ofFile savedGiven = ⟨.ok .defaults, []⟩)
    (by rw [readVariables_savedGiven]), readVariables_savedGiven]
  rfl

/-- Asks a panel whose document is missing. -/
def missing : Command :=
  .run ⟨⟨false, ["absent"]⟩, none, none, []⟩ none none (some ⟨false, ["saved"]⟩)

theorem runAt_missing : ∃ final, Task.runAt missing.task
    { surroundings := savedGiven, running := "unix", answers := [], report := .initial false } =
      (.error (.exit ExitCode.fileNotFound), final) := by
  rw [missing, Command.task, Task.askPanel, Task.runAt_bind_ok (Task.runAt_config load_savedGiven)]
  exact ⟨_, rfl⟩

/-- Sets a family that there is not. -/
def unknown : Command := .config "set" (some Setting.platform.key) (some "beos")

theorem isRefused_unknown : unknown.IsRefused := .value rfl

/-- The file to save to is there before, and stays as it is. -/
theorem saved_kept :
    let ran := (perform false .warning missing).complete savedGiven "unix" []
    let set := (perform false .warning unknown).complete savedGiven "unix" []
    ran.exitCode ≠ 0 ∧ ran.files = savedGiven.files ∧ set.files = savedGiven.files := by
  obtain ⟨final, run⟩ := runAt_missing
  have reported : (missing.perform false savedGiven "unix" []).failure = none ∧
      (missing.perform false savedGiven "unix" []).exitCode ≠ 0 := by
    rw [Command.perform_of_runAt run]
    exact ⟨rfl, (by decide : ExitCode.fileNotFound ≠ 0)⟩
  have ran := errors_write_nothing (perform false .warning missing) savedGiven "unix" []
    (.inl reported)
  have set := errors_write_nothing (perform false .warning unknown) savedGiven "unix" []
    (.inr isRefused_unknown)
  exact ⟨reported.2, ran.1, set.1⟩

end Invocation

end InputPanel
