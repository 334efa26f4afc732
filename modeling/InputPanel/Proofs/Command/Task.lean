import InputPanel.Command.Task

/-!
# Running tasks

A task that is run at a desk ends and leaves the desk as it is then. What the
parts of a task do one after another, the task does.
-/

namespace InputPanel.Task

variable {α β : Type}

/-- How a task ends at a desk, and the desk that it leaves. -/
def runAt (task : Task α) (desk : Desk) : Except Halt α × Desk := (ExceptT.run task).run desk

@[simp] theorem runAt_pure (a : α) (desk : Desk) : runAt (pure a) desk = (.ok a, desk) := rfl

@[simp] theorem runAt_get (desk : Desk) : runAt get desk = (.ok desk, desk) := rfl

theorem runAt_bind (task : Task α) (next : α → Task β) (desk : Desk) :
    runAt (task >>= next) desk = match runAt task desk with
      | (.ok a, desk) => runAt (next a) desk
      | (.error halt, desk) => (.error halt, desk) := by
  unfold runAt ExceptT.run StateT.run
  simp only [bind, ExceptT.bind, ExceptT.mk, StateT.bind]
  cases task desk with
  | mk ended desk => cases ended <;> rfl

theorem runAt_bind_ok {task : Task α} {desk after : Desk} {a : α}
    (first : runAt task desk = (.ok a, after)) (next : α → Task β) :
    runAt (task >>= next) desk = runAt (next a) after := by
  rw [runAt_bind, first]

/-! ## The steps of tasks -/

@[simp] theorem runAt_line (text : String) (desk : Desk) :
    runAt (line text) desk = (.ok (), { desk with events := desk.events ++ [.print text] }) := rfl

theorem runAt_config_eq (desk : Desk) :
    runAt Task.config desk = runAt (expectNoted (Config.load desk.surroundings).2)
      { desk with surroundings := (Config.load desk.surroundings).1 } := rfl

theorem runAt_config {desk : Desk} {surroundings : Surroundings} {config : Config}
    {notices : List Notice}
    (loaded : Config.load desk.surroundings = (surroundings, ⟨.ok config, notices⟩)) :
    runAt Task.config desk =
      (.ok config, { desk with surroundings, notices := desk.notices ++ notices }) := by
  rw [runAt_config_eq, loaded]
  rfl

theorem runAt_save_eq (config : Config) (desk : Desk) :
    runAt (save config) desk = runAt (expect (config.save desk.surroundings).2)
      { desk with surroundings := (config.save desk.surroundings).1 } := rfl

theorem runAt_save {config : Config} {desk : Desk} {surroundings : Surroundings}
    (saved : config.save desk.surroundings = (surroundings, .ok ())) :
    runAt (save config) desk = (.ok (), { desk with surroundings }) := by
  rw [runAt_save_eq, saved]
  rfl

end InputPanel.Task
