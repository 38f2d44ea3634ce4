import CaptureReport.Command.Execution

/-!
# The log of a command

What a command tells beside its output: a line for each notice that is shown, then the problem that
it ended with and what lies below that.
-/

namespace CaptureReport.Command

/-- The line of a notice. -/
def noticeLine (notice : Stream.Notice) : String :=
  (if notice.isWarning then "[WARN] " else "[INFO] ") ++ notice.text ++ "\n"

/-- The causes of a problem, numbered if there are several. -/
def causeLines : List String → List String
  | [] => []
  | [cause] => ["\n", "Caused by:\n", "    " ++ cause ++ "\n"]
  | causes =>
    ["\n", "Caused by:\n"] ++
      causes.mapIdx fun i cause => "    " ++ toString i ++ ": " ++ cause ++ "\n"

/-- The lines on a problem. -/
def problemLines (problem : Problem) : List String :=
  ("Error: " ++ problem.message ++ "\n") :: causeLines problem.causes

/-- The line on arguments that cannot be read. -/
def usageLine : String :=
  "error: these arguments cannot be read; try --help\n"

/-- The log of a command. -/
def Outcome.log (outcome : Outcome) : String :=
  String.join (outcome.notices.map noticeLine ++
    (outcome.problem.map problemLines).getD [] ++
    if outcome.exit = .usage then [usageLine] else [])

end CaptureReport.Command
