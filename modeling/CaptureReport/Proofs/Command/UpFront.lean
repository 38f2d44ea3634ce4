import CaptureReport.Proofs.Command.Execution
import CaptureReport.Proofs.Stream.Room

/-!
# Commands that fail up front

Settings that cannot be used and files that cannot be opened are found before a byte of the capture
is read, and nothing comes out of such a command. What it does to the files depends on who finds the
problem. The steps up to the run find theirs before the destination is created, and leave every file
alone. The checks of the run come after that: by then the destination is empty, and the report that
an earlier command has left there is lost.

## Main results

* `folder_of_upFront`: the files after a command that fails up front, and whether all that were
  there before still are.
-/

namespace CaptureReport.Command

/-- A problem is **up front** if it can come up before a byte of the capture is read. -/
def Problem.isUpFront : Problem → Bool
  | config _ | channels _ | openInput _ | createOutput _ => true
  | run failure => failure.isUpFront

/-- Creating a destination destroys nothing exactly if no file but an empty one was there. -/
theorem Options.keeps_put_iff (o : Options) (folder : Folder) :
    folder.Keeps ((o.destination folder).put folder []) ↔
      ∀ spot ∈ o.target? folder, ∀ old ∈ folder.find spot, old = [] := by
  rw [destination]
  cases o.target? folder with
  | none => simp [Destination.put, Folder.keeps_refl]
  | some spot => simpa [Destination.put] using Folder.keeps_store_iff

/-- **The files after a command that fails up front.** Nothing comes out of it. If the run was not
reached, the folder is as it was; if it was, the destination is empty, and every file is kept
exactly if no file with something in it was there. -/
theorem folder_of_upFront {args : List String} {o : Options} (hargs : parse args = .ok o)
    (stdin : List UInt8) (folder : Folder) {problem : Problem}
    (hproblem : (execute args stdin folder).problem = some problem)
    (hupFront : problem.isUpFront = true) :
    let outcome := execute args stdin folder
    outcome.exit = .failure ∧ outcome.stdout = [] ∧
      outcome.folder
        = (if problem.isOfRun then (o.destination folder).put folder [] else folder) ∧
      (folder.Keeps outcome.folder ↔
        (problem.isOfRun = true →
          ∀ spot ∈ o.target? folder, ∀ old ∈ folder.find spot, old = [])) := by
  rw [execute_of_parse hargs] at hproblem ⊢
  rcases o.execute_cases stdin folder with ⟨-, heq⟩ | ⟨-, found, hprepare, heq⟩ |
    ⟨-, settings, device, -, heq⟩
  · rw [heq] at hproblem
    cases hproblem
  · rw [heq] at hproblem ⊢
    cases hproblem
    have hbefore := Options.isOfRun_of_prepare hprepare
    simp [hbefore, Folder.keeps_refl]
  · rw [heq, Options.problem_outcomeOf] at hproblem
    split at hproblem
    · cases hproblem
    · rename_i failure hresult
      cases hproblem
      have hreceived := Stream.received_of_isUpFront hresult hupFront
      rw [heq]
      refine ⟨?_, ?_, ?_, ?_⟩
      · rw [Options.exit_outcomeOf, hresult]
      · rw [Options.stdout_outcomeOf, hreceived]
        cases o.destination folder <;> rfl
      · rw [Options.folder_outcomeOf, hreceived]
        rfl
      · rw [Options.folder_outcomeOf, hreceived]
        simpa [Problem.isOfRun] using o.keeps_put_iff folder

/-- A capture that is not there is found on the way to the run, and the destination is left alone. A
width of zero is found by the run, and the destination is empty by then. -/
theorem folder_of_upFront_twice :
    let folder : Folder := .ofFiles [("report.txt", [68, 48, 58, 10])]
    let absent : Options := { input := some "absent.bin", output := some "report.txt" }
    let zero : Options := { output := some "report.txt", width := some 0 }
    let first := execute ["absent.bin", "-o", "report.txt"] [] folder
    let second := execute ["-o", "report.txt", "-w", "0"] [] folder
    parse ["absent.bin", "-o", "report.txt"] = .ok absent ∧
      first.problem = some (.openInput "absent.bin") ∧
      first.exit = .failure ∧ first.folder = folder ∧
      parse ["-o", "report.txt", "-w", "0"] = .ok zero ∧
      second.problem = some (.run (.setUp (.badWidth "0"))) ∧
      second.exit = .failure ∧ second.folder = folder.store (Path.spot "report.txt") [] ∧
      ¬ folder.Keeps second.folder := by
  intro folder absent zero first second
  have hparse : parse ["absent.bin", "-o", "report.txt"] = .ok absent := by decide +kernel
  have hparse' : parse ["-o", "report.txt", "-w", "0"] = .ok zero := by decide +kernel
  have hproblem : first.problem = some (.openInput "absent.bin") := by decide +kernel
  have hproblem' : second.problem = some (.run (.setUp (.badWidth "0"))) := by decide +kernel
  have htarget : zero.target? folder = some (Path.spot "report.txt") := by decide +kernel
  obtain ⟨hexit, -, hfolder, -⟩ := folder_of_upFront hparse [] folder hproblem rfl
  obtain ⟨hexit', -, hfolder', hkeeps⟩ := folder_of_upFront hparse' [] folder hproblem' rfl
  have hput :
      (zero.destination folder).put folder [] = folder.store (Path.spot "report.txt") [] := by
    rw [Options.destination, htarget]
    rfl
  refine ⟨hparse, hproblem, hexit, hfolder, hparse', hproblem', hexit', hfolder'.trans hput, ?_⟩
  intro hall
  have hold : folder.find (Path.spot "report.txt") = some [68, 48, 58, 10] := by decide +kernel
  cases hkeeps.mp hall rfl _ htarget _ hold

/-- A report of an earlier command is lost to a command that is refused for its width. -/
theorem report_lost_to_width_zero :
    let folder : Folder := .ofFiles [("report.txt", [68, 48, 58, 10])]
    let outcome := execute ["-o", "report.txt", "-w", "0"] [] folder
    (parse ["-o", "report.txt", "-w", "0"]).isOk = true ∧ outcome.exit = .failure ∧
      outcome.problem = some (.run (.setUp (.badWidth "0"))) ∧
      folder.look "report.txt" = .file [68, 48, 58, 10] ∧
      outcome.folder.look "report.txt" = .file [] := by
  decide +kernel

end CaptureReport.Command
