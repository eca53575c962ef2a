import JuliaSession.CommandLine.Run
import JuliaSession.Proofs.Launch.Offering
import JuliaSession.Proofs.Shell.Lexemes

/-!
# Lines for the shell

Three lines are written for the shell: the one that installs packages, the one that starts the
server and the one that compiles it. The shell reads each of them as the words that were meant,
whatever the paths and commands in it are.

* `ServerLayout.decodes_compileCommand`: the line that compiles the server.
* `perform_plan_line`: the line of a plan is written from the command line that was planned.
* `lines_decode`: what all three lines are read as.
-/

namespace JuliaSession

open Shell (Decodes)

/-- The line that compiles the server goes to the directory of its sources, and only there runs the
script for the directory of the compiled server. -/
theorem ServerLayout.decodes_compileCommand (layout : ServerLayout) :
    Decodes layout.compileCommand [.word "cd", .word layout.serverDir, .and, .word "sh",
      .word "./compile.sh", .word layout.serverRoot] := by
  have hwritten : layout.compileCommand = Shell.written [.word "cd", .word layout.serverDir, .and,
      .word "sh", .word "./compile.sh", .word layout.serverRoot] := by
    refine String.toList_inj.1 ?_
    have hcd : Shell.quoteChars ['c', 'd'] = ['c', 'd'] := by decide
    have hsh : Shell.quoteChars ['s', 'h'] = ['s', 'h'] := by decide
    have hscript : Shell.quoteChars ['.', '/', 'c', 'o', 'm', 'p', 'i', 'l', 'e', '.', 's', 'h'] =
        ['.', '/', 'c', 'o', 'm', 'p', 'i', 'l', 'e', '.', 's', 'h'] := by decide
    simp [compileCommand, Shell.written, Shell.quote, Shell.Lexeme.spelling, Text.joinWith, hcd,
      hsh, hscript]
  rw [hwritten]
  exact Shell.decodes_written _

namespace CommandLine

/-- The line of a plan is written from the command line that was planned. -/
theorem perform_plan_line {layout : ServerLayout} {host : Host} {world after : World}
    {line : String} (h : (plan layout host).perform world = (.ok line, after)) :
    ∃ supervisor built spec planned,
      (CommandLine.supervisor layout host).perform world = (.ok supervisor, built) ∧
        supervisor.plan.perform built = (.ok spec, planned) ∧ line = Shell.line spec.argv := by
  unfold plan at h
  obtain ⟨supervisor, built, hbuilt, h⟩ := Step.perform_bind_eq_ok_iff.1 h
  obtain ⟨spec, planned, hplanned, h⟩ := Step.perform_bind_eq_ok_iff.1 h
  obtain ⟨-, printed, -, h⟩ := Step.perform_bind_eq_ok_iff.1 h
  obtain ⟨-, shown, -, h⟩ := Step.perform_bind_eq_ok_iff.1 h
  obtain ⟨-, waited, -, h⟩ := Step.perform_bind_eq_ok_iff.1 h
  cases h
  exact ⟨supervisor, built, spec, planned, hbuilt, hplanned, rfl⟩

/-- By the quoting rules and by the shell, the line that installs packages is read as the words of
the installing command, the line of a plan as the words of the command line that was planned, and
the line that compiles the server as a change of directory and the script, joined by an operator.
-/
theorem lines_decode :
    (∀ julia project, Decodes (Julia.installCommand julia project)
      ((Julia.command julia project Julia.installProgram).map .word)) ∧
    (∀ layout host world line after, (plan layout host).perform world = (.ok line, after) →
      ∃ supervisor built spec planned,
        (CommandLine.supervisor layout host).perform world = (.ok supervisor, built) ∧
          supervisor.plan.perform built = (.ok spec, planned) ∧
            Decodes line (spec.argv.map .word)) ∧
    ∀ layout : ServerLayout, Decodes layout.compileCommand [.word "cd", .word layout.serverDir,
      .and, .word "sh", .word "./compile.sh", .word layout.serverRoot] := by
  refine ⟨fun julia project => Shell.decodes_line _, fun layout host world line after h => ?_,
    ServerLayout.decodes_compileCommand⟩
  obtain ⟨supervisor, built, spec, planned, hbuilt, hplanned, rfl⟩ := perform_plan_line h
  exact ⟨supervisor, built, spec, planned, hbuilt, hplanned, Shell.decodes_line _⟩

/-- The line of a compiled server below a directory with a space in its name is read as one word. -/
theorem line_of_compiled_server :
    let layout : ServerLayout := ⟨"/ext", "/my st"⟩
    let world := Launch.stocked "/home" ["/my st/JuliaLS/bin/JuliaLS"]
    let line := "'/my st/JuliaLS/bin/JuliaLS'"
    ∃ after, (plan layout (.scripted true)).perform world = (.ok line, after) ∧
      ∃ spec : LaunchSpec, spec.argv = ["/my st/JuliaLS/bin/JuliaLS"] ∧
        Decodes line (spec.argv.map .word) := by
  intro layout world line
  have hwords : Shell.words? line = some ["/my st/JuliaLS/bin/JuliaLS"] := by decide +kernel
  obtain ⟨after, hrun⟩ : ∃ after, (plan layout (.scripted true)).perform world =
      (.ok line, after) := Step.exists_run_of_toOption (by decide +kernel)
  obtain ⟨supervisor, built, spec, planned, -, -, hdecodes⟩ :=
    lines_decode.2.1 layout (.scripted true) world line after hrun
  refine ⟨after, hrun, spec, ?_, hdecodes⟩
  -- the words of a line are determined, so that the command that was planned is the word read here
  have hargv := hdecodes.words.symm.trans hwords
  rw [List.map_map] at hargv
  simpa [Function.comp_def, Shell.Lexeme.text] using hargv

end CommandLine

end JuliaSession
