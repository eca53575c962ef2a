import JuliaSession.Proofs.CommandLine.PackageTable
import JuliaSession.Proofs.Console.Fitting
import JuliaSession.Proofs.Console.Tagged

/-!
# What the user reads

Messages, labels, commands and reports are put between tags as they are, and read as markup together
with them. So the user reads a text as it is only if it means nothing as markup, and a command whose
announcement is no markup is not started.

* `Verbatim`: a text that stays as it is between tags.
* `ShowsMessage`, `Reports`: a message or a report is laid out with all of its characters.
* `Starts`, `Fails`: what becomes of a visible command.
* `messages_verbatim_iff`: exactly which messages and reports are laid out as they are, and which
  commands are started.
-/

namespace JuliaSession

open Console (StyledText)

namespace Markup

/-- A text that stays as it is between tags: it means nothing as markup and does not end with a
backslash. -/
def Verbatim (text : String) : Prop := Inert text.toList ∧ text.toList.getLast? ≠ some '\\'

/-- A character that does nothing to the text behind it. -/
theorem inert_cons_iff {c : Char} {cs : List Char} (hopen : c ≠ '[') (hback : c ≠ '\\')
    (hc : isDropped c = false) : Inert (c :: cs) ↔ Inert cs := by
  have htag : tag? (c :: cs) = none := by
    unfold tag?
    split
    · next heq => exact absurd (List.cons.inj heq).1 hopen
    · rfl
  have hinfix : ['\\', '['] <:+: c :: cs ↔ ['\\', '['] <:+: cs := by
    rw [List.infix_cons_iff, or_iff_right]
    rintro ⟨after, heq⟩
    exact hback (List.cons.inj heq).1.symm
  constructor
  · intro h
    exact ⟨h.tagless.tail, mt hinfix.2 h.unescaped, (List.forall_mem_cons.1 h.displayed).2⟩
  · intro h
    exact ⟨h.tagless.cons htag, mt hinfix.1 h.unescaped, List.forall_mem_cons.2 ⟨hc, h.displayed⟩⟩

/-- A command is announced behind a dollar sign, which changes nothing. -/
theorem Verbatim.command {command : String} (h : Verbatim command) :
    Verbatim ("$ " ++ command) := by
  have hlist : ("$ " ++ command).toList = '$' :: ' ' :: command.toList := by simp
  unfold Verbatim
  rw [hlist]
  refine ⟨(inert_cons_iff (by decide) (by decide) (by decide)).2
    ((inert_cons_iff (by decide) (by decide) (by decide)).2 h.1), fun hlast => ?_⟩
  exact h.2 ((getLast?_append_cons_eq_iff (by decide) ['$'] _).1 hlast)

/-- The text of a style's tags around a text can be read. -/
def Readable (style text : String) : Prop := ∃ read, Markup.read (styled style text) = .ok read

theorem styled_keeps_iff {style : String} (hstyle : Plain style.toList) (text : String) :
    (∃ read, Markup.read (styled style text) = .ok read ∧ read.chars = text.toList) ↔
      Verbatim text := by
  rw [show styled style text = tagged style.toList text.toList [] from rfl]
  exact hstyle.read_tagged_keeps_iff text.toList

theorem Verbatim.readable {style text : String} (h : Verbatim text) (hstyle : Plain style.toList) :
    Readable style text :=
  ((styled_keeps_iff hstyle text).2 h).imp fun _ => And.left

end Markup

open Markup (Inert Verbatim Readable)

namespace CommandLine

/-! ### Messages -/

theorem perform_write (chars : List Char) (world : World) :
    (Act.write chars).perform world = (.ok (), wrote world chars) := rfl

theorem perform_print {markup : List Char} {text : StyledText} (h : Markup.read markup = .ok text)
    (world : World) : (Act.print markup).perform world =
      (.ok (), wrote world (Console.shown (Console.highlighted text) ++ ['\n'])) := by
  unfold Act.print
  rw [h]
  rfl

/-- Markup that cannot be read is not printed. -/
theorem perform_print_error {markup : List Char} {fault : Markup.Fault}
    (h : Markup.read markup = .error fault) (world : World) :
    ∃ failure, (failure = .badMarkup ∨ ∃ reason, failure = .badValue reason) ∧
      (Act.print markup).perform world = (.error failure, world) := by
  obtain ⟨failure, hfailure, hread⟩ := perform_ofMarkup_error (α := StyledText) fault world
  refine ⟨failure, hfailure, ?_⟩
  unfold Act.print
  rw [h]
  exact Step.perform_bind_error hread

/-- A host shows a message as it is: what it lays out on the console has the characters of the
message. -/
def ShowsMessage (host : Host) (message : String) (severity : Severity) : Prop :=
  ∃ text, Markup.read (Markup.styled (Host.style severity) message) = .ok text ∧
    text.chars = message.toList ∧ ∀ world, (host.showMessage message severity).perform world =
      (.ok (), wrote world (Console.shown (Console.highlighted text) ++ ['\n']))

theorem plain_style (severity : Severity) : Markup.Plain (Host.style severity).toList := by
  cases severity <;> exact Markup.plain_styles _ (by decide)

theorem showsMessage_iff (assumeYes : Bool) (message : String) (severity : Severity) :
    ShowsMessage (.console assumeYes) message severity ↔ Verbatim message := by
  rw [← Markup.styled_keeps_iff (plain_style severity)]
  constructor
  · rintro ⟨text, htext, hchars, -⟩
    exact ⟨text, htext, hchars⟩
  · rintro ⟨text, htext, hchars⟩
    exact ⟨text, htext, hchars, perform_print htext⟩

/-! ### Reports -/

/-- A world after characters were written to its console as an error. -/
def wroteError (world : World) (chars : List Char) : World :=
  { world with desk := { world.desk with stderr := world.desk.stderr ++ chars } }

/-- The report of a failure, before it is laid out. -/
def reportMarkup (failure : Failure) : List Char :=
  "[red]Error:[/red] ".toList ++ failure.describe.toList

/-- A failure is reported as it is worded: what is laid out has the characters of its description. -/
def Reports (failure : Failure) : Prop :=
  ∃ text, Markup.read (reportMarkup failure) = .ok text ∧
    text.chars = "Error: ".toList ++ failure.describe.toList ∧
      ∀ world, (report failure).perform world =
        (.ok (.exit 1), wroteError world (Console.shown text ++ ['\n']))

theorem reports_iff (failure : Failure) : Reports failure ↔ Inert failure.describe.toList := by
  have hread : Markup.read (reportMarkup failure) = do
      let after ← Markup.textOf 6 []
        (Markup.joinTexts (Markup.pieces 0 0 (' ' :: failure.describe.toList)))
      return ⟨"Error:".toList ++ after.chars, ⟨0, 6⟩ :: after.spans⟩ := by
    -- the tags are around the first word only, so the description is read by itself behind them
    have hmarkup : reportMarkup failure =
        Markup.tagged "red".toList "Error:".toList (' ' :: failure.describe.toList) := rfl
    have hword : Inert "Error:".toList := Markup.plain_eq_self_iff.1 (by decide)
    have hleft : Markup.displayed (Markup.unescape "Error:".toList) = "Error:".toList := by decide
    rw [hmarkup, (Markup.plain_styles "red" (by decide)).read_tagged hword.tagless (by decide), hleft]
    rfl
  rw [← Markup.inert_cons_iff (c := ' ') (by decide) (by decide) (by decide),
    ← Markup.textOf_keeps_iff 6]
  constructor
  · rintro ⟨text, htext, hchars, -⟩
    rw [hread] at htext
    obtain ⟨after, hafter, htext⟩ := bind_eq_ok_iff.1 htext
    cases htext
    have hsame : "Error:".toList ++ after.chars =
        "Error:".toList ++ ' ' :: failure.describe.toList := hchars
    exact ⟨after, hafter, List.append_cancel_left hsame⟩
  · rintro ⟨after, hafter, hchars⟩
    have htext : Markup.read (reportMarkup failure) =
        .ok ⟨"Error:".toList ++ after.chars, ⟨0, 6⟩ :: after.spans⟩ := by
      rw [hread, hafter]
      rfl
    refine ⟨_, htext, ?_, fun world => ?_⟩
    · rw [hchars]
      rfl
    · unfold report Act.printError
      rw [show "[red]Error:[/red] ".toList ++ failure.describe.toList = reportMarkup failure
        from rfl, htext]
      rfl

/-! ### Visible commands -/

/-- What is done for a visible command once it is announced. -/
def runAnnounced (command label : String) : Act Unit := do
  Act.log "host.ui" .info "running visible command"
    [("label", Log.text label), ("command", Log.text command)]
  let code ← Host.runShell command
  modify fun world => { world with terminals := world.terminals ++ [⟨label, code⟩] }

/-- A host starts a command after it wrote something to the console. -/
def Starts (host : Host) (command label : String) : Prop :=
  ∃ chars, ∀ world, (host.runVisible command label).perform world =
    (runAnnounced command label).perform (wrote world chars)

/-- A host fails before it starts a command, with at most something written to the console. -/
def Fails (host : Host) (command label : String) : Prop :=
  ∀ world, ∃ failure chars, (failure = .badMarkup ∨ ∃ reason, failure = .badValue reason) ∧
    (host.runVisible command label).perform world = (.error failure, wrote world chars)

theorem wrote_nil (world : World) : wrote world [] = world := by
  simp [wrote]

theorem wrote_wrote (world : World) (first second : List Char) :
    wrote (wrote world first) second = wrote world (first ++ second) := by
  simp [wrote]

/-- The title of a visible command. -/
def titleLine (title : StyledText) : List Char :=
  Console.shown (Console.rule (Console.highlighted title)) ++ ['\n']

theorem runVisible_eq (assumeYes : Bool) (command label : String) :
    (Host.console assumeYes).runVisible command label = (do
      let title ← Act.ofMarkup (Markup.read (Markup.styled "bold" label))
      Act.write (titleLine title)
      Act.print (Markup.styled "dim" ("$ " ++ command))
      runAnnounced command label) := rfl

theorem starts_of_readable (assumeYes : Bool) {command label : String}
    (hlabel : Readable "bold" label) (hcommand : Readable "dim" ("$ " ++ command)) :
    Starts (.console assumeYes) command label := by
  obtain ⟨title, htitle⟩ := hlabel
  obtain ⟨line, hline⟩ := hcommand
  refine ⟨titleLine title ++ (Console.shown (Console.highlighted line) ++ ['\n']),
    fun world => ?_⟩
  rw [runVisible_eq, htitle, Step.perform_bind_ok (perform_ofMarkup_ok title world),
    Step.perform_bind_ok (perform_write (titleLine title) world),
    Step.perform_bind_ok (perform_print hline _), wrote_wrote]

theorem fails_of_unreadable (assumeYes : Bool) {command label : String}
    (h : ¬ (Readable "bold" label ∧ Readable "dim" ("$ " ++ command))) :
    Fails (.console assumeYes) command label := by
  intro world
  rw [runVisible_eq]
  -- an unreadable label fails before anything is printed, an unreadable command after the title
  cases htitle : Markup.read (Markup.styled "bold" label) with
  | error fault =>
    obtain ⟨failure, hfailure, hread⟩ := perform_ofMarkup_error (α := StyledText) fault world
    refine ⟨failure, [], hfailure, ?_⟩
    rw [Step.perform_bind_error hread, wrote_nil]
  | ok title =>
    cases hline : Markup.read (Markup.styled "dim" ("$ " ++ command)) with
    | ok line => exact absurd ⟨⟨title, htitle⟩, line, hline⟩ h
    | error fault =>
      obtain ⟨failure, hfailure, hprint⟩ :=
        perform_print_error hline (wrote world (titleLine title))
      refine ⟨failure, titleLine title, hfailure, ?_⟩
      rw [Step.perform_bind_ok (perform_ofMarkup_ok title world),
        Step.perform_bind_ok (perform_write (titleLine title) world), Step.perform_bind_error hprint]

/-! ### All of them -/

/-- A text that fits on a line of the console. -/
def Fits (text : String) : Prop :=
  (∀ c ∈ text.toList, Console.Narrow c) ∧ text.toList.length ≤ Console.width

/-- A message that is shown as it is and fits on a line is the line. -/
theorem ShowsMessage.line {host : Host} {message : String} {severity : Severity}
    (h : ShowsMessage host message severity) (hfits : Fits message) (world : World) :
    (host.showMessage message severity).perform world =
      (.ok (), wrote world (message.toList ++ ['\n'])) := by
  obtain ⟨text, -, hchars, hperform⟩ := h
  have hsame : (Console.highlighted text).chars = message.toList :=
    (Console.chars_highlighted text).trans hchars
  rw [hperform, Console.shown_of_fits (hsame ▸ hfits.1) (hsame ▸ hfits.2), hsame]

/-- A report as it is worded that fits on a line is the line. -/
theorem Reports.line {failure : Failure} (h : Reports failure)
    (hfits : Fits ("Error: " ++ failure.describe)) (world : World) :
    (report failure).perform world = (.ok (.exit 1),
      wroteError world (("Error: " ++ failure.describe).toList ++ ['\n'])) := by
  obtain ⟨text, -, hchars, hperform⟩ := h
  have hsame : text.chars = ("Error: " ++ failure.describe).toList :=
    hchars.trans String.toList_append.symm
  rw [hperform, Console.shown_of_fits (hsame ▸ hfits.1) (hsame ▸ hfits.2), hsame]

/-- What a message has in brackets is missing from what is shown of it. -/
example : ¬ ShowsMessage (.console true) "in [core]" .info := by
  rw [showsMessage_iff]
  rintro ⟨hinert, -⟩
  exact hinert.tagless 'c' ['o', 'r', 'e'] (by decide) (by decide) (by decide)
    ⟨['i', 'n', ' '], [], rfl⟩

/-- A path in brackets looks like a closing tag. -/
example : Fails (.console true) "ls [/tmp]" "list" := by
  refine fails_of_unreadable true ?_
  rintro ⟨-, text, htext⟩
  have hfault : (Markup.read (Markup.styled "dim" ("$ " ++ "ls [/tmp]"))).isOk = false := by
    decide +kernel
  rw [htext] at hfault
  cases hfault

end CommandLine

end JuliaSession
