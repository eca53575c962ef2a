import JuliaSession.Proofs.Launch.Deeds

/-!
# Offering to install packages

Whether the user is asked to install packages depends on the status output alone, line by line, and
whether something is installed on the answer alone.

* `Package.NeedsInstall`: a line of the status names a package that is to be installed, said of its
  characters.
* `Package.missingNames_parseOutput`: some package of the output is missing exactly if there is such
  a line.
* `Launch.offer_asks_iff`: the user is asked once if there is such a line, and not at all otherwise;
  the installation is started once if the answer is yes, and not at all otherwise; a query that
  fails ends it all.
-/

namespace JuliaSession

/-! ### Lines of the status -/

namespace Package

/-- A line of four or five fields, divided by spaces, of which the first one is the mark of a
package that is to be installed. Line ends behind the line do not count. -/
def NeedsInstall (line : String) : Prop :=
  let bare := Text.dropRightWhile isNewline line.toList
  (bare.count ' ' = 3 ∨ bare.count ' ' = 4) ∧ installMark.toList ++ [' '] <+: bare

instance (line : String) : Decidable (NeedsInstall line) := by
  unfold NeedsInstall
  infer_instance

/-- Some line of an output names a package that is to be installed. -/
def InstallNeeded (output : String) : Prop := ∃ line ∈ Text.split output '\n', NeedsInstall line

instance (output : String) : Decidable (InstallNeeded output) := by
  unfold InstallNeeded
  infer_instance

/-- Four or five fields make a package with the first one as its mark. -/
theorem ofFields?_eq_some (mark : String) {fields : List String}
    (h : fields.length = 3 ∨ fields.length = 4) :
    ∃ package, ofFields? (mark :: fields) = some package ∧ package.mark = mark := by
  match fields, h with
  | [hash, name, version], _ => exact ⟨_, rfl, rfl⟩
  | [hash, name, version, repo], _ => exact ⟨_, rfl, rfl⟩

theorem ofFields?_eq_none {fields : List String} (h : ¬(fields.length = 4 ∨ fields.length = 5)) :
    ofFields? fields = none := by
  unfold ofFields?
  split
  · exact absurd (.inl rfl) h
  · exact absurd (.inr rfl) h
  · rfl

theorem state_eq_needsInstall_iff (package : Package) :
    package.state = .needsInstall ↔ package.mark = installMark := by
  unfold state
  split_ifs with hmark <;> simp [hmark]

/-- A text starts with the mark and a space exactly if the mark is its first field. -/
theorem mark_isPrefix_iff {field : List Char} (h : ' ' ∉ field) (rest : List Char) :
    installMark.toList ++ [' '] <+: field ++ ' ' :: rest ↔ String.ofList field = installMark := by
  have hmark : String.ofList field = installMark ↔ field = ['→'] := by
    rw [← String.ofList_toList (s := installMark), String.ofList_inj]
    rfl
  rw [hmark]
  match field with
  | [] => simp [installMark]
  | [c] => simp [installMark, eq_comm]
  | c :: d :: more =>
    have hd : ' ' ≠ d := by
      rintro rfl
      exact h (List.mem_cons_of_mem _ List.mem_cons_self)
    simp [installMark, hd]

/-- The package of a line is to be installed exactly if its characters say so. -/
theorem needsInstall_iff (line : String) :
    NeedsInstall line ↔ ∃ package, parseLine? line = some package ∧
      package.state = .needsInstall := by
  unfold NeedsInstall parseLine?
  generalize Text.dropRightWhile isNewline line.toList = bare
  dsimp only
  -- the mark is the first field, and four or five fields have three or four spaces between them
  by_cases hspace : ' ' ∈ bare
  · obtain ⟨field, rest, rfl, hfield⟩ := List.eq_append_cons_of_mem hspace
    have hcount : (field ++ ' ' :: rest).count ' ' = (Text.splitOnChar ' ' rest).length := by
      rw [List.count_append, List.count_eq_zero.2 hfield, List.count_cons_self,
        Text.length_splitOnChar, Nat.zero_add]
    rw [mark_isPrefix_iff hfield, hcount, Text.splitOnChar_append hfield, List.map_cons]
    by_cases hlength : (Text.splitOnChar ' ' rest).length = 3 ∨
        (Text.splitOnChar ' ' rest).length = 4
    · have hfields : ((Text.splitOnChar ' ' rest).map String.ofList).length = 3 ∨
          ((Text.splitOnChar ' ' rest).map String.ofList).length = 4 := by rwa [List.length_map]
      obtain ⟨package, hpackage, hmark⟩ := ofFields?_eq_some (String.ofList field) hfields
      simp [hpackage, hlength, state_eq_needsInstall_iff, hmark]
    · rw [ofFields?_eq_none (by simpa using hlength)]
      simp [hlength]
  · have hcount : bare.count ' ' = 0 := List.count_eq_zero.2 hspace
    simp [hcount, Text.splitOnChar_eq_singleton hspace, ofFields?]

/-- Some package of an output is missing exactly if some line says so. -/
theorem missingNames_parseOutput (output : String) :
    (missingNames (parseOutput output)).isEmpty = false ↔ InstallNeeded output := by
  unfold missingNames parseOutput parseLines InstallNeeded
  rw [List.isEmpty_eq_false_iff_exists_mem]
  simp only [needsInstall_iff, List.mem_map, List.mem_filter, List.mem_filterMap,
    decide_eq_true_eq]
  constructor
  · rintro ⟨_, package, ⟨⟨line, hline, hpackage⟩, hstate⟩, -⟩
    exact ⟨line, hline, package, hpackage, hstate⟩
  · rintro ⟨line, hline, package, hpackage, hstate⟩
    exact ⟨_, package, ⟨⟨line, hline, hpackage⟩, hstate⟩, rfl⟩

end Package

/-! ### The offer -/

namespace Launch

open Step (Erases)

/-- The status of the packages of a project was asked for. -/
def Deed.status (julia project : String) : Deed :=
  .query (Julia.command julia project Julia.statusProgram) none

/-- The installation of the packages of a project was started. -/
def Deed.install (julia project : String) : Deed :=
  .run (Julia.installCommand julia project) terminalLabel

variable {outside : Outside} {julia project : String} {output : String} {read : World}

/-- A query that fails ends the offer. -/
theorem offer_fails (watch : Watch) {failure : Failure}
    (h : (outside.query (Julia.command julia project Julia.statusProgram) none).perform watch.1 =
      (.error failure, read)) :
    (outside.watched.offer julia project).perform watch =
      (.error failure, read, watch.2 ++ [.status julia project]) := by
  have hquery := perform_query outside (Julia.command julia project Julia.statusProgram) none watch
  rw [h] at hquery
  exact Step.perform_bind_error hquery

/-- While nothing is missing nothing is asked, and the offer ends well if the time of day can be
written. -/
theorem offer_satisfied (watch : Watch)
    (h : (outside.query (Julia.command julia project Julia.statusProgram) none).perform watch.1 =
      (.ok output, read)) (hneeded : ¬Package.InstallNeeded output) :
    ((outside.watched.offer julia project).perform watch).2.2 =
        watch.2 ++ [.status julia project] ∧
      (read.Dated → ((outside.watched.offer julia project).perform watch).1 = .ok ()) := by
  have hquery := perform_query outside (Julia.command julia project Julia.statusProgram) none watch
  rw [h] at hquery
  have hmissing : (Package.missingNames (Package.parseOutput output)).isEmpty = true := by
    rwa [← Bool.not_eq_false, Package.missingNames_parseOutput]
  unfold Means.offer
  rw [Step.perform_bind_ok hquery]
  dsimp only
  rw [if_pos hmissing]
  refine ⟨rfl, fun hdated => ?_⟩
  obtain ⟨after, -, hlog⟩ := perform_unseen_log
    (read, watch.2 ++ [.status julia project]) hdated "lsp.packages" .info
    "server dependencies satisfied"
    [("count", Log.number (Package.parseOutput output).length)]
  exact congrArg Prod.fst hlog

/-- If something is missing the user is asked. -/
theorem offer_asks (watch : Watch)
    (h : (outside.query (Julia.command julia project Julia.statusProgram) none).perform watch.1 =
      (.ok output, read)) (hdated : read.Dated) (hneeded : Package.InstallNeeded output) :
    ∃ asked, LogsOnly read asked ∧ (outside.watched.offer julia project).perform watch =
      (outside.watched.install julia project).perform
        (asked, watch.2 ++ [.status julia project]) := by
  have hquery := perform_query outside (Julia.command julia project Julia.statusProgram) none watch
  rw [h] at hquery
  have hmissing : ¬(Package.missingNames (Package.parseOutput output)).isEmpty = true := by
    rw [Bool.not_eq_true, Package.missingNames_parseOutput]
    exact hneeded
  obtain ⟨asked, hlogs, hlog⟩ := perform_unseen_log
    (read, watch.2 ++ [.status julia project]) hdated "lsp.packages" .info
    "server dependencies missing"
    [("packages", Log.texts (Package.missingNames (Package.parseOutput output)))]
  refine ⟨asked, hlogs, ?_⟩
  unfold Means.offer
  rw [Step.perform_bind_ok hquery]
  dsimp only
  rw [if_neg hmissing]
  exact Step.perform_bind_ok hlog

/-- The user is asked once, and the installation is started once if the answer is yes. -/
theorem install_deeds (outside : Outside) (julia project : String) (asked : World)
    (deeds : List Deed) :
    let answer := ((outside.host.confirm Julia.installQuestion).perform asked).1.toOption
    ((outside.watched.install julia project).perform (asked, deeds)).2.2 =
      deeds ++ [.ask Julia.installQuestion answer] ++
        if answer = some true then [.install julia project] else [] := by
  intro answer
  have hconfirm := perform_confirm outside Julia.installQuestion (asked, deeds)
  unfold Means.install
  -- the question is asked in any case; only an answer is followed by a choice
  cases hanswer : (outside.host.confirm Julia.installQuestion).perform asked with
  | mk outcome answered =>
    rw [hanswer] at hconfirm
    cases outcome with
    | error failure =>
      rw [Step.perform_bind_error hconfirm]
      simp [answer, hanswer, Except.toOption]
    | ok yes =>
      rw [Step.perform_bind_ok hconfirm]
      cases yes with
      | true =>
        rw [if_pos rfl, perform_runVisible]
        simp [answer, hanswer, Except.toOption, Deed.install]
      | false =>
        rw [if_neg Bool.false_ne_true]
        simp [answer, hanswer, Except.toOption, Outside.watched]

/-- Offering to install packages asks for their status once. If some line of the output has four or
five fields, of which the first one is the arrow, the user is asked exactly once, provided that the
time of day can be written for the record before it, and otherwise not at all. The installation is
started exactly once if the answer is yes, and otherwise not at all. If the query fails the offer
fails with it, and neither a question nor an installation has come of it. -/
theorem offer_asks_iff (julia project : String) :
    (∀ host, Erases Prod.fst ((Outside.actual host).watched.offer julia project)
      (Julia.offerInstall host julia project)) ∧
    ∀ (outside : Outside) (world : World),
      let queried :=
        (outside.query (Julia.command julia project Julia.statusProgram) none).perform world
      let offered := (outside.watched.offer julia project).perform (world, [])
      (∀ failure, queried.1 = .error failure →
        offered = (.error failure, queried.2, [.status julia project])) ∧
      ∀ output, queried.1 = .ok output →
        (¬Package.InstallNeeded output → offered.2.2 = [.status julia project] ∧
          (queried.2.Dated → offered.1 = .ok ())) ∧
        (Package.InstallNeeded output → queried.2.Dated → ∃ asked, LogsOnly queried.2 asked ∧
          let answer := ((outside.host.confirm Julia.installQuestion).perform asked).1.toOption
          offered.2.2 = [.status julia project, .ask Julia.installQuestion answer] ++
            if answer = some true then [.install julia project] else []) := by
  refine ⟨fun host => ?_, fun outside world => ?_⟩
  · rw [← offer_actual]
    exact erases_offer (Outside.actual host) julia project
  · intro queried offered
    refine ⟨fun failure hfailure => ?_, fun output houtput => ?_⟩
    · exact offer_fails (world, []) (Prod.ext hfailure rfl)
    · have hquery : queried = (.ok output, queried.2) := Prod.ext houtput rfl
      refine ⟨offer_satisfied (world, []) hquery, fun hneeded hdated => ?_⟩
      obtain ⟨asked, hlogs, hrun⟩ := offer_asks (world, []) hquery hdated hneeded
      have hdeeds := install_deeds outside julia project asked [.status julia project]
      exact ⟨asked, hlogs, (congrArg (·.2.2) hrun).trans hdeeds⟩

/-! ### Offers at hand -/

/-- Commands that all come to one end, and a user with one answer. -/
def Outside.replying (output : Except Failure String) (answer : Bool) : Outside where
  query _ _ := Step.ofExcept output
  host := .scripted answer

/-- A machine with a home directory and some executable files. -/
def stocked (home : String) (paths : List String) : World :=
  let bare : Machine :=
    { files := .empty, env := [("HOME", home)], cwd := "/", now := 1700000000000 }
  .atStart (paths.foldl (fun machine path => machine.install path (.file [] 0o755 0)) bare)

/-- What is done outside for an output and an answer. -/
def deedsOf (output : Except Failure String) (answer : Bool) : List Deed :=
  (((Outside.replying output answer).watched.offer "julia" "/p").perform
    (stocked "/home" [], [])).2.2

/-- A package is missing and the user agrees or declines, nothing is missing, or the query fails. -/
theorem offers_at_hand :
    deedsOf (.ok " [1] A v1\n→ [2] B v2\n") true =
        [.status "julia" "/p", .ask Julia.installQuestion (some true), .install "julia" "/p"] ∧
      deedsOf (.ok " [1] A v1\n→ [2] B v2\n") false =
        [.status "julia" "/p", .ask Julia.installQuestion (some false)] ∧
      deedsOf (.ok " [1] A v1\n") true = [.status "julia" "/p"] ∧
      deedsOf (.error .timedOut) true = [.status "julia" "/p"] := by
  have hdated : (stocked "/home" []).Dated := by decide +kernel
  have hneeded : Package.InstallNeeded " [1] A v1\n→ [2] B v2\n" := by decide +kernel
  have hsatisfied : ¬Package.InstallNeeded " [1] A v1\n" := by decide +kernel
  unfold deedsOf
  -- nothing but the time of day matters of the world
  generalize stocked "/home" [] = world at hdated ⊢
  have hoffer output answer := (offer_asks_iff "julia" "/p").2 (.replying output answer) world
  have hasked : ∀ answer, (((Outside.replying (.ok " [1] A v1\n→ [2] B v2\n") answer).watched.offer
      "julia" "/p").perform (world, [])).2.2 =
      [.status "julia" "/p", .ask Julia.installQuestion (some answer)] ++
        if some answer = some true then [.install "julia" "/p"] else [] := by
    intro answer
    obtain ⟨asked, -, hdeeds⟩ := ((hoffer (.ok " [1] A v1\n→ [2] B v2\n") answer).2
      " [1] A v1\n→ [2] B v2\n" rfl).2 hneeded hdated
    exact hdeeds
  have hunasked := ((hoffer (.ok " [1] A v1\n") true).2 " [1] A v1\n" rfl).1 hsatisfied
  have hfailed := (hoffer (.error .timedOut) true).1 .timedOut rfl
  exact ⟨hasked true, hasked false, hunasked.1, congrArg (·.2.2) hfailed⟩

end Launch

end JuliaSession
