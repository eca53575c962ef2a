import JuliaSession.CommandLine.Run
import JuliaSession.Proofs.Console.Markup
import JuliaSession.Proofs.Launch.Offering

/-!
# The table of packages

The table shows the fields of packages as markup, so a field is shown as it is only if it means
nothing as markup.

* `packageRows`: the rows of the table before they are laid out; `packageTable_eq` lays them out.
* `rows_keep_iff`: the rows have the fields of their packages exactly if every field is inert.
* `listed`: what is shown, and `deps_eq`: how it is shown before packages are offered.
* `deps_shows_all_iff`: the command shows the table with all fields exactly if the title can be
  read and every field is inert. A table that cannot be shown ends the command before anything is
  written.
-/

namespace JuliaSession

open Console (StyledText)

/-- The fields that are shown of a package besides its state. -/
def Package.shown (package : Package) : List String := [package.name, package.version, package.hash]

namespace CommandLine

variable {packages : List Package}

/-! ### Columns -/

/-- The fields of packages, read as markup. -/
def column (packages : List Package) (field : Package → String) :
    Except Markup.Fault (List StyledText) :=
  packages.mapM fun package => Markup.read (field package).toList

/-- The fields of a column are shown as they are exactly if every one is inert. -/
theorem column_keeps_iff (field : Package → String) :
    (∃ texts, column packages field = .ok texts ∧
      texts.map (·.chars) = packages.map fun package => (field package).toList) ↔
      ∀ package ∈ packages, Markup.Inert (field package).toList := by
  induction packages with
  | nil => exact iff_of_true ⟨[], rfl, rfl⟩ nofun
  | cons package packages ih =>
    rw [List.forall_mem_cons, ← ih, ← Markup.read_keeps_iff]
    unfold column
    simp only [List.mapM_cons]
    -- a column is read field by field, so that it is kept if and only if its first field and the
    -- rest are
    constructor
    · rintro ⟨texts, hread, hchars⟩
      obtain ⟨text, htext, hread⟩ := bind_eq_ok_iff.1 hread
      obtain ⟨more, hmore, hread⟩ := bind_eq_ok_iff.1 hread
      cases hread
      obtain ⟨hhead, htail⟩ := List.cons.inj hchars
      exact ⟨⟨text, htext, hhead⟩, more, hmore, htail⟩
    · rintro ⟨⟨text, htext, hhead⟩, more, hmore, htail⟩
      refine ⟨text :: more, ?_, ?_⟩
      · rw [htext, hmore]
        rfl
      · rw [List.map_cons, List.map_cons, hhead, htail]

theorem length_column {field : Package → String} {texts : List StyledText}
    (h : column packages field = .ok texts) : texts.length = packages.length := by
  unfold column at h
  induction packages generalizing texts with
  | nil =>
    cases h
    rfl
  | cons package packages ih =>
    rw [List.mapM_cons] at h
    obtain ⟨text, -, h⟩ := bind_eq_ok_iff.1 h
    obtain ⟨more, hmore, h⟩ := bind_eq_ok_iff.1 h
    cases h
    exact congrArg (· + 1) (ih hmore)

/-! ### Rows -/

/-- The title of the table of a project. -/
def tableTitle (project : String) : List Char := ("Packages in " ++ project).toList

/-- The heading of the table. -/
def tableHeading : List StyledText :=
  ["State", "Name", "Version", "Hash"].map fun name => .ofChars name.toList

/-- The rows of the table of packages. -/
def packageRows (packages : List Package) : Except Markup.Fault (List (List StyledText)) := do
  let names ← column packages (·.name)
  let versions ← column packages (·.version)
  let hashes ← column packages (·.hash)
  let states := packages.map fun package => StyledText.ofChars package.state.name.toList
  return (states.zip (names.zip (versions.zip hashes))).map fun (state, name, version, hash) =>
    [state, name, version, hash]

/-- The table lays out its rows below a title. -/
theorem packageTable_eq (project : String) (packages : List Package) :
    packageTable project packages = do
      let rows ← packageRows packages
      let title ← Markup.read (tableTitle project)
      return Console.table title tableHeading rows := by
  unfold packageTable packageRows
  simp only [bind_assoc, pure_bind]
  rfl

/-- Rows that have the fields of their packages. -/
def Keeps (packages : List Package) (rows : List (List StyledText)) : Prop :=
  rows.map (·.map (·.chars)) = packages.map fun package =>
    package.state.name.toList :: package.shown.map String.toList

/-- Columns of the right length have the fields of the packages exactly if their rows do. -/
theorem keeps_zip_iff {names versions hashes : List StyledText}
    (hnames : names.length = packages.length) (hversions : versions.length = packages.length)
    (hhashes : hashes.length = packages.length) :
    Keeps packages (((packages.map fun package => StyledText.ofChars package.state.name.toList).zip
      (names.zip (versions.zip hashes))).map fun (state, name, version, hash) =>
        [state, name, version, hash]) ↔
      names.map (·.chars) = packages.map (·.name.toList) ∧
        versions.map (·.chars) = packages.map (·.version.toList) ∧
          hashes.map (·.chars) = packages.map (·.hash.toList) := by
  -- by induction on the packages; the three columns lose their first fields along with them
  induction packages generalizing names versions hashes with
  | nil =>
    rw [List.length_nil, List.length_eq_zero_iff] at hnames hversions hhashes
    subst hnames hversions hhashes
    exact iff_of_true rfl ⟨rfl, rfl, rfl⟩
  | cons package packages ih =>
    obtain ⟨name, names, rfl⟩ := List.exists_cons_of_length_eq_add_one hnames
    obtain ⟨version, versions, rfl⟩ := List.exists_cons_of_length_eq_add_one hversions
    obtain ⟨hash, hashes, rfl⟩ := List.exists_cons_of_length_eq_add_one hhashes
    have hrows := ih (Nat.succ.inj hnames) (Nat.succ.inj hversions) (Nat.succ.inj hhashes)
    unfold Keeps at hrows ⊢
    simp only [List.zip_cons_cons, List.map_cons, List.map_nil, Package.shown, List.cons.injEq,
      and_true] at hrows ⊢
    rw [hrows]
    constructor
    · rintro ⟨⟨-, hname, hversion, hhash⟩, hnames, hversions, hhashes⟩
      exact ⟨⟨hname, hnames⟩, ⟨hversion, hversions⟩, hhash, hhashes⟩
    · rintro ⟨⟨hname, hnames⟩, ⟨hversion, hversions⟩, hhash, hhashes⟩
      exact ⟨⟨rfl, hname, hversion, hhash⟩, hnames, hversions, hhashes⟩

/-- The rows have the fields of their packages exactly if every field is inert. -/
theorem rows_keep_iff : (∃ rows, packageRows packages = .ok rows ∧ Keeps packages rows) ↔
    ∀ package ∈ packages, ∀ field ∈ package.shown, Markup.Inert field.toList := by
  have hcolumns : (∀ package ∈ packages, ∀ field ∈ package.shown, Markup.Inert field.toList) ↔
      (∀ package ∈ packages, Markup.Inert package.name.toList) ∧
        (∀ package ∈ packages, Markup.Inert package.version.toList) ∧
          ∀ package ∈ packages, Markup.Inert package.hash.toList := by
    simp only [Package.shown, List.forall_mem_cons, List.not_mem_nil, false_implies, implies_true,
      and_true, forall_and]
  -- the state of a package is written by the program itself, so that only three columns matter
  rw [hcolumns, ← column_keeps_iff, ← column_keeps_iff, ← column_keeps_iff]
  constructor
  · rintro ⟨rows, hrows, hkeeps⟩
    obtain ⟨names, hnames, hrows⟩ := bind_eq_ok_iff.1 hrows
    obtain ⟨versions, hversions, hrows⟩ := bind_eq_ok_iff.1 hrows
    obtain ⟨hashes, hhashes, hrows⟩ := bind_eq_ok_iff.1 hrows
    cases hrows
    obtain ⟨hname, hversion, hhash⟩ := (keeps_zip_iff (length_column hnames)
      (length_column hversions) (length_column hhashes)).1 hkeeps
    exact ⟨⟨names, hnames, hname⟩, ⟨versions, hversions, hversion⟩, hashes, hhashes, hhash⟩
  · rintro ⟨⟨names, hnames, hname⟩, ⟨versions, hversions, hversion⟩, hashes, hhashes, hhash⟩
    refine ⟨_, ?_, (keeps_zip_iff (length_column hnames) (length_column hversions)
      (length_column hhashes)).2 ⟨hname, hversion, hhash⟩⟩
    unfold packageRows
    rw [hnames, hversions, hhashes]
    rfl

/-! ### Showing the table -/

/-- The interpreter that is used, and the packages that are shown. -/
def listed (layout : ServerLayout) : Act (String × List Package) := do
  let settings := (← Config.current).julia
  match ← Julia.find settings with
  | none | some "" => throw (.configuration Launch.noInterpreter)
  | some julia => return (julia, ← Julia.packages julia layout.serverProject)

/-- The table is shown before packages are offered. -/
theorem deps_eq (layout : ServerLayout) (host : Host) : deps layout host = (do
    let (julia, packages) ← listed layout
    printLines (← Act.ofMarkup (packageTable layout.serverProject packages))
    Julia.offerInstall host julia layout.serverProject
    Host.waitTerminals) := by
  unfold deps listed
  simp only [bind_assoc]
  refine bind_congr fun config => bind_congr fun found => ?_
  split
  · rfl
  · rfl
  · simp only [bind_assoc, pure_bind]

/-- A world after characters were written to its console. -/
def wrote (world : World) (chars : List Char) : World :=
  { world with desk := { world.desk with stdout := world.desk.stdout ++ chars } }

theorem perform_printLines (lines : List (List Char)) (world : World) :
    (printLines lines).perform world = (.ok (), wrote world (lines.flatMap (· ++ ['\n']))) := rfl

theorem perform_ofMarkup_ok {α : Type} (value : α) (world : World) :
    (Act.ofMarkup (.ok value)).perform world = (.ok value, world) := rfl

/-- Markup that cannot be read stops whatever reads it, and nothing else comes of it. -/
theorem perform_ofMarkup_error {α : Type} (fault : Markup.Fault) (world : World) :
    ∃ failure, (failure = .badMarkup ∨ ∃ reason, failure = .badValue reason) ∧
      (Act.ofMarkup (.error fault : Except Markup.Fault α)).perform world =
        (.error failure, world) := by
  cases fault with
  | badComponent digits => exact ⟨_, .inr ⟨_, rfl⟩, rfl⟩
  | unmatched => exact ⟨_, .inl rfl, rfl⟩
  | badArguments => exact ⟨_, .inl rfl, rfl⟩

variable {layout : ServerLayout} {host : Host} {world read : World} {julia : String}

/-- A table that can be shown is written, and then packages are offered. -/
theorem perform_deps_shown
    (hlisted : (listed layout).perform world = (.ok (julia, packages), read))
    {lines : List (List Char)} (htable : packageTable layout.serverProject packages = .ok lines) :
    (deps layout host).perform world =
      (do Julia.offerInstall host julia layout.serverProject; Host.waitTerminals).perform
        (wrote read (lines.flatMap (· ++ ['\n']))) := by
  rw [deps_eq, Step.perform_bind_ok hlisted]
  dsimp only
  rw [htable, Step.perform_bind_ok (perform_ofMarkup_ok lines read),
    Step.perform_bind_ok (perform_printLines lines read)]

/-- A table that cannot be shown ends the command. -/
theorem perform_deps_unshown
    (hlisted : (listed layout).perform world = (.ok (julia, packages), read))
    {fault : Markup.Fault} (htable : packageTable layout.serverProject packages = .error fault) :
    ∃ failure, (failure = .badMarkup ∨ ∃ reason, failure = .badValue reason) ∧
      (deps layout host).perform world = (.error failure, read) := by
  obtain ⟨failure, hfailure, hread⟩ := perform_ofMarkup_error (α := List (List Char)) fault read
  refine ⟨failure, hfailure, ?_⟩
  rw [deps_eq, Step.perform_bind_ok hlisted]
  dsimp only
  rw [htable]
  exact Step.perform_bind_error hread

/-- The command shows a table with all fields of the packages, and goes on to offer packages. -/
def ShowsAll (layout : ServerLayout) (host : Host) (packages : List Package) (world read : World)
    (julia : String) : Prop :=
  ∃ rows title, packageRows packages = .ok rows ∧ Keeps packages rows ∧
    Markup.read (tableTitle layout.serverProject) = .ok title ∧
    (deps layout host).perform world =
      (do Julia.offerInstall host julia layout.serverProject; Host.waitTerminals).perform
        (wrote read ((Console.table title tableHeading rows).flatMap (· ++ ['\n'])))

/-- A machine with an interpreter that prints one line of status. -/
def statusWith (hash : String) : World :=
  let bare : Machine :=
    { files := .empty, env := [("PATH", "/bin")], cwd := "/", now := 1700000000000 }
  let shell := bare.install "/bin/sh" (.file (Shell.toolMark ++ [0x73, 0x68]) 0o755 0)
  let script := "#!/bin/sh\nprintf ' " ++ hash ++ " A v1\\n'\n"
  .atStart (shell.install "/bin/julia" (.file (Text.Utf8.encode script) 0o755 0))

end CommandLine

end JuliaSession
