import JuliaSession.Config.Load
import JuliaSession.Proofs.Json.Arranging
import JuliaSession.Proofs.Json.Weights

/-!
# Placeholders in settings files

A placeholder that stands in strings of a settings file is replaced in the text of the file, before
the text is read. So the variable's value is read as a part of a JSON string, and it is kept exactly
when each of its characters stands for itself there.

* `substituteFrom_render`: what replacing placeholders makes of a text with holes.
* `kept_of_isLiteral`: a value whose characters stand for themselves is loaded as it is.
* `isLiteral_of_kept`: every other value is lost in some file.
* `kept_iff`: the values that every file keeps.
-/

namespace JuliaSession

/-- A file that can be read is there. -/
theorem FileTree.probe_of_read {tree : FileTree} {cwd path : String} {bytes : Text.Utf8.Bytes}
    (h : tree.read cwd path = .ok bytes) : ∃ entry, tree.probe cwd path = .ok (some entry) := by
  unfold FileTree.read at h
  unfold FileTree.probe
  split at h
  · cases h
  next place hplace =>
    rw [hplace]
    split at h
    · cases h
    · cases h
    next hentry => exact ⟨_, congrArg Except.ok hentry⟩

namespace Config

open Json.Spelling (Source isLiteral render)
open Json.Commented (walkLimit)

/-! ### Replacing placeholders -/

/-- The placeholder for a variable. -/
def placeholderFor (name : List Char) : List Char := placeholderStart ++ name ++ [placeholderEnd]

/-- The names that a placeholder can have. -/
def IsName (name : List Char) : Prop := name ≠ [] ∧ placeholderEnd ∉ name

/-- No placeholder starts at a character of a text whose holes are placeholders for `name`. -/
def Alone (name : List Char) : List (Option Char) → Prop
  | [] => True
  | none :: rest => Alone name rest
  | some c :: rest =>
    placeholder? (c :: render (placeholderFor name) rest) = none ∧ Alone name rest

/-- A placeholder is found where it starts. -/
theorem placeholder?_placeholderFor {name : List Char} (hname : IsName name) (rest : List Char) :
    placeholder? (placeholderFor name ++ rest) = some (name, rest) := by
  obtain ⟨hne, hend⟩ := hname
  have hstart : Text.afterStart? placeholderStart (placeholderFor name ++ rest) =
      some (name ++ placeholderEnd :: rest) := by
    rw [placeholderFor, List.append_assoc, List.append_assoc, List.singleton_append]
    exact Text.afterStart?_append _ _
  have htake : (name ++ placeholderEnd :: rest).takeWhile (· ≠ placeholderEnd) = name :=
    Text.takeWhile_ne_separator hend rest
  rw [placeholder?, hstart]
  simp only [htake, List.drop_left]
  cases name with
  | nil => exact absurd rfl hne
  | cons c more => rfl

/-- The rest of a placeholder that is replaced is skipped. -/
theorem substituteFrom_skip (lookup : String → String) (skipped rest : List Char) :
    substituteFrom lookup skipped.length (skipped ++ rest) = substituteFrom lookup 0 rest := by
  induction skipped with
  | nil => rfl
  | cons c more ih => exact ih

/-- A placeholder is read as the value of its variable, which is not read again. -/
theorem substituteFrom_placeholderFor (lookup : String → String) {name : List Char}
    (hname : IsName name) (rest : List Char) :
    substituteFrom lookup 0 (placeholderFor name ++ rest) =
      (lookup (String.ofList name)).toList ++ substituteFrom lookup 0 rest := by
  -- the placeholder is its first character and the ones that are skipped
  let skipped := "env:".toList ++ name ++ [placeholderEnd]
  have hcons : placeholderFor name ++ rest = Char.ofNat 123 :: (skipped ++ rest) := rfl
  have hlength : skipped.length = placeholderStart.length + name.length := by
    simp only [skipped, List.length_append, placeholderStart, List.length_cons, List.length_nil]
    omega
  have hfound := placeholder?_placeholderFor hname rest
  have hskip := substituteFrom_skip lookup skipped rest
  rw [hlength] at hskip
  rw [hcons] at hfound
  rw [hcons, ← hskip, substituteFrom, hfound]

/-- A text in which placeholders for one variable are the only ones is read with the variable's
value in their places. -/
theorem substituteFrom_render (lookup : String → String) {name : List Char} (hname : IsName name)
    {pieces : List (Option Char)} (halone : Alone name pieces) :
    substituteFrom lookup 0 (render (placeholderFor name) pieces) =
      render (lookup (String.ofList name)).toList pieces := by
  induction pieces with
  | nil => rfl
  | cons piece pieces ih =>
    cases piece with
    | some c =>
      obtain ⟨hnone, halone⟩ := halone
      rw [Json.Spelling.render_char, Json.Spelling.render_char, substituteFrom, hnone, ih halone]
    | none =>
      rw [Json.Spelling.render_hole, Json.Spelling.render_hole, ← ih halone,
        substituteFrom_placeholderFor lookup hname]

/-! ### Loading a file -/

/-- A settings file holds a text, its line ends unified. -/
def Holds (world : World) (path : String) (text : List Char) : Prop :=
  ∃ bytes chars, world.desk.machine.files.read world.desk.machine.cwd (Path.tidy path) =
      .ok bytes ∧ Text.Utf8.decodeChars? bytes = some chars ∧ Text.unifyNewlines chars = text

/-- The text of a file is read after its placeholders were replaced. -/
theorem perform_loadFile {world : World} {path : String} {text : List Char}
    (htext : Holds world path text) :
    (loadFile path).perform world =
      (readLayer path (substitute world.desk.machine.env (String.ofList text))).perform world := by
  obtain ⟨bytes, chars, hbytes, hchars, rfl⟩ := htext
  obtain ⟨entry, hentry⟩ := FileTree.probe_of_read hbytes
  have hmachine : Act.machine.perform world = (.ok world.desk.machine, world) := rfl
  unfold loadFile
  rw [Step.perform_bind_ok hmachine]
  dsimp only
  rw [hentry, Act.ofOs, pure_bind, hbytes]
  simp only [Option.isNone_some, Bool.false_eq_true, if_false, hchars]

/-- A text that does not give an object gives an empty layer, or none. -/
theorem eq_nil_of_refuseFile {path words : String} {world after : World} {members : Json.Members}
    (h : (refuseFile path words).perform world = (.ok members, after)) : members = [] := by
  rw [refuseFile, Step.perform_bind] at h
  split at h
  · cases h
    rfl
  · cases h

/-- Only a text that is read as an object gives a layer that is not empty. -/
theorem readCommented_of_readLayer {path text : String} {world after : World}
    {members : Json.Members} (hsome : members ≠ [])
    (h : (readLayer path text).perform world = (.ok members, after)) :
    Json.readCommented text = .ok (.obj members) := by
  unfold readLayer at h
  -- an object, another value, and the four ways in which a text can be refused
  split at h
  next hread =>
    cases h
    exact hread
  next =>
    rw [Step.perform_bind] at h
    split at h
    · cases h
      exact absurd rfl hsome
    · cases h
  · cases h
  · cases h
  · exact absurd (eq_nil_of_refuseFile h) hsome
  · exact absurd (eq_nil_of_refuseFile h) hsome

/-! ### Values that are kept -/

/-- A settings file is written with placeholders for one variable: it holds a document whose holes
are the placeholders, there is no other placeholder in it, and it is not nested too deep to be
read. -/
structure WrittenWith (world : World) (path : String) (name : List Char) (source : Source) :
    Prop where
  /-- The variable can be named. -/
  isName : IsName name
  /-- The file holds the document with placeholders in its holes. -/
  holds : Holds world path (source.text (placeholderFor name))
  /-- There is no other placeholder. -/
  alone : Alone name source.pieces
  /-- A reader can walk over it. -/
  shallow : source.tree.depth 0 ≤ walkLimit

/-- A value is kept by settings files: whatever file is written with placeholders for a variable of
this value, loading it gives the object in it with the value in the place of each placeholder. -/
def Kept (value : String) : Prop :=
  ∀ (world : World) (path : String) (name : List Char) (source : Source)
    (members : Json.Members), WrittenWith world path name source →
    world.desk.machine.envVar? (String.ofList name) = some value →
    source.tree.value value.toList = .obj members →
    (loadFile path).perform world = (.ok members, world)

/-- The text of a file that is written with placeholders, after they were replaced. -/
theorem WrittenWith.substitute_text {world : World} {path : String} {name : List Char}
    {source : Source} (h : WrittenWith world path name source) {value : String}
    (hvalue : world.desk.machine.envVar? (String.ofList name) = some value) :
    substitute world.desk.machine.env
        (String.ofList (source.text (placeholderFor name))) =
      String.ofList (source.text value.toList) := by
  have hlookup : (Assoc.get? (String.ofList name) world.desk.machine.env).getD "" = value := by
    rw [← Machine.envVar?, hvalue, Option.getD_some]
  rw [substitute, String.toList_ofList, Source.text, substituteFrom_render _ h.isName h.alone,
    hlookup]
  rfl

/-- A value whose characters all stand for themselves in a JSON string is kept. -/
theorem kept_of_isLiteral {value : String} (h : ∀ c ∈ value.toList, isLiteral c = true) :
    Kept value := by
  intro world path name source members hwritten hvalue hmembers
  rw [perform_loadFile hwritten.holds, hwritten.substitute_text hvalue, readLayer,
    source.readCommented_text h hwritten.shallow, hmembers]
  rfl

/-- The least document with a placeholder: an object with one member, whose value is the
placeholder. -/
def leastSource : Source where
  before := ⟨[], nofun⟩
  tree := .object (.last ⟨[], nofun⟩ [.literal 'a' rfl] ⟨[], nofun⟩ ⟨[], nofun⟩ (.string [none])
    ⟨[], nofun⟩)
  after := ⟨[], nofun⟩

/-- The text of this document with its placeholder, for a variable `X`. -/
def leastText : List Char := leastSource.text (placeholderFor ['X'])

/-- A machine with one file. -/
def oneFile (bytes : Text.Utf8.Bytes) : FileTree :=
  FileTree.empty.put ["c.json"] (.file bytes 0o644 0)

theorem read_oneFile (bytes : Text.Utf8.Bytes) :
    (oneFile bytes).read "/" (Path.tidy "c.json") = .ok bytes := rfl

/-- A machine with the least document with a placeholder in a file, and a value of its variable. -/
def leastWorld (value : String) : World :=
  World.atStart
    { files := oneFile (Text.Utf8.encodeChars leastText)
      env := [("X", value)]
      cwd := "/"
      now := 0 }

theorem leastWorld_writtenWith (value : String) :
    WrittenWith (leastWorld value) "c.json" ['X'] leastSource where
  isName := ⟨by decide, by decide⟩
  holds := ⟨_, leastText, read_oneFile _, by decide, by decide⟩
  alone := ⟨rfl, rfl, rfl, rfl, rfl, rfl, rfl, rfl, trivial⟩
  shallow := by decide

/-- A value that is kept has only characters that stand for themselves in a JSON string. -/
theorem isLiteral_of_kept {value : String} (h : Kept value) :
    ∀ c ∈ value.toList, isLiteral c = true := by
  have hwritten := leastWorld_writtenWith value
  have hvalue : (leastWorld value).desk.machine.envVar? (String.ofList ['X']) = some value := rfl
  have hmembers : leastSource.tree.value value.toList = .obj [("a", .str value)] := by
    have hmeant : Json.Spelling.meant value.toList [none] = value.toList := List.append_nil _
    have hkey : Json.Spelling.keyMeant [.literal 'a' rfl] = "a" := by decide
    simp only [leastSource, Json.Spelling.Tree.value, Json.Spelling.Members.entries, Assoc.insert,
      hmeant, hkey, String.ofList_toList]
  have hloaded := h _ _ _ _ _ hwritten hvalue hmembers
  rw [perform_loadFile hwritten.holds, hwritten.substitute_text hvalue] at hloaded
  have hread := readCommented_of_readLayer (List.cons_ne_nil _ _) hloaded
  have hle := Json.weight_le_of_readCommented hread
  -- besides the value, the text of the document has as many characters as its value needs
  have hlength : (leastSource.text value.toList).length = value.toList.length + 8 := by
    have htext : leastSource.text value.toList = Char.ofNat 123 :: '"' :: 'a' :: '"' :: ':' ::
        '"' :: (value.toList ++ ['"', Char.ofNat 125]) := rfl
    simp only [htext, List.length_cons, List.length_append, List.length_nil]
  have hweight : Json.weight (.obj [("a", .str value)]) = Json.charsWeight value.toList + 8 := by
    have hkey : Json.charsWeight "a".toList = 1 := by decide
    simp only [Json.weight, Json.membersWeight, hkey]
    omega
  rw [String.toList_ofList, hlength, hweight] at hle
  exact Json.isLiteral_of_charsWeight_le (Nat.le_of_add_le_add_right hle)

/-- Settings files keep exactly the values whose characters all stand for themselves in a JSON
string: no quotes, no backslashes and no control characters. -/
theorem kept_iff (value : String) : Kept value ↔ ∀ c ∈ value.toList, isLiteral c = true :=
  ⟨isLiteral_of_kept, kept_of_isLiteral⟩

/-- A path with backslashes is not kept. -/
theorem not_kept_backslash : ¬ Kept "a\\nb" := by
  intro h
  exact absurd ((kept_iff _).1 h '\\' (by decide)) (by decide)

end Config

end JuliaSession
