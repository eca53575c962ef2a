import Mathlib.Data.String.Basic
import JuliaSession.Proofs.Calendar
import JuliaSession.Proofs.Machine.Places

/-!
# The names of log files

A log file is named for development or for the moment it is opened at. A name for a moment is in
the form that rotation looks for, and both names are names that files can have.

* `Log.isStampedName_fileStamp`: a name for a moment is in the form that rotation looks for.
* `Desk.isName_of_logFileName`, `Desk.isStampedName_of_logFileName`: the name of the file to open.
* `Directories.child_log`: the path of a file in the directory of the log files.
* `FileTree.DirAt.locate_log`, `FileTree.DirAt.write_log`: where this path leads, and how the file
  is written.
-/

namespace JuliaSession

/-! ### The name of the file to open -/

namespace Log

/-- The name of a log file that is named for a moment. -/
def stampName (moment : Clock.Millis) : String := Clock.fileStamp moment ++ ".log"

variable {moment : Clock.Millis}

/-- A name for a moment is in the form that rotation looks for. -/
theorem isStampedName_stampName (h : Clock.isWritable (Clock.year moment) = true) :
    isStampedName (stampName moment) = true := by
  obtain ⟨year, month, day, hour, minute, second, hyear, hmonth, hday, hhour, hminute, hsecond,
    hstamp⟩ := Clock.exists_toList_fileStamp h
  obtain ⟨a, b, c, d, rfl⟩ := List.length_eq_four.1 hyear
  obtain ⟨e, f, rfl⟩ := List.length_eq_two.1 hmonth
  obtain ⟨g, h, rfl⟩ := List.length_eq_two.1 hday
  obtain ⟨i, j, rfl⟩ := List.length_eq_two.1 hhour
  obtain ⟨k, l, rfl⟩ := List.length_eq_two.1 hminute
  obtain ⟨m, n, rfl⟩ := List.length_eq_two.1 hsecond
  unfold isStampedName stampName
  rw [String.toList_append, hstamp, Glob.matchesPart_eq]
  rfl

/-- Names for moments are the same exactly in the same second. -/
theorem stampName_eq_iff {other : Clock.Millis} (h : Clock.isWritable (Clock.year moment) = true)
    (hother : Clock.isWritable (Clock.year other) = true) :
    stampName moment = stampName other ↔ moment.fdiv 1000 = other.fdiv 1000 := by
  rw [← Clock.fileStamp_eq_iff h hother]
  unfold stampName
  refine ⟨fun heq => ?_, fun heq => by rw [heq]⟩
  have htexts := congrArg String.toList heq
  rw [String.toList_append, String.toList_append] at htexts
  exact String.toList_injective (List.append_cancel_right htexts)

theorem length_stampName (h : Clock.isWritable (Clock.year moment) = true) :
    (stampName moment).toList.length = 21 := by
  obtain ⟨year, month, day, hour, minute, second, hyear, hmonth, hday, hhour, hminute, hsecond,
    hstamp⟩ := Clock.exists_toList_fileStamp h
  unfold stampName
  rw [String.toList_append, hstamp]
  simp [hyear, hmonth, hday, hhour, hminute, hsecond]

theorem not_mem_stampName {c : Char} (hdigit : c.isDigit = false)
    (hother : c ∉ ['-', 'T', '.', 'l', 'o', 'g']) (moment : Clock.Millis) :
    c ∉ (stampName moment).toList := by
  simp only [List.mem_cons, not_or] at hother
  unfold stampName
  rw [String.toList_append, List.mem_append, not_or]
  refine ⟨Clock.not_mem_fileStamp hdigit hother.1 hother.2.1 moment, ?_⟩
  simp [hother]

theorem utf8Len_le (cs : List Char) : String.utf8Len cs ≤ 4 * cs.length := by
  induction cs with
  | nil => rfl
  | cons c rest ih =>
    have hc := c.utf8Size_le_four
    rw [String.utf8Len_cons, List.length_cons]
    omega

/-- A name for a moment is a name that a file can have. -/
theorem isName_stampName (h : Clock.isWritable (Clock.year moment) = true) :
    FileTree.IsName (stampName moment) := by
  have hlength := length_stampName h
  refine FileTree.isName_of_segment (not_mem_stampName (by decide) (by decide) moment)
    (not_mem_stampName (by decide) (by decide) moment) ?_ ?_ ?_ ?_
  · intro heq
    rw [heq] at hlength
    cases hlength
  · intro heq
    rw [heq] at hlength
    cases hlength
  · intro heq
    rw [heq] at hlength
    cases hlength
  · have hsize := utf8Len_le (stampName moment).toList
    rw [String.utf8Len_toList, hlength] at hsize
    exact hsize.trans (by decide)

end Log

namespace Desk

variable {desk : Desk} {dev : Bool} {name : String}

theorem logFileName_eq_ok_iff :
    desk.logFileName dev = .ok name ↔
      dev = true ∧ name = "dev.log" ∨
        dev = false ∧ Clock.isWritable (Clock.year desk.machine.now) = true ∧
          name = Log.stampName desk.machine.now := by
  unfold logFileName checkYear
  -- a development log has a fixed name; any other one is named after the time
  cases dev with
  | true =>
    rw [if_pos rfl]
    constructor
    · exact fun h => .inl ⟨rfl, (Except.ok.inj h).symm⟩
    · rintro (⟨-, rfl⟩ | ⟨⟨⟩, -, -⟩)
      rfl
  | false =>
    rw [if_neg Bool.false_ne_true]
    dsimp only
    cases Clock.isWritable (Clock.year desk.machine.now) with
    | true =>
      constructor
      · exact fun h => .inr ⟨rfl, rfl, (Except.ok.inj h).symm⟩
      · rintro (⟨⟨⟩, -⟩ | ⟨-, -, rfl⟩)
        rfl
    | false =>
      constructor
      · rintro ⟨⟩
      · rintro (⟨⟨⟩, -⟩ | ⟨-, ⟨⟩, -⟩)

/-- The file to open has a name that files can have. -/
theorem isName_of_logFileName (h : desk.logFileName dev = .ok name) : FileTree.IsName name := by
  rcases logFileName_eq_ok_iff.1 h with ⟨-, rfl⟩ | ⟨-, hyear, rfl⟩
  · decide
  · exact Log.isName_stampName hyear

/-- The file to open is one that rotation looks at, unless it is for development. -/
theorem isStampedName_of_logFileName (h : desk.logFileName dev = .ok name) :
    Log.isStampedName name = !dev := by
  rcases logFileName_eq_ok_iff.1 h with ⟨rfl, rfl⟩ | ⟨rfl, hyear, rfl⟩
  · decide
  · exact Log.isStampedName_stampName hyear

end Desk

/-! ### The directory of the log files -/

namespace Directories

variable {machine : Machine} {name : String}

theorem naming_log : Path.Naming "log".toList := ⟨by decide, 'l', by decide, by decide⟩

theorem tidy_log (machine : Machine) : Path.tidy (log machine) = log machine := Path.tidy_tidy _

theorem bare_log (machine : Machine) : FileTree.Bare (log machine) :=
  FileTree.bare_of_suffix (by decide) naming_log.slash
    (Path.suffix_child naming_log List.suffix_rfl _)

/-- The path of a file in the directory of the log files. -/
theorem child_log (hname : FileTree.IsName name) (machine : Machine) :
    Path.child (log machine) name =
      String.ofList ((log machine).toList ++ '/' :: name.toList) :=
  Path.child_child naming_log _ hname.clean

theorem bare_child_log (hname : FileTree.IsName name) (machine : Machine) :
    FileTree.Bare (Path.child (log machine) name) := by
  refine @FileTree.bare_of_suffix _ name.toList ?_ hname.slash ?_
  · exact fun heq => hname.ne_empty (String.toList_injective heq)
  · rw [child_log hname, String.toList_ofList]
    exact (List.suffix_cons _ _).trans (List.suffix_append _ _)

end Directories

namespace FileTree

variable {tree after : FileTree} {cwd name : String} {machine : Machine} {dir place : Place}

/-- The path of a file in the directory of the log files leads there, if it is not too long. -/
theorem DirAt.locate_log (h : tree.DirAt cwd (Directories.log machine) dir) (hname : IsName name)
    (hlocate : tree.locate cwd (Path.child (Directories.log machine) name) = .ok place) :
    place = dir ++ [name] := by
  rw [Directories.child_log hname, h.locate_child hname] at hlocate
  split_ifs at hlocate
  exact (Except.ok.inj hlocate).symm

/-- A log file is written where it is in its directory. -/
theorem DirAt.write_log {content : Text.Utf8.Bytes}
    (h : tree.DirAt cwd (Directories.log machine) dir) (hname : IsName name)
    (hwrite : tree.write cwd (Path.child (Directories.log machine) name) content = .ok after) :
    tree.locate cwd (Path.child (Directories.log machine) name) = .ok (dir ++ [name]) ∧
      SameDirs tree after ∧ ∃ mode changed, ∀ place, after.entry? place =
        if place = dir ++ [name] then some (.file content mode changed) else tree.entry? place := by
  obtain ⟨place, mode, changed, hlocate, hdirs, hentry⟩ := modify_ok hwrite
  rw [locateFile_of_bare (Directories.bare_child_log hname machine)] at hlocate
  obtain rfl := h.locate_log hname hlocate
  exact ⟨hlocate, hdirs, mode, changed, hentry⟩

end FileTree

end JuliaSession
