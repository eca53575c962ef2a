/-!
# Lines

Two readings of line ends. `splitLines` divides a text at every line boundary that Unicode knows,
`\r\n` counting once; `unifyNewlines` is what reading a text file does: `\r\n` and `\r` become `\n`.
-/

namespace JuliaSession.Text

/-- A character that ends a line: `\n`, `\r`, vertical tab, form feed, the separators `U+001C` to
`U+001E`, next line, and the line and paragraph separators. -/
def isLineEnd (c : Char) : Bool :=
  let n := c.toNat
  (10 ≤ n && n ≤ 13) || (28 ≤ n && n ≤ 30) || n == 0x85 || n == 0x2028 || n == 0x2029

/-- The lines of a text whose current line, reversed, is `line`; `started` says whether the current
line exists, since nothing follows the last line end. -/
def splitLinesFrom : List Char → Bool → List Char → List (List Char)
  | line, started, [] => if started then [line.reverse] else []
  | line, _, '\r' :: '\n' :: rest => line.reverse :: splitLinesFrom [] false rest
  | line, _, c :: rest =>
    if isLineEnd c then line.reverse :: splitLinesFrom [] false rest
    else splitLinesFrom (c :: line) true rest

/-- The lines of a text, without their ends. -/
def splitLines (s : String) : List String :=
  (splitLinesFrom [] false s.toList).map String.ofList

/-- Write every `\r\n` and every other `\r` as `\n`. -/
def unifyNewlines : List Char → List Char
  | [] => []
  | '\r' :: '\n' :: rest => '\n' :: unifyNewlines rest
  | '\r' :: rest => '\n' :: unifyNewlines rest
  | c :: rest => c :: unifyNewlines rest

/-- No carriage return is left. -/
theorem not_mem_unifyNewlines (cs : List Char) : '\r' ∉ unifyNewlines cs := by
  fun_induction unifyNewlines cs <;> simp_all [eq_comm]

/-- A text without carriage returns is read as it stands. -/
theorem unifyNewlines_eq_self {cs : List Char} (h : '\r' ∉ cs) : unifyNewlines cs = cs := by
  fun_induction unifyNewlines cs <;> simp_all

end JuliaSession.Text
