import JuliaSession.Shell.Tools.Characters
import JuliaSession.Shell.Tools.Columns
import JuliaSession.Shell.Tools.Counting
import JuliaSession.Shell.Tools.Ends
import JuliaSession.Shell.Tools.Listing
import JuliaSession.Shell.Tools.Order
import JuliaSession.Shell.Tools.Sequence

/-!
# Tools for words

The tools that write or test their arguments, and `tool?`, which gives the tool with a name. The
tools `echo`, `printf` and `test` are not the commands of the shell with these names: their options
and complaints differ.
-/

namespace JuliaSession.Shell

/-! ### Writing arguments -/

/-- Are these letters options of the `echo` tool? -/
def isEchoOption : ByteText → Bool
  | '-' :: c :: rest => (c :: rest).all fun c => c = 'n' || c = 'e' || c = 'E'
  | _ => false

/-- The value of a hexadecimal digit. -/
def hexDigit? (c : Char) : Option Nat :=
  let value := digitValue c
  if value < 16 then some value else none

/-- Replace the escapes of the `echo` tool; the flag says that output ends here. -/
def toolEscapes : Nat → ByteText → ByteText × Bool
  | 0, text => (text, false)
  | _, [] => ([], false)
  | fuel + 1, '\\' :: c :: rest =>
    let put (text : ByteText) (rest : ByteText) : ByteText × Bool :=
      let (later, ends) := toolEscapes fuel rest
      (text ++ later, ends)
    match c with
    | 'c' => ([], true)
    | 'e' => put [Char.ofNat 27] rest
    | '0' =>
      let digits := (rest.take 3).takeWhile isOctal
      put [Char.ofNat (octalValue digits % 256)] (rest.drop digits.length)
    | 'x' =>
      let digits := (rest.take 2).takeWhile fun c => (hexDigit? c).isSome
      if digits.isEmpty then put ['\\', 'x'] rest
      else put [Char.ofNat (digitsTo 16 digits).1] (rest.drop digits.length)
    | c =>
      if isOctal c then
        let digits := c :: (rest.take 2).takeWhile isOctal
        put [Char.ofNat (octalValue digits % 256)] (rest.drop (digits.length - 1))
      else
        match controlLetter? c with
        | some control => put [control] rest
        | none => put ['\\', c] rest
  | fuel + 1, c :: rest =>
    let (later, ends) := toolEscapes fuel rest
    (c :: later, ends)

/-- Write the arguments. -/
def echoTool (_ : ByteText) (args : List ByteText) : ShellM Nat := do
  let letters := (args.takeWhile isEchoOption)
  let text := Text.joinWith [' '] (args.drop letters.length)
  let flags := letters.flatten
  -- of several options about escapes the last one counts
  let escapes := (flags.reverse.find? fun c => c = 'e' || c = 'E') = some 'e'
  let (text, ends) := if escapes then toolEscapes text.length text else (text, false)
  say (if ends || 'n' ∈ flags then text else text ++ ['\n'])
  return 0

/-- A character by its number as octal escapes of its bytes; if the character set does not have it,
its number. -/
def codedChar (charset : Charset) (n : Nat) : ByteText :=
  if n < 128 ∨ charset = .utf8 then
    (ofBytes (Text.Utf8.encodeChar (Char.ofNat n))).flatMap octalEscape
  else
    let digits := (Nat.toDigits 16 n).map Char.toUpper
    let places := if n < 65536 then 4 else 8
    "\\\\".toList ++ (if n < 65536 then 'u' else 'U')
      :: List.replicate (places - digits.length) '0' ++ digits

/-- What ends the reading of a format. -/
inductive FormatEnd where
  /-- Its end. -/
  | complete
  /-- An escape that ends the output. -/
  | cut
  /-- An escape without its digits. -/
  | noDigits
  deriving DecidableEq

/-- A format in which the escapes that only the `printf` tool knows are replaced by octal ones, up
to where it ends. -/
def plainFormat (charset : Charset) : Nat → ByteText → ByteText × FormatEnd
  | 0, format => (format, .complete)
  | _, [] => ([], .complete)
  | fuel + 1, '\\' :: c :: rest =>
    let put (text : ByteText) (rest : ByteText) : ByteText × FormatEnd :=
      let (later, ending) := plainFormat charset fuel rest
      (text ++ later, ending)
    let coded (most : Nat) (write : Nat → ByteText) : ByteText × FormatEnd :=
      let digits := (rest.take most).takeWhile fun c => (hexDigit? c).isSome
      if digits.isEmpty then ([], .noDigits)
      else put (write (digitsTo 16 digits).1) (rest.drop digits.length)
    match c with
    | 'c' => ([], .cut)
    | 'x' => coded 2 fun n => octalEscape (Char.ofNat n)
    | 'u' => coded 4 (codedChar charset)
    | 'U' => coded 8 (codedChar charset)
    | '"' => put (octalEscape '"') rest
    | c => put ['\\', c] rest
  | fuel + 1, c :: rest =>
    let (later, ending) := plainFormat charset fuel rest
    (c :: later, ending)

/-- The wording of a complaint of the `printf` tool, which puts the argument between quotes. -/
def formatComplaint (charset : Charset) (words : ByteText) : ByteText :=
  let arg := words.takeWhile (· ≠ ':')
  let reason := String.ofList (words.drop arg.length)
  inQuotes charset arg ++ (match reason with
    | ": expected numeric value" => ": expected a numeric value"
    | ": not completely converted" => ": value not completely converted"
    | reason => reason).toList

/-- Write the arguments in a format. -/
def printfTool (name : ByteText) (args : List ByteText) : ShellM Nat := do
  let args := match args with
    | ['-', '-'] :: rest => rest
    | args => args
  let call ← callOf name [] 1
  match args with
  | [] => call.refuse "missing operand".toList
  | format :: args => do
    let (format, ending) := plainFormat call.charset format.length format
    -- a format that is cut is used once
    let (printing, stop) := if ending = .complete then formatText format args
      else formatOnce (format.length + 1) ⟨[], args, []⟩ format
    for words in printing.complaints do call.warn (formatComplaint call.charset words)
    say printing.out
    match stop, ending with
    | .bad words, _ => do
      let spec := if Text.startsWith words ['%'] then words.takeWhile (· ≠ ':') else ['%']
      call.warn (spec ++ ": invalid conversion specification".toList)
      return 1
    | _, .noDigits => do
      call.warn "missing hexadecimal number in escape".toList
      return 1
    | .done, .complete => do
      match printing.args with
      | [] => pure ()
      | extra :: _ =>
        call.warn ("warning: ignoring excess arguments, starting with ".toList ++ call.quoted extra)
      return if printing.complaints.isEmpty then 0 else 1
    | _, _ => return if printing.complaints.isEmpty then 0 else 1

/-- Show the working directory. -/
def pwdTool (name : ByteText) (args : List ByteText) : ShellM Nat := do
  let call ← callOf name [.flag "L" "logical", .flag "P" "physical"] 1
  let (_, words) ← call.read args
  unless words.isEmpty do call.warn "ignoring non-option arguments".toList
  sayLine (ofString (← get).cwd)
  return 0

/-- Test a condition. -/
def conditionTool (bracket : Bool) (name : ByteText) (args : List ByteText) : ShellM Nat := do
  let call ← callOf name [] 2
  let words ← if bracket then
      match args.getLast? with
      | some [']'] => pure args.dropLast
      | _ => do
        call.warn ("missing ".toList ++ call.quoted [']'])
        throw (.exit 2)
    else pure args
  match Test.value (← get) (2 * words.length + 2) words with
  | .ok true => return 0
  | .ok false => return 1
  | .error fault => do
    call.warn (match fault with
      | .unexpected word =>
        match words with
        | [['-', c], _] => call.quoted ['-', c] ++ ": unary operator expected".toList
        | [_, last] => "missing argument after ".toList ++ call.quoted last
        | [_, middle, _] => call.quoted middle ++ ": binary operator expected".toList
        | _ => "extra argument ".toList ++ call.quoted word
      | .noArgument operator => "missing argument after ".toList ++ call.quoted operator
      | .noParenthesis =>
        match words with
        | [_, last] => "missing argument after ".toList ++ call.quoted last
        | _ => call.quoted [')'] ++ " expected".toList
      | .notNumber word => "invalid integer ".toList ++ call.quoted word)
    return 2

/-- Write a line that ends with a NUL if `zero`. -/
def sayEnded (zero : Bool) (text : ByteText) : ShellM Unit :=
  say (text ++ [if zero then Char.ofNat 0 else '\n'])

/-- The last component of paths, without an ending. -/
def basenameTool (name : ByteText) (args : List ByteText) : ShellM Nat := do
  let call ← callOf name
    [.flag "a" "multiple", .value "s" "suffix", .flag "z" "zero"] 1
  let (given, words) ← call.readInOrder args
  let several := isAnyGiven given ["a", "s"]
  let stripped (ending path : ByteText) : ByteText :=
    let base := baseName path
    if base ≠ ending && Text.endsWith base ending then base.take (base.length - ending.length)
    else base
  if words.isEmpty then call.refuse "missing operand".toList
  if several then
    for path in words do
      sayEnded (isGiven given "z") (stripped ((givenValue? given "s").getD []) path)
  else
    call.limitOperands 2 words
    sayEnded (isGiven given "z") (stripped ((words[1]?).getD []) (words.headD []))
  return 0

/-- Paths without their last component. -/
def dirnameTool (name : ByteText) (args : List ByteText) : ShellM Nat := do
  let call ← callOf name [.flag "z" "zero"] 1
  let (given, words) ← call.readInOrder args
  if words.isEmpty then call.refuse "missing operand".toList
  for path in words do sayEnded (isGiven given "z") (dirName path)
  return 0

/-- Is this a time that a process can sleep? -/
def isInterval (word : ByteText) : Bool :=
  match fraction? word with
  | some (_, rest) => rest ∈ [[], ['s'], ['m'], ['h'], ['d']]
  | none => word = "infinity".toList

/-- Sleep, which takes no time here. -/
def sleepTool (name : ByteText) (args : List ByteText) : ShellM Nat := do
  let call ← callOf name [] 1
  let (_, words) ← call.read args
  if words.isEmpty then call.refuse "missing operand".toList
  let bad := words.filter fun word => !isInterval word
  match bad.reverse with
  | [] => return 0
  | last :: others => do
    for word in others.reverse do
      call.warn ("invalid time interval ".toList ++ call.quoted word)
    call.refuse ("invalid time interval ".toList ++ call.quoted last)

/-- The number of lines that are written at a time without end. -/
def endlessLines : Nat := 10000

/-- Write a line again and again. -/
def yesTool (name : ByteText) (args : List ByteText) : ShellM Nat := do
  let call ← callOf name [] 1
  let (_, words) ← call.readInOrder args
  let line := Text.joinWith [' '] (if words.isEmpty then [['y']] else words) ++ ['\n']
  let many := (List.replicate endlessLines line).flatten
  let rec again : Nat → ShellM Nat
    | 0 => throw .waiting
    | fuel + 1 => do
      say many
      if (← get).outputFault.isSome then return 1 else again fuel
  again 64

/-- Show variables of the environment. -/
def printenvTool (name : ByteText) (args : List ByteText) : ShellM Nat := do
  let call ← callOf name [.flag "0" "null"] 2
  let (given, words) ← call.readInOrder args
  let vars := (← get).vars
  if words.isEmpty then
    for (name, value) in vars do sayEnded (isGiven given "0") (name ++ '=' :: value)
    return 0
  else
    forOperands words fun name => do
      match Assoc.get? name vars with
      | some value => do
        sayEnded (isGiven given "0") value
        return true
      | none => return false

/-- The tool with a name, if it runs no other program. -/
def tool? (name : String) : Option (ByteText → List ByteText → ShellM Nat) :=
  match name with
  | "true" => some fun _ _ => return 0
  | "false" => some fun _ _ => return 1
  | "echo" => some echoTool
  | "printf" => some printfTool
  | "pwd" => some pwdTool
  | "test" => some (conditionTool false)
  | "[" => some (conditionTool true)
  | "basename" => some basenameTool
  | "dirname" => some dirnameTool
  | "seq" => some seqTool
  | "sleep" => some sleepTool
  | "printenv" => some printenvTool
  | "yes" => some yesTool
  | "cat" => some catTool
  | "tee" => some teeTool
  | "head" => some headTool
  | "tail" => some tailTool
  | "wc" => some wcTool
  | "sort" => some sortTool
  | "uniq" => some uniqTool
  | "cut" => some cutTool
  | "tr" => some trTool
  | "mkdir" => some mkdirTool
  | "rm" => some rmTool
  | "rmdir" => some rmdirTool
  | "touch" => some touchTool
  | "cp" => some cpTool
  | "mv" => some mvTool
  | "chmod" => some chmodTool
  | "ls" => some lsTool
  | _ => none

/-- The status of a tool whose output could not be written. -/
def failureStatus (tool : String) : Nat :=
  if tool ∈ ["ls", "sort", "test", "[", "printenv"] then 2 else 1

/-- What a tool complains about its output, which could not be written for a reason. -/
def writeComplaints (tool : String) (reason : ByteText) : List ByteText :=
  let failed := "write error".toList
  match tool with
  | "wc" => [failed]
  | "yes" => ["standard output: ".toList ++ reason]
  | "sort" => ["fflush failed: 'standard output': ".toList ++ reason, failed]
  | _ => [failed ++ ": ".toList ++ reason]

/-- The names of all tools. -/
def toolNames : List String :=
  ["sh", "env", "true", "false", "echo", "printf", "pwd", "test", "[", "basename", "dirname", "seq",
    "sleep", "printenv", "yes", "cat", "tee", "head", "tail", "wc", "sort", "uniq", "cut", "tr",
    "mkdir", "rm", "rmdir", "touch", "cp", "mv", "chmod", "ls"]

end JuliaSession.Shell
