import JuliaSession.Shell.Syntax
import JuliaSession.Assoc

/-!
# Reading shell scripts

A script is read one complete command at a time (`Parse.next`), so that what was read before can be
carried out first. Tokens are words, operators and reserved words; a word is read into its parts at
once. The texts that follow a line, asked for by `<<`, are read at the end of that line and
numbered. `fuel` bounds the number of steps.
-/

namespace JuliaSession.Shell.Parse

/-- Why a text is no script, in the words of the shell. -/
inductive Fault where
  /-- A token that cannot come here, and what was expected instead. -/
  | unexpected (found : String) (expected : Option String)
  /-- A quoted text is not closed. -/
  | openQuote
  /-- An expansion is not closed. -/
  | openBrace
  /-- An arithmetic expression is not closed. -/
  | openArithmetic
  /-- A command between back quotes is not closed. -/
  | openBackQuote
  /-- A loop has no variable. -/
  | badLoopName
  /-- A function has a name that functions cannot have. -/
  | badFunctionName
  /-- The steps were used up. -/
  | exhausted
  deriving DecidableEq, Repr

/-- The wording of a fault. -/
def Fault.wording : Fault → String
  | unexpected found none => found ++ " unexpected"
  | unexpected found (some expected) => found ++ " unexpected (expecting " ++ expected ++ ")"
  | openQuote => "Unterminated quoted string"
  | openBrace => "Missing '\x7d'"
  | openArithmetic => "Missing '))'"
  | openBackQuote => "EOF in backquote substitution"
  | badLoopName => "Bad for loop variable"
  | badFunctionName => "Bad function name"
  | exhausted => "too long"

/-- What an operator of redirection does. -/
inductive Direction where
  /-- Empty a file and write it, even a protected one if `forced`. -/
  | write (forced : Bool)
  /-- Write at the end of a file. -/
  | append
  /-- Read a file. -/
  | read
  /-- Read and write a file. -/
  | both
  /-- Take another descriptor. -/
  | copy
  /-- Read the text after the line, without leading tabs if `stripped`. -/
  | document (stripped : Bool)
  deriving DecidableEq, Repr

/-- A token of a script. -/
inductive Token where
  /-- The end of the script. -/
  | eof
  /-- The end of a line. -/
  | newline
  /-- An operator or bracket. -/
  | mark (text : String)
  /-- A redirection without its word. -/
  | redirect (descriptor : Nat) (direction : Direction)
  /-- A word; `quoted` if any of it was quoted. -/
  | word (parts : List Part) (quoted : Bool)
  /-- A reserved word. -/
  | reserved (text : String)

/-- Where commands are read. -/
inductive Place where
  /-- On a line of the script: the end of the line ends them. -/
  | line
  /-- In a compound command: there has to be one at least. -/
  | body
  /-- Where there may be none, or none more. -/
  | inner
  deriving DecidableEq, Repr

/-- A text that is to follow the line. -/
structure Awaited where
  /-- Its number. -/
  number : Nat
  /-- The line that ends it. -/
  delimiter : ByteText
  /-- Are tabs at the start of its lines left out? -/
  stripped : Bool
  /-- Does it hold expansions? -/
  expanded : Bool

/-- What is left of a script, and what was read ahead. -/
structure Cursor where
  /-- What is left of the text. -/
  rest : ByteText
  /-- The line number, from 1. -/
  line : Nat
  /-- A token that was read but not used. -/
  ahead : Option Token
  /-- The texts to follow the line. -/
  awaited : List Awaited
  /-- The texts that were read, by their numbers. -/
  documents : Assoc Nat (List Part)
  /-- The number of texts that were asked for. -/
  asked : Nat
  /-- The names that stand for other texts. -/
  aliases : Assoc ByteText ByteText
  /-- The names being replaced, each with the length of the text after the replacement. -/
  replacing : List (ByteText × Nat)
  /-- The length of the text after a replacement that ends with a blank: the next word is replaced
  as well. -/
  spreads : Option Nat

/-- A reader: a value and what is left, or the fault with the line it was found on. -/
abbrev Reader := StateT Cursor (Except (Nat × Fault))

/-- Give up on the text. -/
def refuse {α : Type} (fault : Fault) : Reader α := do throw ((← get).line, fault)

/-- The text that is left. -/
def peek : Reader ByteText := do return (← get).rest

/-- Pass over one character. -/
def advance : Reader Unit := modify fun cursor =>
  match cursor.rest with
  | [] => cursor
  | c :: rest => { cursor with rest, line := if c = '\n' then cursor.line + 1 else cursor.line }

/-- Pass over the character that says what an expansion does, though it says nothing; a line that it
ends is not counted. -/
def passSign : Reader Unit := modify fun cursor => { cursor with rest := cursor.rest.tail }

/-- Pass over `n` characters. -/
def advanceBy : Nat → Reader Unit
  | 0 => pure ()
  | n + 1 => do advance; advanceBy n

/-- Pass over line ends after a backslash: they join lines. -/
def joinLines : Nat → Reader Unit
  | 0 => pure ()
  | fuel + 1 => do
    match ← peek with
    | '\\' :: '\n' :: _ => advanceBy 2; joinLines fuel
    | _ => pure ()

/-- The next character, when lines are joined. -/
def peekChar (fuel : Nat) : Reader (Option Char) := do
  joinLines fuel
  return (← peek).head?

/-- Does this character come next? If so, pass over it. -/
def accept (fuel : Nat) (c : Char) : Reader Bool := do
  if (← peekChar fuel) = some c then
    advance
    return true
  else return false

/-- The opening brace. -/
def openBrace : Char := Char.ofNat 123

/-- The closing brace. -/
def closeBrace : Char := Char.ofNat 125

/-- The old quote for command output. -/
def backQuote : Char := Char.ofNat 96

/-- Pass over the characters that satisfy `p`, and return them. -/
def readWhile (p : Char → Bool) : Nat → Reader ByteText
  | 0 => return []
  | fuel + 1 => do
    match ← peekChar fuel with
    | some c =>
      if p c then do
        advance
        return c :: (← readWhile p fuel)
      else return []
    | none => return []

/-- A character that ends a word. -/
def endsWord (c : Char) : Bool :=
  c = ' ' || c = '\t' || c = '\n' || c = ';' || c = '&' || c = '|' || c = '(' || c = ')' || c = '<'
    || c = '>'

/-- The reserved words. -/
def reservedWords : List String :=
  ["!", "case", "do", "done", "elif", "else", "esac", "fi", "for", "if", "in", "then", "until",
    "while", String.singleton openBrace, String.singleton closeBrace]

/-- The text of a word that is all unquoted text. -/
def literal? : List Part → Option ByteText
  | [.text false chars] => some chars
  | _ => none

/-- The name of a token in a complaint. -/
def Token.describe : Token → String
  | eof => "end of file"
  | newline => "newline"
  | mark text => "\"" ++ text ++ "\""
  | redirect .. => "redirection"
  | word .. => "word"
  | reserved text => "\"" ++ text ++ "\""

/-- Can a list of commands end before this token? -/
def Token.endsList : Token → Bool
  | eof => true
  | mark text => text = ")" || text = ";;"
  | reserved text =>
    text ∈ ["do", "done", "elif", "else", "esac", "fi", "then", String.singleton closeBrace]
  | _ => false

/-- Add a part to a word, joined to the part before if both are alike. -/
def addPart (part : Part) : List Part → List Part
  | .text quoted chars :: rest =>
    match part with
    | .text quoted' chars' =>
      if quoted' = quoted then .text quoted (chars' ++ chars) :: rest
      else part :: .text quoted chars :: rest
    | _ => part :: .text quoted chars :: rest
  | rest => part :: rest

/-- Remove the quoting from a word without expansions: the characters as they stand. -/
def plainText (parts : List Part) : ByteText :=
  parts.flatMap fun part =>
    match part with
    | .text _ chars => chars
    | .param _ name _ _ => '$' :: name
    | _ => []

/-- Where the parts of a word end. -/
inductive Ending where
  /-- Before a character that ends words. -/
  | word
  /-- Before the closing double quote. -/
  | quote
  /-- Before the closing brace of an expansion, which may stand between double quotes. -/
  | brace (quoted : Bool)
  /-- At the end of the text. -/
  | text
  deriving DecidableEq, Repr

/-- Is the text before this ending read as between double quotes? -/
def Ending.quoted : Ending → Bool
  | word => false
  | quote => true
  | brace quoted => quoted
  | text => true

/-- Does a backslash before this character keep it, where text is read as between double quotes? -/
def Ending.keeps (ending : Ending) (c : Char) : Bool :=
  c = '\\' || c = '$' || c = backQuote || (c = '"' && ending ≠ .text)
    || (c = closeBrace && ending = .brace true)

/-- The text of a command between back quotes, which ends before the next back quote; a backslash
keeps a few characters. -/
def backQuoted (quoted : Bool) : Nat → Reader ByteText
  | 0 => refuse .exhausted
  | fuel + 1 => do
    match ← peek with
    | [] => refuse .openBackQuote
    | '\\' :: '\n' :: _ => advanceBy 2; backQuoted quoted fuel
    | '\\' :: c :: _ => do
      advanceBy 2
      let later ← backQuoted quoted fuel
      if c = '\\' ∨ c = '$' ∨ c = backQuote ∨ (quoted ∧ c = '"') then return c :: later
      else return '\\' :: c :: later
    | c :: _ => do
      advance
      if c = backQuote then return []
      else return c :: (← backQuoted quoted fuel)

/-- The lines of a text up to its delimiter. Where expansions are read, a backslash at the end of a
line joins the next one to it, which then counts as a part of the line (`continued`). -/
def documentLines (wanted : Awaited) (continued : Bool) : Nat → Reader ByteText
  | 0 => refuse .exhausted
  | fuel + 1 => do
    let text ← peek
    if text.isEmpty then return []
    let raw := text.takeWhile (· ≠ '\n')
    let line := if wanted.stripped && !continued then raw.dropWhile (· = '\t') else raw
    advanceBy (raw.length + 1)
    if line = wanted.delimiter ∧ !continued then return []
    else
      let ended := if raw.length < text.length then ['\n'] else []
      let joins := (line.reverse.takeWhile (· = '\\')).length % 2 = 1
      return line ++ ended ++ (← documentLines wanted (wanted.expanded && joins) fuel)

/-- Does the text start right after a replacement that ends with a blank? -/
def afterBlank : Nat → Reader Bool
  | 0 => return false
  | fuel + 1 => do
    match (← get).spreads with
    | none => return false
    | some length => do
      let _ ← readWhile (fun c => c = ' ' || c = '\t') fuel
      if length < (← peek).length then return false
      else do
        modify fun cursor => { cursor with spreads := none }
        return true

/-- Give up on the text because of a token. -/
def unexpected {α : Type} (found : Token) (expected : Option String) : Reader α :=
  refuse (.unexpected found.describe expected)

mutual

/-- The parts of a word up to its ending. Inside braces between double quotes `inner` is set between
further double quotes, where a closing brace is text. -/
def parts : Nat → Ending → Bool → Reader (List Part)
  | 0, _, _ => refuse .exhausted
  | fuel + 1, ending, inner => do
    let quoted := ending.quoted
    match ← peekChar fuel with
    | none =>
      match ending with
      | .word | .text => return []
      | .quote | .brace true => refuse .openQuote
      | .brace false => refuse .openBrace
    | some c =>
      if ending = .word ∧ endsWord c then return []
      else if ending = .quote ∧ c = '"' then return []
      else if ending = .brace quoted ∧ c = closeBrace ∧ !inner then return []
      else if ending = .brace true ∧ c = '"' then do
        advance
        return addPart (.text true []) (← parts fuel ending !inner)
      else do
        advance
        let found ← if c = '$' then dollar fuel quoted
          else if c = backQuote then do
            let text ← backQuoted quoted fuel
            pure [.output quoted (← nested fuel text)]
          else if c = '\\' then do
            match ← peek with
            | [] => pure [.text true ['\\']]
            | d :: _ => do
              advance
              pure [.text true (if quoted && !ending.keeps d then ['\\', d] else [d])]
          else if c = '\'' && !quoted then do
            let body := (← peek).takeWhile (· ≠ '\'')
            advanceBy body.length
            if (← peek).isEmpty then refuse .openQuote
            advance
            pure [.text true body]
          else if c = '"' && !quoted then do
            let inside ← parts fuel .quote false
            advance
            match inside with
            -- all parameters between quotes make fields of their own, or none
            | [.param true ['@'] .plain []] => pure inside
            | _ => pure (addPart (.text true []) inside)
          else pure [.text quoted [c]]
        let later ← parts fuel ending inner
        return found.foldr addPart later

/-- The expansion after a dollar sign; without one the sign is text. -/
def dollar : Nat → Bool → Reader (List Part)
  | 0, _ => refuse .exhausted
  | fuel + 1, quoted => do
    match ← peekChar fuel with
    | none => return [.text quoted ['$']]
    | some c =>
      if c = '(' then do
        advance
        if ← accept fuel '(' then
          return [.arith quoted (← arithmetic fuel 0)]
        else do
          let outer ← get
          set { outer with awaited := [] }
          let body ← list fuel .inner
          match ← token fuel false false false with
          | .mark ")" => do
            modify fun inner => { inner with awaited := outer.awaited ++ inner.awaited }
            return [.output quoted body]
          | found => unexpected found (some "\")\"")
      else if c = openBrace then do
        advance
        braced fuel quoted
      else if isSpecial c then do advance; return [.param quoted [c] .plain []]
      else if isNameChar c then return [.param quoted (← readWhile isNameChar fuel) .plain []]
      else return [.text quoted ['$']]

/-- The expansion after an opening brace. -/
def braced : Nat → Bool → Reader (List Part)
  | 0, _ => refuse .exhausted
  | fuel + 1, quoted => do
    let start ← peekChar fuel
    match start with
    | none => if quoted then refuse .openQuote else refuse .openBrace
    | some c =>
      let name ← if c.isDigit then readWhile Char.isDigit fuel
        else if isNameChar c then readWhile isNameChar fuel
        else if isSpecial c then do advance; pure [c]
        else pure []
      let next ← peekChar fuel
      -- a number sign before a name asks for the number of characters, alone it is a parameter
      let counted : Bool := name = ['#'] && next.any fun d => isNameChar d || isSpecial d
      if counted then
        let text ← peek
        let special := next.any fun d => isSpecial d && !d.isDigit
        -- after the number sign a special character has to stand alone to be counted
        if special && text.tail.head? ≠ some closeBrace then
          operation fuel quoted name
        else do
          let name ← match next with
            | some d =>
              if d.isDigit then readWhile Char.isDigit fuel
              else if isNameChar d then readWhile isNameChar fuel
              else do advance; pure [d]
            | none => pure []
          if ← accept fuel closeBrace then return [.param quoted name .length []]
          else badly fuel quoted
      else if name.isEmpty then do
        if c ≠ closeBrace then passSign
        badly fuel quoted
      else operation fuel quoted name

/-- The rest of an expansion after the parameter's name. -/
def operation : Nat → Bool → ByteText → Reader (List Part)
  | 0, _, _ => refuse .exhausted
  | fuel + 1, quoted, name => do
    let empty ← accept fuel ':'
    let op : ParamOp ← match ← peekChar fuel with
      | some '-' => do advance; pure (.instead empty)
      | some '+' => do advance; pure (.given empty)
      | some '=' => do advance; pure (.assign empty)
      | some '?' => do advance; pure (.require empty)
      | some '#' =>
        if empty then pure .bad
        else do advance; pure (.without true (← accept fuel '#'))
      | some '%' =>
        if empty then pure .bad
        else do advance; pure (.without false (← accept fuel '%'))
      | some c => if c = closeBrace then pure .plain else pure .bad
      | none => if quoted then refuse .openQuote else refuse .openBrace
    match op with
    | .bad => do
      passSign
      badly fuel quoted
    | .plain => do
      advance
      -- after a colon alone the text goes on to another brace
      let later ← if empty then do
          let word ← parts fuel (.brace quoted) false
          advance
          pure word
        else pure []
      return .param quoted name .plain [] :: later
    | .without .. => do
      -- a pattern is read as outside of quotes
      let word ← parts fuel (.brace false) false
      advance
      return [.param quoted name op word]
    | _ => do
      let word ← parts fuel (.brace quoted) false
      advance
      return [.param quoted name op word]

/-- The rest of an expansion that is none. -/
def badly : Nat → Bool → Reader (List Part)
  | 0, _ => refuse .exhausted
  | fuel + 1, quoted => do
    let word ← parts fuel (.brace quoted) false
    advance
    return [.param quoted [] .bad word]

/-- An arithmetic expression up to its two closing parentheses; `depth` of its own are open. -/
def arithmetic : Nat → Nat → Reader (List Part)
  | 0, _ => refuse .exhausted
  | fuel + 1, depth => do
    match ← peekChar fuel with
    | none => refuse .openArithmetic
    | some c => do
      advance
      let ends ← if c = ')' ∧ depth = 0 then accept fuel ')' else pure false
      if ends then return []
      else do
        let found ← if c = '$' then dollar fuel true
          else if c = backQuote then do
            let text ← backQuoted true fuel
            pure [.output true (← nested fuel text)]
          else if c = '\\' then do
            match ← peek with
            | d :: _ => do
              advance
              pure [.text true (if Ending.keeps .quote d then [d] else ['\\', d])]
            | [] => pure [.text true ['\\']]
          else pure [.text true [c]]
        let depth := if c = '(' then depth + 1 else if c = ')' then depth - 1 else depth
        let later ← arithmetic fuel depth
        return found.foldr addPart later

/-- The commands of a text of its own. -/
def nested : Nat → ByteText → Reader (List Command)
  | 0, _ => refuse .exhausted
  | fuel + 1, text => do
    let outer ← get
    set { outer with rest := text, line := 1, ahead := none, awaited := [] }
    let body ← list fuel .inner
    modify fun inner =>
      { inner with
        rest := outer.rest, line := outer.line, ahead := outer.ahead, awaited := outer.awaited,
        replacing := outer.replacing, spreads := outer.spreads }
    return body

/-- The texts that were asked for on a line that has ended. -/
def readDocuments : Nat → Reader Unit
  | 0 => refuse .exhausted
  | fuel + 1 => do
    match (← get).awaited with
    | [] => pure ()
    | wanted :: more => do
      modify fun cursor => { cursor with awaited := more }
      let body ← documentLines wanted false fuel
      let content ← if wanted.expanded then do
          let outer ← get
          set { outer with rest := body }
          let content ← parts fuel .text false
          modify fun inner => { inner with rest := outer.rest, line := outer.line }
          pure content
        else pure [.text true body]
      modify fun cursor =>
        { cursor with documents := Assoc.insert wanted.number content cursor.documents }
      readDocuments fuel

/-- The next token. Reserved words and replaced names count only where they are asked for, and ends
of lines are passed over with `lines`. -/
def token : Nat → Bool → Bool → Bool → Reader Token
  | 0, _, _, _ => refuse .exhausted
  | fuel + 1, lines, reserved, asked => do
    let (found, aliases) ← match (← get).ahead with
      | some found => do
        modify fun cursor => { cursor with ahead := none }
        pure (found, asked)
      | none => do
        let spread ← afterBlank fuel
        pure (← freshToken fuel, asked || spread)
    match found with
    | .newline =>
      if lines then do
        readDocuments fuel
        token fuel lines reserved aliases
      else return .newline
    | .word word false =>
      match literal? word with
      | none => return found
      | some text =>
        if reserved && String.ofList text ∈ reservedWords then
          return .reserved (String.ofList text)
        else if aliases then do
          let cursor ← get
          let busy := cursor.replacing.any fun entry =>
            entry.1 = text && entry.2 < cursor.rest.length + 1
          match Assoc.get? text cursor.aliases with
          | some value =>
            if busy then return found
            else do
              let blank := value.getLast?.any fun c => c = ' ' || c = '\t'
              set { cursor with
                rest := value ++ cursor.rest
                replacing := (text, cursor.rest.length) :: cursor.replacing
                spreads := if blank then some cursor.rest.length else cursor.spreads }
              token fuel lines reserved aliases
          | none => return found
        else return found
    | _ => return found

/-- The next token of the text. -/
def freshToken : Nat → Reader Token
  | 0 => refuse .exhausted
  | fuel + 1 => do
    match ← peekChar fuel with
    | none => return .eof
    | some c =>
      let double (mark : String) : Reader Token := do
        advance
        if ← accept fuel c then return .mark (mark ++ mark) else return .mark mark
      match c with
      | ' ' | '\t' => do advance; freshToken fuel
      | '#' => do
        advanceBy ((← peek).takeWhile (· ≠ '\n')).length
        freshToken fuel
      | '\n' => do advance; return .newline
      | '&' => double "&"
      | '|' => double "|"
      | ';' => double ";"
      | '(' => do advance; return .mark "("
      | ')' => do advance; return .mark ")"
      | '<' | '>' => redirection fuel none
      | _ =>
        match ← peek with
        | d :: e :: _ =>
          if d.isDigit ∧ (e = '<' ∨ e = '>') then do
            advance
            redirection fuel (some (d.toNat - 48))
          else wordToken fuel
        | _ => wordToken fuel

/-- A word of the text. -/
def wordToken : Nat → Reader Token
  | 0 => refuse .exhausted
  | fuel + 1 => do
    let word ← parts fuel .word false
    let quoted := word.any fun part =>
      match part with
      | .text quoted _ => quoted
      | .param quoted .. => quoted
      | .arith quoted _ => quoted
      | .output quoted _ => quoted
    return .word word quoted

/-- An operator of redirection, with the descriptor before it. -/
def redirection : Nat → Option Nat → Reader Token
  | 0, _ => refuse .exhausted
  | fuel + 1, given => do
    if ← accept fuel '>' then
      let descriptor := given.getD 1
      if ← accept fuel '>' then return .redirect descriptor .append
      else if ← accept fuel '|' then return .redirect descriptor (.write true)
      else if ← accept fuel '&' then return .redirect descriptor .copy
      else return .redirect descriptor (.write false)
    else do
      let _ ← accept fuel '<'
      let descriptor := given.getD 0
      if ← accept fuel '<' then return .redirect descriptor (.document (← accept fuel '-'))
      else if ← accept fuel '&' then return .redirect descriptor .copy
      else if ← accept fuel '>' then return .redirect descriptor .both
      else return .redirect descriptor .read

/-- Where a redirection leads. -/
def target : Nat → Direction → Reader Target
  | 0, _ => refuse .exhausted
  | fuel + 1, direction => do
    match ← token fuel false false false with
    | .word word quoted =>
      match direction with
      | .write forced => return .write forced word
      | .append => return .append word
      | .read => return .read word
      | .both => return .both word
      | .copy => return .copy word
      | .document stripped => do
        let cursor ← get
        let wanted : Awaited := ⟨cursor.asked, plainText word, stripped, !quoted⟩
        set { cursor with awaited := cursor.awaited ++ [wanted], asked := cursor.asked + 1 }
        return .document wanted.number
    | found => unexpected found none

/-- Use a token again. -/
def pushBack (found : Token) : Reader Unit :=
  modify fun cursor => { cursor with ahead := some found }

/-- The redirections after a command. -/
def redirections : Nat → Reader (List Redirection)
  | 0 => refuse .exhausted
  | fuel + 1 => do
    match ← token fuel false true true with
    | .redirect descriptor direction => do
      let place ← target fuel direction
      return (descriptor, place) :: (← redirections fuel)
    | found => do
      pushBack found
      return []

/-- The rest of a simple command. Assignments come before the first word; a bracket after a single
word makes it the definition of a function. -/
def simple : Nat → Nat → List (ByteText × List Part) → List (List Part) → List Redirection →
    Reader Command
  | 0, _, _, _, _ => refuse .exhausted
  | fuel + 1, line, assigns, words, redirs => do
    match ← token fuel false false words.isEmpty with
    | .word word _ =>
      match words, word with
      | [], .text false chars :: more =>
        let name := chars.takeWhile isNameChar
        match isName name, chars.drop name.length with
        | true, '=' :: value =>
          let value := if value.isEmpty then more else .text false value :: more
          simple fuel line (assigns ++ [(name, value)]) words redirs
        | _, _ => simple fuel line assigns [.text false chars :: more] redirs
      | _, _ => simple fuel line assigns (words ++ [word]) redirs
    | .redirect descriptor direction => do
      let place ← target fuel direction
      simple fuel line assigns words (redirs ++ [(descriptor, place)])
    | .mark "(" =>
      match assigns, words, redirs with
      | [], [word], [] => do
        match ← token fuel false false false with
        | .mark ")" => pure ()
        | found => unexpected found (some "\")\"")
        match literal? word with
        | some name =>
          if !isName name ∨ String.ofList name ∈ specialNames then refuse .badFunctionName
          else do
            let first ← token fuel true true true
            pushBack first
            return .define name (← command fuel)
        | none => refuse .badFunctionName
      | _, _, _ => do
        pushBack (.mark "(")
        return .simple line assigns words redirs
    | found => do
      pushBack found
      return .simple line assigns words redirs

/-- Take a token that has to come next. -/
def expect : Nat → String → Reader Unit
  | 0, _ => refuse .exhausted
  | fuel + 1, wanted => do
    match ← token fuel false false false with
    | .reserved text => if text = wanted then pure () else
        unexpected (.reserved text) (some ("\"" ++ wanted ++ "\""))
    | .mark text => if text = wanted then pure () else
        unexpected (.mark text) (some ("\"" ++ wanted ++ "\""))
    | found => unexpected found (some ("\"" ++ wanted ++ "\""))

/-- The branches of a conditional after its first word. -/
def branches : Nat → List (Command × Command) → Reader Command
  | 0, _ => refuse .exhausted
  | fuel + 1, arms => do
    let condition ← list fuel .body
    expect fuel "then"
    let body ← list fuel .body
    let arms := arms ++ [(.sequence condition, .sequence body)]
    match ← token fuel false false false with
    | .reserved "elif" => branches fuel arms
    | .reserved "else" => do
      let otherwise ← list fuel .body
      expect fuel "fi"
      return .branch arms (some (.sequence otherwise))
    | found => do
      pushBack found
      expect fuel "fi"
      return .branch arms none

/-- The patterns of one arm of a selection, of which the first token was read. -/
def patterns : Nat → Token → Reader (List (List Part))
  | 0, _ => refuse .exhausted
  | fuel + 1, first => do
    let pattern ← match first with
      | .word word _ => pure word
      | .reserved text => pure [.text false text.toList]
      -- what follows another token is at fault, not the token itself
      | _ => pure []
    match ← token fuel false false false with
    | .mark "|" => do
      let next ← token fuel false false false
      return pattern :: (← patterns fuel next)
    | .mark ")" => return [pattern]
    | found => unexpected found (some "\")\"")

/-- The arms of a selection. -/
def arms : Nat → Reader (List (List (List Part) × Command))
  | 0 => refuse .exhausted
  | fuel + 1 => do
    match ← token fuel true true false with
    | .reserved "esac" => return []
    | found => do
      let first ← match found with
        | .mark "(" => token fuel false false false
        | found => pure found
      let matched ← patterns fuel first
      let body ← list fuel .inner
      match ← token fuel true true false with
      | .reserved "esac" => return [(matched, .sequence body)]
      | .mark ";;" => return (matched, .sequence body) :: (← arms fuel)
      | found => unexpected found (some "\";;\"")

/-- The words of a loop over words, up to the end of the line or a semicolon. -/
def loopWords : Nat → Reader (List (List Part))
  | 0 => refuse .exhausted
  | fuel + 1 => do
    match ← token fuel false false false with
    | .word word _ => return word :: (← loopWords fuel)
    | .newline => do
      readDocuments fuel
      return []
    | .mark ";" => return []
    | found => unexpected found none

/-- A command without `|`, `&&` and `||`. -/
def command : Nat → Reader Command
  | 0 => refuse .exhausted
  | fuel + 1 => do
    let first ← token fuel false false false
    let line := (← get).line
    let withRedirections (found : Command) : Reader Command := do
      match ← redirections fuel with
      | [] => return found
      | redirs => return .redirected line found redirs
    match first with
    | .reserved "if" => do withRedirections (← branches fuel [])
    | .reserved "while" => do withRedirections (← loop fuel false)
    | .reserved "until" => do withRedirections (← loop fuel true)
    | .reserved "for" => do
      let name ← match ← token fuel false false false with
        | .word [.text false name] _ => if isName name then pure name else refuse .badLoopName
        | _ => refuse .badLoopName
      let words ← match ← token fuel true true true with
        | .reserved "in" => pure (some (← loopWords fuel))
        | .mark ";" => pure none
        | found => do
          pushBack found
          pure none
      let next ← token fuel true true true
      pushBack next
      expect fuel "do"
      let body ← list fuel .body
      expect fuel "done"
      withRedirections (.each line name words (.sequence body))
    | .reserved "case" => do
      match ← token fuel false false false with
      | .word word _ => do
        let next ← token fuel true true true
        pushBack next
        expect fuel "in"
        withRedirections (.select line word (← arms fuel))
      | found => unexpected found (some "word")
    | .mark "(" => do
      let body ← list fuel .body
      expect fuel ")"
      return .subshell line (.sequence body) (← redirections fuel)
    | .reserved text =>
      if text = String.singleton openBrace then do
        let body ← list fuel .body
        expect fuel (String.singleton closeBrace)
        withRedirections (.sequence body)
      else unexpected (.reserved text) none
    | .word .. | .redirect .. => do
      pushBack first
      simple fuel line [] [] []
    | found => unexpected found none

/-- The condition and body of a loop. -/
def loop : Nat → Bool → Reader Command
  | 0, _ => refuse .exhausted
  | fuel + 1, inverted => do
    let condition ← list fuel .body
    expect fuel "do"
    let body ← list fuel .body
    expect fuel "done"
    return .loop inverted (.sequence condition) (.sequence body)

/-- Commands joined by `|`, or the opposite of them. -/
def pipe : Nat → Reader Command
  | 0 => refuse .exhausted
  | fuel + 1 => do
    let first ← token fuel false false false
    match first with
    | .reserved "!" => do
      let next ← token fuel false true true
      pushBack next
      return .negate (← stages fuel [])
    | _ => do
      pushBack first
      stages fuel []

/-- The stages of a pipeline after the given ones. -/
def stages : Nat → List Command → Reader Command
  | 0, _ => refuse .exhausted
  | fuel + 1, before => do
    let found := before ++ [← command fuel]
    match ← token fuel false false false with
    | .mark "|" => do
      let next ← token fuel true true true
      pushBack next
      stages fuel found
    | next => do
      pushBack next
      match found with
      | [only] => return only
      | _ => return .pipeline found

/-- Commands joined by `&&` and `||`, from the left; `left` comes before them. -/
def joined : Nat → Command → Reader Command
  | 0, _ => refuse .exhausted
  | fuel + 1, left => do
    let operator ← token fuel false false false
    match operator with
    | .mark "&&" | .mark "||" => do
      let next ← token fuel true true true
      pushBack next
      let right ← pipe fuel
      match operator with
      | .mark "&&" => joined fuel (.both left right)
      | _ => joined fuel (.either left right)
    | found => do
      pushBack found
      return left

/-- Commands one after the other, as far as the place allows. -/
def list : Nat → Place → Reader (List Command)
  | 0, _ => refuse .exhausted
  | fuel + 1, place => do
    match ← token fuel (place ≠ .line) true true with
    | .newline => do
      readDocuments fuel
      return []
    | .eof => do
      readDocuments fuel
      pushBack .eof
      return []
    | first => do
      pushBack first
      if place = .inner ∧ first.endsList then return []
      let found ← joined fuel (← pipe fuel)
      -- after its first command a list may end
      let place := if place = .body then .inner else place
      match ← token fuel false false false with
      | .mark "&" => return .background found :: (← list fuel place)
      | .mark ";" => return found :: (← list fuel place)
      | .newline => do
        pushBack .newline
        return found :: (← list fuel place)
      | .eof => do
        readDocuments fuel
        pushBack .eof
        return [found]
      | next => do
        if place = .line then unexpected next none
        pushBack next
        return [found]

end

/-- A reader of one complete command; nothing at the end of the script. -/
def next (fuel : Nat) : Reader (Option (List Command)) := do
  match ← token fuel false true true with
  | .eof => return none
  | found => do
    pushBack found
    return some (← list fuel .line)

/-- The start of a script. The texts to follow lines are numbered from `asked`. -/
def Cursor.start (text : ByteText) (asked : Nat) : Cursor :=
  ⟨text, 1, none, [], [], asked, [], [], none⟩

/-- A bound on the steps that one command takes. -/
def stepLimit (cursor : Cursor) : Nat := 8 * cursor.rest.length + 100

end JuliaSession.Shell.Parse
