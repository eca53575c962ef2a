import JuliaSession.Json.Print
import JuliaSession.Json.Read
import JuliaSession.Text.Blank
import JuliaSession.Text.Utf8

/-!
# Framing

Messages on a byte stream. A message is written as header lines, the first of them its length in
bytes, a blank line, and its JSON text. `Reader` takes the bytes as they come and gives the bodies
back one by one.

A reader trusts the first line of a frame: if it does not give a length, the length is unknown, and
everything up to the end of the stream is one body. A length that is no number makes the reader give
the body before it once more and go on with the next line; without a body before it, reading is
over.
-/

namespace JuliaSession

open Text.Utf8 (Bytes)

namespace Framing

/-- The escape of a UTF-16 unit. -/
def unitEscape (unit : Nat) : List Char := '\\' :: 'u' :: Text.hexFixed 4 unit

/-- One character inside a string that is written in ASCII; a slash is escaped too. -/
def asciiEscape (c : Char) : List Char :=
  let n := c.toNat
  if c = '/' then ['\\', '/']
  else if n < 128 then Json.escapeChar c
  else if n < 0x10000 then unitEscape n
  else unitEscape (0xD800 + (n - 0x10000) / 1024) ++ unitEscape (0xDC00 + (n - 0x10000) % 1024)

/-- JSON as it is sent: on one line, without spaces and in ASCII. -/
def wireStyle : Json.Style :=
  { Json.Style.compact with
    numbers := .wire, quote := fun cs => '"' :: cs.flatMap asciiEscape ++ ['"'] }

/-- What the length stands after. -/
def lengthHeader : String := "Content-Length: "

/-- The frame of a body. -/
def frame (body : List Char) : List Char :=
  (lengthHeader ++ toString (Text.Utf8.encodeChars body).length
    ++ "\r\nContent-Type: application/vscode-jsonrpc; charset=utf8\r\n\r\n").toList ++ body

/-- A message as it is sent. -/
def encode (message : Json) : Bytes :=
  Text.Utf8.encodeChars (frame (Json.write wireStyle 0 message))

/-- The message in a body, if it holds one. -/
def decode (body : Bytes) : Option Json :=
  (Text.Utf8.decodeChars? body).bind fun cs => (Json.readWith .message cs).toOption

/-- White space between the words of a header. -/
def isHeaderBlank (b : UInt8) : Bool := b = 32 || (9 ≤ b && b ≤ 13)

/-- A header without the white space around it. -/
def stripHeader (bytes : Bytes) : Bytes :=
  Text.dropRightWhile isHeaderBlank (bytes.dropWhile isHeaderBlank)

/-- Is a byte a decimal digit? -/
def isDigit (b : UInt8) : Bool := 48 ≤ b && b ≤ 57

/-- The number that digits say; single underscores may stand between them. -/
def readDigits : Option Nat → Bytes → Option Nat
  | value, [] => value
  | value, b :: rest =>
    if isDigit b then readDigits (some (value.getD 0 * 10 + (b.toNat - 48))) rest
    else if b = 95 && value.isSome then
      match rest with
      | c :: _ => if isDigit c then readDigits value rest else none
      | [] => none
    else none

/-- The whole number that a header says, with or without a sign. -/
def readWhole (bytes : Bytes) : Option Int :=
  match stripHeader bytes with
  | 43 :: rest => (readDigits none rest).map Int.ofNat
  | 45 :: rest => (readDigits none rest).map fun n => -(n : Int)
  | digits => (readDigits none digits).map Int.ofNat

/-- The rest of `bytes` after `start`. -/
def afterStart? : Bytes → Bytes → Option Bytes
  | [], bytes => some bytes
  | _ :: _, [] => none
  | s :: start, b :: bytes => if s = b then afterStart? start bytes else none

/-- Do the bytes hold the length header somewhere? -/
def holdsHeader : Bytes → Bool
  | [] => false
  | b :: rest =>
    (afterStart? (Text.Utf8.encode lengthHeader) (b :: rest)).isSome || holdsHeader rest

/-- What the first line of a frame says about the length of the body. -/
inductive Length where
  /-- The body has this many bytes. -/
  | bytes (count : Nat)
  /-- The body goes on to the end of the stream. -/
  | unknown
  /-- The line promises a length and gives none. -/
  | invalid
  deriving DecidableEq, Repr

/-- Read the first line of a frame. A negative length counts as unknown. -/
def lengthOf (line : Bytes) : Length :=
  match afterStart? (Text.Utf8.encode lengthHeader) line with
  | none => .unknown
  | some value =>
    -- the header once more in its own value: neither part is the length
    if holdsHeader value ∨ Json.digitLimit < value.countP isDigit then .invalid
    else
      match readWhole value with
      | none => .invalid
      | some (.ofNat count) => .bytes count
      | some (.negSucc _) => .unknown

end Framing

/-- Reads frames from a byte stream. -/
structure Reader where
  /-- What has come and was not read. -/
  buffer : Bytes := []
  /-- The last body that was read. -/
  last : Option Bytes := none
  deriving Inhabited

namespace Reader

/-- What the next frame of a stream is. -/
inductive Frame where
  /-- It has not come as a whole. -/
  | incomplete
  /-- A body, and what comes after it. -/
  | body (body rest : Bytes)
  /-- A line with a length that is no number, and what comes after it. -/
  | invalid (rest : Bytes)
  /-- There is none; the stream has ended. -/
  | none
  deriving DecidableEq, Repr

/-- The first line with its line feed, and what comes after it. When the stream is `closed` the last
line may lack its line feed. -/
def takeLine (closed : Bool) (bytes : Bytes) : Option (Bytes × Bytes) :=
  match bytes.span (· ≠ 10) with
  | (line, feed :: rest) => some (line ++ [feed], rest)
  | (line, []) => if closed then some (line, []) else none

/-- What comes after the blank line that ends the headers; `none` inside says that the stream ended
before it. `limit` bounds the number of lines. -/
def skipHeaders (closed : Bool) : Nat → Bytes → Bytes → Option (Option Bytes)
  | 0, _, _ => some Option.none
  | limit + 1, line, rest =>
    if line.isEmpty then some Option.none
    else if (Framing.stripHeader line).isEmpty then some (some rest)
    else
      match takeLine closed rest with
      | Option.none => Option.none
      | some (line, rest) => skipHeaders closed limit line rest

/-- The next frame of a stream, of which `bytes` have come; `closed` says that no more will come. -/
def nextFrame (closed : Bool) (bytes : Bytes) : Frame :=
  match takeLine closed bytes with
  | Option.none => .incomplete
  | some ([], _) => .none
  | some (line, rest) =>
    match Framing.lengthOf line with
    | .invalid => .invalid rest
    | length =>
      match skipHeaders closed (bytes.length + 1) line rest with
      | Option.none => .incomplete
      | some Option.none => .none
      | some (some rest) =>
        match length with
        | .bytes count =>
          if count ≤ rest.length ∨ closed then .body (rest.take count) (rest.drop count)
          else .incomplete
        | _ => if closed then .body rest [] else .incomplete

/-- How reading stands. -/
inductive Outlook where
  /-- More may come. -/
  | waiting
  /-- The stream has ended. -/
  | ended
  /-- The stream cannot be read any further. -/
  | broken
  deriving DecidableEq, Repr

/-- Read the frames that have come; the result are the messages in them, the reader after them and
how reading stands. Bodies that hold no message are dropped. -/
def drainWith (closed : Bool) : Nat → Reader → List Json × Reader × Outlook
  | 0, reader => ([], reader, .waiting)
  | limit + 1, reader =>
    match nextFrame closed reader.buffer with
    | .incomplete => ([], reader, .waiting)
    | .none => ([], reader, .ended)
    | .body body rest =>
      let (messages, reader, outlook) := drainWith closed limit ⟨rest, some body⟩
      ((Framing.decode body).toList ++ messages, reader, outlook)
    | .invalid rest =>
      match reader.last with
      | Option.none => ([], ⟨rest, Option.none⟩, .broken)
      -- the body before stands in for the one whose length is unknown
      | some body =>
        let (messages, reader, outlook) := drainWith closed limit ⟨rest, some body⟩
        ((Framing.decode body).toList ++ messages, reader, outlook)

/-- Read the frames that have come. Every frame takes at least one byte, except that the end of the
stream is noticed when nothing is left. -/
def drain (closed : Bool) (reader : Reader) : List Json × Reader × Outlook :=
  drainWith closed (reader.buffer.length + 1) reader

/-- The reader after more bytes have come. -/
def feed (reader : Reader) (bytes : Bytes) : Reader :=
  { reader with buffer := reader.buffer ++ bytes }

end Reader

end JuliaSession
