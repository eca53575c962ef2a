import JuliaSession.Path.Posix
import JuliaSession.Path.Drive
import JuliaSession.Text.Utf8
import JuliaSession.Json.Read
import JuliaSession.Uri.Authority

/-!
# File URIs

`Uri.ofPath` writes a path as a `file:` URI, percent-encoding the UTF-8 bytes of every character
that a path segment of a URI does not allow; `Uri.toPath` reads the path part of any URI back.
`encode` and `decode` are the two directions of percent-encoding.
-/

namespace JuliaSession.Uri

open JuliaSession.Text

/-- How the host writes paths. -/
inductive PathStyle where
  /-- Slash-separated paths. -/
  | posix
  /-- Backslash-separated paths with drives. -/
  | drive
  deriving DecidableEq, Repr

/-- Characters that stand for themselves in the path of a URI. -/
def isPlain (c : Char) : Bool :=
  c.isAlphanum || c = '_' || c = '.' || c = '-' || c = '~' || c = '/' || c = ':'

/-- An upper-case hexadecimal digit. -/
def hexDigit (n : Nat) : Char :=
  if n < 10 then Char.ofNat (48 + n) else Char.ofNat (55 + n)

/-- A byte as `%XX`. -/
def encodeByte (b : UInt8) : List Char :=
  ['%', hexDigit (b.toNat / 16), hexDigit (b.toNat % 16)]

/-- One character: plain, or its bytes. -/
def encodeChar (c : Char) : List Char :=
  if isPlain c then [c] else (Utf8.encodeChar c).flatMap encodeByte

/-- Percent-encode a text. -/
def encode (cs : List Char) : List Char := cs.flatMap encodeChar

/-- The bytes of an ASCII text in which `%XX` stands for a byte; any other `%` for itself. -/
def percentBytes : List Char → List UInt8
  | [] => []
  | '%' :: a :: b :: rest =>
    match Json.hexValue? a, Json.hexValue? b with
    | some x, some y => (x * 16 + y).toUInt8 :: percentBytes rest
    | _, _ => '%'.toUInt8 :: percentBytes (a :: b :: rest)
  | c :: rest => c.toUInt8 :: percentBytes rest
termination_by cs => cs.length

/-- Decode a text whose current run of ASCII characters, reversed, is `run`. Escapes are decoded
within one such run; other characters are kept. -/
def decodeFrom : List Char → List Char → List Char
  | run, [] => Utf8.decodeLossyChars (percentBytes run.reverse)
  | run, c :: rest =>
    if c.toNat < 128 then decodeFrom (c :: run) rest
    else Utf8.decodeLossyChars (percentBytes run.reverse) ++ c :: decodeFrom [] rest

/-- Undo percent-encoding; ill-formed UTF-8 becomes `U+FFFD`, a bad escape stays. -/
def decode (cs : List Char) : List Char := decodeFrom [] cs

/-- A letter, digit, `+`, `-` or `.`. -/
def isSchemeChar (c : Char) : Bool := c.isAlphanum || c = '+' || c = '-' || c = '.'

/-- The scheme of a URI in lower case, empty if there is none, and what follows its colon. -/
def splitScheme (cs : List Char) : List Char × List Char :=
  let scheme := cs.takeWhile (· ≠ ':')
  match cs, cs.drop scheme.length with
  | c :: _, _ :: rest =>
    if c.isAlpha && scheme.all isSchemeChar then (scheme.map Char.toLower, rest) else ([], cs)
  | _, _ => ([], cs)

/-- The schemes whose last path segment may carry parameters after a semicolon. -/
def parameterSchemes : List String :=
  ["", "ftp", "hdl", "prospero", "http", "imap", "https", "shttp", "rtsp", "rtsps", "rtspu", "sip",
    "sips", "mms", "sftp", "tel"]

/-- Cut a path before the first semicolon of its last segment. -/
def dropParameters (cs : List Char) : List Char :=
  let last := (cs.reverse.takeWhile (· ≠ '/')).reverse
  cs.take (cs.length - last.length) ++ last.takeWhile (· ≠ ';')

/-- The path part of a URI, still percent-encoded: without scheme, authority, query and fragment. -/
def pathPart (uri : String) : Except UriFault (List Char) := do
  -- blank and control characters around and inside a pasted address are dropped
  let cs := uri.toList.dropWhile fun c => c.toNat ≤ 32
  let cs := cs.filter fun c => c ≠ '\t' ∧ c ≠ '\r' ∧ c ≠ '\n'
  let (scheme, rest) := splitScheme cs
  -- the authority ends where a path, a query or a fragment starts
  let (authority, rest) := match rest with
    | '/' :: '/' :: rest => rest.span fun c => c ≠ '/' ∧ c ≠ '?' ∧ c ≠ '#'
    | _ => ([], rest)
  Authority.check authority
  -- the fragment is cut before the query: a `?` may stand inside it
  let path := (rest.takeWhile (· ≠ '#')).takeWhile (· ≠ '?')
  return if String.ofList scheme ∈ parameterSchemes then dropParameters path else path

/-- The `file:` URI of a path given in the directory `cwd`. -/
def ofPath (style : PathStyle) (cwd path : String) : String :=
  let absolute := match style with
    | .posix => Path.absoluteChars cwd.toList path.toList
    | .drive =>
      '/' :: (Path.Drive.absoluteChars cwd.toList path.toList).map
        fun c => if c = '\\' then '/' else c
  "file://" ++ String.ofList (encode absolute)

/-- The path that a URI names. -/
def toPath (style : PathStyle) (uri : String) : Except UriFault String := do
  let path := decode (← pathPart uri)
  match style with
  | .posix => return String.ofList (Path.normalizeChars path)
  | .drive =>
    let path := match path with
      -- the slash before the drive belongs to the URI
      | '/' :: rest => rest
      | _ => path
    return String.ofList (Path.Drive.normalizeChars path)

end JuliaSession.Uri
