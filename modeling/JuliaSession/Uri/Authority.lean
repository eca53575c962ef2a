import JuliaSession.Text.Quoted
import JuliaSession.Text.Split

/-!
# The authority of a URI

What stands between `//` and the path: user, host and port. `Authority.check` says whether it may
stand there. Brackets enclose the whole host and hold an IPv6 address or an address of a later
version; no character may hide a separator, as `℀` does, which is compatible with `a/c`.
-/

namespace JuliaSession.Uri

/-- Why a URI has no path. -/
inductive UriFault where
  /-- A bracket lacks its partner, or stands where no host begins or ends. -/
  | strayBracket
  /-- An address of a later version is not formed as one. -/
  | badFutureAddress
  /-- What should be an address is none. -/
  | notAnAddress (host : String)
  /-- An IPv4 address stands in brackets. -/
  | bracketedFour
  /-- A character hides a separator. -/
  | hiddenSeparator (authority : String)
  deriving DecidableEq, Repr

/-- The wording of a fault. -/
def UriFault.message : UriFault → String
  | strayBracket => "Invalid IPv6 URL"
  | badFutureAddress => "IPvFuture address is invalid"
  | notAnAddress host => Text.quoted host ++ " does not appear to be an IPv4 or IPv6 address"
  | bracketedFour => "An IPv4 address cannot be in brackets"
  | hiddenSeparator authority =>
    "netloc '" ++ authority ++ "' contains invalid characters under NFKC normalization"

namespace Authority

/-- The part before the first `c`, and the part after it if there is one. -/
def cut (c : Char) (cs : List Char) : List Char × Option (List Char) :=
  match cs.span (· ≠ c) with
  | (before, _ :: rest) => (before, some rest)
  | (before, []) => (before, none)

/-! ### Addresses -/

/-- A number up to 255 without leading zeros. -/
def isOctet (cs : List Char) : Bool :=
  !cs.isEmpty && cs.length ≤ 3 && cs.all Char.isDigit && (cs == ['0'] || cs.head? != some '0')
    && cs.foldl (fun n c => n * 10 + (c.toNat - 48)) 0 ≤ 255

/-- An IPv4 address. -/
def isFour (cs : List Char) : Bool :=
  let octets := Text.splitOnChar '.' cs
  octets.length == 4 && octets.all isOctet

/-- A hexadecimal digit. -/
def isHexDigit (c : Char) : Bool :=
  c.isDigit || ('a' ≤ c && c ≤ 'f') || ('A' ≤ c && c ≤ 'F')

/-- One to four hexadecimal digits. -/
def isGroup (cs : List Char) : Bool := !cs.isEmpty && cs.length ≤ 4 && cs.all isHexDigit

/-- The parts between colons, an IPv4 address at the end as the two groups that it stands for. -/
def parts (cs : List Char) : List (List Char) :=
  let parts := Text.splitOnChar ':' cs
  match parts.getLast? with
  | some last => if isFour last then parts.dropLast ++ [['0'], ['0']] else parts
  | none => parts

/-- The groups on one side of `::`; none are written as one empty part. -/
def areGroups (parts : List (List Char)) : Bool := parts == [[]] || parts.all isGroup

/-- Eight groups, or fewer with one `::` in place of those that are zero. -/
def isGroups (parts : List (List Char)) : Bool :=
  -- the gap is an empty part that is neither the first nor the last one
  match parts.drop 1 |>.dropLast.findIdx? List.isEmpty with
  | none => parts.length == 8 && parts.all isGroup
  | some n =>
    let before := parts.take (n + 1)
    let after := parts.drop (n + 2)
    areGroups before && areGroups after
      && ((before ++ after).filter fun part => !part.isEmpty).length ≤ 7

/-- An IPv6 address, with the name of a zone after a percent sign or without one. -/
def isSix (cs : List Char) : Bool :=
  match cut '%' cs with
  | (address, none) => isGroups (parts address)
  | (address, some zone) => !zone.isEmpty && '%' ∉ zone && isGroups (parts address)

/-- An address of a later version: `v`, hexadecimal digits, a point and something after it. -/
def isFuture (cs : List Char) : Bool :=
  match cut '.' (cs.drop 1) with
  | (version, some rest) => !version.isEmpty && version.all isHexDigit && !rest.isEmpty
  | (_, none) => false

/-- Check a host that has to be an address. -/
def checkAddress (host : List Char) : Except UriFault Unit :=
  if host.head? = some 'v' then
    if isFuture host then .ok () else .error .badFutureAddress
  else if isFour host then .error .bracketedFour
  else if isSix host then .ok ()
  else .error (.notAnAddress (String.ofList host))

/-! ### Brackets -/

/-- The host and port: what follows the last `@`. -/
def hostAndPort (cs : List Char) : List Char := (cs.reverse.takeWhile (· ≠ '@')).reverse

/-- Check an authority with brackets: nothing stands between a bracket and the end of the host.
Brackets outside the host make the host an address all the same. -/
def checkBrackets (cs : List Char) : Except UriFault Unit :=
  match cut '[' (hostAndPort cs) with
  | (host, none) => checkAddress (host.takeWhile (· ≠ ':'))
  | ([], some rest) =>
    match cut ']' rest with
    | (host, none) | (host, some []) | (host, some (':' :: _)) => checkAddress host
    | _ => .error .strayBracket
  | (_ :: _, some _) => .error .strayBracket

/-! ### Hidden separators -/

/-- The characters other than `/`, `?`, `#`, `@` and `:` that are compatible with a text in which
one of these stands. -/
def hidesSeparator (c : Char) : Bool :=
  c ∈ ['⁇', '⁈', '⁉', '℀', '℁', '℅', '℆', '⩴', '︓', '︖', '﹕', '﹖', '﹟', '﹫',
    '＃', '／', '：', '？', '＠']

/-- Check an authority. -/
def check (cs : List Char) : Except UriFault Unit := do
  if ('[' ∈ cs) ≠ (']' ∈ cs) then throw .strayBracket
  if '[' ∈ cs then checkBrackets cs
  if cs.any hidesSeparator then throw (.hiddenSeparator (String.ofList cs))

end Authority

end JuliaSession.Uri
