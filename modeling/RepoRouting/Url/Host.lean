import RepoRouting.Url.Idna
/-!
# URL hosts

Enough of the URL standard to find the scheme and host of an absolute URL, and to know when
the text is no URL at all.

Leading and trailing controls and spaces are dropped, and tabs and line breaks anywhere.
The scheme is a letter followed by letters, digits, `+`, `-` and `.`, then a colon; it is
compared in lowercase. The special schemes (`ftp`, `file`, `http`, `https`, `ws`, `wss`)
always have an authority, after any run of slashes and backslashes; other schemes have one
only after `//`. In an authority the host follows the last `@`, and a port of decimal
digits up to 65535 may follow a colon.

A special host is percent-decoded, put through IDNA processing, and read as an IPv4 address
when its last label is a number (decimal, octal after `0`, hexadecimal after `0x`, with
fewer than four parts filling the low bytes). Other hosts are kept as written, after a
check for characters no host may hold. A bracketed host must be an IPv6 address.

A repository is *external* unless its url is no URL, uses the `file` scheme, or names the
host `localhost` or `127.0.0.1` after all of the above.
-/

namespace RepoRouting.Url

/-- The host of a URL. -/
inductive Host where
  | domain (name : String)
  | ipv4 (address : Nat)
  | ipv6
deriving DecidableEq, Repr, Inhabited

/-- The host as text; IPv6 hosts are written in brackets and never compared here. -/
def Host.text : Host → String
  | .domain name => name
  | .ipv4 a => toString (a >>> 24) ++ "." ++ toString ((a >>> 16) % 256) ++ "." ++
      toString ((a >>> 8) % 256) ++ "." ++ toString (a % 256)
  | .ipv6 => "[ipv6]"

/-- The scheme and host of a URL; `host` is `none` for a URL without authority. -/
structure Location where
  scheme : String
  host : Option Host
deriving DecidableEq, Repr, Inhabited

/-- Whether a scheme is special. -/
def isSpecialScheme (s : String) : Bool :=
  ["ftp", "file", "http", "https", "ws", "wss"].contains s

/-- Drops controls and spaces at both ends, and tabs and line breaks everywhere. -/
def prepareInput (s : String) : List Char :=
  let edge (c : Char) : Bool := c.toNat ≤ 0x20
  let cs := ((s.toList.dropWhile edge).reverse.dropWhile edge).reverse
  cs.filter fun c => c != '\t' && c != '\n' && c != '\r'

/-- The scheme, in lowercase, and the text after its colon. -/
def splitScheme (cs : List Char) : Option (String × List Char) :=
  match cs with
  | c :: _ =>
    if c.isAlpha then
      let body := cs.takeWhile fun c => c.isAlphanum || c == '+' || c == '-' || c == '.'
      match cs.drop body.length with
      | ':' :: rest => some (String.ofList (body.map Char.toLower), rest)
      | _ => none
    else none
  | [] => none

/-- The value of a hexadecimal digit. -/
def hexDigitValue (c : Char) : Option Nat :=
  if '0' ≤ c && c ≤ '9' then some (c.toNat - 48)
  else if 'a' ≤ c && c ≤ 'f' then some (c.toNat - 87)
  else if 'A' ≤ c && c ≤ 'F' then some (c.toNat - 55)
  else none

/-- Decodes `%` followed by two hexadecimal digits into the byte they name. -/
def percentDecode : List UInt8 → List UInt8
  | 37 :: h :: l :: rest =>
    match hexDigitValue (Char.ofNat h.toNat), hexDigitValue (Char.ofNat l.toNat) with
    | some a, some b => (a * 16 + b).toUInt8 :: percentDecode rest
    | _, _ => 37 :: percentDecode (h :: l :: rest)
  | b :: rest => b :: percentDecode rest
  | [] => []

/-- A number of an IPv4 address: `none` if it is no number, `some none` if it does not fit
in 32 bits. -/
def ipv4Number (part : List Char) : Option (Option Nat) :=
  if part.isEmpty then none
  else
    let (radix, digits) :=
      match part with
      | '0' :: 'x' :: rest => (16, rest)
      | '0' :: 'X' :: rest => (16, rest)
      | '0' :: rest@(_ :: _) => (8, rest)
      | _ => (10, part)
    if digits.isEmpty then some (some 0)
    else
      let values := digits.map fun c => (hexDigitValue c).filter (· < radix)
      if values.all Option.isSome then
        let n := values.foldl (fun acc v => acc * radix + v.getD 0) 0
        some (if n < UInt32.size then some n else none)
      else none

/-- Whether a domain ends in a number, which makes it an IPv4 address. -/
def endsInNumber (name : List Char) : Bool :=
  let parts := name.splitOn '.'
  let last? := match parts.reverse with
    | [] :: prev :: _ => some prev
    | [] :: [] => none
    | last :: _ => some last
    | [] => none
  match last? with
  | none => false
  | some last => (!last.isEmpty && last.all Char.isDigit) || (ipv4Number last).isSome

/-- Reads an IPv4 address: up to four numbers, all but the last below 256, the last
filling the remaining bytes. -/
def parseIpv4 (name : List Char) : Option Nat := do
  let parts := name.splitOn '.'
  let parts := if parts.getLast? == some [] then parts.dropLast else parts
  if parts.length > 4 || parts.isEmpty then none
  else
    let numbers ← parts.mapM fun p => (ipv4Number p).bind id
    let init := numbers.dropLast
    let last := numbers.getLast?.getD 0
    if last ≥ Nat.pow 256 (5 - numbers.length) then none
    else if init.any (· > 255) then none
    else some ((init.zipIdx.foldl (fun acc (n, i) => acc + n * Nat.pow 256 (3 - i)) 0) + last)

/-- The dotted decimal digits of an IPv4 address inside an IPv6 one. -/
def ipv6Dotted : Nat → List Char → Nat → Option Unit
  | 0, _, _ => none
  | _ + 1, [], seen => if seen == 4 then some () else none
  | fuel + 1, cs, seen => do
    let cs ← if seen > 0 then
        match cs with
        | '.' :: rest => if seen < 4 then some rest else none
        | _ => none
      else some cs
    let digits := cs.takeWhile Char.isDigit
    if digits.isEmpty then none
    else if digits.length > 1 && digits.head? == some '0' then none
    else if digits.foldl (fun acc c => acc * 10 + (c.toNat - 48)) 0 > 255 then none
    else ipv6Dotted fuel (cs.drop digits.length) (seen + 1)

/-- Checks the pieces of an IPv6 address: `pieces` read so far, `compressed` whether `::`
was seen. -/
def ipv6Pieces : Nat → List Char → Nat → Bool → Option Unit
  | 0, _, _, _ => none
  | _ + 1, [], pieces, compressed => if compressed || pieces == 8 then some () else none
  | fuel + 1, cs@(c :: rest), pieces, compressed =>
    if pieces == 8 then none
    else if c == ':' then
      if compressed then none else ipv6Pieces fuel rest (pieces + 1) true
    else
      let hex := (cs.takeWhile fun c => (hexDigitValue c).isSome).take 4
      let after := cs.drop hex.length
      match after with
      | '.' :: _ =>
        if hex.isEmpty || pieces > 6 then none
        else do
          ipv6Dotted (cs.length + 1) cs 0
          if compressed || pieces + 2 == 8 then some () else none
      | ':' :: [] => none
      | ':' :: more =>
        if hex.isEmpty then none else ipv6Pieces fuel more (pieces + 1) compressed
      | [] => if hex.isEmpty then none else ipv6Pieces fuel [] (pieces + 1) compressed
      | _ => none

/-- Whether a text between brackets is an IPv6 address. -/
def isIpv6 (cs : List Char) : Bool :=
  match cs with
  | ':' :: ':' :: rest => (ipv6Pieces (rest.length + 1) rest 1 true).isSome
  | ':' :: _ => false
  | _ => (ipv6Pieces (cs.length + 1) cs 0 false).isSome

/-- The characters no host may hold. -/
def isForbiddenInHost (c : Char) : Bool :=
  "\x00\t\n\r #/:<>?@[\\]^|".toList.contains c

/-- Reads a bracketed host. -/
def bracketHost (cs : List Char) : Option Host :=
  if cs.getLast? == some ']' && isIpv6 ((cs.drop 1).dropLast) then some .ipv6 else none

/-- Reads the host of a special URL. -/
def specialHost (cs : List Char) : Option Host :=
  match cs with
  | '[' :: _ => bracketHost cs
  | _ => do
    let bytes := percentDecode (String.ofList cs).toUTF8.toList
    let text ← String.fromUTF8? (ByteArray.mk bytes.toArray)
    let ascii ← domainToAscii text
    if ascii.isEmpty then none
    else if endsInNumber ascii.toList then (parseIpv4 ascii.toList).map .ipv4
    else some (.domain ascii)

/-- Reads the host of a URL with another scheme. -/
def opaqueHost (cs : List Char) : Option Host :=
  match cs with
  | '[' :: _ => bracketHost cs
  | _ => if cs.any isForbiddenInHost then none else some (.domain (String.ofList cs))

/-- Whether a port is decimal digits below 65536, ending the authority or followed by the
path, query or fragment. -/
def portValid (cs : List Char) : Bool :=
  let digits := cs.takeWhile Char.isDigit
  digits.foldl (fun acc c => acc * 10 + (c.toNat - 48)) 0 ≤ 65535 &&
    match cs.drop digits.length with
    | [] => true
    | c :: _ => c == '/' || c == '\\' || c == '?' || c == '#'

/-- Reads the host and port after the user information. -/
def hostAndPort (special : Bool) (cs : List Char) : Option (Option Host) :=
  let inHost := hostPart false cs
  let rest := cs.drop inHost.length
  let host? := if special then specialHost inHost else
    if inHost.isEmpty then some (.domain "") else opaqueHost inHost
  match host? with
  | none => none
  | some host =>
    let emptyHost := host == .domain ""
    match rest with
    | ':' :: port => if emptyHost || !portValid port then none else some (some host)
    | _ => if emptyHost && special then none else some (some host)
where
  /-- The host's characters: up to a colon outside brackets or a delimiter. -/
  hostPart (inBrackets : Bool) : List Char → List Char
    | [] => []
    | c :: rest =>
      if (c == ':' && !inBrackets) || c == '/' || c == '?' || c == '#' || (c == '\\' && special)
      then []
      else c :: hostPart (if c == '[' then true else if c == ']' then false else inBrackets) rest

/-- Reads an authority and what follows it: the user information ends at the last `@`
before the path. User information that writes a name or a password (anything but a lone
`:`) needs a host after it. -/
def authority (special : Bool) (cs : List Char) : Option (Option Host) :=
  let isEnd (c : Char) : Bool := c == '/' || c == '?' || c == '#' || (c == '\\' && special)
  let auth := cs.takeWhile (!isEnd ·)
  match (auth.reverse.span (· != '@')) with
  | (_, []) => hostAndPort special cs
  | (_, _ :: revBefore) =>
    let rest := cs.drop (revBefore.length + 1)
    if revBefore.isEmpty then
      match rest with
      | c :: _ => if isEnd c then none else hostAndPort special rest
      | [] => hostAndPort special rest
    else
      match hostAndPort special rest with
      | some (some (.domain "")) => if revBefore == [':'] then some (some (.domain "")) else none
      | found => found

/-- The scheme and host of an absolute URL, or `none` if the text is no URL. -/
def locate (url : String) : Option Location := do
  let (scheme, rest) ← splitScheme (prepareInput url)
  if scheme == "file" then some ⟨scheme, none⟩
  else if isSpecialScheme scheme then
    let host ← authority true (rest.dropWhile fun c => c == '/' || c == '\\')
    some ⟨scheme, host⟩
  else
    match rest with
    | '/' :: '/' :: more => do
      let host ← authority false more
      some ⟨scheme, host⟩
    | _ => some ⟨scheme, none⟩

/-- Whether a repository url points away from this machine: it is a URL, not a `file` one,
and its host is neither `localhost` nor `127.0.0.1`. -/
def isExternal (url : String) : Bool :=
  match locate url with
  | none => false
  | some loc =>
    loc.scheme != "file" &&
      match loc.host with
      | some h => h.text != "localhost" && h.text != "127.0.0.1"
      | none => true

end RepoRouting.Url
