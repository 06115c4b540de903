import RepoRouting.Unicode.Props
import RepoRouting.Url.Punycode
import RepoRouting.Unicode.Normalization
/-!
# Domain names to ASCII

IDNA compatibility processing (UTS #46, non-transitional) as URLs apply it to the host of a
special scheme: each character is kept, mapped or dropped by its status, and a disallowed
one fails the whole name, and the mapped name is brought into normalization form C. The name
is then cut into labels at `.`. A label that starts with `xn--` is decoded from Punycode and
must decode to characters that are valid as they are, in normalization form C.
Every label must not start with a combining mark and must use zero width joiners only where
the joining rules allow them; when some label is written right to left, every label must
obey the bidirectional rule. Labels that are not ASCII are written back in Punycode.

Hyphen positions and label lengths are not checked; the characters that URLs forbid in a
domain fail the name at the end.
-/

namespace RepoRouting.Url

open Unicode

/-- Maps a name by the IDNA statuses of its characters; `none` if one is disallowed. -/
def mapName : List Char → Option (List Char)
  | [] => some []
  | c :: rest => do
    let tail ← mapName rest
    match idnaStatus c with
    | .valid => some (c :: tail)
    | .ignored => some tail
    | .mapped image => some (image ++ tail)
    | .disallowed => none

/-- Whether every character of a label is valid as it stands. -/
def allValid (label : List Char) : Bool :=
  label.all fun c => match idnaStatus c with
    | .valid => true
    | _ => false

/-- The joining types before a position, nearest first, skipping transparent ones. -/
def nearestJoining (cs : List Char) : Option String :=
  (cs.map joiningType).find? (· != "T")

/-- Whether the zero width joiners and non-joiners of a label stand where they may: after
a virama, or (a non-joiner only) between a left-joining and a right-joining character with
only transparent ones around it. -/
def joinersAllowed (label : List Char) : Bool :=
  go [] label
where
  /-- Walks the label with the characters before, nearest first. -/
  go (before : List Char) : List Char → Bool
    | [] => true
    | c :: rest =>
      let afterVirama := match before with
        | b :: _ => isVirama b
        | [] => false
      let ok :=
        if c == '‍' then afterVirama
        else if c == '‌' then
          afterVirama ||
            ((nearestJoining before == some "L" || nearestJoining before == some "D") &&
              (nearestJoining rest == some "R" || nearestJoining rest == some "D"))
        else true
      ok && go (c :: before) rest

/-- The classes a right-to-left label may use. -/
def rtlClasses : List String := ["R", "AL", "AN", "EN", "ES", "CS", "ET", "ON", "BN", "NSM"]

/-- The classes a left-to-right label may use. -/
def ltrClasses : List String := ["L", "EN", "ES", "CS", "ET", "ON", "BN", "NSM"]

/-- Whether a label holds a right-to-left character. -/
def isRtlLabel (label : List Char) : Bool :=
  label.any fun c => let b := bidiClass c; b == "R" || b == "AL" || b == "AN"

/-- The bidirectional rule for one label of a name that has right-to-left labels. -/
def bidiRuleHolds (label : List Char) : Bool :=
  match label with
  | [] => true
  | first :: _ =>
    let classes := label.map bidiClass
    let last := (classes.reverse.dropWhile (· == "NSM")).head?
    let f := bidiClass first
    if f == "R" || f == "AL" then
      classes.all rtlClasses.contains &&
        (last == some "R" || last == some "AL" || last == some "EN" || last == some "AN") &&
        !(classes.contains "EN" && classes.contains "AN")
    else if f == "L" then
      classes.all ltrClasses.contains && (last == some "L" || last == some "EN")
    else false

/-- Whether a label starts with `xn--`. -/
def hasAcePrefix (label : List Char) : Bool :=
  label.take 4 == ['x', 'n', '-', '-']

/-- The Unicode form of a label: a Punycode label decoded, others as they are; `none` if a
Punycode label is not ASCII, does not decode, decodes to nothing new or to a text that is not
in normalization form C. -/
def unicodeLabel (label : List Char) : Option (List Char) :=
  if hasAcePrefix label then
    if label.any (·.toNat ≥ 0x80) then none
    else match Punycode.decode (label.drop 4) with
      | some u =>
        if u.isEmpty || u.all (·.toNat < 0x80) || !allValid u || !isNfc u then none else some u
      | none => none
  else some label

/-- The validity criteria every label meets: no `xn--` in its Unicode form, no leading
mark, joiners where allowed. -/
def labelValid (label : List Char) : Bool :=
  !hasAcePrefix label &&
    (match label with
      | c :: _ => !isMark c
      | [] => true) &&
    joinersAllowed label

/-- The characters a URL forbids in a domain: controls, space, `#`, `%`, `/`, `:`, `<`,
`>`, `?`, `@`, `[`, `\`, `]`, `^`, `|` and delete. -/
def isForbiddenInDomain (c : Char) : Bool :=
  c.toNat ≤ 0x20 || c.toNat == 0x7F || "#%/:<>?@[\\]^|".toList.contains c

/-- The ASCII form of a label. -/
def asciiLabel (label : List Char) : List Char :=
  if label.all (·.toNat < 0x80) then label else "xn--".toList ++ Punycode.encode label

/-- The ASCII form of a domain name, or `none` where processing fails. -/
def domainToAscii (name : String) : Option String := do
  let mapped := nfc (← mapName name.toList)
  let labels := mapped.splitOn '.'
  let unicode ← labels.mapM unicodeLabel
  if !unicode.all labelValid then none
  else if unicode.any isRtlLabel && !unicode.all bidiRuleHolds then none
  else
    let out := List.intercalate ['.'] (unicode.map asciiLabel)
    if out.any isForbiddenInDomain then none else some (String.ofList out)

end RepoRouting.Url
