import MarkdownAdf.Markdown.EntityName
import MarkdownAdf.Text.Fold
import MarkdownAdf.Text.Punycode

/-!
# Link addresses

An address is taken apart as far as finding its host requires. In the link the host is written in
Punycode and the rest with percent escapes; in the text shown for a bare address both are undone.
-/

namespace MarkdownAdf.Markdown

/-- The parts of an address. Each part but the host holds its own marks, such as the colon of the
scheme and the `@` of the user. -/
structure Url where
  scheme : List Char
  slashes : Bool
  user : List Char
  host : List Char
  port : List Char
  tail : List Char
  deriving DecidableEq, Repr

namespace Url

/-! ### Taking an address apart -/

/-- The schemes that are followed by two slashes when they have a host. -/
def slashedSchemes : List String := ["http:", "https:", "ftp:", "gopher:", "file:"]

/-- The scheme at the front of an address, with its colon. -/
def readScheme (cs : List Char) : List Char × List Char :=
  let name := cs.takeWhile fun c => c.isAlphanum || c = '.' || c = '+' || c = '-'
  match cs.drop name.length with
  | ':' :: rest => if name.isEmpty then ([], cs) else (name ++ [':'], rest)
  | _ => ([], cs)

/-- Cuts a text behind the last of the characters `c` in it, if there is one. -/
def cutBehindLast (c : Char) (cs : List Char) : List Char × List Char :=
  let rest := (cs.reverse.takeWhile (· ≠ c)).reverse
  (cs.take (cs.length - rest.length), rest)

/-- The characters at which a host ends. -/
def endsHost (c : Char) : Bool := "%/?;#'\x7b|\\^`<>\" \r\n\t\x7d".toList.contains c

/-- The characters of a part of a host between dots. -/
def isHostChar (c : Char) : Bool := c.isAlphanum || c = '+' || c = '_' || c = '-' || 127 < c.toNat

/-- The characters of a part of a host that are in ASCII. -/
def isPlainHostChar (c : Char) : Bool := isHostChar c && c.toNat < 128

/-- Checks the parts of a host. The first part that is too long or has a foreign character ends the
host: what it can keep of it is its plain front, and the other parts belong to what follows. -/
def checkHost (done : List (List Char)) : List (List Char) → List (List Char) × List (List Char)
  | [] => (done, [])
  | part :: parts =>
    if part.length ≤ 63 && part.all isHostChar then checkHost (done ++ [part]) parts
    else
      let front := (part.takeWhile isPlainHostChar).take 63
      (done ++ [front], part.drop front.length :: parts)

/-- Cuts a text at the characters of a class. -/
def splitAtChars (p : Char → Bool) : List Char → List (List Char)
  | [] => [[]]
  | c :: cs =>
    if p c then [] :: splitAtChars p cs
    else
      match splitAtChars p cs with
      | part :: parts => (c :: part) :: parts
      | [] => [[c]]

/-- The port at the end of a host, with its colon. A colon alone is dropped. -/
def cutPort (host : List Char) : List Char × List Char :=
  let digits := (host.reverse.takeWhile Char.isDigit).reverse
  let front := host.take (host.length - digits.length)
  match front.getLast? with
  | some ':' => (front.dropLast, if digits.isEmpty then [] else ':' :: digits)
  | _ => (host, [])

/-- Takes the host from the front of a text, with the user before it and the port behind it. -/
def readAuthority (scheme : List Char) (slashes : Bool) (cs : List Char) : Url :=
  let reach := cs.takeWhile fun c => !(c = '/' || c = '?' || c = '#')
  let (user, rest) := cutBehindLast '@' reach
  let user := if user = ['@'] then [] else user
  let rest := rest ++ cs.drop reach.length
  let host := rest.takeWhile fun c => !endsHost c
  let host := if host.getLast? = some ':' then host.dropLast else host
  let rest := rest.drop host.length
  let (host, port) := cutPort host
  let bracketed := host.head? = some '[' && host.getLast? = some ']'
  if bracketed then
    let name := if host.length > 255 then [] else host
    let inner := (name.drop 1).dropLast
    { scheme, slashes, user, port, tail := rest
      host := if inner.contains ':' then '[' :: inner ++ [']'] else inner }
  else
    let (parts, others) := checkHost [] (splitAtChars (· = '.') host)
    let host := List.intercalate ['.'] parts
    { scheme, slashes, user, port
      host := if host.length > 255 then [] else host
      tail := List.intercalate ['.'] others ++ rest }

/-- Takes an address apart, without the blanks around it. -/
def ofChars (cs : List Char) : Url :=
  let (scheme, rest) := readScheme (Text.stripList Text.isBlank cs)
  let isScript := scheme = "javascript:".toList
  let slashes := rest.take 2 = ['/', '/'] && !isScript
  let rest := if slashes then rest.drop 2 else rest
  let known := slashedSchemes.contains (String.ofList scheme)
  if !isScript && (slashes || (!scheme.isEmpty && !known)) then readAuthority scheme slashes rest
  else { scheme, slashes, user := [], host := [], port := [], tail := rest }

def toChars (u : Url) : List Char :=
  u.scheme ++ (if u.slashes then ['/', '/'] else []) ++ u.user ++ u.host ++ u.port ++ u.tail

/-- Whether the host is written in another form in links and in texts: it is for web and mail
addresses and for those without a scheme. -/
def recodesHost (u : Url) : Bool :=
  !u.host.isEmpty && ["", "http:", "https:", "mailto:"].contains (String.ofList u.scheme)

/-! ### Writing it for a link -/

/-- The dots that separate the labels of a host. -/
def isHostDot (c : Char) : Bool := c = '.' || c = '\u3002' || c = '\uff0e' || c = '\uff61'

/-- Applies a function to each label of a host and joins the labels by plain dots. -/
def mapLabels (f : List Char → List Char) (host : List Char) : List Char :=
  List.intercalate ['.'] ((splitAtChars isHostDot host).map f)

def asciiLabel (label : List Char) : List Char :=
  if label.all (·.toNat < 0x7F) then label else "xn--".toList ++ Text.Punycode.encode label

/-- The digit of a number below sixteen, in upper case. -/
def upperHex (n : Nat) : Char := Char.ofNat (if n < 10 then 0x30 + n else 0x41 + (n - 10))

/-- A byte as a percent escape. -/
def percent (n : Nat) : List Char := ['%', upperHex (n / 16), upperHex (n % 16)]

/-- The characters that need no escape. -/
def isPlain (c : Char) : Bool := c.isAlphanum || ";/?:@&=+$,-_.!~*'()#".toList.contains c

/-- Escapes what may not stand in an address. Percent escapes in it stay as they are. -/
def encode : List Char → List Char
  | [] => []
  | c :: cs =>
    if isPlain c then c :: encode cs
    else if c = '%' && (cs.take 2).length = 2 && (cs.take 2).all isHexDigit then c :: encode cs
    else (String.singleton c).toUTF8.toList.flatMap (fun b => percent b.toNat) ++ encode cs

/-- The address as a link holds it. -/
def link (cs : List Char) : List Char :=
  let u := ofChars cs
  encode (if u.recodesHost then { u with host := mapLabels asciiLabel u.host } else u).toChars

/-! ### Writing it for reading -/

/-- A label in its own script, none when it is not the Punycode of anything. -/
def readableLabel? (label : List Char) : Option (List Char) :=
  match label with
  | 'x' :: 'n' :: '-' :: '-' :: rest => Text.Punycode.decode? (rest.map Char.toLower)
  | _ => some label

/-- A host in its own script. One label that cannot be read leaves the whole as it is. -/
def readableHost (host : List Char) : List Char :=
  match (splitAtChars isHostDot host).mapM readableLabel? with
  | some labels => List.intercalate ['.'] labels
  | none => host

/-- Reads the bytes of percent escapes as UTF-8. Each byte that belongs to no character stands for
the replacement character; characters with a meaning in addresses stay escaped. -/
def decodeBytes : List Nat → List Char
  | [] => []
  | b :: bs =>
    if b < 0x80 then
      let c := Char.ofNat b
      (if ";/?:@&=+$,#%".toList.contains c then percent b else [c]) ++ decodeBytes bs
    else
      let isTail (n : Nat) := n / 0x40 = 2
      let size :=
        if b / 0x20 = 6 then 2 else if b / 0x10 = 14 then 3 else if b / 0x08 = 30 then 4 else 0
      let tail := bs.take (size - 1)
      if 2 ≤ size && tail.length = size - 1 && tail.all isTail then
        let bytes := (b :: tail).map UInt8.ofNat
        (match String.fromUTF8? ⟨bytes.toArray⟩ with
          | some s => s.toList
          | none => List.replicate size '\ufffd') ++ decodeBytes (bs.drop (size - 1))
      else '\ufffd' :: decodeBytes bs
termination_by bs => bs.length
decreasing_by all_goals simp only [List.length_cons, List.length_drop]; omega

/-- The bytes of the percent escapes at the front of a text, and the text behind them. -/
def escapedBytes : List Char → List Nat × List Char
  | '%' :: a :: b :: rest =>
    if isHexDigit a && isHexDigit b then
      let (bytes, rest) := escapedBytes rest
      ((16 * hexDigit a + hexDigit b) :: bytes, rest)
    else ([], '%' :: a :: b :: rest)
  | cs => ([], cs)

/-- Undoes the percent escapes; `skip` counts the characters that an earlier one has covered. -/
def decodeFrom (skip : Nat) : List Char → List Char
  | [] => []
  | c :: cs =>
    match skip with
    | k + 1 => decodeFrom k cs
    | 0 =>
      let (bytes, _) := escapedBytes (c :: cs)
      if bytes.isEmpty then c :: decodeFrom 0 cs
      else decodeBytes bytes ++ decodeFrom (3 * bytes.length - 1) cs

/-- The address as a text shows it. -/
def readable (cs : List Char) : List Char :=
  let u := ofChars cs
  decodeFrom 0 (if u.recodesHost then { u with host := readableHost u.host } else u).toChars

/-! ### Allowed addresses -/

/-- Whether a link may lead to an address: scripts, files and data may not be opened, but for the
common forms of images. -/
def isAllowed (cs : List Char) : Bool :=
  let s := (Text.stripList Text.isBlank cs).map Text.lowerAscii
  let starts (word : String) := word.toList.isPrefixOf s
  if ["vbscript:", "javascript:", "file:", "data:"].any starts then
    ["data:image/gif;", "data:image/png;", "data:image/jpeg;", "data:image/webp;"].any starts
  else true

end Url

end MarkdownAdf.Markdown
