import MarkdownAdf.Text.Blank
import MarkdownAdf.Text.Digit
import MarkdownAdf.Text.Fold
import MarkdownAdf.Text.Punctuation

/-!
# Hosts and paths in running text

Where an address that stands in running text ends. Punctuation belongs to an address only as long as
the address goes on behind it, and a host that ends with its name has to end with a known domain.
-/

namespace MarkdownAdf.Markdown

/-- Separators and controls. -/
def isBreaking (c : Char) : Bool :=
  c.toNat < 0x20 || (0x7F ≤ c.toNat && c.toNat ≤ 0x9F) || Text.isSeparator c

/-- Separators, controls and punctuation. -/
def isBoundary (c : Char) : Bool := isBreaking c || Text.isPunctuation c

/-- The signs that part an address from what is around it. -/
def isFrame (c : Char) : Bool := c = '>' || c = '<' || c = '\uff5c'

/-- The characters of words; the letters of hosts are not more than these. -/
def isWordChar (c : Char) : Bool := !isFrame c && !isBoundary c

def lowered (cs : List Char) : List Char := cs.map Text.lowerAscii

/-! ### Names of hosts -/

/-- A label that is written in Punycode. -/
def isPunycodeLabel (label : List Char) : Bool :=
  let s := lowered label
  "xn--".toList.isPrefixOf s && 5 ≤ s.length && s.length ≤ 63 &&
    s.all fun c => c.isDigit || c.isLower || c = '-'

/-- A label of the name of a host. -/
def isLabel (label : List Char) : Bool :=
  isPunycodeLabel label ||
    (label.length ≤ 63 && label.head?.any isWordChar && label.getLast?.any isWordChar)

/-- A last label that stands for itself: it holds no hyphen. -/
def isRootLabel (label : List Char) : Bool :=
  isPunycodeLabel label || (!label.isEmpty && label.length ≤ 63 && label.all isWordChar)

/-- The domains of countries, by their first letter. -/
def countryDomains : List (Char × String) := [
  ('a', "cdefgilmnoqrstuwxz"), ('b', "abdefghijmnorstvwyz"), ('c', "acdfghiklmnoruvwxyz"),
  ('d', "ejkmoz"), ('e', "cegrstu"), ('f', "ijkmor"), ('g', "abdefghilmnpqrstuwy"), ('h', "kmnrtu"),
  ('i', "delmnoqrst"), ('j', "emop"), ('k', "eghimnprwyz"), ('l', "abcikrstuvy"),
  ('m', "acdeghklmnopqrstuvwxyz"), ('n', "acefgilopruz"), ('o', "m"), ('p', "aefghklmnrstwy"),
  ('q', "a"), ('r', "eosuw"), ('s', "abcdeghijklmnortuvxyz"), ('t', "cdfghjklmnortvwz"),
  ('u', "agksyz"), ('v', "aceginu"), ('w', "fs"), ('y', "et"), ('z', "amw")]

/-- The other domains that names of hosts end with. -/
def otherDomains : List String :=
  ["biz", "com", "edu", "gov", "net", "org", "pro", "web", "xxx", "aero", "asia", "coop", "info",
    "museum", "name", "shop", "\u0440\u0444"]

/-- The lower case of the letters in the names of domains. -/
def lowerDomain (c : Char) : Char :=
  if c = '\u0420' then '\u0440' else if c = '\u0424' then '\u0444' else Text.lowerAscii c

/-- Whether a host may end with a label. -/
def isDomain (label : List Char) : Bool :=
  let s := label.map lowerDomain
  isPunycodeLabel label || otherDomains.contains (String.ofList s) ||
    match s with
    | [a, b] => (countryDomains.lookup a).any (·.toList.contains b)
    | _ => false

/-- The labels at the front of a text; `label` is the one in progress, read backwards. A dot parts
two labels when a word goes on behind it. -/
def readLabels (label : List Char) : List Char → List (List Char) × List Char
  | [] => ([label.reverse], [])
  | '.' :: c :: cs =>
    if isWordChar c then
      let (labels, rest) := readLabels [] (c :: cs)
      (label.reverse :: labels, rest)
    else ([label.reverse], '.' :: c :: cs)
  | c :: cs =>
    if isWordChar c || c = '-' then readLabels (c :: label) cs else ([label.reverse], c :: cs)

/-- A host of any name. -/
def isHost (labels : List (List Char)) : Bool := labels.all isLabel

/-- A host of a name under a known domain. -/
def isDomainHost (labels : List (List Char)) : Bool :=
  2 ≤ labels.length && labels.dropLast.all isLabel && labels.getLast?.any isDomain

/-- A host as it follows two slashes alone: of more than one label, or the own machine. -/
def isRootedHost (labels : List (List Char)) : Bool :=
  labels.map lowered = ["localhost".toList] ||
    (2 ≤ labels.length && labels.dropLast.all isLabel && labels.getLast?.any isRootLabel)

/-- A number below 256 without too many digits. -/
def isOctet (label : List Char) : Bool :=
  1 ≤ label.length && label.length ≤ 3 && label.all Char.isDigit &&
    Text.ofDigits (label.map fun c => c.toNat - '0'.toNat) ≤ 255

/-- A host of a mail address: a numeric address, or a name under a known domain. -/
def isMailHost (labels : List (List Char)) : Bool :=
  (labels.length = 4 && labels.all isOctet) || isDomainHost labels

/-! ### Ends of hosts -/

def isDigitMark (c : Char) : Bool := (Text.digitValue? c).isSome

/-- Whether a host may end before a text: a boundary has to follow that does not go on with it. -/
def endsHostBefore : List Char → Bool
  | [] => true
  | c :: cs =>
    (isFrame c || isBoundary c) && c ≠ '-' && c ≠ '_' && !(c = ':' && cs.head?.any isDigitMark) &&
      !(c = '.' && cs.head?.any fun d => d = '-' || !isBoundary d)

/-- A number of a port: at most four digits, or five that write a number up to 65535. -/
def isPort (digits : List Char) : Bool :=
  digits.length ≤ 4 ||
    (digits.length = 5 && match digits with
      | d :: _ =>
        '1' ≤ d && d ≤ '6' &&
          Text.ofDigits (digits.map fun c => (Text.digitValue? c).getD 0) ≤ 65535
      | [] => false)

/-- Skips the port at the front of a text. -/
def skipPort? : List Char → Option (List Char)
  | ':' :: cs =>
    let digits := cs.takeWhile isDigitMark
    if digits.isEmpty then some (':' :: cs)
    else if isPort digits then some (cs.drop digits.length)
    else none
  | cs => some cs

/-- Skips a host of a class at the front of a text, with its port if one may follow. -/
def skipHost? (isKnown : List (List Char) → Bool) (port : Bool) (cs : List Char) :
    Option (List Char) :=
  let (labels, rest) := readLabels [] cs
  if isKnown labels then
    match if port then skipPort? rest else some rest with
    | some rest => if endsHostBefore rest then some rest else none
    | none => none
  else none

/-- Skips the user before a host, up to its `@`. -/
def skipUser? (cs : List Char) : Option (List Char) :=
  let user := cs.takeWhile fun c => !isBreaking c && !"@/[]()".toList.contains c
  match cs.drop user.length with
  | '@' :: rest => if user.isEmpty then none else some rest
  | _ => none

/-! ### Paths -/

/-- The length of a part of a path between marks, with at least `least` characters inside, when the
text behind the opening mark closes it. -/
def enclosed? (close : Char) (least : Nat) (cs : List Char) : Option Nat :=
  let inner := cs.takeWhile fun c => c ≠ close && !isBreaking c
  if (cs.drop inner.length).head? = some close && least ≤ inner.length then some (inner.length + 2)
  else none

/-- The length of the next part of a path. -/
def pathPart? : List Char → Option Nat
  | [] => none
  | c :: cs =>
    let run := (cs.takeWhile (· = c)).length + 1
    let follows (p : Char → Bool) (rest : List Char) := rest.head?.any fun d => !isBreaking d && p d
    match c with
    | '(' => enclosed? ')' 0 cs
    | '[' => enclosed? ']' 0 cs
    | '\x7b' => enclosed? '\x7d' 0 cs
    | '"' => enclosed? '"' 1 cs
    | '\'' =>
      let inWord := cs.head?.any fun d => isWordChar d || d = '-'
      (enclosed? '\'' 1 cs).or (if inWord then some 1 else none)
    | '.' =>
      if run = 1 then if follows (fun _ => true) cs then some 1 else none
      else if ((c :: cs).drop run).head?.any fun d => d.isAlphanum || "%/&".toList.contains d then
        some (run + 1)
      else none
    | '-' => some run
    | ',' | ';' => if follows (fun _ => true) cs then some 1 else none
    | '!' => if follows (fun _ => true) ((c :: cs).drop run) then some run else none
    | '?' => if follows (· ≠ '?') cs then some 1 else none
    | ')' | ']' | '\x7d' => none
    | c => if isBreaking c || isFrame c then none else some 1

/-- The length of the parts of a path; `skip` counts the characters that an earlier part has
covered. -/
def pathLength (skip : Nat) : List Char → Nat
  | [] => 0
  | c :: cs =>
    match skip with
    | k + 1 => 1 + pathLength k cs
    | 0 =>
      match pathPart? (c :: cs) with
      | some n => 1 + pathLength (n - 1) cs
      | none => 0

/-- Skips the path at the front of a text. A question or number sign alone is none. -/
def skipPath : List Char → List Char
  | [] => []
  | c :: cs =>
    if c = '/' || c = '?' || c = '#' then
      let n := pathLength 0 cs
      if 0 < n then cs.drop n else if c = '/' then cs else c :: cs
    else c :: cs

end MarkdownAdf.Markdown
