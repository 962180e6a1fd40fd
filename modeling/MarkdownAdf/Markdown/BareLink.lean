import MarkdownAdf.Markdown.Host

/-!
# Addresses in running text

Web and mail addresses are links also when nothing marks them: behind a scheme, as the name of a
host under a known domain, or as a name at such a host. Of the addresses in a text the first is
taken, and the search goes on behind it.
-/

namespace MarkdownAdf.Markdown

/-- An address in a text: where it starts and stops, and the scheme that it has, which is empty for
the bare name of a host. -/
structure BareLink where
  start : Nat
  stop : Nat
  scheme : String
  deriving DecidableEq, Repr

namespace BareLink

def schemes : List String := ["http:", "https:", "ftp:", "//", "mailto:"]

/-- The scheme at the front of a text, whatever the case of its letters. -/
def scheme? (cs : List Char) : Option String :=
  schemes.find? fun name => (Text.dropWord? name.toList cs).isSome

/-- The characters of names in mail addresses, but for the quote, which may not come first. -/
def isMailChar (c : Char) : Bool := c.isAlphanum || "-;:&=+$,._".toList.contains c

/-- Skips a mail address at the front of a text. -/
def skipMail? (isKnown : List (List Char) → Bool) (cs : List Char) : Option (List Char) :=
  let name := cs.takeWhile fun c => isMailChar c || c = '"'
  match name, cs.drop name.length with
  | c :: _, '@' :: rest => if c = '"' then none else skipHost? isKnown false rest
  | _, _ => none

/-- Skips a host with what belongs to it on both sides: a user before it when one stands there, and
a path behind it. -/
def skipSite? (isKnown : List (List Char) → Bool) (cs : List Char) : Option (List Char) :=
  let behindUser := match skipUser? cs with
    | some rest => skipHost? isKnown true rest
    | none => none
  (behindUser.or (skipHost? isKnown true cs)).map skipPath

/-- Skips what has to stand behind a scheme; `before` is the character before the scheme. -/
def skipRest? (scheme : String) (before : Option Char) (cs : List Char) : Option (List Char) :=
  match scheme with
  | "mailto:" => skipMail? isHost cs
  | "//" => if before = some ':' || before = some '/' then none else skipSite? isRootedHost cs
  | _ =>
    match cs with
    | '/' :: '/' :: cs => skipSite? isHost cs
    | _ => none

/-- The scheme and what stands before it at the front of a text. A boundary has to stand before it,
unless it is the start of the whole. -/
def schemeAt? (isStart : Bool) (cs : List Char) : Option (Option Char × String) :=
  match if isStart then scheme? cs else none with
  | some scheme => some (none, scheme)
  | none =>
    match cs with
    | c :: cs =>
      if (isFrame c || isBoundary c) && c ≠ '_' then (scheme? cs).map (some c, ·) else none
    | [] => none

/-- The first address that has a scheme, from place `i` on; `skip` counts the characters that an
earlier scheme has covered. -/
def findScheme (skip i : Nat) : List Char → Option BareLink
  | [] => none
  | c :: cs =>
    match skip with
    | k + 1 => findScheme k (i + 1) cs
    | 0 =>
      match schemeAt? (i = 0) (c :: cs) with
      | none => findScheme 0 (i + 1) cs
      | some (before, scheme) =>
        let size := (before.map fun _ => 1).getD 0
        let rest := (c :: cs).drop (size + scheme.length)
        match skipRest? scheme before rest with
        | some behind => some ⟨i + size, i + 1 + cs.length - behind.length, scheme⟩
        | none => findScheme (size + scheme.length - 1) (i + 1) cs

/-- Whether a scheme stands anywhere in a text. -/
def hasScheme (isStart : Bool) : List Char → Bool
  | [] => false
  | c :: cs => (schemeAt? isStart (c :: cs)).isSome || hasScheme false cs

/-- Whether a text starts with a sign of a host: the own machine, `www.`, a number between dots, or
a known domain behind a dot. -/
def hostSignAt (cs : List Char) : Bool :=
  let drops (word : String) := (Text.dropWord? word.toList cs).isSome
  drops "localhost" || drops "www." ||
    match cs with
    | '.' :: cs =>
      let digits := cs.takeWhile isDigitMark
      let label := cs.takeWhile isWordChar
      let ends (rest : List Char) := rest.head?.all fun d => d = '>' || isBoundary d
      (1 ≤ digits.length && digits.length ≤ 3 && (cs.drop digits.length).head? = some '.') ||
        (isDomain label && ends (cs.drop label.length)) ||
        ((Text.dropWord? "xn--".toList cs).isSome &&
          match cs.drop 4 with
          | c :: rest =>
            let plain (d : Char) := d.isAlphanum || d = '-'
            let run := (c :: rest).takeWhile plain
            plain c && (run.drop 1).contains '-' || (plain c && ends ((c :: rest).drop run.length))
          | [] => false)
    | _ => false

/-- The first place with a sign of a host. -/
def findHostSign (i : Nat) : List Char → Option Nat
  | [] => none
  | c :: cs => if hostSignAt (c :: cs) then some i else findHostSign (i + 1) cs

/-- The signs before which no host starts. -/
def isHostEdge (c : Char) : Bool := "$+<=>^`|\uff5c".toList.contains c

/-- Skips the name of a host under a known domain, with its path. -/
def skipName? (cs : List Char) : Option (List Char) :=
  if cs.head?.any isHostEdge then none else (skipHost? isDomainHost true cs).map skipPath

/-- The first place from place `i` on where `skip?` succeeds behind a character of a class, or at
the start of the whole. -/
def findBehind (isBefore : Char → Bool) (skip? : List Char → Option (List Char)) (scheme : String)
    (i : Nat) : List Char → Option BareLink
  | [] => none
  | c :: cs =>
    match if i = 0 then skip? (c :: cs) else none with
    | some rest => some ⟨i, i + 1 + cs.length - rest.length, scheme⟩
    | none =>
      match if isBefore c then skip? cs else none with
      | some rest => some ⟨i + 1, i + 1 + cs.length - rest.length, scheme⟩
      | none => findBehind isBefore skip? scheme (i + 1) cs

/-- The first name of a host. -/
def findName (cs : List Char) : Option BareLink :=
  let isBefore (c : Char) := (isHostEdge c || isBoundary c) && !".:/-_@".toList.contains c
  findBehind isBefore skipName? "" 0 cs

/-- The first mail address. -/
def findMail (cs : List Char) : Option BareLink :=
  let isBefore (c : Char) := isFrame c || c = '"' || c = '(' || isBreaking c
  findBehind isBefore (skipMail? isMailHost) "mailto:" 0 cs

/-- The earlier of two addresses; of two at one place the first, unless the second is preferred for
being longer. -/
def earlier (preferLonger : Bool) (a b : Option BareLink) : Option BareLink :=
  match a, b with
  | some a, some b =>
    if b.start < a.start || (preferLonger && b.start = a.start && a.stop < b.stop) then some b
    else some a
  | none, b => b
  | a, none => a

/-- The first address in a text. The name of a host is looked for only when a sign of one stands
before the address found so far. -/
def find? (cs : List Char) : Option BareLink :=
  let found := findScheme 0 0 cs
  let found :=
    match findHostSign 0 cs with
    | some i => if found.all (i < ·.start) then earlier false found (findName cs) else found
    | none => found
  if cs.contains '@' then earlier true found (findMail cs) else found

/-- Whether a text can hold an address at all. -/
def mayOccur (cs : List Char) : Bool :=
  hasScheme true cs || (findHostSign 0 cs).isSome || cs.contains '@'

/-- All addresses in a text that starts at place `i`. -/
def findAll (i : Nat) (cs : List Char) : List BareLink :=
  match find? cs with
  | some l =>
    if 0 < l.stop && !cs.isEmpty then
      ⟨i + l.start, i + l.stop, l.scheme⟩ :: findAll (i + l.stop) (cs.drop l.stop)
    else []
  | none => []
termination_by cs.length
decreasing_by
  rename_i h
  cases cs <;> simp_all; omega

/-- The address that a link with this text leads to. -/
def address (l : BareLink) (text : List Char) : List Char :=
  if l.scheme = "" then "http://".toList ++ text
  else if l.scheme = "mailto:" && (Text.dropWord? "mailto:".toList text).isNone then
    "mailto:".toList ++ text
  else text

end BareLink

end MarkdownAdf.Markdown
