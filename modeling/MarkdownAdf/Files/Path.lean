/-!
# Path texts

A path is a text with slashes between its names. It is cut into the directory and the last name.
-/

namespace MarkdownAdf.Files

/-- Removes the slashes at the end of a text that holds anything else. -/
def dropEndSlashes (cs : List Char) : List Char :=
  if cs.all (· = '/') then cs else (cs.reverse.dropWhile (· = '/')).reverse

/-- The directory and the last name of a path; without a slash the directory is empty. -/
def splitLast (path : String) : String × String :=
  let back := path.toList.reverse
  (String.ofList (dropEndSlashes (back.dropWhile (· ≠ '/')).reverse),
    String.ofList (back.takeWhile (· ≠ '/')).reverse)

/-- The directory of a path. -/
def directoryOf (path : String) : String := (splitLast path).1

/-- The directory of a path; of a single name it is the one where relative paths start. -/
def parentOf (path : String) : String :=
  let directory := directoryOf path
  if directory = "" then "." else directory

/-- The names of a path, in order; they may be empty. -/
def namesOf (path : String) : List String := (path.toList.splitOn '/').map String.ofList

/-- A path without empty names and without names that stay where they are. -/
def normalPath (path : String) : String :=
  let names := (namesOf path).filter fun name => name ≠ "" && name ≠ "."
  let start := if path.toList.head? = some '/' then "/" else ""
  if names.isEmpty && start = "" then "." else start ++ "/".intercalate names

/-- The path of a name in a directory. -/
def joinPath (directory name : String) : String :=
  if directory = "." then name
  else if directory = "/" then "/" ++ name
  else directory ++ "/" ++ name

end MarkdownAdf.Files
