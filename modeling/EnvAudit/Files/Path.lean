import EnvAudit.Text.Parts

/-!
# Paths

A path is a text whose parts are separated by slashes.  Empty parts and single
dots in it lead nowhere.
-/

namespace EnvAudit

namespace Path

/-- The parts of a path, with those that lead nowhere. -/
def parts (path : String) : List String :=
  Text.split '/' path

/-- The part leads nowhere. -/
def isIdle (part : String) : Bool :=
  part == "" || part == "."

/-- The path starts from the root of the file system. -/
def isAbsolute (path : String) : Bool :=
  path.toList.head? == some '/'

/-- The path that leads first along `base` and then along `path`, unless the
latter starts from the root. -/
def join (base path : String) : String :=
  if isAbsolute path then
    path
  else if base == "" || base.toList.getLast? == some '/' then
    base ++ path
  else
    base ++ "/" ++ path

/-- The name of the file that a path leads to; a path that ends by going up
names none. -/
def fileName? (path : String) : Option String :=
  match (parts path).reverse.find? fun part => !isIdle part with
  | some ".." => none
  | last => last

/-- What follows the last dot of a name, except for a dot that begins it. -/
def extensionOfName? (name : List Char) : Option (List Char) :=
  match (Text.splitChars '.' name).reverse with
  | extension :: before :: others =>
      if before = [] && others = [] then none else some extension
  | _ => none

/-- The extension of the file that a path leads to. -/
def extension? (path : String) : Option String :=
  (fileName? path).bind fun name => (extensionOfName? name.toList).map .ofList

/-- A path with no idle parts that starts from the root, given the working
directory.  Parts that go up stay, since links may stand before them. -/
def absolute (workingDirectory path : String) : String :=
  let whole := join workingDirectory path
  let start := if whole.toList.take 2 == ['/', '/'] && whole.toList[2]? != some '/' then "//" else "/"
  let inner := (parts whole).filter fun part => !isIdle part
  let stop := if inner ≠ [] && whole.toList.getLast? == some '/' then "/" else ""
  start ++ "/".intercalate inner ++ stop

end Path

end EnvAudit
