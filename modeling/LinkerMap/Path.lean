/-! # Paths

A path is text in components, with slashes between them. The last component names what the path
leads to, unless it is a dot or two, and an extension is what follows the last dot of a name.
-/

namespace LinkerMap

/-- A path, as written. -/
structure Path where
  text : String
  deriving DecidableEq, Repr, Inhabited

namespace Path

def pieces (path : Path) : List (List Char) :=
  path.text.toList.splitOn '/'

def components (path : Path) : List String :=
  (path.pieces.filter (!·.isEmpty)).map String.ofList

def isAbsolute (path : Path) : Bool :=
  path.text.toList.head? == some '/'

def endsInSlash (path : Path) : Bool :=
  path.text.toList.getLast? == some '/'

/-- A piece that stays where it is. -/
def isIdle (piece : List Char) : Bool :=
  piece.isEmpty || piece == ['.']

/-- A name cut at its last dot, which may not be its first character. -/
def stem (name : List Char) : List Char :=
  match (name.reverse.dropWhile (· != '.')).drop 1 with
  | [] => name
  | rest => rest.reverse

/-- Puts an extension in place of that of the last component. Slashes and dots behind the component
are dropped. A path without a name to extend is kept, and of a name like `..map` the two dots alone
remain, since they are no name. -/
def withExtension (path : Path) (extension : String) : Path :=
  match path.pieces.reverse.span isIdle with
  | (_, []) => path
  | (behind, name :: above) =>
    if name = ['.', '.'] then path
    else
      let name :=
        if stem name = ['.'] ∧ behind.isEmpty then ['.', '.']
        else stem name ++ '.' :: extension.toList
      ⟨String.ofList (['/'].intercalate (name :: above).reverse)⟩

end Path

end LinkerMap
