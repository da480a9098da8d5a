/-!
Paths as text, with segments between slashes.
-/

namespace LiveHighlight.Path

def segments : List Char → List (List Char)
  | [] => [[]]
  | '/' :: rest => [] :: segments rest
  | c :: rest =>
    match segments rest with
    | [] => [[c]]
    | segment :: later => (c :: segment) :: later

def isAbsolute (path : String) : Bool :=
  path.toList.head? == some '/'

def join (base child : String) : String :=
  if isAbsolute child || base.isEmpty then child
  else if base.toList.getLast? == some '/' then base ++ child
  else base ++ "/" ++ child

def joinAll (base : String) (children : List String) : String :=
  children.foldl join base

end LiveHighlight.Path
