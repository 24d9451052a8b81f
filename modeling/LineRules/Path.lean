/-
Qualified paths: the names of the enclosing named areas and of the field itself, joined by dots. The
empty path is the root. A path lies within a scope if it is the scope or continues it after a dot,
so `foobar` does not lie within `foo`.
-/
namespace LineRules.Path

/-- The path with the given segments. -/
def join : List String → String
  | [] => ""
  | [s] => s
  | s :: rest => s ++ "." ++ join rest

/-- The path is the scope or lies below it. Nothing lies within the root, which is never left. -/
def within (path scope : List Char) : Bool :=
  !scope.isEmpty && scope.isPrefixOf path &&
    match path.drop scope.length with
    | [] => true
    | c :: _ => c == '.'

/-- The scopes in which a path lies that begins with `before`, outermost first. -/
def scopesFrom (before : List Char) : List Char → List (List Char)
  | [] => if before.isEmpty then [] else [before]
  | c :: rest =>
    if c = '.' then before :: scopesFrom (before ++ [c]) rest else scopesFrom (before ++ [c]) rest

/-- Every scope in which a path lies, outermost first: what stands before each dot, then the path
itself unless it is the root. -/
def scopes (path : List Char) : List (List Char) := scopesFrom [] path

end LineRules.Path
