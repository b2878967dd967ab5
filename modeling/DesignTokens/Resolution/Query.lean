import DesignTokens.Resolution.Basic

/-!
Questions about a whole theme: which tokens fail, and which refer to a path.
-/

namespace DesignTokens

def attempt (store : Store) (theme : Theme) (allowance : Allowance) (path : Path) :
    StateM Cache (Except Error Value) :=
  (resolve store theme allowance path).run

def resolve? (store : Store) (theme : Theme) (allowance : Allowance) (path : Path) :
    Walk (Option Value) :=
  tryCatch (some <$> resolve store theme allowance path) fun error =>
    if error.kind.isTokenError then return none else throw error

def resolveAll (store : Store) (theme : Theme) (allowance : Allowance)
    (results : Entries Path (Except Error Value)) :
    List String → Walk (Entries Path (Except Error Value))
  | [] => return results
  | raw :: rest => do
      let path ← Walk.ofExcept (Path.read raw)
      let result ← ExceptT.lift (attempt store theme allowance path)
      resolveAll store theme allowance (results.insert path result) rest

def failures (store : Store) (theme : Theme) (allowance : Allowance) :
    List Path → StateM Cache (List Error)
  | [] => return []
  | path :: rest => do
      match ← attempt store theme allowance path with
      | .ok _ => failures store theme allowance rest
      | .error error => return error :: (← failures store theme allowance rest)

def validate (store : Store) (allowance : Allowance) : List Theme → StateM Cache (List Error)
  | [] => return []
  | theme :: rest => do
      let found ← failures store theme allowance (store.visiblePaths theme)
      return found ++ (← validate store allowance rest)

def Value.refersTo (value : Value) (path : Path) : Bool :=
  value.targets.any fun text => Path.ofReference? text == some path

def Store.referrers (store : Store) (target : Path) (theme : Theme) : List Path :=
  (store.visiblePaths theme).filter fun path =>
    (store.visible? path theme).any (·.refersTo target)

end DesignTokens
