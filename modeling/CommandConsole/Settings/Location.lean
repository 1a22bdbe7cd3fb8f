import CommandConsole.Fault
import CommandConsole.Text.Lines
import CommandConsole.Text.Point

/-!
# Locations

A setting that names a file may begin with a home directory and may mention variables. `Host.resolve` makes an absolute
path of it that has no empty component, no `.` and no `..`, and runs through no link. Links that lead round in a circle are a
fault, and so are names that the system does not take.
-/

namespace CommandConsole

/-- Where a link leads. -/
inductive Link where
  /-- To a place, given by its path, which runs through no link. -/
  | to (goal : String)
  /-- Round in a circle. The path is what is left of the way when it comes to a link for the second time. -/
  | loop (rest : String)
  /-- Nobody knows, since the link cannot be read. -/
  | unreadable (f : Fault)

/-- What the console knows of the computer it runs on. -/
structure Host where
  /-- The variables of the process. -/
  environment : List (String × String) := []
  /-- The home directory of the account that runs the console. A tilde stands for it where the variable `HOME` is not set. -/
  home : String
  /-- The home directory as it was found when the program was loaded. The history is kept below it unless another place is
  configured, whatever `HOME` has become since. -/
  homeAtStart : String := home
  /-- The home directories of the accounts. -/
  accounts : List (String × String) := []
  /-- The working directory, as an absolute path. -/
  directory : String
  /-- The links between folders, by their absolute paths. -/
  links : List (String × Link) := []

/-! ## Names that the system takes -/

namespace Point

/-- A surrogate that stands for no byte. The others stand for the bytes of names that are no texts. -/
def isStray : Point → Bool
  | char _ => false
  | lone offset => offset < 0x480 || 0x500 ≤ offset

/-- A code point that may be in a name: any character but the null character, and the surrogates that stand for a byte. -/
def mayName (p : Point) : Bool := !p.isStray && p ≠ .char '\x00'

end Point

/-- The fault of surrogates that stand for no byte: the first one, its position, and how many more follow it. -/
def strayFault (p : Point) (position more : Nat) : Fault :=
  let what := if more = 0 then s!"character {quotePoints [p]} in position {position}"
    else s!"characters in position {position}-{position + more}"
  ⟨.encoding, s!"'utf-8' codec can't encode {what}: surrogates not allowed"⟩

/-- What is wrong with the surrogates of a text that has some code points ahead of it. -/
def strayFault? (ahead : Nat) (ps : List Point) : Option Fault :=
  match ps.dropWhile (!·.isStray) with
  | [] => none
  | p :: rest =>
    some (strayFault p (ahead + (ps.takeWhile (!·.isStray)).length) (rest.takeWhile Point.isLone).length)

/-- Hands a name to the system, or the end of one that has some code points ahead of it. -/
def checkPathName (ahead : Nat) (name : List Point) : Except Fault Unit :=
  match strayFault? ahead name with
  | some f => .error f
  | none => if .char '\x00' ∈ name then .error (.badValue "embedded null byte") else .ok ()

namespace Host

/-! ## Homes and variables -/

/-- The home directory that a tilde with a name stands for; without a name it is one's own. -/
def homeOf (h : Host) (name : List Point) : Except Fault (Option String) :=
  if name = [] then .ok (some ((h.environment.lookup "HOME").getD h.home))
  else (checkPathName 0 name).map fun _ => h.accounts.lookup (shownText name)

/-- Characters without the slashes at their end. -/
def dropSlashes (cs : List Char) : List Char := (cs.reverse.dropWhile (· = '/')).reverse

/-- Replaces a tilde at the beginning, with the name behind it, by the home directory it stands for. -/
def expandHome (h : Host) (ps : List Point) : Except Fault (List Point) :=
  match ps with
  | .char '~' :: rest => do
    match ← h.homeOf (rest.takeWhile (· ≠ .char '/')) with
    | none => return ps
    | some home =>
      match (dropSlashes home.toList).map .char ++ rest.dropWhile (· ≠ .char '/') with
      | [] => return [.char '/']
      | path => return path
  | _ => .ok ps

/-- A code point of a variable's name where the name stands without braces. -/
def isVariablePoint : Point → Bool
  | .char c => c.isAlphanum || c = '_'
  | .lone _ => false

/-- The name of a variable behind a dollar sign, and how many code points mention it. -/
def mention? (ps : List Point) : Option (List Point × Nat) :=
  match ps with
  | .char '\x7b' :: rest =>
    let name := rest.takeWhile (· ≠ .char '\x7d')
    if name.length < rest.length then some (name, name.length + 2) else none
  | _ =>
    let name := ps.takeWhile isVariablePoint
    if name.isEmpty then none else some (name, name.length)

/-- The text of a variable, if it is set. -/
def assigned? (h : Host) (name : List Point) : Except Fault (Option String) :=
  match strayFault? 0 name with
  | some f => .error f
  | none => .ok (h.environment.lookup (shownText name))

/-- Replaces the variables that are mentioned after the next `skip` code points, which are dropped. A variable that is not
set stays as it is written. -/
def expandAfter (h : Host) : Nat → List Point → Except Fault (List Point)
  | _, [] => .ok []
  | skip + 1, _ :: ps => h.expandAfter skip ps
  | 0, p :: ps =>
    match if p = .char '$' then mention? ps else none with
    | none => (h.expandAfter 0 ps).map (p :: ·)
    | some (name, length) => do
      let text? ← h.assigned? name
      return (text?.map pointsOf).getD (p :: ps.take length) ++ (← h.expandAfter length ps)

/-- What a location is once the homes and the variables in it have been put in their places. -/
def expanded (h : Host) (location : List Point) : Except Fault (List Point) := do
  h.expandAfter 0 (← h.expandHome location)

/-! ## Ways -/

/-- The components of a path, without the empty ones. -/
def componentsOf (path : String) : List (List Point) := (piecesAt (.char '/') (pointsOf path)).filter (· ≠ [])

/-- The code points of the absolute path with some components. -/
def pathPoints (components : List (List Point)) : List Point := .char '/' :: [.char '/'].intercalate components

/-- The absolute path with some components. -/
def pathOf (components : List (List Point)) : String := shownText (pathPoints components)

/-- A component that does not name a place: none at all, one dot or two. -/
def isMove (component : List Point) : Bool := component ∈ [[], [.char '.'], [.char '.', .char '.']]

/-- Goes one component of a path further, where there is no link; the components so far are given from the last to the
first. -/
def step (places : List (List Point)) (component : List Point) : List (List Point) :=
  if component = [] ∨ component = [.char '.'] then places
  else if component = [.char '.', .char '.'] then places.tail
  else component :: places

/-- The link at a place. -/
def link? (h : Host) (places : List (List Point)) : Option Link :=
  (h.links.find? fun (path, _) => (componentsOf path).reverse = places).map (·.2)

/-- A way comes to a link that leads round in a circle. -/
def goesRound (h : Host) : List (List Point) → List (List Point) → Bool
  | _, [] => false
  | places, component :: rest =>
    match h.link? (component :: places) with
    | none => h.goesRound (component :: places) rest
    | some (.to goal) => h.goesRound (componentsOf goal).reverse rest
    | some (.loop _) => true
    | some (.unreadable _) => false

/-- The path with some components, looked up once more. -/
def lookUp (h : Host) (components : List (List Point)) : Except Fault String := do
  checkPathName 0 (pathPoints components)
  if h.goesRound [] components then throw (.badState s!"Symlink loop from {quotePoints (pathPoints components)}")
  return pathOf components

/-- Goes the rest of a way and gives the path that it leads to. A circle ends it: what is left of the way then is taken
as it is written. -/
def walk (h : Host) : List (List Point) → List (List Point) → Except Fault String
  | places, [] => .ok (pathOf places.reverse)
  | places, component :: rest =>
    if isMove component then h.walk (step places component) rest
    else
      match checkPathName (pathPoints (places.reverse ++ [[]])).length component with
      | .error f => .error f
      | .ok () =>
        match h.link? (component :: places) with
        | none => h.walk (component :: places) rest
        | some (.to goal) => h.walk (componentsOf goal).reverse rest
        | some (.loop way) => h.lookUp ((componentsOf way ++ rest).foldl step []).reverse
        | some (.unreadable f) => .error f

/-- The absolute path of a location. -/
def resolve (h : Host) (location : List Point) : Except Fault String := do
  let ps ← h.expanded location
  let whole := if ps.head? = some (.char '/') then ps else pointsOf h.directory ++ .char '/' :: ps
  h.walk [] (piecesAt (.char '/') whole)

end Host

end CommandConsole
