import ChatWarden.CommandLine.Basic
import ChatWarden.Options
import ChatWarden.Text.Decimal

/-!
# Reading the command line

Letters may share one dash. A value follows in the next argument, after an equals sign, or directly
after the letter. A value given apart is only looked at when the next option begins or the line
ends, so an unknown option before that is reported first.
-/

namespace ChatWarden.CommandLine

def idValue (value : String) : Except Stop Id :=
  match Text.uint64? value with
  | some id => .ok id
  | none => .error .valueValidation

def pathValue (value : String) : Except Stop String :=
  if value = "" then .error .invalidValue else .ok value

def charValue (value : String) : Except Stop Char :=
  match value.toList with
  | [c] => .ok c
  | _ => .error .valueValidation

def setValue (o : Options) (s : Switch) (value : String) : Except Stop Options :=
  match s with
  | .config => (pathValue value).map fun v => { o with config := some v }
  | .permissions => (pathValue value).map fun v => { o with permissions := some v }
  | .sign => (charValue value).map fun v => { o with sign := some v }
  | .maintainer => (idValue value).map fun v => { o with maintainer := some v }
  | .send => .ok { o with messages := o.messages ++ [value] }
  | .script => .ok { o with script := some value }
  | .user => (idValue value).map fun v => { o with user := v }
  | .channel => (idValue value).map fun v => { o with channel := v }
  | .guild => (idValue value).map fun v => { o with guild := some v }
  | .role => (idValue value).map fun v => { o with roles := o.roles ++ [v] }
  | .output => .ok { o with output := value }
  | .check | .direct | .quiet | .help | .version => .ok o

def setFlag (o : Options) (s : Switch) : Except Stop Options :=
  match s with
  | .check => .ok { o with check := true }
  | .direct => .ok { o with isDirect := true }
  | .quiet => .ok { o with isQuiet := true }
  | .help => .error .displayHelp
  | .version => .error .displayVersion
  | _ => .error .invalidValue

/-- A command line that has been read up to some place. -/
structure Reading where
  options : Options := {}
  given : List Switch := []
  /-- The last option, if its value is given apart, and the value once it has come. -/
  pending : Option (Switch × Option String) := none
  /-- Whether two dashes have ended the options. -/
  hasEnded : Bool := false

namespace Reading

/-- Sets an option with the value it has, if it has one. -/
def apply (r : Reading) (s : Switch) (value : Option String) : Except Stop Reading :=
  match s.takesValue, value with
  | true, none => .error .invalidValue
  | _, value =>
    if r.given.contains s && !s.mayRepeat then .error .argumentConflict
    else do
      let options ←
        match value with
        | some v => setValue r.options s v
        | none => setFlag r.options s
      return { r with options, given := s :: r.given }

def settle (r : Reading) : Except Stop Reading :=
  match r.pending with
  | none => .ok r
  | some (s, value) => { r with pending := none }.apply s value

/-- Begins an option of which the value, if it takes one, comes in the next argument. -/
def begin (r : Reading) (s : Switch) : Except Stop Reading := do
  let r ← r.settle
  if s.takesValue then return { r with pending := some (s, none) } else r.apply s none

/-- Sets an option with a value in the same argument. -/
def attach (r : Reading) (s : Switch) (value : String) : Except Stop Reading := do
  (← r.settle).apply s (some value)

def long (r : Reading) (cs : List Char) : Except Stop Reading :=
  let name := cs.takeWhile (· != '=')
  match Switch.ofLongName? (String.ofList name), cs.drop name.length with
  | none, _ => .error .unknownArgument
  | some s, [] => r.begin s
  | some s, _ :: value =>
    if s.takesValue then r.attach s (String.ofList value) else .error .tooManyValues

def letters (r : Reading) : List Char → Except Stop Reading
  | [] => .ok r
  | c :: rest =>
    match Switch.ofLetter? c with
    | none => .error .unknownArgument
    | some s =>
      if s.takesValue then
        match rest with
        | [] => r.begin s
        | '=' :: value => r.attach s (String.ofList value)
        | value => r.attach s (String.ofList value)
      else do
        let r ← r.begin s
        r.letters rest

def plain (r : Reading) (arg : String) : Except Stop Reading :=
  match r.pending with
  | some (s, none) => .ok { r with pending := some (s, some arg) }
  | _ => .error .unknownArgument

def argument (r : Reading) (arg : String) : Except Stop Reading :=
  if r.hasEnded then .error .unknownArgument
  else
    match arg.toList with
    | ['-', '-'] => .ok { r with hasEnded := true }
    | '-' :: '-' :: rest => r.long rest
    | '-' :: c :: rest => r.letters (c :: rest)
    | _ => r.plain arg

end Reading

/-- The options that arguments ask for. The maintainer may also come from the environment. -/
def parse (maintainer : Option String) (args : List String) : Except Stop Options := do
  let r ← args.foldlM Reading.argument {}
  let r ← r.settle
  let options ←
    match maintainer with
    | some value =>
      if r.given.contains .maintainer then pure r.options
      else setValue r.options .maintainer value
    | none => pure r.options
  if r.given.contains .direct && r.given.contains .guild then throw .argumentConflict
  return options

end ChatWarden.CommandLine
