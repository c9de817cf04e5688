import ChatWarden.Report
import ChatWarden.Settings
import ChatWarden.Text.LowerCase

/-!
# Options

What a run of the program is asked for. Options go before settings (`applyTo`), and they say who
sends the messages (`actor`).
-/

namespace ChatWarden

namespace Format

/-- The format of a name, in whatever case. -/
def ofName? (name : String) : Option Format :=
  match Text.lowerCase name with
  | "text" => some .text
  | "json" => some .json
  | _ => none

/-- What is said about a name that is no format. -/
def unknownMessage (name : String) : String :=
  "Invalid output format: " ++ name ++ ". Expected: text or json"

end Format

/-- What the command line asks for. -/
structure Options where
  config : Option String := none
  permissions : Option String := none
  sign : Option Char := none
  maintainer : Option Id := none
  check : Bool := false
  messages : List String := []
  script : Option String := none
  user : Id := 1
  channel : Id := 1
  guild : Option Id := none
  roles : List Id := []
  isDirect : Bool := false
  output : String := "text"
  isQuiet : Bool := false
deriving DecidableEq

namespace Options

/-- What is wrong with options that fit the command line. -/
def fault? (o : Options) : Option String :=
  if !o.check && o.messages.isEmpty && o.script.isNone then
    some "Nothing to do: pass --check, --send or --script"
  else
    match Format.ofName? o.output with
    | none => some (Format.unknownMessage o.output)
    | some _ => none

/-- Whoever sends the messages, given the maintainer from the settings. -/
def actor (o : Options) (maintainer : Option Id) : Actor :=
  let a : Actor := { user := o.user, channel := o.channel, roles := o.roles }
  let a :=
    if o.isDirect then a.directMessage
    else
      match o.guild with
      | some guild => a.inGuild guild
      | none => a
  a.maintainer (maintainer = some o.user)

/-- The settings with what the options say instead. -/
def applyTo (o : Options) (s : Settings) : Except Failure Settings :=
  { s with
    sign := o.sign.getD s.sign
    maintainer := o.maintainer.orElse fun _ => s.maintainer
    directory := o.permissions.getD s.directory }.checked

end Options

end ChatWarden
