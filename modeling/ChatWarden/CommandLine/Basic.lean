/-!
# Switches

A switch names an option on the command line: always by a long name, sometimes by a letter as well.
-/

namespace ChatWarden.CommandLine

/-- Why reading the command line ends early. -/
inductive Stop where
  | unknownArgument
  | invalidValue
  | valueValidation
  | argumentConflict
  | tooManyValues
  | displayHelp
  | displayVersion
deriving DecidableEq

/-- What is said to a person who has to give other arguments. -/
def Stop.message : Stop → String
  | .unknownArgument => "error: unexpected argument"
  | .invalidValue => "error: a value is required"
  | .valueValidation => "error: invalid value"
  | .argumentConflict => "error: arguments cannot be used together"
  | .tooManyValues => "error: unexpected value"
  | .displayHelp => ""
  | .displayVersion => ""

inductive Switch where
  | config
  | permissions
  | sign
  | maintainer
  | check
  | send
  | script
  | user
  | channel
  | guild
  | role
  | direct
  | output
  | quiet
  | help
  | version
deriving DecidableEq

namespace Switch

def all : List Switch :=
  [config, permissions, sign, maintainer, check, send, script, user, channel, guild, role, direct,
    output, quiet, help, version]

def longName : Switch → String
  | .config => "config"
  | .permissions => "permissions"
  | .sign => "prefix"
  | .maintainer => "maintainer"
  | .check => "check"
  | .send => "send"
  | .script => "script"
  | .user => "user"
  | .channel => "channel"
  | .guild => "guild"
  | .role => "role"
  | .direct => "dm"
  | .output => "output"
  | .quiet => "quiet"
  | .help => "help"
  | .version => "version"

def letter? : Switch → Option Char
  | .permissions => some 'p'
  | .send => some 's'
  | .user => some 'u'
  | .channel => some 'c'
  | .guild => some 'g'
  | .role => some 'r'
  | .quiet => some 'q'
  | .help => some 'h'
  | .version => some 'V'
  | _ => none

def takesValue : Switch → Bool
  | .check | .direct | .quiet | .help | .version => false
  | _ => true

def mayRepeat : Switch → Bool
  | .send | .role => true
  | _ => false

def ofLongName? (name : String) : Option Switch :=
  all.find? fun s => s.longName == name

def ofLetter? (c : Char) : Option Switch :=
  all.find? fun s => s.letter? == some c

end Switch

/-- The options in one text, each with its letter if it has one. -/
def usage (program : String) : String :=
  let line (s : Switch) : String :=
    let letter :=
      match s.letter? with
      | some c => "-" ++ c.toString ++ ", "
      | none => "    "
    "  " ++ letter ++ "--" ++ s.longName ++ (if s.takesValue then " <VALUE>" else "") ++ "\n"
  "Usage: " ++ program ++ " [OPTIONS]\n\nOptions:\n" ++ String.join (Switch.all.map line)

end ChatWarden.CommandLine
