import ChatWarden.Builtin
import ChatWarden.CommandLine.Parser
import ChatWarden.Engine

/-!
# The program

The program loads the settings and the policies. Then it either checks the policies or dispatches
the messages on the command line and in a script to the built-in commands.
-/

namespace ChatWarden.Program

/-- What the program prints and the code it ends with. -/
structure Result where
  stdout : String
  stderr : String := ""
  exitCode : Nat := 0

/-- The messages in a script: its lines without blanks around them. Empty lines and those that
begin with a number sign are passed over. -/
def scriptMessages (source : String) : List String :=
  ((Text.lines source.toList).map Text.trim).filterMap fun line =>
    match line with
    | [] => none
    | '#' :: _ => none
    | line => some (String.ofList line)

/-- The messages in the script at a path; a dash stands for the standard input. -/
def loadScript (path : String) : Attempt (List String) :=
  let messages (name : String) (content : Except FileError ByteArray) : Attempt (List String) :=
    match content.bind decodeText with
    | .error e => .done (.error (.file name e))
    | .ok source => .done (.ok (scriptMessages source))
  if path = "-" then .input fun bytes => messages "<stdin>" (.ok bytes)
  else .read path fun content => messages path content

/-- The engine with the built-in commands and the policies of the directory in the settings. -/
def buildEngine (s : Settings) : Attempt (Engine Builtin × LoadReport) :=
  match Builtin.registerIn id CatalogBuilder.empty (Builtin.all s.perPage) with
  | (_, some e) => .done (.error (.registration e))
  | (builder, none) =>
    .list s.directory fun listing =>
      .done ((LoadReport.ofListing s.directory s.extension listing).map fun report =>
        (⟨⟨builder.catalog, report.policies⟩⟩, report))

/-- Shows every policy in its written form, and what could not be loaded. -/
def checkResult (report : LoadReport) : Result :=
  let shown (p : Policy) : String := "# " ++ p.name ++ "\n" ++ p.render ++ "\n"
  { stdout := String.join (report.policies.values.map shown) ++ report.summary ++ "\n"
    stderr := String.join (report.failures.map fun (path, e) => path ++ ": " ++ e.message ++ "\n")
    exitCode := if report.isClean then 0 else 1 }

/-- The messages on the command line, then those in the script. -/
def allMessages (o : Options) : Attempt (List String) :=
  match o.script with
  | none => .done (.ok o.messages)
  | some path => (loadScript path).followedBy fun more => .done (.ok (o.messages ++ more))

/-- Runs the program with given options. Without a path for the settings the given one is taken. -/
def run (defaultConfig : String) (o : Options) : Attempt Result :=
  match o.fault?, Format.ofName? o.output with
  | some text, _ => .done (.error (.settings text))
  | none, none => .done (.error (.settings (Format.unknownMessage o.output)))
  | none, some format =>
    (Settings.load (o.config.getD defaultConfig)).followedBy fun settings =>
      match o.applyTo settings with
      | .error e => .done (.error e)
      | .ok settings =>
        (buildEngine settings).followedBy fun (engine, report) =>
          if o.check then .done (.ok (checkResult report))
          else
            (allMessages o).followedBy fun messages =>
              let actor := o.actor settings.maintainer
              let reports :=
                Report.dispatchAll Builtin.behave engine.current settings.sign actor messages
              .done (.ok { stdout := Report.renderAll format reports })

end ChatWarden.Program
