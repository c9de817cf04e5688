import ChatWarden.Catalog
import ChatWarden.FileTree
import ChatWarden.Policy.ParseError

/-!
# Failures

Whatever can go wrong outside a single message: settings, registration, policy documents, files and
delivery.
-/

namespace ChatWarden

inductive Failure where
  | settings (text : String)
  | registration (error : RegistrationError)
  /-- A document that does not parse, under the name of its policy. -/
  | policy (name : String) (error : Policy.ParseError)
  | file (path : String) (error : FileError)
  | delivery (text : String)
deriving DecidableEq

namespace Failure

def message : Failure → String
  | .settings text => "Configuration error: " ++ text
  | .registration error => "Registration error: " ++ error.message
  | .policy name error => "Policy error in " ++ name ++ ": " ++ error.message
  | .file path error => "I/O error on " ++ path ++ ": " ++ error.message
  | .delivery text => "Delivery error: " ++ text

def category : Failure → String
  | .settings _ => "Configuration Error"
  | .registration _ => "Registration Error"
  | .policy _ _ => "Policy Error"
  | .file _ _ => "I/O Error"
  | .delivery _ => "Delivery Error"

end Failure

end ChatWarden
