import RepoBrowser.Text.Base64

/-!
# What can go wrong

* `ApiFailure` — why a forge's interface gave no answer;
* `Error` — the causes of failure that a user is told of;
* `Error.message` — their wording.

What a transport or the text of a configuration file does wrong is worded by `ApiFailure.text` and
by the reader of the file.
-/

namespace RepoBrowser

/-- Why a forge's interface gave no answer. -/
inductive ApiFailure where
  /-- The forge or a decoder said why. -/
  | said (text : String)
  /-- The address or a header of the request could not be built. -/
  | unbuildable
  /-- The request to `url` could not be sent, or no reply came back. -/
  | unsent (url : String)
  /-- The body of a reply is broken or not of the expected form. -/
  | undecodable
  /-- A reply whose status, with its reason, is not one of success. -/
  | status (line : String) (body : String)
  /-- A file's content is not Base64. -/
  | badContent (cause : Text.Base64.Error)
  /-- A path names no directory. -/
  | notDirectory (path : String)
  /-- The route is not a valid URI. -/
  | badRoute
  /-- The forge refused the request and said so in its own form. -/
  | refused
  /-- A page of results is neither a list nor has items. -/
  | notPage
  /-- The exchange with the forge broke down below the level of its interface. -/
  | exchange
  deriving DecidableEq

def ApiFailure.text : ApiFailure → String
  | .said t => t
  | .unbuildable => "builder error"
  | .unsent url => "error sending request for url (" ++ url ++ ")"
  | .undecodable => "error decoding response body"
  | .status line body => "Gitea API " ++ line ++ ": " ++ body
  | .badContent e => "invalid base64 content: " ++ e.message
  | .notDirectory path => path ++ " is not a directory"
  | .badRoute => "Uri"
  | .refused => "GitHub"
  | .notPage => "Other"
  | .exchange => "no usable reply"

/-- The causes of failure that a user is told of. -/
inductive Error where
  | notFound (name : String)
  | unresolved (reason : String)
  | unloaded (what reason : String)
  | api (failure : ApiFailure)
  | auth (reason : String)
  | config (reason : String)
  deriving DecidableEq

namespace Error

def message : Error → String
  | .notFound name => "Not found: " ++ name
  | .unresolved reason => "Could not resolve reference: " ++ reason
  | .unloaded what reason => "Failed to load " ++ what ++ ": " ++ reason
  | .api f => "API error: " ++ f.text
  | .auth reason => "Authentication error: " ++ reason
  | .config reason => "Configuration error: " ++ reason

/-- No source gave a token for a forge. -/
def noToken (forge : String) (source : Option String) : Error :=
  .auth ("No token found for forge '" ++ forge ++ "'. Set " ++ source.getD "a token env var"
    ++ " or configure a token_command.")

def noForgeNamed (name : String) : Error := .config ("no forge named '" ++ name ++ "'")

def noForges : Error := .config "no forges configured"

def noRepository : Error :=
  .config "no repository given and no origin remote to infer one from"

end Error

end RepoBrowser
