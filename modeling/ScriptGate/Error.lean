import ScriptGate.Config.Validation
import ScriptGate.Profile.Name

/-! What can go wrong, by cause, with the code and the text a caller is given. -/
namespace ScriptGate

/-- Why a file could not be read. -/
inductive ReadFault where
  | notFound | isDirectory | notDirectory | nameTooLong | nulInName | notUtf8
  | other (reason : String)
  deriving DecidableEq, Repr

def ReadFault.message : ReadFault → String
  | .notFound => "No such file or directory (os error 2)"
  | .isDirectory => "Is a directory (os error 21)"
  | .notDirectory => "Not a directory (os error 20)"
  | .nameTooLong => "File name too long (os error 36)"
  | .nulInName => "file name contained an unexpected NUL byte"
  | .notUtf8 => "stream did not contain valid UTF-8"
  | .other reason => reason

inductive Error where
  /-- The document of a tree is at fault. -/
  | tree (fault : TreeFault)
  | payloadTooLarge
  | unknownProfile (id : String)
  | invalidYaml
  | config (violation : Violation)
  /-- A list of names is at fault. -/
  | name (fault : NameFault)
  /-- A profile of the configuration lists a bad name. -/
  | profile (id : String) (fault : NameFault)
  | unreadable (path : String) (fault : ReadFault)
  deriving DecidableEq, Repr

inductive ErrorCode where
  | badRequest | malformedTree | treeTooDeep | payloadTooLarge | unknownProfile
  | unsupportedVersion | internal
  deriving DecidableEq, Repr

def ErrorCode.text : ErrorCode → String
  | .badRequest => "BAD_REQUEST"
  | .malformedTree => "MALFORMED_TREE"
  | .treeTooDeep => "TREE_TOO_DEEP"
  | .payloadTooLarge => "PAYLOAD_TOO_LARGE"
  | .unknownProfile => "UNKNOWN_PROFILE"
  | .unsupportedVersion => "UNSUPPORTED_VERSION"
  | .internal => "INTERNAL"

namespace Error

def code : Error → ErrorCode
  | .tree (.tooDeep _) => .treeTooDeep
  | .tree _ => .malformedTree
  | .payloadTooLarge => .payloadTooLarge
  | .unknownProfile _ => .unknownProfile
  | .config .unsupportedVersion => .unsupportedVersion
  | .invalidYaml | .config _ | .name _ | .profile .. => .badRequest
  | .unreadable .. => .internal

/-- What the error is about, without its code's own words. -/
def detail : Error → String
  | .tree fault => fault.message
  | .payloadTooLarge => ""
  | .unknownProfile id => id
  | .invalidYaml => "invalid yaml"
  | .config violation => violation.message
  | .name fault => fault.message
  | .profile id fault =>
    "profile policy compile failed (profile=" ++ id ++ "): bad request: " ++ fault.message
  | .unreadable path fault => "read config failed (" ++ path ++ "): " ++ fault.message

def message (e : Error) : String :=
  match e.code with
  | .badRequest => "bad request: " ++ e.detail
  | .malformedTree => "malformed tree: " ++ e.detail
  | .treeTooDeep => e.detail
  | .payloadTooLarge => "payload too large"
  | .unknownProfile => "unknown profile: " ++ e.detail
  | .unsupportedVersion => e.detail
  | .internal => "internal: " ++ e.detail

end Error

end ScriptGate
