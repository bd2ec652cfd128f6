import PascalWorkspace.Console.Markup
import PascalWorkspace.Manifest.Basic
import PascalWorkspace.Uri.FileUri
import PascalWorkspace.Xml.Source
import PascalWorkspace.Yaml.Token

/-! Everything that can end an operation early. -/
namespace PascalWorkspace

/-- Why a request is rejected. -/
inductive RequestFault where
  | paramsNotObject
  | optionsNotObject
  | uriMissing
  | notFileUri (uri : Text.Wide)
  | remoteHost (uri : Text.Wide)
  | noAbsolutePath (uri : Text.Wide)
  | unresolvableRoot (error : PathError)
  deriving DecidableEq, Repr

def RequestFault.message : RequestFault → String
  | .paramsNotObject => "initialize params must be an object"
  | .optionsNotObject => "initializationOptions must be an object"
  | .uriMissing => "rootUri must be a non-empty string"
  | .notFileUri uri => s!"rootUri is not a file URI: {uri.quoted}"
  | .remoteHost uri => s!"rootUri refers to a remote host: {uri.quoted}"
  | .noAbsolutePath uri => s!"rootUri has no absolute path: {uri.quoted}"
  | .unresolvableRoot e => s!"rootUri cannot be resolved: {e.message}"

inductive Failure where
  | manifest (path : String) (fault : ManifestFault)
  | request (fault : RequestFault)
  | badPath (error : PathError)
  | unknownEncoding
  | multiByteEncoding
  /-- The URI is none at all. -/
  | malformedUri
  /-- Reading a configuration file breaks off. -/
  | brokenSettings (fault : Yaml.Fault)
  /-- A text for the console is marked wrongly. -/
  | brokenMarkup (fault : Console.MarkupFault)
  /-- More packages turned up than the file tree can hold. -/
  | exhausted
  deriving DecidableEq, Repr

/-- The code of a request that cannot be served. -/
def invalidParams : Int := -32602

def Failure.message : Failure → String
  | .manifest path fault => s!"{path}: {fault.reason path}"
  | .request fault => fault.message
  | .badPath e => e.message
  | .unknownEncoding => "unknown encoding"
  | .multiByteEncoding => "multi-byte encodings are not supported"
  | .malformedUri => "malformed URI"
  | .brokenSettings _ => "configuration file cannot be read"
  | .brokenMarkup _ => "unbalanced markup"
  | .exhausted => "too many packages"

end PascalWorkspace
