import SloCompiler.BuildError

namespace SloCompiler

inductive FileFault where
  | notFound
  | notDirectory
  | isDirectory
  | alreadyExists
  | system
  deriving DecidableEq, Repr

inductive Fault where
  | build (error : BuildError)
  | refused (cause : Refusal)
  | unknownKey (key : String)
  | overflow
  | tooDeep
  | mistyped
  | noAttribute
  | noItem
  | file (cause : FileFault)

namespace Fault

-- A build error whose names cannot be joined has no text and so cannot be raised.
def ofBuildError (e : BuildError) : Fault :=
  if e.location?.isSome then .build e else .mistyped

def ofUnshown : Unshown → Fault
  | .longNumber => .refused .longNumber
  | .tooDeep => .tooDeep

def ofCause (cause : Cause) : Fault := .build { cause }

end Fault

end SloCompiler
