/-!
# Kinds of error

Every error that the controller reports has a kind. The kind fixes the status code, whether the
caller may try again, and the template of the message. The provisioning controller requeues errors
that may be retried and gives up on the others; the admission webhook rejects the request either
way.
-/

namespace SubpathCsi

/-- Status codes shared by provisioning, expansion and admission errors. -/
inductive StatusCode where
  /-- The request is malformed. -/
  | invalidArgument
  /-- The caller may not do this. -/
  | permissionDenied
  /-- The object is absent. -/
  | notFound
  /-- The object is there already. -/
  | alreadyExists
  /-- A dependency failed. -/
  | internal
  /-- A remote service cannot be reached. -/
  | unavailable
  /-- The operation is not supported. -/
  | unimplemented
  deriving DecidableEq, Repr

/-- The name of a status code. -/
def StatusCode.name : StatusCode → String
  | invalidArgument => "InvalidArgument"
  | permissionDenied => "PermissionDenied"
  | notFound => "NotFound"
  | alreadyExists => "AlreadyExists"
  | internal => "Internal"
  | unavailable => "Unavailable"
  | unimplemented => "Unimplemented"

/-- The kinds of error. -/
inductive ErrorKind where
  /-- An error of no particular kind. -/
  | unknown
  /-- A malformed request or an unsupported combination of parameters. -/
  | invalidArgument
  /-- The requested capacity rounds down to no whole GiB. -/
  | capacityTooSmall
  /-- A pod refers to filesystems of different owners. -/
  | signerMismatch
  /-- A pod asks for a runtime class that is not known. -/
  | unsupportedRuntimeClass
  /-- A credential or authorization check failed. -/
  | permissionDenied
  /-- An object is absent. -/
  | resourceNotFound
  /-- An object is there already. -/
  | resourceAlreadyExists
  /-- An unexpected failure of a dependency; safe to retry. -/
  | internalError
  /-- The filesystem manager returned an error. -/
  | filesystemManagerError
  /-- A remote service could not be reached. -/
  | unavailable
  /-- The connection to a management service failed. -/
  | managerConnectionError
  /-- A management service did not answer in time. -/
  | managerTimeout
  /-- The API server returned an unexpected error. -/
  | kubernetesAPIError
  /-- The operation is not supported at this layer. -/
  | unimplemented
  deriving DecidableEq, Repr

namespace ErrorKind

/-- All kinds. -/
def all : List ErrorKind :=
  [unknown, invalidArgument, capacityTooSmall, signerMismatch, unsupportedRuntimeClass,
   permissionDenied, resourceNotFound, resourceAlreadyExists, internalError,
   filesystemManagerError, unavailable, managerConnectionError, managerTimeout,
   kubernetesAPIError, unimplemented]

/-- The status code of a kind. -/
def code : ErrorKind → StatusCode
  | unknown => .internal
  | invalidArgument | capacityTooSmall | signerMismatch | unsupportedRuntimeClass =>
    .invalidArgument
  | permissionDenied => .permissionDenied
  | resourceNotFound => .notFound
  | resourceAlreadyExists => .alreadyExists
  | internalError | filesystemManagerError => .internal
  | unavailable | managerConnectionError | managerTimeout | kubernetesAPIError => .unavailable
  | unimplemented => .unimplemented

/-- The caller may try again. -/
def retryable : ErrorKind → Bool
  | internalError | filesystemManagerError | unavailable | managerConnectionError
  | managerTimeout | kubernetesAPIError => true
  | _ => false

/-- The template of the message; `%(name)s` stands for the argument `name`. -/
def template : ErrorKind → String
  | unknown => "An unknown exception occurred."
  | invalidArgument => "Invalid argument: %(details)s"
  | capacityTooSmall => "capacity %(capacity)s is too small, at least 1GiB for quota"
  | signerMismatch =>
    "not allowed different user's filesystems currently [%(expected)s, %(actual)s]"
  | unsupportedRuntimeClass => "runtime class %(runtime_class)s is not supported"
  | permissionDenied => "no permission to %(action)s: %(details)s"
  | resourceNotFound => "%(kind)s %(name)s not found"
  | resourceAlreadyExists => "%(kind)s %(name)s already exists"
  | internalError => "Internal error: %(details)s"
  | filesystemManagerError => "Filesystem manager error: %(details)s"
  | unavailable => "Service unavailable: %(details)s"
  | managerConnectionError => "Failed to connect to %(service)s: %(details)s"
  | managerTimeout => "%(service)s request timed out after %(timeout)s seconds"
  | kubernetesAPIError => "Kubernetes API error: %(details)s"
  | unimplemented => "%(operation)s is not implemented"

end ErrorKind

end SubpathCsi
