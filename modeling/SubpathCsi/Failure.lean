import SubpathCsi.Failure.Kind
import SubpathCsi.Ini
import SubpathCsi.Number.Decimal
import SubpathCsi.Number.Integer
import SubpathCsi.Quantity

/-!
# Failures

What can make an operation fail: an error that the controller reports, with its cause; a defect,
an unexpected condition that no rule foresees; or an interruption from outside. `Failure.message`
words all of them.
-/

namespace SubpathCsi

/-- Causes of an `InvalidArgument` error. -/
inductive BadArgument where
  /-- A filesystem secret gives no name. -/
  | emptyName
  /-- A text is neither of the two map formats. -/
  | unreadableMap (reason : String)
  /-- A text holds a value of another type than a map. -/
  | notAMapping (typeName : String)
  /-- A text is no quantity. -/
  | quantity (text : String) (reason : Quantity.Error)
  /-- A list of inline volumes cannot be read. -/
  | inlineVolumes (reason : String)
  /-- A delay is no duration. -/
  | delay (text : String)
  /-- A format option has an equals sign and no value. -/
  | formatOptions (text : String)
  /-- A claim selects volumes. -/
  | claimSelector
  /-- A claim requests no storage. -/
  | noStorageRequest (claim : String)
  /-- A read-only claim needs a path pattern. -/
  | readOnlyWithoutPattern
  /-- A volume has no CSI source. -/
  | noCsiSource (volume : String)
  /-- A volume has no claim. -/
  | noClaim (volume : String)
  /-- A volume has no claim or no CSI source. -/
  | noClaimOrCsi (volume : String)
  /-- A volume names no filesystem descriptor. -/
  | noDescriptor (volume : String)
  /-- A claim of this driver is not bound. -/
  | unboundClaim (space claim : String)
  /-- No volume is named. -/
  | noVolumeId
  /-- No capabilities are given. -/
  | noCapabilities
  /-- No capability is given. -/
  | noCapability
  /-- No capacity range is given. -/
  | noCapacityRange
  /-- The requested size is above the limit. -/
  | aboveLimit
  /-- A volume cannot be found. -/
  | volumeLookup (volume reason : String)
  /-- A claim cannot be found. -/
  | claimLookup (claim space reason : String)
  /-- A descriptor cannot be found. -/
  | descriptorLookup (descriptor reason : String)
  deriving DecidableEq, Repr

/-- The cause in words. -/
def BadArgument.words : BadArgument → String
  | emptyName => "Empty name"
  | unreadableMap reason => s!"Parse yaml or json error: {reason}"
  | notAMapping typeName =>
    s!"Parse yaml or json error: expected a mapping, got {typeName}"
  | quantity text reason => s!"invalid quantity {quoted text}: {reason.message}"
  | inlineVolumes reason => s!"parse cache inline volume error: {reason}"
  | delay text => s!"can't parse delay time {text}"
  | formatOptions text => s!"invalid format options: {text}"
  | claimSelector => "claim Selector is not supported"
  | noStorageRequest claim => s!"claim {claim} has no storage request"
  | readOnlyWithoutPattern =>
    "dynamic provisioning isolates data by a subpath named after the PV, " ++
      "so ReadOnlyMany requires a pathPattern"
  | noCsiSource volume => s!"pv {volume} has no csi source"
  | noClaim volume => s!"pv {volume} has no claimRef"
  | noClaimOrCsi volume => s!"pv {volume} has no claimRef or csi"
  | noDescriptor volume => s!"pv {volume} does not reference a filesystem descriptor"
  | unboundClaim space claim => s!"pvc {space}/{claim} is not bound"
  | noVolumeId => "Volume ID not provided"
  | noCapabilities => "Volume capabilities not provided"
  | noCapability => "Volume capability not provided"
  | noCapacityRange => "Capacity range not provided"
  | aboveLimit => "After round-up, volume size exceeds the limit specified"
  | volumeLookup volume reason => s!"fail to get pv {volume}, err: {reason}"
  | claimLookup claim space reason =>
    s!"fail to get pvc {claim} namespace {space}, err: {reason}"
  | descriptorLookup descriptor reason =>
    s!"fail to get descriptor {quoted descriptor}, err: {reason}"

/-- An error that the controller reports. -/
inductive ControllerError where
  /-- A malformed request or an unsupported combination of parameters. -/
  | invalidArgument (cause : BadArgument)
  /-- The requested capacity, in bytes, rounds down to no whole GiB. -/
  | capacityTooSmall (capacity : Int)
  /-- A pod refers to filesystems of different owners. -/
  | signerMismatch (expected actual : String)
  /-- A pod asks for a runtime class that is not known. -/
  | unsupportedRuntimeClass (name : String)
  /-- A credential or authorization check failed. -/
  | permissionDenied (action details : String)
  /-- An object of the cluster is absent. -/
  | notFound (kind name : String)
  /-- An object of the cluster is there already. -/
  | alreadyExists (kind name : String)
  /-- A dependency failed. -/
  | internal (details : String)
  /-- The filesystem manager returned an error. -/
  | managerFailure (details : String)
  /-- The connection to a management service failed. -/
  | connection (service details : String)
  /-- A management service did not answer in time. -/
  | timeout (service : String) (seconds : Int)
  /-- The API server returned an unexpected error. -/
  | apiServer (details : String)
  /-- The operation is not supported at this layer. -/
  | unimplemented (operation : String)
  deriving DecidableEq, Repr

namespace ControllerError

/-- The kind of an error. -/
def kind : ControllerError → ErrorKind
  | invalidArgument _ => .invalidArgument
  | capacityTooSmall _ => .capacityTooSmall
  | signerMismatch .. => .signerMismatch
  | unsupportedRuntimeClass _ => .unsupportedRuntimeClass
  | permissionDenied .. => .permissionDenied
  | notFound .. => .resourceNotFound
  | alreadyExists .. => .resourceAlreadyExists
  | internal _ => .internalError
  | managerFailure _ => .filesystemManagerError
  | connection .. => .managerConnectionError
  | timeout .. => .managerTimeout
  | apiServer _ => .kubernetesAPIError
  | unimplemented _ => .unimplemented

/-- The status code of an error. -/
def code (e : ControllerError) : StatusCode := e.kind.code

/-- The caller may try again. -/
def retryable (e : ControllerError) : Bool := e.kind.retryable

/-- An error in words. -/
def message : ControllerError → String
  | invalidArgument .claimSelector => BadArgument.claimSelector.words
  | invalidArgument cause => s!"Invalid argument: {cause.words}"
  | capacityTooSmall capacity =>
    s!"capacity {toString capacity} is too small, at least 1GiB for quota"
  | signerMismatch expected actual =>
    s!"not allowed different user's filesystems currently [{expected}, {actual}]"
  | unsupportedRuntimeClass name => s!"runtime class {name} is not supported"
  | permissionDenied action details => s!"no permission to {action}: {details}"
  | notFound kind name => s!"{kind} {name} not found"
  | alreadyExists kind name => s!"{kind} {name} already exists"
  | internal details => s!"Internal error: {details}"
  | managerFailure details => s!"Filesystem manager error: {details}"
  | connection service details => s!"Failed to connect to {service}: {details}"
  | timeout service seconds =>
    s!"{service} request timed out after {toString seconds} seconds"
  | apiServer details => s!"Kubernetes API error: {details}"
  | unimplemented operation => s!"{operation} is not implemented"

end ControllerError

/-- An unexpected condition that no rule of the controller foresees. -/
inductive Defect where
  /-- A value is out of the range that its use admits. -/
  | badValue (text : String)
  /-- A key is missing. -/
  | missingKey (key : String)
  /-- A value has the wrong type. -/
  | wrongType (text : String)
  /-- A value has no such member. -/
  | missingMember (text : String)
  /-- Something else, from outside. -/
  | unexpected (text : String)
  /-- A number is too large. -/
  | outOfRange (text : String)
  /-- A position is beyond the end. -/
  | beyondEnd (text : String)
  /-- Decimal arithmetic has no result. -/
  | decimal (reason : DecimalError)
  /-- A filesystem descriptor breaks its schema in `count` places. -/
  | malformedDescriptor (count : Nat)
  /-- The configuration file cannot be read. -/
  | configFile (path : String) (reason : Ini.Error)
  deriving DecidableEq, Repr

/-- A defect in words. -/
def Defect.message : Defect → String
  | badValue text => text
  | missingKey key => quoted key
  | wrongType text => text
  | missingMember text => text
  | unexpected text => text
  | outOfRange text => text
  | beyondEnd text => text
  | decimal .invalidOperation => "[<class 'decimal.InvalidOperation'>]"
  | decimal .overflow => "[<class 'decimal.Overflow'>]"
  | malformedDescriptor count =>
    s!"{count} validation error" ++ (if count = 1 then "" else "s") ++ " for FilesystemDescriptor"
  | configFile path reason => reason.message path

/-- What makes an operation fail. -/
inductive Failure where
  /-- An error that the controller reports. -/
  | reported (error : ControllerError)
  /-- An unexpected condition. -/
  | defect (reason : Defect)
  /-- An interruption from outside, which nothing recovers from. -/
  | interrupted
  deriving DecidableEq, Repr

/-- A failure in words. -/
def Failure.message : Failure → String
  | reported error => error.message
  | defect reason => reason.message
  | interrupted => ""

/-- Fails with a malformed request. -/
def badArgument {α : Type} (cause : BadArgument) : Except Failure α :=
  .error (.reported (.invalidArgument cause))

/-- The value of a quantity. -/
def quantity (s : String) : Except Failure Decimal :=
  match Quantity.parse s with
  | .ok d => .ok d
  | .error (.malformed text reason) => badArgument (.quantity text reason)
  | .error (.arithmetic reason) => .error (.defect (.decimal reason))

/-- The whole part of a decimal. -/
def wholePart (d : Decimal) : Except Failure Int :=
  match d.truncate with
  | .ok n => .ok n
  | .error .nan => .error (.defect (.badValue "cannot convert NaN to integer"))
  | .error .infinite => .error (.defect (.outOfRange "cannot convert Infinity to integer"))

/-- An integer of a text or a message has to be one that can be written. -/
def checkWritable (n : Int) : Except Failure Unit :=
  if Integer.isWritable n then .ok ()
  else .error (.defect (.badValue Integer.unwritableMessage))

end SubpathCsi
