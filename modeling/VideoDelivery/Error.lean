/-!
# Errors

Every operation that can fail gives an `Error`. A configuration error has a `Cause` of its own;
the other kinds carry the words of whoever found the fault: a document, a JSON text, or a host.
-/

namespace VideoDelivery

/-- Why a configuration addresses no asset or names something that is not supported. Values are
quoted in their JSON form. -/
inductive Cause where
  | unknownResourceType (token : String)
  | unknownFormat (token : String)
  | missingCloudName
  | cloudNameNeededToAddress
  | missingPublicId
  | notAString (property value : String)
  | notABoolean (property value : String)
  | formatsNotStrings (value : String)
  | formatNotString (value : String)
  | overridesNotObject (value : String)
  | overrideNotObject (key : String)
  | chainItemNotObject (index : Nat)
  | chainNotObjects
  | noSource
  | defaultPoster (cause : Cause)
  | stated (message : String)
  deriving DecidableEq

/-- The words of a cause. -/
def Cause.message : Cause → String
  | .unknownResourceType token => "unknown resource type '" ++ token ++ "'"
  | .unknownFormat token => "unknown delivery format '" ++ token ++ "'"
  | .missingCloudName => "cloud name is required"
  | .cloudNameNeededToAddress => "cloud name is required to address an asset"
  | .missingPublicId => "public id is required; the asset cannot be addressed"
  | .notAString property value => property ++ " must be a string, got " ++ value
  | .notABoolean property value => property ++ " must be a boolean, got " ++ value
  | .formatsNotStrings value => "sourceTypes must be a string or an array of strings, got " ++ value
  | .formatNotString value => "source type must be a string, got " ++ value
  | .overridesNotObject value =>
    "sourceTransformation must be an object keyed by format, got " ++ value
  | .overrideNotObject key =>
    "sourceTransformation." ++ key ++ " must be an object of parameters"
  | .chainItemNotObject index =>
    "transformation[" ++ toString index ++ "] must be an object of parameters"
  | .chainNotObjects => "transformation must be an object or an array of objects"
  | .noSource => "no video source could be resolved"
  | .defaultPoster cause => "default poster: " ++ cause.message
  | .stated message => message

/-- Why an operation failed. -/
inductive Error where
  | configuration (cause : Cause)
  | validation (message : String)
  | serialization (message : String)
  | other (message : String)
  deriving DecidableEq

/-- The words of an error, after the kind it is of. -/
def Error.message : Error → String
  | .configuration cause => "configuration error: " ++ cause.message
  | .validation message => "validation error: " ++ message
  | .serialization message => "serialization error: " ++ message
  | .other message => message

end VideoDelivery
