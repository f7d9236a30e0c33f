import VideoDelivery.Asset.Basic
import VideoDelivery.Transformation.Segment

/-!
# Delivery URLs

The URL of an asset names the scheme, the delivery host, the account, the resource type, the
segments of the transformation chain and the file:

`scheme://host/cloud/type/upload/segment/…/file`

Steps without tokens have no segment and leave no trace. An asset whose account or identifier is
blank cannot be addressed.
-/

namespace VideoDelivery

/-- The protocol that an asset is fetched over. -/
inductive Protocol where
  | http
  | https
  deriving DecidableEq

namespace Protocol

/-- The scheme without its colon and slashes. -/
def scheme : Protocol → String
  | .http => "http"
  | .https => "https"

/-- The protocol for the wish for a secure one. -/
def ofSecure (secure : Bool) : Protocol := if secure then .https else .http

end Protocol

/-- The host that every URL is built against. -/
def deliveryHost : String := "res.cloudinary.com"

/-- The segments of a chain, each as a path component with its slash. -/
def segmentPath (chain : List Step) : String :=
  String.join ((chain.filterMap Step.segment?).map (· ++ "/"))

namespace Asset

/-- Everything of a URL before the segments. -/
def uploadPath (a : Asset) (protocol : Protocol) : String :=
  protocol.scheme ++ "://" ++ deliveryHost ++ "/" ++ a.cloudName ++ "/" ++ a.resourceType.token ++
    "/upload/"

/-- Why the asset cannot be addressed, if it cannot. -/
def addressFault? (a : Asset) : Option Cause :=
  if Text.allBlank a.cloudName then some .cloudNameNeededToAddress
  else if Text.allBlank a.publicId then some .missingPublicId
  else none

/-- The delivery URL of the asset under a chain of steps. -/
def url (a : Asset) (chain : List Step) (protocol : Protocol) : Except Error String :=
  match a.addressFault? with
  | some cause => .error (.configuration cause)
  | none => .ok (a.uploadPath protocol ++ segmentPath chain ++ a.fileName)

end Asset

end VideoDelivery
