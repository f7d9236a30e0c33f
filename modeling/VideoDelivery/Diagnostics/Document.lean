import VideoDelivery.Diagnostics.Transformation
import VideoDelivery.Document.Reader

/-!
# Notices of documents

The notices of reading a document from its text. Each child of the element is looked at as soon as
it has been read, so the notices of the children before a fault of the text remain.
-/

namespace VideoDelivery.Notice

/-- Reading that collects notices until it ends, be it in a fault. -/
abbrev Collecting : Type → Type := ExceptT Json.Fault (StateM (List Notice))

/-- Adds the notices of reading a child. -/
def collectChild (written : Json) : Collecting Unit := modify (· ++ ofChildValue written)

/-- The notices of reading a document from its text. -/
def ofDocumentText (text : String) : List Notice :=
  ((Document.readerLooking collectChild text.toList).run.run []).2

end VideoDelivery.Notice
