import VideoDelivery.Video.Builder
import VideoDelivery.Video.Instance
import VideoDelivery.Diagnostics.Document
import VideoDelivery.Diagnostics.Video
import VideoDelivery.File.Tree
import VideoDelivery.Main
import VideoDelivery.Proofs.Instance.Run
import VideoDelivery.Proofs.Video.Addresses
import VideoDelivery.Proofs.Video.Reloading
import VideoDelivery.Proofs.Video.Presentation
import VideoDelivery.Proofs.Video.Acceptance
import VideoDelivery.Proofs.Video.Respelling
import VideoDelivery.Proofs.Document.RoundTrip
import VideoDelivery.Proofs.Video.Failures
import VideoDelivery.Proofs.Builder.Calls
import VideoDelivery.Proofs.Builder.Declared
import VideoDelivery.Proofs.Poster.RoundTrip
import VideoDelivery.Proofs.Property.Classification
import VideoDelivery.Proofs.Transformation.History
import VideoDelivery.Proofs.Poster.Unidentified
import VideoDelivery.Proofs.Poster.Spellings
import VideoDelivery.Proofs.Source.Expansion
import VideoDelivery.Proofs.Video.Independence
import VideoDelivery.Proofs.Poster.Vocabulary
import VideoDelivery.Proofs.Source.Overrides
import VideoDelivery.Proofs.Asset.UrlTokens
import VideoDelivery.Proofs.Transformation.ListValues
import VideoDelivery.Proofs.Transformation.DescriptorWalk
import VideoDelivery.Proofs.Property.Recognition
import VideoDelivery.Proofs.Video.StepComparison
import VideoDelivery.Proofs.Instance.Recording
