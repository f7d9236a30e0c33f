import VideoDelivery.Transformation.Step

/-!
# Segments

The segment of a step joins the texts of its tokens by commas: first the coded tokens in the order
of their texts, then the raw ones. A step without tokens has no segment.
-/

namespace VideoDelivery.Step

/-- The tokens of a step, in the order of the canonical names. -/
def tokens (s : Step) : List Token := s.entries.filterMap fun e => Token.ofParameter? e.1 e.2

/-- The texts of the tokens, as they follow each other in the segment. -/
def tokenTexts (s : Step) : List String :=
  let (raw, coded) := s.tokens.partition Token.isRaw
  (coded.map Token.text).mergeSort (fun a b => a ≤ b) ++ raw.map Token.text

/-- The path segment of a step. -/
def segment? (s : Step) : Option String :=
  if s.tokenTexts.isEmpty then none else some (",".intercalate s.tokenTexts)

end VideoDelivery.Step
