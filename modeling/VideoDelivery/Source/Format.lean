import VideoDelivery.Json.Decode
import VideoDelivery.Json.Printer
import VideoDelivery.Text.Blank

/-!
# Delivery formats

The formats in which a video source can be requested. A format has one token, which is also the
extension of the delivered file, and one MIME type.

* `mem_all` — no format is missing from `all`.
* `token_injective` — the token tells formats apart.
-/

namespace VideoDelivery

/-- A format that a video is delivered in. -/
inductive Format where
  | webm
  | mp4
  | ogv
  | mov
  | m3u8
  | mpd
  deriving DecidableEq

namespace Format

/-- The format as it is written in a configuration. -/
def token : Format → String
  | .webm => "webm"
  | .mp4 => "mp4"
  | .ogv => "ogv"
  | .mov => "mov"
  | .m3u8 => "m3u8"
  | .mpd => "mpd"

/-- The extension of the delivered file. -/
def extension (f : Format) : String := f.token

/-- The MIME type of the delivered file. -/
def mimeType : Format → String
  | .webm => "video/webm"
  | .mp4 => "video/mp4"
  | .ogv => "video/ogg"
  | .mov => "video/quicktime"
  | .m3u8 => "application/x-mpegURL"
  | .mpd => "application/dash+xml"

/-- All formats, in their order. -/
def all : List Format := [.webm, .mp4, .ogv, .mov, .m3u8, .mpd]

/-- The format that a token stands for, without regard to blanks around it and ASCII case. -/
def ofToken? (s : String) : Option Format := all.find? fun f => f.token = Text.normalToken s

/-- The format that a token stands for, or the error of a token that stands for none. -/
def ofToken (s : String) : Except Error Format :=
  match ofToken? s with
  | some f => .ok f
  | none => .error (.configuration (.unknownFormat (Text.normalToken s)))

/-- A value that has to be the token of a format. -/
def ofJson (v : Json) : Except Json.ShapeFault Format := do
  Json.accepted (ofToken (← Json.stringOf v))

/-- A format in a list of requested formats. -/
def ofItem : Json → Except Error Format
  | .str s => ofToken s
  | v => .error (.configuration (.formatNotString v.compact))

/-- The requested formats: one token or a list of them; null requests none. -/
def listOfJson : Json → Except Error (List Format)
  | .null => .ok []
  | .str s => do return [← ofToken s]
  | .arr items => items.mapM ofItem
  | v => .error (.configuration (.formatsNotStrings v.compact))

theorem mem_all (f : Format) : f ∈ all := by
  cases f <;> decide

theorem token_injective {f g : Format} (h : f.token = g.token) : f = g := by
  cases f <;> cases g <;> first | rfl | exact absurd h (by decide)

end Format

end VideoDelivery
