/-! Tracks and failed subscriptions.

A track has a kind, which becomes a label. Callers may name kinds of their own;
`TrackKind` holds the three that every media server has. A subscription that
fails for a classified `Refusal` tells whether the user is to blame. -/
namespace Roomwatch

inductive TrackKind where
  | audio | video | data
deriving DecidableEq, Repr

namespace TrackKind

def all : List TrackKind := [.audio, .video, .data]

def label : TrackKind → String
  | .audio => "audio"
  | .video => "video"
  | .data => "data"

/-- Whether a kind given by its label is one of the three. -/
def isKnown (kind : String) : Bool := all.any fun known => known.label = kind

end TrackKind

/-- Why a subscription failed. -/
inductive Refusal where
  | permissionDenied | trackNotFound | participantNotFound | timeout | transport | internal
deriving DecidableEq, Repr

namespace Refusal

def label : Refusal → String
  | .permissionDenied => "permission_denied"
  | .trackNotFound => "track_not_found"
  | .participantNotFound => "participant_not_found"
  | .timeout => "timeout"
  | .transport => "transport"
  | .internal => "internal"

/-- The user asked for something that is not theirs or not there. -/
def byUser : Refusal → Bool
  | .permissionDenied | .trackNotFound | .participantNotFound => true
  | .timeout | .transport | .internal => false

end Refusal
end Roomwatch
