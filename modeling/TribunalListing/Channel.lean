-- SUMMARY: Hearing channels, their ranking, and the channel of a whole case.
import TribunalListing.Json.Wire

/-!
# Hearing channels

A channel is the way in which a party takes part in a hearing. Channels are ranked, and the
channel of a case is the highest ranked among the channels of its parties; where nobody attends,
the case is decided on the papers.
-/

namespace TribunalListing

inductive Channel where
  /-- In person at a venue. -/
  | faceToFace
  /-- By video link. -/
  | video
  /-- By telephone. -/
  | telephone
  /-- The party has said that it will not attend. -/
  | notAttending
  /-- Decided on the papers, nobody attends. -/
  | paper
  deriving DecidableEq, Inhabited

namespace Channel

/-- The hearing service's code for the channel. -/
def code : Channel → String
  | .faceToFace => "INTER"
  | .video => "VID"
  | .telephone => "TEL"
  | .notAttending => "NA"
  | .paper => "ONPPRS"

instance : Vocabulary Channel where
  terms := [.faceToFace, .video, .telephone, .notAttending, .paper]
  code := Channel.code

/-- Higher wins when the channel of a case is chosen. -/
def rank : Channel → Nat
  | .faceToFace => 3
  | .video => 2
  | .telephone => 1
  | .notAttending | .paper => 0

/-- A party on this channel takes part in the hearing. -/
def isAttending (c : Channel) : Bool :=
  0 < c.rank

def higher (a b : Channel) : Channel :=
  if a.rank ≤ b.rank then b else a

def ofCase (channels : List Channel) : Channel :=
  match channels.filter isAttending with
  | [] => .paper
  | c :: cs => cs.foldl higher c

/-- Nobody on the given channels takes part, so the case is decided on the papers. -/
def isPaperCase (channels : List Channel) : Bool :=
  channels.all fun c => !c.isAttending

end Channel

end TribunalListing
