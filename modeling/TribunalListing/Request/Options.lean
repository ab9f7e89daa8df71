-- SUMMARY: The options of derivation.
import TribunalListing.Json.Wire

/-!
# Derivation options

What derivation is told besides the case and the reference data: what to do with a party that
wants to attend but has no channel preference, whether directions of adjournments are honoured,
and the code of the service.
-/

namespace TribunalListing

/-- What happens to a party that wants to attend and answered none of the channel questions. -/
inductive ChannelPolicy where
  /-- The party is listed face to face. -/
  | fallback
  /-- The derivation fails. -/
  | refuse
  deriving DecidableEq, Inhabited

namespace ChannelPolicy

instance : Vocabulary ChannelPolicy where
  terms := [.fallback, .refuse]
  code
    | .fallback => "fallback-to-face-to-face"
    | .refuse => "raise-resolution-error"

/-- The policy that a word on the command line stands for; each policy has a short word too. -/
def ofWord? : String → Except String ChannelPolicy
  | "fallback" => .ok .fallback
  | "fallback-to-face-to-face" => .ok .fallback
  | "raise" => .ok .refuse
  | "raise-resolution-error" => .ok .refuse
  | s => .error s!"unknown channel policy '{s}'"

end ChannelPolicy

structure DerivationOptions where
  channelPolicy : ChannelPolicy := .fallback
  /-- Directions of adjournments for channel, venue and panel are honoured. -/
  adjournmentEnabled : Bool := false
  /-- The hearing service's code for this jurisdiction. -/
  serviceCode : String := "BBA3"
  deriving DecidableEq, Inhabited

def DerivationOptions.members (o : DerivationOptions) : Members :=
  [ ("channelPolicy", encode o.channelPolicy), ("adjournmentEnabled", encode o.adjournmentEnabled),
    ("serviceCode", encode o.serviceCode) ]

def DerivationOptions.ofMembers? (members : Members) : Option DerivationOptions := do
  let channelPolicy ← members.required "channelPolicy"
  let adjournmentEnabled ← members.required "adjournmentEnabled"
  let serviceCode ← members.required "serviceCode"
  return { channelPolicy, adjournmentEnabled, serviceCode }

instance : Wire DerivationOptions where
  encode o := .object o.members
  decode := decodeRecord DerivationOptions.members DerivationOptions.ofMembers?

end TribunalListing
