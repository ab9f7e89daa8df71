-- SUMMARY: The override cascade: caseworkers' overrides on top of freshly derived defaults.
import TribunalListing.Request.Duration
import TribunalListing.Request.Participant
import TribunalListing.Request.Venues

/-!
# Override cascade

Every overridable field is resolved by itself: the override where there is one, the derived default
where there is none. A default that is overridden is not derived at all, so that a rule that fails
never stands in the way of an override. An override duration that is too short and an empty list of
venues do not count as set.
-/

namespace TribunalListing

/-! ## Defaults -/

def hearingWindowDays : Int := 28

/-- What the appellant's answers ask of an interpreter. Sign language comes before spoken. -/
def HearingOptions.interpreterNeed (o : HearingOptions) : InterpreterNeed :=
  if o.wantsInterpreter then
    let language := (Text.written o.signLanguage).or (Text.written o.language)
    { wanted := language.isSome, language, dialect := o.dialect }
  else {}

/-- The default channel of the appellant: that of an adjournment, or that of its own answers. -/
def defaultAppellantChannel (c : CaseSnapshot) (options : DerivationOptions) : Derived Channel :=
  match c.adjournment.channel? options.adjournmentEnabled with
  | some channel => .ok channel
  | none => c.appellant.hearingOptions.channel options.channelPolicy "appellant"

/-- By default a case is listed automatically unless it is linked, confidential or flagged. -/
def defaultAutoList (c : CaseSnapshot) : Bool :=
  c.linkedCases.isEmpty && !c.confidential && !c.hasUnacceptableBehaviour

/-- By default a hearing may be listed four weeks after the response was received. -/
def defaultWindowStart? (c : CaseSnapshot) : Option Date := do
  let received ← c.latestEvent? .responseReceived
  received.addDays? hearingWindowDays

def CaseSnapshot.appellantAttends (c : CaseSnapshot) : Bool :=
  Answer.saidYes c.appellant.hearingOptions.wantsToAttend

/-- An interpreter is required, by the override or by the appellant's answers. -/
def CaseSnapshot.interpreterRequired (c : CaseSnapshot) (override : Option InterpreterNeed) :
    Bool :=
  (override.getD c.appellant.hearingOptions.interpreterNeed).wanted

def venuesForChannel (c : CaseSnapshot) (reference : ReferenceData) (options : DerivationOptions)
    (appellant : Channel) : Derived (List String) := do
  let others ← c.otherChannels options.channelPolicy
  let paperCase := Channel.isPaperCase [Channel.ofCase (appellant :: others)]
  defaultVenues c reference paperCase options.adjournmentEnabled

/-- Derives a value unless it is set already. -/
def unlessSet {α β : Type} (override : Option α) (derive : Derived β) : Derived (Option β) :=
  match override with
  | some _ => .ok none
  | none => derive.map some

/-- Derives the defaults of all fields that the mask does not set. -/
def computeDefaultsMasked (c : CaseSnapshot) (reference : ReferenceData)
    (options : DerivationOptions) (mask : OverrideFields) : Derived OverrideFields := do
  let appellantChannel ← unlessSet mask.appellantChannel (defaultAppellantChannel c options)
  let duration ← unlessSet (honouredDuration mask.duration)
    (hearingDuration c reference none c.appellantAttends
      (c.interpreterRequired mask.appellantInterpreter))
  let venueIds ← unlessSet (honouredVenues mask.venueIds)
    (venuesForChannel c reference options ((mask.appellantChannel.or appellantChannel).getD .paper))
  return {
    duration
    appellantChannel
    appellantInterpreter :=
      if mask.appellantInterpreter.isSome then none
      else some c.appellant.hearingOptions.interpreterNeed
    venueIds
    reservedJudge := none
    autoList := if mask.autoList.isSome then none else some (defaultAutoList c)
    windowStart := if mask.windowStart.isSome then none else defaultWindowStart? c }

def computeDefaults (c : CaseSnapshot) (reference : ReferenceData) (options : DerivationOptions) :
    Derived OverrideFields :=
  computeDefaultsMasked c reference options {}

/-- The duration of the hearing with overrides taken into account, and with no other field
derived. -/
def effectiveDuration (c : CaseSnapshot) (reference : ReferenceData) : Derived Minutes :=
  hearingDuration c reference c.overrides.duration c.appellantAttends
    (c.interpreterRequired c.overrides.appellantInterpreter)

/-! ## The cascade -/

/-- The two layers of overridable fields. -/
structure Cascade where
  defaults : OverrideFields
  overrides : OverrideFields
  deriving DecidableEq

namespace Cascade

def ofCase (c : CaseSnapshot) (reference : ReferenceData) (options : DerivationOptions) :
    Derived Cascade := do
  let defaults ← computeDefaultsMasked c reference options c.overrides
  return { defaults, overrides := c.overrides }

/-- The duration of the hearing. It has not been checked against listing rules. -/
def duration (k : Cascade) : Minutes :=
  ((honouredDuration k.overrides.duration).or k.defaults.duration).getD defaultDuration

def appellantChannel (k : Cascade) : Channel :=
  (k.overrides.appellantChannel.or k.defaults.appellantChannel).getD .paper

def appellantInterpreter (k : Cascade) : Option InterpreterNeed :=
  k.overrides.appellantInterpreter.or k.defaults.appellantInterpreter

def interpreterRequired (k : Cascade) : Bool :=
  k.appellantInterpreter.any (·.wanted)

def venueIds (k : Cascade) : List String :=
  ((honouredVenues k.overrides.venueIds).or k.defaults.venueIds).getD []

def reservedJudge (k : Cascade) : Option String :=
  k.overrides.reservedJudge.or k.defaults.reservedJudge

/-- The hearing may be listed automatically. Where nothing is said, a reserved judge, even one
whose token is blank, turns automatic listing off. -/
def autoList (k : Cascade) : Bool :=
  k.overrides.autoList.getD (k.defaults.autoList.getD true && k.reservedJudge.isNone)

def windowStart (k : Cascade) : Option Date :=
  k.overrides.windowStart.or k.defaults.windowStart

end Cascade

end TribunalListing
