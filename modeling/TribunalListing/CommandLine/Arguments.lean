-- SUMMARY: How the arguments of the command line are read.
import TribunalListing.CommandLine.Options

/-!
# Arguments

A setting is named in full after two dashes, or, for two of them, by a letter after one. Its value
is the next argument, or follows after an equals sign; after a letter it may follow directly. Two
settings fall back on environment variables. Arguments are read from left to right, and the first
thing that ends the reading decides: a mistake, or a request for help or for the version.
-/

namespace TribunalListing.CommandLine

/-! ## Settings -/

/-- What an argument can set. -/
inductive Setting where
  | database
  | port
  | serviceUrl
  | serviceToken
  | referenceData
  | retryAttempts
  | retryBackoff
  | channelPolicy
  | lookupPolicy
  | adjournmentEnabled
  | serviceCode
  | requestTimeout
  deriving DecidableEq

namespace Setting

def ofName? : String → Option Setting
  | "database" => some .database
  | "port" => some .port
  | "hearing-service-url" => some .serviceUrl
  | "service-token" => some .serviceToken
  | "reference-data" => some .referenceData
  | "retry-attempts" => some .retryAttempts
  | "retry-backoff-ms" => some .retryBackoff
  | "channel-policy" => some .channelPolicy
  | "existing-lookup-policy" => some .lookupPolicy
  | "adjournment-enabled" => some .adjournmentEnabled
  | "service-code" => some .serviceCode
  | "request-timeout-ms" => some .requestTimeout
  | _ => none

def ofLetter? : Char → Option Setting
  | 'd' => some .database
  | 'p' => some .port
  | _ => none

/-- The setting is switched on by its name alone. -/
def isSwitch (s : Setting) : Bool :=
  s = .adjournmentEnabled

/-- The largest number in so many bits. -/
def largest (bits : Nat) : Nat :=
  Nat.pow 2 bits - 1

/-- The options with a value put in, if the setting takes the value. -/
def put (o : ServerOptions) (value : String) : Setting → Option ServerOptions
  | .database => some { o with database := some value }
  | .port => (Text.readSignedNatural (largest 16) value).map fun n => { o with port := n }
  | .serviceUrl => some { o with serviceUrl := value }
  | .serviceToken => some { o with serviceToken := some value }
  | .referenceData => if value.isEmpty then none else some { o with referenceData := some value }
  | .retryAttempts =>
    (Text.readSignedNatural (largest 32) value).map fun n => { o with retryAttempts := n }
  | .retryBackoff =>
    (Text.readNatural (largest 64) value).map fun n => { o with retryBackoffMillis := n }
  | .channelPolicy => (ChannelPolicy.ofWord? value).toOption.map fun p =>
      { o with channelPolicy := p }
  | .lookupPolicy => (LookupPolicy.ofWord? value).toOption.map fun p => { o with lookupPolicy := p }
  | .adjournmentEnabled => some { o with adjournmentEnabled := true }
  | .serviceCode => some { o with serviceCode := value }
  | .requestTimeout =>
    (Text.readNatural (largest 64) value).map fun n => { o with requestTimeoutMillis := n }

end Setting

/-! ## Reading -/

/-- Why the server is not started. -/
inductive Stop where
  /-- Help or the version was asked for. -/
  | shown
  /-- The arguments contain a mistake. -/
  | misused
  deriving DecidableEq

/-- The code that the program exits with. -/
def Stop.exitCode : Stop → Nat
  | .shown => 0
  | .misused => 2

/-- The options as far as they have been read, and the settings that were given. -/
structure Reading where
  options : ServerOptions := { serviceUrl := "" }
  given : List Setting := []

namespace Reading

/-- Takes a setting with its value. No setting is taken twice. -/
def take (r : Reading) (s : Setting) (value : String) : Except Stop Reading :=
  if r.given.contains s then .error .misused
  else
    match s.put r.options value with
    | some options => .ok ⟨options, s :: r.given⟩
    | none => .error .misused

/-- Takes a setting from outside the arguments, unless it was given. -/
def fallBack (r : Reading) (s : Setting) (value : Option String) : Except Stop Reading :=
  match value with
  | some value => if r.given.contains s then .ok r else r.take s value
  | none => .ok r

end Reading

/-- The argument can be the value of the setting before it: it does not start with a dash, or it is
a lone dash. -/
def isValue (argument : String) : Bool :=
  argument = "-" || argument.toList.head? ≠ some '-'

/-- What a single argument says. -/
inductive Reads where
  /-- Whatever follows is no setting. -/
  | settingsEnd
  /-- It switches a setting on. -/
  | switch (s : Setting)
  /-- It names a setting; the value is the next argument. -/
  | name (s : Setting)
  /-- It names a setting together with its value. -/
  | whole (s : Setting) (value : String)
  | stop (reason : Stop)

/-- Reads an argument after its two dashes. -/
def readName (text : List Char) : Reads :=
  let name := String.ofList (text.takeWhile (· ≠ '='))
  match Setting.ofName? name, text.dropWhile (· ≠ '=') with
  | some s, [] => if s.isSwitch then .switch s else .name s
  | some s, _ :: value => if s.isSwitch then .stop .misused else .whole s (String.ofList value)
  | none, [] => .stop (if name = "help" || name = "version" then .shown else .misused)
  | none, _ :: _ => .stop .misused

/-- Reads an argument after its single dash. -/
def readLetter : List Char → Reads
  | [] => .stop .misused
  | letter :: rest =>
    if letter = 'h' || letter = 'V' then .stop .shown
    else
      match Setting.ofLetter? letter, rest with
      | some s, [] => .name s
      | some s, '=' :: value => .whole s (String.ofList value)
      | some s, value => .whole s (String.ofList value)
      | none, _ => .stop .misused

def readArgument (argument : String) : Reads :=
  match argument.toList with
  | ['-', '-'] => .settingsEnd
  | '-' :: '-' :: text => readName text
  | '-' :: letters => readLetter letters
  | _ => .stop .misused

/-- Reads arguments from left to right. -/
def readArguments (r : Reading) : List String → Except Stop Reading
  | [] => .ok r
  | argument :: rest =>
    match readArgument argument, rest with
    | .settingsEnd, [] => .ok r
    | .settingsEnd, _ :: _ => .error .misused
    | .stop reason, _ => .error reason
    | .switch s, rest => do readArguments (← r.take s "") rest
    | .whole s value, rest => do readArguments (← r.take s value) rest
    | .name s, value :: rest =>
      if isValue value then do readArguments (← r.take s value) rest else .error .misused
    | .name _, [] => .error .misused

/-- The environment variables that settings fall back on. -/
structure Environment where
  serviceUrl : Option String := none
  serviceToken : Option String := none

def readOptions (environment : Environment) (arguments : List String) :
    Except Stop ServerOptions := do
  let r ← readArguments {} arguments
  let r ← r.fallBack .serviceUrl environment.serviceUrl
  let r ← r.fallBack .serviceToken environment.serviceToken
  if r.given.contains .serviceUrl then return r.options else throw .misused

end TribunalListing.CommandLine
