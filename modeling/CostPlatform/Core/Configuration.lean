import CostPlatform.Cost.Currency
import CostPlatform.Guardrails.ToolGuard
import CostPlatform.Library.Dict
import CostPlatform.Security.RouteProtection
import Mathlib.Data.List.TakeWhile

/-!
# Configuration

The settings are read from the environment once, and an application is built from them.  Texts with
a format of their own are parsed, and combinations that are unsafe are refused.

* `guarded_needs_development` follows the settings to the requests: a guarded function only runs in
  an application that authenticates with the development adapter, which the settings refuse in
  production.  The adapter for production raises for every token.
* `configured_conversion` follows the text of the rates to the amounts: which currencies are
  converted, and at which of the listed rates.
-/

namespace CostPlatform

open PyJson Fallible

/-! ## The settings -/

inductive AppEnv where
  | Development
  | Staging
  | Production
  deriving DecidableEq, Repr

inductive ModelGatewayProvider where
  | Genailab
  | Mock
  deriving DecidableEq, Repr

inductive AuthMode where
  | Development
  | Oidc
  deriving DecidableEq, Repr

/-- The variables as their fields take them.  Those with a validator are texts still. -/
structure EnvironmentVariables where
  appEnv : AppEnv := .Development
  debug : Bool := false
  logLevel : String := "INFO"
  modelGatewayProvider : ModelGatewayProvider := .Mock
  genaiApiKey : String := ""
  sslVerify : Bool := false
  allowInsecureTls : Bool := false
  authMode : AuthMode := .Development
  tokens : Settings := {}
  platformBaseCurrency : String := "USD"
  currencyRates : String := ""
  corsAllowOrigins : String := ""

/-- The settings of a process, of which `tokens` is the part that tokens depend on. -/
structure ApplicationSettings where
  appEnv : AppEnv
  debug : Bool
  logLevel : String
  modelGatewayProvider : ModelGatewayProvider
  genaiApiKey : String
  sslVerify : Bool
  allowInsecureTls : Bool
  authMode : AuthMode
  tokens : Settings
  platformBaseCurrency : String
  currencyRates : Dict String PyFloat
  corsAllowOrigins : List String

/-- What a validator raises. -/
inductive ConfigurationError where
  | UnknownLogLevel
  | BaseCurrencyMissing
  | MalformedRate (entry : String)
  | RateNotANumber (code rate : String)
  | InsecureTls
  | DevelopmentInProduction
  | DebugInProduction
  | SecretMissing
  | SecretTooShort
  | UnsignedTokens
  | GatewayKeyMissing
  deriving DecidableEq, Repr

/-- The message.  `repr` prints a text in quotes. -/
def ConfigurationError.message (repr : String → String) : ConfigurationError → String
  | .UnknownLogLevel =>
      "log_level must be one of ['CRITICAL', 'DEBUG', 'ERROR', 'INFO', 'NOTSET', 'WARNING']"
  | .BaseCurrencyMissing => "PLATFORM_BASE_CURRENCY must be set"
  | .MalformedRate entry =>
      "CURRENCY_RATES entry " ++ repr entry ++ " must be CODE:RATE, e.g. INR:0.012"
  | .RateNotANumber code rate =>
      "CURRENCY_RATES rate for " ++ repr code ++ " is not a number: " ++ repr rate
  | .InsecureTls =>
      "SSL_VERIFY=false is not permitted when APP_ENV=production. Prefer SSL_VERIFY=true with the "
        ++ "approved internal CA. To record a deliberate, documented security exception set "
        ++ "ALLOW_INSECURE_TLS=true."
  | .DevelopmentInProduction =>
      "AUTH_MODE=development is not permitted when APP_ENV=production. Configure an enterprise "
        ++ "OIDC adapter."
  | .DebugInProduction => "DEBUG=true is not permitted when APP_ENV=production."
  | .SecretMissing =>
      "JWT_SECRET must be set when AUTH_MODE=development. Tokens are genuinely "
        ++ "signature-verified; there is no unsigned fallback."
  | .SecretTooShort =>
      "JWT_SECRET must be at least 32 bytes for HMAC algorithms (RFC 7518 section 3.2). Generate "
        ++ "one with: python -c \"import secrets; print(secrets.token_urlsafe(48))\""
  | .UnsignedTokens => "JWT_ALGORITHM=none is never permitted."
  | .GatewayKeyMissing => "GENAI_API_KEY must be set when MODEL_GATEWAY_PROVIDER=genailab."

/-! ## Validators -/

def normaliseLogLevel (value : String) : Except ConfigurationError String :=
  let level := PyString.upper value
  if level ∈ ["CRITICAL", "ERROR", "WARNING", "INFO", "DEBUG", "NOTSET"] then .ok level
  else .error .UnknownLogLevel

def normaliseBaseCurrency (value : String) : Except ConfigurationError String :=
  let currency := PyString.upper (PyString.strip value)
  if currency = "" then .error .BaseCurrencyMissing else .ok currency

/-- `entry.partition(":")`, or `none` where there is no separator. -/
def partitionColon (entry : String) : Option (String × String) :=
  match entry.toList.span (· ≠ ':') with
  | (_, []) => none
  | (code, _ :: rate) => some (String.ofList code, String.ofList rate)

/-- One `CODE:RATE`. -/
def parseRate (runtime : Runtime) (entry : String) :
    Except ConfigurationError (String × PyFloat) := do
  let (code, rate) ← demand (partitionColon entry) (.MalformedRate entry)
  let value ← (runtime.float (.Text rate)).mapError fun _ =>
    .RateNotANumber (PyString.strip code) rate
  return (PyString.upper (PyString.strip code), value)

/-- Accept `CODE:RATE,CODE:RATE`.  A code that comes twice keeps its last rate. -/
def parseCurrencyRates (runtime : Runtime) (value : String) :
    Except ConfigurationError (Dict String PyFloat) := do
  let pairs ← (commaParts value).mapM (parseRate runtime)
  return Dict.ofPairs pairs

/-- Fail fast on configurations that are unsafe in production. -/
def enforceProductionGuards (settings : ApplicationSettings) :
    Except ConfigurationError Unit := do
  let production : Prop := settings.appEnv = .Production
  let development : Prop := settings.authMode = .Development
  let hmac : Prop := "HS".toList <+: (PyString.upper settings.tokens.jwtAlgorithm).toList
  require (production → settings.sslVerify = true ∨ settings.allowInsecureTls = true) .InsecureTls
  require (production → ¬ development) .DevelopmentInProduction
  require (production → settings.debug = false) .DebugInProduction
  require (development → settings.tokens.jwtSecret ≠ "") .SecretMissing
  require (development → hmac → 32 ≤ settings.tokens.jwtSecret.utf8ByteSize) .SecretTooShort
  require (PyString.upper settings.tokens.jwtAlgorithm ≠ "NONE") .UnsignedTokens
  require (settings.modelGatewayProvider = .Genailab → settings.genaiApiKey ≠ "")
    .GatewayKeyMissing

def failures {α : Type} : Except ConfigurationError α → List ConfigurationError
  | .ok _ => []
  | .error e => [e]

/-- The fields are validated each by itself, and the guards come after all of them. -/
def ApplicationSettings.load (runtime : Runtime) (environment : EnvironmentVariables) :
    Except (List ConfigurationError) ApplicationSettings :=
  let logLevel := normaliseLogLevel environment.logLevel
  let baseCurrency := normaliseBaseCurrency environment.platformBaseCurrency
  let rates := parseCurrencyRates runtime environment.currencyRates
  match logLevel, baseCurrency, rates with
  | .ok logLevel, .ok baseCurrency, .ok rates => do
      let settings : ApplicationSettings :=
        { appEnv := environment.appEnv
          debug := environment.debug
          logLevel := logLevel
          modelGatewayProvider := environment.modelGatewayProvider
          genaiApiKey := environment.genaiApiKey
          sslVerify := environment.sslVerify
          allowInsecureTls := environment.allowInsecureTls
          authMode := environment.authMode
          tokens := environment.tokens
          platformBaseCurrency := baseCurrency
          currencyRates := rates
          corsAllowOrigins := commaParts environment.corsAllowOrigins }
      (enforceProductionGuards settings).mapError fun e => [e]
      return settings
  | _, _, _ => .error (failures logLevel ++ failures baseCurrency ++ failures rates)

/-! ## What is accepted -/

/-- The settings pass the guards. -/
structure ApplicationSettings.Accepted (settings : ApplicationSettings) : Prop where
  production : settings.appEnv = .Production →
    (settings.sslVerify = true ∨ settings.allowInsecureTls = true)
      ∧ settings.authMode ≠ .Development ∧ settings.debug = false
  secret : settings.authMode = .Development → settings.tokens.jwtSecret ≠ ""
    ∧ ("HS".toList <+: (PyString.upper settings.tokens.jwtAlgorithm).toList →
      32 ≤ settings.tokens.jwtSecret.utf8ByteSize)
  signed : PyString.upper settings.tokens.jwtAlgorithm ≠ "NONE"
  gatewayKey : settings.modelGatewayProvider = .Genailab → settings.genaiApiKey ≠ ""

lemma enforceProductionGuards_eq_ok {settings : ApplicationSettings} :
    enforceProductionGuards settings = .ok () ↔ settings.Accepted := by
  simp only [enforceProductionGuards, check_bind_eq_ok, require_eq_ok]
  constructor
  · rintro ⟨htls, hmode, hdebug, hsecret, hlength, hsigned, hkey⟩
    exact ⟨fun h => ⟨htls h, hmode h, hdebug h⟩, fun h => ⟨hsecret h, hlength h⟩, hsigned, hkey⟩
  · intro h
    exact ⟨fun hp => (h.production hp).1, fun hp => (h.production hp).2.1,
      fun hp => (h.production hp).2.2, fun hd => (h.secret hd).1, fun hd => (h.secret hd).2,
      h.signed, h.gatewayKey⟩

/-- What the fields of accepted settings hold. -/
lemma load_eq_ok {runtime : Runtime} {environment : EnvironmentVariables}
    {settings : ApplicationSettings}
    (h : ApplicationSettings.load runtime environment = .ok settings) :
    settings.Accepted ∧ settings.appEnv = environment.appEnv
      ∧ settings.authMode = environment.authMode ∧ settings.tokens = environment.tokens
      ∧ normaliseBaseCurrency environment.platformBaseCurrency = .ok settings.platformBaseCurrency
      ∧ parseCurrencyRates runtime environment.currencyRates = .ok settings.currencyRates := by
  simp only [ApplicationSettings.load] at h
  cases hlevel : normaliseLogLevel environment.logLevel with
  | error e =>
      rw [hlevel] at h
      cases h
  | ok level =>
      cases hbase : normaliseBaseCurrency environment.platformBaseCurrency with
      | error e =>
          rw [hlevel, hbase] at h
          cases h
      | ok base =>
          cases hrates : parseCurrencyRates runtime environment.currencyRates with
          | error e =>
              rw [hlevel, hbase, hrates] at h
              cases h
          | ok rates =>
              rw [hlevel, hbase, hrates] at h
              obtain ⟨hguards, hsettings⟩ := check_bind_eq_ok.mp h
              cases hsettings
              exact ⟨enforceProductionGuards_eq_ok.mp (mapError_eq_ok.mp hguards), rfl, rfl, rfl,
                rfl, rfl⟩

/-! ## Who is let in -/

/-- The adapters.  The one of an enterprise's provider is a seam. -/
inductive IdentityAdapter where
  | Development (adapter : DevelopmentIdentityAdapter)
  | Oidc

def IdentityAdapter.authenticate (adapter : IdentityAdapter) (pyjwt : PyJwt) (token : String) :
    Except AuthenticationError Principal :=
  match adapter with
  | .Development adapter => adapter.authenticate pyjwt token
  | .Oidc => .error (.Other "NotImplementedError")

/-- Select the adapter named by configuration. -/
def buildIdentityAdapter (settings : ApplicationSettings) : Except String IdentityAdapter :=
  match settings.authMode with
  | .Development =>
      if hsecret : settings.tokens.jwtSecret ≠ "" then
        .ok (.Development ⟨settings.tokens, hsecret⟩)
      else .error "ValueError"
  | .Oidc => .ok .Oidc

/-- An adapter that lets somebody in is the one for development. -/
lemma development_of_authenticate {settings : ApplicationSettings} {adapter : IdentityAdapter}
    {pyjwt : PyJwt} {token : String} {principal : Principal}
    (hadapter : buildIdentityAdapter settings = .ok adapter)
    (haccepted : adapter.authenticate pyjwt token = .ok principal) :
    settings.authMode = .Development ∧ ∃ development : DevelopmentIdentityAdapter,
      development.settings = settings.tokens
        ∧ development.authenticate pyjwt token = .ok principal := by
  rw [buildIdentityAdapter] at hadapter
  cases hmode : settings.authMode with
  | Development =>
      rw [hmode] at hadapter
      simp only at hadapter
      split_ifs at hadapter with hsecret
      cases hadapter
      exact ⟨rfl, ⟨settings.tokens, hsecret⟩, rfl, haccepted⟩
  | Oidc =>
      rw [hmode] at hadapter
      cases hadapter
      cases haccepted

section

variable {κ ρ : Type} [DecidableEq κ]

/-- **Guarded functions only run on the development adapter**, and so never in production.  Let an
    application be built from settings that were accepted, and let the framework run a route's
    function only after all that its dependency tree resolves has returned.  Whatever the routes
    are, a request that reaches a guarded one of them carried a token of the development adapter,
    which checks a signature and has a secret of the length that its algorithm asks for. -/
theorem guarded_needs_development {runtime : Runtime} {environment : EnvironmentVariables}
    {settings : ApplicationSettings} {adapter : IdentityAdapter} {pyjwt : PyJwt}
    {currentPrincipal : κ} {routes : List (Route κ)} {apiPrefix : String}
    {credentials : ρ → Option Credentials} {handled : Route κ → ρ → Prop} {returned : κ → ρ → Prop}
    (hload : ApplicationSettings.load runtime environment = .ok settings)
    (hadapter : buildIdentityAdapter settings = .ok adapter)
    (hstarted : (verifyRouteProtection currentPrincipal routes apiPrefix).result = .ok ())
    (hresolves : ∀ path methods tree request, handled (.Api path methods (some tree)) request →
      ∀ call, tree.Reaches call → returned call request)
    (hcall : ∀ request, returned currentPrincipal request → ∃ principal,
      (getCurrentPrincipal (adapter.authenticate pyjwt) (credentials request)).result
        = .ok principal)
    {path : String} {methods : List String} {dependant : Option (Dependant κ)}
    (hroute : .Api path methods dependant ∈ routes) (hguarded : Route.Guarded apiPrefix path)
    {request : ρ} (hhandled : handled (.Api path methods dependant) request) :
    environment.appEnv ≠ .Production ∧ environment.authMode = .Development
      ∧ PyString.upper environment.tokens.jwtAlgorithm ≠ "NONE"
      ∧ ("HS".toList <+: (PyString.upper environment.tokens.jwtAlgorithm).toList →
        32 ≤ environment.tokens.jwtSecret.utf8ByteSize)
      ∧ ∃ (development : DevelopmentIdentityAdapter) (scheme token : String)
        (principal : Principal),
        development.settings = environment.tokens ∧ credentials request = some ⟨scheme, token⟩
          ∧ development.authenticate pyjwt token = .ok principal := by
  obtain ⟨haccepted, henv, hmode, htokens, -, -⟩ := load_eq_ok hload
  obtain ⟨principal, hprincipal⟩ :=
    hcall request (returned_of_handled hstarted hresolves hroute hguarded hhandled)
  obtain ⟨scheme, token, hcredentials, -, -, htoken⟩ := getCurrentPrincipal_eq_ok.mp hprincipal
  obtain ⟨hdevelopment, development, hsettings, hauthenticated⟩ :=
    development_of_authenticate hadapter htoken
  rw [← henv, ← hmode, ← htokens]
  refine ⟨fun hproduction => (haccepted.production hproduction).2.1 hdevelopment, hdevelopment,
    haccepted.signed, (haccepted.secret hdevelopment).2, development, scheme, token, principal,
    hsettings, hcredentials, hauthenticated⟩

end

/-- A local deployment. -/
def localEnvironment : EnvironmentVariables where
  tokens := { jwtSecret := "local-development-secret-of-a-laptop" }

def localSettings : ApplicationSettings where
  appEnv := .Development
  debug := false
  logLevel := "INFO"
  modelGatewayProvider := .Mock
  genaiApiKey := ""
  sslVerify := false
  allowInsecureTls := false
  authMode := .Development
  tokens := { jwtSecret := "local-development-secret-of-a-laptop" }
  platformBaseCurrency := "USD"
  currencyRates := Dict.empty
  corsAllowOrigins := []

lemma localSecret_ne : localSettings.tokens.jwtSecret ≠ "" := by decide

def localAdapter : DevelopmentIdentityAdapter := ⟨localSettings.tokens, localSecret_ne⟩

/-- PyJWT after the adapter has issued one token. -/
def localJwt : PyJwt :=
  .signing "header.payload.signature"
    (localAdapter.tokenPayload (DevelopmentIdentityAdapter.order []))

/-- Only the authentication may fail. -/
def returnedLocally (call : String) (request : Option Credentials) : Prop :=
  call = "get_current_principal" → ∃ principal,
    (getCurrentPrincipal (IdentityAdapter.authenticate (.Development localAdapter) localJwt)
      request).result = .ok principal

/-- The budgets are listed in the local deployment, for the bearer of its token. -/
theorem budgets_listed_locally :
    AppEnv.Development ≠ .Production ∧ AuthMode.Development = .Development
      ∧ PyString.upper "HS256" ≠ "NONE"
      ∧ ("HS".toList <+: (PyString.upper "HS256").toList →
        32 ≤ "local-development-secret-of-a-laptop".utf8ByteSize)
      ∧ ∃ (development : DevelopmentIdentityAdapter) (scheme token : String)
        (principal : Principal),
        development.settings = localEnvironment.tokens
          ∧ some (⟨"Bearer", "header.payload.signature"⟩ : Credentials) = some ⟨scheme, token⟩
          ∧ development.authenticate localJwt token = .ok principal := by
  have hload : ApplicationSettings.load localJwt.runtime localEnvironment = .ok localSettings := rfl
  have hadapter : buildIdentityAdapter localSettings = .ok (.Development localAdapter) := rfl
  have hstarted : (verifyRouteProtection "get_current_principal" smallRoutes "/api/v1").result
      = .ok () := by decide +kernel
  have hguarded : Route.Guarded "/api/v1" "/api/v1/budgets" := by
    rw [Route.Guarded]
    decide +kernel
  have hread : localAdapter.ReadsBack localJwt (DevelopmentIdentityAdapter.order [])
      "header.payload.signature" :=
    DevelopmentIdentityAdapter.readsBack_signing localAdapter _ (by decide +kernel)
  have hissued : ∃ principal, localAdapter.authenticate localJwt "header.payload.signature"
      = .ok principal :=
    ⟨_, DevelopmentIdentityAdapter.authenticate_issued (by decide +kernel) hread (by decide)
      (by decide)⟩
  obtain ⟨principal, hissued⟩ := hissued
  have hlet : (getCurrentPrincipal
      (IdentityAdapter.authenticate (.Development localAdapter) localJwt)
      (some ⟨"Bearer", "header.payload.signature"⟩)).result = .ok principal :=
    getCurrentPrincipal_eq_ok.mpr ⟨_, _, rfl, by decide, by decide +kernel, hissued⟩
  have hhandled : runsBehind returnedLocally (.Api "/api/v1/budgets" ["GET", "POST"]
      (some (.node "list_budgets" [.node "_guard" [.node "get_current_principal" []]])))
      (some ⟨"Bearer", "header.payload.signature"⟩) := fun _ _ _ => ⟨principal, hlet⟩
  have hcall : ∀ request, returnedLocally "get_current_principal" request → ∃ principal,
      (getCurrentPrincipal (IdentityAdapter.authenticate (.Development localAdapter) localJwt)
        request).result = .ok principal := fun _ h => h rfl
  exact guarded_needs_development hload hadapter hstarted (fun _ _ _ _ h => h) hcall
    List.mem_cons_self hguarded hhandled

/-! ## Rates -/

/-- What an entry says: a code before its first colon, and a number after it. -/
def ReadsRate (runtime : Runtime) (entry code : String) (rate : PyFloat) : Prop :=
  ∃ name text, entry.toList = name.toList ++ ':' :: text.toList ∧ ':' ∉ name.toList
    ∧ PyString.upper (PyString.strip name) = code ∧ runtime.float (.Text text) = .ok rate

lemma partitionColon_eq_some {entry name text : String} :
    partitionColon entry = some (name, text)
      ↔ entry.toList = name.toList ++ ':' :: text.toList ∧ ':' ∉ name.toList := by
  rw [partitionColon, List.span_eq_takeWhile_dropWhile]
  constructor
  · intro h
    cases hrest : entry.toList.dropWhile (· ≠ ':') with
    | nil =>
        rw [hrest] at h
        cases h
    | cons separator rate =>
        rw [hrest] at h
        obtain ⟨rfl, rfl⟩ := Prod.mk.inj (Option.some.inj h)
        have hseparator := List.head?_dropWhile_not (· ≠ ':') entry.toList
        rw [hrest] at hseparator
        obtain rfl : separator = ':' := by simpa using hseparator
        rw [String.toList_ofList, String.toList_ofList, ← hrest, List.takeWhile_append_dropWhile]
        exact ⟨rfl, fun hmem => by simpa using List.mem_takeWhile_imp hmem⟩
  · rintro ⟨hentry, hname⟩
    have hpass : ∀ c ∈ name.toList, decide (c ≠ ':') = true := fun c hc =>
      decide_eq_true fun heq => hname (heq ▸ hc)
    rw [hentry, List.takeWhile_append_of_pos hpass, List.dropWhile_append_of_pos hpass]
    simp

lemma parseRate_eq_ok {runtime : Runtime} {entry code : String} {rate : PyFloat} :
    parseRate runtime entry = .ok (code, rate) ↔ ReadsRate runtime entry code rate := by
  simp only [parseRate, bind_eq_ok, demand_eq_ok, mapError_eq_ok]
  constructor
  · rintro ⟨⟨name, text⟩, hsplit, value, hvalue, h⟩
    obtain ⟨hentry, hname⟩ := partitionColon_eq_some.mp hsplit
    obtain ⟨hcode, rfl⟩ := Prod.mk.inj (Except.ok.inj h)
    exact ⟨name, text, hentry, hname, hcode, hvalue⟩
  · rintro ⟨name, text, hentry, hname, rfl, hvalue⟩
    exact ⟨(name, text), partitionColon_eq_some.mpr ⟨hentry, hname⟩, rate, hvalue, rfl⟩

/-- The rates are read entry by entry. -/
lemma parseCurrencyRates_eq_ok {runtime : Runtime} {value : String} {rates : Dict String PyFloat} :
    parseCurrencyRates runtime value = .ok rates
      ↔ ∃ pairs, List.Forall₂ (fun entry pair => ReadsRate runtime entry pair.1 pair.2)
          (commaParts value) pairs ∧ rates = Dict.ofPairs pairs := by
  rw [parseCurrencyRates, bind_eq_ok]
  have hread : (fun entry (pair : String × PyFloat) => parseRate runtime entry = .ok pair)
      = fun entry pair => ReadsRate runtime entry pair.1 pair.2 := by
    funext entry pair
    exact propext parseRate_eq_ok
  simp only [mapM_eq_ok_iff_forall₂, hread]
  constructor
  · rintro ⟨pairs, hpairs, h⟩
    exact ⟨pairs, hpairs, (Except.ok.inj h).symm⟩
  · rintro ⟨pairs, hpairs, rfl⟩
    exact ⟨pairs, hpairs, rfl⟩

def finiteRate : PyFloat → Option ℚ
  | .Finite value => some value
  | _ => none

/-- The converter of an application.  Amounts are rationals here, so its rates have to be finite. -/
def ApplicationSettings.converter? (settings : ApplicationSettings) : Option CurrencyConverter :=
  if settings.currencyRates.values.all fun rate => (finiteRate rate).isSome then
    some
      { baseCurrency := settings.platformBaseCurrency
        rates := fun code => (settings.currencyRates.get? code).bind finiteRate }
  else none

/-- The last entry of the code says the rate. -/
def LastRate (runtime : Runtime) (entries : List String) (code : String) (rate : ℚ) : Prop :=
  ∃ before entry after, entries = before ++ entry :: after
    ∧ ReadsRate runtime entry code (.Finite rate)
    ∧ ∀ later ∈ after, ∀ other, ¬ ReadsRate runtime later code other

lemma finiteRate_eq_some {rate : PyFloat} {value : ℚ} :
    finiteRate rate = some value ↔ rate = .Finite value := by
  cases rate <;> simp [finiteRate]

/-- **The rate of a code** is the one its last entry says. -/
lemma rate_eq_some_iff {runtime : Runtime} {text code : String} {rates : Dict String PyFloat}
    {rate : ℚ} (hparse : parseCurrencyRates runtime text = .ok rates) :
    (rates.get? code).bind finiteRate = some rate
      ↔ LastRate runtime (commaParts text) code rate := by
  obtain ⟨pairs, hpairs, rfl⟩ := parseCurrencyRates_eq_ok.mp hparse
  have hreads : ∀ entry code code' rate rate', ReadsRate runtime entry code rate →
      ReadsRate runtime entry code' rate' → code = code' ∧ rate = rate' := by
    intro entry code code' rate rate' h h'
    have heq := (parseRate_eq_ok.mpr h).symm.trans (parseRate_eq_ok.mpr h')
    exact Prod.mk.inj (Except.ok.inj heq)
  -- entries and pairs stand in the same places
  have hnone : ∀ {entries : List String} {pairs : List (String × PyFloat)},
      List.Forall₂ (fun entry pair => ReadsRate runtime entry pair.1 pair.2) entries pairs →
        (code ∉ pairs.map Prod.fst
          ↔ ∀ entry ∈ entries, ∀ other, ¬ ReadsRate runtime entry code other) := by
    intro entries pairs h
    induction h with
    | nil => simp
    | @cons entry pair entries pairs hread _ ih =>
        rw [List.map_cons, List.mem_cons, not_or, ih, List.forall_mem_cons]
        refine and_congr_left fun _ => ⟨fun hne other hother => ?_, fun hnone heq => ?_⟩
        · exact hne (hreads _ _ _ _ _ hother hread).1
        · exact hnone pair.2 (heq ▸ hread)
  simp only [Option.bind_eq_some_iff, finiteRate_eq_some, Dict.get?_ofPairs_eq_some_iff]
  constructor
  · rintro ⟨_, ⟨before, after, rfl, hlast⟩, rfl⟩
    obtain ⟨earlier, entry, later, hsplit, -, hread, hlater⟩ := Ranking.split_of_forall₂ hpairs
    exact ⟨earlier, entry, later, hsplit, hread, (hnone hlater).mp hlast⟩
  · rintro ⟨earlier, entry, later, hsplit, hread, hlast⟩
    rw [hsplit] at hpairs
    obtain ⟨before, pair, after, rfl, -, hpair, hafter⟩ := Ranking.split_of_forall₂ hpairs.flip
    obtain ⟨hcode, hrate⟩ := hreads _ _ _ _ _ hpair hread
    refine ⟨pair.2, ⟨before, after, ?_, (hnone hafter.flip).mpr hlast⟩, hrate⟩
    rw [← hcode]

lemma baseCurrency_of_ok {value currency : String}
    (h : normaliseBaseCurrency value = .ok currency) :
    currency = PyString.upper (PyString.strip value) := by
  simp only [normaliseBaseCurrency] at h
  split_ifs at h
  exact (Except.ok.inj h).symm

/-- **From the text of the rates to an amount.**  Where the settings were accepted, every entry that
    is not blank said a rate, and an amount is converted exactly if its currency, trimmed and in
    upper case, is that of the platform, or is listed: at the last rate that is listed for it. -/
theorem configured_conversion {runtime : Runtime} {environment : EnvironmentVariables}
    {settings : ApplicationSettings} {converter : CurrencyConverter}
    (hload : ApplicationSettings.load runtime environment = .ok settings)
    (hconverter : settings.converter? = some converter) :
    (∀ entry ∈ commaParts environment.currencyRates, ∃ code rate, ReadsRate runtime entry code rate)
      ∧ ∀ amount source value, converter.toBase amount source = .ok value
        ↔ ∃ code, normaliseCurrency source = some code
          ∧ (code = PyString.upper (PyString.strip environment.platformBaseCurrency)
              ∧ value = amount
            ∨ code ≠ PyString.upper (PyString.strip environment.platformBaseCurrency)
              ∧ ∃ rate, LastRate runtime (commaParts environment.currencyRates) code rate
                ∧ value = amount * rate) := by
  obtain ⟨-, -, -, -, hbase, hrates⟩ := load_eq_ok hload
  obtain ⟨pairs, hpairs, -⟩ := parseCurrencyRates_eq_ok.mp hrates
  have hname := baseCurrency_of_ok hbase
  rw [ApplicationSettings.converter?] at hconverter
  split_ifs at hconverter with hfinite
  obtain rfl := Option.some.inj hconverter
  refine ⟨fun entry hentry => ?_, fun amount source value => ?_⟩
  · obtain ⟨before, after, hsplit⟩ := List.append_of_mem hentry
    rw [hsplit] at hpairs
    obtain ⟨_, pair, _, -, -, hread, -⟩ := Ranking.split_of_forall₂ hpairs.flip
    exact ⟨pair.1, pair.2, hread⟩
  · simp only [CurrencyConverter.toBase, hname, ← rate_eq_some_iff hrates]
    cases hcode : normaliseCurrency source with
    | none => simp
    | some code =>
        by_cases hown : code = PyString.upper (PyString.strip environment.platformBaseCurrency)
        · simp [hown, eq_comm]
        · cases hrate : (settings.currencyRates.get? code).bind finiteRate with
          | none => simp [hown, hrate]
          | some rate => simp [hown, hrate, eq_comm]

/-- An interpreter that reads three rates. -/
def rateRuntime : Runtime where
  jsonLoads := fun _ => .error .JSONDecodeError
  jsonDumps := fun _ => .error "TypeError"
  float := fun
    | .Text "0.012" => .ok (.Finite (12 / 1000))
    | .Text "0.011" => .ok (.Finite (11 / 1000))
    | .Text "1.08" => .ok (.Finite (108 / 100))
    | _ => .error .ValueError
  repr := fun _ => ""

/-- The rupee is listed twice. -/
def ratedEnvironment : EnvironmentVariables :=
  { localEnvironment with currencyRates := "INR:0.012, eur:1.08, ,inr :0.011" }

def ratedSettings : ApplicationSettings :=
  { localSettings with
    currencyRates := .ofPairs
      [("INR", .Finite (12 / 1000)), ("EUR", .Finite (108 / 100)), ("INR", .Finite (11 / 1000))] }

/-- A thousand rupees are worth 11 dollars: the last rate counts. -/
theorem last_rupee_rate_counts :
    ∃ converter : CurrencyConverter, ratedSettings.converter? = some converter
      ∧ converter.toBase 1000 (some "inr") = .ok 11 := by
  have hload : ApplicationSettings.load rateRuntime ratedEnvironment = .ok ratedSettings := rfl
  have hlast : LastRate rateRuntime (commaParts ratedEnvironment.currencyRates) "INR"
      (11 / 1000) := by
    refine ⟨["INR:0.012", "eur:1.08"], "inr :0.011", [], by decide +kernel, ?_, nofun⟩
    exact ⟨"inr ", "0.011", by decide, by decide, by decide +kernel, rfl⟩
  refine ⟨_, if_pos (by decide +kernel), ?_⟩
  refine ((configured_conversion hload (if_pos (by decide +kernel))).2 _ _ _).mpr ?_
  refine ⟨"INR", by decide +kernel, Or.inr ⟨by decide +kernel, 11 / 1000, hlast, ?_⟩⟩
  decide +kernel

end CostPlatform
