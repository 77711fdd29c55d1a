import CostPlatform.Security.Principal
import CostPlatform.Library.Fallible
import CostPlatform.Library.PyJson
import CostPlatform.Library.PyString

/-!
# Identity

Tokens of the development adapter: the payload it signs, the validation of what comes back, and the
mapping of validated claims onto a principal.  PyJWT is a parameter.

Encoder and parser are written apart.  The encoder writes one object for an assignment; the parser
trims, upper-cases, accepts a second shape and drops what it does not recognise.  `Grants` is what
an entry of the roles claim says on its face, `parseAssignment_eq_some_iff` that the parser reads
exactly that, and `parseAssignment_encode` that it reads back what the encoder wrote.

`authenticate_faithful` puts both together.  The names of the tenant and the roles claim are free
configuration, and both are keys of the same object as the claims the adapter writes for itself:
`ClaimNamesApart` is what keeps them from being written over, and `tenant_in_sub_changes_subject` a
deployment where they are.
-/

namespace CostPlatform

open PyJson Fallible

/-! ## Names of roles and scopes -/

def Role.value : Role → String
  | .Admin => "ADMIN"
  | .FinopsManager => "FINOPS_MANAGER"
  | .AiEngineer => "AI_ENGINEER"
  | .PlantManager => "PLANT_MANAGER"
  | .Analyst => "ANALYST"
  | .Viewer => "VIEWER"

/-- `Role(text)`, or `none` for the `ValueError`. -/
def Role.ofValue (text : String) : Option Role :=
  [.Admin, .FinopsManager, .AiEngineer, .PlantManager, .Analyst, .Viewer].find? fun role =>
    Role.value role = text

def ScopeType.value : ScopeType → String
  | .Tenant => "TENANT"
  | .Plant => "PLANT"
  | .Department => "DEPARTMENT"

/-- `ScopeType(text)`, or `none` for the `ValueError`. -/
def ScopeType.ofValue (text : String) : Option ScopeType :=
  [.Tenant, .Plant, .Department].find? fun scopeType => ScopeType.value scopeType = text

@[simp] lemma Role.ofValue_eq_some_iff {text : String} {role : Role} :
    Role.ofValue text = some role ↔ text = role.value := by
  constructor
  · intro h
    simpa [eq_comm] using List.find?_some h
  · rintro rfl
    cases role <;> decide

@[simp] lemma ScopeType.ofValue_eq_some_iff {text : String} {scopeType : ScopeType} :
    ScopeType.ofValue text = some scopeType ↔ text = scopeType.value := by
  constructor
  · intro h
    simpa [eq_comm] using List.find?_some h
  · rintro rfl
    cases scopeType <;> decide

/-- Names are written in the form the parser brings them to. -/
@[simp] lemma Role.upper_strip_value (role : Role) :
    PyString.upper (PyString.strip role.value) = role.value := by
  cases role <;> decide +kernel

@[simp] lemma ScopeType.upper_value (scopeType : ScopeType) :
    PyString.upper scopeType.value = scopeType.value := by
  cases scopeType <;> decide +kernel

/-! ## The settings and the adapter -/

/-- The part of the settings that tokens depend on.  Claim names are taken as configured. -/
structure Settings where
  jwtAlgorithm : String := "HS256"
  jwtSecret : String := ""
  jwtIssuer : Option String := none
  jwtAudience : Option String := none
  jwtLeewaySeconds : ℚ := 0
  jwtAccessTokenTtlSeconds : ℤ := 900
  jwtTenantClaim : String := "tenant_id"
  jwtRolesClaim : String := "roles"
  deriving DecidableEq, Repr

/-- An adapter is not built without a secret. -/
structure DevelopmentIdentityAdapter where
  settings : Settings
  secret_ne : settings.jwtSecret ≠ ""

/-- The payload of a token, in the order its keys were written. -/
abbrev Payload : Type := List (String × Json)

/-- The errors of PyJWT.  Expiry is told apart from the others. -/
inductive PyJWTError where
  | ExpiredSignatureError
  | Other (name : String)
  deriving DecidableEq, Repr

/-- What `jwt.decode` is asked to verify, beside signature, expiry, not-before and issue time. -/
structure DecodeOptions where
  algorithms : List String
  issuer : Option String
  audience : Option String
  leeway : ℚ
  required : List String
  verifyAud : Bool
  verifyIss : Bool
  deriving DecidableEq, Repr

/-- PyJWT, and the part of the interpreter tokens depend on. -/
structure PyJwt where
  encode : Payload → (key algorithm : String) → Except String String
  getUnverifiedHeader : String → Except PyJWTError Payload
  decode : (token key : String) → DecodeOptions → Except PyJWTError Payload
  /-- `int(text)`. -/
  intOfText : String → Except String ℤ
  runtime : Runtime

/-- `int(value)`. -/
def PyJwt.int (pyjwt : PyJwt) : Json → Except String ℤ
  | .Integer value => .ok value
  | .Boolean value => .ok (if value then 1 else 0)
  | .Float (.Finite value) _ => .ok (value.num.tdiv value.den)
  | .Float .NaN _ => .error "ValueError"
  | .Float .PosInf _ => .error "OverflowError"
  | .Float .NegInf _ => .error "OverflowError"
  | .Text text => pyjwt.intOfText text
  | .Null => .error "TypeError"
  | .Items _ => .error "TypeError"
  | .Dict _ => .error "TypeError"

/-- What authentication raises: a `TokenError`, or another exception that goes through. -/
inductive AuthenticationError where
  | MissingTokenError
  | InvalidTokenError
  | ExpiredTokenError
  | Other (exception : String)
  deriving DecidableEq, Repr

/-! ## Issuing a token -/

/-- The object an assignment is written as. -/
def encodeAssignment (assignment : RoleAssignment) : Json :=
  .Dict [("role", .Text assignment.role.value), ("scope_type", .Text assignment.scopeType.value),
    ("scope_id", .Text assignment.scopeId)]

/-- What a call of `issue_token` is given, with the clock and the identifier it draws. -/
structure TokenOrder where
  subject : String
  tenantId : String
  assignments : List RoleAssignment := []
  expiresInSeconds : Option ℤ := none
  issuedAt : Option ℤ := none
  clock : ℤ
  jti : String
  deriving DecidableEq, Repr

namespace DevelopmentIdentityAdapter

variable (adapter : DevelopmentIdentityAdapter) (pyjwt : PyJwt)

/-- A claim that is written only where its setting is given. -/
def setConfigured (payload : Payload) (name : String) (setting : Option String) : Payload :=
  match PyString.truthy setting with
  | some text => setItem payload name (.Text text)
  | none => payload

/-- The payload of a token.  A key that comes twice keeps its last value. -/
def tokenPayload (order : TokenOrder) : Payload :=
  let settings := adapter.settings
  let now := order.issuedAt.getD order.clock
  let ttl := order.expiresInSeconds.getD settings.jwtAccessTokenTtlSeconds
  let payload : Payload := []
  let payload := setItem payload "sub" (.Text order.subject)
  let payload := setItem payload "iat" (.Integer now)
  let payload := setItem payload "nbf" (.Integer now)
  let payload := setItem payload "exp" (.Integer (now + ttl))
  let payload := setItem payload "jti" (.Text order.jti)
  let payload := setItem payload settings.jwtTenantClaim (.Text order.tenantId)
  let payload :=
    setItem payload settings.jwtRolesClaim (.Items (order.assignments.map encodeAssignment))
  let payload := setConfigured payload "iss" settings.jwtIssuer
  setConfigured payload "aud" settings.jwtAudience

def issueToken (order : TokenOrder) : Except String String :=
  pyjwt.encode (adapter.tokenPayload order) adapter.settings.jwtSecret
    adapter.settings.jwtAlgorithm

end DevelopmentIdentityAdapter

/-! ## Validating a token -/

structure TokenClaims where
  subject : String
  issuer : Json
  audience : Json
  expiresAt : ℤ
  issuedAt : ℤ
  raw : Payload
  deriving Repr

/-- `claims.claim(name)`, `None` where the payload has no such key. -/
def TokenClaims.claim (claims : TokenClaims) (name : String) : Json :=
  (lookup claims.raw name).getD .Null

namespace DevelopmentIdentityAdapter

variable (adapter : DevelopmentIdentityAdapter) (pyjwt : PyJwt)

def decodeOptions : DecodeOptions where
  algorithms := [adapter.settings.jwtAlgorithm]
  issuer := adapter.settings.jwtIssuer
  audience := adapter.settings.jwtAudience
  leeway := adapter.settings.jwtLeewaySeconds
  required := ["sub", "exp", "iat"]
  verifyAud := adapter.settings.jwtAudience.isSome
  verifyIss := adapter.settings.jwtIssuer.isSome

/-- `jwt.decode` with the adapter's own key, whatever key the header asks for. -/
def decode (token : String) : Except AuthenticationError Payload :=
  match pyjwt.decode token adapter.settings.jwtSecret adapter.decodeOptions with
  | .ok payload => .ok payload
  | .error .ExpiredSignatureError => .error .ExpiredTokenError
  | .error (.Other _) => .error .InvalidTokenError

/-- The claims of a decoded payload. -/
def claimsOf (payload : Payload) : Except AuthenticationError TokenClaims := do
  let audience :=
    match (lookup payload "aud").getD .Null with
    | .Items [] => .Null
    | .Items (audience :: _) => audience
    | audience => audience
  let subject ← demand (lookup payload "sub") (.Other "KeyError")
  let exp ← demand (lookup payload "exp") (.Other "KeyError")
  let expiresAt ← (pyjwt.int exp).mapError .Other
  let iat ← demand (lookup payload "iat") (.Other "KeyError")
  let issuedAt ← (pyjwt.int iat).mapError .Other
  .ok
    { subject := pyjwt.runtime.str subject
      issuer := (lookup payload "iss").getD .Null
      audience := audience
      expiresAt := expiresAt
      issuedAt := issuedAt
      raw := payload }

def validate (token : String) : Except AuthenticationError TokenClaims := do
  require (token ≠ "" ∧ PyString.strip token ≠ "") .MissingTokenError
  let _header ← (pyjwt.getUnverifiedHeader token).mapError fun _ => .InvalidTokenError
  let payload ← adapter.decode pyjwt token
  claimsOf pyjwt payload

end DevelopmentIdentityAdapter

/-! ## Mapping claims onto a principal -/

structure ClaimsMapper where
  tenantClaim : String
  rolesClaim : String
  deriving DecidableEq, Repr

namespace ClaimsMapper

def parseRole : Json → Option Role
  | .Text value => Role.ofValue (PyString.upper (PyString.strip value))
  | _ => none

def parseAssignment (runtime : Runtime) (entry : Json) (tenantId : String) :
    Option RoleAssignment :=
  match entry with
  | .Text text => do
      let role ← parseRole (.Text text)
      some { role := role, scopeType := .Tenant, scopeId := tenantId }
  | .Dict fields => do
      let role ← parseRole ((lookup fields "role").getD .Null)
      let scopeType ← ScopeType.ofValue
        (PyString.upper (runtime.str ((lookup fields "scope_type").getD (.Text ""))))
      match lookup fields "scope_id" with
      | some (.Text scopeId) =>
          if scopeId = "" then none
          else some { role := role, scopeType := scopeType, scopeId := scopeId }
      | _ => none
  | _ => none

/-- `raw_roles`: empty where the claim is false, and where it is not a list. -/
def rawRoles (mapper : ClaimsMapper) (claims : TokenClaims) : List Json :=
  match claims.claim mapper.rolesClaim with
  | .Items entries => entries
  | _ => []

def toPrincipal (mapper : ClaimsMapper) (runtime : Runtime) (claims : TokenClaims) :
    Except AuthenticationError Principal :=
  match claims.claim mapper.tenantClaim with
  | .Text tenantId =>
      if tenantId = "" then .error .InvalidTokenError
      else
        .ok
          { subject := claims.subject
            tenantId := tenantId
            assignments := (mapper.rawRoles claims).filterMap fun entry =>
              parseAssignment runtime entry tenantId }
  | _ => .error .InvalidTokenError

end ClaimsMapper

namespace DevelopmentIdentityAdapter

def mapper (adapter : DevelopmentIdentityAdapter) : ClaimsMapper where
  tenantClaim := adapter.settings.jwtTenantClaim
  rolesClaim := adapter.settings.jwtRolesClaim

def authenticate (adapter : DevelopmentIdentityAdapter) (pyjwt : PyJwt) (token : String) :
    Except AuthenticationError Principal := do
  let claims ← adapter.validate pyjwt token
  adapter.mapper.toPrincipal pyjwt.runtime claims

end DevelopmentIdentityAdapter

/-! ## What an entry grants -/

/-- A text names a role in any case, and with blanks around it. -/
def NamesRole (text : String) (role : Role) : Prop :=
  PyString.upper (PyString.strip text) = role.value

/-- **What an entry of the roles claim grants.**  A plain text names a role, held over the token's
    own tenant.  An object names a role, a scope type and the scope. -/
inductive Grants (runtime : Runtime) (tenantId : String) : Json → RoleAssignment → Prop where
  | Plain {text : String} {role : Role} (hrole : NamesRole text role) :
      Grants runtime tenantId (.Text text)
        { role := role, scopeType := .Tenant, scopeId := tenantId }
  | Structured {fields : List (String × Json)} {assignment : RoleAssignment} {text : String}
      {scopeType : Json} (hrole : lookup fields "role" = some (.Text text))
      (hnames : NamesRole text assignment.role)
      (htype : lookup fields "scope_type" = some scopeType)
      (hscope : PyString.upper (runtime.str scopeType) = assignment.scopeType.value)
      (hid : lookup fields "scope_id" = some (.Text assignment.scopeId))
      (hne : assignment.scopeId ≠ "") : Grants runtime tenantId (.Dict fields) assignment

lemma Grants.scopeId_ne {runtime : Runtime} {tenantId : String} {entry : Json}
    {assignment : RoleAssignment} (htenant : tenantId ≠ "")
    (h : Grants runtime tenantId entry assignment) : assignment.scopeId ≠ "" := by
  cases h with
  | Plain _ => exact htenant
  | Structured _ _ _ _ _ hne => exact hne

namespace ClaimsMapper

variable {runtime : Runtime} {tenantId : String}

lemma parseRole_eq_some_iff {value : Json} {role : Role} :
    parseRole value = some role ↔ ∃ text, value = .Text text ∧ NamesRole text role := by
  cases value <;> simp [parseRole, NamesRole]

/-- A scope type that is left out is `""`, which is none. -/
lemma scopeType_eq_some_iff {fields : List (String × Json)} {scopeType : ScopeType} :
    ScopeType.ofValue
        (PyString.upper (runtime.str ((lookup fields "scope_type").getD (.Text ""))))
        = some scopeType
      ↔ ∃ value, lookup fields "scope_type" = some value
          ∧ PyString.upper (runtime.str value) = scopeType.value := by
  rw [ScopeType.ofValue_eq_some_iff]
  cases lookup fields "scope_type" with
  | none =>
      have hempty : PyString.upper "" ≠ scopeType.value := by cases scopeType <;> decide
      simpa [Runtime.str] using hempty
  | some value => simp

/-- **The parser reads what an entry grants**, and nothing else. -/
theorem parseAssignment_eq_some_iff {entry : Json} {assignment : RoleAssignment} :
    parseAssignment runtime entry tenantId = some assignment
      ↔ Grants runtime tenantId entry assignment := by
  constructor
  · intro h
    cases entry with
    | Text text =>
        simp only [parseAssignment, Option.bind_eq_bind, Option.bind_eq_some_iff] at h
        obtain ⟨role, hrole, h⟩ := h
        obtain ⟨_, htext, hnames⟩ := parseRole_eq_some_iff.mp hrole
        cases htext
        cases h
        exact .Plain hnames
    | Dict fields =>
        simp only [parseAssignment, Option.bind_eq_bind, Option.bind_eq_some_iff] at h
        obtain ⟨role, hrole, scopeType, hscope, h⟩ := h
        obtain ⟨text, htext, hnames⟩ := parseRole_eq_some_iff.mp hrole
        obtain ⟨value, hvalue, hscope⟩ := scopeType_eq_some_iff.mp hscope
        have htext : lookup fields "role" = some (.Text text) := by
          cases hlookup : lookup fields "role" with
          | none => simp [hlookup] at htext
          | some found => rw [hlookup, Option.getD_some] at htext; rw [htext]
        split at h
        · next scopeId hid =>
            split_ifs at h with hne
            cases h
            exact .Structured htext hnames hvalue hscope hid hne
        · cases h
    | _ => cases h
  · intro h
    cases h with
    | Plain hrole =>
        have hrole := parseRole_eq_some_iff.mpr ⟨_, rfl, hrole⟩
        simp [parseAssignment, hrole]
    | Structured hrole hnames htype hscope hid hne =>
        have hnames := parseRole_eq_some_iff.mpr ⟨_, rfl, hnames⟩
        have hscope := ScopeType.ofValue_eq_some_iff.mpr hscope
        simp [parseAssignment, hrole, hnames, htype, hscope, hid, hne]

/-- What the encoder writes for an assignment grants that assignment. -/
lemma grants_encodeAssignment {assignment : RoleAssignment} (hne : assignment.scopeId ≠ "") :
    Grants runtime tenantId (encodeAssignment assignment) assignment := by
  refine .Structured rfl ?_ rfl ?_ rfl hne
  · exact Role.upper_strip_value assignment.role
  · exact ScopeType.upper_value assignment.scopeType

theorem parseAssignment_encode {assignment : RoleAssignment} (hne : assignment.scopeId ≠ "") :
    parseAssignment runtime (encodeAssignment assignment) tenantId = some assignment :=
  parseAssignment_eq_some_iff.mpr (grants_encodeAssignment hne)

/-- A list of assignments is read back in its order. -/
lemma filterMap_parse_encode {assignments : List RoleAssignment}
    (hne : ∀ assignment ∈ assignments, assignment.scopeId ≠ "") :
    ((assignments.map encodeAssignment).filterMap fun entry =>
        parseAssignment runtime entry tenantId)
      = assignments := by
  induction assignments with
  | nil => rfl
  | cons assignment assignments ih =>
      obtain ⟨hhead, htail⟩ := List.forall_mem_cons.mp hne
      rw [List.map_cons, List.filterMap_cons, parseAssignment_encode hhead, ih htail]

variable {mapper : ClaimsMapper} {claims : TokenClaims} {principal : Principal}

/-- What a principal is made of. -/
theorem toPrincipal_eq_ok_iff :
    mapper.toPrincipal runtime claims = .ok principal
      ↔ principal.subject = claims.subject
        ∧ claims.claim mapper.tenantClaim = .Text principal.tenantId
        ∧ principal.tenantId ≠ ""
        ∧ principal.assignments = (mapper.rawRoles claims).filterMap fun entry =>
            parseAssignment runtime entry principal.tenantId := by
  obtain ⟨subject, tenantId, assignments⟩ := principal
  rw [toPrincipal]
  split
  · next tenantId' htenant =>
      rw [htenant]
      split_ifs with hempty
      · simp_all
      · simp only [Except.ok.injEq, Principal.mk.injEq, Json.Text.injEq]
        constructor
        · rintro ⟨rfl, rfl, rfl⟩
          exact ⟨rfl, rfl, hempty, rfl⟩
        · rintro ⟨rfl, rfl, -, rfl⟩
          exact ⟨rfl, rfl, rfl⟩
  · next htenant => exact iff_of_false nofun fun ⟨_, h, _⟩ => htenant _ h

lemma mem_rawRoles {entry : Json} :
    entry ∈ mapper.rawRoles claims
      ↔ ∃ entries, claims.claim mapper.rolesClaim = .Items entries ∧ entry ∈ entries := by
  rw [rawRoles]
  split
  · next entries h => simp [h]
  · next h => exact iff_of_false List.not_mem_nil fun ⟨entries, hentries, _⟩ => h _ hentries

end ClaimsMapper

/-! ## Claim names -/

/-- The claims that are written where their setting is given. -/
def Settings.configuredClaims (settings : Settings) : List String :=
  (if (PyString.truthy settings.jwtIssuer).isSome then ["iss"] else [])
    ++ (if (PyString.truthy settings.jwtAudience).isSome then ["aud"] else [])

/-- The claims of tenant and roles are written over by no other, and write over none of the claims
    that are read back. -/
def Settings.ClaimNamesApart (settings : Settings) : Prop :=
  settings.jwtTenantClaim ≠ settings.jwtRolesClaim
    ∧ ∀ name ∈ [settings.jwtTenantClaim, settings.jwtRolesClaim],
        name ∉ ["sub", "iat", "exp"] ++ settings.configuredClaims

instance (settings : Settings) : Decidable settings.ClaimNamesApart :=
  inferInstanceAs (Decidable (_ ∧ ∀ name ∈ _, _))

namespace DevelopmentIdentityAdapter

variable {adapter : DevelopmentIdentityAdapter} {pyjwt : PyJwt} {order : TokenOrder}
  {token : String} {principal : Principal}

/-- **PyJWT decodes what it encoded**: the token is one, its header can be read, and decoding it
    with the key it was encoded with gives the payload back. -/
structure ReadsBack (adapter : DevelopmentIdentityAdapter) (pyjwt : PyJwt) (order : TokenOrder)
    (token : String) : Prop where
  encoded : adapter.issueToken pyjwt order = .ok token
  notBlank : token ≠ "" ∧ PyString.strip token ≠ ""
  header : ∃ header, pyjwt.getUnverifiedHeader token = .ok header
  decoded : pyjwt.decode token adapter.settings.jwtSecret adapter.decodeOptions
    = .ok (adapter.tokenPayload order)

lemma lookup_setConfigured {payload : Payload} {key : String} {setting : Option String}
    {name : String} (h : name ∉ if (PyString.truthy setting).isSome then [key] else []) :
    lookup (setConfigured payload key setting) name = lookup payload name := by
  unfold setConfigured
  cases hset : PyString.truthy setting with
  | none => rfl
  | some text =>
      have hne : name ≠ key := by simpa [hset] using h
      rw [lookup_setItem, if_neg hne]

/-- Issuer and audience are written over nothing else. -/
lemma lookup_tokenPayload {name : String} (h : name ∉ adapter.settings.configuredClaims) :
    lookup (adapter.tokenPayload order) name
      = if name = adapter.settings.jwtRolesClaim then
          some (.Items (order.assignments.map encodeAssignment))
        else if name = adapter.settings.jwtTenantClaim then some (.Text order.tenantId)
        else if name = "jti" then some (.Text order.jti)
        else if name = "exp" then
          some (.Integer (order.issuedAt.getD order.clock
            + order.expiresInSeconds.getD adapter.settings.jwtAccessTokenTtlSeconds))
        else if name = "nbf" then some (.Integer (order.issuedAt.getD order.clock))
        else if name = "iat" then some (.Integer (order.issuedAt.getD order.clock))
        else if name = "sub" then some (.Text order.subject)
        else none := by
  rw [Settings.configuredClaims, List.mem_append, not_or] at h
  unfold tokenPayload
  rw [lookup_setConfigured h.2, lookup_setConfigured h.1]
  simp only [lookup_setItem, lookup_nil]

lemma not_mem_configuredClaims {settings : Settings} {name : String}
    (h : name ∉ ["iss", "aud"]) : name ∉ settings.configuredClaims := by
  simp only [Settings.configuredClaims]
  split_ifs <;> simp_all

/-- The claims the service writes itself have names of their own. -/
lemma own_ne {settings : Settings} (hapart : settings.ClaimNamesApart) {name : String}
    (hown : name ∈ ["sub", "iat", "exp"]) :
    name ≠ settings.jwtRolesClaim ∧ name ≠ settings.jwtTenantClaim := by
  have hne : ∀ claim ∈ [settings.jwtTenantClaim, settings.jwtRolesClaim], name ≠ claim := by
    rintro claim hclaim rfl
    exact hapart.2 name hclaim (List.mem_append_left _ hown)
  exact ⟨hne _ (by simp), hne _ (by simp)⟩

/-- The claims of a token that was issued. -/
lemma claimsOf_tokenPayload (hapart : adapter.settings.ClaimNamesApart) :
    ∃ claims, claimsOf pyjwt (adapter.tokenPayload order) = .ok claims
      ∧ claims.subject = order.subject ∧ claims.raw = adapter.tokenPayload order := by
  have hsub : lookup (adapter.tokenPayload order) "sub" = some (.Text order.subject) := by
    obtain ⟨hroles, htenant⟩ := @own_ne _ hapart "sub" (by decide)
    rw [lookup_tokenPayload (not_mem_configuredClaims (by decide)), if_neg hroles, if_neg htenant]
    rfl
  have hexp : ∃ exp, lookup (adapter.tokenPayload order) "exp" = some (.Integer exp) := by
    obtain ⟨hroles, htenant⟩ := @own_ne _ hapart "exp" (by decide)
    rw [lookup_tokenPayload (not_mem_configuredClaims (by decide)), if_neg hroles, if_neg htenant]
    exact ⟨_, rfl⟩
  have hiat : ∃ iat, lookup (adapter.tokenPayload order) "iat" = some (.Integer iat) := by
    obtain ⟨hroles, htenant⟩ := @own_ne _ hapart "iat" (by decide)
    rw [lookup_tokenPayload (not_mem_configuredClaims (by decide)), if_neg hroles, if_neg htenant]
    exact ⟨_, rfl⟩
  obtain ⟨exp, hexp⟩ := hexp
  obtain ⟨iat, hiat⟩ := hiat
  simp [claimsOf, hsub, hexp, hiat, demand, PyJwt.int, Except.mapError, Runtime.str]

lemma claimsOf_raw {payload : Payload} {claims : TokenClaims}
    (h : claimsOf pyjwt payload = .ok claims) : claims.raw = payload := by
  simp only [claimsOf, bind_eq_ok] at h
  obtain ⟨_, -, _, -, _, -, _, -, _, -, h⟩ := h
  rw [← Except.ok.inj h]

/-- What a token that was issued is authenticated as. -/
theorem authenticate_issued (hapart : adapter.settings.ClaimNamesApart)
    (hread : adapter.ReadsBack pyjwt order token) (htenant : order.tenantId ≠ "")
    (hscopes : ∀ assignment ∈ order.assignments, assignment.scopeId ≠ "") :
    adapter.authenticate pyjwt token
      = .ok
          { subject := order.subject
            tenantId := order.tenantId
            assignments := order.assignments } := by
  obtain ⟨claims, hclaims, hsubject, hraw⟩ := @claimsOf_tokenPayload adapter pyjwt order hapart
  obtain ⟨header, hheader⟩ := hread.header
  have hvalid : adapter.validate pyjwt token = .ok claims := by
    simp [validate, require, hread.notBlank, hheader, Except.mapError, decode, hread.decoded,
      hclaims]
  obtain ⟨hne, hnames⟩ := hapart
  have hfree {name : String}
      (hname : name ∈ [adapter.settings.jwtTenantClaim, adapter.settings.jwtRolesClaim]) :
      name ∉ adapter.settings.configuredClaims := fun hmem =>
    hnames name hname (List.mem_append_right _ hmem)
  have htenantClaim : claims.claim adapter.mapper.tenantClaim = .Text order.tenantId := by
    rw [TokenClaims.claim, hraw, mapper, lookup_tokenPayload (hfree (by simp)), if_neg hne,
      if_pos rfl, Option.getD_some]
  have hrolesClaim : adapter.mapper.rawRoles claims = order.assignments.map encodeAssignment := by
    rw [ClaimsMapper.rawRoles, TokenClaims.claim, hraw, mapper,
      lookup_tokenPayload (hfree (by simp)), if_pos rfl, Option.getD_some]
  rw [authenticate, hvalid, ok_bind, ClaimsMapper.toPrincipal_eq_ok_iff]
  refine ⟨hsubject.symm, htenantClaim, htenant, ?_⟩
  rw [hrolesClaim, ClaimsMapper.filterMap_parse_encode hscopes]

/-- What the adapter decoded is what PyJWT decoded. -/
lemma decode_eq_ok_iff {payload : Payload} :
    adapter.decode pyjwt token = .ok payload
      ↔ pyjwt.decode token adapter.settings.jwtSecret adapter.decodeOptions = .ok payload := by
  rw [decode]
  split
  · next h => simp [h]
  · next h => simp [h]
  · next h => simp [h]

/-- Where every assignment of a principal comes from, whatever the token held. -/
theorem assignments_granted (h : adapter.authenticate pyjwt token = .ok principal) :
    ∃ payload,
      pyjwt.decode token adapter.settings.jwtSecret adapter.decodeOptions = .ok payload
        ∧ lookup payload adapter.settings.jwtTenantClaim = some (.Text principal.tenantId)
        ∧ ∀ assignment ∈ principal.assignments,
            assignment.scopeId ≠ ""
              ∧ ∃ entries, lookup payload adapter.settings.jwtRolesClaim = some (.Items entries)
                ∧ ∃ entry ∈ entries,
                    Grants pyjwt.runtime principal.tenantId entry assignment := by
  obtain ⟨claims, hvalid, h⟩ := bind_eq_ok.mp h
  obtain ⟨_, -, hvalid⟩ := bind_eq_ok.mp hvalid
  obtain ⟨_, -, hvalid⟩ := bind_eq_ok.mp hvalid
  obtain ⟨payload, hdecode, hclaims⟩ := bind_eq_ok.mp hvalid
  obtain ⟨-, htenant, hne, hassignments⟩ := ClaimsMapper.toPrincipal_eq_ok_iff.mp h
  -- `None` stands for a claim that is not there, so what is read as a text or a list is there.
  have hclaim {name : String} {value : Json} (hvalue : claims.claim name = value)
      (hnull : value ≠ .Null) : lookup payload name = some value := by
    rw [TokenClaims.claim, claimsOf_raw hclaims] at hvalue
    cases hlookup : lookup payload name with
    | none => exact absurd (by simpa [hlookup] using hvalue.symm) hnull
    | some found => rw [← hvalue, hlookup, Option.getD_some]
  refine ⟨payload, decode_eq_ok_iff.mp hdecode, hclaim htenant nofun, ?_⟩
  intro assignment hmem
  rw [hassignments, List.mem_filterMap] at hmem
  obtain ⟨entry, hentry, hparse⟩ := hmem
  obtain ⟨entries, hentries, hentry⟩ := ClaimsMapper.mem_rawRoles.mp hentry
  have hgrants := ClaimsMapper.parseAssignment_eq_some_iff.mp hparse
  exact ⟨hgrants.scopeId_ne hne, entries, hclaim hentries nofun, entry, hentry, hgrants⟩

end DevelopmentIdentityAdapter

namespace DevelopmentIdentityAdapter

/-! ## The round trip -/

/-- **Tokens carry an identity and do not widen it.**  Where the claim names are apart, an issued
    token is authenticated as its subject and tenant, with its assignments in their order.  Whatever
    a token holds, every assignment of its principal is granted by an entry of the roles claim. -/
theorem authenticate_faithful (adapter : DevelopmentIdentityAdapter) (pyjwt : PyJwt) :
    (adapter.settings.ClaimNamesApart →
      ∀ order token, adapter.ReadsBack pyjwt order token → order.tenantId ≠ "" →
        (∀ assignment ∈ order.assignments, assignment.scopeId ≠ "") →
        adapter.authenticate pyjwt token
          = .ok
              { subject := order.subject
                tenantId := order.tenantId
                assignments := order.assignments })
    ∧ ∀ token principal, adapter.authenticate pyjwt token = .ok principal →
        ∃ payload,
          pyjwt.decode token adapter.settings.jwtSecret adapter.decodeOptions = .ok payload
            ∧ lookup payload adapter.settings.jwtTenantClaim = some (.Text principal.tenantId)
            ∧ ∀ assignment ∈ principal.assignments,
                assignment.scopeId ≠ ""
                  ∧ ∃ entries,
                      lookup payload adapter.settings.jwtRolesClaim = some (.Items entries)
                    ∧ ∃ entry ∈ entries,
                        Grants pyjwt.runtime principal.tenantId entry assignment := by
  constructor
  · intro hapart order token hread htenant hscopes
    exact authenticate_issued hapart hread htenant hscopes
  · intro token principal h
    exact assignments_granted h

end DevelopmentIdentityAdapter

/-- PyJWT where it has signed one token: it reads that token and no other. -/
def PyJwt.signing (token : String) (payload : Payload) : PyJwt where
  encode _ _ _ := .ok token
  getUnverifiedHeader text :=
    if text = token then .ok [("alg", .Text "HS256"), ("typ", .Text "JWT")]
    else .error (.Other "DecodeError")
  decode text _ _ := if text = token then .ok payload else .error (.Other "DecodeError")
  intOfText _ := .error "ValueError"
  runtime :=
    { jsonLoads := fun _ => .error .JSONDecodeError
      jsonDumps := fun _ => .error "TypeError"
      float := fun _ => .error .TypeError
      repr := fun
        | .Items _ => "[]"
        | _ => "\x7b\x7d" }

namespace DevelopmentIdentityAdapter

/-- An adapter with the defaults of the settings, but for the tenant claim. -/
def development (tenantClaim : String) : DevelopmentIdentityAdapter where
  settings := { jwtSecret := "local-development-secret-of-a-laptop", jwtTenantClaim := tenantClaim }
  secret_ne := by simp

/-- A token of the first of November 2023. -/
def order (assignments : List RoleAssignment) : TokenOrder where
  subject := "user-9"
  tenantId := "tenant-a"
  assignments := assignments
  clock := 1698796800
  jti := "6f1c1b1e-0d0a-4c57-9a55-2f0b8a3f9d10"

lemma readsBack_signing (adapter : DevelopmentIdentityAdapter) (order : TokenOrder)
    {token : String} (hblank : token ≠ "" ∧ PyString.strip token ≠ "") :
    adapter.ReadsBack (.signing token (adapter.tokenPayload order)) order token where
  encoded := rfl
  notBlank := hblank
  header := ⟨_, if_pos rfl⟩
  decoded := if_pos rfl

/-- A plant's analyst. -/
def plantAnalyst : RoleAssignment where
  role := .Analyst
  scopeType := .Plant
  scopeId := "plant-7"

/-- Under the default names the analyst of a plant comes back as one, and nothing else. -/
theorem plantAnalyst_authenticated :
    let adapter := development "tenant_id"
    let pyjwt :=
      PyJwt.signing "header.payload.signature" (adapter.tokenPayload (order [plantAnalyst]))
    adapter.authenticate pyjwt "header.payload.signature"
        = .ok { subject := "user-9", tenantId := "tenant-a", assignments := [plantAnalyst] }
      ∧ ∃ entry, Grants pyjwt.runtime "tenant-a" entry plantAnalyst := by
  intro adapter pyjwt
  have hread : adapter.ReadsBack pyjwt (order [plantAnalyst]) "header.payload.signature" :=
    readsBack_signing adapter _ (by decide +kernel)
  obtain ⟨hround, hgranted⟩ := authenticate_faithful adapter pyjwt
  have hprincipal := hround (by decide +kernel) (order [plantAnalyst]) _ hread (by decide)
    (by decide)
  refine ⟨hprincipal, ?_⟩
  obtain ⟨_, -, -, hassignments⟩ := hgranted _ _ hprincipal
  obtain ⟨-, _, -, entry, -, hentry⟩ := hassignments plantAnalyst (List.mem_singleton.mpr rfl)
  exact ⟨entry, hentry⟩

/-- **A tenant in `sub` changes the subject**: it is written over the subject, which is then read
    back as the tenant. -/
theorem tenant_in_sub_changes_subject :
    let adapter := development "sub"
    let pyjwt := PyJwt.signing "header.payload.signature" (adapter.tokenPayload (order []))
    adapter.ReadsBack pyjwt (order []) "header.payload.signature"
      ∧ adapter.authenticate pyjwt "header.payload.signature"
        = .ok { subject := "tenant-a", tenantId := "tenant-a", assignments := [] }
      ∧ (order []).subject = "user-9" := by
  intro adapter pyjwt
  exact ⟨readsBack_signing adapter _ (by decide +kernel), by decide +kernel, rfl⟩

end DevelopmentIdentityAdapter

end CostPlatform
