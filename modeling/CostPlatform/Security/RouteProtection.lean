import CostPlatform.Library.Ranking
import CostPlatform.Library.Traced
import CostPlatform.Security.Identity

/-!
# The audit of the routes at startup

The application does not start where a route under the API prefix has no authentication in its
dependency tree.  `verifyRouteProtection_iff` says for which route tables it starts, and
`offenders_exact` what it names where it does not: each offending operation once, in order.

FastAPI runs a route's function after everything in its dependency tree has returned.
`handled_authenticated` puts the two together: in an application that has started, a request that
reaches a function under the prefix carried a bearer token that the adapter accepted.
-/

namespace CostPlatform

/-! ## Routes -/

/-- A node of a dependency tree: what is called, and what it depends on. -/
inductive Dependant (κ : Type) where
  | node (call : κ) (dependencies : List (Dependant κ))

/-- An API route, or a mount, static files and the docs. -/
inductive Route (κ : Type) where
  | Api (path : String) (methods : List String) (dependant : Option (Dependant κ))
  | Other

def PUBLIC_OPERATIONS : List String := ["/health", "/ready"]

/-- The event that an audit leaves for an operation. -/
structure RouteUnprotected where
  reason : String := "no_authentication_dependency"
  operation : String
  deriving DecidableEq, Repr

structure UnprotectedRouteError where
  message : String
  deriving DecidableEq, Repr

section

variable {κ : Type} [DecidableEq κ] (getCurrentPrincipal : κ)

mutual

/-- The tree resolves the call, at any depth. -/
def Dependant.dependsOnAuthentication : Dependant κ → Bool
  | .node call dependencies =>
      decide (call = getCurrentPrincipal) || anyDependsOnAuthentication dependencies

def anyDependsOnAuthentication : List (Dependant κ) → Bool
  | [] => false
  | dependant :: dependants =>
      dependant.dependsOnAuthentication || anyDependsOnAuthentication dependants

end

/-- The operations of a route, if it neither authenticates nor is public. -/
def offendersOf (apiPrefix : String) : Route κ → List String
  | .Other => []
  | .Api path methods dependant =>
      if ¬ apiPrefix.toList <+: path.toList then []
      else if String.ofList (path.toList.drop apiPrefix.length) ∈ PUBLIC_OPERATIONS then []
      else if dependant.any (Dependant.dependsOnAuthentication getCurrentPrincipal) then []
      else (if methods = [] then ["GET"] else methods).map fun method => method ++ " " ++ path

/-- A set, sorted. -/
def unprotectedRoutes (routes : List (Route κ)) (apiPrefix : String) : List String :=
  Ranking.sortedBy id (routes.flatMap (offendersOf getCurrentPrincipal apiPrefix)).dedup

/-- Fail startup if any API route is unauthenticated. -/
def verifyRouteProtection (routes : List (Route κ)) (apiPrefix : String) :
    Traced RouteUnprotected UnprotectedRouteError Unit :=
  let offenders := unprotectedRoutes getCurrentPrincipal routes apiPrefix
  if offenders = [] then ⟨[], .ok ()⟩
  else
    ⟨offenders.map fun offender => { operation := offender },
      .error ⟨"These API routes have no authentication dependency: "
        ++ ", ".intercalate offenders
        ++ ". Depend on CurrentPrincipal (directly, or through RequirePermission "
        ++ "/ RequireRoles), or add the path to "
        ++ "app.security.route_protection.PUBLIC_OPERATIONS if the contract "
        ++ "declares it without a security requirement."⟩⟩

end

/-! ## Authentication -/

/-- What `HTTPBearer` reads from the header. -/
structure Credentials where
  scheme : String
  credentials : String
  deriving DecidableEq, Repr

def AuthenticationError.code : AuthenticationError → Option String
  | .MissingTokenError => some "unauthorized"
  | .InvalidTokenError => some "invalid_token"
  | .ExpiredTokenError => some "token_expired"
  | .Other _ => none

/-- Authenticate the caller.  The events are the reasons of the failures that are recorded. -/
def getCurrentPrincipal (authenticate : String → Except AuthenticationError Principal)
    (credentials : Option Credentials) : Traced String AuthenticationError Principal :=
  match credentials with
  | none => ⟨["missing_credentials"], .error .MissingTokenError⟩
  | some credentials =>
      if credentials.credentials = "" then ⟨["missing_credentials"], .error .MissingTokenError⟩
      else if PyString.lower credentials.scheme ≠ "bearer" then
        ⟨["unsupported_scheme"], .error .MissingTokenError⟩
      else
        match authenticate credentials.credentials with
        | .ok principal => ⟨[], .ok principal⟩
        -- only a `TokenError` has a code, and an event
        | .error e => ⟨e.code.toList, .error e⟩

/-- **Who is let in**: a bearer token that the adapter accepts, and nothing else. -/
theorem getCurrentPrincipal_eq_ok {authenticate : String → Except AuthenticationError Principal}
    {credentials : Option Credentials} {principal : Principal} :
    (getCurrentPrincipal authenticate credentials).result = .ok principal
      ↔ ∃ scheme token, credentials = some ⟨scheme, token⟩ ∧ token ≠ ""
        ∧ PyString.lower scheme = "bearer" ∧ authenticate token = .ok principal := by
  cases credentials with
  | none => simp [getCurrentPrincipal]
  | some credentials =>
      obtain ⟨scheme, token⟩ := credentials
      simp only [getCurrentPrincipal]
      split_ifs with htoken hscheme
      · simp [htoken]
      · simp [hscheme]
      · cases haccepted : authenticate token with
        | ok accepted => simp [htoken, not_not.mp hscheme, haccepted]
        | error e => simp [haccepted]

/-! ## What the audit passes -/

section

variable {κ : Type}

/-- A call is resolved somewhere in a dependency tree. -/
inductive Dependant.Reaches (target : κ) : Dependant κ → Prop where
  | here (dependencies : List (Dependant κ)) : Reaches target (.node target dependencies)
  | deeper {call : κ} {dependencies : List (Dependant κ)} {dependant : Dependant κ}
      (hmem : dependant ∈ dependencies) (h : Reaches target dependant) :
      Reaches target (.node call dependencies)

variable [DecidableEq κ] {target : κ}

mutual

/-- The walk finds the call wherever it is. -/
theorem dependsOnAuthentication_iff : ∀ dependant : Dependant κ,
    dependant.dependsOnAuthentication target = true ↔ dependant.Reaches target
  | .node call dependencies => by
      rw [Dependant.dependsOnAuthentication, Bool.or_eq_true, decide_eq_true_iff,
        anyDependsOnAuthentication_iff dependencies]
      constructor
      · rintro (rfl | ⟨dependant, hmem, hreaches⟩)
        · exact .here dependencies
        · exact .deeper hmem hreaches
      · intro hreaches
        cases hreaches with
        | here => exact Or.inl rfl
        | deeper hmem hreaches => exact Or.inr ⟨_, hmem, hreaches⟩

theorem anyDependsOnAuthentication_iff : ∀ dependants : List (Dependant κ),
    anyDependsOnAuthentication target dependants = true
      ↔ ∃ dependant ∈ dependants, dependant.Reaches target
  | [] => by simp [anyDependsOnAuthentication]
  | dependant :: dependants => by
      rw [anyDependsOnAuthentication, Bool.or_eq_true, dependsOnAuthentication_iff dependant,
        anyDependsOnAuthentication_iff dependants]
      simp

end

/-- The route serves an operation under the prefix that is not declared public. -/
def Route.Guarded (apiPrefix path : String) : Prop :=
  apiPrefix.toList <+: path.toList
    ∧ String.ofList (path.toList.drop apiPrefix.length) ∉ PUBLIC_OPERATIONS

/-- The route resolves the call. -/
def Route.Authenticates (target : κ) (dependant : Option (Dependant κ)) : Prop :=
  ∃ tree ∈ dependant, tree.Reaches target

lemma any_dependsOn_iff {dependant : Option (Dependant κ)} :
    dependant.any (Dependant.dependsOnAuthentication target) = true
      ↔ Route.Authenticates target dependant := by
  cases dependant with
  | none => simp [Route.Authenticates]
  | some tree => simp [Route.Authenticates, dependsOnAuthentication_iff]

/-- The operations of a route.  One without methods counts as read. -/
def operations (path : String) (methods : List String) : List String :=
  (if methods = [] then ["GET"] else methods).map fun method => method ++ " " ++ path

/-- **What an offender is**: an operation of a guarded route that does not authenticate. -/
lemma mem_offendersOf {apiPrefix operation : String} {route : Route κ} :
    operation ∈ offendersOf target apiPrefix route
      ↔ ∃ path methods dependant, route = .Api path methods dependant
        ∧ Route.Guarded apiPrefix path ∧ ¬ Route.Authenticates target dependant
        ∧ operation ∈ operations path methods := by
  cases route with
  | Other => simp [offendersOf]
  | Api path methods dependant =>
      have hapi : operation ∈ offendersOf target apiPrefix (.Api path methods dependant)
          ↔ Route.Guarded apiPrefix path ∧ ¬ Route.Authenticates target dependant
            ∧ operation ∈ operations path methods := by
        rw [offendersOf, ← any_dependsOn_iff, Route.Guarded, operations]
        by_cases hstarts : apiPrefix.toList <+: path.toList
        · by_cases hpublic :
              String.ofList (path.toList.drop apiPrefix.length) ∈ PUBLIC_OPERATIONS
          · simp [hstarts, hpublic]
          · by_cases hdepends :
                dependant.any (Dependant.dependsOnAuthentication target) = true
            · simp [hstarts, hpublic, hdepends]
            · simp [hstarts, hpublic, hdepends]
        · simp [hstarts]
      rw [hapi]
      constructor
      · exact fun h => ⟨path, methods, dependant, rfl, h⟩
      · rintro ⟨_, _, _, heq, h⟩
        cases heq
        exact h

lemma mem_unprotectedRoutes {routes : List (Route κ)} {apiPrefix operation : String} :
    operation ∈ unprotectedRoutes target routes apiPrefix
      ↔ ∃ path methods dependant, .Api path methods dependant ∈ routes
        ∧ Route.Guarded apiPrefix path ∧ ¬ Route.Authenticates target dependant
        ∧ operation ∈ operations path methods := by
  rw [unprotectedRoutes, Ranking.mem_sortedBy, List.mem_dedup, List.mem_flatMap]
  constructor
  · rintro ⟨route, hmem, hoffender⟩
    obtain ⟨path, methods, dependant, rfl, h⟩ := mem_offendersOf.mp hoffender
    exact ⟨path, methods, dependant, hmem, h⟩
  · rintro ⟨path, methods, dependant, hmem, h⟩
    exact ⟨_, hmem, mem_offendersOf.mpr ⟨path, methods, dependant, rfl, h⟩⟩

lemma operations_ne_nil (path : String) (methods : List String) : operations path methods ≠ [] := by
  rw [operations, ne_eq, List.map_eq_nil_iff]
  split_ifs with hnone
  · simp
  · exact hnone

/-- The application starts if every route under the prefix is public or authenticates. -/
lemma verifyRouteProtection_eq_ok {routes : List (Route κ)} {apiPrefix : String} :
    (verifyRouteProtection target routes apiPrefix).result = .ok ()
      ↔ ∀ path methods dependant, .Api path methods dependant ∈ routes →
        Route.Guarded apiPrefix path → Route.Authenticates target dependant := by
  have hstarts : (verifyRouteProtection target routes apiPrefix).result = .ok ()
      ↔ unprotectedRoutes target routes apiPrefix = [] := by
    rw [verifyRouteProtection]
    split_ifs with hnone
    · simp [hnone]
    · simp [hnone]
  rw [hstarts, List.eq_nil_iff_forall_not_mem]
  constructor
  · intro hnone path methods dependant hmem hguarded
    by_contra hauth
    obtain ⟨operation, hoperation⟩ :=
      List.exists_mem_of_ne_nil _ (operations_ne_nil path methods)
    exact hnone operation (mem_unprotectedRoutes.mpr
      ⟨path, methods, dependant, hmem, hguarded, hauth, hoperation⟩)
  · intro hall operation hoffender
    obtain ⟨path, methods, dependant, hmem, hguarded, hauth, -⟩ :=
      mem_unprotectedRoutes.mp hoffender
    exact hauth (hall path methods dependant hmem hguarded)

/-- **The audit, exactly.**  The application starts if and only if every route under the prefix is
    public or resolves the authentication somewhere in its dependency tree.  Where it does not, it
    names the operations of the other routes, each once and in order, and records an event for
    each. -/
theorem verifyRouteProtection_iff (target : κ) (routes : List (Route κ)) (apiPrefix : String) :
    ((verifyRouteProtection target routes apiPrefix).result = .ok ()
        ↔ ∀ path methods dependant, .Api path methods dependant ∈ routes →
          Route.Guarded apiPrefix path → Route.Authenticates target dependant)
      ∧ (unprotectedRoutes target routes apiPrefix).Pairwise (· < ·)
      ∧ (∀ operation, operation ∈ unprotectedRoutes target routes apiPrefix
        ↔ ∃ path methods dependant, .Api path methods dependant ∈ routes
          ∧ Route.Guarded apiPrefix path ∧ ¬ Route.Authenticates target dependant
          ∧ operation ∈ operations path methods)
      ∧ (verifyRouteProtection target routes apiPrefix).events.map RouteUnprotected.operation
        = unprotectedRoutes target routes apiPrefix := by
  refine ⟨verifyRouteProtection_eq_ok, ?_, fun operation => mem_unprotectedRoutes, ?_⟩
  · refine Ranking.pairwise_lt_sortedBy ?_
    rw [List.map_id'' fun _ => rfl]
    exact List.nodup_dedup _
  · rw [verifyRouteProtection]
    split_ifs with hnone
    · simp [hnone]
    · simp [List.map_map, Function.comp_def]

end

/-! ## What a started application handles -/

section

variable {κ ρ : Type} [DecidableEq κ]

/-- Behind a function that runs, the authentication has returned. -/
lemma returned_of_handled {currentPrincipal : κ} {routes : List (Route κ)} {apiPrefix : String}
    {handled : Route κ → ρ → Prop} {returned : κ → ρ → Prop}
    (hstarted : (verifyRouteProtection currentPrincipal routes apiPrefix).result = .ok ())
    (hresolves : ∀ path methods tree request, handled (.Api path methods (some tree)) request →
      ∀ call, tree.Reaches call → returned call request)
    {path : String} {methods : List String} {dependant : Option (Dependant κ)}
    (hroute : .Api path methods dependant ∈ routes) (hguarded : Route.Guarded apiPrefix path)
    {request : ρ} (hhandled : handled (.Api path methods dependant) request) :
    returned currentPrincipal request := by
  obtain ⟨tree, htree, hreaches⟩ :=
    verifyRouteProtection_eq_ok.mp hstarted path methods dependant hroute hguarded
  obtain rfl : dependant = some tree := htree
  exact hresolves path methods tree request hhandled _ hreaches

/-- **A started application handles authenticated requests only.**  Let the framework run a route's
    function only after all that its dependency tree resolves has returned.  If the audit has
    passed, then every request that reaches the function of a route under the prefix, other than a
    public one, carried a bearer token that the adapter accepted. -/
theorem handled_authenticated {currentPrincipal : κ} {routes : List (Route κ)} {apiPrefix : String}
    {authenticate : String → Except AuthenticationError Principal}
    {credentials : ρ → Option Credentials} {handled : Route κ → ρ → Prop} {returned : κ → ρ → Prop}
    (hstarted : (verifyRouteProtection currentPrincipal routes apiPrefix).result = .ok ())
    (hresolves : ∀ path methods tree request, handled (.Api path methods (some tree)) request →
      ∀ call, tree.Reaches call → returned call request)
    (hcall : ∀ request, returned currentPrincipal request →
      ∃ principal, (getCurrentPrincipal authenticate (credentials request)).result = .ok principal)
    {path : String} {methods : List String} {dependant : Option (Dependant κ)}
    (hroute : .Api path methods dependant ∈ routes) (hguarded : Route.Guarded apiPrefix path)
    {request : ρ} (hhandled : handled (.Api path methods dependant) request) :
    ∃ scheme token principal, credentials request = some ⟨scheme, token⟩ ∧ token ≠ ""
      ∧ PyString.lower scheme = "bearer" ∧ authenticate token = .ok principal := by
  obtain ⟨principal, hprincipal⟩ :=
    hcall request (returned_of_handled hstarted hresolves hroute hguarded hhandled)
  obtain ⟨scheme, token, hcredentials, hne, hbearer, haccepted⟩ :=
    getCurrentPrincipal_eq_ok.mp hprincipal
  exact ⟨scheme, token, principal, hcredentials, hne, hbearer, haccepted⟩

end

/-- The budgets behind a permission guard, and a probe. -/
def smallRoutes : List (Route String) :=
  [.Api "/api/v1/budgets" ["GET", "POST"]
      (some (.node "list_budgets" [.node "_guard" [.node "get_current_principal" []]])),
    .Api "/api/v1/health" ["GET"] (some (.node "health" [])), .Other]

def acceptOneToken (token : String) : Except AuthenticationError Principal :=
  if token = "token-1" then .ok ⟨"user-1", "tenant-1", []⟩ else .error .InvalidTokenError

/-- Only the authentication may fail. -/
def returnedOverToken (call : String) (request : Option Credentials) : Prop :=
  call = "get_current_principal" →
    ∃ principal, (getCurrentPrincipal acceptOneToken request).result = .ok principal

/-- A function runs where all that its tree resolves returns. -/
def runsBehind {κ ρ : Type} (returned : κ → ρ → Prop) (route : Route κ) (request : ρ) : Prop :=
  match route with
  | .Api _ _ (some tree) => ∀ call, tree.Reaches call → returned call request
  | _ => True

/-- The budgets are listed for a bearer of the token. -/
theorem budgets_authenticated :
    ∃ scheme token principal,
      some (⟨"Bearer", "token-1"⟩ : Credentials) = some ⟨scheme, token⟩ ∧ token ≠ ""
        ∧ PyString.lower scheme = "bearer" ∧ acceptOneToken token = .ok principal := by
  have hroute : Route.Api "/api/v1/budgets" ["GET", "POST"]
      (some (.node "list_budgets" [.node "_guard" [.node "get_current_principal" []]]))
      ∈ smallRoutes := List.mem_cons_self
  have hstarted : (verifyRouteProtection "get_current_principal" smallRoutes "/api/v1").result
      = .ok () := by decide +kernel
  have hguarded : Route.Guarded "/api/v1" "/api/v1/budgets" := by
    rw [Route.Guarded]
    decide +kernel
  have hhandled : runsBehind returnedOverToken (.Api "/api/v1/budgets" ["GET", "POST"]
      (some (.node "list_budgets" [.node "_guard" [.node "get_current_principal" []]])))
      (some ⟨"Bearer", "token-1"⟩) := fun _ _ _ => ⟨_, rfl⟩
  have hcall : ∀ request, returnedOverToken "get_current_principal" request →
      ∃ principal, (getCurrentPrincipal acceptOneToken request).result = .ok principal :=
    fun _ h => h rfl
  exact handled_authenticated hstarted (fun _ _ _ _ h => h) hcall hroute hguarded hhandled

end CostPlatform
