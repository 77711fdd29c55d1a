import CostPlatform.Library.Ranking
import CostPlatform.Lifecycle.Endpoints
import Mathlib.Data.Nat.Order.Lemmas
import Mathlib.Logic.Function.Basic
import Mathlib.Order.WithBot

/-!
# The intelligence list endpoints

Recommendations, forecasts and anomalies are listed by three endpoints that differ in their table,
their filters and their order.  The repositories can restrict a query to one tenant; the endpoints
do not ask them to, and never look at their caller.

What an endpoint answers should depend on the caller's own rows only.  A query restricted to one
tenant does (`queries_of_one_tenant`); the endpoints do not, since one foreign row that passes the
filters moves the total.  They are free of interference exactly where they raise whatever the tables
hold (`noninterfering_iff`).
-/

namespace CostPlatform

open Calendar (Timestamp)

/-! ## Rows -/

/-- A row of `forecasts`.  The date is a day number. -/
structure Forecast where
  id : String
  tenantId : String
  scopeType : Option String
  scopeId : Option String
  forecastDate : Option Nat
  predictedCost : Option ℚ
  lowerBound : Option ℚ
  upperBound : Option ℚ
  confidence : Option ℚ
  forecastModelName : Option String
  forecastModelVersion : Option String
  deriving DecidableEq, Repr

inductive AnomalySeverity where
  | Low
  | Medium
  | High
  | Critical
  deriving DecidableEq, Repr

inductive AnomalyStatus where
  | Open
  | Acknowledged
  | Resolved
  | FalsePositive
  deriving DecidableEq, Repr

/-- A row of `anomalies`. -/
structure Anomaly where
  id : String
  tenantId : String
  timestamp : Option Timestamp
  scopeType : Option String
  scopeId : Option String
  anomalyType : Option String
  severity : Option AnomalySeverity
  expectedValue : Option ℚ
  actualValue : Option ℚ
  deviationPercent : Option ℚ
  reason : Option String
  status : Option AnomalyStatus
  deriving DecidableEq, Repr

/-- The tables the endpoints read. -/
structure IntelligenceDatabase where
  recommendations : RecommendationTable
  forecasts : Table Forecast.id
  anomalies : Table Anomaly.id

/-! ## Queries -/

/-- The page of a result that a request asks for.  An offset from `2 ^ 63` on, which the database
    refuses, is left out. -/
structure Paging where
  limit : Nat
  offset : Nat
  limitValid : 1 ≤ limit ∧ limit ≤ 200

/-- A filter that was left out selects every row, one that was given no `NULL`. -/
def selectedBy {α : Type} [DecidableEq α] (given column : Option α) : Bool :=
  given.all fun value => column = some value

/-- A page of the matching rows in order, and how many rows match. -/
def listPage {ρ : Type} (rows : List ρ) (selects : ρ → Bool) (order : List ρ → List ρ)
    (paging : Paging) : List ρ × Nat :=
  let matching := rows.filter selects
  (((order matching).drop paging.offset).take paging.limit, matching.length)

/-- `NULL` sorts below every value. -/
def nullFirst : Option Nat → WithBot Nat
  | none => ⊥
  | some value => value

/-- `ORDER BY … ASC`. -/
def earliestFirst {ρ : Type} (column : ρ → Option Nat) (rows : List ρ) : List ρ :=
  Ranking.sortedBy (fun row => nullFirst (column row)) rows

/-- `ORDER BY … DESC`. -/
def latestFirst {ρ : Type} (column : ρ → Option Nat) (rows : List ρ) : List ρ :=
  Ranking.sortedBy (fun row => OrderDual.toDual (nullFirst (column row))) rows

def OptimizationRepository.listRecommendations (table : RecommendationTable)
    (status : Option OptimizationStatus) (workloadId tenantId : Option String) (paging : Paging) :
    List OptimizationRecommendation × Nat :=
  listPage table.rows
    (fun row => selectedBy tenantId (some row.tenantId) && selectedBy status (some row.status)
      && selectedBy workloadId row.workloadId)
    (latestFirst OptimizationRecommendation.createdAt) paging

inductive ListError where
  | OverflowError
  | ValidationError
  deriving DecidableEq, Repr

/-- `date.today() + timedelta(days=horizon_days)`. -/
def maxDate (today horizonDays : Nat) : Except ListError Nat :=
  if today + horizonDays < Calendar.dayCount then .ok (today + horizonDays)
  else .error .OverflowError

/-- Forecasts up to the horizon, unless it is not positive, the earliest first. -/
def ForecastRepository.listForecasts (table : Table Forecast.id) (today horizonDays : Nat)
    (scopeType scopeId tenantId : Option String) (paging : Paging) :
    Except ListError (List Forecast × Nat) := do
  let horizon ← if 0 < horizonDays then (maxDate today horizonDays).map some else .ok none
  return listPage table.rows
    (fun row => selectedBy tenantId (some row.tenantId) && selectedBy scopeType row.scopeType
      && selectedBy scopeId row.scopeId
      && horizon.all fun last => row.forecastDate.any (· ≤ last))
    (earliestFirst Forecast.forecastDate) paging

def AnomalyRepository.listAnomalies (table : Table Anomaly.id) (severity : Option AnomalySeverity)
    (scopeType scopeId : Option String) (status : Option AnomalyStatus) (tenantId : Option String)
    (paging : Paging) : List Anomaly × Nat :=
  listPage table.rows
    (fun row => selectedBy tenantId (some row.tenantId) && selectedBy severity row.severity
      && selectedBy scopeType row.scopeType && selectedBy scopeId row.scopeId
      && selectedBy status row.status)
    (latestFirst Anomaly.timestamp) paging

/-! ## Responses -/

structure PageInfo where
  total : Nat
  limit : Nat
  offset : Nat
  deriving DecidableEq, Repr

/-- `ForecastList`, `AnomalyList` and `OptimizationRecommendationList` of the API schema. -/
structure ListResponse (α : Type) where
  items : List α
  page : PageInfo
  deriving DecidableEq, Repr

/-- `Forecast` of the API schema, in which no column may be null. -/
structure ForecastResponse where
  id : String
  scopeType : String
  scopeId : String
  forecastDate : Nat
  predictedCost : ℚ
  lowerBound : ℚ
  upperBound : ℚ
  confidence : ℚ
  forecastModelName : String
  forecastModelVersion : String
  provenance : String
  deriving DecidableEq, Repr

def forecastResponse? (row : Forecast) : Option ForecastResponse := do
  let scopeType ← row.scopeType
  let scopeId ← row.scopeId
  let forecastDate ← row.forecastDate
  let predictedCost ← row.predictedCost
  let lowerBound ← row.lowerBound
  let upperBound ← row.upperBound
  let confidence ← row.confidence
  let forecastModelName ← row.forecastModelName
  let forecastModelVersion ← row.forecastModelVersion
  return {
    id := row.id
    scopeType := scopeType
    scopeId := scopeId
    forecastDate := forecastDate
    predictedCost := predictedCost
    lowerBound := lowerBound
    upperBound := upperBound
    confidence := confidence
    forecastModelName := forecastModelName
    forecastModelVersion := forecastModelVersion
    provenance := "FORECAST" }

/-- `Anomaly` of the API schema. -/
structure AnomalyResponse where
  id : String
  timestamp : Timestamp
  scopeType : String
  scopeId : String
  anomalyType : String
  severity : AnomalySeverity
  expectedValue : ℚ
  actualValue : ℚ
  deviationPercent : ℚ
  reason : String
  status : AnomalyStatus
  deriving DecidableEq, Repr

def anomalyResponse? (row : Anomaly) : Option AnomalyResponse := do
  let timestamp ← row.timestamp
  let scopeType ← row.scopeType
  let scopeId ← row.scopeId
  let anomalyType ← row.anomalyType
  let severity ← row.severity
  let expectedValue ← row.expectedValue
  let actualValue ← row.actualValue
  let deviationPercent ← row.deviationPercent
  let reason ← row.reason
  let status ← row.status
  return {
    id := row.id
    timestamp := timestamp
    scopeType := scopeType
    scopeId := scopeId
    anomalyType := anomalyType
    severity := severity
    expectedValue := expectedValue
    actualValue := actualValue
    deviationPercent := deviationPercent
    reason := reason
    status := status }

/-- Convert the rows of a page and say how many there are in all. -/
def respond {ρ α : Type} (convert : ρ → Option α) (found : List ρ × Nat) (paging : Paging) :
    Except ListError (ListResponse α) := do
  let items ← found.1.mapM fun row => Fallible.demand (convert row) .ValidationError
  return { items := items, page := ⟨found.2, paging.limit, paging.offset⟩ }

/-! ## Endpoints -/

/-- `GET /optimization/recommendations`.  The caller is authenticated and not looked at. -/
def listRecommendations (database : IntelligenceDatabase) (_principal : Principal)
    (status : Option OptimizationStatus) (paging : Paging) :
    Except ListError (ListResponse RecommendationResponse) :=
  respond recommendationResponse?
    (OptimizationRepository.listRecommendations database.recommendations status none none paging)
    paging

/-- `GET /forecasts`. -/
def listForecasts (database : IntelligenceDatabase) (today : Nat) (_principal : Principal)
    (horizonDays : Nat) (scopeType scopeId : Option String) (paging : Paging) :
    Except ListError (ListResponse ForecastResponse) := do
  let found ← ForecastRepository.listForecasts database.forecasts today horizonDays scopeType
    scopeId none paging
  respond forecastResponse? found paging

/-- `GET /anomalies`. -/
def listAnomalies (database : IntelligenceDatabase) (_principal : Principal)
    (severity : Option AnomalySeverity) (scopeType scopeId : Option String) (paging : Paging) :
    Except ListError (ListResponse AnomalyResponse) :=
  respond anomalyResponse?
    (AnomalyRepository.listAnomalies database.anomalies severity scopeType scopeId none none
      paging)
    paging

/-- A list request, as the query parameters admit it. -/
inductive ListRequest where
  | Recommendations (status : Option OptimizationStatus)
  | Forecasts (horizonDays : Nat) (horizonValid : 1 ≤ horizonDays ∧ horizonDays ≤ 365)
      (scopeType scopeId : Option String)
  | Anomalies (severity : Option AnomalySeverity) (scopeType scopeId : Option String)

inductive ListBody where
  | Recommendations (body : ListResponse RecommendationResponse)
  | Forecasts (body : ListResponse ForecastResponse)
  | Anomalies (body : ListResponse AnomalyResponse)
  deriving DecidableEq

def ListRequest.answer (request : ListRequest) (paging : Paging) (today : Nat)
    (principal : Principal) (database : IntelligenceDatabase) : Except ListError ListBody :=
  match request with
  | .Recommendations status =>
      (listRecommendations database principal status paging).map .Recommendations
  | .Forecasts horizonDays _ scopeType scopeId =>
      (listForecasts database today principal horizonDays scopeType scopeId paging).map .Forecasts
  | .Anomalies severity scopeType scopeId =>
      (listAnomalies database principal severity scopeType scopeId paging).map .Anomalies

/-! ## What an answer depends on -/

/-- The rows of one tenant. -/
def ownRows (tenantId : String) (database : IntelligenceDatabase) :
    List OptimizationRecommendation × List Forecast × List Anomaly :=
  (database.recommendations.rows.filter fun row => row.tenantId = tenantId,
    database.forecasts.rows.filter fun row => row.tenantId = tenantId,
    database.anomalies.rows.filter fun row => row.tenantId = tenantId)

/-- Databases that agree on the caller's rows are answered alike. -/
def Noninterfering (request : ListRequest) (paging : Paging) (today : Nat)
    (principal : Principal) : Prop :=
  Function.FactorsThrough (request.answer paging today principal) (ownRows principal.tenantId)

@[simp] lemma selectedBy_none {α : Type} [DecidableEq α] (column : Option α) :
    selectedBy none column = true :=
  rfl

@[simp] lemma selectedBy_some {α : Type} [DecidableEq α] (value : α) (column : Option α) :
    selectedBy (some value) column = true ↔ column = some value := by
  simp [selectedBy]

lemma selectedBy_getD {α : Type} [DecidableEq α] (given : Option α) (value : α) :
    selectedBy given (some (given.getD value)) = true := by
  cases given with
  | none => rfl
  | some chosen => simp

/-- A query restricted to a tenant reads that tenant's rows only. -/
theorem listPage_own {ρ : Type} {rows rows' : List ρ} {tenant : ρ → String} {tenantId : String}
    (hown : (rows.filter fun row => tenant row = tenantId)
      = rows'.filter fun row => tenant row = tenantId)
    (selects : ρ → Bool) (order : List ρ → List ρ) (paging : Paging) :
    listPage rows (fun row => selectedBy (some tenantId) (some (tenant row)) && selects row) order
        paging
      = listPage rows' (fun row => selectedBy (some tenantId) (some (tenant row)) && selects row)
        order paging := by
  have hsplit : ∀ all : List ρ,
      all.filter (fun row => selectedBy (some tenantId) (some (tenant row)) && selects row)
        = (all.filter fun row => tenant row = tenantId).filter selects := by
    intro all
    rw [List.filter_filter]
    refine List.filter_congr fun row _ => ?_
    simp [selectedBy, Bool.and_comm]
  simp only [listPage, hsplit, hown]

/-- **The repositories can keep to one tenant.**  Given its id, each of the three queries depends on
    that tenant's rows only. -/
theorem queries_of_one_tenant (tenantId : String) (paging : Paging) (today horizonDays : Nat)
    (status : Option OptimizationStatus) (anomalyStatus : Option AnomalyStatus)
    (severity : Option AnomalySeverity) (workloadId scopeType scopeId : Option String) :
    Function.FactorsThrough (fun database : IntelligenceDatabase =>
        (OptimizationRepository.listRecommendations database.recommendations status workloadId
            (some tenantId) paging,
          ForecastRepository.listForecasts database.forecasts today horizonDays scopeType scopeId
            (some tenantId) paging,
          AnomalyRepository.listAnomalies database.anomalies severity scopeType scopeId
            anomalyStatus (some tenantId) paging))
      (ownRows tenantId) := by
  intro database database' hown
  obtain ⟨hrecommendations, hrest⟩ := Prod.mk.inj hown
  obtain ⟨hforecasts, hanomalies⟩ := Prod.mk.inj hrest
  refine Prod.ext ?_ (Prod.ext ?_ ?_)
  · simp only [OptimizationRepository.listRecommendations, Bool.and_assoc]
    exact listPage_own hrecommendations _ _ paging
  · simp only [ForecastRepository.listForecasts, Bool.and_assoc]
    simp only [listPage_own hforecasts]
  · simp only [AnomalyRepository.listAnomalies, Bool.and_assoc]
    exact listPage_own hanomalies _ _ paging

/-! ## Totals -/

def ListBody.page : ListBody → PageInfo
  | .Recommendations body => body.page
  | .Forecasts body => body.page
  | .Anomalies body => body.page

/-- How many rows of the whole table a request selects. -/
def ListRequest.matching (request : ListRequest) (today : Nat)
    (database : IntelligenceDatabase) : Nat :=
  match request with
  | .Recommendations status =>
      (database.recommendations.rows.filter fun row =>
        selectedBy status (some row.status)).length
  | .Forecasts horizonDays _ scopeType scopeId =>
      (database.forecasts.rows.filter fun row =>
        selectedBy scopeType row.scopeType && selectedBy scopeId row.scopeId
          && row.forecastDate.any (· ≤ today + horizonDays)).length
  | .Anomalies severity scopeType scopeId =>
      (database.anomalies.rows.filter fun row =>
        selectedBy severity row.severity && selectedBy scopeType row.scopeType
          && selectedBy scopeId row.scopeId).length

/-- The last day of the horizon lies past the last one `date` has. -/
def ListRequest.Overflows (request : ListRequest) (today : Nat) : Prop :=
  match request with
  | .Recommendations _ => False
  | .Forecasts horizonDays _ _ _ => Calendar.dayCount ≤ today + horizonDays
  | .Anomalies _ _ _ => False

lemma respond_total {ρ α : Type} {convert : ρ → Option α} {found : List ρ × Nat} {paging : Paging}
    {body : ListResponse α} (h : respond convert found paging = .ok body) :
    body.page.total = found.2 := by
  obtain ⟨items, -, h⟩ := Fallible.bind_eq_ok.mp h
  cases Except.ok.inj h
  rfl

/-- The forecasts query, where its horizon is a date. -/
lemma listForecasts_eq {table : Table Forecast.id} {today horizonDays : Nat}
    {scopeType scopeId tenantId : Option String} {paging : Paging} (hpositive : 1 ≤ horizonDays) :
    ForecastRepository.listForecasts table today horizonDays scopeType scopeId tenantId paging
      = (maxDate today horizonDays).map fun last => listPage table.rows
        (fun row => selectedBy tenantId (some row.tenantId) && selectedBy scopeType row.scopeType
          && selectedBy scopeId row.scopeId && row.forecastDate.any (· ≤ last))
        (earliestFirst Forecast.forecastDate) paging := by
  simp only [ForecastRepository.listForecasts, if_pos (show 0 < horizonDays from hpositive)]
  cases maxDate today horizonDays with
  | error e => rfl
  | ok last => rfl

/-- **The total of every answer counts the rows of all tenants.** -/
theorem answer_total {request : ListRequest} {paging : Paging} {today : Nat}
    {principal : Principal} {database : IntelligenceDatabase} {body : ListBody}
    (h : request.answer paging today principal database = .ok body) :
    body.page.total = request.matching today database := by
  cases request with
  | Recommendations status =>
      obtain ⟨listed, hlisted, rfl⟩ := Fallible.map_eq_ok.mp h
      show listed.page.total = _
      rw [respond_total hlisted]
      simp [OptimizationRepository.listRecommendations, listPage, ListRequest.matching]
  | Forecasts horizonDays horizonValid scopeType scopeId =>
      obtain ⟨listed, hlisted, rfl⟩ := Fallible.map_eq_ok.mp h
      obtain ⟨found, hfound, hlisted⟩ := Fallible.bind_eq_ok.mp hlisted
      rw [listForecasts_eq horizonValid.1] at hfound
      obtain ⟨last, hlast, rfl⟩ := Fallible.map_eq_ok.mp hfound
      simp only [maxDate] at hlast
      split_ifs at hlast
      cases Except.ok.inj hlast
      show listed.page.total = _
      rw [respond_total hlisted]
      simp [listPage, ListRequest.matching]
  | Anomalies severity scopeType scopeId =>
      obtain ⟨listed, hlisted, rfl⟩ := Fallible.map_eq_ok.mp h
      show listed.page.total = _
      rw [respond_total hlisted]
      simp [AnomalyRepository.listAnomalies, listPage, ListRequest.matching]

/-! ## Interference -/

def noRows : IntelligenceDatabase where
  recommendations := ⟨[], List.nodup_nil⟩
  forecasts := ⟨[], List.nodup_nil⟩
  anomalies := ⟨[], List.nodup_nil⟩

/-- Some other tenant. -/
def otherTenant (tenantId : String) : String :=
  if tenantId = "tenant-1" then "tenant-2" else "tenant-1"

lemma otherTenant_ne (tenantId : String) : otherTenant tenantId ≠ tenantId := by
  simp only [otherTenant]
  split_ifs with h
  · rw [h]
    decide
  · exact Ne.symm h

/-- A complete row of a tenant that the request selects, and nothing else. -/
def ListRequest.oneRow (request : ListRequest) (today : Nat) (tenantId : String) :
    IntelligenceDatabase :=
  match request with
  | .Recommendations status =>
      { noRows with
        recommendations :=
          ⟨[{ sampleRecommendation "rec-1" (status.getD .Approved) with tenantId := tenantId }],
            List.nodup_singleton _⟩ }
  | .Forecasts _ _ scopeType scopeId =>
      { noRows with
        forecasts := ⟨[
          { id := "forecast-1"
            tenantId := tenantId
            scopeType := some (scopeType.getD "TENANT")
            scopeId := some (scopeId.getD tenantId)
            forecastDate := some today
            predictedCost := some 100
            lowerBound := some 90
            upperBound := some 110
            confidence := some (9 / 10)
            forecastModelName := some "linear"
            forecastModelVersion := some "1" }], List.nodup_singleton _⟩ }
  | .Anomalies severity scopeType scopeId =>
      { noRows with
        anomalies := ⟨[
          { id := "anomaly-1"
            tenantId := tenantId
            timestamp := some 0
            scopeType := some (scopeType.getD "TENANT")
            scopeId := some (scopeId.getD tenantId)
            anomalyType := some "COST_SPIKE"
            severity := some (severity.getD .High)
            expectedValue := some 10
            actualValue := some 100
            deviationPercent := some 900
            reason := some "spike"
            status := some .Open }], List.nodup_singleton _⟩ }

lemma matching_noRows (request : ListRequest) (today : Nat) :
    request.matching today noRows = 0 := by
  cases request <;> rfl

lemma matching_oneRow (request : ListRequest) (today : Nat) (tenantId : String) :
    request.matching today (request.oneRow today tenantId) = 1 := by
  cases request with
  | Recommendations status =>
      simp [ListRequest.matching, ListRequest.oneRow, sampleRecommendation, selectedBy_getD]
  | Forecasts horizonDays horizonValid scopeType scopeId =>
      simp [ListRequest.matching, ListRequest.oneRow, selectedBy_getD]
  | Anomalies severity scopeType scopeId =>
      simp [ListRequest.matching, ListRequest.oneRow, selectedBy_getD]

/-- The row of another tenant is not the caller's. -/
lemma ownRows_oneRow (request : ListRequest) (today : Nat) {tenantId other : String}
    (hother : other ≠ tenantId) :
    ownRows tenantId (request.oneRow today other) = ownRows tenantId noRows := by
  cases request <;> simp [ownRows, ListRequest.oneRow, noRows, hother]

/-- On empty tables a request is answered with an empty page, unless its horizon overflows. -/
lemma answer_noRows {request : ListRequest} {today : Nat} (paging : Paging)
    (principal : Principal) (hhorizon : ¬ request.Overflows today) :
    ∃ body, request.answer paging today principal noRows = .ok body := by
  have hempty : ∀ {ρ : Type} (selects : ρ → Bool) (order : List ρ → List ρ), order [] = [] →
      listPage [] selects order paging = ([], 0) := by
    intro ρ selects order horder
    simp [listPage, horder]
  cases request with
  | Recommendations status =>
      refine ⟨.Recommendations ⟨[], 0, paging.limit, paging.offset⟩, ?_⟩
      simp only [ListRequest.answer, listRecommendations,
        OptimizationRepository.listRecommendations, noRows]
      rw [hempty _ _ rfl]
      rfl
  | Forecasts horizonDays horizonValid scopeType scopeId =>
      refine ⟨.Forecasts ⟨[], 0, paging.limit, paging.offset⟩, ?_⟩
      have hlast : maxDate today horizonDays = .ok (today + horizonDays) :=
        if_pos (Nat.lt_of_not_le hhorizon)
      simp only [ListRequest.answer, listForecasts, listForecasts_eq horizonValid.1, hlast, noRows,
        Except.map, Fallible.ok_bind]
      rw [hempty _ _ rfl]
      rfl
  | Anomalies severity scopeType scopeId =>
      refine ⟨.Anomalies ⟨[], 0, paging.limit, paging.offset⟩, ?_⟩
      simp only [ListRequest.answer, listAnomalies, AnomalyRepository.listAnomalies, noRows]
      rw [hempty _ _ rfl]
      rfl

lemma answer_overflows {request : ListRequest} {today : Nat} (paging : Paging)
    (principal : Principal) (hhorizon : request.Overflows today) (database : IntelligenceDatabase) :
    request.answer paging today principal database = .error .OverflowError := by
  cases request with
  | Recommendations status => cases hhorizon
  | Forecasts horizonDays horizonValid scopeType scopeId =>
      have hlast : maxDate today horizonDays = .error .OverflowError :=
        if_neg (Nat.not_lt_of_le hhorizon)
      simp only [ListRequest.answer, listForecasts, listForecasts_eq horizonValid.1, hlast]
      rfl
  | Anomalies severity scopeType scopeId => cases hhorizon

/-- **Interference, exactly.**  What a list endpoint answers depends on the caller's own rows only
    exactly when it raises on every database. -/
theorem noninterfering_iff (request : ListRequest) (paging : Paging) (today : Nat)
    (principal : Principal) :
    Noninterfering request paging today principal ↔ request.Overflows today := by
  constructor
  · intro hown
    by_contra hhorizon
    obtain ⟨body, hempty⟩ := answer_noRows paging principal hhorizon
    have hforeign := hown (ownRows_oneRow request today (otherTenant_ne principal.tenantId))
    rw [hempty] at hforeign
    have hone := (answer_total hforeign).trans (matching_oneRow request today _)
    have hnone := (answer_total hempty).trans (matching_noRows request today)
    omega
  · intro hhorizon database database' _
    rw [answer_overflows paging principal hhorizon, answer_overflows paging principal hhorizon]

/-- A viewer of tenant-1 sees that tenant-2 has a recommendation. -/
theorem foreign_row_moves_total :
    ¬ Noninterfering (.Recommendations none) ⟨50, 0, by decide⟩ 0
      ⟨"viewer-1", "tenant-1", [⟨.Viewer, .Tenant, "tenant-1"⟩]⟩ := by
  intro hown
  have hagree : ownRows "tenant-1" { noRows with
        recommendations := ⟨[{ sampleRecommendation "rec-1" .Approved with
          tenantId := "tenant-2" }], List.nodup_singleton _⟩ } = ownRows "tenant-1" noRows := by
    decide +kernel
  have hsame := hown hagree
  exact absurd hsame (by decide +kernel)

end CostPlatform
