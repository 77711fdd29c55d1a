import CostPlatform.Intelligence.Forecast
import CostPlatform.Intelligence.Listing
import CostPlatform.Library.Runs

/-!
# Forecasting jobs

The worker computes a forecast and stores a row for each of its points, all of them or none.  It
does not look for what an earlier job has left for the same days.

`forecasts_pile_up` is what the table holds after any jobs: every row that was there, and for each
day a row from every job that stored its forecast and covered the day.
-/

namespace CostPlatform

open Fallible

/-! ## The job -/

/-- The arguments of a job, the day it runs on and the ids that its rows draw. -/
structure ForecastingJob where
  historicalDailyCosts : List HistoryItem
  scopeType : String := "TENANT"
  scopeId : String := "default"
  tenantId : Option String := none
  horizonDays : Int := 30
  startDate : Option Nat := none
  today : Nat
  newId : Nat → String

structure ForecastTables where
  tenants : List String
  forecasts : Table Forecast.id

inductive ForecastingError where
  | ForecastError (error : String)
  | IntegrityError
  deriving DecidableEq, Repr

namespace ForecastingJob

/-- The row of a point. -/
def row (job : ForecastingJob) (result : ForecastResult) (tenantId : String)
    (entry : DailyForecastPoint × Nat) : Forecast where
  id := job.newId entry.2
  tenantId := tenantId
  scopeType := some job.scopeType
  scopeId := some job.scopeId
  forecastDate := some entry.1.forecastDate
  predictedCost := some entry.1.predictedCost
  lowerBound := some entry.1.lowerBound
  upperBound := some entry.1.upperBound
  confidence := some entry.1.confidence
  forecastModelName := some result.forecastModelName
  forecastModelVersion := some result.forecastModelVersion

/-- The records, unless one of them lacks its tenant. -/
def records (job : ForecastingJob) (result : ForecastResult) : Option (List Forecast) :=
  result.dailyPoints.zipIdx.mapM fun entry =>
    job.tenantId.map fun tenantId => job.row result tenantId entry

end ForecastingJob

/-- `create_many`: one flush, in which every tenant must be there. -/
def ForecastTables.createMany (tables : ForecastTables) (records : List Forecast) :
    Option (Table Forecast.id) :=
  records.foldlM (fun forecasts record =>
    if record.tenantId ∈ tables.tenants then forecasts.insert? record else none) tables.forecasts

namespace CostForecaster

variable (forecaster : CostForecaster)

/-- The forecast of a job. -/
def forecastOf (job : ForecastingJob) : Except String ForecastResult :=
  forecaster.generateForecast job.historicalDailyCosts job.horizonDays job.today job.startDate

def runForecastingJob (tables : ForecastTables) (job : ForecastingJob) :
    Except ForecastingError (ForecastResult × Table Forecast.id) := do
  let result ← (forecaster.forecastOf job).mapError .ForecastError
  let records ← demand (job.records result) .IntegrityError
  let forecasts ← demand (tables.createMany records) .IntegrityError
  return (result, forecasts)

/-- The tables after the job: a job that raises is rolled back. -/
def afterJob (tables : ForecastTables) (job : ForecastingJob) : ForecastTables :=
  match forecaster.runForecastingJob tables job with
  | .ok (_, forecasts) => { tables with forecasts := forecasts }
  | .error _ => tables

/-- The job computes its forecast, and its tenant is there. -/
def stores (tenants : List String) (job : ForecastingJob) : Bool :=
  (forecaster.forecastOf job).toOption.isSome && job.tenantId.any (· ∈ tenants)

end CostForecaster

namespace ForecastingJob

/-- The ids of the rows. -/
def drawn (job : ForecastingJob) : List String :=
  (List.range job.horizonDays.toNat).map job.newId

/-- The ids are new, and each one is drawn once. -/
def DrawsNew (tables : ForecastTables) (job : ForecastingJob) : Prop :=
  job.drawn.Nodup ∧ ∀ id ∈ job.drawn, id ∉ tables.forecasts.rows.map Forecast.id

instance (tables : ForecastTables) (job : ForecastingJob) : Decidable (job.DrawsNew tables) :=
  inferInstanceAs (Decidable (_ ∧ _))

/-- The first day of the forecast: tomorrow, where no start is given. -/
def firstDay (job : ForecastingJob) : Nat := job.startDate.getD (job.today + 1)

def covers (job : ForecastingJob) (day : Nat) : Bool :=
  job.firstDay ≤ day && day < job.firstDay + job.horizonDays.toNat

end ForecastingJob

/-- Whose spend is forecast. -/
structure ForecastScope where
  tenantId : String
  scopeType : String
  scopeId : String
  deriving DecidableEq

def ForecastScope.isOf (scope : ForecastScope) (day : Nat) (row : Forecast) : Bool :=
  row.tenantId = scope.tenantId && row.scopeType = some scope.scopeType
    && row.scopeId = some scope.scopeId && row.forecastDate = some day

def ForecastScope.isForecastBy (scope : ForecastScope) (job : ForecastingJob) : Bool :=
  job.tenantId = some scope.tenantId && job.scopeType = scope.scopeType
    && job.scopeId = scope.scopeId

/-! ## The days of a forecast -/

namespace CostForecaster

variable {forecaster : CostForecaster} {tables : ForecastTables} {job : ForecastingJob}
  {result : ForecastResult}

lemma forecastDates_of_dailyPoints {startDate : Nat} {horizonDays : Int}
    {point : (targetDate offset : Nat) → DailyForecastPoint}
    (hpoint : ∀ targetDate offset, (point targetDate offset).forecastDate = targetDate)
    {points : List DailyForecastPoint} (h : dailyPoints startDate horizonDays point = .ok points) :
    points.map DailyForecastPoint.forecastDate
      = (List.range horizonDays.toNat).map (startDate + ·) := by
  have hnat : dailyPoints startDate (horizonDays.toNat : Int) point = .ok points := by
    rw [← h, dailyPoints, dailyPoints, Int.toNat_natCast]
  obtain ⟨-, rfl⟩ := dailyPoints_eq_ok_iff.mp hnat
  rw [List.map_map]
  exact List.map_congr_left fun offset _ => hpoint _ offset

lemma forecastDates_eq (h : forecaster.forecastOf job = .ok result) :
    result.dailyPoints.map DailyForecastPoint.forecastDate
      = (List.range job.horizonDays.toNat).map (job.firstDay + ·) := by
  obtain ⟨history, -, h⟩ := bind_eq_ok.mp h
  obtain ⟨currentDate, hdate, h⟩ := bind_eq_ok.mp h
  have hfirst : currentDate = job.firstDay := by
    rw [ForecastingJob.firstDay]
    cases hstart : job.startDate with
    | none =>
        rw [hstart] at hdate
        exact (addDays_eq_ok_iff.mp hdate).2
    | some day =>
        rw [hstart] at hdate
        exact (Except.ok.inj hdate).symm
  subst hfirst
  split_ifs at h with hempty hshort
  · obtain ⟨points, hpoints, hresult⟩ := bind_eq_ok.mp h
    cases Except.ok.inj hresult
    exact forecastDates_of_dailyPoints (fun _ _ => rfl) hpoints
  · obtain ⟨points, hpoints, hresult⟩ := bind_eq_ok.mp h
    cases Except.ok.inj hresult
    exact forecastDates_of_dailyPoints (fun _ _ => rfl) hpoints
  · obtain ⟨points, hpoints, hresult⟩ := bind_eq_ok.mp h
    cases Except.ok.inj hresult
    exact forecastDates_of_dailyPoints (fun _ _ => rfl) hpoints

/-- Each day of the horizon is forecast once, and no other day is. -/
lemma countP_forecastDate (h : forecaster.forecastOf job = .ok result) (day : Nat) :
    result.dailyPoints.countP (fun point => point.forecastDate = day)
      = if job.covers day then 1 else 0 := by
  have hcount : result.dailyPoints.countP (fun point => point.forecastDate = day)
      = (result.dailyPoints.map DailyForecastPoint.forecastDate).count day := by
    rw [List.count, List.countP_map]
    exact List.countP_congr fun point _ => by simp
  have hnodup : ((List.range job.horizonDays.toNat).map (job.firstDay + ·)).Nodup :=
    List.nodup_range.map (add_right_injective _)
  rw [hcount, forecastDates_eq h, List.Nodup.count hnodup]
  refine if_congr ?_ rfl rfl
  simp only [List.mem_map, List.mem_range, ForecastingJob.covers, Bool.and_eq_true,
    decide_eq_true_eq]
  constructor
  · rintro ⟨offset, hoffset, rfl⟩
    omega
  · rintro ⟨hfrom, hto⟩
    exact ⟨day - job.firstDay, by omega, by omega⟩

/-! ## What a job stores -/

/-- The rows that a job leaves. -/
def rowsOf (forecaster : CostForecaster) (tenants : List String) (job : ForecastingJob) :
    List Forecast :=
  match forecaster.forecastOf job, job.tenantId with
  | .ok result, some tenantId =>
      if tenantId ∈ tenants then result.dailyPoints.zipIdx.map (job.row result tenantId) else []
  | _, _ => []

lemma createMany_eq {records : List Forecast}
    (htenants : ∀ record ∈ records, record.tenantId ∈ tables.tenants)
    (hids : (records.map Forecast.id).Nodup)
    (hfresh : ∀ record ∈ records, record.id ∉ tables.forecasts.rows.map Forecast.id) :
    ∃ forecasts, tables.createMany records = some forecasts
      ∧ forecasts.rows = tables.forecasts.rows ++ records := by
  induction records generalizing tables with
  | nil => exact ⟨tables.forecasts, rfl, (List.append_nil _).symm⟩
  | cons record records ih =>
      obtain ⟨htenant, htenants⟩ := List.forall_mem_cons.mp htenants
      obtain ⟨hnew, hfresh⟩ := List.forall_mem_cons.mp hfresh
      rw [List.map_cons, List.nodup_cons] at hids
      obtain ⟨inserted, hinsert⟩ := Table.insert?_succeeds_iff.mpr hnew
      have hrows := Table.rows_of_insert? hinsert
      obtain ⟨forecasts, hmany, hall⟩ := @ih { tables with forecasts := inserted } htenants hids.2
        fun other hother hmem => by
          simp only [hrows, List.map_append, List.map_cons, List.map_nil, List.mem_append,
            List.mem_singleton] at hmem
          rcases hmem with hmem | hmem
          · exact hfresh other hother hmem
          · exact hids.1 (List.mem_map.mpr ⟨other, hother, hmem⟩)
      refine ⟨forecasts, ?_, ?_⟩
      · simp only [ForecastTables.createMany, List.foldlM_cons, if_pos htenant, hinsert] at hmany ⊢
        exact hmany
      · rw [hall, hrows, List.append_assoc, List.singleton_append]

lemma createMany_of_foreign {records : List Forecast}
    (htenants : ∀ record ∈ records, record.tenantId ∉ tables.tenants) :
    tables.createMany records = if records = [] then some tables.forecasts else none := by
  cases records with
  | nil => rfl
  | cons record records =>
      rw [ForecastTables.createMany, List.foldlM_cons, if_neg (htenants record List.mem_cons_self)]
      rfl

lemma records_of_tenant {tenantId : String} (h : job.tenantId = some tenantId) :
    job.records result = some (result.dailyPoints.zipIdx.map (job.row result tenantId)) := by
  rw [ForecastingJob.records, h]
  exact List.mapM_pure

lemma records_of_noTenant (h : job.tenantId = none) :
    job.records result = if result.dailyPoints = [] then some [] else none := by
  rw [ForecastingJob.records, h]
  cases result.dailyPoints <;> rfl

lemma afterJob_of_forecast (h : forecaster.forecastOf job = .ok result) :
    forecaster.afterJob tables job
      = match (job.records result).bind tables.createMany with
        | some forecasts => { tables with forecasts := forecasts }
        | none => tables := by
  simp only [afterJob, runForecastingJob, h, Except.mapError, ok_bind]
  cases job.records result with
  | none => rfl
  | some records =>
      simp only [demand, ok_bind, Option.bind_some]
      cases tables.createMany records <;> rfl

lemma ids_of_forecast (h : forecaster.forecastOf job = .ok result) (tenantId : String) :
    (result.dailyPoints.zipIdx.map (job.row result tenantId)).map Forecast.id = job.drawn := by
  have hlength := congrArg List.length (forecastDates_eq h)
  rw [List.length_map, List.length_map, List.length_range] at hlength
  rw [List.map_map, show Forecast.id ∘ job.row result tenantId = job.newId ∘ Prod.snd from rfl,
    ← List.map_map, List.zipIdx_map_snd, ForecastingJob.drawn, List.range_eq_range', hlength]

/-- **A job adds its rows**, if it stores any, and touches no other. -/
lemma rows_afterJob (hnew : job.DrawsNew tables) :
    (forecaster.afterJob tables job).forecasts.rows
      = tables.forecasts.rows ++ forecaster.rowsOf tables.tenants job := by
  cases hforecast : forecaster.forecastOf job with
  | error e =>
      simp only [afterJob, runForecastingJob, rowsOf, hforecast, List.append_nil]
      rfl
  | ok result =>
      rw [afterJob_of_forecast hforecast]
      cases htenant : job.tenantId with
      | none =>
          simp only [rowsOf, hforecast, htenant, List.append_nil]
          rw [records_of_noTenant htenant]
          split_ifs with hempty <;> rfl
      | some tenantId =>
          have hids := ids_of_forecast hforecast tenantId
          have htenants : ∀ record ∈ result.dailyPoints.zipIdx.map (job.row result tenantId),
              record.tenantId = tenantId := by
            intro record hrecord
            obtain ⟨entry, -, rfl⟩ := List.mem_map.mp hrecord
            rfl
          simp only [rowsOf, hforecast, htenant]
          rw [records_of_tenant htenant, Option.bind_some]
          split_ifs with hmem
          · obtain ⟨forecasts, hmany, hrows⟩ := createMany_eq
              (fun record hrecord => (htenants record hrecord).symm ▸ hmem) (hids.symm ▸ hnew.1)
              fun record hrecord => hnew.2 record.id (hids ▸ List.mem_map_of_mem hrecord)
            rw [hmany]
            exact hrows
          · rw [createMany_of_foreign fun record hrecord => (htenants record hrecord).symm ▸ hmem,
              List.append_nil]
            split_ifs <;> rfl

lemma tenants_afterJob (forecaster : CostForecaster) (tables : ForecastTables)
    (job : ForecastingJob) : (forecaster.afterJob tables job).tenants = tables.tenants := by
  rw [afterJob]
  split <;> rfl

/-- A job that stores its forecast leaves one row for each day that it covers. -/
lemma countP_rowsOf (scope : ForecastScope) (day : Nat) (tenants : List String) :
    (forecaster.rowsOf tenants job).countP (scope.isOf day)
      = if forecaster.stores tenants job && scope.isForecastBy job && job.covers day then 1
        else 0 := by
  cases hforecast : forecaster.forecastOf job with
  | error e => simp [rowsOf, stores, hforecast, Except.toOption]
  | ok result =>
      cases htenant : job.tenantId with
      | none => simp [rowsOf, stores, hforecast, htenant]
      | some tenantId =>
          by_cases hmem : tenantId ∈ tenants
          · have hrow : scope.isOf day ∘ job.row result tenantId
                = (fun point => scope.isForecastBy job && point.forecastDate = day) ∘ Prod.fst := by
              funext entry
              rw [Bool.eq_iff_iff]
              simp only [Function.comp_apply, ForecastScope.isOf, ForecastScope.isForecastBy,
                Bool.and_eq_true, decide_eq_true_eq]
              simp only [ForecastingJob.row, htenant, Option.some.injEq]
            have hstores : forecaster.stores tenants job = true := by
              simp [stores, hforecast, htenant, hmem, Except.toOption]
            simp only [rowsOf, hforecast, htenant, if_pos hmem, List.countP_map, hrow, hstores,
              Bool.true_and]
            rw [← List.countP_map, List.zipIdx_map_fst]
            cases hscope : scope.isForecastBy job with
            | false => simp
            | true => simpa using countP_forecastDate hforecast day
          · simp [rowsOf, stores, hforecast, htenant, hmem]

/-- **Forecasts pile up.**  Whatever jobs have run, every row that was in the table is still there,
    and for each day there is a row more for every job that stored its forecast and covered the day:
    no forecast takes the place of an earlier one. -/
theorem forecasts_pile_up (forecaster : CostForecaster) (tables : ForecastTables)
    (jobs : List ForecastingJob)
    (hnew : Runs.Along forecaster.afterJob ForecastingJob.DrawsNew tables jobs) :
    tables.forecasts.rows <+: (Runs.run forecaster.afterJob tables jobs).forecasts.rows
      ∧ ∀ (scope : ForecastScope) (day : Nat),
          (Runs.run forecaster.afterJob tables jobs).forecasts.rows.countP (scope.isOf day)
            = tables.forecasts.rows.countP (scope.isOf day)
              + jobs.countP fun job =>
                  forecaster.stores tables.tenants job && scope.isForecastBy job
                    && job.covers day := by
  induction jobs generalizing tables with
  | nil => exact ⟨List.prefix_rfl, fun _ _ => rfl⟩
  | cons job jobs ih =>
      obtain ⟨hfirst, hrest⟩ := hnew
      obtain ⟨hkept, hcount⟩ := ih (forecaster.afterJob tables job) hrest
      have hrows := @rows_afterJob forecaster tables job hfirst
      rw [Runs.run_cons]
      refine ⟨(List.prefix_append _ _).trans (hrows ▸ hkept), fun scope day => ?_⟩
      rw [hcount, hrows, List.countP_append, countP_rowsOf, tenants_afterJob, List.countP_cons,
        add_assoc]
      exact congrArg _ (add_comm _ _)

/-- The daily job of a plant that is forecast for tomorrow. -/
def dailyJob (id : String) : ForecastingJob where
  historicalDailyCosts := steadyItems
  scopeType := "PLANT"
  scopeId := "p1"
  tenantId := some "t1"
  horizonDays := 1
  today := june 10
  newId _ := id

/-- A job that runs twice stores its days twice. -/
theorem rerun_stored_twice :
    (Runs.run plainForecaster.afterJob ⟨["t1"], ⟨[], List.nodup_nil⟩⟩
      [dailyJob "f1", dailyJob "f2"]).forecasts.rows.countP
        (ForecastScope.isOf ⟨"t1", "PLANT", "p1"⟩ (june 11)) = 2 := by
  rw [(forecasts_pile_up plainForecaster ⟨["t1"], ⟨[], List.nodup_nil⟩⟩
    [dailyJob "f1", dailyJob "f2"] ⟨by decide +kernel, by decide +kernel, trivial⟩).2]
  decide +kernel

end CostForecaster

end CostPlatform
