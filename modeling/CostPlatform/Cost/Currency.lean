import CostPlatform.Library.PyString
import Mathlib.Data.Rat.Defs

/-!
# Currency conversion

A converter holds the platform's base currency and configured rates into it.  It refuses rather
than guesses: an amount in a currency without a rate has no value in the base currency.

Amounts and rates are exact rationals; `toBase` in the source multiplies decimals.
-/

namespace CostPlatform

/-- Upper-case a currency code, or `none` when nothing is left of it. -/
def normaliseCurrency (code : Option String) : Option String :=
  match PyString.truthy code with
  | none => none
  | some code => PyString.truthy (some (PyString.upper (PyString.strip code)))

/-- No configured rate reaches the target currency. -/
structure ConversionUnavailableError where
  source : String
  target : String
  deriving DecidableEq, Repr

def ConversionUnavailableError.message (e : ConversionUnavailableError) : String :=
  "No configured conversion rate from " ++ e.source ++ " to " ++ e.target
    ++ ". Add it to CURRENCY_RATES; rates are configuration and are never inferred."

/-- Multipliers into the base currency, keyed by source code. -/
structure CurrencyConverter where
  baseCurrency : String
  rates : String → Option ℚ

namespace CurrencyConverter

def canConvert (converter : CurrencyConverter) (source : Option String) : Bool :=
  match normaliseCurrency source with
  | none => false
  | some code => code = converter.baseCurrency || (converter.rates code).isSome

def toBase (converter : CurrencyConverter) (amount : ℚ) (source : Option String) :
    Except ConversionUnavailableError ℚ :=
  match normaliseCurrency source with
  | none => .error ⟨"UNKNOWN", converter.baseCurrency⟩
  | some code =>
      if code = converter.baseCurrency then .ok amount
      else match converter.rates code with
        | none => .error ⟨code, converter.baseCurrency⟩
        | some rate => .ok (amount * rate)

/-- What one unit of the currency is worth, where it can be converted. -/
def unitValue (converter : CurrencyConverter) (source : Option String) : Option ℚ :=
  (converter.toBase 1 source).toOption

/-- **Conversion is refused exactly when `canConvert` says so**, and is multiplication by the
    value of a unit otherwise. -/
theorem toBase_eq (converter : CurrencyConverter) (amount : ℚ) (source : Option String) :
    (converter.canConvert source = true
      ∧ ∃ value, converter.unitValue source = some value
          ∧ converter.toBase amount source = .ok (amount * value))
    ∨ (converter.canConvert source = false ∧ converter.unitValue source = none
      ∧ ∃ e, converter.toBase amount source = .error e) := by
  cases hcode : normaliseCurrency source with
  | none =>
      refine Or.inr ⟨by simp only [canConvert, hcode], ?_, ⟨_, by simp only [toBase, hcode]; rfl⟩⟩
      simp [unitValue, toBase, hcode, Except.toOption]
  | some code =>
      by_cases hbase : code = converter.baseCurrency
      · refine Or.inl ⟨by simp [canConvert, hcode, hbase], 1, ?_, ?_⟩
        · simp [unitValue, toBase, hcode, hbase, Except.toOption]
        · simp [toBase, hcode, hbase]
      · cases hrate : converter.rates code with
        | none =>
            refine Or.inr ⟨by simp [canConvert, hcode, hbase, hrate], ?_,
              ⟨_, by simp only [toBase, hcode, if_neg hbase, hrate]; rfl⟩⟩
            simp [unitValue, toBase, hcode, hbase, hrate, Except.toOption]
        | some rate =>
            refine Or.inl ⟨by simp [canConvert, hcode, hrate], rate, ?_, ?_⟩
            · simp [unitValue, toBase, hcode, hbase, hrate, Except.toOption]
            · simp [toBase, hcode, hbase, hrate]

end CurrencyConverter

end CostPlatform
