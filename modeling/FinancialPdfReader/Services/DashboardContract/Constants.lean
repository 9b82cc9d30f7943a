import FinancialPdfReader.Python.Field

namespace FinancialPdfReader

open Py

def dashboardContractVersion : String := "dashboard_contract_v1"

inductive Metric where
  | revenue | grossMargin | operatingIncome | eps | cash | debt | fx | customerConcentration
  deriving DecidableEq, Repr

inductive Trend where
  | up | down | flat
  deriving DecidableEq, Repr

inductive Relation where
  | derivedFrom | comparedWith | inverseDriver | positiveDriver | contextualFactor
  deriving DecidableEq, Repr

inductive Severity where
  | low | medium | high | critical | unknown
  deriving DecidableEq, Repr

instance : Choices Metric where
  all := [.revenue,.grossMargin,.operatingIncome,.eps,.cash,.debt,.fx,.customerConcentration]
  text
    | .revenue => "revenue"
    | .grossMargin => "gross_margin"
    | .operatingIncome => "operating_income"
    | .eps => "eps"
    | .cash => "cash"
    | .debt => "debt"
    | .fx => "fx"
    | .customerConcentration => "customer_concentration"
  mem_all a := by cases a <;> decide
  text_injective a b := by cases a <;> cases b <;> decide

instance : Choices Trend where
  all := [.up,.down,.flat]
  text
    | .up => "up"
    | .down => "down"
    | .flat => "flat"
  mem_all a := by cases a <;> decide
  text_injective a b := by cases a <;> cases b <;> decide

instance : Choices Relation where
  all := [.derivedFrom,.comparedWith,.inverseDriver,.positiveDriver,.contextualFactor]
  text
    | .derivedFrom => "derived_from"
    | .comparedWith => "compared_with"
    | .inverseDriver => "inverse_driver"
    | .positiveDriver => "positive_driver"
    | .contextualFactor => "contextual_factor"
  mem_all a := by cases a <;> decide
  text_injective a b := by cases a <;> cases b <;> decide

instance : Choices Severity where
  all := [.low,.medium,.high,.critical,.unknown]
  text
    | .low => "low"
    | .medium => "medium"
    | .high => "high"
    | .critical => "critical"
    | .unknown => "unknown"
  mem_all a := by cases a <;> decide
  text_injective a b := by cases a <;> cases b <;> decide

/-- `METRIC_TYPE`, which has an entry for every metric. -/
def metricType : Metric → String
  | .revenue => "growth"
  | .grossMargin => "profitability"
  | .operatingIncome => "profitability"
  | .eps => "profitability"
  | .cash => "liquidity"
  | .debt => "liquidity"
  | .fx => "risk_exposure"
  | .customerConcentration => "risk_exposure"

def relationEnum : List String := Choices.texts Relation

def severityEnum : List String := Choices.texts Severity

def trendEnum : List String := Choices.texts Trend

end FinancialPdfReader
