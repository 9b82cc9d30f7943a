import FinancialPdfReader.Models.Reports

namespace FinancialPdfReader

/-- What a claim must be to match; an empty list and `none` ask for nothing. -/
structure ClaimPropertyFilter where
  sectionKeys : List SectionKey := []
  materiality : List Materiality := []
  recurring : Option Bool := none
  claimTypes : List ClaimType := []
  keywords : List String := []
  inspectDescription : String := ""

/-- Every filter must match a claim. -/
structure PatternDefinition where
  patternId : String
  nameZh : String
  observationTemplate : String
  requiredFilters : List ClaimPropertyFilter

def operatingVsNetIncome : PatternDefinition where
  patternId := "operating_vs_net_income"
  nameZh := "營業損益與稅後損益方向差異"
  observationTemplate :=
    "本期財報含 tier_a 非常態業外項目，稅後損益與本業損益可能方向不一致。" ++
    "建議逐項確認業外收益（處分利益、匯兌、轉投資收益等）性質，" ++
    "評估本期獲利是否反映常態化本業能力。"
  requiredFilters := [
    { sectionKeys := [.accountingAdjustments,.keyFinancials]
      materiality := [.tierA]
      recurring := some false
      inspectDescription := "tier_a + recurring=False + adjustments/financials" },
    { sectionKeys := [.accountingAdjustments,.keyFinancials]
      keywords := [
        "業外", "其他收益", "其他收入", "處分利益", "投資利益",
        "non-operating", "other income", "disposal gain"]
      inspectDescription := "業外收益相關 claim" }]

def nonRecurringEps : PatternDefinition where
  patternId := "non_recurring_eps"
  nameZh := "非常態項目影響 EPS"
  observationTemplate :=
    "本期財報含 tier_a 非常態性項目且有量化金額揭露，報告 EPS 可能包含一次性收益或損失。" ++
    "建議計算正規化 EPS（剔除非常態項目後），以評估常態獲利能力。"
  requiredFilters := [
    { sectionKeys := [.keyFinancials,.accountingAdjustments]
      materiality := [.tierA]
      recurring := some false
      keywords := ["%", "％", "億", "萬", "百萬", "千萬", "元", "million", "billion"]
      inspectDescription := "tier_a + recurring=False + 含金額揭露" }]

/-- `_FX_KEYWORDS` -/
def fxKeywords : List String := [
  "匯兌", "外幣", "匯率", "兌換損益", "外匯",
  "FX", "foreign currency", "exchange rate", "currency",
  "匯兌損失", "匯兌利益", "匯兌影響"]

/-- `_AMOUNT_KEYWORDS` of the same pattern. -/
def amountKeywords : List String := [
  "%", "％",
  "億元", "萬元", "千萬元", "百萬元",
  "億", "萬", "百萬", "千萬",
  "million", "billion"]

def fxSections : List SectionKey := [.riskRegister,.keyFinancials,.accountingAdjustments]

def fxDrivenProfit : PatternDefinition where
  patternId := "fx_driven_profit"
  nameZh := "匯兌損益影響損益"
  observationTemplate :=
    "本期財報含量化匯兌損益揭露。匯兌損益屬非現金影響，且受匯率波動影響，" ++
    "需確認其對稅前損益的相對規模，並與業務現金流分開評估。" ++
    "注意：匯兌損益不應自動歸類為一次性項目，需視公司外幣曝險結構判斷。"
  requiredFilters := [
    { sectionKeys := fxSections
      keywords := fxKeywords
      inspectDescription := "FX/匯兌相關 claim" },
    { sectionKeys := fxSections
      keywords := amountKeywords
      inspectDescription := "含量化金額之 claim（%, 億, 萬, 元 等）" }]

def expenseRatioOffset : PatternDefinition where
  patternId := "expense_ratio_offset"
  nameZh := "獲利趨勢與營收趨勢不一致"
  observationTemplate :=
    "本期財報同時含營收/毛利率相關揭露與 tier_a 非常態項目，" ++
    "獲利趨勢與營收趨勢可能因業外或非常態因素出現分歧。" ++
    "建議分別確認：毛利率變化、費用率結構、及業外項目對淨利的貢獻比重。"
  requiredFilters := [
    { sectionKeys := [.keyFinancials,.accountingAdjustments]
      keywords := [
        "營收", "營業收入", "revenue", "sales",
        "毛利", "毛利率", "gross margin", "gross profit",
        "費用率", "營業費用", "operating expense"]
      inspectDescription := "營收/毛利/費用率相關 claim" },
    { sectionKeys := [.keyFinancials,.accountingAdjustments]
      materiality := [.tierA]
      recurring := some false
      inspectDescription := "tier_a + recurring=False" }]

def debtMaturityRisk : PatternDefinition where
  patternId := "debt_maturity_risk"
  nameZh := "短期債務/可轉債到期壓力"
  observationTemplate :=
    "本期財報含流動性或證據缺口相關揭露，涉及債務到期、可轉債或短期負債，" ++
    "建議確認：近期到期債務規模、可轉債賣回條款行使可能性、" ++
    "及現金與可用信用額度是否足以覆蓋到期債務。"
  requiredFilters := [
    { sectionKeys := [.liquidity,.evidenceGaps,.keyFinancials]
      keywords := [
        "可轉換公司債", "可轉債", "convertible bond", "convertible note",
        "到期", "maturity", "due date",
        "賣回", "put option", "put back",
        "流動負債", "current liabilities", "current portion",
        "短期借款", "short-term debt", "short-term borrowing",
        "償還", "repayment", "refinancing"]
      inspectDescription := "債務到期/可轉債/流動負債相關 claim" }]

def customerConcentration : PatternDefinition where
  patternId := "customer_concentration"
  nameZh := "客戶集中度風險"
  observationTemplate :=
    "本期財報含客戶集中度相關揭露，建議確認：前幾大客戶佔營收比重、" ++
    "應收帳款集中情形、主要客戶訂單能見度，" ++
    "及單一客戶減少採購對整體營收之潛在影響。"
  requiredFilters := [
    { sectionKeys := [.riskRegister,.keyFinancials,.accountingAdjustments]
      keywords := [
        "客戶集中", "客戶集中度", "customer concentration",
        "主要客戶", "major customer", "key customer", "top customer",
        "應收帳款集中", "concentration of receivables",
        "單一客戶", "single customer",
        "依賴", "dependency", "reliance",
        "前五大", "前十大", "top 5", "top 10"]
      inspectDescription := "客戶集中度/主要客戶/應收帳款集中相關 claim" }]

/-- `PATTERN_REGISTRY` -/
def patternRegistry : List PatternDefinition :=
  [operatingVsNetIncome,nonRecurringEps,fxDrivenProfit,expenseRatioOffset,debtMaturityRisk,
    customerConcentration]

end FinancialPdfReader
