namespace FinancialPdfReader

def investmentAdviceGuardPhrases : List String := [
  "買進", "賣出", "持有", "建議買", "建議賣",
  "目標價", "評等", "buy", "sell", "hold",
  "strong buy", "outperform", "underperform",
  "推薦", "投資建議"]

/-- Scanned on narrative claims only. -/
def rhetoricalRiskPhrases : List String := [
  "明顯", "大幅", "強勁", "顯著", "大幅度",
  "已形成", "已確立", "已奠定", "已成為",
  "將受惠", "可望", "有望", "預計受惠", "將顯著",
  "競爭優勢", "領先地位", "核心競爭力",
  "持續強勁", "加速成長", "快速擴張"]

/-- Scanned on narrative claims only. -/
def forwardLookingIndicatorPhrases : List String := [
  "預計", "預期", "展望",
  "可望", "有望", "有機會", "可能",
  "未來", "將", "計畫", "規劃",
  "目標", "力拚", "希望達"]

end FinancialPdfReader
