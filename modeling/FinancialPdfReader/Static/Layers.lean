import FinancialPdfReader.Static.Signals

namespace FinancialPdfReader

open Py

namespace ResultsPage

variable (page : ResultsPage)

section Main

def execSummary : String :=
  "<div class=\"exec-card\"><div class=\"ec-label\">財務摘要</div><div class=\"ec-text\">" ++
    textOr "executive_summary" "" page.data ++ "</div></div>"

/-- One of the three cards at the top; the first is larger where its impact is high. -/
def findingCard (isHero : Bool) (item : Json) : String :=
  let fcCls := if hasText "direction" "flat" item then "fc-flat" else "fc-up"
  let dir := "<div class=\"fc-dir dir-" ++ textOr "direction" "flat" item ++ "\">" ++
    textIn dirZh "direction" "→ 持平" item ++ "</div>"
  let claimed := isTrue "claim_text" item
  if isHero then
    "<div class=\"finding-card " ++ fcCls ++
      " fc-hero\">\n            <div class=\"fc-hero-left\">\n              " ++
      "<div class=\"fc-metric\">" ++ metricName item ++
      "</div>\n              <div class=\"fc-delta\">" ++ signedDelta "%" item ++
      "</div>\n              " ++ dir ++ "\n              <div class=\"fc-impact\">" ++
      badge "b-red" "影響：高" ++ "</div>\n            </div>\n            " ++
      (if claimed then "<div class=\"fc-hero-right fc-claim\">" ++ textAt "claim_text" item ++
        "</div>" else "<div class=\"fc-hero-right\"></div>") ++ "\n          </div>"
  else
    let cls := if hasText "impact" "high" item then "b-red"
      else if hasText "impact" "medium" item then "b-amber" else "b-gray"
    "<div class=\"finding-card " ++ fcCls ++ "\">\n            <div class=\"fc-impact\">" ++
      badge cls ("影響：" ++ textIn impactZh "impact" "中" item) ++
      "</div>\n            <div class=\"fc-metric\">" ++ metricName item ++
      "</div>\n            <div class=\"fc-delta\">" ++ signedDelta "%" item ++
      "</div>\n            " ++ dir ++ "\n            " ++
      htmlIf claimed ("<div class=\"fc-claim\">" ++ textAt "claim_text" item ++ "</div>") ++
      "\n          </div>"

def heroCards : String :=
  let topChanges := page.whatChanged.take 3
  htmlIf (!topChanges.isEmpty)
    ("<div class=\"section-label\">關鍵指標一覽</div><div class=\"findings-grid\">" ++
      String.join (topChanges.mapIdx
        (fun idx item => findingCard (idx == 0 && hasText "impact" "high" item) item)) ++ "</div>")

/-- Class, tag and text of a point to attend to. -/
def attnItems : List (String × String × String) :=
  (listUnder "completeness_warnings" page.data).map
      (fun w => ("attn-tag-oc","OC規則",jsText w)) ++
    (if page.contaminatedClaims.isEmpty then [] else [("attn-tag-watch","污染",
      toString page.contaminatedClaims.length ++ " 條觀察期間不一致，已隔離")]) ++
    page.highRisk.map (fun r => ("attn-tag-risk","結構風險",
      textIn riskZh "label" (textAt "label" r) r ++ "：" ++ textOr "severity_reason" "" r)) ++
    (if page.adviceDetected then [("attn-tag-risk","治理","摘要含投資建議語氣，請人工確認")]
      else []) ++
    (if page.reviewCount = 0 then [] else [("attn-tag-info","待確認",
      toString page.reviewCount ++ " 條觀察需人工確認（不確定性，非風險）")])

def attentionPanel : String :=
  htmlIf (!page.attnItems.isEmpty)
    ("<div class=\"attention-panel\">\n        <div class=\"attn-header\">⚠ 注意事項</div>\n        " ++
      "<div class=\"attn-items\">" ++
      String.join (page.attnItems.map (fun a => "<div class=\"attn-item\"><span class=\"" ++ a.1 ++
        "\">" ++ a.2.1 ++ "</span><span class=\"attn-text\">" ++ a.2.2 ++ "</span></div>")) ++
      "</div></div>")

def kpiGrid : String :=
  let primaryKpis := page.whatChanged.filter (hasText "impact" "high")
  let secondaryKpis := page.whatChanged.filter (fun item => !hasText "impact" "high" item)
  let cards := fun items => String.join (items.map renderKpiCard)
  htmlIf (!page.whatChanged.isEmpty)
    ("<div class=\"fr-section\"><div class=\"fr-title\">完整指標變化</div>" ++
      (if !primaryKpis.isEmpty && !secondaryKpis.isEmpty then
        "<div class=\"kpi-group-label kg-primary\">核心指標（高影響）</div><div class=\"kpi-grid\">" ++
          cards primaryKpis ++ "</div><div class=\"kpi-group-label kg-secondary\">次要指標</div>" ++
          "<div class=\"kpi-grid\">" ++ cards secondaryKpis ++ "</div>"
      else "<div class=\"kpi-grid\">" ++ cards page.whatChanged ++ "</div>") ++ "</div>")

def causalChain : String :=
  let chain := listUnder "causal_edges" page.dashboard
  htmlIf (!chain.isEmpty)
    ("<div class=\"fr-section\"><div class=\"fr-title\">變化原因</div><div class=\"flow-box\">" ++
      "<div class=\"flow-arrow\">↓</div>".intercalate (chain.map (fun node =>
        "<div class=\"flow-step\">" ++
          textIn metricZh "source_metric" (textAt "source_metric" node) node ++ " → " ++
          textIn metricZh "target_metric" (textAt "target_metric" node) node ++ "（" ++
          textIn relationZh "relation" (textAt "relation" node) node ++ "）</div>")) ++
      "</div></div>")

def adjustmentCards : String :=
  let adjustments := listUnder "adjustments" page.dashboard
  htmlIf (!adjustments.isEmpty)
    ("<div class=\"fr-section\"><div class=\"fr-title\">非常態調整項目</div>" ++
      "<div class=\"adjust-grid\">" ++
      String.join ((adjustments.take 4).map (fun c =>
        "<div class=\"adjust-card\"><div class=\"adjust-title\">一次性項目</div>\n          " ++
          "<div style=\"font-size:.8rem;line-height:1.5;color:#7c2d12;\">" ++ textAt "claim" c ++
          "</div>\n          <div style=\"margin-top:6px;\">" ++ badge "b-red" "一次性" ++ " " ++
          htmlIf (isTrue "requires_human_review" c) (badge "b-amber" "需人工確認") ++
          "</div>\n        </div>")) ++ "</div></div>")

/-- What stands between the first two equals signs of a reason, once it begins with a known word. -/
def reasonZh (r : Json) : String :=
  let s := textOr "severity_reason" "" r
  if s = "no_explicit_ratio_claim" then "無明確集中度比率揭露"
  else if s = "customer_concentration_claim_present" then "集中度揭露存在"
  else if "gross_margin_drop_pp=".toList.isPrefixOf s.toList then
    "毛利率降幅 " ++ String.ofList
      ((s.toList.drop "gross_margin_drop_pp=".length).takeWhile (fun c => c ≠ '=')) ++ " pp"
  else if s = "cash_claim_present" then "現金揭露存在"
  else if s = "cash_claim_missing" then "現金揭露缺失"
  else if s = "fx_claim_present" then "匯兌揭露存在"
  else if s = "fx_claim_missing" then "匯兌揭露缺失"
  else s

def riskTable : String :=
  htmlIf (!page.riskRows.isEmpty)
    ("<div class=\"fr-section\"><div class=\"fr-title\">風險面向</div>\n        " ++
      "<table class=\"risk-table\">\n          <tr><th>風險項目</th><th>程度</th><th>趨勢</th>" ++
      "<th>說明</th></tr>\n          " ++
      String.join (page.riskRows.map (fun r =>
        "<tr><td>" ++ textIn riskZh "label" (textAt "label" r) r ++ "</td><td>" ++
          textIn impactZh "severity" (textAt "severity" r) r ++ "</td><td>" ++
          textIn trendZh "trend" (textAt "trend" r) r ++ "</td><td>" ++ reasonZh r ++
          "</td></tr>")) ++ "\n        </table>\n      </div>")

/-- In percent, rounded half up. -/
def evidenceCoverage : Int :=
  let cited := page.cleanClaims.filter (fun c => !(listUnder "evidence" c).isEmpty)
  if page.cleanClaims.isEmpty then 0
  else ⌊(cited.length : ℚ) / page.cleanClaims.length * 100 + 1/2⌋

def confidenceZh : String :=
  if page.reviewCount = 0 then "高" else if page.reviewCount ≤ 2 then "中" else "低"

/-- `x ?? y` -/
def orUnlessNull (x : Option Json) (y : Json) : Json :=
  match x with
  | none => y
  | some .null => y
  | some value => value

def transparencyBox : String :=
  let tr := jsOr (page.dashboard.field? "transparency") (.obj [])
  let reviews := orUnlessNull (tr.field? "human_review_count") (.int page.reviewCount)
  let flag := orUnlessNull (tr.field? "narrative_flag")
    ((page.data.field? "narrative_flag").getD .null)
  "<div class=\"fr-section\"><div class=\"fr-title\">AI 透明度</div>" ++
    "<div class=\"transparency-box\">\n      " ++
    badge (if page.reviewCount = 0 then "b-green" else "b-amber")
      ("可信度：" ++ page.confidenceZh) ++ "\n      " ++
    badge "b-blue" ("佐證覆蓋率：" ++
      textUnlessNull "evidence_coverage_pct" (toString page.evidenceCoverage) tr ++ "%") ++
    "\n      " ++ badge (if jsPositive reviews then "b-red" else "b-green")
      ("需人工審查：" ++ jsText reviews ++ " 條") ++ "\n      " ++
    htmlIf (jsTruthy (some flag))
      ("<div style=\"margin-top:8px;font-size:.74rem;color:#92400e;width:100%;\">敘事密度 " ++
        textUnlessNull "narrative_density_score" (textAt "narrative_density_score" page.data) tr ++
        " / 加權 " ++ textUnlessNull "narrative_density_weighted_score"
          (textAt "narrative_density_weighted_score" page.data) tr ++ "</div>") ++
    "\n    </div></div>"

/-- The layers that the page shows of a valid dashboard only. -/
def mainLayers : String :=
  page.execSummary ++ page.heroCards ++ page.attentionPanel ++ page.kpiGrid ++ page.causalChain ++
    page.adjustmentCards ++ page.riskTable ++ page.transparencyBox

end Main

section Findings

def keyFindings : List Json :=
  page.cleanClaims.filter (fun c => hasText "materiality" "tier_a" c &&
    hasOneOf "claim_level" ["observed_fact","derived_metric"] c)

def keyFindingsSection : String :=
  htmlIf (!page.keyFindings.isEmpty)
    ("<div class=\"kf-section\"><div class=\"kf-label\">核心直接事實</div><div class=\"kf-grid\">" ++
      String.join ((page.keyFindings.take 4).map (fun c =>
        "<div class=\"kf-card " ++ textIn kfClass "claim_level" "kf-derived" c ++
          "\">\n        " ++
          htmlIf (!isTrue "recurring" c) "<span class=\"kf-nonrecurring\">一次性</span>" ++
          "\n        <div class=\"kf-text\">" ++ textAt "claim" c ++
          "</div>\n        <div class=\"kf-meta\">\n          " ++
          badge (textIn levelBadgeClass "claim_level" "b-gray" c)
            (textIn levelBadgeLabel "claim_level" (textAt "claim_level" c) c) ++
          "\n          " ++ htmlIf (pages c != "")
            ("<span class=\"kf-page\">" ++ pages c ++ "</span>") ++ "\n          " ++
          htmlIf (isTrue "requires_human_review" c) (badge "b-red" "需審查") ++
          "\n        </div>\n      </div>")) ++ "</div></div>")

end Findings

section Review

inductive ReviewSeverity where
  | l1 | l2 | l3 | l4

def reviewSeverityLevel (c : Json) : ReviewSeverity :=
  let unsupported := (listUnder "evidence" c).isEmpty
  if isTrue "forward_looking" c && unsupported then .l4
  else if unsupported then .l3
  else if isInterpretive c then .l2
  else if isTrue "rhetorical_risk_flag" c then .l1
  else .l2

/-- `SEV_ORDER[level]||4`: the order of the highest level is 0, which gives way to 4. -/
def ReviewSeverity.order : ReviewSeverity → Nat
  | .l4 => 4
  | .l3 => 1
  | .l2 => 2
  | .l1 => 3

def ReviewSeverity.cls : ReviewSeverity → String
  | .l4 => "rev-sev rev-sev-l4"
  | .l3 => "rev-sev rev-sev-l3"
  | .l2 => "rev-sev rev-sev-l2"
  | .l1 => "rev-sev rev-sev-l1"

def ReviewSeverity.label : ReviewSeverity → String
  | .l4 => "L4 · 缺乏佐證"
  | .l3 => "L3 · 佐證缺失"
  | .l2 => "L2 · AI詮釋"
  | .l1 => "L1 · 語氣偏強"

def reviewReason (c : Json) : String :=
  if isTrue "forward_looking" c then "前瞻性說明"
  else if isInterpretive c then "AI詮釋類"
  else if (listUnder "evidence" c).isEmpty then "缺乏頁碼佐證"
  else if isTrue "rhetorical_risk_flag" c then "敘事語氣偏強"
  else "需人工驗證"

def reviewPanel : String :=
  let sortedReview := sortBy (fun c => (reviewSeverityLevel c).order) page.reviewClaims
  htmlIf (!page.reviewClaims.isEmpty)
    ("<div class=\"review-toggle-btn\" onclick=\"toggleReviewPanel()\" id=\"review-toggle-btn\">" ++
      "▶ 展開 " ++ toString page.reviewCount ++ " 條待確認項目</div>\n    " ++
      "<div class=\"review-panel\" id=\"review-panel\">\n      " ++
      "<div class=\"review-panel-header\">待確認觀察（嚴重度 L4→L1，非風險判斷）</div>\n      " ++
      "<div class=\"review-panel-items\">" ++
      String.join (sortedReview.map (fun c =>
        "<div class=\"review-panel-item\">\n        <span class=\"" ++
          (reviewSeverityLevel c).cls ++ "\">" ++ (reviewSeverityLevel c).label ++
          "</span>\n        <span class=\"review-panel-item-tag\">" ++ reviewReason c ++
          "</span>\n        <span class=\"review-panel-item-text\">" ++ textAt "claim" c ++
          "</span>\n        " ++ htmlIf (pages c != "")
            ("<span class=\"review-panel-item-page\">" ++ pages c ++ "</span>") ++
          "\n      </div>")) ++ "</div></div>")

end Review

section Explorer

/-- `TIER_ORDER[materiality]||1`: the order of the highest tier is 0, which gives way to 1. -/
def tierOrder (c : Json) : Nat := if hasText "materiality" "tier_c" c then 2 else 1

/-- The clean claims of a section, those without one among the key figures. -/
def sectionClaims (key : String) : List Json :=
  sortBy tierOrder (page.cleanClaims.filter
    (fun c => textOr "section_key" "key_financials" c == key))

def sectionContam (key : String) : List Json :=
  page.contaminatedClaims.filter (hasText "section_key" key)

def tab (i : Nat) (s : String × String × String) : String :=
  let cnt := (page.sectionClaims s.1).length + (page.sectionContam s.1).length
  htmlIf (0 < cnt)
    ("<div class=\"tab" ++ htmlIf (i == 0) " active" ++ "\" onclick=\"switchTab('" ++ s.1 ++
      "')\" id=\"tab-" ++ s.1 ++ "\">" ++ s.2.1 ++ " " ++ s.2.2 ++ "<span class=\"tab-count\">" ++
      toString cnt ++ "</span></div>")

def claimsPane (i : Nat) (key : String) : String :=
  let claims := page.sectionClaims key
  let contaminated := page.sectionContam key
  let factClaims := claims.filter
    (hasOneOf "claim_level" ["observed_fact","derived_metric","insufficient_evidence"])
  let interpClaims := claims.filter isInterpretive
  htmlIf (!claims.isEmpty || !contaminated.isEmpty)
    ("<div class=\"claims-pane" ++ htmlIf (i == 0) " active" ++ "\" id=\"pane-" ++ key ++ "\">" ++
      String.join (factClaims.map (renderClaim · false)) ++
      htmlIf (factClaims.isEmpty && !interpClaims.isEmpty)
        ("<div style=\"font-size:.8rem;color:#94a3b8;padding:8px 4px;font-style:italic;\">" ++
          "本段落無直接事實，以下為 AI 詮釋。</div>") ++
      htmlIf (!interpClaims.isEmpty)
        ("<button class=\"interp-toggle\" onclick=\"toggleInterp('interp-" ++ key ++
          "')\">🧠 AI 假設與詮釋（" ++ toString interpClaims.length ++
          " 條）— 展開確認</button>\n      <div class=\"interp-section\" id=\"interp-" ++ key ++
          "\">\n        <div class=\"interp-disclaimer\">" ++
          "以下為 AI 詮釋類觀察，非直接事實。使用前請確認 evidence。</div>" ++
          String.join (interpClaims.map (renderClaim · false)) ++ "</div>") ++
      htmlIf (!contaminated.isEmpty)
        ("<button class=\"contaminated-toggle\" onclick=\"toggleContam('contam-" ++ key ++
          "')\">▶ 顯示 " ++ toString contaminated.length ++
          " 條已污染觀察（時間軸不一致）</button>\n      " ++
          "<div class=\"contaminated-section\" id=\"contam-" ++ key ++ "\">" ++
          String.join (contaminated.map (renderClaim · true)) ++ "</div>") ++ "</div>")

def explorer : String :=
  "<div class=\"explorer-sep\"><span class=\"explorer-sep-label\">逐條佐證</span></div>" ++
    "<div class=\"tabs\" id=\"tabs-row\">" ++ String.join (sectionMeta.mapIdx page.tab) ++
    "</div>" ++
    String.join (sectionMeta.mapIdx (fun i s => page.claimsPane i s.1)) ++ "</div></div>"

end Explorer

end ResultsPage

/-- The page of a response; the layers in the middle need a dashboard that meets its contract. -/
def renderResults (data : Json) : String :=
  let page := resultsPage data
  page.header ++ page.contractAlert ++
    (computeNarrative data page.highRisk page.riskRows page.cleanClaims page.whatChanged).html ++
    page.decisionBanner ++ page.temporalBanner ++ htmlIf (!page.contractInvalid) page.mainLayers ++
    page.keyFindingsSection ++ page.reviewPanel ++ page.explorer

end FinancialPdfReader
