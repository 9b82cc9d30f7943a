import FinancialPdfReader.Static.Html

namespace FinancialPdfReader

open Py

section Coverage

/-- Class and icon of a status; one that is not listed counts as ambiguous. -/
def covStatus : List (String × String × String) := [
  ("found","cv-found","✓"),("found_incomplete","cv-partial","△"),("not_found","cv-missing","✕"),
  ("ambiguous","cv-ambig","?"),("not_applicable","cv-na","—")]

def coverageItem (item : Json) : String :=
  let s := (covStatus.lookup (textAt "status" item)).getD ("cv-ambig","?")
  let pages := " ".intercalate ((listUnder "evidence_pages" item).map (fun p => "p." ++ jsText p))
  "<div class=\"cov-item " ++ s.1 ++ "\"><span class=\"cov-icon\">" ++ s.2 ++
    "</span>\n      <div class=\"cov-body\">\n        <div class=\"cov-label\">" ++
    textAt "label_zh" item ++ "</div>\n        " ++
    htmlIf (isTrue "note" item) ("<div class=\"cov-note\">" ++ textAt "note" item ++ "</div>") ++
    "\n        " ++ htmlIf (pages != "") ("<div class=\"cov-pages\">" ++ pages ++ "</div>") ++
    "\n      </div>\n    </div>"

def coverageStats (found incomplete missing total : String) : String :=
  "<div class=\"cov-stats\">\n    <div class=\"cov-stat cs-found\"><div class=\"cs-n\">" ++
    found ++ "</div><div class=\"cs-l\">已揭露</div></div>\n    " ++
    "<div class=\"cov-stat cs-partial\"><div class=\"cs-n\">" ++ incomplete ++
    "</div><div class=\"cs-l\">不完整</div></div>\n    " ++
    "<div class=\"cov-stat cs-missing\"><div class=\"cs-n\">" ++ missing ++
    "</div><div class=\"cs-l\">未找到</div></div>\n    " ++
    "<div class=\"cov-stat\"><div class=\"cs-n\" style=\"color:#64748b;\">" ++ total ++
    "</div><div class=\"cs-l\">總項目</div></div>\n  </div>\n  "

def coverageHeading (stockId period : String) : String :=
  "<div style=\"border-bottom:1px solid var(--border);padding-bottom:12px;" ++
    "margin-bottom:14px;\">\n    <span class=\"cov-title\">" ++ stockId ++ " " ++ period ++
    " — 揭露完整性稽核</span>\n    <p class=\"cov-disclaimer\">⚠ 此稽核只判斷揭露是否出現於財報中，" ++
    "不代表財報品質、法遵評等或任何投資建議。</p>\n  </div>\n  "

def renderCoverage (data : Json) : String :=
  coverageHeading (textOr "stock_id" "" data) (textOr "period" "" data) ++
    coverageStats (textAt "found_count" data) (textAt "found_incomplete_count" data)
      (textAt "not_found_count" data) (textAt "total_count" data) ++
    "<div class=\"cov-grid\">" ++ String.join ((listUnder "items" data).map coverageItem) ++
    "</div>"

end Coverage

section Patterns

/-- Class, icon and label of a status; one that is not listed counts as short of evidence. -/
def patStatus : List (String × String × String × String) := [
  ("triggered","pi-triggered","⚠","觸發"),
  ("insufficient_evidence","pi-insufficient","—","證據不足"),
  ("not_triggered","pi-not_triggered","✓","未觸發")]

def patternClaim (c : Json) : String :=
  "<div class=\"pat-claim-row\"><span class=\"pcr-id\">" ++ textAt "claim_id" c ++
    "</span><span class=\"pcr-sec\">[" ++ textOr "section_key" "" c ++ " / " ++
    textOr "materiality" "" c ++ "]</span><br>" ++ textOr "claim" "" c ++ "</div>"

def patternClaims (idx : Nat) (claims : List Json) : String :=
  htmlIf (!claims.isEmpty)
    ("<div class=\"pat-claims-toggle\" onclick=\"togglePatClaims('pat-claims-" ++ toString idx ++
      "')\">▶ 觸發來源 (" ++ toString claims.length ++ " 條 claims)</div>\n        " ++
      "<div class=\"pat-claims-body\" id=\"pat-claims-" ++ toString idx ++ "\">" ++
      String.join (claims.map patternClaim) ++ "</div>")

def patternGuard : String :=
  "<div class=\"pat-guard\">⚠ 詮釋，需人工確認 · 此觀察為 AI 推論，非確定事實</div>"

def patternItem (idx : Nat) (r : Json) : String :=
  let s := (patStatus.lookup (textAt "status" r)).getD ("pi-insufficient","—","證據不足")
  let triggered := hasText "status" "triggered" r
  let missing := listUnder "missing_evidence_keys" r
  "<div class=\"pat-item " ++ s.1 ++ "\">\n      <div class=\"pat-item-header\">" ++
    badge (if triggered then "b-amber" else "b-gray") (s.2.1 ++ " " ++ s.2.2) ++
    "<span class=\"pat-name\">" ++ textAt "name_zh" r ++ "</span></div>" ++
    (if triggered then "<div class=\"pat-obs\">" ++ textAt "generated_observation" r ++ "</div>" ++
      patternClaims idx (listUnder "source_claims" r) ++ patternGuard
    else htmlIf (hasText "status" "insufficient_evidence" r && !missing.isEmpty)
      ("<div class=\"pat-missing\">缺少必要 evidence：" ++ "；".intercalate (jsItems missing) ++
        "</div>")) ++ "</div>"

def patternHeading (stockId period : String) : String :=
  "<div style=\"border-bottom:1px solid var(--border);padding-bottom:12px;" ++
    "margin-bottom:14px;\">\n    <span class=\"pat-title\">" ++ stockId ++ " " ++ period ++
    " — 財報檢查模式</span>\n    <p class=\"pat-disclaimer\">⚠ 此觀察為 AI 推論，非確定事實。所有 pattern " ++
    "結果均為詮釋層級，需人工確認，不進入 Key Findings。</p>\n  </div>\n  "

def patternStats (triggered insufficient notTriggered : String) : String :=
  "<div class=\"pat-stats\">\n    <div class=\"pat-stat ps-triggered\"><div class=\"ps-n\">" ++
    triggered ++ "</div><div class=\"ps-l\">觸發</div></div>\n    " ++
    "<div class=\"pat-stat ps-insuf\"><div class=\"ps-n\">" ++ insufficient ++
    "</div><div class=\"ps-l\">證據不足</div></div>\n    " ++
    "<div class=\"pat-stat\"><div class=\"ps-n\" style=\"color:#64748b;\">" ++ notTriggered ++
    "</div><div class=\"ps-l\">未觸發</div></div>\n  </div>\n  "

def renderPatterns (data : Json) : String :=
  patternHeading (textOr "stock_id" "" data) (textOr "period" "" data) ++
    patternStats (textAt "triggered_count" data) (textAt "insufficient_count" data)
      (textAt "not_triggered_count" data) ++
    "<div class=\"pat-list\">" ++
    String.join ((listUnder "results" data).mapIdx patternItem) ++ "</div>"

end Patterns

section Trend

def trendArrow : List (String × String) := [("up","↑"),("down","↓"),("flat","→"),("unknown","—")]

def trendColor : List (String × String) := [
  ("up","var(--green)"),("down","var(--red)"),("flat","var(--muted)"),("unknown","var(--muted)")]

def kpiLabel : List (String × String) := [
  ("revenue","營收"),("gross_margin","毛利率"),("operating_income","營業利益"),("eps","EPS"),
  ("cash","現金"),("net_income","淨利"),("debt_ratio","負債比"),("fx","匯兌")]

/-- `x.toFixed(1)`: the nearest tenth, of two the one that is further from zero. -/
def toFixed1 (q : ℚ) : String :=
  let tenths := ⌊|q| * 10 + 1/2⌋.toNat
  (if q < 0 then "-" else "") ++ toString (tenths / 10) ++ "." ++ toString (tenths % 10)

/-- A change with its sign; what is no number the backend does not send. -/
def trendDelta (pt : Json) : String :=
  match pt.field? "delta_pct" with
  | some (.int n) => htmlIf (0 < n) "+" ++ toFixed1 n ++ "%"
  | some (.float (.finite q)) => htmlIf (0 < q) "+" ++ toFixed1 q ++ "%"
  | _ => ""

def trendCell (pt : Option Json) : String :=
  match pt with
  | none => "<td style=\"padding:6px 10px;text-align:center;color:var(--muted);\">—</td>"
  | some pt =>
      "<td style=\"padding:6px 10px;text-align:center;\" title=\"" ++
        htmlIf (isTrue "claim_text" pt) (shortened (textAt "claim_text" pt)) ++
        "\">\n          <span style=\"color:" ++ textIn trendColor "direction" "var(--muted)" pt ++
        ";font-size:1rem;font-weight:600;\">" ++ textIn trendArrow "direction" "—" pt ++
        "</span>\n          " ++ htmlIf (trendDelta pt != "")
          ("<span style=\"font-size:.78rem;color:var(--muted);display:block;\">" ++ trendDelta pt ++
            "</span>") ++ "\n        </td>"

/-- Of several points of one period the last is shown. -/
def trendRow (periods : List Json) (kpi : Json) : String :=
  "<tr style=\"border-bottom:1px solid var(--border);\">\n      " ++
    "<td style=\"padding:6px 10px;font-weight:500;\">" ++
    textIn kpiLabel "metric_id" (textAt "metric_id" kpi) kpi ++ "</td>" ++
    String.join (periods.map (fun p => trendCell ((listUnder "points" kpi).reverse.find?
      (fun pt => textAt "period" pt == jsText p)))) ++ "</tr>"

def trendWarning (flags : String) : String :=
  "<div class=\"completeness-banner\" style=\"margin-bottom:10px;\">\n      ⚠️ " ++ flags ++
    "\n    </div>"

def trendHead (periods : List Json) : String :=
  "<table style=\"width:100%;border-collapse:collapse;font-size:.84rem;\">\n    <thead>\n      " ++
    "<tr style=\"background:var(--surface-alt,#f5f5f5);\">\n        " ++
    "<th style=\"padding:6px 10px;text-align:left;border-bottom:1px solid var(--border);" ++
    "min-width:110px;\">KPI</th>\n        " ++
    String.join (periods.map (fun p => "<th style=\"padding:6px 10px;text-align:center;" ++
      "border-bottom:1px solid var(--border);\">" ++ jsText p ++ "</th>")) ++
    "\n      </tr>\n    </thead>\n    <tbody>"

def noKpiRow (columns : Nat) : String :=
  "<tr><td colspan=\"" ++ toString columns ++
    "\" style=\"padding:12px;text-align:center;color:var(--muted);\">\n      " ++
    "未找到可追蹤的 KPI（請確認各期均已完成 /summary）\n    </td></tr>"

def trendFoot (trendReportId : String) : String :=
  "</tbody></table>\n    <div style=\"margin-top:6px;font-size:.78rem;color:var(--muted);\">\n" ++
    "      trend_report_id: " ++ trendReportId ++ "\n    </div>"

def renderTrendStrip (data : Json) : String :=
  let periods := listUnder "periods" data
  let kpiTrends := listUnder "kpi_trends" data
  htmlIf (isTrue "r7_warning" data)
      (trendWarning (" ".intercalate (jsItems (listUnder "governance_flags" data)))) ++
    trendHead periods ++ String.join (kpiTrends.map (trendRow periods)) ++
    htmlIf kpiTrends.isEmpty (noKpiRow (periods.length + 1)) ++
    trendFoot (textAt "trend_report_id" data)

end Trend

end FinancialPdfReader
