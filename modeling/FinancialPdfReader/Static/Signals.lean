import FinancialPdfReader.Static.Html

namespace FinancialPdfReader

open Py

/-- What the layers of the page take from a response. -/
structure ResultsPage where
  data : Json
  dashboard : Json
  riskRows : List Json
  highRisk : List Json
  whatChanged : List Json
  cleanClaims : List Json
  contaminatedClaims : List Json

def resultsPage (data : Json) : ResultsPage :=
  let claims := listUnder "claims" data
  let dashboard := jsOr (data.field? "dashboard") (.obj [])
  let riskRows := listUnder "risk_surface" dashboard
  { data
    dashboard
    riskRows
    highRisk := riskRows.filter (hasText "severity" "high")
    whatChanged := listUnder "what_changed" dashboard
    cleanClaims := claims.filter (fun c => !isTrue "contaminated" c)
    contaminatedClaims := claims.filter (isTrue "contaminated") }

namespace ResultsPage

variable (page : ResultsPage)

def reviewClaims : List Json := page.cleanClaims.filter (isTrue "requires_human_review")

def reviewCount : Nat := page.reviewClaims.length

def contractInvalid : Bool := page.data.field? "dashboard_contract_valid" == some (.bool false)

def periodOk : Bool := page.data.field? "temporal_consistent" != some (.bool false)

def adviceDetected : Bool := isTrue "investment_advice_detected" page.data

def evBadge : String :=
  match page.data.field? "evidence_status" with
  | some (.str "complete") => badge "b-green" "佐證完整"
  | some (.str "partial") => badge "b-amber" "佐證部分"
  | some (.str "insufficient") => badge "b-red" "佐證不足"
  | _ => ""

def header : String :=
  "<div class=\"results-card\">\n    <div class=\"results-card-header\">\n      " ++
    "<span class=\"report-title\">" ++ textOr "stock_id" "" page.data ++ " " ++
    textOr "period" "" page.data ++ "</span>\n      " ++
    "<div class=\"gov-bar\" data-testid=\"gov-bar\">" ++ page.evBadge ++ " " ++
    htmlIf (0 < page.reviewCount)
      ("<button class=\"b-review\" data-testid=\"review-count-btn\" " ++
        "onclick=\"toggleReviewPanel()\">⚑ " ++ toString page.reviewCount ++
        " 條待確認</button>") ++
    "</div>\n    </div>\n    <div class=\"results-card-body\">"

def contractAlert : String :=
  htmlIf page.contractInvalid
    ("<div class=\"alert alert-error\" style=\"margin-bottom:12px;\">" ++
      "<span class=\"alert-icon\">✕</span><span>Dashboard contract invalid: " ++
      ", ".intercalate (jsItems (listUnder "dashboard_contract_errors" page.data)) ++
      "</span></div>")

end ResultsPage

section Narrative

def evidenceItem (c : Json) : String :=
  "<div class=\"narr-ev-item\"><span class=\"narr-ev-page\">" ++
    (if pages c = "" then "無頁碼" else pages c) ++ "</span><span class=\"narr-ev-text\">" ++
    shortened (textAt "claim" c) ++ "</span></div>"

def listItem (text : String) : String := "<li>" ++ text ++ "</li>"

namespace NarrativeCard

variable (card : NarrativeCard)

def conflictHtml : String :=
  htmlIf (!card.conflictSignals.isEmpty)
    ("<div class=\"narr-conflict\"><span class=\"narr-conflict-label\">衝突訊號</span>" ++
      String.join (card.conflictSignals.map
        (fun s => "<div class=\"narr-conflict-item\">· " ++ s ++ "</div>")) ++ "</div>")

def evHtml : String :=
  htmlIf (!card.drivingClaims.isEmpty)
    ("<button class=\"narr-ev-toggle\" onclick=\"toggleNarrEv('narr-ev-panel')\">▶ 主結論依據（" ++
      toString card.drivingClaims.length ++
      " 條）</button><div class=\"narr-ev-panel\" id=\"narr-ev-panel\">" ++
      String.join (card.drivingClaims.map evidenceItem) ++ card.conflictHtml ++ "</div>")

def html : String :=
  "<div class=\"narr-card " ++ card.colorCls ++ "\">\n    <div class=\"narr-icon\">" ++ card.icon ++
    "</div>\n    <div class=\"narr-body\">\n      <div class=\"narr-label\">" ++ card.label ++
    "</div>\n      <div class=\"narr-title\">" ++ card.sublabel ++
    "</div>\n      <div class=\"narr-conf\">\n        信心程度 " ++ toString card.confidence ++
    "%\n        <div class=\"narr-conf-bar\"><div class=\"narr-conf-fill\" style=\"width:" ++
    toString card.confidence ++ "%" ++
    "\"></div></div>\n      </div>\n      <div class=\"narr-cols\">\n        <div>\n          " ++
    "<div class=\"narr-col-title\">主要原因</div>\n          <ul class=\"narr-points\">" ++
    String.join (card.reasons.map listItem) ++ "</ul>" ++
    "\n        </div>\n        <div>\n          <div class=\"narr-col-title\">需持續觀察</div>\n" ++
    "          <ul class=\"narr-points\">" ++
    String.join (card.watchPoints.map listItem) ++ "</ul>\n        </div>\n      </div>\n      " ++
    card.evHtml ++ "\n    </div>\n  </div>"

end NarrativeCard

end Narrative

section Banner

/-- Icon, value and class of one of the four signals. -/
structure Signal where
  icon : String
  value : String
  cls : String
  deriving DecidableEq

def Signal.html (s : Signal) (label : String) (signalId valueId : String) : String :=
  "<div class=\"db-signal " ++ s.cls ++ "\"" ++ signalId ++ "><div class=\"db-icon\">" ++ s.icon ++
    "</div><div><div class=\"db-label\">" ++ label ++ "</div><div class=\"db-value\"" ++ valueId ++
    ">" ++ s.value ++ "</div></div></div>"

namespace ResultsPage

variable (page : ResultsPage)

def revSignal : Signal :=
  match page.whatChanged.find? (hasText "metric_id" "revenue") with
  | none => ⟨"—","無資料","db-ok"⟩
  | some revItem =>
      if hasText "direction" "down" revItem then
        match revItem.field? "delta_pct" with
        | none => ⟨"↓","下降","db-warn"⟩
        | some .null => ⟨"↓","下降","db-warn"⟩
        | some delta => ⟨"↓",jsText delta ++ "%","db-warn"⟩
      else
        match revItem.field? "delta_pct" with
        | none => ⟨"↑","成長","db-ok"⟩
        | some .null => ⟨"↑","成長","db-ok"⟩
        | some delta => ⟨"↑","+" ++ jsText delta ++ "%","db-ok"⟩

def covSignal : Signal :=
  if 2 < page.highRisk.length then ⟨"✕","多項高風險","db-alert"⟩
  else if 0 < page.highRisk.length then ⟨"⚠","部分高風險","db-warn"⟩
  else ⟨"✓","無高風險","db-ok"⟩

def periodSignal : Signal :=
  if page.periodOk then ⟨"✓","期間一致","db-ok"⟩ else ⟨"⚠","期間不符","db-warn"⟩

def advSignal : Signal :=
  if page.adviceDetected then ⟨"⚠","含建議風險","db-warn"⟩ else ⟨"✓","無投資建議","db-ok"⟩

def decisionBanner : String :=
  "<div class=\"decision-banner\">\n    " ++ page.periodSignal.html "期間一致性" "" "" ++ "\n    " ++
    page.revSignal.html "營收趨勢" "" "" ++ "\n    " ++ page.covSignal.html "風險概況" "" "" ++
    "\n    " ++ page.advSignal.html "治理" " data-testid=\"advice-signal\""
      " data-testid=\"advice-signal-value\"" ++ "\n  </div>"

def temporalBanner : String :=
  htmlIf (!page.periodOk)
    ("<div class=\"temporal-banner\">\n      <div class=\"t-title\">⚠ 期間不一致</div>\n      " ++
      "<div class=\"t-body\">請求期間：<b>" ++ textOr "requested_period" "" page.data ++
      "</b> / 文件期間：<b>" ++ textOr "document_period" "" page.data ++ "</b><br>" ++
      textOr "temporal_note" "" page.data ++ "\n      " ++
      htmlIf (!page.contaminatedClaims.isEmpty)
        ("<br><span style=\"color:#b45309\">" ++ toString page.contaminatedClaims.length ++
          " 條受污染觀察已隔離。</span>") ++ "</div>\n    </div>")

end ResultsPage

end Banner

end FinancialPdfReader
