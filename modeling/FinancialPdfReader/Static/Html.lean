import FinancialPdfReader.Python.Sorted
import FinancialPdfReader.Static.Narrative

namespace FinancialPdfReader

open Py

/-- A number as JavaScript writes one that needs no exponent. -/
def jsNumber : PyFloat → String
  | .finite q => if q.den = 1 then toString q.num else (PyFloat.finite q).repr
  | .inf negative => if negative then "-Infinity" else "Infinity"
  | .nan => "NaN"

mutual

/-- `${x}` -/
def jsText : Json → String
  | .null => "null"
  | .bool b => if b then "true" else "false"
  | .int n => toString n
  | .float x => jsNumber x
  | .str s => s
  | .arr xs => ",".intercalate (jsItems xs)
  | .obj _ => "[object Object]"

/-- What `join` puts together. -/
def jsItems : List Json → List String
  | [] => []
  | .null :: xs => "" :: jsItems xs
  | x :: xs => jsText x :: jsItems xs

end

/-- `${x.key}` -/
def textAt (key : String) (x : Json) : String := ((x.field? key).map jsText).getD "undefined"

/-- `x.key`, as a condition. -/
def isTrue (key : String) (x : Json) : Bool := jsTruthy (x.field? key)

/-- `${x.key||fallback}` -/
def textOr (key fallback : String) (x : Json) : String :=
  if isTrue key x then textAt key x else fallback

/-- `${x.key??fallback}` -/
def textUnlessNull (key fallback : String) (x : Json) : String :=
  match x.field? key with
  | none => fallback
  | some .null => fallback
  | some value => jsText value

/-- `TABLE[x.key]||fallback` -/
def textIn (table : List (String × String)) (key fallback : String) (x : Json) : String :=
  (table.lookup (textAt key x)).getD fallback

/-- `x.key === 'a'||x.key === 'b'` and so on. -/
def hasOneOf (key : String) (texts : List String) (x : Json) : Bool :=
  texts.any (fun text => hasText key text x)

def htmlIf (cond : Bool) (html : String) : String := if cond then html else ""

def badge (cls text : String) : String :=
  "<span class=\"badge " ++ cls ++ "\">" ++ text ++ "</span>"

def levelClass : List (String × String) := [
  ("observed_fact","lv-fact"),("derived_metric","lv-derived"),("interpretation","lv-interp"),
  ("hypothesis","lv-insuf"),("insufficient_evidence","lv-insuf")]

def levelBadgeClass : List (String × String) := [
  ("observed_fact","b-gray"),("derived_metric","b-blue"),("interpretation","b-amber"),
  ("hypothesis","b-gray"),("insufficient_evidence","b-gray")]

def levelBadgeLabel : List (String × String) := [
  ("observed_fact","直接事實"),("derived_metric","衍生指標"),("interpretation","詮釋"),
  ("hypothesis","假設"),("insufficient_evidence","證據不足")]

def kfClass : List (String × String) := [
  ("observed_fact","kf-fact"),("derived_metric","kf-derived"),("interpretation","kf-interp")]

def evidenceDistanceLabel : List (String × String) := [
  ("observed_fact","財報直接揭露"),("derived_metric","由財報數字計算"),
  ("interpretation","AI 假設·需確認"),("hypothesis","AI 推測·低確信"),
  ("insufficient_evidence","缺少足夠證據")]

def evidenceDistanceClass : List (String × String) := [
  ("observed_fact","ed-fact"),("derived_metric","ed-derived"),("interpretation","ed-interp"),
  ("hypothesis","ed-hypo"),("insufficient_evidence","ed-insuf")]

/-- The class of a badge and its text. -/
def sourceTypeBadge : List (String × String × String) := [
  ("financial_evidence","b-blue","財報數字"),("operational_evidence","b-green","運營事實"),
  ("strategic_narrative","b-amber","戰略敘事"),("management_expectation","b-purple","管理展望")]

/-- The sections in their order, with icon and label. -/
def sectionMeta : List (String × String × String) := [
  ("key_financials","📊","核心財務"),("accounting_adjustments","🔧","會計調整"),
  ("liquidity","💧","流動性"),("risk_register","⚠️","風險"),("pipeline","🔬","Pipeline"),
  ("evidence_gaps","❓","不足")]

def metricZh : List (String × String) := [
  ("revenue","營收"),("gross_margin","毛利率"),("operating_income","營業利益"),("eps","每股損益"),
  ("cash","現金"),("debt","負債"),("fx","匯兌損益"),("customer_concentration","客戶集中度")]

def dirZh : List (String × String) := [("up","↑ 上升"),("down","↓ 下降"),("flat","→ 持平")]

def impactZh : List (String × String) := [("high","高"),("medium","中"),("low","低")]

def riskZh : List (String × String) := [
  ("Customer concentration","客戶集中度"),("Margin pressure","毛利壓力"),
  ("Liquidity pressure","流動性壓力"),("FX exposure","匯兌風險")]

def relationZh : List (String × String) := [
  ("positive_driver","正向驅動"),("negative_driver","負向驅動"),("correlated","相關")]

def trendZh : List (String × String) := [("up","上升"),("flat","持平"),("down","下降")]

/-- `(c.evidence||[]).map(e => P.page).join(' ')` -/
def pages (c : Json) : String :=
  " ".intercalate ((listUnder "evidence" c).map (fun e => "P." ++ textAt "page" e))

def isInterpretive (c : Json) : Bool := hasOneOf "claim_level" ["interpretation","hypothesis"] c

/-- Twice the basic plane counts for two. -/
def jsLength (s : String) : Nat :=
  (s.toList.map (fun c => if 0x10000 ≤ c.toNat then 2 else 1)).sum

/-- The characters that begin within the first `n` units; half a character shows as U+FFFD. -/
def takeUnits : Nat → List Char → List Char
  | 0, _ => []
  | _, [] => []
  | n + 1, c :: cs =>
      if c.toNat < 0x10000 then c :: takeUnits n cs
      else match n with
        | 0 => [Char.ofNat 0xFFFD]
        | n + 1 => c :: takeUnits n cs

/-- `x.length > 80 ? x.slice(0,80)+'…' : x` -/
def shortened (s : String) : String :=
  if 80 < jsLength s then String.ofList (takeUnits 80 s.toList) ++ "…" else s

def metricName (item : Json) : String :=
  textIn metricZh "metric_id" (textOr "label" (textAt "metric_id" item) item) item

/-- `x > 0` of a number. -/
def jsPositive : Json → Bool
  | .int n => 0 < n
  | .float (.finite q) => 0 < q
  | .float (.inf negative) => !negative
  | _ => false

/-- `—` where there is no change, and otherwise the change with its sign. -/
def signedDelta (unit : String) (item : Json) : String :=
  match item.field? "delta_pct" with
  | none => "—"
  | some .null => "—"
  | some delta => htmlIf (jsPositive delta) "+" ++ jsText delta ++ unit

def renderKpiCard (item : Json) : String :=
  let cls := if hasText "direction" "flat" item then "delta-flat" else "delta-up"
  "<div class=\"kpi-card\">\n    <div class=\"kpi-label\">" ++ metricName item ++
    "</div>\n    <div class=\"kpi-value\">" ++ signedDelta "" item ++
    "</div>\n    <div class=\"kpi-delta " ++ cls ++ "\">" ++
    textIn dirZh "direction" "→ 持平" item ++
    "</div>\n    <div class=\"kpi-impact\">影響程度：" ++
    textIn impactZh "impact" (textOr "impact" "中" item) item ++ "</div>\n    " ++
    htmlIf (isTrue "claim_text" item)
      ("<div style=\"font-size:.7rem;color:#475569;margin-top:4px;\">" ++
        textAt "claim_text" item ++ "</div>") ++ "\n  </div>"

def renderEvidence (e : Json) : String :=
  "<div class=\"ev-item\"><span class=\"ev-page\">P." ++ textAt "page" e ++
    "</span><span class=\"ev-quote\">" ++ textOr "quoted_text" (textOr "section" "" e) e ++
    "</span></div>"

def renderClaim (c : Json) (isContaminated : Bool) : String :=
  let lvCls := if isContaminated then "lv-insuf"
    else textIn levelClass "claim_level" "lv-insuf" c
  let reviewed := !isContaminated && isTrue "requires_human_review" c
  let evHtml := String.join ((listUnder "evidence" c).map renderEvidence)
  let evId := "ev-" ++ textAt "claim_id" c
  let attrPfx := htmlIf (isTrue "attribution_prefix" c)
    ("<span class=\"attr-prefix\">" ++ textAt "attribution_prefix" c ++ "</span>")
  let claimText := htmlIf (isInterpretive c) "可能需要檢查：" ++ attrPfx ++ textAt "claim" c
  let stBadge := match sourceTypeBadge.lookup (textAt "source_type" c) with
    | some (cls,text) => badge cls text
    | none => ""
  let fwdTag := htmlIf (isTrue "forward_looking" c) "<span class=\"fwd-tag\">前瞻</span>"
  let rhetTag := htmlIf (isTrue "rhetorical_risk_flag" c)
    ("<span class=\"rhet-tag\" title=\"敘事語氣偏強：" ++
      "、".intercalate (jsItems (listUnder "rhetorical_risk_terms" c)) ++ "\">敘事語氣偏強</span>")
  "<div class=\"claim-row " ++ lvCls ++ htmlIf reviewed " review-flag" ++
    "\">\n    <div class=\"claim-meta\">\n      " ++
    badge (textIn levelBadgeClass "claim_level" "b-gray" c)
      (textIn levelBadgeLabel "claim_level" (textAt "claim_level" c) c) ++ "\n      " ++
    htmlIf (isTrue "claim_type" c) (badge "b-gray" (textAt "claim_type" c)) ++ "\n      " ++
    stBadge ++ " " ++ fwdTag ++ " " ++ rhetTag ++ "\n      " ++
    htmlIf (!isTrue "recurring" c) "<span class=\"non-rec\">一次性</span>" ++ "\n      " ++
    htmlIf isContaminated (badge "b-orange" "污染") ++ "\n      " ++
    htmlIf reviewed (badge "b-red" "需人工確認") ++ "\n      <span class=\"ed-label " ++
    textIn evidenceDistanceClass "claim_level" "ed-insuf" c ++ "\">" ++
    textIn evidenceDistanceLabel "claim_level" (textAt "claim_level" c) c ++
    "</span>\n    </div>\n    <div class=\"claim-text" ++
    htmlIf (isInterpretive c) " interp-warn" ++ "\">" ++ claimText ++ "</div>\n    " ++
    htmlIf (evHtml != "")
      ("<div class=\"ev-toggle\"><button class=\"ev-btn\" onclick=\"toggleEv('" ++ evId ++
      "')\">▶ 查看來源</button><div class=\"ev-list\" id=\"" ++ evId ++ "\">" ++ evHtml ++
      "</div></div>") ++ "\n  </div>"

end FinancialPdfReader
