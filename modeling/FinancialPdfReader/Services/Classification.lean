import FinancialPdfReader.Python.Text

namespace FinancialPdfReader

open Py

def sectionKeywords : List (String × List String) := [
  ("營收",["營業收入","營收","revenue","net revenue","銷貨收入","淨收入"]),
  ("毛利率",["毛利","毛利率","gross profit","gross margin","銷貨成本"]),
  ("營業利益",["營業利益","營業損益","operating income","operating profit","營業費用"]),
  ("淨利",["本期淨利","稅後淨利","淨損益","net income","net profit","歸屬於母公司"]),
  ("EPS",["每股盈餘","每股淨利","earnings per share","eps","基本每股"]),
  ("存貨",["存貨","庫存","inventory","在製品","製成品","原料"]),
  ("應收帳款",["應收帳款","應收票據","accounts receivable","trade receivable","應收款項"]),
  ("現金流",["現金流量","cash flow","營業活動","投資活動","融資活動","自由現金流"]),
  ("資本支出",["資本支出","capital expenditure","capex","購置不動產","廠房及設備"]),
  ("負債",["負債","借款","應付帳款","debt","liability","長期負債","短期借款"]),
  ("匯率影響",["匯率","外幣","匯兌","exchange rate","foreign currency","美元","匯兌損益"]),
  ("產能",["產能","capacity","晶圓","wafer","fab","擴產","新廠"]),
  ("稼動率",["稼動率","utilization","產能利用率","稼働率"]),
  ("客戶需求",["客戶需求","customer demand","終端需求","下游","庫存調整","拉貨"]),
  ("產業展望",["產業展望","市場展望","industry outlook","半導體","市場趨勢","景氣"]),
  ("風險因素",["風險","risk","不確定性","uncertainty","地緣政治","供應鏈風險"]),
  ("重大會計估計",["重大會計估計","關鍵估計","critical accounting","商譽減損","資產減損"]),
  ("會計政策變更",["會計政策","accounting policy","新準則","ifrs","會計原則變更"]),
  ("管理層展望",["展望","outlook","guidance","預期","下季","下半年","未來"]),
  ("董事會說明",["董事會","board","股利","dividend","股東會","重大決議"])]

/-- How many of a section's keywords the text contains, for the sections with any. -/
def sectionScores (text : String) : List (String × Nat) :=
  (sectionKeywords.map (fun (sectionName,keywords) =>
    (sectionName,keywords.countP (fun kw => isIn (lower kw) (lower text))))).filter
      (fun score => 0 < score.2)

/-- `max(scores, key=...)`: of the best sections the one that is listed first. -/
def bestScore : List (String × Nat) → Option (String × Nat)
  | [] => none
  | score :: scores => match bestScore scores with
    | none => some score
    | some best => if score.2 < best.2 then some best else some score

def classifyByRule (text : String) : Option String := (bestScore (sectionScores text)).map (·.1)

/-- `classify_chunk(text, use_llm_fallback=False)` -/
def classifyChunk (text : String) : String × String :=
  match classifyByRule text with
  | some sectionName => (sectionName,"rule")
  | none => ("unknown","fallback")

theorem bestScore_eq_none {scores : List (String × Nat)} (h : bestScore scores = none) :
    scores = [] := by
  cases scores with
  | nil => rfl
  | cons score scores =>
    rw [bestScore] at h
    cases hrest : bestScore scores with
    | none => simp [hrest] at h
    | some best =>
      simp only [hrest] at h
      split at h <;> contradiction

theorem bestScore_max {scores : List (String × Nat)} {best : String × Nat}
    (h : bestScore scores = some best) :
    best ∈ scores ∧ ∀ score ∈ scores, score.2 ≤ best.2 := by
  induction scores generalizing best with
  | nil => contradiction
  | cons score scores ih =>
    rw [bestScore] at h
    cases hrest : bestScore scores with
    | none =>
      rw [hrest] at h
      obtain rfl := Option.some.inj h
      simp [bestScore_eq_none hrest]
    | some other =>
      obtain ⟨hmem,hmax⟩ := ih hrest
      simp only [hrest] at h
      split at h
      · rename_i hlt
        obtain rfl := Option.some.inj h
        refine ⟨List.mem_cons_of_mem _ hmem,?_⟩
        intro s hs
        rcases List.mem_cons.mp hs with rfl | hs
        · exact Nat.le_of_lt hlt
        · exact hmax s hs
      · rename_i hge
        obtain rfl := Option.some.inj h
        refine ⟨List.mem_cons_self,?_⟩
        intro s hs
        rcases List.mem_cons.mp hs with rfl | hs
        · exact Nat.le_refl _
        · exact Nat.le_trans (hmax s hs) (Nat.le_of_not_lt hge)

/-- The section that is found has one of its keywords in the text, and no section has more. -/
theorem classifyByRule_best {text sectionName : String}
    (h : classifyByRule text = some sectionName) :
    ∃ count, (sectionName,count) ∈ sectionScores text ∧ 0 < count ∧
      ∀ score ∈ sectionScores text, score.2 ≤ count := by
  obtain ⟨best,hbest,rfl⟩ := Option.map_eq_some_iff.mp h
  obtain ⟨hmem,hmax⟩ := bestScore_max hbest
  have hpos : 0 < best.2 := by simpa using (List.mem_filter.mp hmem).2
  exact ⟨best.2,hmem,hpos,hmax⟩

end FinancialPdfReader
