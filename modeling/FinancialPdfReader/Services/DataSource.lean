import FinancialPdfReader.Models.External

namespace FinancialPdfReader

open Py

/-- What the service answers to a request, or the text of the exception that is raised. -/
abbrev FinMind := (dataset dataId startDate endDate : String) → Except String Json

/-- The identifier and the time that the next record gets. -/
structure Stamp where
  recordId : String
  fetchedAt : Nat

def twoDigits (n : Nat) : String := if n < 10 then "0" ++ toString n else toString n

def quarterMonths : List (String × Nat × Nat) :=
  [("Q1",1,3),("Q2",4,6),("Q3",7,9),("Q4",10,12)]

/-- `_period_to_date_range` -/
def periodToDateRange (period : String) : Except PyError (String × String) :=
  let yearText := take 4 period
  match Json.intOfText yearText with
  | none => .error (.valueError
      ("invalid literal for int() with base 10: " ++ Py.reprStr yearText))
  | some year => match quarterMonths.lookup (drop 4 period) with
    | none => .error (.valueError
        ("Invalid period format: " ++ period ++ ". Expected YYYYQ1~Q4"))
    | some (startMonth,endMonth) =>
        let endDay := if [1,3,5,7,8,10,12].contains endMonth then 31 else 30
        .ok (toString year ++ "-" ++ twoDigits startMonth ++ "-01",
          toString year ++ "-" ++ twoDigits endMonth ++ "-" ++ toString endDay)

/-- The rows of an answer: `data.get("data", [])`. -/
def replyRows (reply : Except String Json) : Except PyError (List Json) := do
  let data ← match reply with
    | .error message => .error (.libraryError message)
    | .ok data => .ok data
  let records ← data.get "data" (.arr [])
  records.iter

/-- A dictionary field; `None` leaves the default. -/
def dictField (field : String) : Json → Except PyError (List (String × Json))
  | .obj fields => .ok fields
  | .null => .ok []
  | _ => .error (.validationError field)

/-- What the caller is shown of a row. -/
def shownRow (columns : List String) (row : Json) : Except PyError Json := do
  let entries ← columns.mapM (fun key => do
    let value ← row.get key .null
    pure (key,value))
  pure (.obj entries)

section Rows

variable (record : Stamp → Json → Except PyError ExternalDataRecord) (columns : List String)
  (stamps : Nat → Stamp)

/-- A row is saved before the caller's part of it is read, and stays saved if that fails. -/
def saveRow (row : Json) (i : Nat) (store : ExternalData) :
    ExternalData × Except PyError Json :=
  let saved := do
    let rec ← record (stamps i) row
    Database.saveNew store (·.recordId) "record_id" rec
  match saved with
  | .error e => (store,.error e)
  | .ok saved => (saved,shownRow columns row)

/-- The loop over the rows; what was saved before a failure stays saved. -/
def saveRows : List (Json × Nat) → ExternalData → ExternalData × Except PyError (List Json)
  | [], store => (store,.ok [])
  | (row,i) :: rows, store => match saveRow record columns stamps row i store with
    | (saved,.error e) => (saved,.error e)
    | (saved,.ok entry) =>
        let rest := saveRows rows saved
        (rest.1,(entry :: ·) <$> rest.2)

theorem saveRow_store (row : Json) (i : Nat) (store : ExternalData) :
    ∃ new, (saveRow record columns stamps row i store).1 = store ++ new ∧
      ∀ r ∈ new, record (stamps i) row = .ok r := by
  cases hsaved : record (stamps i) row >>= fun r =>
      Database.saveNew store (·.recordId) "record_id" r with
  | error e =>
    refine ⟨[],?_,by simp⟩
    simp [saveRow, hsaved]
  | ok saved =>
    obtain ⟨r,hr,hsave⟩ := bind_eq_ok.mp hsaved
    obtain ⟨-,rfl⟩ := Database.saveNew_eq_ok.mp hsave
    refine ⟨[r],?_,?_⟩
    · simp [saveRow, hsaved]
    · intro r' hr'
      rw [List.mem_singleton.mp hr']
      exact hr

/-- The loop adds records to the store, each made of one of the rows, and takes none away. -/
theorem saveRows_store (rows : List (Json × Nat)) (store : ExternalData) :
    ∃ new, (saveRows record columns stamps rows store).1 = store ++ new ∧
      ∀ r ∈ new, ∃ row ∈ rows, record (stamps row.2) row.1 = .ok r := by
  induction rows generalizing store with
  | nil => exact ⟨[],by simp [saveRows],by simp⟩
  | cons head rows ih =>
    obtain ⟨row,i⟩ := head
    obtain ⟨first,hfirst,hmade⟩ := saveRow_store record columns stamps row i store
    cases hrow : saveRow record columns stamps row i store with
    | mk saved result =>
      rw [hrow] at hfirst
      cases result with
      | error e =>
        refine ⟨first,?_,?_⟩
        · simp only [saveRows, hrow]
          exact hfirst
        · intro r hr
          exact ⟨(row,i),by simp,hmade r hr⟩
      | ok entry =>
        obtain ⟨others,hothers,hmade'⟩ := ih saved
        refine ⟨first ++ others,?_,?_⟩
        · simp only [saveRows, hrow]
          rw [hothers, ← List.append_assoc, ← hfirst]
        · intro r hr
          rcases List.mem_append.mp hr with hr | hr
          · exact ⟨(row,i),by simp,hmade r hr⟩
          · obtain ⟨later,hlater,hr⟩ := hmade' r hr
            exact ⟨later,by simp [hlater],hr⟩

end Rows

section Fetch

variable (api : FinMind) (stamps : Nat → Stamp) (stockId period : String) (store : ExternalData)

def fetchRows (dataset : String) : Except PyError (List Json) := do
  let (start,stop) ← periodToDateRange period
  replyRows (api dataset stockId start stop)

def revenueRecord (stamp : Stamp) (row : Json) : Except PyError ExternalDataRecord := do
  let date ← row.get "date" (.str "")
  let monthStr := without '-' (take 7 date.toStr)
  let payload ← dictField "payload" row
  pure
    { recordId := stamp.recordId
      stockId
      period := monthStr
      dataType := .monthlyRevenue
      dataSource := "FinMind/TaiwanStockMonthRevenue"
      sourceUrl := "https://finmindtrade.com"
      payload
      fetchedAt := stamp.fetchedAt
      isAuxiliary := true }

def fetchMonthlyRevenue : ExternalData × Except PyError (List Json) :=
  match fetchRows api stockId period "TaiwanStockMonthRevenue" with
  | .error e => (store,.error e)
  | .ok rows => saveRows (revenueRecord stockId)
      ["date","revenue","revenue_month","revenue_year"] stamps rows.zipIdx store

def statementRecord (stamp : Stamp) (row : Json) : Except PyError ExternalDataRecord := do
  let payload ← dictField "payload" row
  pure
    { recordId := stamp.recordId
      stockId
      period
      dataType := .financialStatement
      dataSource := "FinMind/TaiwanStockFinancialStatements"
      sourceUrl := "https://finmindtrade.com"
      payload
      fetchedAt := stamp.fetchedAt
      isAuxiliary := true }

def fetchFinancialStatement : ExternalData × Except PyError (List Json) :=
  match fetchRows api stockId period "TaiwanStockFinancialStatements" with
  | .error e => (store,.error e)
  | .ok rows => saveRows (statementRecord stockId period) ["date","type","value","origin_name"]
      stamps rows.zipIdx store

theorem fetchMonthlyRevenue_store :
    ∃ new, (fetchMonthlyRevenue api stamps stockId period store).1 = store ++ new := by
  unfold fetchMonthlyRevenue
  cases fetchRows api stockId period "TaiwanStockMonthRevenue" with
  | error e => exact ⟨[],by simp⟩
  | ok rows =>
    obtain ⟨new,hnew,-⟩ := saveRows_store (revenueRecord stockId) _ stamps rows.zipIdx store
    exact ⟨new,hnew⟩

/-- Every record that a fetch adds is a statement row of the stock and the period asked for. -/
theorem fetchFinancialStatement_store :
    ∃ new, (fetchFinancialStatement api stamps stockId period store).1 = store ++ new ∧
      ∀ r ∈ new, r.stockId = stockId ∧ r.period = period ∧ r.dataType = .financialStatement := by
  unfold fetchFinancialStatement
  cases fetchRows api stockId period "TaiwanStockFinancialStatements" with
  | error e => exact ⟨[],by simp,by simp⟩
  | ok rows =>
    obtain ⟨new,hnew,hmade⟩ := saveRows_store (statementRecord stockId period) _ stamps
      rows.zipIdx store
    refine ⟨new,hnew,?_⟩
    intro r hr
    obtain ⟨row,-,hrow⟩ := hmade r hr
    obtain ⟨payload,-,hr⟩ := bind_eq_ok.mp hrow
    cases hr
    exact ⟨rfl,rfl,rfl⟩

end Fetch

/-- A call to one of the two fetch functions, with all that decides what it does. -/
inductive Fetch where
  | monthlyRevenue (api : FinMind) (stamps : Nat → Stamp) (stockId period : String)
  | financialStatement (api : FinMind) (stamps : Nat → Stamp) (stockId period : String)

def Fetch.run : Fetch → ExternalData → ExternalData
  | .monthlyRevenue api stamps stockId period, store =>
      (fetchMonthlyRevenue api stamps stockId period store).1
  | .financialStatement api stamps stockId period, store =>
      (fetchFinancialStatement api stamps stockId period store).1

/-- The store after one fetch after the other, also those that fail. -/
def runFetches (fetches : List Fetch) (store : ExternalData) : ExternalData :=
  fetches.foldl (fun store fetch => fetch.run store) store

theorem Fetch.run_store (fetch : Fetch) (store : ExternalData) :
    ∃ new, fetch.run store = store ++ new := by
  cases fetch with
  | monthlyRevenue api stamps stockId period =>
    exact fetchMonthlyRevenue_store api stamps stockId period store
  | financialStatement api stamps stockId period =>
    obtain ⟨new,hnew,-⟩ := fetchFinancialStatement_store api stamps stockId period store
    exact ⟨new,hnew⟩

/-- No fetch takes a record away. -/
theorem runFetches_store (fetches : List Fetch) (store : ExternalData) :
    ∃ new, runFetches fetches store = store ++ new := by
  induction fetches generalizing store with
  | nil => exact ⟨[],by simp [runFetches]⟩
  | cons fetch fetches ih =>
    obtain ⟨first,hfirst⟩ := fetch.run_store store
    obtain ⟨others,hothers⟩ := ih (store ++ first)
    refine ⟨first ++ others,?_⟩
    rw [runFetches, List.foldl_cons, hfirst, ← List.append_assoc]
    exact hothers

end FinancialPdfReader
