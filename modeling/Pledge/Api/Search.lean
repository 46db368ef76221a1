import Pledge.Api.PoolBases
import Pledge.Text.Sql

/-!
# The search

`POST /pool/search`: the texts of the request are put between quotes into a `WHERE` condition, which
selects rows of `poolbases`. A page of these comes with a row of `pooldata` for each.

What MySQL makes of the condition is read from its text. The condition is the one that was meant
exactly for plain texts (`whereCondition_read`), and for these every row that is found has what the
request asks for (`filters_kept`).
-/

namespace Pledge.Api

open Pledge.Backend Pledge.Store Pledge.Text

/-! ## The request

The fields of the request go into the condition as they come, each between two quotes. -/

/-- `type Search struct` of the requests. -/
structure Search where
  chainID : Int
  lendTokenSymbol : String := ""
  state : String := ""
  page : Int := 0
  pageSize : Int := 0
  deriving Repr, DecidableEq

/-- The codes of `statecode` that the search answers with. -/
def commonSuccess : Nat := 0

def commonErrServerErr : Nat := 1000

def chainIdEmpty : Nat := 1202

def chainIdErr : Nat := 1203

namespace Search

/-- `validate.Search`, for a body that is a JSON object. A chain of 0 is a missing one. -/
def validate (req : Search) : Nat :=
  if req.chainID = 0 then chainIdEmpty
  else if req.chainID ≠ 97 ∧ req.chainID ≠ 56 then chainIdErr
  else commonSuccess

/-- The condition that `SearchService.Search` builds. -/
def whereCondition (req : Search) : String :=
  let condition := "chain_id='" ++ toString req.chainID ++ "'"
  let condition := if req.lendTokenSymbol ≠ "" then
    condition ++ " and lend_token_symbol='" ++ req.lendTokenSymbol ++ "'" else condition
  if req.state ≠ "" then condition ++ " and state='" ++ req.state ++ "'" else condition

/-- The filters of the request, as columns and values. -/
def filters (req : Search) : List (String × String) :=
  ("chain_id", toString req.chainID) ::
    ((if req.lendTokenSymbol ≠ "" then [("lend_token_symbol", req.lendTokenSymbol)] else []) ++
      if req.state ≠ "" then [("state", req.state)] else [])

/-- The condition that is meant. -/
def condition (req : Search) : Sql.Condition :=
  [req.filters.map fun filter => ⟨.column filter.1, .value filter.2⟩]

end Search

/-! ## The database

What the server makes of a condition that is more than equations is left open (`Server.otherwise`).
How it compares texts is a parameter too. -/

/-- A MySQL server: whether a backslash is an escape, what it takes as equal, and what it makes of
conditions that are not read here or compare other columns than texts. -/
structure Server where
  backslash : Bool
  collation : Sql.Collation
  otherwise : String → List PoolBase → Option (List PoolBase)

/-- The columns of `poolbases` that are texts in `pledge.sql`. -/
def textColumns : List String :=
  ["settle_time", "end_time", "interest_rate", "max_supply", "lend_supply", "borrow_supply",
    "martgage_rate", "lend_token", "borrow_token", "state", "jp_coin", "sp_coin",
    "auto_liquidate_threshold", "chain_id", "lend_token_symbol", "borrow_token_symbol"]

/-- The columns of a row, as a condition compares them. -/
def cells (row : PoolBase) (name : String) : Option String :=
  ((columns row).lookup name).map fun cell => scanString (some cell)

/-- `Table("poolbases").Where(whereCondition)`. -/
def Server.select (server : Server) (whereCondition : String) (rows : List PoolBase) :
    Option (List PoolBase) :=
  match Sql.read server.backslash whereCondition.toList with
  | some condition =>
      if condition.among textColumns then
        some (rows.filter fun row => condition.holds server.collation (cells row))
      else server.otherwise whereCondition rows
  | none => server.otherwise whereCondition rows

/-- `Limit(limit).Offset(offset)`. Each of them is written if it is positive, and MySQL does not take
an offset without a limit. -/
def window {ρ : Type} (limit offset : Int) (rows : List ρ) : Option (List ρ) :=
  if 0 < limit then some ((rows.drop offset.toNat).take limit.toNat)
  else if 0 < offset then none
  else some rows

/-- `Order("pool_id desc")`. -/
def descending (rows : List PoolBase) : List PoolBase :=
  orderBy (fun row => OrderDual.toDual row.poolId) rows

/-! ## The answer

A row is read with the data of its pool, which may be missing, and its numbers are parsed. -/

/-- `type PoolData struct` of the API. Its `pool_id` is a number. -/
structure PoolData where
  poolID : Int
  chainId : String
  finishAmountBorrow : String
  finishAmountLend : String
  liquidationAmounBorrow : String
  liquidationAmounLend : String
  settleAmountBorrow : String
  settleAmountLend : String
  createdAt : String
  updatedAt : String
  deriving Repr, DecidableEq

/-- Decimal digits. -/
def parseDigits (cs : List Char) : Option Nat :=
  if cs ≠ [] ∧ cs.all Char.isDigit = true then some (Nat.ofDigitChars 10 cs 0) else none

/-- `strconv.ParseInt`, which reads a text column into an `int`. -/
def parseInt (s : String) : Option Int :=
  match s.toList with
  | '-' :: cs => (parseDigits cs).map fun n => -(n : Int)
  | '+' :: cs => (parseDigits cs).map fun n => (n : Int)
  | cs => (parseDigits cs).map fun n => (n : Int)

theorem parseInt_toString (n : Nat) : parseInt (toString n) = some (n : Int) := by
  have hchars : (toString n).toList = Nat.toDigits 10 n := Nat.toList_repr
  have hdigits : ∀ c ∈ Nat.toDigits 10 n, c.isDigit = true := fun c hc =>
    Nat.isDigit_of_mem_toDigits (by omega) (by omega) hc
  have hne : Nat.toDigits 10 n ≠ [] := by
    rw [← hchars, Ne, String.toList_eq_nil_iff]
    exact toString_ne n
  have hparse : parseDigits (Nat.toDigits 10 n) = some n := by
    rw [parseDigits, if_pos ⟨hne, List.all_eq_true.mpr hdigits⟩, Nat.ofDigitChars_ten_toDigits]
  unfold parseInt
  rw [hchars]
  split
  · next cs hsign => exact absurd (hdigits '-' (by rw [hsign]; simp)) (by decide)
  · next cs hsign => exact absurd (hdigits '+' (by rw [hsign]; simp)) (by decide)
  · rw [hparse]
    rfl

/-- A row as `First(&poolData)` reads it, which fails where `pool_id` is not a number. -/
def PoolData.scan (row : Backend.PoolData) : Option PoolData :=
  (parseInt row.poolId).map fun poolID =>
    { poolID := poolID
      chainId := toString row.chainId
      finishAmountBorrow := row.finishAmountBorrow
      finishAmountLend := row.finishAmountLend
      liquidationAmounBorrow := row.liquidationAmounBorrow
      liquidationAmounLend := row.liquidationAmounLend
      settleAmountBorrow := row.settleAmountBorrow
      settleAmountLend := row.settleAmountLend
      createdAt := row.createdAt
      updatedAt := row.updatedAt }

/-- `type Pool struct`. -/
structure Pool where
  poolID : Nat
  settleTime : String
  endTime : String
  interestRate : String
  maxSupply : String
  lendSupply : String
  borrowSupply : String
  martgageRate : String
  lendToken : String
  lendTokenSymbol : String := ""
  borrowToken : String
  borrowTokenSymbol : String := ""
  state : String
  spCoin : String
  jpCoin : String
  autoLiquidateThreshold : String
  pooldata : PoolData
  deriving Repr, DecidableEq

/-- The body of the loop: the row `b` of `poolbases` with the row that the second query found. The
two symbols are not filled. -/
def newPool (b : PoolBase) (poolData : PoolData) : Pool where
  poolID := b.poolId
  settleTime := b.settleTime
  endTime := b.endTime
  interestRate := b.interestRate
  maxSupply := b.maxSupply
  lendSupply := b.lendSupply
  borrowSupply := b.borrowSupply
  martgageRate := b.martgageRate
  lendToken := (LendToken.unmarshal b.lendTokenInfo).tokenName
  borrowToken := (BorrowToken.unmarshal b.borrowTokenInfo).tokenName
  state := b.state
  spCoin := b.spCoin
  jpCoin := b.jpCoin
  autoLiquidateThreshold := b.autoLiquidateThreshold
  pooldata := poolData

/-- What `chain_id=?` compares. -/
def chainOf (row : Backend.PoolData) : Int := row.chainId

/-- `Table("pooldata").Where("chain_id=?", req.ChainID).First(&poolData)`. -/
def firstPoolData (chainID : Int) (db : Database) : Option PoolData :=
  (first chainOf chainID db.pooldata).bind PoolData.scan

/-- The rows of `poolbases` that a page is made of. -/
def Search.rows (server : Server) (req : Search) (whereCondition : String) (db : Database) :
    Option (List PoolBase) :=
  (server.select whereCondition db.poolbases).bind fun selected =>
    window req.pageSize ((req.page - 1) * req.pageSize) (descending selected)

/-- `Pool.Pagination`. -/
def pagination (server : Server) (req : Search) (whereCondition : String) (db : Database) :
    Option (Nat × List Pool) :=
  let total := ((server.select whereCondition db.poolbases).map List.length).getD 0
  (req.rows server whereCondition db).bind fun poolBase =>
    (poolBase.mapM fun b => (firstPoolData req.chainID db).map (newPool b)).map fun pools =>
      (total, pools)

/-- `SearchService.Search`: a code, the number of pools, and the page. -/
def search (server : Server) (req : Search) (db : Database) : Nat × Nat × List Pool :=
  match pagination server req req.whereCondition db with
  | none => (commonErrServerErr, 0, [])
  | some (total, data) => (commonSuccess, total, data)

/-! ## The condition

`Matches` says what the request asks for. The condition means the same when no value has a character
that ends its literal, or escapes the end of it (`Plain`). -/

section Filters

variable {req : Search} {server : Server} {db : Database} {row : PoolBase}

/-- The row has what the request asks for, as far as the server tells texts apart. -/
structure Search.Matches (req : Search) (collation : Sql.Collation) (row : PoolBase) : Prop where
  chainID : (row.chainId : Int) = req.chainID
  lendTokenSymbol : req.lendTokenSymbol ≠ "" →
    collation.same row.lendTokenSymbol req.lendTokenSymbol = true
  state : req.state ≠ "" → collation.same row.state req.state = true

/-- The texts of the request are plain. -/
structure Search.Plain (req : Search) (backslash : Bool) : Prop where
  lendTokenSymbol : Sql.Plain backslash req.lendTokenSymbol.toList
  state : Sql.Plain backslash req.state.toList

theorem Search.chainID_of_validate (h : req.validate = commonSuccess) :
    req.chainID = 97 ∨ req.chainID = 56 := by
  unfold Search.validate at h
  split_ifs at h with hzero hne
  · exact absurd h (by decide)
  · exact absurd h (by decide)
  · rw [not_and_or, not_not, not_not] at hne
    exact hne

/-- The text of the condition is the conjunction of its filters. -/
theorem Search.whereCondition_toList (req : Search) :
    req.whereCondition.toList =
      Sql.conjunction (req.filters.map fun filter => (filter.1.toList, filter.2.toList)) := by
  unfold Search.whereCondition Search.filters
  split_ifs <;> simp [Sql.conjunction, Sql.equation, Sql.andText, Sql.andWord, Sql.quote]

theorem Search.condition_eq (req : Search) :
    req.condition = [(req.filters.map fun filter => (filter.1.toList, filter.2.toList)).map
      fun e => Sql.equationOf e.1 e.2] := by
  simp [Search.condition, Sql.equationOf, Function.comp_def]

theorem Search.forall_filters {P : String × String → Prop} :
    (∀ filter ∈ req.filters, P filter) ↔
      P ("chain_id", toString req.chainID) ∧
        (req.lendTokenSymbol ≠ "" → P ("lend_token_symbol", req.lendTokenSymbol)) ∧
        (req.state ≠ "" → P ("state", req.state)) := by
  unfold Search.filters
  split_ifs <;> simp [*]

theorem Search.condition_among (req : Search) : req.condition.among textColumns = true := by
  have hnames : ∀ filter ∈ req.filters, textColumns.contains filter.1 = true := by
    rw [forall_filters]
    exact ⟨rfl, fun _ => rfl, fun _ => rfl⟩
  simpa [Sql.Condition.among, condition, Sql.Operand.among] using hnames

theorem Search.filters_names (req : Search) :
    ∀ filter ∈ req.filters, Sql.IsName filter.1.toList := by
  rw [forall_filters]
  refine ⟨?_, fun _ => ?_, fun _ => ?_⟩
  · show Sql.IsName "chain_id".toList
    exact ⟨⟨'c', "hain_id".toList, by decide, by decide⟩, by decide, by decide, by decide⟩
  · show Sql.IsName "lend_token_symbol".toList
    exact ⟨⟨'l', "end_token_symbol".toList, by decide, by decide⟩, by decide, by decide, by decide⟩
  · show Sql.IsName "state".toList
    exact ⟨⟨'s', "tate".toList, by decide, by decide⟩, by decide, by decide, by decide⟩

theorem plain_chainID (h : req.validate = commonSuccess) (backslash : Bool) :
    Sql.Plain backslash (toString req.chainID).toList := by
  have hother : ∀ c ∈ ['9', '7', '5', '6'], ¬ Sql.Special backslash c := by
    simp [Sql.Special, Sql.quote]
  have hplain : ∀ c ∈ ['9', '7', '5', '6'], ∀ d ∈ ['9', '7', '5', '6'],
      Sql.Plain backslash [c, d] := by
    intro c hc d hd
    rw [Sql.plain_other (hother c hc), Sql.plain_other (hother d hd)]
    exact Sql.plain_nil
  rcases Search.chainID_of_validate h with h | h <;> rw [h]
  · exact hplain '9' (by decide) '7' (by decide)
  · exact hplain '5' (by decide) '6' (by decide)

theorem Search.filters_plain (h : req.validate = commonSuccess) (backslash : Bool) :
    (∀ filter ∈ req.filters, Sql.Plain backslash filter.2.toList) ↔ req.Plain backslash := by
  have hempty : ∀ text : String,
      (text ≠ "" → Sql.Plain backslash text.toList) ↔ Sql.Plain backslash text.toList := by
    intro text
    refine ⟨fun h => ?_, fun h _ => h⟩
    by_cases htext : text = ""
    · subst htext
      exact Sql.plain_nil
    · exact h htext
  rw [forall_filters, hempty, hempty]
  constructor
  · rintro ⟨-, hsymbol, hstate⟩
    exact ⟨hsymbol, hstate⟩
  · rintro ⟨hsymbol, hstate⟩
    exact ⟨plain_chainID h backslash, hsymbol, hstate⟩

/-- **The condition is read as what is meant exactly for plain texts.** -/
theorem whereCondition_read (h : req.validate = commonSuccess) (backslash : Bool) :
    Sql.read backslash req.whereCondition.toList = some req.condition ↔ req.Plain backslash := by
  have hne : (req.filters.map fun filter => (filter.1.toList, filter.2.toList)) ≠ [] := by
    simp [Search.filters]
  rw [req.whereCondition_toList, req.condition_eq, Sql.read_conjunction hne, List.forall_mem_map,
    Search.filters_plain h]
  rw [List.forall_mem_map]
  exact req.filters_names

theorem cells_chainId (row : PoolBase) : cells row "chain_id" = some (toString row.chainId) := by
  simp [cells, columns, List.lookup_cons, scanString]

theorem cells_lendTokenSymbol (row : PoolBase) :
    cells row "lend_token_symbol" = some row.lendTokenSymbol := by
  simp [cells, columns, List.lookup_cons, scanString]

theorem cells_state (row : PoolBase) : cells row "state" = some row.state := by
  simp [cells, columns, List.lookup_cons, scanString]

/-- What the condition that is meant selects. -/
theorem Search.condition_holds {collation : Sql.Collation} (h : req.validate = commonSuccess) :
    Sql.Condition.holds collation (cells row) req.condition = true ↔ req.Matches collation row := by
  have hchain : collation.same (toString row.chainId) (toString req.chainID) = true ↔
      (row.chainId : Int) = req.chainID := by
    rcases chainID_of_validate h with h | h <;> rw [h]
    · exact (collation.numerals row.chainId 97).trans (by omega)
    · exact (collation.numerals row.chainId 56).trans (by omega)
  rw [condition_eq, Sql.holds_conjunction, List.forall_mem_map, forall_filters]
  simp only [String.ofList_toList, cells_chainId, cells_lendTokenSymbol, cells_state,
    Option.some.injEq, exists_eq_left', hchain]
  constructor
  · rintro ⟨hchain, hsymbol, hstate⟩
    exact ⟨hchain, hsymbol, hstate⟩
  · rintro ⟨hchain, hsymbol, hstate⟩
    exact ⟨hchain, hsymbol, hstate⟩

/-- What is selected for plain texts. -/
theorem select_plain (h : req.validate = commonSuccess) (hplain : req.Plain server.backslash)
    (rows : List PoolBase) :
    server.select req.whereCondition rows = some (rows.filter fun row =>
      req.condition.holds server.collation (cells row)) := by
  unfold Server.select
  rw [(whereCondition_read h server.backslash).mpr hplain]
  dsimp only
  rw [if_pos req.condition_among]

theorem mem_of_window {ρ : Type} {limit offset : Int} {rows page : List ρ} {row : ρ}
    (hpage : window limit offset rows = some page) (hrow : row ∈ page) : row ∈ rows := by
  unfold window at hpage
  split_ifs at hpage
  · rw [Option.some.injEq] at hpage
    subst hpage
    exact List.mem_of_mem_drop (List.mem_of_mem_take hrow)
  · rw [Option.some.injEq] at hpage
    exact hpage ▸ hrow

/-- A row of a page is a row that was selected. -/
theorem Search.mem_of_rows {whereCondition : String} {page : List PoolBase}
    (hpage : req.rows server whereCondition db = some page) (hrow : row ∈ page) :
    ∃ selected, server.select whereCondition db.poolbases = some selected ∧ row ∈ selected := by
  obtain ⟨selected, hselected, hwindow⟩ := Option.bind_eq_some_iff.mp hpage
  exact ⟨selected, hselected, mem_orderBy.mp (mem_of_window hwindow hrow)⟩

/-- **Filters and the query.** The condition is read as the conjunction of the filters, and every row
that is found has what the request asks for, exactly when the texts of the request are plain. -/
theorem filters_kept (server : Server) {req : Search} (h : req.validate = commonSuccess) :
    (Sql.read server.backslash req.whereCondition.toList = some req.condition ∧
      ∀ db page, req.rows server req.whereCondition db = some page →
        ∀ row ∈ page, req.Matches server.collation row) ↔
      req.Plain server.backslash := by
  rw [whereCondition_read h]
  constructor
  · exact fun hboth => hboth.1
  · intro hplain
    refine ⟨hplain, ?_⟩
    intro db page hpage row hrow
    obtain ⟨selected, hselected, hmem⟩ := Search.mem_of_rows hpage hrow
    rw [select_plain h hplain, Option.some.injEq] at hselected
    subst hselected
    exact (Search.condition_holds h).mp (List.mem_filter.mp hmem).2

end Filters

/-! A server that tells all texts apart, and a request whose state closes its literal. -/

def plainServer (backslash : Bool) : Server where
  backslash := backslash
  collation :=
    { same := fun left right => decide (left = right)
      numerals := fun m n => by rw [decide_eq_true_eq, toString_inj] }
  otherwise := fun _ _ => none

def injected : Search where
  chainID := 97
  state := "' or '1'='1"
  page := 1
  pageSize := 10

/-- The condition has become a disjunction, and a pool of another chain is found. -/
theorem injected_not_kept :
    injected.validate = commonSuccess ∧
    Sql.read true injected.whereCondition.toList =
      some [[⟨.column "chain_id", .value "97"⟩, ⟨.column "state", .value ""⟩],
        [⟨.value "1", .value "1"⟩]] ∧
    Sql.read true injected.whereCondition.toList ≠ some injected.condition ∧
    injected.rows (plainServer true) injected.whereCondition
      { poolbases := [{ poolId := 1, chainId := 56 }] } = some [{ poolId := 1, chainId := 56 }] ∧
    ¬ injected.Matches (plainServer true).collation { poolId := 1, chainId := 56 } := by
  refine ⟨by decide, by decide +kernel, by decide +kernel, by decide +kernel, ?_⟩
  intro hmatches
  exact absurd hmatches.chainID (by decide)

theorem filters_kept_busd :
    let req : Search := { chainID := 97, lendTokenSymbol := "BUSD", state := "0" }
    (Sql.read true req.whereCondition.toList = some req.condition ∧
      ∀ db page, req.rows (plainServer true) req.whereCondition db = some page →
        ∀ row ∈ page, req.Matches (plainServer true).collation row) ↔
      req.Plain true :=
  filters_kept (plainServer true) (by decide)

end Pledge.Api
