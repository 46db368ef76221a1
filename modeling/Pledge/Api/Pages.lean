import Pledge.Api.Search

/-!
# The pages of a search

The pages of a search list every matching pool once, from the highest identifier down, and each page
comes with the number of matching pools. But the query for the row of `pooldata` asks for the chain
only, so all pools of a chain come with its first row. They come with their own rows exactly when this
row belongs to every matching pool (`pages_listed`).
-/

namespace Pledge.Api

open Pledge.Backend Pledge.Store

/-- Every pool has exactly one row in both tables. -/
structure Paired (db : Database) : Prop where
  bases : (db.poolbases.map PoolBase.key).Nodup
  data : (db.pooldata.map Backend.PoolData.key).Nodup
  hasData : ∀ b ∈ db.poolbases, ∃ d ∈ db.pooldata, d.key = (b.chainId, toString b.poolId)
  hasBase : ∀ d ∈ db.pooldata, ∃ b ∈ db.poolbases, d.key = (b.chainId, toString b.poolId)

namespace Search

instance (req : Search) (collation : Text.Sql.Collation) (row : PoolBase) :
    Decidable (req.Matches collation row) :=
  decidable_of_iff
    ((row.chainId : Int) = req.chainID ∧
      (req.lendTokenSymbol ≠ "" → collation.same row.lendTokenSymbol req.lendTokenSymbol = true) ∧
      (req.state ≠ "" → collation.same row.state req.state = true))
    ⟨fun h => ⟨h.1, h.2.1, h.2.2⟩, fun h => ⟨h.chainID, h.lendTokenSymbol, h.state⟩⟩

/-- The request for a page, counted from 1. -/
def onPage (req : Search) (page size : Nat) : Search :=
  { req with page := page, pageSize := size }

/-- The pools that the request is about. -/
def matching (req : Search) (server : Server) (db : Database) : List PoolBase :=
  db.poolbases.filter fun row => decide (req.Matches server.collation row)

/-- All pages, one after the other. -/
def listed (req : Search) (server : Server) (size : Nat) (db : Database) : List Pool :=
  (List.range (((req.matching server db).length + size - 1) / size)).flatMap fun i =>
    (search server (req.onPage (i + 1) size) db).2.2

end Search

/-- The pool comes with the row of `pooldata` of its chain and its identifier. -/
def Pool.Own (pool : Pool) (chainID : Int) (db : Database) : Prop :=
  ∃ d ∈ db.pooldata, chainOf d = chainID ∧ d.poolId = toString pool.poolID ∧
    PoolData.scan d = some pool.pooldata

section Pages

variable {req : Search} {server : Server} {db : Database} {size : Nat}

theorem Search.mem_matching {b : PoolBase} :
    b ∈ req.matching server db ↔ b ∈ db.poolbases ∧ req.Matches server.collation b := by
  unfold Search.matching
  rw [List.mem_filter, decide_eq_true_eq]

/-! ## The data of a page

Every pool of a page gets the first row of `pooldata` on the chain, whatever its identifier is.
`Paired` says that every pool has one row in each table. -/

/-- There is a first row of the chain, where the chain has a pool. -/
theorem Paired.first_row (h : Paired db) {chainID : Int} {b : PoolBase} (hb : b ∈ db.poolbases)
    (hchain : (b.chainId : Int) = chainID) : ∃ d, first chainOf chainID db.pooldata = some d := by
  obtain ⟨d, hd, hkey⟩ := h.hasData b hb
  have hthis : chainOf d = chainID := by
    rw [← hchain]
    exact congrArg (fun k : Nat × String => (k.1 : Int)) hkey
  exact Option.isSome_iff_exists.mp (first_isSome.mpr ⟨d, hd, hthis⟩)

/-- Rows of paired tables are read, and the identifier is a number again. -/
theorem Paired.scan_row (h : Paired db) {d : Backend.PoolData} (hd : d ∈ db.pooldata) :
    ∃ poolData, PoolData.scan d = some poolData ∧
      ∀ n : Nat, poolData.poolID = (n : Int) ↔ d.poolId = toString n := by
  obtain ⟨b, -, hkey⟩ := h.hasBase d hd
  have hid : d.poolId = toString b.poolId := congrArg Prod.snd hkey
  rw [PoolData.scan, hid, parseInt_toString, Option.map_some]
  refine ⟨_, rfl, fun n => ?_⟩
  rw [toString_inj]
  exact Int.ofNat_inj

/-- All pools of a page get the first row of the chain. -/
theorem mapM_first {page : List PoolBase} {chainID : Int}
    (h : ∀ b ∈ page, ∃ poolData, firstPoolData chainID db = some poolData) :
    ∃ pools, page.mapM (fun b => (firstPoolData chainID db).map (newPool b)) = some pools ∧
      pools.map Pool.poolID = page.map PoolBase.poolId ∧
      ∀ pool ∈ pools, firstPoolData chainID db = some pool.pooldata ∧
        ∃ b ∈ page, pool = newPool b pool.pooldata := by
  cases hdata : firstPoolData chainID db with
  | none =>
      cases page with
      | nil => exact ⟨[], rfl, rfl, by simp⟩
      | cons b page =>
          obtain ⟨poolData, hsome⟩ := h b List.mem_cons_self
          rw [hdata] at hsome
          simp at hsome
  | some poolData =>
      refine ⟨page.map fun b => newPool b poolData, ?_, ?_, ?_⟩
      · exact List.mapM_pure
      · rw [List.map_map]
        rfl
      · intro pool hpool
        obtain ⟨b, hb, rfl⟩ := List.mem_map.mp hpool
        exact ⟨rfl, b, hb, rfl⟩

/-! ## One page

A page is a slice of the rows that the condition selects, in descending order of their identifiers.
-/

theorem select_matching (h : req.validate = commonSuccess) (hplain : req.Plain server.backslash) :
    server.select req.whereCondition db.poolbases = some (req.matching server db) := by
  rw [select_plain h hplain, Search.matching]
  congr 1
  apply List.filter_congr
  intro row _
  rw [Bool.eq_iff_iff, Search.condition_holds h, decide_eq_true_eq]

theorem window_page {ρ : Type} (rows : List ρ) (hsize : 0 < size) (i : Nat) :
    window (size : Int) ((((i + 1 : Nat) : Int) - 1) * size) rows =
      some ((rows.drop (i * size)).take size) := by
  have hoffset : (((i + 1 : Nat) : Int) - 1) * size = ((i * size : Nat) : Int) := by
    rw [Int.natCast_add, Int.natCast_one, Int.add_sub_cancel, Int.natCast_mul]
  rw [window, if_pos (by omega), hoffset, Int.toNat_natCast, Int.toNat_natCast]

/-- The rows of `poolbases` on a page, counted from 0. -/
def Search.slice (req : Search) (server : Server) (size : Nat) (db : Database) (i : Nat) :
    List PoolBase :=
  ((descending (req.matching server db)).drop (i * size)).take size

theorem Search.mem_of_slice {i : Nat} {b : PoolBase} (hb : b ∈ req.slice server size db i) :
    b ∈ req.matching server db :=
  mem_orderBy.mp (List.mem_of_mem_drop (List.mem_of_mem_take hb))

/-- **One page.** -/
theorem search_page (h : req.validate = commonSuccess) (hplain : req.Plain server.backslash)
    (hpaired : Paired db) (hsize : 0 < size) (i : Nat) :
    ∃ pools, search server (req.onPage (i + 1) size) db =
        (commonSuccess, (req.matching server db).length, pools) ∧
      pools.map Pool.poolID = (req.slice server size db i).map PoolBase.poolId ∧
      ∀ pool ∈ pools, firstPoolData req.chainID db = some pool.pooldata ∧
        ∃ b ∈ req.slice server size db i, pool = newPool b pool.pooldata := by
  have hrows : (req.onPage (i + 1) size).rows server req.whereCondition db =
      some (req.slice server size db i) := by
    unfold Search.rows
    rw [select_matching h hplain, Option.bind_some]
    exact window_page _ hsize i
  have hfirst : ∀ b ∈ req.slice server size db i,
      ∃ poolData, firstPoolData req.chainID db = some poolData := by
    intro b hb
    obtain ⟨hmem, hmatches⟩ := Search.mem_matching.mp (Search.mem_of_slice hb)
    obtain ⟨d, hd⟩ := hpaired.first_row hmem hmatches.chainID
    obtain ⟨poolData, hscan, -⟩ := hpaired.scan_row (of_first hd).1
    exact ⟨poolData, by rw [firstPoolData, hd, Option.bind_some, hscan]⟩
  obtain ⟨pools, hpools, hids, hall⟩ := mapM_first hfirst
  refine ⟨pools, ?_, hids, hall⟩
  have hthis : (req.slice server size db i).mapM (fun b =>
      (firstPoolData (req.onPage (i + 1) size).chainID db).map (newPool b)) = some pools := hpools
  have hpagination : pagination server (req.onPage (i + 1) size) req.whereCondition db =
      some ((req.matching server db).length, pools) := by
    unfold pagination
    rw [hrows, select_matching h hplain, Option.bind_some, hthis]
    rfl
  have hcondition : (req.onPage (i + 1) size).whereCondition = req.whereCondition := rfl
  unfold search
  rw [hcondition, hpagination]

/-! ## All pages

The slices follow each other without a gap, so that the pages together are the rows that are
selected, each of them once. -/

/-- The identifiers are listed in the order of the table. -/
theorem listed_ids (h : req.validate = commonSuccess) (hplain : req.Plain server.backslash)
    (hpaired : Paired db) (hsize : 0 < size) :
    (req.listed server size db).map Pool.poolID =
      (descending (req.matching server db)).map PoolBase.poolId := by
  have hlength : (descending (req.matching server db)).length = (req.matching server db).length :=
    List.length_insertionSort _ _
  conv_rhs => rw [← pages_eq (descending (req.matching server db)) hsize, hlength]
  unfold Search.listed
  rw [List.map_flatMap, List.map_flatMap]
  apply List.flatMap_congr
  intro i _
  obtain ⟨pools, hpage, hids, -⟩ := search_page h hplain hpaired hsize i
  rw [hpage]
  exact hids

theorem mem_listed (h : req.validate = commonSuccess) (hplain : req.Plain server.backslash)
    (hpaired : Paired db) (hsize : 0 < size) {pool : Pool}
    (hpool : pool ∈ req.listed server size db) :
    firstPoolData req.chainID db = some pool.pooldata ∧
      ∃ b ∈ req.matching server db, pool = newPool b pool.pooldata := by
  obtain ⟨i, -, hmem⟩ := List.mem_flatMap.mp hpool
  obtain ⟨pools, hpage, -, hall⟩ := search_page h hplain hpaired hsize i
  rw [hpage] at hmem
  obtain ⟨hfirst, b, hb, hnew⟩ := hall pool hmem
  exact ⟨hfirst, b, Search.mem_of_slice hb, hnew⟩

/-- The matching pools are of one chain, so their identifiers are different. -/
theorem Paired.descending_ids (h : Paired db) :
    ((descending (req.matching server db)).map PoolBase.poolId).Pairwise (· > ·) := by
  have hranks : ((req.matching server db).map fun b => OrderDual.toDual b.poolId).Nodup := by
    apply List.pairwise_map.mpr
    apply ((List.pairwise_map.mp h.bases).filter _).imp_of_mem
    intro a b ha hb hne hid
    have hchain : (a.chainId : Int) = b.chainId := by
      rw [(Search.mem_matching.mp ha).2.chainID, (Search.mem_matching.mp hb).2.chainID]
    exact hne (Prod.ext (Int.ofNat_inj.mp hchain) (OrderDual.toDual_inj.mp hid))
  have hsorted := orderBy_increasing hranks
  rw [List.pairwise_map] at hsorted ⊢
  exact hsorted.imp fun hlt => OrderDual.toDual_lt_toDual.mp hlt

/-- **Each pool has its own data exactly if it is the only one**, and the one that the first row of
the chain belongs to. -/
theorem listed_own (h : req.validate = commonSuccess) (hplain : req.Plain server.backslash)
    (hpaired : Paired db) (hsize : 0 < size) :
    (∀ pool ∈ req.listed server size db, pool.Own req.chainID db) ↔
      ∀ b ∈ req.matching server db, ∀ d, first chainOf req.chainID db.pooldata = some d →
        d.poolId = toString b.poolId := by
  constructor
  · intro hown b hb d hd
    have hid : b.poolId ∈ (req.listed server size db).map Pool.poolID := by
      rw [listed_ids h hplain hpaired hsize]
      exact List.mem_map_of_mem (mem_orderBy.mpr hb)
    obtain ⟨pool, hpool, hid⟩ := List.mem_map.mp hid
    obtain ⟨hfirst, -⟩ := mem_listed h hplain hpaired hsize hpool
    rw [firstPoolData, hd, Option.bind_some] at hfirst
    obtain ⟨d', hd', -, hid', hscan'⟩ := hown pool hpool
    -- the first row and the own one are read as the same record
    obtain ⟨poolData, hscan, hnumber⟩ := hpaired.scan_row (of_first hd).1
    obtain ⟨poolData', hread', hnumber'⟩ := hpaired.scan_row hd'
    rw [hfirst, Option.some.injEq] at hscan
    rw [hscan', Option.some.injEq] at hread'
    subst hscan hread'
    rw [← hid, ← hnumber, hnumber']
    exact hid'
  · intro hall pool hpool
    obtain ⟨hfirst, b, hb, hnew⟩ := mem_listed h hplain hpaired hsize hpool
    obtain ⟨d, hd, hscan⟩ := Option.bind_eq_some_iff.mp hfirst
    obtain ⟨hmem, hchain⟩ := of_first hd
    refine ⟨d, hmem, hchain, ?_, hscan⟩
    rw [hnew]
    exact hall b hb d hd

/-- **The pages of a search.** Every page comes with the number of matching pools, and together they
list each of these once in descending order, with the fields of its row in `poolbases`. The rows of
`pooldata` are the own ones exactly if the first row of the chain is that of every matching pool. -/
theorem pages_listed (h : req.validate = commonSuccess) (hplain : req.Plain server.backslash)
    (hpaired : Paired db) (hsize : 0 < size) :
    let matching := req.matching server db
    let listed := req.listed server size db
    (∀ i, (search server (req.onPage (i + 1) size) db).1 = commonSuccess ∧
      (search server (req.onPage (i + 1) size) db).2.1 = matching.length) ∧
    (listed.map Pool.poolID).Pairwise (· > ·) ∧
    (∀ n, n ∈ listed.map Pool.poolID ↔ ∃ b ∈ matching, b.poolId = n) ∧
    (∀ pool ∈ listed, ∃ b ∈ matching, pool = newPool b pool.pooldata) ∧
    ((∀ pool ∈ listed, pool.Own req.chainID db) ↔
      ∀ b ∈ matching, ∀ d, first chainOf req.chainID db.pooldata = some d →
        d.poolId = toString b.poolId) := by
  dsimp only
  refine ⟨?_, ?_, ?_, ?_, listed_own h hplain hpaired hsize⟩
  · intro i
    obtain ⟨pools, hpage, -⟩ := search_page h hplain hpaired hsize i
    rw [hpage]
    exact ⟨rfl, rfl⟩
  · rw [listed_ids h hplain hpaired hsize]
    exact hpaired.descending_ids
  · intro n
    rw [listed_ids h hplain hpaired hsize, List.mem_map]
    simp only [descending, mem_orderBy]
  · intro pool hpool
    exact (mem_listed h hplain hpaired hsize hpool).2

end Pages

/-! Two pools of one chain. -/

def twoPools : Database where
  poolbases := [{ poolId := 1, chainId := 97 }, { poolId := 2, chainId := 97 }]
  pooldata :=
    [{ poolId := "1", chainId := 97, settleAmountLend := "0" },
      { poolId := "2", chainId := 97, settleAmountLend := "640826230030034427520" }]

theorem twoPools_paired : Paired twoPools := by
  constructor <;> decide +kernel

/-- The second pool comes with the data of the first. -/
theorem twoPools_not_own :
    Paired twoPools ∧
    (Search.listed { chainID := 97 } (plainServer true) 10 twoPools).map
        (fun pool => (pool.poolID, pool.pooldata.poolID, pool.pooldata.settleAmountLend)) =
      [(2, 1, "0"), (1, 1, "0")] ∧
    ¬ ∀ pool ∈ Search.listed { chainID := 97 } (plainServer true) 10 twoPools,
      pool.Own 97 twoPools := by
  refine ⟨twoPools_paired, by decide +kernel, ?_⟩
  unfold Pool.Own
  decide +kernel

theorem pages_listed_twoPools :
    let matching := Search.matching { chainID := 97 } (plainServer true) twoPools
    let listed := Search.listed { chainID := 97 } (plainServer true) 1 twoPools
    (∀ i, (search (plainServer true) (Search.onPage { chainID := 97 } (i + 1) 1) twoPools).1 =
        commonSuccess ∧
      (search (plainServer true) (Search.onPage { chainID := 97 } (i + 1) 1) twoPools).2.1 =
        matching.length) ∧
    (listed.map Pool.poolID).Pairwise (· > ·) ∧
    (∀ n, n ∈ listed.map Pool.poolID ↔ ∃ b ∈ matching, b.poolId = n) ∧
    (∀ pool ∈ listed, ∃ b ∈ matching, pool = newPool b pool.pooldata) ∧
    ((∀ pool ∈ listed, pool.Own 97 twoPools) ↔
      ∀ b ∈ matching, ∀ d, first chainOf 97 twoPools.pooldata = some d →
        d.poolId = toString b.poolId) :=
  pages_listed (by decide) ⟨Text.Sql.plain_nil, Text.Sql.plain_nil⟩ twoPools_paired Nat.one_pos

end Pledge.Api
