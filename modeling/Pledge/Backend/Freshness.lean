import Pledge.Backend.PoolSync
import Pledge.Backend.Records

/-!
# What is in the tables right after a pass

A base record that was read is in the rows right after the pass, always. The amounts are not: the MD5
that decides whether they are saved is that of the base record. So when the base record is the one
that was hashed with the last amounts, a pass overlooks new ones (`Pass.Overlooks`). For any sequence of
passes, the tables are fresh after each of them exactly when no pass overlooks anything
(`passes_fresh`).
-/

namespace Pledge.Backend

open Pledge.Contract Pledge.Store

/-! ## After one pass

The base record and the amounts of a pool are saved independently, each when the MD5 that is cached
for it differs from that of the base record. What was cached for the base record is in the rows
(`BaseKept`), and nothing of the kind holds for the amounts. -/

/-- Right after a pass from this database the rows have what it read. -/
structure Fresh (enc : Encoding) (chainId : Nat) (pass : Pass) (db : Database) : Prop where
  base : ∀ i info, pass.ReadsBase i info →
    (∃ row ∈ (updatePoolInfo enc chainId pass db).poolbases, row.key = (chainId, i + 1)) ∧
      ∀ row ∈ (updatePoolInfo enc chainId pass db).poolbases, row.key = (chainId, i + 1) →
        row.Carries enc info
  data : ∀ i info data, pass.ReadsBase i info → pass.ReadsData i data →
    (updatePoolInfo enc chainId pass db).HasData (chainId, toString (i + 1)) data

/-- In its round for the pool the pass finds the MD5 of the base record cached for the amounts, and the
rows do not have the amounts that it reads. -/
def Pass.Overlooks [TokenCollation] (enc : Encoding) (chainId : Nat) (pass : Pass) (db : Database)
    (i : Nat) : Prop :=
  ∃ record db₁ data, pass.openRound enc chainId (pass.before enc chainId db i) i = some (record, db₁) ∧
    pass.poolDataInfo i = some data ∧
    db.cache (.dataInfo chainId (i + 1)) = some (enc.md5 record) ∧
    ¬ db.HasData (chainId, toString (i + 1)) data

section Kept

variable {enc : Encoding} {pass : Pass} {chainId i : Nat} {db : Database}

theorem rounds_kept (hmd5 : Function.Injective enc.md5) {js : List Nat}
    (hok : i ∈ js → ∀ write, pass.writeFails i write = false) (h : BaseKept enc chainId i db) :
    BaseKept enc chainId i (js.foldl (updatePool enc pass chainId) db) := by
  induction js generalizing db with
  | nil => exact h
  | cons j js ih =>
      apply ih fun hi => hok (List.mem_cons_of_mem _ hi)
      apply updatePool_kept hmd5 _ h
      rintro rfl
      exact hok List.mem_cons_self

/-- **An event keeps what is cached in the rows.** -/
theorem BaseKept.event (hmd5 : Function.Injective enc.md5) {e : Event} (hok : e.WritesSucceed)
    (h : BaseKept enc chainId i db) : BaseKept enc chainId i (e.after enc chainId db) := by
  cases e with
  | pass pass =>
      show BaseKept enc chainId i (updatePoolInfo enc chainId pass db)
      rw [updatePoolInfo_eq]
      exact rounds_kept hmd5 (fun _ => hok i) h
  | expire dropped =>
      intro record hcached
      simp only [Event.after] at hcached
      split at hcached
      · cases hcached
      · have hhas := h record hcached
        exact ⟨hhas.stored, hhas.rows⟩
  | tokens tokenInfo tokenCache =>
      intro record hcached
      have hhas := h record hcached
      exact ⟨hhas.stored, hhas.rows⟩

/-- Through any events. -/
theorem BaseKept.events (hmd5 : Function.Injective enc.md5) {es : List Event}
    (hok : ∀ e ∈ es, e.WritesSucceed) (h : BaseKept enc chainId i db) :
    BaseKept enc chainId i (es.foldl (Event.after enc chainId) db) := by
  induction es generalizing db with
  | nil => exact h
  | cons e es ih =>
      rw [List.forall_mem_cons] at hok
      exact ih hok.2 (h.event hmd5 hok.1)

/-- After the pass the rows of a pool that was read have the record of its round. -/
theorem updatePoolInfo_has (hmd5 : Function.Injective enc.md5)
    (hok : ∀ write, pass.writeFails i write = false) (hi : i ∈ pass.indices)
    (h : BaseKept enc chainId i db) {record : PoolBase} {db₁ : Database}
    (hread : pass.readBase enc chainId (pass.before enc chainId db i) i = some (record, db₁)) :
    (updatePoolInfo enc chainId pass db).HasBase (chainId, i + 1) record :=
  (updatePool_has hmd5 hok (h.same (before_same i db)) hread).1.same (updatePoolInfo_same hi db)

/-- After the pass the rows have the amounts, unless it overlooks them. -/
theorem updatePoolInfo_data (hok : ∀ write, pass.writeFails i write = false) (hi : i ∈ pass.indices)
    {record : PoolBase} {db₁ : Database}
    (hopen : pass.openRound enc chainId (pass.before enc chainId db i) i = some (record, db₁))
    {data : DataInfo} (hdata : pass.poolDataInfo i = some data) :
    (updatePoolInfo enc chainId pass db).HasData (chainId, toString (i + 1)) data ↔
      ¬ pass.Overlooks enc chainId db i := by
  rw [Database.hasData_same (updatePoolInfo_same hi db), updatePool_data hok hopen hdata,
    (before_same i db).data, Database.hasData_same (before_same i db)]
  constructor
  · rintro hhas ⟨record', db', data', hopen', hdata', hcached, hnot⟩
    rw [hopen] at hopen'
    obtain ⟨rfl, rfl⟩ := Prod.mk.inj (Option.some.inj hopen')
    rw [hdata] at hdata'
    obtain rfl := Option.some.inj hdata'
    exact hnot (hhas hcached)
  · intro hnot hcached
    by_contra hmissing
    exact hnot ⟨record, db₁, data, hopen, hdata, hcached, hmissing⟩

/-- A base record that was answered is read. -/
theorem readBase_isSome (enc : Encoding) (chainId : Nat) {info : BaseInfo}
    (h : pass.poolBaseInfo i = some info) (db : Database) :
    ∃ record db₁, pass.readBase enc chainId db i = some (record, db₁) ∧ record.Carries enc info := by
  unfold Pass.readBase
  rw [h]
  exact ⟨_, _, rfl, newPoolBase_carries ..⟩

/-- **When the tables are fresh after a pass**: exactly when it overlooks no pool. -/
theorem fresh_iff (hmd5 : Function.Injective enc.md5)
    (hok : ∀ i write, pass.writeFails i write = false)
    (hkept : ∀ i, BaseKept enc chainId i db) :
    Fresh enc chainId pass db ↔ ∀ i ∈ pass.indices, ¬ pass.Overlooks enc chainId db i := by
  constructor
  · intro hfresh i hi hoverlooks
    have hagain := hoverlooks
    obtain ⟨record, db₁, data, hopen, hdata, -, -⟩ := hagain
    obtain ⟨info, hinfo⟩ : ∃ info, pass.poolBaseInfo i = some info := by
      unfold Pass.openRound at hopen
      cases hread : pass.readBase enc chainId (pass.before enc chainId db i) i with
      | none =>
          rw [hread] at hopen
          cases hopen
      | some opened =>
          obtain ⟨-, ⟨info, hinfo, -⟩, -⟩ := readBase_some hread
          exact ⟨info, hinfo⟩
    -- what was answered has to be in the rows, and it is not where the pass overlooks it
    have hhas := hfresh.data i info data ⟨hi, hinfo⟩ ⟨hi, hdata⟩
    exact (updatePoolInfo_data (hok i) hi hopen hdata).mp hhas hoverlooks
  · intro hnone
    refine ⟨?_, ?_⟩
    · rintro i info ⟨hi, hinfo⟩
      obtain ⟨record, db₁, hread, hcarries⟩ :=
        readBase_isSome enc chainId hinfo (pass.before enc chainId db i)
      -- the base record is always there
      have hhas := updatePoolInfo_has hmd5 (hok i) hi (hkept i) hread
      refine ⟨hhas.stored, ?_⟩
      intro row hrow hkey
      exact hcarries.of_has (hhas.rows row hrow hkey)
    · rintro i info data ⟨hi, hinfo⟩ ⟨-, hdata⟩
      obtain ⟨record, db₁, hread, -⟩ :=
        readBase_isSome enc chainId hinfo (pass.before enc chainId db i)
      have hopen : pass.openRound enc chainId (pass.before enc chainId db i) i =
          some (syncBase enc pass chainId i record db₁) := by
        unfold Pass.openRound
        rw [hread]
      exact (updatePoolInfo_data (hok i) hi hopen hdata).mpr (hnone i hi)

end Kept

/-- **When the tables are fresh after every pass.** For any sequence of passes whose writes succeed, with
any answers, where cached keys may expire and the tokens may change in between, starting after a flush
with any tables: they are fresh right after each pass exactly when no pass overlooks amounts. -/
theorem passes_fresh {enc : Encoding} (hmd5 : Function.Injective enc.md5) (chainId : Nat)
    {db : Database} (hflushed : ∀ key, db.cache key = none) {es : List Event}
    (hok : ∀ e ∈ es, e.WritesSucceed) :
    (∀ pre pass post, es = pre ++ .pass pass :: post →
        Fresh enc chainId pass (pre.foldl (Event.after enc chainId) db)) ↔
      ∀ pre pass post, es = pre ++ .pass pass :: post →
        ∀ i ∈ pass.indices,
          ¬ pass.Overlooks enc chainId (pre.foldl (Event.after enc chainId) db) i := by
  apply forall_congr'
  intro pre
  apply forall_congr'
  intro pass
  apply forall_congr'
  intro post
  apply forall_congr'
  rintro rfl
  rw [List.forall_mem_append, List.forall_mem_cons] at hok
  apply fresh_iff hmd5 hok.2.1
  intro i
  apply BaseKept.events hmd5 hok.1
  intro record hcached
  rw [hflushed] at hcached
  cases hcached

/-! Two pools in execution, whose settled amount changes while their base information stays. -/

def settledPools (amount : Nat) : World where
  store :=
    { poolCounter := 2
      pools := fun _ => { maxSupply := 1000, state := .execution, settleAmountLend := amount } }
  ledger := { balance := fun _ _ => 0, allowance := fun _ _ _ => 0 }
  transfers := []

def amountPass (amount : Nat) : Pass := Pass.calm (settledPools amount) (some 0) (some 0) noon noon

/-- The first pass caches the MD5 of a stamped record for the amounts and the second that of a plain one.
The third finds this again, and 700 is not saved. -/
theorem third_pass_overlooks :
    (amountPass 700).poolDataInfo 1 = some
        { settleAmountLend := 700, settleAmountBorrow := 0, finishAmountLend := 0
          finishAmountBorrow := 0, liquidationAmounLend := 0, liquidationAmounBorrow := 0 } ∧
      (updatePoolInfo jsonEncoding 97 (amountPass 700)
          (history jsonEncoding 97 [.pass (amountPass 500), .pass (amountPass 500)])).pooldata.map
            (fun row => (row.key, row.settleAmountLend)) = [((97, "2"), "500")] ∧
      ¬ Fresh jsonEncoding 97 (amountPass 700)
        (history jsonEncoding 97 [.pass (amountPass 500), .pass (amountPass 500)]) := by
  have hdata : (amountPass 700).poolDataInfo 1 = some
      { settleAmountLend := 700, settleAmountBorrow := 0, finishAmountLend := 0
        finishAmountBorrow := 0, liquidationAmounLend := 0, liquidationAmounBorrow := 0 } := by
    decide +kernel
  have htable : (updatePoolInfo jsonEncoding 97 (amountPass 700)
      (history jsonEncoding 97 [.pass (amountPass 500), .pass (amountPass 500)])).pooldata.map
        (fun row => (row.key, row.settleAmountLend)) = [((97, "2"), "500")] := by
    decide +kernel
  refine ⟨hdata, htable, ?_⟩
  intro hfresh
  obtain ⟨info, hinfo⟩ : ∃ info, (amountPass 700).poolBaseInfo 1 = some info :=
    Option.isSome_iff_exists.mp (by decide +kernel)
  have hindex : 1 ∈ (amountPass 700).indices := by decide +kernel
  obtain ⟨⟨row, hrow, hkey⟩, hrows⟩ := hfresh.data 1 info _ ⟨hindex, hinfo⟩ ⟨hindex, hdata⟩
  have hentry : (row.key, row.settleAmountLend) ∈ [((97, "2"), "500")] := by
    rw [← htable]
    exact List.mem_map_of_mem hrow
  have hamount := (hrows row hrow hkey).settleAmountLend
  rw [List.mem_singleton, Prod.mk.injEq, hamount] at hentry
  exact absurd hentry.2 (by decide)

theorem passes_fresh_twice :
    (∀ pre pass post, [Event.pass (amountPass 500), .pass (amountPass 500)] =
        pre ++ .pass pass :: post →
          Fresh jsonEncoding 97 pass (pre.foldl (Event.after jsonEncoding 97) {})) ↔
      ∀ pre pass post, [Event.pass (amountPass 500), .pass (amountPass 500)] =
        pre ++ .pass pass :: post → ∀ i ∈ pass.indices,
          ¬ pass.Overlooks jsonEncoding 97 (pre.foldl (Event.after jsonEncoding 97) {}) i := by
  apply passes_fresh jsonEncoding_injective 97 fun _ => rfl
  intro e he
  simp only [List.mem_cons, List.not_mem_nil, or_false, or_self] at he
  subst he
  exact fun _ _ => rfl

end Pledge.Backend
