import Pledge.Backend.Mirror
import Pledge.Text.Json

/-!
# Records as JSON

The two token structs of a pool record are stored as JSON, written by `schedule/models` and read by
`api/models`, which declare them on their own. A text that is not such an object leaves the fields of the
reader empty.
-/

namespace Pledge.Backend

open Pledge.Text

/-! ## Two sides of a record

The structs of the writer and of the reader have the same tags but are not the same types, so that
they agree is a theorem (`unmarshal_marshal`) and not a matter of their definition. -/

/-- `type LendToken struct`. -/
structure LendToken where
  lendFee : String := ""
  tokenLogo : String := ""
  tokenName : String := ""
  tokenPrice : String := ""
  deriving Repr, DecidableEq

/-- `type BorrowToken struct`. -/
structure BorrowToken where
  borrowFee : String := ""
  tokenLogo : String := ""
  tokenName : String := ""
  tokenPrice : String := ""
  deriving Repr, DecidableEq

/-- `json.Marshal`, by the tags of the writer. -/
def LendToken.marshal (t : LendToken) : String :=
  Json.write [("lendFee", t.lendFee), ("tokenLogo", t.tokenLogo), ("tokenName", t.tokenName),
    ("tokenPrice", t.tokenPrice)]

/-- The same for the borrow token. -/
def BorrowToken.marshal (t : BorrowToken) : String :=
  Json.write [("borrowFee", t.borrowFee), ("tokenLogo", t.tokenLogo), ("tokenName", t.tokenName),
    ("tokenPrice", t.tokenPrice)]

def LendToken.unmarshal (text : String) : LendToken :=
  match Json.read text with
  | none => {}
  | some fields =>
      { lendFee := Json.field fields "lendFee"
        tokenLogo := Json.field fields "tokenLogo"
        tokenName := Json.field fields "tokenName"
        tokenPrice := Json.field fields "tokenPrice" }

def BorrowToken.unmarshal (text : String) : BorrowToken :=
  match Json.read text with
  | none => {}
  | some fields =>
      { borrowFee := Json.field fields "borrowFee"
        tokenLogo := Json.field fields "tokenLogo"
        tokenName := Json.field fields "tokenName"
        tokenPrice := Json.field fields "tokenPrice" }

/-- `type LendTokenInfo struct` of the API. -/
structure LendTokenInfo where
  lendFee : String := ""
  tokenLogo : String := ""
  tokenName : String := ""
  tokenPrice : String := ""
  deriving Repr, DecidableEq

/-- `type BorrowTokenInfo struct` of the API. -/
structure BorrowTokenInfo where
  borrowFee : String := ""
  tokenLogo : String := ""
  tokenName : String := ""
  tokenPrice : String := ""
  deriving Repr, DecidableEq

/-- `json.Unmarshal`, by the tags of the reader. -/
def LendTokenInfo.unmarshal (text : String) : LendTokenInfo :=
  match Json.read text with
  | none => {}
  | some fields =>
      { lendFee := Json.field fields "lendFee"
        tokenLogo := Json.field fields "tokenLogo"
        tokenName := Json.field fields "tokenName"
        tokenPrice := Json.field fields "tokenPrice" }

/-- The same for the borrow token. -/
def BorrowTokenInfo.unmarshal (text : String) : BorrowTokenInfo :=
  match Json.read text with
  | none => {}
  | some fields =>
      { borrowFee := Json.field fields "borrowFee"
        tokenLogo := Json.field fields "tokenLogo"
        tokenName := Json.field fields "tokenName"
        tokenPrice := Json.field fields "tokenPrice" }

/-- **The reader finds every field of the writer.** -/
theorem LendTokenInfo.unmarshal_marshal (t : LendToken) :
    LendTokenInfo.unmarshal t.marshal =
      { lendFee := t.lendFee
        tokenLogo := t.tokenLogo
        tokenName := t.tokenName
        tokenPrice := t.tokenPrice } := by
  unfold LendTokenInfo.unmarshal LendToken.marshal
  rw [Json.read_write]
  rfl

/-- The same for the borrow token. -/
theorem BorrowTokenInfo.unmarshal_marshal (t : BorrowToken) :
    BorrowTokenInfo.unmarshal t.marshal =
      { borrowFee := t.borrowFee
        tokenLogo := t.tokenLogo
        tokenName := t.tokenName
        tokenPrice := t.tokenPrice } := by
  unfold BorrowTokenInfo.unmarshal BorrowToken.marshal
  rw [Json.read_write]
  rfl

/-! ## A digest without collisions

The sync jobs compare the MD5 of records and take equal digests for equal records. Where a result
assumes this, a digest is needed that bears it out: the fields one after the other, each with its
size in front, from which they can be told. -/

/-- A text with its size in front. -/
def sized (text : String) : String := toString text.utf8ByteSize ++ ":" ++ text

/-- All of the texts. -/
def digest (texts : List String) : String := texts.foldr (fun text rest => sized text ++ rest) ""

/-- What is in front of the first colon. -/
theorem append_colon_inj {cs ds rest rest' : List Char} (h : cs ++ ':' :: rest = ds ++ ':' :: rest')
    (hcs : ':' ∉ cs) (hds : ':' ∉ ds) : cs = ds ∧ rest = rest' := by
  induction cs generalizing ds with
  | nil =>
      cases ds with
      | nil => exact ⟨rfl, (List.cons.inj h).2⟩
      | cons d ds =>
          have hcolon : ':' = d := (List.cons.inj h).1
          exact absurd (hcolon ▸ List.mem_cons_self) hds
  | cons c cs ih =>
      cases ds with
      | nil =>
          have hcolon : c = ':' := (List.cons.inj h).1
          exact absurd (hcolon ▸ List.mem_cons_self) hcs
      | cons d ds =>
          obtain ⟨rfl, htail⟩ := List.cons.inj h
          obtain ⟨rfl, hrest⟩ := ih htail (List.not_mem_of_not_mem_cons hcs)
            (List.not_mem_of_not_mem_cons hds)
          exact ⟨rfl, hrest⟩

/-- A size tells where its text ends. -/
theorem sized_append_inj {text text' rest rest' : String}
    (h : sized text ++ rest = sized text' ++ rest') : text = text' ∧ rest = rest' := by
  have hdigits (n : Nat) : ':' ∉ Nat.toDigits 10 n := by
    intro hmem
    exact absurd (Nat.isDigit_of_mem_toDigits (by omega) (by omega) hmem) (by decide)
  have hchars (text rest : String) : (sized text ++ rest).toList =
      Nat.toDigits 10 text.utf8ByteSize ++ ':' :: (text ++ rest).toList := by
    unfold sized
    rw [← Nat.toList_repr]
    simp
  have hlist := congrArg String.toList h
  rw [hchars, hchars] at hlist
  obtain ⟨hsize, htail⟩ := append_colon_inj hlist (hdigits _) (hdigits _)
  have htext : text ++ rest = text' ++ rest' := String.toList_inj.mp htail
  -- the sizes are the same, so the bytes split in the same place
  have hbytes : text.toByteArray.size = text'.toByteArray.size := by
    rw [String.size_toByteArray, String.size_toByteArray, ← toString_inj]
    exact String.toList_inj.mp (by rw [Nat.toString_eq_repr, Nat.toString_eq_repr,
      Nat.toList_repr, Nat.toList_repr, hsize])
  have hboth := congrArg String.toByteArray htext
  rw [String.toByteArray_append, String.toByteArray_append] at hboth
  obtain rfl := String.toByteArray_inj.mp (ByteArray.append_inj_left hboth hbytes)
  exact ⟨rfl, (String.append_right_inj text).mp htext⟩

theorem digest_cons_ne (text : String) (texts : List String) : digest (text :: texts) ≠ "" := by
  intro h
  have hchars := congrArg String.toList h
  have hcons : (digest (text :: texts)).toList =
      (toString text.utf8ByteSize).toList ++ ':' :: (text ++ digest texts).toList := by
    show (sized text ++ digest texts).toList = _
    unfold sized
    simp
  rw [hcons] at hchars
  exact absurd hchars (by simp)

/-- **Digests tell their texts.** -/
theorem digest_injective : Function.Injective digest := by
  intro texts
  induction texts with
  | nil =>
      intro texts' h
      cases texts' with
      | nil => rfl
      | cons t ts => exact absurd h.symm (digest_cons_ne t ts)
  | cons t ts ih =>
      intro texts' h
      cases texts' with
      | nil => exact absurd h (digest_cons_ne t ts)
      | cons t' ts' =>
          obtain ⟨rfl, hrest⟩ := sized_append_inj h
          rw [ih hrest]

/-- The fields of a record. -/
def PoolBase.texts (row : PoolBase) : List String :=
  [toString row.poolId, toString row.chainId, row.settleTime, row.endTime, row.interestRate,
    row.maxSupply, row.lendSupply, row.borrowSupply, row.martgageRate, row.lendToken,
    row.lendTokenInfo, row.borrowToken, row.borrowTokenInfo, row.state, row.spCoin, row.jpCoin,
    row.lendTokenSymbol, row.borrowTokenSymbol, row.autoLiquidateThreshold, row.createdAt,
    row.updatedAt]

theorem PoolBase.texts_injective : Function.Injective PoolBase.texts := by
  intro row row' h
  simp only [PoolBase.texts, List.cons.injEq, and_true, toString_inj] at h
  cases row
  cases row'
  simp only [PoolBase.mk.injEq]
  exact h

/-- JSON for the tokens, and for the MD5, which is taken to have no collisions, a digest
that has none. -/
def jsonEncoding : Encoding where
  hex := plainEncoding.hex
  lendTokenJson lendFee tokenLogo tokenName tokenPrice :=
    LendToken.marshal
      { lendFee := lendFee, tokenLogo := tokenLogo, tokenName := tokenName, tokenPrice := tokenPrice }
  borrowTokenJson borrowFee tokenLogo tokenName tokenPrice :=
    BorrowToken.marshal
      { borrowFee := borrowFee
        tokenLogo := tokenLogo
        tokenName := tokenName
        tokenPrice := tokenPrice }
  md5 row := digest row.texts
  hex_ne := plainEncoding.hex_ne

theorem jsonEncoding_injective : Function.Injective jsonEncoding.md5 := by
  intro row row' h
  exact PoolBase.texts_injective (digest_injective h)

end Pledge.Backend
