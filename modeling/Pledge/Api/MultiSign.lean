import Pledge.Api.Search
import Pledge.Evm.Run

/-!
# The record of the multi-signature

`POST /pool/setMultiSign` deletes the row of a chain and creates another. These are two statements and no
transaction, so the statements of requests that run at the same time fall between each other, and a
create that fails leaves the chain without a record. `POST /pool/getMultiSign` reads the first row.

What the table has for a chain are the rows that were created since the last delete (`Tracked`). The
requests are atomic for a chain exactly when this is one row, or nothing was deleted, or there was
nothing to lose (`setMultiSign_atomic_iff`).
-/

namespace Pledge.Api

open Pledge.Evm Pledge.Store Pledge.Text

/-! ## Requests

`Set` takes the request apart into a row, with the accounts as one text of JSON, and `Get` puts it
together again. Where both statements do their work and no other comes between, the answer is the
request (`response_record`). -/

/-- `type SetMultiSign struct` of the requests. -/
structure SetMultiSign where
  spName : String
  chainId : Int
  spToken : String := ""
  jpName : String := ""
  jpToken : String := ""
  spAddress : String := ""
  jpAddress : String := ""
  spHash : String := ""
  jpHash : String := ""
  multiSignAccount : Option (List String) := none
  deriving Repr, DecidableEq

/-- `type MultiSign struct` of the models. Its number is its place in the table. -/
structure MultiSign where
  spName : String := ""
  chainId : Int := 0
  spToken : String := ""
  jpName : String := ""
  jpToken : String := ""
  spAddress : String := ""
  jpAddress : String := ""
  spHash : String := ""
  jpHash : String := ""
  multiSignAccount : String := ""
  deriving Repr, DecidableEq

/-- `type MultiSign struct` of the responses. -/
structure Response.MultiSign where
  spName : String
  spToken : String
  jpName : String
  jpToken : String
  spAddress : String
  jpAddress : String
  spHash : String
  jpHash : String
  multiSignAccount : Option (List String)
  deriving Repr, DecidableEq

/-- `PNameEmpty`. -/
def pNameEmpty : Nat := 1201

/-- A `varchar(255)` of the character set `utf8`, which has no characters of four bytes. -/
def varchar255 (text : String) : Bool :=
  decide (text.toList.length ≤ 255) && text.toList.all fun c => decide (c.toNat < 0x10000)

/-- The database takes the row. -/
def MultiSign.fits (row : MultiSign) : Bool :=
  [row.spName, row.spToken, row.jpName, row.jpToken, row.spAddress, row.jpAddress, row.spHash,
    row.jpHash, row.multiSignAccount].all varchar255

namespace SetMultiSign

variable (req : SetMultiSign)

/-- `validate.SetMultiSign`, for a body that is a JSON object. -/
def validate : Nat :=
  if req.chainId ≠ 97 ∧ req.chainId ≠ 56 then chainIdErr
  else if req.spName = "" then pNameEmpty
  else commonSuccess

/-- The row that `Set` creates. -/
def record : MultiSign where
  chainId := req.chainId
  spName := req.spName
  spToken := req.spToken
  jpName := req.jpName
  jpToken := req.jpToken
  spAddress := req.spAddress
  jpAddress := req.jpAddress
  spHash := req.spHash
  jpHash := req.jpHash
  multiSignAccount := Json.writeArray req.multiSignAccount

/-- The fields of the request, as they are to be read back. -/
def fields : Response.MultiSign where
  spName := req.spName
  spToken := req.spToken
  jpName := req.jpName
  jpToken := req.jpToken
  spAddress := req.spAddress
  jpAddress := req.jpAddress
  spHash := req.spHash
  jpHash := req.jpHash
  multiSignAccount := req.multiSignAccount

end SetMultiSign

section Get

variable (otherwise : String → Option (List String))

/-- `json.Unmarshal([]byte(multiSignModel.MultiSignAccount), &multiSignAccount)`, and what it leaves of
a text that is no list of strings. -/
def unmarshalAccounts (text : String) : Option (List String) :=
  match Json.readArray text with
  | some accounts => accounts
  | none => otherwise text

/-- What `GetMultiSign` of the service fills in. -/
def MultiSign.response (multiSignModel : MultiSign) : Response.MultiSign where
  spName := multiSignModel.spName
  spToken := multiSignModel.spToken
  jpName := multiSignModel.jpName
  jpToken := multiSignModel.jpToken
  spAddress := multiSignModel.spAddress
  jpAddress := multiSignModel.jpAddress
  spHash := multiSignModel.spHash
  jpHash := multiSignModel.jpHash
  multiSignAccount := unmarshalAccounts otherwise multiSignModel.multiSignAccount

/-- `GetMultiSign`. Without a row the model stays empty, and that is no error. -/
def getMultiSign (chainId : Int) (rows : List MultiSign) : Response.MultiSign :=
  ((first MultiSign.chainId chainId rows).getD {}).response otherwise

/-- **A record is read back.** -/
theorem response_record (req : SetMultiSign) : req.record.response otherwise = req.fields := by
  unfold MultiSign.response SetMultiSign.record unmarshalAccounts
  simp only [Json.readArray_write]
  rfl

end Get

/-- The rows of a chain. -/
def ofChain (chainId : Int) (rows : List MultiSign) : List MultiSign :=
  rows.filter fun row => decide (row.chainId = chainId)

@[simp] theorem ofChain_append (chainId : Int) (rows rows' : List MultiSign) :
    ofChain chainId (rows ++ rows') = ofChain chainId rows ++ ofChain chainId rows' :=
  List.filter_append ..

/-- What a delete leaves of a chain. -/
theorem ofChain_delete (chainId deleted : Int) (rows : List MultiSign) :
    ofChain chainId (rows.filter fun row => decide (row.chainId ≠ deleted)) =
      if deleted = chainId then [] else ofChain chainId rows := by
  unfold ofChain
  rw [List.filter_filter]
  split
  · next h =>
      subst h
      rw [List.filter_eq_nil_iff]
      intro row _
      simp
  · next h =>
      apply List.filter_congr
      intro row _
      by_cases hrow : row.chainId = chainId
      · simp [hrow, Ne.symm h]
      · simp [hrow]

/-- What a create adds to a chain. -/
theorem ofChain_record (chainId : Int) (req : SetMultiSign) :
    ofChain chainId [req.record] = if req.chainId = chainId then [req.record] else [] := by
  by_cases h : req.chainId = chainId <;> simp [ofChain, SetMultiSign.record, h]

/-- The answer is about the rows of the chain alone. -/
theorem getMultiSign_ofChain (otherwise : String → Option (List String)) (chainId : Int)
    (rows : List MultiSign) : getMultiSign otherwise chainId (ofChain chainId rows) =
      getMultiSign otherwise chainId rows := by
  unfold getMultiSign first ofChain
  rw [List.find?_filter]
  simp

/-! ## Statements

A request is validated, then deletes the rows of its chain, then creates its row; after each of the
two statements another request may have its turn. The database may refuse either of them, and
refuses the create by itself when a text does not fit its column. -/

/-- Where a request is. -/
inductive SignPhase where
  /-- The row has been deleted, and the create comes next. -/
  | deleted (req : SetMultiSign)
  | answered (req : SetMultiSign) (code : Nat)
  deriving Repr, DecidableEq

/-- The table, and the requests by a number. -/
structure Signing where
  multiSign : List MultiSign
  phases : Nat → Option SignPhase := fun _ => none

/-- The statements of the requests. Any of them may fail. -/
inductive SignEvent where
  /-- The request does not pass its validation. -/
  | refuse (pid : Nat) (req : SetMultiSign)
  | delete (pid : Nat) (req : SetMultiSign) (fails : Bool)
  | create (pid : Nat) (req : SetMultiSign) (fails : Bool)
  deriving Repr, DecidableEq

namespace Signing

variable (s : Signing)

def go (pid : Nat) (phase : SignPhase) (multiSign : List MultiSign) : Signing where
  multiSign := multiSign
  phases := Function.update s.phases pid (some phase)

def next : SignEvent → Option Signing
  | .refuse pid req =>
      if s.phases pid = none ∧ req.validate ≠ commonSuccess then
        some (s.go pid (.answered req req.validate) s.multiSign)
      else none
  | .delete pid req fails =>
      if s.phases pid = none ∧ req.validate = commonSuccess then
        if fails = true then some (s.go pid (.answered req commonErrServerErr) s.multiSign)
        else some (s.go pid (.deleted req)
          (s.multiSign.filter fun row => decide (row.chainId ≠ req.chainId)))
      else none
  | .create pid req fails =>
      if s.phases pid = some (.deleted req) then
        if fails = true ∨ req.record.fits = false then
          some (s.go pid (.answered req commonErrServerErr) s.multiSign)
        else some (s.go pid (.answered req commonSuccess) (s.multiSign ++ [req.record]))
      else none

/-- All requests are done. -/
def Done : Prop := ∀ pid req, s.phases pid ≠ some (.deleted req)

/-- The request was for this chain and has succeeded. -/
def Succeeded (chainId : Int) (req : SetMultiSign) : Prop :=
  req.chainId = chainId ∧ ∃ pid, s.phases pid = some (.answered req commonSuccess)

end Signing

/-- A statement that is possible. -/
def SignStep (s : Signing) (e : SignEvent) (s' : Signing) : Prop := s.next e = some s'

namespace SignStep

variable {s s' : Signing} {e : SignEvent} {pid : Nat} {req : SetMultiSign} {fails : Bool}

theorem of_next (h : s.next e = some s') : SignStep s e s' := h

theorem refuse (h : SignStep s (.refuse pid req) s') :
    s.phases pid = none ∧ req.validate ≠ commonSuccess ∧
      s' = s.go pid (.answered req req.validate) s.multiSign := by
  simp only [SignStep, Signing.next] at h
  split at h
  · next hguard => exact ⟨hguard.1, hguard.2, (Option.some.inj h).symm⟩
  · cases h

theorem delete (h : SignStep s (.delete pid req fails) s') :
    s.phases pid = none ∧ req.validate = commonSuccess ∧
      ((fails = true ∧ s' = s.go pid (.answered req commonErrServerErr) s.multiSign) ∨
        (fails = false ∧ s' = s.go pid (.deleted req)
          (s.multiSign.filter fun row => decide (row.chainId ≠ req.chainId)))) := by
  simp only [SignStep, Signing.next] at h
  split at h
  · next hguard =>
      refine ⟨hguard.1, hguard.2, ?_⟩
      split at h
      · next hfails => exact .inl ⟨hfails, (Option.some.inj h).symm⟩
      · next hfails => exact .inr ⟨by simpa using hfails, (Option.some.inj h).symm⟩
  · cases h

theorem create (h : SignStep s (.create pid req fails) s') :
    s.phases pid = some (.deleted req) ∧
      (((fails = true ∨ req.record.fits = false) ∧
          s' = s.go pid (.answered req commonErrServerErr) s.multiSign) ∨
        (¬ (fails = true ∨ req.record.fits = false) ∧
          s' = s.go pid (.answered req commonSuccess) (s.multiSign ++ [req.record]))) := by
  simp only [SignStep, Signing.next] at h
  split at h
  · next hphase =>
      refine ⟨hphase, ?_⟩
      split at h
      · next hfails => exact .inl ⟨hfails, (Option.some.inj h).symm⟩
      · next hfails => exact .inr ⟨hfails, (Option.some.inj h).symm⟩
  · cases h

end SignStep

@[simp] theorem Signing.go_multiSign (s : Signing) (pid : Nat) (phase : SignPhase)
    (multiSign : List MultiSign) : (s.go pid phase multiSign).multiSign = multiSign := rfl

@[simp] theorem Signing.go_phases (s : Signing) (pid p : Nat) (phase : SignPhase)
    (multiSign : List MultiSign) :
    (s.go pid phase multiSign).phases p = if p = pid then some phase else s.phases p :=
  Function.update_apply ..

/-! ## The rows since the last delete

What the table has for a chain depends on the history only through the creates since the last delete
of this chain: a delete leaves none of its rows, and a create adds one behind the others. A create
is always behind a delete of its own request, so that once a row was created there is a last delete.
`Tracked` says this of a state and the statements before it. -/

/-- The request of this chain whose row the statement creates. -/
def SignEvent.created (chainId : Int) : SignEvent → Option SetMultiSign
  | .create _ req fails =>
      if ¬ (fails = true ∨ req.record.fits = false) ∧ req.chainId = chainId then some req else none
  | .refuse .. => none
  | .delete .. => none

/-- What one statement does to the requests whose rows the chain has. -/
def sinceStep (chainId : Int) (reqs : Option (List SetMultiSign)) (e : SignEvent) :
    Option (List SetMultiSign) :=
  match e with
  | .delete _ req fails => if fails = false ∧ req.chainId = chainId then some [] else reqs
  | .create .. => reqs.map fun reqs => reqs ++ (e.created chainId).toList
  | .refuse .. => reqs

/-- The requests whose rows were created since the rows of the chain were last deleted, if they were. -/
def since (chainId : Int) (es : List SignEvent) : Option (List SetMultiSign) :=
  es.foldl (sinceStep chainId) none

/-- All requests whose rows were created for the chain. -/
def createdIn (chainId : Int) (es : List SignEvent) : List SetMultiSign :=
  es.filterMap (SignEvent.created chainId)

/-- One more statement. -/
@[simp] theorem since_snoc (chainId : Int) (es : List SignEvent) (e : SignEvent) :
    since chainId (es ++ [e]) = sinceStep chainId (since chainId es) e := by
  simp [since, List.foldl_append]

@[simp] theorem createdIn_snoc (chainId : Int) (es : List SignEvent) (e : SignEvent) :
    createdIn chainId (es ++ [e]) = createdIn chainId es ++ (e.created chainId).toList := by
  unfold createdIn
  rw [List.filterMap_append]
  cases he : e.created chainId <;> simp [he]

/-- The rows that the chain has then. -/
def rowsSince (chainId : Int) (rows : List MultiSign) : Option (List SetMultiSign) → List MultiSign
  | none => ofChain chainId rows
  | some reqs => reqs.map SetMultiSign.record

/-- What the statements so far tell about a chain, in every state. -/
structure Tracked (chainId : Int) (rows : List MultiSign) (es : List SignEvent) (s : Signing) :
    Prop where
  rows : ofChain chainId s.multiSign = rowsSince chainId rows (since chainId es)
  begun : ∀ pid req, s.phases pid = some (.deleted req) →
    req.spName ≠ "" ∧ (req.chainId = chainId → since chainId es ≠ none)
  succeeded : ∀ req, s.Succeeded chainId req ↔ req ∈ createdIn chainId es
  named : ∀ req ∈ createdIn chainId es, req.spName ≠ "" ∧ since chainId es ≠ none
  latest : ∀ reqs, since chainId es = some reqs → ∀ req ∈ reqs, req ∈ createdIn chainId es

section Tracked

variable {chainId : Int} {rows : List MultiSign} {es : List SignEvent} {s s' : Signing}

/-- Who has succeeded when a request goes on that was not answered. -/
theorem Signing.succeeded_go {pid : Nat} {phase : SignPhase} {multiSign : List MultiSign}
    {req : SetMultiSign} (hpid : ∀ old, s.phases pid ≠ some (.answered old commonSuccess)) :
    (s.go pid phase multiSign).Succeeded chainId req ↔
      s.Succeeded chainId req ∨ req.chainId = chainId ∧ phase = .answered req commonSuccess := by
  unfold Signing.Succeeded
  constructor
  · rintro ⟨hchain, p, hp⟩
    rw [Signing.go_phases] at hp
    split at hp
    · exact .inr ⟨hchain, Option.some.inj hp⟩
    · exact .inl ⟨hchain, p, hp⟩
  · rintro (⟨hchain, p, hp⟩ | ⟨hchain, rfl⟩)
    · refine ⟨hchain, p, ?_⟩
      have hne : p ≠ pid := by
        rintro rfl
        exact hpid req hp
      rw [Signing.go_phases, if_neg hne, hp]
    · exact ⟨hchain, pid, by simp⟩

/-- The validation asks for the name of the pool. -/
theorem SetMultiSign.spName_ne {req : SetMultiSign} (h : req.validate = commonSuccess) :
    req.spName ≠ "" := by
  unfold SetMultiSign.validate at h
  split at h
  · exact absurd h (by decide)
  · split at h
    · exact absurd h (by decide)
    · assumption

/-- Before any statement. -/
theorem Tracked.start (chainId : Int) (rows : List MultiSign) :
    Tracked chainId rows [] { multiSign := rows } where
  rows := rfl
  begun := by
    intro pid req hphase
    cases hphase
  succeeded := by
    intro req
    constructor
    · rintro ⟨-, pid, hphase⟩
      cases hphase
    · intro hmem
      cases hmem
  named := by
    intro req hmem
    cases hmem
  latest := by
    intro reqs hsince
    cases hsince

/-- A request that is answered with an error, and nothing else. -/
theorem Tracked.answer (h : Tracked chainId rows es s) {pid code : Nat} {e : SignEvent}
    {req : SetMultiSign} (hpid : ∀ old, s.phases pid ≠ some (.answered old commonSuccess))
    (hcode : code ≠ commonSuccess) (hcreated : e.created chainId = none)
    (hsince : sinceStep chainId (since chainId es) e = since chainId es) :
    Tracked chainId rows (es ++ [e]) (s.go pid (.answered req code) s.multiSign) where
  rows := by
    rw [since_snoc, hsince]
    exact h.rows
  begun := by
    intro p r hphase
    rw [since_snoc, hsince]
    rw [Signing.go_phases] at hphase
    split at hphase
    · cases hphase
    · exact h.begun p r hphase
  succeeded := by
    intro r
    rw [Signing.succeeded_go hpid, createdIn_snoc, hcreated, h.succeeded]
    simp [hcode]
  named := by
    intro r hmem
    rw [since_snoc, hsince]
    rw [createdIn_snoc, hcreated] at hmem
    exact h.named r (by simpa using hmem)
  latest := by
    intro reqs hreqs r hr
    rw [since_snoc, hsince] at hreqs
    rw [createdIn_snoc, hcreated]
    simpa using h.latest reqs hreqs r hr

/-- The rows of a chain are deleted. -/
theorem Tracked.clear (h : Tracked chainId rows es s) {pid : Nat} {req : SetMultiSign}
    (hnone : s.phases pid = none) (hvalid : req.validate = commonSuccess) :
    Tracked chainId rows (es ++ [.delete pid req false]) (s.go pid (.deleted req)
      (s.multiSign.filter fun row => decide (row.chainId ≠ req.chainId))) := by
  have hsince : since chainId (es ++ [.delete pid req false]) =
      if req.chainId = chainId then some [] else since chainId es := by
    simp [sinceStep]
  have hcreated : createdIn chainId (es ++ [.delete pid req false]) = createdIn chainId es := by
    simp [SignEvent.created]
  exact
    { rows := by
        rw [hsince, Signing.go_multiSign, ofChain_delete]
        split
        · rfl
        · exact h.rows
      begun := by
        intro p r hphase
        rw [hsince]
        rw [Signing.go_phases] at hphase
        split at hphase
        · obtain rfl : req = r := by simpa using hphase
          -- it is this request that has begun
          refine ⟨SetMultiSign.spName_ne hvalid, fun hchain => ?_⟩
          rw [if_pos hchain]
          exact Option.some_ne_none []
        · refine ⟨(h.begun p r hphase).1, fun hchain => ?_⟩
          split
          · exact Option.some_ne_none []
          · exact (h.begun p r hphase).2 hchain
      succeeded := by
        intro r
        rw [Signing.succeeded_go (by simp [hnone]), hcreated, h.succeeded]
        simp
      named := by
        rw [hcreated, hsince]
        intro r hmem
        refine ⟨(h.named r hmem).1, ?_⟩
        split
        · exact Option.some_ne_none []
        · exact (h.named r hmem).2
      latest := by
        rw [hcreated, hsince]
        intro reqs hreqs r hr
        split at hreqs
        · obtain rfl := Option.some.inj hreqs
          cases hr
        · exact h.latest reqs hreqs r hr }

/-- A row of the chain is created. The request has deleted the rows before, so there is a last delete. -/
theorem Tracked.insert (h : Tracked chainId rows es s) {pid : Nat} {req : SetMultiSign} {fails : Bool}
    (hphase : s.phases pid = some (.deleted req)) (hchain : req.chainId = chainId)
    (hcreated : ¬ (fails = true ∨ req.record.fits = false)) :
    Tracked chainId rows (es ++ [.create pid req fails])
      (s.go pid (.answered req commonSuccess) (s.multiSign ++ [req.record])) := by
  obtain ⟨hname, hbegun⟩ := h.begun pid req hphase
  -- the request has deleted the rows of its chain, so there is a last delete
  obtain ⟨reqs, hreqs⟩ := Option.ne_none_iff_exists'.mp (hbegun hchain)
  have hnew : (SignEvent.create pid req fails).created chainId = some req :=
    if_pos ⟨hcreated, hchain⟩
  have hsince : since chainId (es ++ [.create pid req fails]) = some (reqs ++ [req]) := by
    rw [since_snoc, hreqs]
    simp [sinceStep, hnew]
  exact
    { rows := by
        rw [hsince, Signing.go_multiSign, ofChain_append, h.rows, hreqs, ofChain_record, if_pos hchain]
        simp [rowsSince]
      begun := by
        intro p r hp
        rw [hsince]
        rw [Signing.go_phases] at hp
        split at hp
        · cases hp
        · exact ⟨(h.begun p r hp).1, fun _ => Option.some_ne_none _⟩
      succeeded := by
        intro r
        rw [Signing.succeeded_go (by simp [hphase]), createdIn_snoc, hnew, h.succeeded]
        simp only [Option.toList_some, List.mem_append, List.mem_singleton, SignPhase.answered.injEq,
          and_true]
        constructor
        · rintro (hr | ⟨-, rfl⟩)
          · exact .inl hr
          · exact .inr rfl
        · rintro (hr | rfl)
          · exact .inl hr
          · exact .inr ⟨hchain, rfl⟩
      named := by
        intro r hmem
        rw [hsince]
        refine ⟨?_, Option.some_ne_none _⟩
        rw [createdIn_snoc, hnew] at hmem
        rcases List.mem_append.mp hmem with hr | hr
        · exact (h.named r hr).1
        · obtain rfl : r = req := by simpa using hr
          exact hname
      latest := by
        intro reqs' hreqs' r hr
        rw [hsince] at hreqs'
        obtain rfl := Option.some.inj hreqs'
        rw [createdIn_snoc, hnew]
        rcases List.mem_append.mp hr with hr | hr
        · exact List.mem_append_left _ (h.latest reqs hreqs r hr)
        · exact List.mem_append_right _ hr }

/-- A row of another chain is created. -/
theorem Tracked.insert_other (h : Tracked chainId rows es s) {pid : Nat} {req : SetMultiSign}
    {fails : Bool} (hphase : s.phases pid = some (.deleted req)) (hchain : req.chainId ≠ chainId) :
    Tracked chainId rows (es ++ [.create pid req fails])
      (s.go pid (.answered req commonSuccess) (s.multiSign ++ [req.record])) := by
  have hnew : (SignEvent.create pid req fails).created chainId = none :=
    if_neg fun hboth => hchain hboth.2
  have hsince : since chainId (es ++ [.create pid req fails]) = since chainId es := by
    rw [since_snoc]
    simp [sinceStep, hnew]
  have hmade : createdIn chainId (es ++ [.create pid req fails]) = createdIn chainId es := by
    rw [createdIn_snoc, hnew]
    simp
  exact
    { rows := by
        rw [hsince, Signing.go_multiSign, ofChain_append, ofChain_record, if_neg hchain,
          List.append_nil]
        exact h.rows
      begun := by
        intro p r hp
        rw [hsince]
        rw [Signing.go_phases] at hp
        split at hp
        · cases hp
        · exact h.begun p r hp
      succeeded := by
        intro r
        rw [Signing.succeeded_go (by simp [hphase]), hmade, h.succeeded]
        simp only [SignPhase.answered.injEq, and_true, or_iff_left_iff_imp]
        rintro ⟨hr, rfl⟩
        exact absurd hr hchain
      named := by
        rw [hmade, hsince]
        exact h.named
      latest := by
        rw [hmade, hsince]
        exact h.latest }

/-- **What a statement does to a chain.** -/
theorem Tracked.step {e : SignEvent} (h : Tracked chainId rows es s) (hstep : SignStep s e s') :
    Tracked chainId rows (es ++ [e]) s' := by
  cases e with
  | refuse pid req =>
      obtain ⟨hnone, hvalid, rfl⟩ := hstep.refuse
      exact h.answer (by simp [hnone]) hvalid rfl rfl
  | delete pid req fails =>
      obtain ⟨hnone, hvalid, ⟨rfl, rfl⟩ | ⟨rfl, rfl⟩⟩ := hstep.delete
      · exact h.answer (by simp [hnone]) (by decide) rfl (by simp [sinceStep])
      · exact h.clear hnone hvalid
  | create pid req fails =>
      obtain ⟨hphase, ⟨hfails, rfl⟩ | ⟨hcreated, rfl⟩⟩ := hstep.create
      · have hnew : (SignEvent.create pid req fails).created chainId = none :=
          if_neg fun hboth => hboth.1 hfails
        exact h.answer (by simp [hphase]) (by decide) hnew (by simp [sinceStep, hnew])
      · by_cases hchain : req.chainId = chainId
        · exact h.insert hphase hchain hcreated
        · exact h.insert_other hphase hchain

/-- **In every run**, by what each statement does. -/
theorem tracked {rows : List MultiSign} (chainId : Int)
    (hrun : Run SignStep { multiSign := rows } es s) : Tracked chainId rows es s :=
  hrun.invariant (Tracked.start chainId rows) Tracked.step

end Tracked

/-! ## Atomic

With the rows told by the history, being atomic is a matter of counting the creates since the last
delete. Two of them leave two rows. None leaves none, and then the answer is that of an empty table:
wrong when some request had succeeded, and wrong when there was something to read before. -/

/-- What setting the record is meant to be for a chain: there is one row at most, it reads back as a
request that succeeded, and when none did, as what was there before. -/
structure Signing.Atomic (otherwise : String → Option (List String)) (chainId : Int)
    (rows : List MultiSign) (s : Signing) : Prop where
  unique : (ofChain chainId s.multiSign).length ≤ 1
  reads : (∃ req, s.Succeeded chainId req) → ∃ req, s.Succeeded chainId req ∧
    getMultiSign otherwise chainId s.multiSign = req.fields
  keeps : (∀ req, ¬ s.Succeeded chainId req) →
    getMultiSign otherwise chainId s.multiSign = getMultiSign otherwise chainId rows

/-- When it is: no delete of the chain took effect and there was one row at most, or one create took
effect after the last delete, or no create ever did and there was nothing to read before. -/
def OneCreate (otherwise : String → Option (List String)) (chainId : Int) (rows : List MultiSign)
    (es : List SignEvent) : Prop :=
  (since chainId es = none ∧ (ofChain chainId rows).length ≤ 1) ∨
    (∃ req, since chainId es = some [req]) ∨
    (since chainId es = some [] ∧ createdIn chainId es = [] ∧
      getMultiSign otherwise chainId rows = getMultiSign otherwise chainId [])

section Atomic

variable {otherwise : String → Option (List String)} {chainId : Int} {rows : List MultiSign}
  {es : List SignEvent} {s : Signing}

/-- The answer while the rows are those of some requests. -/
theorem Tracked.getMultiSign_eq (h : Tracked chainId rows es s)
    (otherwise : String → Option (List String)) :
    getMultiSign otherwise chainId s.multiSign =
      getMultiSign otherwise chainId (rowsSince chainId rows (since chainId es)) := by
  rw [← h.rows, getMultiSign_ofChain]

/-- One created row is read back. -/
theorem getMultiSign_record {req : SetMultiSign} (hchain : req.chainId = chainId) :
    getMultiSign otherwise chainId [req.record] = req.fields := by
  have hfirst : first MultiSign.chainId chainId [req.record] = some req.record := by
    simp [first, SetMultiSign.record, hchain]
  unfold getMultiSign
  rw [hfirst]
  exact response_record otherwise req

/-- Each of the three kinds of history leaves what it should. -/
theorem Tracked.atomic (h : Tracked chainId rows es s) (hone : OneCreate otherwise chainId rows es) :
    s.Atomic otherwise chainId rows := by
  have hread := h.getMultiSign_eq otherwise
  rcases hone with ⟨hsince, hlength⟩ | ⟨req, hsince⟩ | ⟨hsince, hcreated, hblank⟩
  · have hnone : ∀ req, ¬ s.Succeeded chainId req := by
      intro req hreq
      exact (h.named req ((h.succeeded req).mp hreq)).2 hsince
    rw [hsince, rowsSince, getMultiSign_ofChain] at hread
    exact
      { unique := by rw [h.rows, hsince]; exact hlength
        reads := fun ⟨req, hreq⟩ => absurd hreq (hnone req)
        keeps := fun _ => hread }
  · have hreq : s.Succeeded chainId req :=
      (h.succeeded req).mpr (h.latest _ hsince req (List.mem_singleton_self req))
    rw [hsince] at hread
    exact
      { unique := by rw [h.rows, hsince]; exact Nat.le_refl _
        reads := fun _ => ⟨req, hreq, hread.trans (getMultiSign_record hreq.1)⟩
        keeps := fun hall => absurd hreq (hall req) }
  · rw [hsince] at hread
    exact
      { unique := by rw [h.rows, hsince]; exact Nat.zero_le _
        reads := by
          rintro ⟨req, hreq⟩
          have hmem := (h.succeeded req).mp hreq
          rw [hcreated] at hmem
          cases hmem
        keeps := fun _ => hread.trans hblank.symm }

/-- And no other does. -/
theorem Tracked.oneCreate (h : Tracked chainId rows es s) (hatomic : s.Atomic otherwise chainId rows) :
    OneCreate otherwise chainId rows es := by
  have hread := h.getMultiSign_eq otherwise
  have hunique := hatomic.unique
  rw [h.rows] at hunique
  cases hsince : since chainId es with
  | none =>
      rw [hsince] at hunique
      exact .inl ⟨hsince, hunique⟩
  | some reqs =>
      rw [hsince] at hunique hread
      cases reqs with
      | nil =>
          have hnone : ∀ req, ¬ s.Succeeded chainId req := by
            intro req hreq
            -- what is read has no name, and every request that succeeds has one
            obtain ⟨req', hreq', hfields⟩ := hatomic.reads ⟨req, hreq⟩
            have hname := (h.named req' ((h.succeeded req').mp hreq')).1
            rw [hread] at hfields
            exact hname (congrArg Response.MultiSign.spName hfields).symm
          refine .inr (.inr ⟨hsince, ?_, (hatomic.keeps hnone).symm.trans hread⟩)
          rw [List.eq_nil_iff_forall_not_mem]
          intro req hmem
          exact hnone req ((h.succeeded req).mpr hmem)
      | cons req reqs =>
          cases reqs with
          | nil => exact .inr (.inl ⟨req, hsince⟩)
          | cons req' reqs =>
              rw [rowsSince, List.length_map, List.length_cons, List.length_cons] at hunique
              omega

end Atomic

/-! ## One after the other

Two kinds of runs in which it is atomic: a request that nothing comes between, whatever was before
it, and requests of which each is done before the next begins. Both need rows that fit. -/

/-- The statements of a request, with nothing between them and no error. -/
def SetMultiSign.statements (req : SetMultiSign) (pid : Nat) : List SignEvent :=
  [.delete pid req false, .create pid req false]

theorem since_statements {req : SetMultiSign} (hfits : req.record.fits = true) (pid : Nat)
    (chainId : Int) (es : List SignEvent) : since chainId (es ++ req.statements pid) =
      if req.chainId = chainId then some [req] else since chainId es := by
  show since chainId (es ++ ([.delete pid req false] ++ [.create pid req false])) = _
  rw [← List.append_assoc, since_snoc, since_snoc]
  by_cases hchain : req.chainId = chainId <;>
    simp [sinceStep, SignEvent.created, hfits, hchain]

section Serial

variable {otherwise : String → Option (List String)} {rows : List MultiSign} {s : Signing}

/-- **A request with nothing between its statements is read back**, whatever ran before. -/
theorem set_alone {es : List SignEvent} {pid : Nat} {req : SetMultiSign}
    (hfits : req.record.fits = true)
    (hrun : Run SignStep { multiSign := rows } (es ++ req.statements pid) s) :
    ofChain req.chainId s.multiSign = [req.record] ∧
      getMultiSign otherwise req.chainId s.multiSign = req.fields := by
  have htracked := tracked req.chainId hrun
  have hsince := since_statements hfits pid req.chainId es
  rw [if_pos rfl] at hsince
  have hrows := htracked.rows
  have hread := htracked.getMultiSign_eq otherwise
  rw [hsince] at hrows hread
  exact ⟨hrows, hread.trans (getMultiSign_record rfl)⟩

/-- **Requests one after the other are atomic** when every record fits. -/
theorem set_serial {chainId : Int} {reqs : List (Nat × SetMultiSign)}
    (hfits : ∀ p ∈ reqs, p.2.record.fits = true) (hrows : (ofChain chainId rows).length ≤ 1)
    (hrun : Run SignStep { multiSign := rows } (reqs.flatMap fun p => p.2.statements p.1) s) :
    s.Atomic otherwise chainId rows := by
  have hsince : since chainId (reqs.flatMap fun p => p.2.statements p.1) = none ∨
      ∃ req, since chainId (reqs.flatMap fun p => p.2.statements p.1) = some [req] := by
    clear hrun
    induction reqs using List.reverseRecOn with
    | nil => exact .inl rfl
    | append_singleton reqs p ih =>
        rw [List.forall_mem_append, List.forall_mem_singleton] at hfits
        rw [List.flatMap_append, List.flatMap_singleton, since_statements hfits.2]
        split
        · exact .inr ⟨p.2, rfl⟩
        · exact ih hfits.1
  apply (tracked chainId hrun).atomic
  rcases hsince with hnone | hone
  · exact .inl ⟨hnone, hrows⟩
  · exact .inr (.inl hone)

end Serial

/-! ## Any order

What breaks it need not be a race: one request by itself loses the record when its accounts are too long
for the column, since the delete before it stands. -/

/-- **When setting the record is atomic**, for every table and every order of the statements. -/
theorem setMultiSign_atomic_iff (otherwise : String → Option (List String)) (chainId : Int)
    {rows : List MultiSign} {es : List SignEvent} {s : Signing}
    (hrun : Run SignStep { multiSign := rows } es s) :
    s.Atomic otherwise chainId rows ↔ OneCreate otherwise chainId rows es :=
  ⟨(tracked chainId hrun).oneCreate, (tracked chainId hrun).atomic⟩

theorem setMultiSign_atomic_alone :
    ∃ s, Run SignStep { multiSign := [{ spName := "old", chainId := 97 }] }
        [.delete 0 { spName := "sp", chainId := 97 } false,
          .create 0 { spName := "sp", chainId := 97 } false] s ∧
      s.Atomic (fun _ => none) 97 [{ spName := "old", chainId := 97 }] := by
  obtain ⟨s, hs⟩ := Option.isSome_iff_exists.mp (show (replay Signing.next
      { multiSign := [{ spName := "old", chainId := 97 }] }
      [.delete 0 { spName := "sp", chainId := 97 } false,
        .create 0 { spName := "sp", chainId := 97 } false]).isSome = true by decide)
  have hrun := Run.of_replay SignStep.of_next hs
  exact ⟨s, hrun, (setMultiSign_atomic_iff (fun _ => none) 97 hrun).mpr
    (.inr (.inl ⟨{ spName := "sp", chainId := 97 }, by decide⟩))⟩

/-- The JSON of the accounts does not fit when they are too long together. -/
theorem SetMultiSign.not_fits {req : SetMultiSign} {accounts : List String}
    (haccounts : req.multiSignAccount = some accounts)
    (hlong : 255 ≤ (accounts.map fun account => account.toList.length + 3).sum) :
    req.record.fits = false := by
  have hlength := Json.length_writeArray accounts
  have hcolumn : varchar255 req.record.multiSignAccount = false := by
    show varchar255 (Json.writeArray req.multiSignAccount) = false
    rw [haccounts, varchar255, decide_eq_false (by omega), Bool.false_and]
  simp [MultiSign.fits, hcolumn]

/-- Six accounts make the request fail after it has deleted the record. -/
theorem setMultiSign_loses_record :
    ¬ ∀ (otherwise : String → Option (List String)) (chainId : Int) (rows : List MultiSign)
      (es : List SignEvent) (s : Signing), Run SignStep { multiSign := rows } es s → s.Done →
        s.Atomic otherwise chainId rows := by
  intro hall
  let accounts : List String := List.replicate 6 "0x481a65e50522602f6f920E6b797Df85b6182f948"
  let req : SetMultiSign := { spName := "sp", chainId := 97, multiSignAccount := some accounts }
  let old : MultiSign := { spName := "old", chainId := 97 }
  have hfits : req.record.fits = false := SetMultiSign.not_fits rfl (by decide)
  have hdelete : SignStep { multiSign := [old] } (.delete 0 req false)
      (Signing.go { multiSign := [old] } 0 (.deleted req) []) := by
    simp [SignStep, Signing.next, req, old, SetMultiSign.validate]
  have hcreate : SignStep (Signing.go { multiSign := [old] } 0 (.deleted req) []) (.create 0 req false)
      (Signing.go (Signing.go { multiSign := [old] } 0 (.deleted req) []) 0
        (.answered req commonErrServerErr) []) := by
    simp [SignStep, Signing.next, hfits]
  have hrun := (Run.start.step hdelete).step hcreate
  -- the one request is answered, and with an error
  have hphases : ∀ pid phase, ((Signing.go { multiSign := [old] } 0 (.deleted req) []).go 0
      (.answered req commonErrServerErr) []).phases pid = some phase →
        phase = .answered req commonErrServerErr := by
    intro pid phase hphase
    rw [Signing.go_phases, Signing.go_phases] at hphase
    split at hphase
    · exact (Option.some.inj hphase).symm
    · cases hphase
  have hatomic := hall (fun _ => none) 97 _ _ _ hrun (fun pid r hr => by cases hphases pid _ hr)
  have hkept := hatomic.keeps fun r hr => by
    obtain ⟨-, pid, hphase⟩ := hr
    cases hphases pid _ hphase
  have hname : "" = "old" := congrArg Response.MultiSign.spName hkept
  exact absurd hname (by decide)

end Pledge.Api
