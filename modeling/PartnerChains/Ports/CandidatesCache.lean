import PartnerChains.Ports.BlockDataSource
import PartnerChains.Ports.PrefixOutcome
import PartnerChains.Verified.Interleaving

/-!
# The cached data source of authority candidates

The port of `CandidateDataSourceCached`.  Answers about an epoch are kept when
the epoch of their data is stable, that is below the epoch of the highest block
that is `k` blocks deep.  The highest stable epoch that was seen is remembered.

The two requests, for the candidates and for the Ariadne parameters, take the
same steps; `Query` says what is asked for and `Entry` is what is kept.  A
request waits for the database up to two times, for the stable epoch and for
the data.  `turn` is what it does between these points, and `request` is the
whole of it when it is not interrupted (`alone_candidateRequests`).

The database changes meanwhile.  `cached_transparent` says when the caches are
not noticed: no change undoes a block that has ever been `k` deep, or resolves
a data hash below it in another way; the highest stable block is not of epoch
zero; and the token queries have a single latest output.  In epoch zero the
latest stable epoch would be negative, which is not decoded, so that requests
fail which the data source itself would answer (`epochZero_fails`).
-/

namespace PartnerChains.Ports.CandidatesCache

open PartnerChains.Ports.Domain
open PartnerChains.Ports.DbSync
open PartnerChains.Ports.CandidatesQuery
open PartnerChains.Ports.CandidatesDataSource
open PartnerChains.Ports.LedgerOutputs
open PartnerChains.Ports.TokenHolders
open PartnerChains.Ports.MainchainPrefix
open PartnerChains.Ports.PrefixOutcome
open PartnerChains.Ports.BlockDataSource
open PartnerChains.Verified.Fallible
open PartnerChains.Verified.Interleaving
open PartnerChains.Verified.Relational

/-! ## The cache of the library -/

/-- `lru::LruCache`; a lookup counts as a use of the key. -/
structure LruCache (K V : Type) where
  Store : Type
  new : Store
  get : Store → K → Option V × Store
  put : Store → K → V → Store

/-- A key has the value that was put last, unless it was evicted. -/
structure LruCache.Lawful {K V : Type} (lru : LruCache K V) : Prop where
  get_new : ∀ k, (lru.get lru.new k).1 = none
  get_get : ∀ store k k' v, (lru.get (lru.get store k).2 k').1 = some v →
    (lru.get store k').1 = some v
  get_put : ∀ store k v k' v', (lru.get (lru.put store k v) k').1 = some v' →
    k' = k ∧ v' = v ∨ (lru.get store k').1 = some v'

/-- The requested epoch, the D-parameter policy and the permissioned candidates
policy. -/
abbrev AriadneParametersCacheKey := Nat × PolicyId × PolicyId

/-- The requested epoch and the text of the committee candidate address. -/
abbrev CandidatesCacheKey := Nat × String

/-- What a `CandidateDataSourceCached` is built with, without the source it wraps;
each LRU cache is an arbitrary implementation. -/
structure CandidateDataSourceCached where
  securityParameter : UInt32
  getAriadneParametersForEpochCache : LruCache AriadneParametersCacheKey AriadneParameters
  getCandidatesForEpochCache : LruCache CandidatesCacheKey (List CandidateRegistrations)

/-- What the requests share. -/
structure Caches (source : CandidateDataSourceCached) where
  ariadneParameters : source.getAriadneParametersForEpochCache.Store
  candidates : source.getCandidatesForEpochCache.Store
  highestSeenStableEpoch : Option Nat

/-- Both caches empty and no epoch seen as stable, as
`CandidateDataSourceCached::new` builds them. -/
def CandidateDataSourceCached.new (source : CandidateDataSourceCached) : Caches source where
  ariadneParameters := source.getAriadneParametersForEpochCache.new
  candidates := source.getCandidatesForEpochCache.new
  highestSeenStableEpoch := none

/-- What the boxed error can hold: an error of the inner source or of decoding,
or one that the database reports. -/
inductive CachedError where
  | candidates (error : CandidatesError)
  | database (message : String)

/-! ## Queries -/

/-- A call of one of the two cached methods of the data source. -/
inductive Query where
  | candidates (epoch : Nat) (committeeCandidateAddress : MainchainAddress)
  | ariadneParameters (epoch : Nat) (dParameterPolicy permissionedCandidatesPolicy : PolicyId)

/-- What the call of the matching constructor of `Query` returns. -/
inductive Response where
  | candidates (registrations : List CandidateRegistrations)
  | ariadneParameters (parameters : AriadneParameters)

/-- A response with the key under which it is kept. -/
inductive Entry where
  | candidates (key : CandidatesCacheKey) (response : List CandidateRegistrations)
  | ariadneParameters (key : AriadneParametersCacheKey) (response : AriadneParameters)

/-- The epoch the call is made for, before the shift to the epoch of the data. -/
def Query.epoch : Query → Nat
  | .candidates epoch _ => epoch
  | .ariadneParameters epoch _ _ => epoch

/-- The call whose cache key the entry is stored under. -/
def Entry.query : Entry → Query
  | .candidates key _ => .candidates key.1 key.2
  | .ariadneParameters key _ => .ariadneParameters key.1 key.2.1 key.2.2

/-- What that call is answered with when the entry is found. -/
def Entry.response : Entry → Response
  | .candidates _ response => .candidates response
  | .ariadneParameters _ response => .ariadneParameters response

/-- The response with candidates in any order. -/
def Response.unordered : Response →
    Multiset (MainchainPublicKey × Multiset (RegistrationData × Multiset UtxoId) ×
      Option UInt64) ⊕ AriadneParameters
  | .candidates registrations =>
      .inl (Multiset.ofList (registrations.map CandidateRegistrations.unordered))
  | .ariadneParameters parameters => .inr parameters

section Fetch

variable {J : Type} [DecidableEq J] (lib : Libraries J) (db : Db J)

/-- The inner data source. -/
def Query.fetch : Query → Except CandidatesError Entry
  | .candidates epoch address =>
      (getCandidates lib db epoch address).map (.candidates (epoch, address))
  | .ariadneParameters epoch dParameterPolicy permissionedCandidatesPolicy =>
      (getAriadneParameters lib db epoch dParameterPolicy permissionedCandidatesPolicy).map
        (.ariadneParameters (epoch, dParameterPolicy, permissionedCandidatesPolicy))

/-- What the source answers without caches. -/
def Query.uncached (q : Query) : Except CachedError Response :=
  ((q.fetch lib db).map Entry.response).mapError .candidates

end Fetch

section Caches

variable {source : CandidateDataSourceCached}

/-- Looks the call up in the cache of its method; an LRU lookup changes the cache. -/
def Caches.get (caches : Caches source) : Query → Option Entry × Caches source
  | .candidates epoch address =>
      let found := source.getCandidatesForEpochCache.get caches.candidates (epoch, address)
      (found.1.map (.candidates (epoch, address)), { caches with candidates := found.2 })
  | .ariadneParameters epoch dParameterPolicy permissionedCandidatesPolicy =>
      let key := (epoch, dParameterPolicy, permissionedCandidatesPolicy)
      let found := source.getAriadneParametersForEpochCache.get caches.ariadneParameters key
      (found.1.map (.ariadneParameters key), { caches with ariadneParameters := found.2 })

/-- Stores the entry in the cache of its method. -/
def Caches.put (caches : Caches source) : Entry → Caches source
  | .candidates key response =>
      { caches with
        candidates := source.getCandidatesForEpochCache.put caches.candidates key response }
  | .ariadneParameters key response =>
      { caches with
        ariadneParameters :=
          source.getAriadneParametersForEpochCache.put caches.ariadneParameters key response }

end Caches

/-! ## The latest stable epoch -/

section StableEpoch

variable {J : Type} (db : Db J) (securityParameter : UInt32)

/-- Whether a number is an `integer` of the database. -/
def isInt4 (n : Int) : Bool := decide (-2 ^ 31 ≤ n) && decide (n < 2 ^ 31)

/-- Every block with the block `k` below it. -/
def stableRows : List (BlockRow × BlockRow) :=
  db.block.filter (fun b => b.blockNo.isSome)
    |> innerJoin db.block fun b stableBlock => b.blockNo.any fun (n : Nat) =>
        stableBlock.blockNo.any fun (m : Nat) =>
          decide ((n : Int) - asInt4 securityParameter.toNat = m)

/-- `epoch_no - 1`, which has to be a `u32`. -/
def decodeStableEpoch (row : BlockRow × BlockRow) : Except SqlxError Nat := do
  let epochNo ← notNull "0" row.2.epochNo
  if epochNo = 0 then .error (.columnDecode "0") else .ok (epochNo - 1)

/-- `get_latest_stable_epoch`: the epoch before the one of the block `k` below the
tip; the database subtracts in `int4`. -/
def getLatestStableEpoch : Except CachedError (Option Nat) :=
  if db.block.any fun b => b.blockNo.any fun (n : Nat) =>
      !isInt4 (n - asInt4 securityParameter.toNat) then
    .error (.database "integer out of range")
  else
    (fetchOptional decodeStableEpoch
      (orderByDesc (fun row => sortKey row.1.blockNo)
        (stableRows db securityParameter))).mapError fun e => .candidates (.sqlx e)

end StableEpoch

/-! ## A request that is not interrupted -/

section Request

variable {J : Type} [DecidableEq J] (lib : Libraries J) (db : Db J)
  {source : CandidateDataSourceCached} (caches : Caches source)

/-- The epoch of the data is known to be stable. -/
def Caches.sees (dataEpoch : Nat) : Bool :=
  caches.highestSeenStableEpoch.any fun stableEpoch => decide (dataEpoch ≤ stableEpoch)

/-- What is seen of the latest stable epoch is remembered. -/
def Caches.see (stableEpoch : Option Nat) : Caches source :=
  match stableEpoch with
  | some stableEpoch => { caches with highestSeenStableEpoch := some stableEpoch }
  | none => caches

/-- `can_use_caching_for_request` with the database read at one moment. -/
def canUseCachingForRequest (requestEpoch : Nat) : Except CachedError Bool × Caches source :=
  match (dataEpoch requestEpoch).mapError .candidates with
  | .error e => (.error e, caches)
  | .ok dataEpoch =>
      if caches.sees dataEpoch then (.ok true, caches)
      else
        match getLatestStableEpoch db source.securityParameter with
        | .error e => (.error e, caches)
        | .ok stableEpoch =>
            (.ok (stableEpoch.any fun stableEpoch => decide (dataEpoch ≤ stableEpoch)),
              caches.see stableEpoch)

/-- `get_candidates_with_caching` and `get_ariadne_parameters_with_caching`. -/
def withCaching (q : Query) : Except CachedError Response × Caches source :=
  match caches.get q with
  | (some entry, caches) => (.ok entry.response, caches)
  | (none, caches) =>
      match (q.fetch lib db).mapError .candidates with
      | .error e => (.error e, caches)
      | .ok entry => (.ok entry.response, caches.put entry)

/-- `get_candidates` and `get_ariadne_parameters`. -/
def request (q : Query) : Except CachedError Response × Caches source :=
  match canUseCachingForRequest db caches q.epoch with
  | (.error e, caches) => (.error e, caches)
  | (.ok true, caches) => withCaching lib db caches q
  | (.ok false, caches) => (q.uncached lib db, caches)

end Request

/-! ## Requests that are -/

/-- How far a request has come. -/
inductive Phase where
  | asked
  /-- The epoch of the data is not known to be stable. -/
  | unseen (dataEpoch : Nat)
  /-- The latest stable epoch has been queried. -/
  | seen (dataEpoch : Nat) (stableEpoch : Option Nat)
  | caching
  /-- The response is not in the cache. -/
  | missed
  /-- The response has been queried. -/
  | fetched (entry : Entry)
  /-- Caching cannot be used. -/
  | direct

/-- One call that is being served, with the point its task has reached. -/
structure Request where
  query : Query
  phase : Phase

/-- What a finished call gives its caller. -/
abbrev Answer := Except CachedError Response

/-- The database and what it was before. -/
structure History (J : Type) where
  db : Db J
  past : List (Db J)

section Turns

variable {J : Type} [DecidableEq J] (lib : Libraries J) (source : CandidateDataSourceCached)

/-- What a task does between two points at which others may run. -/
def turn (env : History J) (caches : Caches source) (r : Request) :
    Turn (Caches source) Request Answer :=
  match r.phase with
  | .asked =>
      match (dataEpoch r.query.epoch).mapError .candidates with
      | .error e => .done (.error e) caches
      | .ok dataEpoch =>
          if caches.sees dataEpoch then .goOn { r with phase := .caching } caches
          else .goOn { r with phase := .unseen dataEpoch } caches
  | .unseen dataEpoch =>
      match getLatestStableEpoch env.db source.securityParameter with
      | .error e => .done (.error e) caches
      | .ok stableEpoch => .goOn { r with phase := .seen dataEpoch stableEpoch } caches
  | .seen dataEpoch stableEpoch =>
      if stableEpoch.any fun stableEpoch => decide (dataEpoch ≤ stableEpoch) then
        .goOn { r with phase := .caching } (caches.see stableEpoch)
      else .goOn { r with phase := .direct } (caches.see stableEpoch)
  | .caching =>
      match caches.get r.query with
      | (some entry, caches) => .done (.ok entry.response) caches
      | (none, caches) => .goOn { r with phase := .missed } caches
  | .missed =>
      match (r.query.fetch lib env.db).mapError .candidates with
      | .error e => .done (.error e) caches
      | .ok entry => .goOn { r with phase := .fetched entry } caches
  | .fetched entry => .done (.ok entry.response) (caches.put entry)
  | .direct => .done (r.query.uncached lib env.db) caches

end Turns

/-! ## How the database changes -/

section Changes

variable {J : Type}

/-- What holds of the databases of db-sync. -/
structure ValidDb (db : Db J) : Prop where
  ledger : Ledger db
  ordinary : ∀ address, OrdinaryTransactions db address

/-- The datums that were published up to a block. -/
def datumsUpTo (db : Db J) (R : Block) : List (DatumHash × Option J) :=
  (db.datum.filter fun d => db.tx.any fun t => decide (t.id = d.txId) &&
    db.block.any fun b => decide (b.id = t.blockId) && (blockView b).upTo R).map
      fun d => (d.hash, d.value)

/-- A change that keeps the blocks at depth `k`, with what belongs to them. -/
structure Keeps (k : UInt32) (db db' : Db J) : Prop where
  samePrefix : ∀ R, Deep k db R → SamePrefix db db' R
  datums : ∀ R, Deep k db R → datumsUpTo db R ⊆ datumsUpTo db' R

/-- The block is or was at depth `k`. -/
def OnceDeep (k : UInt32) (env : History J) (R : Block) : Prop :=
  ∃ db ∈ env.db :: env.past, Deep k db R

/-- A change that keeps what was below a block at depth `k` at any time, and
what the data hashes there resolve to. -/
structure Settled (k : UInt32) (env env' : History J) : Prop where
  samePrefix : ∀ R, OnceDeep k env R → SamePrefix env.db env'.db R
  resolvedAlike : ∀ R, OnceDeep k env R → ResolvedAlike env.db env'.db R

/-- The highest block with a block `k` above it. -/
structure HighestStable (k : UInt32) (db : Db J) (R : Block) : Prop where
  hasBlock : HasBlock db R
  above : ∃ b, HasBlock db b ∧ b.blockNo = R.blockNo + k.toNat
  highest : ∀ S b, HasBlock db S → HasBlock db b → b.blockNo = S.blockNo + k.toNat →
    S.blockNo ≤ R.blockNo

/-- The token queries of the request have a single latest output. -/
def Query.Untied (db : Db J) : Query → Prop
  | .candidates _ _ => True
  | .ariadneParameters epoch dParameterPolicy permissionedCandidatesPolicy =>
      TokenHolders.Untied db (tokenAsset dParameterPolicy) (epoch - 2) ∧
        TokenHolders.Untied db (tokenAsset permissionedCandidatesPolicy) (epoch - 2)

end Changes

/-- Requests for any epochs, addresses and policies. -/
def candidateRequests {J : Type} [DecidableEq J] (lib : Libraries J)
    (source : CandidateDataSourceCached) : System (History J) (Caches source) Request Answer where
  Starts r := r.phase = .asked
  turn := turn lib source
  Changes c env' := env'.past = c.env.db :: c.env.past ∧ ValidDb env'.db ∧
    Keeps source.securityParameter c.env.db env'.db

/-- A database with empty caches, before the first request. -/
def initially {J : Type} (source : CandidateDataSourceCached) (db : Db J) :
    Config (History J) (Caches source) Request :=
  ⟨⟨db, []⟩, source.new, []⟩

/-! ## A request that is left alone -/

section Alone

variable {J : Type} [DecidableEq J] (lib : Libraries J) (source : CandidateDataSourceCached)
  (env : History J) (caches : Caches source) (q : Query)

/-- A task that may use the cache, run without interruption. -/
theorem alone_caching (fuel : Nat) :
    alone (candidateRequests lib source) env (fuel + 3) caches ⟨q, .caching⟩ =
      some (withCaching lib env.db caches q) := by
  unfold withCaching
  rcases hget : caches.get q with ⟨found, caches'⟩
  cases found with
  | some entry => exact alone_of_done _ (by simp only [candidateRequests, turn, hget])
  | none =>
      have hmissed : alone (candidateRequests lib source) env (fuel + 3) caches ⟨q, .caching⟩ =
          alone (candidateRequests lib source) env (fuel + 2) caches' ⟨q, .missed⟩ :=
        alone_of_goOn _ (by simp only [candidateRequests, turn, hget])
      rw [hmissed]
      cases hfetch : (q.fetch lib env.db).mapError CachedError.candidates with
      | error e => exact alone_of_done _ (by simp only [candidateRequests, turn, hfetch])
      | ok entry =>
          have hfetched : alone (candidateRequests lib source) env (fuel + 2) caches'
              ⟨q, .missed⟩ =
              alone (candidateRequests lib source) env (fuel + 1) caches' ⟨q, .fetched entry⟩ :=
            alone_of_goOn _ (by simp only [candidateRequests, turn, hfetch])
          rw [hfetched]
          exact alone_of_done _ rfl

private theorem alone_seen (dataEpoch : Nat) (stableEpoch : Option Nat) :
    alone (candidateRequests lib source) env 4 caches ⟨q, .seen dataEpoch stableEpoch⟩ =
      some (if stableEpoch.any fun stableEpoch => decide (dataEpoch ≤ stableEpoch) then
        withCaching lib env.db (caches.see stableEpoch) q
      else (q.uncached lib env.db, caches.see stableEpoch)) := by
  cases hle : stableEpoch.any fun stableEpoch => decide (dataEpoch ≤ stableEpoch) with
  | true =>
      have hcaching : alone (candidateRequests lib source) env 4 caches
          ⟨q, .seen dataEpoch stableEpoch⟩ =
          alone (candidateRequests lib source) env 3 (caches.see stableEpoch) ⟨q, .caching⟩ :=
        alone_of_goOn 3 (by simp only [candidateRequests, turn, hle, if_true])
      rw [hcaching]
      exact alone_caching lib source env (caches.see stableEpoch) q 0
  | false =>
      have hdirect : alone (candidateRequests lib source) env 4 caches
          ⟨q, .seen dataEpoch stableEpoch⟩ =
          alone (candidateRequests lib source) env 3 (caches.see stableEpoch) ⟨q, .direct⟩ :=
        alone_of_goOn 3 (by simp only [candidateRequests, turn, hle]; rfl)
      rw [hdirect]
      exact alone_of_done 2 rfl

/-- Without interruptions, six turns compute `request`. -/
theorem alone_candidateRequests :
    alone (candidateRequests lib source) env 6 caches ⟨q, .asked⟩ =
      some (request lib env.db caches q) := by
  cases hdata : (dataEpoch q.epoch).mapError CachedError.candidates with
  | error e =>
      have hcan : canUseCachingForRequest env.db caches q.epoch = (.error e, caches) := by
        simp only [canUseCachingForRequest, hdata]
      rw [request, hcan]
      exact alone_of_done 5 (by simp only [candidateRequests, turn, hdata])
  | ok dataEpoch =>
      cases hsees : caches.sees dataEpoch with
      | true =>
          have hcan : canUseCachingForRequest env.db caches q.epoch = (.ok true, caches) := by
            simp only [canUseCachingForRequest, hdata, hsees, if_true]
          have hcaching : alone (candidateRequests lib source) env 6 caches ⟨q, .asked⟩ =
              alone (candidateRequests lib source) env 5 caches ⟨q, .caching⟩ :=
            alone_of_goOn 5 (by simp only [candidateRequests, turn, hdata, hsees, if_true])
          rw [request, hcan, hcaching]
          exact alone_caching lib source env caches q 2
      | false =>
          have hunseen : alone (candidateRequests lib source) env 6 caches ⟨q, .asked⟩ =
              alone (candidateRequests lib source) env 5 caches ⟨q, .unseen dataEpoch⟩ :=
            alone_of_goOn 5 (by simp only [candidateRequests, turn, hdata, hsees]; rfl)
          rw [hunseen]
          cases hepoch : getLatestStableEpoch env.db source.securityParameter with
          | error e =>
              have hcan : canUseCachingForRequest env.db caches q.epoch = (.error e, caches) := by
                simp [canUseCachingForRequest, hdata, hsees, hepoch]
              rw [request, hcan]
              exact alone_of_done 4 (by simp only [candidateRequests, turn, hepoch])
          | ok stableEpoch =>
              have hcan : canUseCachingForRequest env.db caches q.epoch =
                  (.ok (stableEpoch.any fun stableEpoch => decide (dataEpoch ≤ stableEpoch)),
                    caches.see stableEpoch) := by
                simp [canUseCachingForRequest, hdata, hsees, hepoch]
              have hseen : alone (candidateRequests lib source) env 5 caches
                  ⟨q, .unseen dataEpoch⟩ =
                  alone (candidateRequests lib source) env 4 caches
                    ⟨q, .seen dataEpoch stableEpoch⟩ :=
                alone_of_goOn 4 (by simp only [candidateRequests, turn, hepoch])
              rw [request, hcan, hseen, alone_seen]
              cases stableEpoch.any fun stableEpoch => decide (dataEpoch ≤ stableEpoch) <;> rfl

end Alone

/-! ## The latest stable epoch is below a deep block -/

section StableEpoch

variable {J : Type} {db : Db J} {k : UInt32}

/-- The rows of the query for the stable epoch. -/
theorem mem_stableRows (hk : k.toNat < 2 ^ 31) {row : BlockRow × BlockRow} :
    row ∈ stableRows db k ↔ row.1 ∈ db.block ∧ row.2 ∈ db.block ∧
      ∃ n, row.2.blockNo = some n ∧ row.1.blockNo = some (n + k.toNat) := by
  rw [stableRows, mem_innerJoin, List.mem_filter, asInt4_of_lt hk]
  constructor
  · rintro ⟨⟨hb, -⟩, hs, hon⟩
    simp only [Option.any_eq_true, decide_eq_true_eq] at hon
    obtain ⟨n, hn, m, hm, heq⟩ := hon
    exact ⟨hb, hs, m, hm, by rw [hn]; congr 1; omega⟩
  · rintro ⟨hb, hs, n, hn, hn'⟩
    simp only [hn, hn', Option.any_some, Option.isSome_some, decide_eq_true_eq]
    exact ⟨⟨hb, trivial⟩, hs, by omega⟩

private theorem deep_of_getLatestStableEpoch (hk : k.toNat < 2 ^ 31) {epoch : Nat}
    (h : getLatestStableEpoch db k = .ok (some epoch)) :
    ∃ R, Deep k db R ∧ epoch < R.epochNo := by
  unfold getLatestStableEpoch at h
  split at h
  · cases h
  · unfold fetchOptional at h
    cases hhead : (orderByDesc (fun row => sortKey row.1.blockNo) (stableRows db k)).head? with
    | none => simp [hhead, Except.mapError] at h
    | some row =>
        obtain ⟨hb, hs, n, hn, hn'⟩ := (mem_stableRows hk).mp (head?_orderByDesc hhead).1
        obtain ⟨e, s, he, -, hdecode⟩ := Db.decode_ok hs hn
        simp only [hhead, decodeStableEpoch, he, notNull, bind, Except.bind] at h
        refine ⟨_, ⟨⟨row.2, hs, hdecode⟩, le_latestBlockNo hb hn'⟩, ?_⟩
        by_cases hzero : e = 0
        · simp [hzero, Except.map, Except.mapError] at h
        · simp only [hzero, if_false, Except.map, Except.mapError, Except.ok.injEq,
            Option.some.injEq] at h
          show epoch < e
          omega

/-- Unless the highest stable block is of epoch zero, the query succeeds. -/
theorem getLatestStableEpoch_ok (hk : k.toNat < 2 ^ 31)
    (hzero : ∀ R, HighestStable k db R → R.epochNo ≠ 0) :
    ∃ epoch, getLatestStableEpoch db k = .ok epoch := by
  have hrange : ¬ (db.block.any fun b => b.blockNo.any fun (n : Nat) =>
      !isInt4 (n - asInt4 k.toNat)) = true := by
    simp only [List.any_eq_true, Option.any_eq_true, Bool.not_eq_true', not_exists, not_and]
    intro b hb n hn
    have hlt := Db.blockNo_lt hb hn
    rw [Bool.not_eq_false, isInt4, asInt4_of_lt hk, Bool.and_eq_true, decide_eq_true_eq,
      decide_eq_true_eq]
    omega
  unfold getLatestStableEpoch fetchOptional
  rw [if_neg hrange]
  cases hhead : (orderByDesc (fun row => sortKey row.1.blockNo) (stableRows db k)).head? with
  | none => exact ⟨none, rfl⟩
  | some row =>
      obtain ⟨hmem, hmax⟩ := head?_orderByDesc hhead
      obtain ⟨hb, hs, n, hn, hn'⟩ := (mem_stableRows hk).mp hmem
      obtain ⟨e, slot, he, -, hdecode⟩ := Db.decode_ok hs hn
      obtain ⟨above, hdecodeAbove, hhasAbove⟩ := hasBlock_of_row hb (by simp [hn'])
      have hno : above.blockNo = n + k.toNat :=
        Option.some.inj ((BlockRow.decode_eq_ok hdecodeAbove).1.symm.trans hn')
      have hne : e ≠ 0 := by
        refine hzero _ ⟨⟨row.2, hs, hdecode⟩, ⟨above, hhasAbove, hno⟩, ?_⟩
        rintro S b ⟨rowS, hrowS, hdecodeS⟩ ⟨rowB, hrowB, hdecodeB⟩ heq
        obtain ⟨hnS, -⟩ := BlockRow.decode_eq_ok hdecodeS
        obtain ⟨hnB, -⟩ := BlockRow.decode_eq_ok hdecodeB
        have hle := hmax (rowB, rowS)
          ((mem_stableRows hk).mpr ⟨hrowB, hrowS, S.blockNo, hnS, by rw [hnB, heq]⟩)
        rw [hnB, hn'] at hle
        have hle' : b.blockNo ≤ n + k.toNat := WithTop.coe_le_coe.mp hle
        show S.blockNo ≤ n
        omega
      exact ⟨some (e - 1), by
        simp [decodeStableEpoch, he, notNull, bind, Except.bind, hne, Except.map,
          Except.mapError]⟩

end StableEpoch

/-! ## What the caches hold -/

section Entries

variable {source : CandidateDataSourceCached}

/-- A lookup of the entry's key finds the entry's value. -/
def Caches.Has (caches : Caches source) : Entry → Prop
  | .candidates key response =>
      (source.getCandidatesForEpochCache.get caches.candidates key).1 = some response
  | .ariadneParameters key response =>
      (source.getAriadneParametersForEpochCache.get caches.ariadneParameters key).1 = some response

/-- Both LRU implementations only ever return what was put under the key. -/
structure CandidateDataSourceCached.Lawful (source : CandidateDataSourceCached) : Prop where
  ariadneParameters : source.getAriadneParametersForEpochCache.Lawful
  candidates : source.getCandidatesForEpochCache.Lawful

variable {caches : Caches source} {entry entry' : Entry} {q : Query}

private theorem Caches.has_of_get_fst (h : (caches.get q).1 = some entry) :
    caches.Has entry ∧ entry.query = q := by
  cases q with
  | candidates epoch address =>
      obtain ⟨response, hresponse, rfl⟩ := Option.map_eq_some_iff.mp h
      exact ⟨hresponse, rfl⟩
  | ariadneParameters epoch d p =>
      obtain ⟨response, hresponse, rfl⟩ := Option.map_eq_some_iff.mp h
      exact ⟨hresponse, rfl⟩

private theorem Caches.has_of_get_snd (hlawful : source.Lawful) (h : (caches.get q).2.Has entry) :
    caches.Has entry := by
  cases q with
  | candidates epoch address =>
      cases entry with
      | candidates key response => exact hlawful.candidates.get_get _ _ _ _ h
      | ariadneParameters key response => exact h
  | ariadneParameters epoch d p =>
      cases entry with
      | candidates key response => exact h
      | ariadneParameters key response => exact hlawful.ariadneParameters.get_get _ _ _ _ h

private theorem Caches.has_of_put (hlawful : source.Lawful) (h : (caches.put entry).Has entry') :
    entry' = entry ∨ caches.Has entry' := by
  cases entry with
  | candidates key response =>
      cases entry' with
      | candidates key' response' =>
          rcases hlawful.candidates.get_put _ _ _ _ _ h with ⟨rfl, rfl⟩ | h
          · exact Or.inl rfl
          · exact Or.inr h
      | ariadneParameters key' response' => exact Or.inr h
  | ariadneParameters key response =>
      cases entry' with
      | candidates key' response' => exact Or.inr h
      | ariadneParameters key' response' =>
          rcases hlawful.ariadneParameters.get_put _ _ _ _ _ h with ⟨rfl, rfl⟩ | h
          · exact Or.inl rfl
          · exact Or.inr h

private theorem not_has_new (hlawful : source.Lawful) : ¬ source.new.Has entry := by
  cases entry with
  | candidates key response =>
      simp [Caches.Has, CandidateDataSourceCached.new, hlawful.candidates.get_new]
  | ariadneParameters key response =>
      simp [Caches.Has, CandidateDataSourceCached.new, hlawful.ariadneParameters.get_new]

@[simp] theorem Caches.get_highestSeenStableEpoch :
    (caches.get q).2.highestSeenStableEpoch = caches.highestSeenStableEpoch := by
  cases q <;> rfl

@[simp] theorem Caches.put_highestSeenStableEpoch :
    (caches.put entry).highestSeenStableEpoch = caches.highestSeenStableEpoch := by
  cases entry <;> rfl

@[simp] theorem Caches.has_see {stableEpoch : Option Nat} :
    (caches.see stableEpoch).Has entry ↔ caches.Has entry := by
  cases stableEpoch <;> cases entry <;> rfl

end Entries

/-! ## What is kept -/

section Invariant

variable {J : Type} {k : UInt32} {env env' : History J}

/-- The epoch is below that of a block that is or was at depth `k`. -/
def StableEpoch (k : UInt32) (env : History J) (epoch : Nat) : Prop :=
  ∃ R, OnceDeep k env R ∧ epoch < R.epochNo

/-- The data of the request is stable. -/
structure Cacheable (k : UInt32) (env : History J) (q : Query) : Prop where
  epoch : 2 ≤ q.epoch
  stable : StableEpoch k env (q.epoch - 2)

/-- What is stable stays stable for earlier epochs. -/
theorem StableEpoch.mono {e e' : Nat} (h : StableEpoch k env e) (hle : e' ≤ e) :
    StableEpoch k env e' := by
  obtain ⟨R, hR, hlt⟩ := h
  exact ⟨R, hR, hle.trans_lt hlt⟩

/-- What is stable stays stable when the database moves on. -/
theorem StableEpoch.later {e : Nat} (h : StableEpoch k env e)
    (hpast : env'.past = env.db :: env.past) : StableEpoch k env' e := by
  obtain ⟨R, ⟨db, hdb, hdeep⟩, hlt⟩ := h
  exact ⟨R, ⟨db, List.mem_cons_of_mem _ (hpast ▸ hdb), hdeep⟩, hlt⟩

/-- An epoch that has no tie later had none before. -/
theorem Settled.untied (h : Settled k env env') (hledger : Ledger env.db) {q : Query}
    (hcacheable : Cacheable k env q) (huntied : q.Untied env'.db) : q.Untied env.db := by
  obtain ⟨-, R, hR, hlt⟩ := hcacheable
  cases q with
  | candidates epoch address => trivial
  | ariadneParameters epoch d p =>
      exact ⟨(h.samePrefix R hR).untied hledger hlt huntied.1,
        (h.samePrefix R hR).untied hledger hlt huntied.2⟩

variable [DecidableEq J] {lib : Libraries J}

/-- A settled change does not change the answer to a request for stable
data. -/
theorem Settled.uncached_eq (h : Settled k env env') (hvalid : ValidDb env.db)
    (hvalid' : ValidDb env'.db) {q : Query} (hcacheable : Cacheable k env q)
    (huntied : q.Untied env'.db) :
    (q.uncached lib env.db).map Response.unordered =
      (q.uncached lib env'.db).map Response.unordered := by
  obtain ⟨hepoch, R, hR, hlt⟩ := hcacheable
  cases q with
  | candidates epoch address =>
      have hform : ∀ db, ((Query.candidates epoch address).uncached lib db).map
          Response.unordered =
          (((getCandidates lib db epoch address).map fun l =>
            Multiset.ofList (l.map CandidateRegistrations.unordered)).map Sum.inl).mapError
              .candidates := by
        intro db
        rw [Query.uncached, Query.fetch]
        cases getCandidates lib db epoch address <;> rfl
      have heq : (getCandidates lib env.db epoch address).map
            (fun l => Multiset.ofList (l.map CandidateRegistrations.unordered)) =
          (getCandidates lib env'.db epoch address).map
            fun l => Multiset.ofList (l.map CandidateRegistrations.unordered) :=
        (h.resolvedAlike R hR).getCandidates_unordered (h.samePrefix R hR) hvalid.ledger
          hvalid'.ledger lib (hvalid.ordinary address) (hvalid'.ordinary address) hepoch hlt
      rw [hform, hform, heq]
  | ariadneParameters epoch d p =>
      have heq : getAriadneParameters lib env.db epoch d p =
          getAriadneParameters lib env'.db epoch d p :=
        (h.resolvedAlike R hR).getAriadneParameters_eq (h.samePrefix R hR) hvalid.ledger
          hvalid'.ledger lib hepoch hlt huntied.1 huntied.2
      simp only [Query.uncached, Query.fetch, heq]

/-- The entry is what is answered now. -/
structure Holds (lib : Libraries J) (k : UInt32) (env : History J) (entry : Entry) : Prop where
  cacheable : Cacheable k env entry.query
  response : entry.query.Untied env.db →
    (entry.query.uncached lib env.db).map Response.unordered = .ok entry.response.unordered

/-- An entry that holds goes on holding. -/
theorem Settled.keepsHolds (h : Settled k env env') (hpast : env'.past = env.db :: env.past)
    (hvalid : ValidDb env.db) (hvalid' : ValidDb env'.db) {entry : Entry}
    (hholds : Holds lib k env entry) : Holds lib k env' entry where
  cacheable := ⟨hholds.cacheable.epoch, hholds.cacheable.stable.later hpast⟩
  response huntied := by
    rw [← h.uncached_eq hvalid hvalid' hholds.cacheable huntied]
    exact hholds.response (h.untied hvalid.ledger hholds.cacheable huntied)

variable {source : CandidateDataSourceCached}

/-- What holds of the caches. -/
structure Sound (lib : Libraries J) (env : History J) (caches : Caches source) : Prop where
  valid : ValidDb env.db
  seen : ∀ epoch, caches.highestSeenStableEpoch = some epoch →
    StableEpoch source.securityParameter env epoch
  entries : ∀ entry, caches.Has entry → Holds lib source.securityParameter env entry

/-- What holds of a request under way. -/
def Fine (lib : Libraries J) (k : UInt32) (env : History J) (r : Request) : Prop :=
  match r.phase with
  | .asked => True
  | .unseen dataEpoch => CandidatesDataSource.dataEpoch r.query.epoch = .ok dataEpoch
  | .seen dataEpoch stableEpoch => CandidatesDataSource.dataEpoch r.query.epoch = .ok dataEpoch ∧
      ∀ epoch, stableEpoch = some epoch → StableEpoch k env epoch
  | .caching => Cacheable k env r.query
  | .missed => Cacheable k env r.query
  | .fetched entry => entry.query = r.query ∧ Holds lib k env entry
  | .direct => True

/-- The answer is that of the inner source, unless the request fails in epoch
zero or the inner source does not determine it. -/
def Right (lib : Libraries J) (k : UInt32) (env : History J) (r : Request) (answer : Answer) :
    Prop :=
  (∀ R, HighestStable k env.db R → R.epochNo ≠ 0) → r.query.Untied env.db →
    answer.map Response.unordered = (r.query.uncached lib env.db).map Response.unordered

/-- A task that is fine stays fine when the database changes. -/
theorem Settled.keepsFine (h : Settled k env env') (hpast : env'.past = env.db :: env.past)
    (hvalid : ValidDb env.db) (hvalid' : ValidDb env'.db) {r : Request}
    (hfine : Fine lib k env r) : Fine lib k env' r := by
  obtain ⟨q, phase⟩ := r
  cases phase with
  | asked => trivial
  | unseen dataEpoch => exact hfine
  | seen dataEpoch stableEpoch =>
      exact ⟨hfine.1, fun epoch hepoch => (hfine.2 epoch hepoch).later hpast⟩
  | caching => exact ⟨Cacheable.epoch hfine, (Cacheable.stable hfine).later hpast⟩
  | missed => exact ⟨Cacheable.epoch hfine, (Cacheable.stable hfine).later hpast⟩
  | fetched entry => exact ⟨hfine.1, h.keepsHolds hpast hvalid hvalid' hfine.2⟩
  | direct => trivial

private theorem uncached_of_dataEpoch {q : Query} {e : CandidatesError}
    (h : dataEpoch q.epoch = .error e) (db : Db J) :
    q.uncached lib db = .error (.candidates e) := by
  cases q with
  | candidates epoch address =>
      have hstorage : getEpochOfDataStorage epoch = .error e := h
      simp only [Query.uncached, Query.fetch, getCandidates, hstorage, bind, Except.bind,
        Except.map, Except.mapError]
  | ariadneParameters epoch d p =>
      have hstorage : getEpochOfDataStorage epoch = .error e := h
      simp only [Query.uncached, Query.fetch, getAriadneParameters, hstorage, bind, Except.bind,
        Except.map, Except.mapError]

/-- What is fetched for a request is kept under its key. -/
theorem query_of_fetch {q : Query} {db : Db J} {entry : Entry}
    (h : q.fetch lib db = .ok entry) : entry.query = q := by
  cases q with
  | candidates epoch address =>
      rw [Query.fetch] at h
      cases hdb : getCandidates lib db epoch address with
      | error e => simp [hdb, Except.map] at h
      | ok response =>
          rw [hdb] at h
          cases h
          rfl
  | ariadneParameters epoch d p =>
      rw [Query.fetch] at h
      cases hdb : getAriadneParameters lib db epoch d p with
      | error e => simp [hdb, Except.map] at h
      | ok response =>
          rw [hdb] at h
          cases h
          rfl

/-- What is fetched to be cached is what the uncached source answers. -/
theorem uncached_of_fetch {q : Query} {db : Db J} {entry : Entry}
    (h : q.fetch lib db = .ok entry) : q.uncached lib db = .ok entry.response := by
  rw [Query.uncached, h]
  rfl

/-! ## Turns -/

section Turn

variable {caches : Caches source} {q : Query}

/-- What a turn has to leave behind. -/
abbrev TurnOk (lib : Libraries J) (env : History J) (caches : Caches source) (r : Request) :
    Prop :=
  (turn lib source env caches r).Leaves
    (fun r' caches' => Sound lib env caches' ∧ Fine lib source.securityParameter env r')
    fun answer caches' => Sound lib env caches' ∧ Right lib source.securityParameter env r answer

/-- The first turn of a task. -/
theorem turn_asked (hsound : Sound lib env caches) : TurnOk lib env caches ⟨q, .asked⟩ := by
  cases hdata : dataEpoch q.epoch with
  | error e =>
      have hturn : turn lib source env caches ⟨q, .asked⟩ =
          .done (.error (.candidates e)) caches := by
        simp only [turn, hdata, Except.mapError]
      refine Turn.leaves_of_done hturn ⟨hsound, ?_⟩
      intro _ _
      rw [uncached_of_dataEpoch hdata env.db]
  | ok dataEpoch =>
      cases hsees : caches.sees dataEpoch with
      | true =>
          have hturn : turn lib source env caches ⟨q, .asked⟩ = .goOn ⟨q, .caching⟩ caches := by
            simp only [turn, hdata, Except.mapError, hsees, if_true]
          obtain ⟨stableEpoch, hseen, hle⟩ := (Option.any_eq_true _ _).mp hsees
          obtain ⟨hepoch, rfl⟩ := dataEpoch_eq_ok hdata
          exact Turn.leaves_of_goOn hturn
            ⟨hsound, hepoch, (hsound.seen stableEpoch hseen).mono (of_decide_eq_true hle)⟩
      | false =>
          have hturn : turn lib source env caches ⟨q, .asked⟩ =
              .goOn ⟨q, .unseen dataEpoch⟩ caches := by
            simp only [turn, hdata, Except.mapError, hsees]
            rfl
          exact Turn.leaves_of_goOn hturn ⟨hsound, hdata⟩

private theorem turn_unseen (hk : source.securityParameter.toNat < 2 ^ 31)
    (hsound : Sound lib env caches)
    {dataEpoch : Nat} (hdata : CandidatesDataSource.dataEpoch q.epoch = .ok dataEpoch) :
    TurnOk lib env caches ⟨q, .unseen dataEpoch⟩ := by
  cases hepoch : getLatestStableEpoch env.db source.securityParameter with
  | error e =>
      have hturn : turn lib source env caches ⟨q, .unseen dataEpoch⟩ =
          .done (.error e) caches := by
        simp only [turn, hepoch]
      refine Turn.leaves_of_done hturn ⟨hsound, ?_⟩
      -- the query fails in epoch zero only
      intro hzero _
      obtain ⟨epoch, hok⟩ := getLatestStableEpoch_ok hk hzero
      rw [hepoch] at hok
      cases hok
  | ok stableEpoch =>
      have hturn : turn lib source env caches ⟨q, .unseen dataEpoch⟩ =
          .goOn ⟨q, .seen dataEpoch stableEpoch⟩ caches := by
        simp only [turn, hepoch]
      refine Turn.leaves_of_goOn hturn ⟨hsound, hdata, ?_⟩
      rintro epoch rfl
      obtain ⟨R, hdeep, hlt⟩ := deep_of_getLatestStableEpoch hk hepoch
      exact ⟨R, ⟨env.db, List.mem_cons_self, hdeep⟩, hlt⟩

/-- A stable epoch can be remembered. -/
theorem Sound.see (hsound : Sound lib env caches) {stableEpoch : Option Nat}
    (hstable : ∀ epoch, stableEpoch = some epoch →
      StableEpoch source.securityParameter env epoch) :
    Sound lib env (caches.see stableEpoch) where
  valid := hsound.valid
  seen := by
    cases stableEpoch with
    | none => exact hsound.seen
    | some epoch =>
        intro e he
        cases he
        exact hstable epoch rfl
  entries entry hentry := hsound.entries entry (Caches.has_see.mp hentry)

private theorem turn_seen (hsound : Sound lib env caches) {dataEpoch : Nat}
    {stableEpoch : Option Nat} (hdata : CandidatesDataSource.dataEpoch q.epoch = .ok dataEpoch)
    (hstable : ∀ epoch, stableEpoch = some epoch →
      StableEpoch source.securityParameter env epoch) :
    TurnOk lib env caches ⟨q, .seen dataEpoch stableEpoch⟩ := by
  cases hany : stableEpoch.any fun stableEpoch => decide (dataEpoch ≤ stableEpoch) with
  | true =>
      have hturn : turn lib source env caches ⟨q, .seen dataEpoch stableEpoch⟩ =
          .goOn ⟨q, .caching⟩ (caches.see stableEpoch) := by
        simp only [turn, hany, if_true]
      obtain ⟨epoch, hepoch, hle⟩ := (Option.any_eq_true _ _).mp hany
      obtain ⟨hge, rfl⟩ := dataEpoch_eq_ok hdata
      exact Turn.leaves_of_goOn hturn
        ⟨hsound.see hstable, hge, (hstable epoch hepoch).mono (of_decide_eq_true hle)⟩
  | false =>
      have hturn : turn lib source env caches ⟨q, .seen dataEpoch stableEpoch⟩ =
          .goOn ⟨q, .direct⟩ (caches.see stableEpoch) := by
        simp only [turn, hany]
        rfl
      exact Turn.leaves_of_goOn hturn ⟨hsound.see hstable, trivial⟩

/-- A lookup leaves the caches sound. -/
theorem Sound.get (hlawful : source.Lawful) (hsound : Sound lib env caches) (q : Query) :
    Sound lib env (caches.get q).2 where
  valid := hsound.valid
  seen epoch hepoch := hsound.seen epoch (Caches.get_highestSeenStableEpoch ▸ hepoch)
  entries entry hentry := hsound.entries entry (Caches.has_of_get_snd hlawful hentry)

private theorem turn_caching (hlawful : source.Lawful) (hsound : Sound lib env caches)
    (hcacheable : Cacheable source.securityParameter env q) :
    TurnOk lib env caches ⟨q, .caching⟩ := by
  have hsound' := hsound.get hlawful q
  rcases hget : caches.get q with ⟨_ | entry, caches'⟩
  · have hturn : turn lib source env caches ⟨q, .caching⟩ = .goOn ⟨q, .missed⟩ caches' := by
      simp only [turn, hget]
    rw [hget] at hsound'
    exact Turn.leaves_of_goOn hturn ⟨hsound', hcacheable⟩
  · have hturn : turn lib source env caches ⟨q, .caching⟩ =
        .done (.ok entry.response) caches' := by
      simp only [turn, hget]
    obtain ⟨hhas, hquery⟩ := Caches.has_of_get_fst (congrArg Prod.fst hget)
    rw [hget] at hsound'
    refine Turn.leaves_of_done hturn ⟨hsound', ?_⟩
    intro _ huntied
    have hresponse := (hsound.entries entry hhas).response (hquery ▸ huntied)
    rw [hquery] at hresponse
    exact hresponse.symm

/-- The turn of a task that did not find its answer. -/
theorem turn_missed (hsound : Sound lib env caches)
    (hcacheable : Cacheable source.securityParameter env q) :
    TurnOk lib env caches ⟨q, .missed⟩ := by
  cases hfetch : q.fetch lib env.db with
  | error e =>
      have hturn : turn lib source env caches ⟨q, .missed⟩ =
          .done (.error (.candidates e)) caches := by
        simp only [turn, hfetch, Except.mapError]
      refine Turn.leaves_of_done hturn ⟨hsound, ?_⟩
      intro _ _
      rw [Query.uncached, hfetch]
      rfl
  | ok entry =>
      have hturn : turn lib source env caches ⟨q, .missed⟩ =
          .goOn ⟨q, .fetched entry⟩ caches := by
        simp only [turn, hfetch, Except.mapError]
      have hquery := query_of_fetch hfetch
      refine Turn.leaves_of_goOn hturn ⟨hsound, hquery, hquery ▸ hcacheable, ?_⟩
      intro _
      rw [hquery, uncached_of_fetch hfetch]
      rfl

private theorem turn_fetched (hlawful : source.Lawful) (hsound : Sound lib env caches)
    {entry : Entry}
    (hquery : entry.query = q) (hholds : Holds lib source.securityParameter env entry) :
    TurnOk lib env caches ⟨q, .fetched entry⟩ := by
  have hsound' : Sound lib env (caches.put entry) := by
    refine ⟨hsound.valid, fun epoch hepoch =>
      hsound.seen epoch (Caches.put_highestSeenStableEpoch ▸ hepoch), ?_⟩
    intro entry' hentry'
    rcases Caches.has_of_put hlawful hentry' with rfl | hentry'
    · exact hholds
    · exact hsound.entries entry' hentry'
  refine Turn.leaves_of_done rfl ⟨hsound', ?_⟩
  intro _ huntied
  have hresponse := hholds.response (hquery ▸ huntied)
  rw [hquery] at hresponse
  exact hresponse.symm

/-- No turn breaks the caches, and every answer is right. -/
theorem turn_ok (hlawful : source.Lawful) (hk : source.securityParameter.toNat < 2 ^ 31)
    (hsound : Sound lib env caches) {r : Request}
    (hfine : Fine lib source.securityParameter env r) : TurnOk lib env caches r := by
  obtain ⟨q, phase⟩ := r
  cases phase with
  | asked => exact turn_asked hsound
  | unseen dataEpoch => exact turn_unseen hk hsound hfine
  | seen dataEpoch stableEpoch => exact turn_seen hsound hfine.1 hfine.2
  | caching => exact turn_caching hlawful hsound hfine
  | missed => exact turn_missed hsound hfine
  | fetched entry => exact turn_fetched hlawful hsound hfine.1 hfine.2
  | direct => exact Turn.leaves_of_done rfl ⟨hsound, fun _ _ => rfl⟩

end Turn

/-- The steps of the system keep the caches sound and the tasks fine. -/
theorem invariant (lib : Libraries J) (hlawful : source.Lawful)
    (hk : source.securityParameter.toNat < 2 ^ 31) :
    Invariant ((candidateRequests lib source).provided fun c env' =>
        Settled source.securityParameter c.env env')
      (Sound lib) (Fine lib source.securityParameter) (Right lib source.securityParameter) where
  starts env r hstart := by
    obtain ⟨q, phase⟩ := r
    obtain rfl : phase = .asked := hstart
    trivial
  changes c env' hchange hsound hfine := by
    obtain ⟨⟨hpast, hvalid', -⟩, hsettled⟩ := hchange
    refine ⟨⟨hvalid', ?_, ?_⟩, ?_⟩
    · exact fun epoch hepoch => (hsound.seen epoch hepoch).later hpast
    · exact fun entry hentry =>
        hsettled.keepsHolds hpast hsound.valid hvalid' (hsound.entries entry hentry)
    · exact fun r hr => hsettled.keepsFine hpast hsound.valid hvalid' (hfine r hr)
  turn env caches r hsound hfine := turn_ok hlawful hk hsound hfine

/-! ## The caches are not noticed -/

/-- Along every run with settled changes, an answer is that of the inner
source, up to the order of candidates: provided that the highest stable block
is not of epoch zero and that the token queries have a single latest output. -/
theorem cached_transparent (hlawful : source.Lawful)
    (hk : source.securityParameter.toNat < 2 ^ 31) {db : Db J} (hvalid : ValidDb db)
    {c c' : Config (History J) (Caches source) Request}
    (hrun : Run ((candidateRequests lib source).provided fun c env' =>
      Settled source.securityParameter c.env env') (initially source db) c)
    {r : Request} {answer : Answer}
    (hstep : Step (candidateRequests lib source) c (some (r, answer)) c')
    (hzero : ∀ R, HighestStable source.securityParameter c.env.db R → R.epochNo ≠ 0)
    (huntied : r.query.Untied c.env.db) :
    answer.map Response.unordered = (r.query.uncached lib c.env.db).map Response.unordered := by
  have hsound : Sound lib (initially source db).env (initially source db).shared :=
    ⟨hvalid, fun _ h => (by cases h), fun _ h => absurd h (not_has_new hlawful)⟩
  have hfine : ∀ r ∈ (initially source db).tasks,
      Fine lib source.securityParameter (initially source db).env r :=
    fun _ h => absurd h List.not_mem_nil
  exact (invariant lib hlawful hk).right hsound hfine hrun hstep.provided hzero huntied

end Invariant

/-! ## Epoch zero

The databases of `PrefixOutcome` have blocks 2 and 3, of the epochs 0 and 1,
and one of them block 4.  With a security parameter of one the highest stable
block is block 2, or block 3. -/

/-- A cache that evicts nothing. -/
def listCache (K V : Type) [DecidableEq K] : LruCache K V where
  Store := List (K × V)
  new := []
  get store k := (store.lookup k, store)
  put store k v := (k, v) :: store

private theorem lookup_cons_eq_some {K V : Type} [DecidableEq K] {store : List (K × V)} {k k' : K}
    {v v' : V} (h : List.lookup k' ((k, v) :: store) = some v') :
    k' = k ∧ v' = v ∨ store.lookup k' = some v' := by
  by_cases heq : k' = k
  · subst heq
    rw [List.lookup_cons_self] at h
    exact Or.inl ⟨rfl, (Option.some.inj h).symm⟩
  · rw [List.lookup_cons, beq_false_of_ne heq] at h
    exact Or.inr h

private theorem listCache_lawful (K V : Type) [DecidableEq K] : (listCache K V).Lawful where
  get_new _ := rfl
  get_get _ _ _ _ h := h
  get_put _ _ _ _ _ h := lookup_cons_eq_some h

/-- A data source over list caches and a security parameter of one. -/
def listSource : CandidateDataSourceCached where
  securityParameter := 1
  getAriadneParametersForEpochCache := listCache _ _
  getCandidatesForEpochCache := listCache _ _

theorem listSource_lawful : listSource.Lawful := ⟨listCache_lawful _ _, listCache_lawful _ _⟩

theorem lateDb_valid (published : Bool) : ValidDb (lateDb published) where
  ledger := lateDb_ledger published
  ordinary := lateDb_ordinary published

/-- The request for the parameters of epoch 2, from the data of epoch 0. -/
def lateQuery : Query := .ariadneParameters 2 dPolicyExample pPolicyExample

theorem lateQuery_fetch (published : Bool) :
    lateQuery.fetch lateLibraries (lateDb published) =
      .ok (.ariadneParameters (2, dPolicyExample, pPolicyExample) ⟨⟨1, 1⟩, []⟩) := by
  have heq : getAriadneParameters lateLibraries (lateDb published) 2 dPolicyExample
      pPolicyExample = .ok ⟨⟨1, 1⟩, []⟩ :=
    (@getAriadneParameters_eq_parametersAt _ _ _ lateScripts _ (lateDb_ledger published) (le_refl 2)
      (by decide)).trans (parametersAt_eq_ok.mpr
        ⟨lateDb_dParameter published, lateDb_permissioned published⟩)
  rw [lateQuery, Query.fetch, heq]
  rfl

private theorem getLatestStableEpoch_zero :
    getLatestStableEpoch (lateDb false) 1 = .error (.candidates (.sqlx (.columnDecode "0"))) := by
  have hrows : stableRows (lateDb false) 1 =
      [(referenceBlock, RegistrationsInForce.chainBlock 2)] := by
    decide
  rw [getLatestStableEpoch, if_neg (by decide), hrows,
    orderByDesc_of_pairwise (List.pairwise_singleton _ _)]
  rfl

/-- The state after the query was asked. -/
theorem lateQuery_unseen (published : Bool) :
    Run ((candidateRequests lateLibraries listSource).provided fun c env' =>
        Settled listSource.securityParameter c.env env') (initially listSource (lateDb published))
      ⟨⟨lateDb published, []⟩, listSource.new, [⟨lateQuery, .unseen 0⟩]⟩ := by
  have hasked : Run ((candidateRequests lateLibraries listSource).provided fun c env' =>
        Settled listSource.securityParameter c.env env') (initially listSource (lateDb published))
      ⟨⟨lateDb published, []⟩, listSource.new, [⟨lateQuery, .asked⟩]⟩ :=
    Run.refl.step (.start rfl)
  exact hasked.goOn rfl

/-- The request fails, which the inner source answers. -/
theorem epochZero_fails :
    listSource.Lawful ∧ ValidDb (lateDb false) ∧
      ∃ c c', Run (candidateRequests lateLibraries listSource)
          (initially listSource (lateDb false)) c ∧
        Step (candidateRequests lateLibraries listSource) c
          (some (⟨lateQuery, .unseen 0⟩, .error (.candidates (.sqlx (.columnDecode "0"))))) c' ∧
        lateQuery.uncached lateLibraries c.env.db =
          .ok (.ariadneParameters ⟨⟨1, 1⟩, []⟩) := by
  have hturn : (candidateRequests lateLibraries listSource).turn ⟨lateDb false, []⟩ listSource.new
      ⟨lateQuery, .unseen 0⟩ =
      .done (.error (.candidates (.sqlx (.columnDecode "0")))) listSource.new := by
    have hepoch : getLatestStableEpoch (lateDb false) listSource.securityParameter =
        .error (.candidates (.sqlx (.columnDecode "0"))) := getLatestStableEpoch_zero
    simp only [candidateRequests, turn, hepoch]
  exact ⟨listSource_lawful, lateDb_valid false, _, _, (lateQuery_unseen false).weaken,
    .ofDone _ hturn, uncached_of_fetch (lateQuery_fetch false)⟩

/-- With block 4, block 3 of epoch 1 is stable. -/
theorem getLatestStableEpoch_one : getLatestStableEpoch (lateDb true) 1 = .ok (some 0) := by
  have hrows : stableRows (lateDb true) 1 =
      [(referenceBlock, RegistrationsInForce.chainBlock 2),
        ({ RegistrationsInForce.chainBlock 4 with epochNo := some 1 }, referenceBlock)] := by
    decide
  have hhead : (orderByDesc (fun row => sortKey row.1.blockNo) (stableRows (lateDb true) 1)).head? =
      some ({ RegistrationsInForce.chainBlock 4 with epochNo := some 1 }, referenceBlock) := by
    cases hhead : (orderByDesc (fun row => sortKey row.1.blockNo)
        (stableRows (lateDb true) 1)).head? with
    | none =>
        rw [head?_orderByDesc_eq_none, hrows] at hhead
        cases hhead
    | some row =>
        obtain ⟨hmem, hmax⟩ := head?_orderByDesc hhead
        rw [hrows] at hmem hmax
        rcases List.mem_cons.mp hmem with rfl | hmem
        · exact absurd (hmax _ (List.mem_cons_of_mem _ (List.mem_singleton_self _))) (by decide)
        · rw [List.mem_singleton.mp hmem]
  rw [getLatestStableEpoch, if_neg (by decide), fetchOptional, hhead]
  rfl

/-- What `lateQuery` reads, as the cache keeps it. -/
def lateEntry : Entry :=
  .ariadneParameters (2, dPolicyExample, pPolicyExample) ⟨⟨1, 1⟩, []⟩

private theorem lateQuery_fetched :
    Run ((candidateRequests lateLibraries listSource).provided fun c env' =>
        Settled listSource.securityParameter c.env env') (initially listSource (lateDb true))
      ⟨⟨lateDb true, []⟩, listSource.new.see (some 0), [⟨lateQuery, .fetched lateEntry⟩]⟩ := by
  have hseen : Run ((candidateRequests lateLibraries listSource).provided fun c env' =>
        Settled listSource.securityParameter c.env env') (initially listSource (lateDb true))
      ⟨⟨lateDb true, []⟩, listSource.new, [⟨lateQuery, .seen 0 (some 0)⟩]⟩ := by
    refine (lateQuery_unseen true).goOn ?_
    have hepoch : getLatestStableEpoch (lateDb true) listSource.securityParameter =
        .ok (some 0) := getLatestStableEpoch_one
    simp only [System.provided, candidateRequests, turn, hepoch]
  have hcaching : Run ((candidateRequests lateLibraries listSource).provided fun c env' =>
        Settled listSource.securityParameter c.env env') (initially listSource (lateDb true))
      ⟨⟨lateDb true, []⟩, listSource.new.see (some 0), [⟨lateQuery, .caching⟩]⟩ := hseen.goOn rfl
  have hmissed : Run ((candidateRequests lateLibraries listSource).provided fun c env' =>
        Settled listSource.securityParameter c.env env') (initially listSource (lateDb true))
      ⟨⟨lateDb true, []⟩, listSource.new.see (some 0), [⟨lateQuery, .missed⟩]⟩ := hcaching.goOn rfl
  refine hmissed.goOn ?_
  simp only [System.provided, candidateRequests, turn, lateQuery_fetch, Except.mapError]
  rfl

/-! The chain grows by block 5 after the request, and the next request finds the
answer in the cache. -/

/-- The block that follows those of `lateDb true`. -/
def fifthBlock : BlockRow := { RegistrationsInForce.chainBlock 5 with epochNo := some 1 }

/-- `lateDb true` one block later. -/
def longerDb : Db LateJson :=
  { lateDb true with
    block := (lateDb true).block ++ [fifthBlock]
    block_pkey := by decide
    block_words := by decide
    tx_block_id_fkey := by decide
    unique_block_hash := by decide
    numbered_complete := by decide
    chain := by decide }

private theorem longerDb_valid : ValidDb longerDb where
  ledger :=
    { unique_txout := (lateDb_ledger true).unique_txout
      tx_out_tx_id_fkey := (lateDb_ledger true).tx_out_tx_id_fkey
      tx_in_tx_in_id_fkey := (lateDb_ledger true).tx_in_tx_in_id_fkey
      unique_datum := (lateDb_ledger true).unique_datum
      txindex := (lateDb_ledger true).txindex
      consumes_output := (lateDb_ledger true).consumes_output
      spent_once := (lateDb_ledger true).spent_once
      numbered := by decide
      epoch_numbered := by decide
      stake_lt := (lateDb_ledger true).stake_lt }
  ordinary address := by
    have hall : ∀ o ∈ longerDb.txOut, ∀ t ∈ longerDb.tx, t.id = o.txId →
        ∀ b ∈ longerDb.block, b.id = t.blockId → b.blockNo.isSome →
          ∃ i ∈ longerDb.txIn, i.txInId = o.txId := by decide
    exact fun o ho _ => hall o ho

/-- Blocks 2 and 3 are one block deep. -/
theorem deep_lateDb {R : Block} (h : Deep 1 (lateDb true) R) :
    R = ⟨2, FixedBytes.replicate 32 2, 0, 2, 2⟩ ∨ R = referenceView := by
  obtain ⟨⟨row, hrow, hdecode⟩, hle⟩ := h
  have hall : ∀ row ∈ (lateDb true).block, row.blockNo.getD 0 + 1 ≤ 4 →
      row.blockNo = none ∨ row.decode = .ok ⟨2, FixedBytes.replicate 32 2, 0, 2, 2⟩ ∨
        row.decode = .ok referenceView := by decide
  have hn := (BlockRow.decode_eq_ok hdecode).1
  rcases hall row hrow (by rw [hn]; exact hle) with hnone | hsecond | hthird
  · rw [hn] at hnone
    cases hnone
  · exact Or.inl (Except.ok.inj (hdecode.symm.trans hsecond))
  · exact Or.inr (Except.ok.inj (hdecode.symm.trans hthird))

private theorem longerDb_samePrefix {R : Block} (h : Deep 1 (lateDb true) R) :
    SamePrefix (lateDb true) longerDb R := by
  have htables : (∃ b ∈ (lateDb true).block, b.decode = .ok R) ∧
      (∃ b ∈ longerDb.block, b.decode = .ok R) ∧
      (outputsUpTo (lateDb true) R).Perm (outputsUpTo longerDb R) ∧
      (inputsUpTo (lateDb true) R).Perm (inputsUpTo longerDb R) ∧
      (tokensUpTo (lateDb true) R).Perm (tokensUpTo longerDb R) := by
    rcases deep_lateDb h with rfl | rfl <;> decide
  obtain ⟨hblock, hblock', houtputs, hinputs, htokens⟩ := htables
  refine ⟨hblock, hblock', houtputs, hinputs, htokens, fun _ _ => List.Perm.refl _,
    fun _ _ => List.Perm.refl _, ?_⟩
  intro epoch _
  simp [noncesOf, lateDb, Db.empty]

/-- No datum is added. -/
theorem longerDb_resolvedAlike (R : Block) : ResolvedAlike (lateDb true) longerDb R := by
  intro r r' _ _ hview _
  have hhash : r'.txOut.dataHash = r.txOut.dataHash := congrArg OutputView.dataHash hview
  simp only [datumValue, hhash]
  rfl

private theorem longerDb_changes (caches : Caches listSource) :
    ((candidateRequests lateLibraries listSource).provided fun c env' =>
        Settled listSource.securityParameter c.env env').Changes
      ⟨⟨lateDb true, []⟩, caches, []⟩ ⟨longerDb, [lateDb true]⟩ := by
  refine ⟨⟨rfl, longerDb_valid, fun R h => longerDb_samePrefix h, ?_⟩, ?_, ?_⟩
  · intro R h
    show datumsUpTo (lateDb true) R ⊆ datumsUpTo longerDb R
    rcases deep_lateDb h with rfl | rfl <;> decide
  · rintro R ⟨db, hdb, h⟩
    rw [List.mem_singleton.mp hdb] at h
    exact longerDb_samePrefix h
  · exact fun R _ => longerDb_resolvedAlike R

private theorem longerDb_highestStable {R : Block} (h : HighestStable 1 longerDb R) :
    R.epochNo ≠ 0 := by
  have hrows : ∀ row ∈ longerDb.block, 4 ≤ row.blockNo.getD 0 → row.epochNo = some 1 := by
    decide
  have hle : 4 ≤ R.blockNo :=
    h.highest ⟨4, FixedBytes.replicate 32 4, 1, 4, 4⟩ ⟨5, FixedBytes.replicate 32 5, 1, 5, 5⟩
      ⟨{ RegistrationsInForce.chainBlock 4 with epochNo := some 1 }, by decide, rfl⟩
      ⟨fifthBlock, by decide, rfl⟩ rfl
  obtain ⟨row, hrow, hdecode⟩ := h.hasBlock
  obtain ⟨hn, -, he, -⟩ := BlockRow.decode_eq_ok hdecode
  have hone := hrows row hrow (by rw [hn]; exact hle)
  rw [he] at hone
  rw [Option.some.inj hone]
  decide

/-- After the first request the entry is in the cache. -/
def lateCaches : Caches listSource := (listSource.new.see (some 0)).put lateEntry

private theorem lateQuery_cached :
    Run ((candidateRequests lateLibraries listSource).provided fun c env' =>
        Settled listSource.securityParameter c.env env') (initially listSource (lateDb true))
      ⟨⟨longerDb, [lateDb true]⟩, lateCaches, [⟨lateQuery, .caching⟩]⟩ := by
  have hanswered : Run ((candidateRequests lateLibraries listSource).provided fun c env' =>
        Settled listSource.securityParameter c.env env') (initially listSource (lateDb true))
      ⟨⟨lateDb true, []⟩, lateCaches, []⟩ := lateQuery_fetched.step (.ofDone _ rfl)
  have hasked : Run ((candidateRequests lateLibraries listSource).provided fun c env' =>
        Settled listSource.securityParameter c.env env') (initially listSource (lateDb true))
      ⟨⟨longerDb, [lateDb true]⟩, lateCaches, [⟨lateQuery, .asked⟩]⟩ :=
    (hanswered.step (.change (longerDb_changes lateCaches))).step (.start rfl)
  exact hasked.goOn rfl

/-- The answer from the cache is the one of the longer chain. -/
theorem cached_transparent_late :
    (lateCaches.get lateQuery).1 = some lateEntry ∧
      (Except.ok lateEntry.response : Answer).map Response.unordered =
        (lateQuery.uncached lateLibraries longerDb).map Response.unordered :=
  ⟨rfl, cached_transparent listSource_lawful (by decide) (lateDb_valid true) lateQuery_cached
    (.ofDone _ rfl) (fun _ => longerDb_highestStable) ⟨by decide, by decide⟩⟩

end PartnerChains.Ports.CandidatesCache
