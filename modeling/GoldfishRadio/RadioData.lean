import GoldfishRadio.IdAllocator

/-!
# Ownership of data-call ids

`RadioData` takes the cids of its data calls and its keepalive handles from one
`IdAllocator`, each locked section of `setupDataCall`, `deactivateDataCall`,
`startKeepalive` and `stopKeepalive` being one step. The allocated ids are exactly those
held by `mDataCalls`, `mKeepAliveSessions` and the operations in progress, none twice, so
`put` only receives a live id. Between the two sections of `stopKeepalive` an id is
allocated but held by nothing.
-/

namespace GoldfishRadio

/-- An operation in progress that holds an id between two locked sections. -/
inductive Op
  /-- A `setupDataCall` requester after `allocateId`. -/
  | setupDataCall (cid : Int)
  /-- `startKeepalive` between `allocateId` and the insert. -/
  | startKeepalive (sessionHandle : Int)
  /-- `stopKeepalive` between the erase and `releaseId`. -/
  | stopKeepalive (sessionHandle : Int)
  deriving DecidableEq

def Op.id : Op → Int
  | .setupDataCall x | .startKeepalive x | .stopKeepalive x => x

/-- `std::set::insert` and `std::map::insert`: a key already there is left alone. -/
def insertKey (x : Int) (l : List Int) : List Int := if x ∈ l then l else x :: l

/-- The fields of `RadioData` the ids go through: the keys of `mDataCalls` (the
`SetupDataCallResult` values are left out) and `mKeepAliveSessions`. -/
structure RadioData where
  mIdAllocator : IdAllocator
  mDataCalls : List Int
  mKeepAliveSessions : List Int
  /-- The operations in progress (ghost). -/
  threads : List Op

namespace RadioData

def init : RadioData := ⟨IdAllocator.init, [], [], []⟩

/-- `allocateId()`, by the operation `op` that then holds the id. -/
def allocateId (st : RadioData) (op : Int → Op) : RadioData :=
  { st with mIdAllocator := st.mIdAllocator.get.1,
            threads := op st.mIdAllocator.get.2 :: st.threads }

/-- `releaseId(op.id)`, ending `op`. -/
def releaseId (st : RadioData) (op : Op) : RadioData :=
  { st with mIdAllocator := st.mIdAllocator.put op.id, threads := st.threads.erase op }

/-- The locked section of `setupDataCall` that records a call it set up. -/
def insertDataCall (st : RadioData) (cid : Int) : RadioData :=
  { st with mDataCalls := insertKey cid st.mDataCalls,
            threads := st.threads.erase (.setupDataCall cid) }

def deactivateDataCall (st : RadioData) (cid : Int) : RadioData :=
  if cid ∈ st.mDataCalls then
    { st with mDataCalls := st.mDataCalls.erase cid, mIdAllocator := st.mIdAllocator.put cid }
  else st

/-- The second locked section of `startKeepalive`. -/
def insertSession (st : RadioData) (sessionHandle : Int) : RadioData :=
  { st with mKeepAliveSessions := insertKey sessionHandle st.mKeepAliveSessions,
            threads := st.threads.erase (.startKeepalive sessionHandle) }

/-- The first locked section of `stopKeepalive`; a handle it removed is released next. -/
def eraseSession (st : RadioData) (sessionHandle : Int) : RadioData :=
  if sessionHandle ∈ st.mKeepAliveSessions then
    { st with mKeepAliveSessions := st.mKeepAliveSessions.erase sessionHandle,
              threads := .stopKeepalive sessionHandle :: st.threads }
  else st

end RadioData

open RadioData

/-- One locked section of `setupDataCall`, `deactivateDataCall`, `startKeepalive` or
`stopKeepalive`. Every `goto failed` of `setupDataCall` is `setupFailed`. -/
inductive DataStep : RadioData → RadioData → Prop
  | setupAllocate {st : RadioData} : DataStep st (st.allocateId .setupDataCall)
  | setupFailed {st : RadioData} {cid : Int} :
      .setupDataCall cid ∈ st.threads → DataStep st (st.releaseId (.setupDataCall cid))
  | setupSucceeded {st : RadioData} {cid : Int} :
      .setupDataCall cid ∈ st.threads → DataStep st (st.insertDataCall cid)
  | deactivate {st : RadioData} (cid : Int) : DataStep st (st.deactivateDataCall cid)
  | startAllocate {st : RadioData} : DataStep st (st.allocateId .startKeepalive)
  | startInsert {st : RadioData} {sessionHandle : Int} :
      .startKeepalive sessionHandle ∈ st.threads → DataStep st (st.insertSession sessionHandle)
  | stopErase {st : RadioData} (sessionHandle : Int) :
      DataStep st (st.eraseSession sessionHandle)
  | stopRelease {st : RadioData} {sessionHandle : Int} :
      .stopKeepalive sessionHandle ∈ st.threads →
      DataStep st (st.releaseId (.stopKeepalive sessionHandle))

namespace RadioData

def Reachable (st : RadioData) : Prop := Relation.ReflTransGen DataStep init st

/-- Every id some part of `RadioData` owns: data calls, sessions, operations in progress. -/
def ids (st : RadioData) : List Int :=
  st.mDataCalls ++ st.mKeepAliveSessions ++ st.threads.map Op.id

/-- The invariant: no id has two owners, and the allocator is in the state its own get/put
history with live puts leads to, with exactly the owned ids handed out. -/
structure Inv (st : RadioData) : Prop where
  nodup : st.ids.Nodup
  allocator : IdAllocator.Reachable st.mIdAllocator st.ids.toFinset

theorem ids_threads_perm {st : RadioData} {op : Op} (h : op ∈ st.threads) :
    st.ids.Perm (op.id :: (st.mDataCalls ++ st.mKeepAliveSessions ++
      (st.threads.erase op).map Op.id)) :=
  ((List.perm_cons_erase h).map Op.id |>.append_left _).trans List.perm_middle

theorem inv_init : Inv init := ⟨List.nodup_nil, IdAllocator.Reachable.init⟩

theorem Inv.allocateId {st : RadioData} (hi : Inv st) (op : Int → Op) (hop : ∀ x, (op x).id = x) :
    Inv (st.allocateId op) := by
  have hfresh := (IdAllocator.reachable_spec hi.allocator).get_least_free
  have hperm : (st.allocateId op).ids.Perm (st.mIdAllocator.get.2 :: st.ids) := by
    simp only [ids, RadioData.allocateId, List.map_cons, hop]
    exact List.perm_middle
  have hnot : st.mIdAllocator.get.2 ∉ st.ids := fun h => hfresh.2.1 (List.mem_toFinset.mpr h)
  refine ⟨hperm.nodup_iff.mpr (List.nodup_cons.mpr ⟨hnot, hi.nodup⟩), ?_⟩
  rw [List.toFinset_eq_of_perm _ _ hperm, List.toFinset_cons]
  exact hi.allocator.get

theorem Inv.of_put {st st' : RadioData} (hi : Inv st) {x : Int}
    (ha : st'.mIdAllocator = st.mIdAllocator.put x) (hp : st.ids.Perm (x :: st'.ids)) :
    Inv st' := by
  have hnd := hp.nodup_iff.mp hi.nodup
  refine ⟨(List.nodup_cons.mp hnd).2, ?_⟩
  have hput := hi.allocator.put (List.mem_toFinset.mpr (hp.symm.subset (List.mem_cons_self _ _)))
  rwa [List.toFinset_eq_of_perm _ _ hp, List.toFinset_cons,
    Finset.erase_insert (fun h' => (List.nodup_cons.mp hnd).1 (List.mem_toFinset.mp h')), ← ha]
    at hput

theorem Inv.of_perm {st st' : RadioData} (hi : Inv st)
    (ha : st'.mIdAllocator = st.mIdAllocator) (hp : st'.ids.Perm st.ids) : Inv st' :=
  ⟨hp.nodup_iff.mpr hi.nodup, by rw [ha, List.toFinset_eq_of_perm _ _ hp]; exact hi.allocator⟩

/-- The owner an operation in progress hands its id to has not got it yet. -/
theorem Inv.not_mem_of_thread {st : RadioData} (hi : Inv st) {op : Op} (h : op ∈ st.threads) :
    op.id ∉ st.mDataCalls ∧ op.id ∉ st.mKeepAliveSessions := by
  have hnd := List.nodup_cons.mp ((ids_threads_perm h).nodup_iff.mp hi.nodup)
  simp only [List.mem_append, not_or] at hnd
  exact ⟨hnd.1.1.1, hnd.1.1.2⟩

theorem Inv.step {st st' : RadioData} (hi : Inv st) (h : DataStep st st') : Inv st' := by
  cases h with
  | setupAllocate => exact hi.allocateId _ fun _ => rfl
  | setupFailed h => exact hi.of_put rfl (ids_threads_perm h)
  | @setupSucceeded cid h =>
    have hc : cid ∉ st.mDataCalls := (hi.not_mem_of_thread h).1
    refine hi.of_perm rfl (List.Perm.symm ((ids_threads_perm h).trans ?_))
    simp only [ids, insertDataCall, insertKey, if_neg hc, Op.id, List.cons_append]
    exact .refl _
  | deactivate cid =>
    unfold deactivateDataCall
    split
    · rename_i hc
      exact hi.of_put rfl (((List.perm_cons_erase hc).append_right _).append_right _)
    · exact hi
  | startAllocate => exact hi.allocateId _ fun _ => rfl
  | @startInsert x h =>
    refine hi.of_perm rfl (List.Perm.symm ((ids_threads_perm h).trans ?_))
    have hx : x ∉ st.mKeepAliveSessions := (hi.not_mem_of_thread h).2
    simp only [ids, insertSession, insertKey, if_neg hx, Op.id, List.append_assoc,
      List.cons_append]
    exact List.perm_middle.symm
  | stopErase x =>
    unfold eraseSession
    split
    · rename_i hx
      refine hi.of_perm rfl ?_
      simp only [ids, List.map_cons, Op.id, List.append_assoc]
      exact (List.perm_middle.trans ((List.perm_cons_erase hx).symm.append_right _)).append_left _
    · exact hi
  | stopRelease h => exact hi.of_put rfl (ids_threads_perm h)

theorem reachable_inv {st : RadioData} (h : Reachable st) : Inv st := by
  induction h with
  | refl => exact inv_init
  | tail _ hs ih => exact ih.step hs

/-- Id ownership: the ids the allocator has handed out are exactly those of the data
calls, the sessions and the operations in progress (a `stopKeepalive` between its erase
and its release included); no id has two owners; and the allocator's history is one of
`get`s and of `put`s of live ids, so its own invariant holds. -/
structure IdOwnership (st : RadioData) : Prop where
  allocated_iff : ∀ x, st.mIdAllocator.Live x ↔
    x ∈ st.mDataCalls ∨ x ∈ st.mKeepAliveSessions ∨ x ∈ st.threads.map Op.id
  owners_disjoint : st.ids.Nodup
  allocator_history : IdAllocator.Reachable st.mIdAllocator st.ids.toFinset

theorem reachable_idOwnership {st : RadioData} (h : Reachable st) : IdOwnership st := by
  have hi := reachable_inv h
  refine ⟨fun x => ((IdAllocator.reachable_spec hi.allocator).represents x).symm.trans ?_,
    hi.nodup, hi.allocator⟩
  simp only [List.mem_toFinset, ids, List.mem_append, or_assoc]

/-- The ids held by `mDataCalls`, by `mKeepAliveSessions`, and by the `setupDataCall` and
`startKeepalive` calls in progress: every owner but a `stopKeepalive` between its two
locked sections. -/
def claimedOwners (st : RadioData) : List Int :=
  st.mDataCalls ++ st.mKeepAliveSessions ++ st.threads.filterMap fun
    | .stopKeepalive _ => none
    | op => some op.id

/-- `startKeepalive` runs to its end with handle `1`, then `stopKeepalive(1)` takes its
first locked section. -/
def afterStopErase : RadioData := ((init.allocateId .startKeepalive).insertSession 1).eraseSession 1

theorem afterStopErase_reachable : Reachable afterStopErase :=
  ((Relation.ReflTransGen.single DataStep.startAllocate).tail
    (DataStep.startInsert (List.mem_singleton_self _))).tail (DataStep.stopErase 1)

/-- Between the two locked sections of `stopKeepalive` the handle is allocated but is in
neither map and held by no `setupDataCall` or `startKeepalive` in progress. -/
theorem stopKeepalive_window_unowned :
    Reachable afterStopErase ∧ afterStopErase.mIdAllocator.Live 1 ∧
      1 ∉ claimedOwners afterStopErase :=
  ⟨afterStopErase_reachable, by decide, by decide⟩

theorem idOwnership_after_stop_erase : Reachable afterStopErase ∧ IdOwnership afterStopErase :=
  ⟨afterStopErase_reachable, reachable_idOwnership afterStopErase_reachable⟩

end RadioData

end GoldfishRadio
