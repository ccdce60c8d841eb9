import GoldfishRadio.AtChannel.Conversation

/-!
# Which command a returned reply answers

The modem answers the commands written through a `RequestPipe` in order, each reply
carrying the ghost number of its command. Nothing in the code ties a reply to its command,
so a call returns whatever reply its filter accepts first, which can answer a command
written without waiting or one whose call timed out. What holds is that it answers the
call's own command or one whose reply was unread when the call armed. Every step of the
link is a step of the conversation model, so the invariants of `Conversation` carry over.
-/

namespace GoldfishRadio

namespace AtChannel

variable {P : Type}

/-- A reply of the modem, tagged (ghost) with the number of the command it answers. -/
structure Reply (P : Type) where
  cmd : Nat
  payload : P

/-- The channel with the modem at its other end. -/
structure Link (P : Type) where
  conv : State (Reply P)
  /-- The replies the modem still owes, in command order. -/
  modem : List (Reply P)
  /-- The reply the reader is broadcasting and the next conversation it goes to. -/
  reader : Option (Reply P × Nat)
  /-- The commands written so far (ghost). -/
  cmds : Nat
  /-- The command each call wrote (ghost). -/
  ownCmd : Nat → Nat
  /-- The commands whose replies were unread when each call armed (ghost). -/
  pendingAtArm : Nat → List Nat

namespace Link

def init : Link P := ⟨State.init, [], none, 0, fun _ => 0, fun _ => []⟩

/-- The commands whose replies are written but not yet broadcast. -/
def outstanding (l : Link P) : List Nat :=
  l.modem.map Reply.cmd ++ (l.reader.map fun x => x.1.cmd).toList

/-- A call arms: the conversation's arm, and the ghost record of the command the call is
about to write and of the replies still unread. -/
def arm (l : Link P) (c : Nat) (f : Reply P → Bool) : Link P :=
  { l with conv := l.conv.arm c f,
           ownCmd := Function.update l.ownCmd l.conv.calls l.cmds,
           pendingAtArm := Function.update l.pendingAtArm l.conv.calls l.outstanding }

/-- A write through the `RequestPipe`: the modem owes the reply `answer`. -/
def write (l : Link P) (answer : P) : Link P :=
  { l with modem := l.modem ++ [⟨l.cmds, answer⟩], cmds := l.cmds + 1 }

/-- `s.send i r` from `broadcastResponse`, then on to the next of the `nConvs`
conversations. -/
def broadcast (nConvs : Nat) (l : Link P) (r : Reply P) (i : Nat) : Link P :=
  { l with conv := l.conv.send i r,
           reader := if i + 1 < nConvs then some (r, i + 1) else none }

end Link

section

variable (nConvs : Nat)

/-- One step of the request worker, the modem or the reader thread. -/
inductive LinkStep : Link P → Link P → Prop
  | arm {l : Link P} (c : Nat) (f : Reply P → Bool) :
      l.conv.worker = .idle → LinkStep l (l.arm c f)
  | written {l : Link P} {c n : Nat} {f : Reply P → Bool} (answer : P) :
      l.conv.worker = .armed c n f →
      LinkStep l { l.write answer with conv := { l.conv with worker := .waiting c n f } }
  | writeFailed {l : Link P} {c n : Nat} {f : Reply P → Bool} :
      l.conv.worker = .armed c n f → LinkStep l { l with conv := l.conv.disarm c n }
  | ready {l : Link P} {c n : Nat} {f : Reply P → Bool} {v : Reply P} :
      l.conv.worker = .waiting c n f → (l.conv.convs c).mSink.value = some v →
      LinkStep l { l with conv := l.conv.returnValue n v }
  | timedOut {l : Link P} {c n : Nat} {f : Reply P → Bool} :
      l.conv.worker = .waiting c n f → (l.conv.convs c).mSink.value = none →
      LinkStep l { l with conv := { l.conv with worker := .timedOut c n f } }
  | disarm {l : Link P} {c n : Nat} {f : Reply P → Bool} :
      l.conv.worker = .timedOut c n f → LinkStep l { l with conv := l.conv.disarm c n }
  /-- A requester that writes without a `Conversation`. -/
  | writeUnwaited {l : Link P} (answer : P) : l.conv.worker = .idle → LinkStep l (l.write answer)
  | receive {l : Link P} {r : Reply P} {rest : List (Reply P)} :
      l.reader = none → l.modem = r :: rest →
      LinkStep l { l with modem := rest, reader := some (r, 0) }
  | broadcast {l : Link P} {r : Reply P} {i : Nat} :
      l.reader = some (r, i) → LinkStep l (l.broadcast nConvs r i)

def Link.Reachable (l : Link P) : Prop := Relation.ReflTransGen (LinkStep nConvs) Link.init l

theorem LinkStep.conv {l l' : Link P} (h : LinkStep nConvs l l') :
    l'.conv = l.conv ∨ Step l.conv l'.conv := by
  cases h with
  | arm c f hw => exact .inr (Step.arm c f hw)
  | written _ hw => exact .inr (Step.written hw)
  | writeFailed hw => exact .inr (Step.writeFailed hw)
  | ready hw hv => exact .inr (Step.ready hw hv)
  | timedOut hw hv => exact .inr (Step.timedOut hw hv)
  | disarm hw => exact .inr (Step.disarm hw)
  | writeUnwaited _ _ => exact .inl rfl
  | receive _ _ => exact .inl rfl
  | broadcast _ => exact .inr (Step.send _ _)

/-- The link refines the conversation model. -/
theorem Link.reachable_conv {l : Link P} (h : Link.Reachable nConvs l) :
    AtChannel.Reachable l.conv := by
  induction h with
  | refl => exact Relation.ReflTransGen.refl
  | tail _ hstep ih =>
    rcases hstep.conv with he | hs
    · exact he ▸ ih
    · exact ih.tail hs

end

/-- A reply call `n` may return: one to its own command or to a command whose reply was
unread when it armed. -/
def Link.Allowed (l : Link P) (n : Nat) (r : Reply P) : Prop :=
  r.cmd = l.ownCmd n ∨ r.cmd ∈ l.pendingAtArm n

/-- The attribution invariant. -/
structure AttributionInv (l : Link P) : Prop where
  ret_lt : ∀ n v, .ret n v ∈ l.conv.trace → n < l.conv.calls
  armed_cmds : ∀ c n f, l.conv.worker = .armed c n f → l.cmds = l.ownCmd n
  modem_allowed : ∀ c n f, l.conv.worker.current = some (c, n, f) →
    ∀ r ∈ l.modem, l.Allowed n r
  reader_allowed : ∀ c n f, l.conv.worker.current = some (c, n, f) →
    ∀ r i, l.reader = some (r, i) → l.Allowed n r
  sink_allowed : ∀ c n f, l.conv.worker.current = some (c, n, f) →
    ∀ v, (l.conv.convs c).mSink.value = some v → l.Allowed n v
  ret_allowed : ∀ n v, .ret n (some v) ∈ l.conv.trace → l.Allowed n v

namespace AttributionInv

variable {l : Link P}

theorem init : AttributionInv (Link.init : Link P) where
  ret_lt := by simp [Link.init, State.init]
  armed_cmds := by simp [Link.init, State.init]
  modem_allowed := by simp [Link.init]
  reader_allowed := by simp [Link.init]
  sink_allowed := by simp [Link.init, State.init, Worker.current]
  ret_allowed := by simp [Link.init, State.init]

theorem frame {l' : Link P} (hi : AttributionInv l) (hconvs : l'.conv.convs = l.conv.convs)
    (htrace : l'.conv.trace = l.conv.trace) (hcalls : l'.conv.calls = l.conv.calls)
    (hcur : l'.conv.worker.current = l.conv.worker.current)
    (ho : l'.ownCmd = l.ownCmd) (hp : l'.pendingAtArm = l.pendingAtArm)
    (harmed : ∀ c n f, l'.conv.worker = .armed c n f → l'.cmds = l'.ownCmd n)
    (hm : ∀ c n f, l.conv.worker.current = some (c, n, f) → ∀ r ∈ l'.modem, l.Allowed n r)
    (hr : ∀ c n f, l.conv.worker.current = some (c, n, f) →
      ∀ r i, l'.reader = some (r, i) → l.Allowed n r) :
    AttributionInv l' := by
  have ha : l'.Allowed = l.Allowed := by
    funext n r; simp only [Link.Allowed, ho, hp]
  refine ⟨?_, harmed, ?_, ?_, ?_, ?_⟩
  · rw [htrace, hcalls]; exact hi.ret_lt
  · rw [hcur, ha]; exact hm
  · rw [hcur, ha]; exact hr
  · rw [hcur, hconvs, ha]; exact hi.sink_allowed
  · rw [htrace, ha]; exact hi.ret_allowed

theorem arm (hi : AttributionInv l) {c : Nat} {f : Reply P → Bool} :
    AttributionInv (l.arm c f) := by
  have hold : ∀ n, n < l.conv.calls → (l.arm c f).Allowed n = l.Allowed n := fun n hn => by
    funext r
    simp [Link.Allowed, Link.arm, Function.update_noteq (Nat.ne_of_lt hn)]
  have hnew : ∀ r, r.cmd ∈ l.outstanding → (l.arm c f).Allowed l.conv.calls r := fun r hr =>
    .inr (by simpa [Link.arm] using hr)
  -- The call in progress is the new one, on `c` with `f`.
  have hcur : ∀ c' n f', (l.arm c f).conv.worker.current = some (c', n, f') →
      c' = c ∧ n = l.conv.calls ∧ f' = f := fun c' n f' h => by
    simp only [Link.arm, State.arm, Worker.current, Option.some.injEq, Prod.mk.injEq] at h
    exact ⟨h.1.symm, h.2.1.symm, h.2.2.symm⟩
  exact
    { ret_lt := fun n v h => by
        simp only [Link.arm, State.arm, List.mem_append, List.mem_singleton, reduceCtorEq,
          or_false] at h ⊢
        have := hi.ret_lt n v h
        omega
      armed_cmds := fun c' n f' h => by
        simp only [Link.arm, State.arm, Worker.armed.injEq] at h ⊢
        obtain ⟨-, rfl, -⟩ := h
        simp
      modem_allowed := fun c' n f' h => by
        obtain ⟨-, rfl, -⟩ := hcur c' n f' h
        exact fun r hr => hnew r (List.mem_append_left _ (List.mem_map_of_mem _ hr))
      reader_allowed := fun c' n f' h r i hr => by
        obtain ⟨-, rfl, -⟩ := hcur c' n f' h
        exact hnew r (List.mem_append_right _ (by rw [show l.reader = some (r, i) from hr]; simp))
      sink_allowed := fun c' n f' h => by
        obtain ⟨rfl, rfl, -⟩ := hcur c' n f' h
        simp [Link.arm, State.arm]
      ret_allowed := fun n v h => by
        simp only [Link.arm, State.arm, List.mem_append, List.mem_singleton, reduceCtorEq,
          or_false] at h
        rw [hold n (hi.ret_lt n _ h)]
        exact hi.ret_allowed n v h }

theorem of_return {l' : Link P} (hi : AttributionInv l) {n : Nat} {v : Option (Reply P)}
    (hn : n < l.conv.calls) (hw : l'.conv.worker = .idle)
    (ht : l'.conv.trace = l.conv.trace ++ [.ret n v]) (hcalls : l'.conv.calls = l.conv.calls)
    (ho : l'.ownCmd = l.ownCmd) (hp : l'.pendingAtArm = l.pendingAtArm)
    (hv : ∀ r, v = some r → l.Allowed n r) : AttributionInv l' := by
  have ha : l'.Allowed = l.Allowed := by
    funext n r; simp only [Link.Allowed, ho, hp]
  have hidle : l'.conv.worker.current = none := by rw [hw]; rfl
  exact
    { ret_lt := fun m r h => by
        rw [ht, List.mem_append, List.mem_singleton] at h
        rw [hcalls]
        rcases h with h | h
        · exact hi.ret_lt m r h
        · cases h; exact hn
      armed_cmds := fun c m f h => by rw [hw] at h; cases h
      modem_allowed := fun c m f h => by rw [hidle] at h; cases h
      reader_allowed := fun c m f h => by rw [hidle] at h; cases h
      sink_allowed := fun c m f h => by rw [hidle] at h; cases h
      ret_allowed := fun m r h => by
        rw [ha]
        rw [ht, List.mem_append, List.mem_singleton] at h
        rcases h with h | h
        · exact hi.ret_allowed m r h
        · cases h; exact hv r rfl }

theorem broadcast (nConvs : Nat) (hi : AttributionInv l) {r : Reply P} {i : Nat}
    (hr : l.reader = some (r, i)) : AttributionInv (l.broadcast nConvs r i) := by
  obtain ⟨e, he⟩ := State.send_trace l.conv i r
  have hmem : ∀ n v, .ret n v ∈ (l.broadcast nConvs r i).conv.trace → .ret n v ∈ l.conv.trace :=
    fun n v h => by simpa [Link.broadcast, he] using h
  have hw : (l.broadcast nConvs r i).conv.worker = l.conv.worker := State.send_worker _ _ _
  exact
    { ret_lt := fun n v h => by simpa [Link.broadcast] using hi.ret_lt n v (hmem n v h)
      armed_cmds := fun c n f h => hi.armed_cmds c n f (hw ▸ h)
      modem_allowed := fun c n f h => hi.modem_allowed c n f (hw ▸ h)
      reader_allowed := fun c n f h r' i' h' => by
        simp only [Link.broadcast] at h'
        split at h'
        · cases h'; exact hi.reader_allowed c n f (hw ▸ h) r i hr
        · cases h'
      sink_allowed := fun c n f h v hv => by
        rcases State.send_sink_value l.conv i c r v hv with hv | rfl
        · exact hi.sink_allowed c n f (hw ▸ h) v hv
        · exact hi.reader_allowed c n f (hw ▸ h) _ i hr
      ret_allowed := fun n v h => hi.ret_allowed n v (hmem n _ h) }

theorem step (nConvs : Nat) (hi : AttributionInv l) (hc : Inv l.conv) {l' : Link P}
    (h : LinkStep nConvs l l') : AttributionInv l' := by
  cases h with
  | arm c f _ => exact hi.arm
  | @written c n f answer hw =>
    have hcur : l.conv.worker.current = some (c, n, f) := by rw [hw]; rfl
    refine hi.frame rfl rfl rfl (by rw [hcur]; rfl) rfl rfl
      (fun _ _ _ h => by cases h) (fun c' n' f' h r hr => ?_) hi.reader_allowed
    rw [hcur] at h
    obtain ⟨rfl, rfl, rfl⟩ : c = c' ∧ n = n' ∧ f = f' := by simpa using h
    rcases List.mem_append.mp hr with hr | hr
    · exact hi.modem_allowed c n f hcur r hr
    · rw [List.mem_singleton] at hr
      subst hr
      exact .inl (hi.armed_cmds c n f hw)
  | @writeFailed c n f hw =>
    have hcur : l.conv.worker.current = some (c, n, f) := by rw [hw]; rfl
    exact hi.of_return (hc.current_owner c n f hcur).2 rfl rfl rfl rfl rfl (by simp)
  | @ready c n f v hw hv =>
    have hcur : l.conv.worker.current = some (c, n, f) := by rw [hw]; rfl
    exact hi.of_return (hc.current_owner c n f hcur).2 rfl rfl rfl rfl rfl
      (fun r hr => by cases hr; exact hi.sink_allowed c n f hcur v hv)
  | @timedOut c n f hw _ =>
    refine hi.frame rfl rfl rfl (by simp [hw, Worker.current]) rfl rfl
      (fun _ _ _ h => by cases h) hi.modem_allowed hi.reader_allowed
  | @disarm c n f hw =>
    have hcur : l.conv.worker.current = some (c, n, f) := by rw [hw]; rfl
    exact hi.of_return (hc.current_owner c n f hcur).2 rfl rfl rfl rfl rfl (by simp)
  | writeUnwaited answer hw =>
    refine hi.frame rfl rfl rfl rfl rfl rfl (fun _ _ _ h => by simp [Link.write, hw] at h)
      (fun _ _ _ h => by simp [hw, Worker.current] at h)
      (fun _ _ _ h => by simp [hw, Worker.current] at h)
  | @receive r rest hnone hm =>
    refine hi.frame rfl rfl rfl rfl rfl rfl hi.armed_cmds
      (fun c n f h r' hr' => hi.modem_allowed c n f h r' (by rw [hm]; exact .tail _ hr'))
      (fun c n f h r' i h' => ?_)
    cases h'
    exact hi.modem_allowed c n f h r (by rw [hm]; exact .head _)
  | broadcast hr => exact hi.broadcast nConvs hr

end AttributionInv

theorem Link.reachable_attributionInv (nConvs : Nat) {l : Link P}
    (h : Link.Reachable nConvs l) : AttributionInv l := by
  induction h with
  | refl => exact AttributionInv.init
  | tail hr hstep ih => exact ih.step nConvs (reachable_inv (Link.reachable_conv nConvs hr)) hstep

/-- Reply attribution as it holds: a response a call returns answers the command the call
wrote, or a command written earlier whose reply was still unread when the call armed. -/
theorem reachable_reply_attribution (nConvs : Nat) {l : Link P} (h : Link.Reachable nConvs l)
    {n : Nat} {v : Reply P} (hv : .ret n (some v) ∈ l.conv.trace) :
    v.cmd = l.ownCmd n ∨ v.cmd ∈ l.pendingAtArm n :=
  (Link.reachable_attributionInv nConvs h).ret_allowed n v hv

/-- A filter that accepts `OK`, the payload `0`. -/
def okFilter (r : Reply Nat) : Bool := r.payload == 0

/-- `hangup` writes command `0` without waiting; the next call arms with `okFilter` and
writes command `1`; the reader broadcasts the reply to command `0` (an `OK`), the call's
filter claims it, and the call returns it. -/
def afterHangup : Link Nat :=
  let l2 := ((Link.init : Link Nat).write 0).arm 0 okFilter
  let l3 : Link Nat := { l2.write 0 with conv := { l2.conv with worker := .waiting 0 0 okFilter } }
  let l5 := ({ l3 with modem := [⟨1, 0⟩], reader := some (⟨0, 0⟩, 0) } : Link Nat).broadcast 1
    ⟨0, 0⟩ 0
  { l5 with conv := l5.conv.returnValue 0 ⟨0, 0⟩ }

theorem afterHangup_reachable : Link.Reachable 1 afterHangup := by
  let l1 := (Link.init : Link Nat).write 0
  let l2 := l1.arm 0 okFilter
  let l3 : Link Nat := { l2.write 0 with conv := { l2.conv with worker := .waiting 0 0 okFilter } }
  let l4 : Link Nat := { l3 with modem := [⟨1, 0⟩], reader := some (⟨0, 0⟩, 0) }
  have h4 : Link.Reachable 1 l4 :=
    ((((Relation.ReflTransGen.single (LinkStep.writeUnwaited 0 rfl : LinkStep 1 Link.init l1)).tail
      (LinkStep.arm 0 okFilter rfl)).tail (LinkStep.written 0 rfl)).tail (LinkStep.receive rfl rfl))
  exact (h4.tail (LinkStep.broadcast rfl)).tail (LinkStep.ready rfl rfl)

theorem afterHangup_returns : .ret 0 (some ⟨0, 0⟩) ∈ afterHangup.conv.trace :=
  List.mem_append_right _ (List.mem_singleton_self _)

/-- The call wrote command `1` and returned the reply to command `0`. -/
theorem reply_to_unwaited_write_returned :
    Link.Reachable 1 afterHangup ∧ .ret 0 (some ⟨0, 0⟩) ∈ afterHangup.conv.trace ∧
      afterHangup.ownCmd 0 = 1 :=
  ⟨afterHangup_reachable, afterHangup_returns, rfl⟩

theorem reply_attribution_after_hangup :
    Link.Reachable 1 afterHangup ∧ .ret 0 (some ⟨0, 0⟩) ∈ afterHangup.conv.trace ∧
      ((⟨0, 0⟩ : Reply Nat).cmd = afterHangup.ownCmd 0 ∨
        (⟨0, 0⟩ : Reply Nat).cmd ∈ afterHangup.pendingAtArm 0) :=
  ⟨afterHangup_reachable, afterHangup_returns,
    reachable_reply_attribution 1 afterHangup_reachable afterHangup_returns⟩

end AtChannel

end GoldfishRadio
