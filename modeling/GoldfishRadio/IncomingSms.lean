import GoldfishRadio.AtChannel.Stream
import GoldfishRadio.AtChannel.ShortMessages

/-!
# Incoming short messages

The reader parses `+CMT:` and `+CDS:` into records that `RadioMessaging::atResponseSink`
offers to its conversation before `handleUnsolicited`. No filter a `RadioMessaging`
requester arms accepts them, so whatever the chunking of the reads and the requests in
flight, the framework gets one indication per notification, in order, with its PDU.
-/

namespace GoldfishRadio

namespace Messaging

open AtResponse AtChannel

variable {kUnknown : Int}

/-- The indications of `IRadioMessagingIndication` that `handleUnsolicited` sends. -/
inductive SmsIndication
  | newSms (pdu : List UInt8)
  | newSmsStatusReport (pdu : List UInt8)

/-- `RadioMessaging::handleUnsolicited`: the `CMT` and `CDS` overloads send when
`mRadioMessagingIndication` is set (`indication`); the template overload does nothing. -/
def handleUnsolicited (indication : Bool) (v : Value) : List SmsIndication :=
  match v with
  | .CMT cmt => if indication then [.newSms cmt.pdu] else []
  | .CDS cds => if indication then [.newSmsStatusReport cds.pdu] else []
  | _ => []

/-- What `Conversation::send` answers: whether a filter is armed and accepts the response. -/
def claims (armed : Option (AtResponse → Bool)) (r : AtResponse) : Bool :=
  armed.any fun filter => filter r

/-- `RadioMessaging::atResponseSink`, the conversation armed with `armed`. -/
def atResponseSink (armed : Option (AtResponse → Bool)) (indication : Bool) (r : AtResponse) :
    List SmsIndication :=
  if claims armed r then [] else handleUnsolicited indication r.value

/-- The filters `RadioMessaging`'s requesters arm the conversation with, in the order of the
source: `acknowledgeLastIncomingGsmSms`, `deleteSmsOnSim`, `getGsmBroadcastConfig`,
`getSmscAddress`, `sendSmsImpl` (the prompt, then `+CMGS`), `setGsmBroadcastConfig`,
`setSmscAddress` and `writeSmsToSim` (the prompt, then `+CMGW`). `holds<OK>()` is `isOK`. -/
def conversationFilters : List (AtResponse → Bool) :=
  [isOK, fun r => isOK r || holds .CmeError r, holds .CSCB, holds .CSCA, holdsSmsPrompt,
   holds .CMGS, isOK, isOK, holdsSmsPrompt, holds .CMGW]

/-- The sink over a run of responses; `armed i` is the filter waiting when the `i`-th
arrives, `none` between calls. -/
def sinkRun (armed : Nat → Option (AtResponse → Bool)) (indication : Bool) :
    Nat → List AtResponse → List SmsIndication
  | _, [] => []
  | i, r :: rs => atResponseSink (armed i) indication r ++ sinkRun armed indication (i + 1) rs

theorem handleUnsolicited_ne_nil {indication : Bool} {v : Value}
    (h : handleUnsolicited indication v ≠ []) :
    (∃ cmt, v = .CMT cmt) ∨ ∃ cds, v = .CDS cds := by
  unfold handleUnsolicited at h
  split at h
  · exact .inl ⟨_, rfl⟩
  · exact .inr ⟨_, rfl⟩
  · exact absurd rfl h

theorem conversationFilters_reject {f : AtResponse → Bool} (hf : f ∈ conversationFilters)
    {r : AtResponse} (hr : (∃ cmt, r.value = .CMT cmt) ∨ ∃ cds, r.value = .CDS cds) :
    f r = false := by
  obtain ⟨v⟩ := r
  simp only [conversationFilters, List.mem_cons, List.mem_singleton, List.not_mem_nil,
    or_false] at hf
  rcases hr with ⟨_, rfl⟩ | ⟨_, rfl⟩ <;>
    rcases hf with rfl | rfl | rfl | rfl | rfl | rfl | rfl | rfl | rfl | rfl <;> rfl

/-- With any of its own filters armed, or none, the sink sends what `handleUnsolicited`
sends for the record: a response the conversation claims is one it would not indicate. -/
theorem atResponseSink_eq {armed : Option (AtResponse → Bool)}
    (harmed : ∀ f, armed = some f → f ∈ conversationFilters) (indication : Bool)
    (r : AtResponse) :
    atResponseSink armed indication r = handleUnsolicited indication r.value := by
  unfold atResponseSink
  by_cases hn : handleUnsolicited indication r.value = []
  · rw [hn, ite_self]
  · have hrej : claims armed r = false := by
      cases armed with
      | none => rfl
      | some f => exact conversationFilters_reject (harmed f rfl) (handleUnsolicited_ne_nil hn)
    rw [hrej, if_neg Bool.false_ne_true]

theorem sinkRun_eq {armed : Nat → Option (AtResponse → Bool)}
    (harmed : ∀ i f, armed i = some f → f ∈ conversationFilters) (indication : Bool)
    (i : Nat) (rs : List AtResponse) :
    sinkRun armed indication i rs = rs.flatMap fun r => handleUnsolicited indication r.value := by
  induction rs generalizing i with
  | nil => rfl
  | cons r rs ih =>
    rw [sinkRun, atResponseSink_eq (harmed i), ih, List.flatMap_cons]

/-- The indications a message of the modem leads to, once the interface is set. -/
def smsIndications (msg : Message kUnknown) : List SmsIndication :=
  msg.response.toList.flatMap fun r => handleUnsolicited true r.value

/-- The indication a notification carries. -/
def indicationOf (m : PduMessage) : SmsIndication :=
  if m.report then .newSmsStatusReport m.pdu else .newSms m.pdu

theorem smsIndications_toMessage (m : PduMessage) :
    smsIndications (m.toMessage : Message kUnknown) = [indicationOf m] := by
  unfold smsIndications indicationOf
  show handleUnsolicited true m.value ++ [] = _
  unfold PduMessage.value
  cases m.report <;> rfl

theorem flatMap_responses (ms : List (Message kUnknown)) :
    ((ms.filterMap Message.response).flatMap fun r => handleUnsolicited true r.value) =
      ms.flatMap smsIndications := by
  induction ms with
  | nil => rfl
  | cons msg ms ih =>
    cases h : msg.response <;> simp [List.filterMap_cons, h, ih, smsIndications]

/-- **Every short message reaches the framework once and intact.** Let the modem send the
messages `ms`, read in any chunking the reader accepts (each read that brings bytes ending
where the message in progress is pending, each empty one between messages, none failing),
and let each response the reader broadcasts reach `RadioMessaging::atResponseSink` in turn
while its conversation waits with any of the filters its requesters arm, or with none.
Then the reader broadcasts every message's response, and the framework gets one indication
per message, in order: for a `+CMT` or `+CDS` notification, `newSms` or
`newSmsStatusReport` with the PDU the modem encoded, and nothing for the others. -/
theorem sms_reach_framework (ms : List (Message kUnknown)) (os : List ReadOutcome)
    (hjoin : (os.map ReadOutcome.received).flatten = (ms.map Message.bytes).flatten)
    (hcuts : CutsOk kUnknown (ms.map Message.bytes) 0 os)
    (armed : Nat → Option (AtResponse → Bool))
    (harmed : ∀ i f, armed i = some f → f ∈ conversationFilters) :
    (∃ u, readingLoop kUnknown Unconsumed.empty os =
        (.reading u, ms.filterMap Message.response) ∧
      sinkRun armed true 0 (ms.filterMap Message.response) = ms.flatMap smsIndications) ∧
    ∀ m : PduMessage, smsIndications (m.toMessage : Message kUnknown) = [indicationOf m] := by
  refine ⟨?_, smsIndications_toMessage⟩
  obtain ⟨h0, h0'⟩ := complete_zero (ms.map Message.bytes) (by
    simp only [List.mem_map]; rintro _ ⟨m, -, rfl⟩; exact m.bytes_ne_nil)
  obtain ⟨u, hloop, -⟩ := readingLoop_run ms os [] hjoin hcuts Unconsumed.empty h0'.symm
  rw [List.length_nil, h0, List.drop_zero] at hloop
  refine ⟨u, hloop, ?_⟩
  rw [sinkRun_eq harmed, flatMap_responses]

/-- `+CMT: 2\r0102\r` in one read while `sendSms` waits for its `+CMGS`: the framework gets
`newSms` with the two bytes. -/
theorem sms_reach_framework_during_send :
    let m : PduMessage := ⟨false, 2, [0x01, 0x02], by decide⟩
    let ms : List (Message 0) := [m.toMessage]
    let os : List ReadOutcome := [.bytes m.bytes]
    let armed : Nat → Option (AtResponse → Bool) := fun _ => some (holds .CMGS)
    (os.map ReadOutcome.received).flatten = (ms.map Message.bytes).flatten ∧
      CutsOk 0 (ms.map Message.bytes) 0 os ∧
      (∀ i f, armed i = some f → f ∈ conversationFilters) ∧
      (∃ u, readingLoop 0 Unconsumed.empty os = (.reading u, ms.filterMap Message.response) ∧
        sinkRun armed true 0 (ms.filterMap Message.response) = ms.flatMap smsIndications) ∧
      ∀ m : PduMessage, smsIndications (m.toMessage : Message 0) = [indicationOf m] := by
  intro m ms os armed
  have hjoin : (os.map ReadOutcome.received).flatten = (ms.map Message.bytes).flatten := rfl
  have hcuts : CutsOk 0 (ms.map Message.bytes) 0 os := by
    refine ⟨?_, trivial⟩
    show Pending 0 (unfinished [m.bytes] (0 + m.bytes.length))
    simp only [unfinished, Nat.zero_add, le_refl, if_true]
    exact pending_nil
  have harmed : ∀ i f, armed i = some f → f ∈ conversationFilters :=
    fun _ _ h => by cases h; simp [conversationFilters]
  exact ⟨hjoin, hcuts, harmed, sms_reach_framework ms os hjoin hcuts armed harmed⟩

end Messaging

end GoldfishRadio
