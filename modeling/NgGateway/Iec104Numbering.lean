import NgGateway.Iec104LinkEffects

namespace NgGateway.Iec104Numbering

open Iec104Frame Iec104LinkEffects Iec104SessionLoop Iec104SessionState List

/-- The I frame behind `before` carries the numbers of I frames sent and accepted before it. -/
def NumberedAfter (before : List Obs) (apdu : Apdu) : Prop :=
  ∀ iapci, apdu.apci.kind = .i iapci →
    iapci.sendSn.toNat = before.countP isSentI % 32768 ∧
      iapci.rcvSn.toNat = before.countP isAccepted % 32768

def Numbered (trace : List Obs) : Prop :=
  ∀ before apdu after, trace = before ++ .sent apdu :: after → NumberedAfter before apdu

variable {history obs : List Obs}

theorem Numbered.append (hhistory : Numbered history)
    (hobs : ∀ before apdu after, obs = before ++ .sent apdu :: after →
      NumberedAfter (history ++ before) apdu) : Numbered (history ++ obs) := by
  intro before apdu after heq
  rcases append_eq_append_iff.mp heq with ⟨mid, rfl, hobs'⟩ | ⟨mid, rfl, hmid⟩
  · exact hobs mid apdu after hobs'
  · rcases mid with - | ⟨first, mid⟩
    · have happ := hobs [] apdu after hmid.symm
      simpa using happ
    · obtain ⟨rfl, -⟩ := List.cons.inj hmid
      exact hhistory before apdu mid rfl

theorem Numbered.append_of_countP_eq_zero (hhistory : Numbered history)
    (hobs : obs.countP isSentI = 0) : Numbered (history ++ obs) := by
  apply hhistory.append
  rintro before apdu after rfl iapci hkind
  rw [countP_eq_zero] at hobs
  have hsent := hobs (.sent apdu) (by simp)
  simp [isSentI, isIframe, hkind] at hsent

theorem Numbered.append_sent (hhistory : Numbered history)
    (hapdu : NumberedAfter history apdu) : Numbered (history ++ [.sent apdu]) := by
  apply hhistory.append
  intro before apdu' after heq
  rcases before with - | ⟨first, before⟩
  · obtain ⟨rfl, -⟩ : apdu = apdu' ∧ [] = after := by simpa using heq
    rwa [append_nil]
  · simp at heq

structure CountersMatch (history : List Obs) (s : LoopState) : Prop where
  numbered : Numbered history
  numbers : Numbers15 s.state
  sent : s.state.sendSn.toNat = history.countP isSentI % 32768
  accepted : s.state.rcvSn.toNat = history.countP isAccepted % 32768

theorem CountersMatch.outgoing (h : CountersMatch history s) (heffect : Outgoing kWindow s obs s') :
    CountersMatch (history ++ obs) s' := by
  have hnums := h.numbers.outgoing heffect
  rcases heffect with ⟨hfields, hsent, haccepted⟩ | ⟨asdu, now, sizeBytes, -, hstate⟩
  · refine ⟨h.numbered.append_of_countP_eq_zero hsent, hnums, ?_, ?_⟩
    · rw [countP_append, hsent, Nat.add_zero, ← h.sent]
      exact congrArg (fun fields => fields.sendSn.toNat) hfields
    · rw [countP_append, haccepted, Nat.add_zero, ← h.accepted]
      exact congrArg (fun fields => fields.rcvSn.toNat) hfields
  · have hkind := kind_newIframe asdu h.numbers.send_lt h.numbers.rcv_lt
    have hiframe := isSentI_newIframe asdu s.state.sendSn s.state.rcvSn
    refine ⟨?_, hnums, ?_, ?_⟩
    · apply h.numbered.append_sent
      intro iapci hiapci
      rw [hkind] at hiapci
      obtain rfl := ApciKind.i.inj hiapci
      exact ⟨h.sent, h.accepted⟩
    · rw [hstate, countP_append, countP_singleton, hiframe]
      exact toNat_seqAdd_one h.sent
    · rw [hstate, countP_append]
      exact h.accepted

theorem CountersMatch.linkEffect (h : CountersMatch history s)
    (heffect : LinkEffect kWindow s obs s') : CountersMatch (history ++ obs) s' := by
  have hnums := h.numbers.linkEffect heffect
  rcases heffect with hout | ⟨front, rest, count, -, -, hstate⟩ |
    ⟨ackRcvNo, state, -, hack, hfields⟩ | ⟨apci, asdu, state, hadvance, hfields⟩
  · exact h.outgoing hout
  · refine ⟨h.numbered.append_of_countP_eq_zero rfl, hnums, ?_, ?_⟩
    · rw [hstate, countP_append]
      exact h.sent
    · rw [hstate, countP_append]
      exact h.accepted
  · obtain ⟨-, rfl⟩ := updateSendAck_eq_some hack
    rw [append_nil]
    refine ⟨h.numbered, hnums, ?_, ?_⟩
    · rw [← h.sent]
      exact congrArg (fun fields => fields.sendSn.toNat) hfields
    · rw [← h.accepted]
      exact congrArg (fun fields => fields.rcvSn.toNat) hfields
  · obtain ⟨-, rfl⟩ := advanceReceiveSeq_eq_some hadvance
    have hcounts : (Obs.accepted apci :: (asdu.map Obs.delivered).toList).countP isSentI = 0 ∧
        (Obs.accepted apci :: (asdu.map Obs.delivered).toList).countP isAccepted = 1 := by
      rcases asdu with - | asdu
      · exact ⟨rfl, rfl⟩
      · exact ⟨rfl, rfl⟩
    refine ⟨h.numbered.append_of_countP_eq_zero hcounts.1, hnums, ?_, ?_⟩
    · rw [countP_append, hcounts.1, Nat.add_zero, ← h.sent]
      exact congrArg (fun fields => fields.sendSn.toNat) hfields
    · rw [countP_append, hcounts.2, ← toNat_seqAdd_one h.accepted]
      exact congrArg (fun fields => fields.rcvSn.toNat) hfields

theorem countersMatch_new (start startdtSent) :
    CountersMatch [] (LoopState.new start startdtSent) where
  numbered := by
    intro before apdu after heq
    simp at heq
  numbers := numbers15_new start startdtSent
  sent := rfl
  accepted := rfl

/-- In every session the I frames sent are numbered consecutively and acknowledge everything
accepted before them. -/
theorem numbered_sessionRun {config : SessionConfig}
    (hk : 1 ≤ config.kWindow ∧ config.kWindow ≤ 32767) (start startdtSent : Int) (startOk : Bool)
    (events : List LoopEvent) :
    Numbered (sessionRun config start startdtSent startOk events).trace := by
  have hk' : config.kWindow.toNat ≤ 32767 := UInt16.le_iff_toNat_le.mp hk.2
  have hpath := trail_sessionRun hk' start startdtSent startOk events
  have hmatch := hpath.invariant (I := CountersMatch)
    (fun _ _ _ _ h heffect => h.linkEffect heffect) (countersMatch_new start startdtSent)
  exact hmatch.numbered

/-- Two frames sent around an accepted one: the second has N(S) = 1 and N(R) = 1. -/
theorem numbered_sessionRun_two_frames :
    let trace := (sessionRun SessionConfig.default 0 0 true
      [.arrival (some (newUframe uStartdtConfirm)) 0 0 true,
        .request (some (.i ⟨[100, 1, 6, 0, 1, 0], [0, 0, 0, 20]⟩ .high)) 0 true,
        .arrival (some (newIframe ⟨[100, 1, 7, 0, 1, 0], [0, 0, 0, 20]⟩ 0 1)) 0 0 true,
        .request (some (.i ⟨[100, 1, 6, 0, 1, 0], [0, 0, 0, 20]⟩ .low)) 0 true]).trace
    Numbered trace ∧
      trace.getLast? = some (.sent (newIframe ⟨[100, 1, 6, 0, 1, 0], [0, 0, 0, 20]⟩ 1 1)) :=
  ⟨numbered_sessionRun (by decide) 0 0 true _, by decide⟩

end NgGateway.Iec104Numbering
