import HareCpp.ChannelNumbers
import HareCpp.Consumer.QueueProperties
import HareCpp.Consumer.SubscribeCalls

/-!
# The consumer numbers its binding pairs

The system is run with a record of the `Subscribe` calls on an initialised consumer as
registrations of their pair: the channels in the table before `AddChannelProcessor`,
and whether `Subscribe` makes an error of the channel that it returns.

`numbered_reachable`: in every run the pairs are numbered from 1 in the order of their
registration, no new pair is refused, and `OpenChannel` is called for these channels
only.
-/

namespace HareCpp
namespace Consumer

open Library ConnectionBase ChannelHandler

variable {Callback : Type} {s s' : ConsumerState Callback}

/-- The code `Subscribe` makes of the channel `AddChannelProcessor` returned. -/
def subscribeCode (channel : Int) : HareError :=
  if channel = -1 then .unableToSubscribe else .allGood

/-- The `AddChannelProcessor` of a `Subscribe`, and the code made of its channel. -/
def registration (s : ConsumerState Callback) (call : SubscribeCall Callback) :
    Registration HashableBindingPair where
  key := ⟨call.exchange, call.bindingKey⟩
  known := (s.channelHandler.bindingPairLookup.lookup ⟨call.exchange, call.bindingKey⟩).isSome
  taken := s.channelHandler.getChannelList
  accepted := noError (subscribeCode (s.channelHandler.addChannelProcessor
    ⟨call.exchange, call.bindingKey⟩ call.callback).2)

/-- The registration that a step makes. -/
def registered (s : ConsumerState Callback) :
    Action Callback → List (Registration HashableBindingPair)
  | .subscribeStep k =>
      match pick s.subscribes k with
      | some (.add call, _) => [registration s call]
      | _ => []
  | _ => []

/-! ### What is opened is in the table -/

/-- A step of the worker opens the channel in hand. -/
theorem WorkerMove.opened_known {input : WorkerInput} (hmove : WorkerMove s input s')
    {channel : Int} (hopened : Opened s'.calls channel) :
    Opened s.calls channel ∨ channel ∈ waiting s := by
  cases hmove with
  | opened caller current base hpc hbase =>
      obtain ⟨conn, reply, hmem⟩ := hopened
      rcases List.mem_append.mp hmem with hnew | hold
      · right
        have hhand : current ∈ waiting s := mem_waiting_of_worker (by simp [hpc, WorkerPc.channels])
        rcases openChannel_cases base current input.reply input.closeOkStatus with
          ⟨-, heq⟩ | ⟨after, -, heq, hafter⟩
        · rw [heq] at hnew
          cases hnew
        · rw [heq] at hnew
          rcases List.mem_append.mp hnew with hclose | hopen
          · cases hafter _ hclose
          · cases List.mem_singleton.mp hopen
            exact hhand
      · exact .inl ⟨conn, reply, hold⟩
  | connected | connectFailed => exact .inl (opened_of_append (not_open_connect _ _ _) hopened)
  | closed => exact .inl (opened_of_append (not_open_closeConnection _ _) hopened)
  | pulled base =>
      refine .inl (opened_of_append ?_ hopened)
      intro conn channel reply
      unfold consumeMessage
      split <;> simp
  | declared | refused | bound | consumed | consumeFailed | released =>
      exact .inl (opened_of_cons (by simp) hopened)
  | _ => exact .inl hopened

/-- In every run the channels that were opened are those of pairs in the table. -/
theorem opened_reachable {allowed : ConsumerState Callback → Action Callback → Prop}
    (hs : system.ReachableUnder allowed s) {channel : Int} (hopened : Opened s.calls channel) :
    channel ∈ s.channelHandler.getChannelList := by
  have hall : ∀ channel, Opened s.calls channel →
      channel ∈ s.channelHandler.getChannelList := by
    refine hs.induction (fun s => ∀ channel, Opened s.calls channel →
      channel ∈ s.channelHandler.getChannelList) ?_ ?_
    · intro channel hopened
      obtain ⟨conn, reply, hmem⟩ := hopened
      cases hmem
    · intro s action s' hreach _ hknown hstep channel hopened
      obtain ⟨-, hmove⟩ := move_of_step hstep
      cases hmove with
      | worker input _ hmove =>
          rw [hmove.getChannelList]
          rcases hmove.opened_known hopened with hold | hhand
          · exact hknown channel hold
          · exact waiting_known hreach channel hhand
      | subscribeRefused => exact hknown channel hopened
      | subscribeBegins => exact hknown channel hopened
      | subscribe k pc rest _ hpick hmove =>
          rw [hmove.frame.calls] at hopened
          have hbefore := hknown channel hopened
          rcases hmove.waiting (built_reachable hreach).facts hpick with
            ⟨hlist, -⟩ | ⟨added, -, hlist, -⟩
          · rwa [hlist]
          · rw [hlist]
            exact List.mem_append_left _ hbefore
      | begin => exact hknown channel hopened
      | control k reply pc rest _ hpick _ hmove =>
          rw [hmove.frame.1]
          rcases hmove.connection with ⟨-, hcalls⟩ | ⟨-, new, hcalls, hnew⟩
          · rw [hcalls] at hopened
            exact hknown channel hopened
          · rw [hcalls] at hopened
            exact hknown channel (opened_of_append hnew hopened)
  exact hall channel hopened

/-! ### The registrations of a run -/

/-- A step records a key exactly when it goes through `AddChannelProcessor`. -/
theorem registered_keys (s : ConsumerState Callback) (action : Action Callback) :
    (registered s action).map (·.key) = (subscribedBy s action).map Prod.fst := by
  cases action with
  | subscribeStep k =>
      rw [registered, subscribedBy]
      cases pick s.subscribes k with
      | none => rfl
      | some picked =>
          obtain ⟨pc, rest⟩ := picked
          cases pc <;> rfl
  | _ => rfl

/-- The pairs in the table are those of the registrations, each of them once. -/
theorem simulated {allowed : ConsumerState Callback → Action Callback → Prop}
    {s : ConsumerState Callback × List (Registration HashableBindingPair)}
    (hs : (system.recording registered).ReachableUnder (fun s => allowed s.1) s) :
    (s.1.channelHandler.infos.map (·.bindingPair)).Perm (registeredKeys s.2) := by
  obtain ⟨history, hhistory, hkeys⟩ := hs.rerecord (·.key) Prod.fst registered_keys
  have hfollow := callbacksFollow_reachable hhistory
  have hfacts := (built_reachable hs.forget).facts
  have hdistinct : (registeredKeys s.2).Nodup := nodup_firstUses _
  rw [List.perm_ext_iff_of_nodup hfacts.distinct hdistinct]
  intro bindingPair
  -- a pair has a callback exactly when it is in the table, and when it was subscribed
  have htable := hfacts.callbackOf_eq_none_iff bindingPair
  rw [hfollow bindingPair, hfacts.pairLookup_eq_none_iff, lookup_eq_none_iff_of_history] at htable
  have hrecord : bindingPair ∈ registeredKeys s.2 ↔ ∃ f, (bindingPair, f) ∈ history := by
    rw [registeredKeys, mem_firstUses, hkeys, List.mem_map]
    constructor
    · intro h
      obtain ⟨entry, hentry, rfl⟩ := h
      exact ⟨entry.2, hentry⟩
    · intro h
      obtain ⟨f, hentry⟩ := h
      exact ⟨_, hentry, rfl⟩
  rw [hrecord]
  exact (not_iff_not.mp htable).symm

/-- The registration of a step continues the record. -/
theorem inOrder_registration {s : ConsumerState Callback}
    {record : List (Registration HashableBindingPair)} (hfacts : HandlerFacts s.channelHandler)
    (hpairs : (s.channelHandler.infos.map (·.bindingPair)).Perm (registeredKeys record))
    (call : SubscribeCall Callback) : InOrder record (registration s call) := by
  have hknown : (registration s call).known = true ↔ (registration s call).key ∈
      s.channelHandler.infos.map (·.bindingPair) := by
    have hnone := hfacts.pairLookup_eq_none_iff ⟨call.exchange, call.bindingKey⟩
    show (List.lookup _ _).isSome = true ↔ _
    rw [Option.isSome_iff_ne_none]
    exact not_iff_comm.mp hnone.symm
  refine ⟨?_, ?_, ?_⟩
  · rw [hknown, hpairs.mem_iff]
  · intro hnew
    -- for a new pair `AddChannelProcessor` returns its channel
    have haccepted := (hfacts.add_refused_iff ⟨call.exchange, call.bindingKey⟩ call.callback).not
    have hnone : s.channelHandler.bindingPairLookup.lookup ⟨call.exchange, call.bindingKey⟩ =
        none := by
      have hnew : (List.lookup _ s.channelHandler.bindingPairLookup).isSome = false := hnew
      rwa [Option.isSome_eq_false_iff, Option.isNone_iff_eq_none] at hnew
    have hchannel := haccepted.mpr (not_not.mpr hnone)
    show noError (subscribeCode _) = true
    rw [subscribeCode, if_neg hchannel]
    rfl
  · intro channel
    have hlength : s.channelHandler.infos.length = (registeredKeys record).length := by
      rw [← hpairs.length_eq, List.length_map]
    have hlist := hfacts.mem_getChannelList channel
    rw [hfacts.next, hlength] at hlist
    show channel ∈ s.channelHandler.getChannelList ↔ _
    rw [hlist]
    constructor
    · intro hrange
      omega
    · intro hrange
      omega

/-- In every run the consumer numbers the pairs it is called with. -/
theorem numbered_reachable {allowed : ConsumerState Callback → Action Callback → Prop}
    {s : ConsumerState Callback × List (Registration HashableBindingPair)}
    (hs : (system.recording registered).ReachableUnder (fun s => allowed s.1) s) :
    Numbered s.1.channelHandler.OnChannel (Opened s.1.calls) s.2 := by
  have hreach : system.ReachableUnder allowed s.1 := hs.forget
  have hfacts := (built_reachable hreach).facts
  have hpairs := simulated hs
  constructor
  · intro channel hopened
    have hmem := opened_reachable hreach hopened
    rw [hfacts.mem_getChannelList_iff] at hmem
    obtain ⟨info, hinfo⟩ := Option.ne_none_iff_exists'.mp hmem
    obtain ⟨place, hchannel, hplace⟩ := (hfacts.infoOf_iff channel info).mp hinfo
    refine ⟨info.bindingPair, (hfacts.onChannel_iff _ _).mpr ⟨place, hchannel, ?_⟩⟩
    rw [List.getElem?_map, hplace]
    rfl
  · intro bindingPair bindingPair' channel hon hon'
    obtain ⟨info, hinfo, hsame⟩ := hfacts.exists_infoOf hon
    obtain ⟨info', hinfo', hsame'⟩ := hfacts.exists_infoOf hon'
    rw [hinfo] at hinfo'
    cases hinfo'
    exact hsame.symm.trans hsame'
  · intro bindingPair channel hon
    obtain ⟨place, hchannel, hplace⟩ := (hfacts.onChannel_iff bindingPair channel).mp hon
    obtain ⟨hlt, -⟩ := List.getElem?_eq_some_iff.mp hplace
    rw [hpairs.length_eq] at hlt
    omega
  · refine hs.induction
      (fun s : ConsumerState Callback × List (Registration HashableBindingPair) =>
        Guarded InOrder s.2) (guarded_nil _) ?_
    intro s action s' hbefore _ hordered hstep
    obtain ⟨-, hrecord⟩ := TransitionSystem.recording_step hstep
    have hbeforeReach : system.ReachableUnder allowed s.1 := hbefore.forget
    have hbeforeFacts := (built_reachable hbeforeReach).facts
    rw [hrecord]
    cases action with
    | subscribeStep k =>
        rw [registered]
        cases pick s.1.subscribes k with
        | none => exact hordered
        | some picked =>
            obtain ⟨pc, rest⟩ := picked
            cases pc with
            | add call =>
                exact ⟨inOrder_registration hbeforeFacts (simulated hbefore) call, hordered⟩
            | _ => exact hordered
    | _ => exact hordered

end Consumer
end HareCpp
