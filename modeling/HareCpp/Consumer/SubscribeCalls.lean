import HareCpp.HandlerHistory
import HareCpp.Consumer.Subscriptions

/-!
# What a `Subscribe` changes, and whom a delivery reaches

The callback of a pair is that of the last `AddChannelProcessor` for it, whatever
that returned (`callbacksFollow_reachable`).  A delivery therefore follows the history of
the subscriptions (`dispatch_follows_history`); and a `Subscribe` for a known pair,
though rejected, redirects the pair (`subscribeSound_iff`).
-/

namespace HareCpp

open Library ConnectionBase

namespace ChannelHandler

variable {Callback : Type}

/-- The callback that a pair leads to. -/
def callbackOf (handler : ChannelHandler Callback) (bindingPair : HashableBindingPair) :
    Option Callback :=
  (handler.infoAt bindingPair).map (·.callback)

/-- `Process` invokes the callback of the pair, once. -/
theorem process_eq (handler : ChannelHandler Callback) (bindingPair : HashableBindingPair)
    (message : Message) :
    handler.process bindingPair message =
      ((handler.callbackOf bindingPair).map (·, message)).toList := by
  unfold process callbackOf
  cases handler.infoAt bindingPair <;> rfl

/-- Where a pair leads after a write. -/
theorem callbackOf_updateInfo (handler : ChannelHandler Callback) (place : Nat)
    (change : ChannelProcessingInfo Callback → ChannelProcessingInfo Callback)
    (bindingPair : HashableBindingPair) :
    (handler.updateInfo place change).callbackOf bindingPair =
      (handler.bindingPairLookup.lookup bindingPair).bind fun found =>
        handler.infos[found]?.map fun info =>
          (if place = found then change info else info).callback := by
  unfold callbackOf infoAt updateInfo
  simp only [List.getElem?_modify, Option.map_bind]
  congr 1
  funext found
  rw [Function.comp_apply]
  cases handler.infos[found]? <;> rfl

/-- Writing to a record without touching its callback. -/
theorem callbackOf_updateInfo_of_same (handler : ChannelHandler Callback) (place : Nat)
    {change : ChannelProcessingInfo Callback → ChannelProcessingInfo Callback}
    (hchange : ∀ info, (change info).callback = info.callback)
    (bindingPair : HashableBindingPair) :
    (handler.updateInfo place change).callbackOf bindingPair = handler.callbackOf bindingPair := by
  have hsame : ∀ found info, (if place = found then change info else info).callback =
      info.callback := by
    intro found info
    by_cases h : place = found
    · rw [if_pos h, hchange]
    · rw [if_neg h]
  rw [callbackOf_updateInfo, callbackOf, infoAt, Option.map_bind]
  congr 1
  funext found
  simp only [hsame]
  rfl

@[simp] theorem callbackOf_setQueueName (handler : ChannelHandler Callback) (channel : Int)
    (queueName : AmqpBytes) (bindingPair : HashableBindingPair) :
    (handler.setQueueName channel queueName).callbackOf bindingPair =
      handler.callbackOf bindingPair := by
  rw [setQueueName_eq]
  apply writeTo_same (·.callbackOf bindingPair)
  intro place _
  apply callbackOf_updateInfo_of_same
  intro info
  rfl

@[simp] theorem callbackOf_setQueueProperties (handler : ChannelHandler Callback) (channel : Int)
    (queueProperties : QueueProperties) (bindingPair : HashableBindingPair) :
    (handler.setQueueProperties channel queueProperties).callbackOf bindingPair =
      handler.callbackOf bindingPair := by
  rw [setQueueProperties_eq]
  apply writeTo_same (·.callbackOf bindingPair)
  intro place _
  apply callbackOf_updateInfo_of_same
  intro info
  rfl

/-- Adding a pair, new or not, redirects this pair and no other. -/
theorem HandlerFacts.callbackOf_add {handler : ChannelHandler Callback}
    (hfacts : HandlerFacts handler) (bindingPair other : HashableBindingPair)
    (callback : Callback) :
    (handler.addChannelProcessor bindingPair callback).1.callbackOf other =
      if other = bindingPair then some callback else handler.callbackOf other := by
  cases hfound : handler.bindingPairLookup.lookup bindingPair with
  | some place =>
      obtain ⟨hplace, -⟩ :=
        List.getElem?_eq_some_iff.mp ((hfacts.pairLookup_iff bindingPair place).mp hfound)
      rw [List.length_map] at hplace
      rw [addChannelProcessor, hfound]
      dsimp only
      rw [callbackOf_updateInfo]
      by_cases hother : other = bindingPair
      · rw [if_pos hother, hother, hfound, Option.bind_some, List.getElem?_eq_getElem hplace]
        simp
      · rw [if_neg hother, callbackOf, infoAt, Option.map_bind]
        cases hlookup : handler.bindingPairLookup.lookup other with
        | none => rfl
        | some found =>
            -- another pair has another place
            have hne : place ≠ found := by
              rintro rfl
              rw [hfacts.pairLookup_iff] at hlookup hfound
              exact hother (Option.some.inj (hlookup.symm.trans hfound))
            simp [if_neg hne]
  | none =>
      -- the new record answers for its pair, the others for theirs
      have hlast : (handler.addChannelProcessor bindingPair callback).1.infoAt other =
          if other = bindingPair then some { bindingPair := bindingPair, callback := callback }
          else handler.infoAt other := by
        apply Option.ext
        intro info
        rw [(hfacts.add bindingPair callback).infoAt_iff, infos_add_new hfound, List.mem_append,
          List.mem_singleton]
        by_cases hother : other = bindingPair
        · subst hother
          have hnew := hfacts.not_mem_of_lookup hfound
          rw [if_pos rfl, Option.some.injEq]
          constructor
          · rintro ⟨hmem | rfl, hpair⟩
            · exact absurd (List.mem_map.mpr ⟨info, hmem, hpair⟩) hnew
            · rfl
          · rintro rfl
            exact ⟨.inr rfl, rfl⟩
        · rw [if_neg hother, hfacts.infoAt_iff]
          constructor
          · rintro ⟨hmem | rfl, hpair⟩
            · exact ⟨hmem, hpair⟩
            · exact absurd hpair.symm hother
          · rintro ⟨hmem, hpair⟩
            exact ⟨.inl hmem, hpair⟩
      rw [callbackOf, hlast]
      split <;> rfl

/-- An operation on another pair, or on a queue, redirects nothing. -/
theorem HandlerFacts.callbackOf_apply {handler : ChannelHandler Callback}
    (hfacts : HandlerFacts handler) {operation : Operation Callback}
    {bindingPair : HashableBindingPair} (hother : operation.adds ≠ some bindingPair) :
    (operation.apply handler).callbackOf bindingPair = handler.callbackOf bindingPair := by
  cases operation with
  | add added callback =>
      show (handler.addChannelProcessor added callback).1.callbackOf bindingPair = _
      rw [hfacts.callbackOf_add, if_neg]
      rintro rfl
      exact hother rfl
  | setQueueName channel queueName => exact callbackOf_setQueueName handler channel queueName _
  | setQueueProperties channel queueProperties =>
      exact callbackOf_setQueueProperties handler channel queueProperties _

/-- The handler after more operations, newest first. -/
def onward (handler : ChannelHandler Callback) (later : List (Operation Callback)) :
    ChannelHandler Callback :=
  later.foldr (fun operation before => operation.apply before) handler

/-- A pair keeps its callback until it is added again. -/
theorem Built.callbackOf_onward {handler : ChannelHandler Callback} (hbuilt : Built handler)
    {bindingPair : HashableBindingPair} {later : List (Operation Callback)}
    (hother : ∀ operation ∈ later, operation.adds ≠ some bindingPair) :
    Built (handler.onward later) ∧
      (handler.onward later).callbackOf bindingPair = handler.callbackOf bindingPair := by
  induction later with
  | nil => exact ⟨hbuilt, rfl⟩
  | cons operation rest ih =>
      obtain ⟨hbefore, hsame⟩ := ih fun earlier hearlier => hother earlier (.tail _ hearlier)
      constructor
      · exact hbefore.apply operation
      · rw [← hsame]
        exact hbefore.facts.callbackOf_apply (hother operation List.mem_cons_self)

/-- A pair has a callback exactly when it is in the table. -/
theorem HandlerFacts.callbackOf_eq_none_iff {handler : ChannelHandler Callback}
    (hfacts : HandlerFacts handler) (bindingPair : HashableBindingPair) :
    handler.callbackOf bindingPair = none ↔
      handler.bindingPairLookup.lookup bindingPair = none := by
  rw [callbackOf, Option.map_eq_none_iff, infoAt, Option.bind_eq_none_iff]
  constructor
  · intro h
    cases hfound : handler.bindingPairLookup.lookup bindingPair with
    | none => rfl
    | some place =>
        have hplace := (hfacts.pairLookup_iff bindingPair place).mp hfound
        rw [List.getElem?_map, h place hfound] at hplace
        cases hplace
  · intro hnone place hplace
    rw [hnone] at hplace
    cases hplace

/-- `AddChannelProcessor` returns -1 exactly for a pair in the table. -/
theorem HandlerFacts.add_refused_iff {handler : ChannelHandler Callback}
    (hfacts : HandlerFacts handler) (bindingPair : HashableBindingPair) (callback : Callback) :
    (handler.addChannelProcessor bindingPair callback).2 = -1 ↔
      handler.bindingPairLookup.lookup bindingPair ≠ none := by
  have hnext := hfacts.next
  unfold addChannelProcessor
  cases handler.bindingPairLookup.lookup bindingPair with
  | none =>
      show handler.nextAvailableChannel = -1 ↔ _
      constructor
      · intro h
        omega
      · intro h
        exact absurd rfl h
  | some place => simp

/-- Setting the properties of a queue moves no pair. -/
theorem onChannel_setQueueProperties {handler : ChannelHandler Callback}
    {bindingPair : HashableBindingPair} {channel : Int}
    (hon : handler.OnChannel bindingPair channel) (other : Int)
    (queueProperties : QueueProperties) :
    (handler.setQueueProperties other queueProperties).OnChannel bindingPair channel := by
  rw [setQueueProperties_eq]
  exact writeTo_rule (P := fun written => written.OnChannel bindingPair channel) hon
    fun _ _ => hon

/-- The channel of a new pair is in the list. -/
theorem HandlerFacts.mem_add {handler : ChannelHandler Callback} (hfacts : HandlerFacts handler)
    {bindingPair : HashableBindingPair} {callback : Callback}
    (hnew : (handler.addChannelProcessor bindingPair callback).2 ≠ -1) :
    (handler.addChannelProcessor bindingPair callback).2 ∈
      (handler.addChannelProcessor bindingPair callback).1.getChannelList := by
  obtain ⟨info, hinfo, -⟩ :=
    (hfacts.add bindingPair callback).exists_infoOf (hfacts.onChannel_add hnew)
  rw [(hfacts.add bindingPair callback).mem_getChannelList_iff, hinfo]
  simp

end ChannelHandler

namespace Consumer

open ChannelHandler

variable {Callback : Type} {s s' : ConsumerState Callback}

/-! ### The history of the subscriptions -/

/-- The pair and the callback that a step of a `Subscribe` on an initialised consumer
gives to `AddChannelProcessor`. -/
def subscribedBy (s : ConsumerState Callback) :
    Action Callback → List (HashableBindingPair × Callback)
  | .subscribeStep k =>
      match pick s.subscribes k with
      | some (.add call, _) => [(⟨call.exchange, call.bindingKey⟩, call.callback)]
      | _ => []
  | _ => []

/-- Every pair leads to the callback that it was last subscribed with. -/
def CallbacksFollow (s : ConsumerState Callback)
    (history : List (HashableBindingPair × Callback)) : Prop :=
  ∀ bindingPair, s.channelHandler.callbackOf bindingPair = history.lookup bindingPair

/-- A step of a `Subscribe`. -/
theorem SubscribeMove.callbacks {pc : SubscribePc Callback} {k : Nat}
    {rest : List (SubscribePc Callback)} {history : List (HashableBindingPair × Callback)}
    (hpick : pick s.subscribes k = some (pc, rest))
    (hmove : SubscribeMove { s with subscribes := rest } pc s')
    (hfacts : HandlerFacts s.channelHandler) (hfollow : CallbacksFollow s history) :
    CallbacksFollow s' (subscribedBy s (.subscribeStep k) ++ history) := by
  -- `AddChannelProcessor` redirects the pair, whether it returns a channel or -1
  have hadd : ∀ call : SubscribeCall Callback, pc = .add call →
      s'.channelHandler = (s.channelHandler.addChannelProcessor
        ⟨call.exchange, call.bindingKey⟩ call.callback).1 →
      CallbacksFollow s' (subscribedBy s (.subscribeStep k) ++ history) := by
    rintro call rfl hhandler bindingPair
    rw [hhandler, hfacts.callbackOf_add, hfollow bindingPair, subscribedBy, hpick,
      List.singleton_append, List.lookup_cons]
    by_cases hpair : bindingPair = ⟨call.exchange, call.bindingKey⟩
    · simp [hpair]
    · rw [if_neg hpair, beq_false_of_ne hpair]
  have hnone : (∀ call, pc ≠ .add call) → subscribedBy s (.subscribeStep k) = [] := by
    intro hother
    rw [subscribedBy, hpick]
    cases pc with
    | add call => exact absurd rfl (hother call)
    | _ => rfl
  cases hmove with
  | known call => exact hadd call rfl rfl
  | added call => exact hadd call rfl rfl
  | propertiesSet channel queueProps =>
      rw [hnone (by simp)]
      intro bindingPair
      show (s.channelHandler.setQueueProperties channel queueProps).callbackOf bindingPair = _
      rw [callbackOf_setQueueProperties]
      exact hfollow bindingPair
  | running | notRunning | pushed =>
      rw [hnone (by simp)]
      exact hfollow

/-- In every run the callbacks follow the history of the subscriptions. -/
theorem callbacksFollow_reachable {allowed : ConsumerState Callback → Action Callback → Prop}
    {s : ConsumerState Callback × List (HashableBindingPair × Callback)}
    (hs : (system.recording subscribedBy).ReachableUnder (fun s => allowed s.1) s) :
    CallbacksFollow s.1 s.2 := by
  refine hs.record_induction CallbacksFollow (fun _ => rfl) ?_
  intro s action s' history hreach _ hfollow hstep
  have hfacts := (built_reachable hreach).facts
  obtain ⟨-, hmove⟩ := move_of_step hstep
  cases hmove with
  | worker input _ hmove =>
      cases hmove with
      -- all that the worker writes to the handler is the name of a queue
      | declared caller channel base queue | refused caller channel base queue =>
          intro bindingPair
          show (s.channelHandler.setQueueName channel queue).callbackOf bindingPair = _
          rw [callbackOf_setQueueName]
          exact hfollow bindingPair
      | _ => exact hfollow
  | subscribeRefused | subscribeBegins | begin => exact hfollow
  | subscribe k pc rest _ hpick hmove => exact hmove.callbacks hpick hfacts hfollow
  | control k reply pc rest _ hpick _ hmove =>
      intro bindingPair
      rw [hmove.frame.1]
      exact hfollow bindingPair

/-! ### Whom a delivery reaches -/

/-- The invocations of `pullNextMessage`, from the callback of the pair. -/
theorem processEnvelope_eq (handler : ChannelHandler Callback) (envelope : AmqpEnvelope) :
    processEnvelope handler envelope =
      if envelope.exchange = [] then []
      else ((handler.callbackOf (bindingPairOf envelope)).map
        (·, Message.ofEnvelope envelope)).toList := by
  unfold processEnvelope
  rw [process_eq]
  by_cases hempty : envelope.exchange = []
  · rw [if_pos hempty, if_pos (by simp [hempty])]
  · rw [if_neg hempty, if_neg (by simpa using hempty)]

/-- Nothing turns `m_multiThreaded` on, so that callbacks are called in place. -/
theorem multiThreaded_of_built {handler : ChannelHandler Callback} (hbuilt : Built handler) :
    handler.multiThreaded = false := by
  induction hbuilt with
  | new => rfl
  | @add handler before bindingPair callback ih =>
      unfold addChannelProcessor
      split <;> exact ih
  | setQueueName before channel queueName ih =>
      rw [setQueueName_eq]
      exact (writeTo_same multiThreaded fun _ _ => rfl).trans ih
  | setQueueProperties before channel queueProperties ih =>
      rw [setQueueProperties_eq]
      exact (writeTo_same multiThreaded fun _ _ => rfl).trans ih

/-- What a step of `pullNextMessage` from the received envelope does, given the
subscriptions made so far, newest first. -/
structure Dispatched (history : List (HashableBindingPair × Callback)) (envelope : AmqpEnvelope)
    (s s' : ConsumerState Callback) : Prop where
  /-- one invocation, of the callback of the last subscription to the pair -/
  reached : envelope.exchange ≠ [] → (∃ f, (bindingPairOf envelope, f) ∈ history) →
    ∃ f, history.lookup (bindingPairOf envelope) = some f ∧
      s'.notes = .invoked f (Message.ofEnvelope envelope) :: s.notes
  /-- none without one, or without an exchange -/
  ignored : (envelope.exchange = [] ∨ ¬∃ f, (bindingPairOf envelope, f) ∈ history) →
    s'.notes = s.notes
  /-- with a message that is the envelope's, as is every copy of it -/
  message : (Message.ofEnvelope envelope).Carries envelope ∧
    (Message.ofEnvelope envelope).copy.Carries envelope
  inPlace : s.channelHandler.multiThreaded = false
  /-- and the subscriptions stay as they are -/
  table : s'.channelHandler = s.channelHandler

theorem lookup_eq_none_iff_of_history (history : List (HashableBindingPair × Callback))
    (bindingPair : HashableBindingPair) :
    history.lookup bindingPair = none ↔ ¬∃ f, (bindingPair, f) ∈ history := by
  rw [List.lookup_eq_none_iff]
  constructor
  · rintro h ⟨f, hmem⟩
    simpa using h _ hmem
  · intro h entry hentry
    rw [bne_iff_ne]
    rintro rfl
    exact h ⟨entry.2, hentry⟩

/-- In every run, a delivery reaches the callback of the last `Subscribe` that used
its exchange and routing key, and no other. -/
theorem dispatch_follows_history {allowed : ConsumerState Callback → Action Callback → Prop}
    {s : ConsumerState Callback × List (HashableBindingPair × Callback)}
    (hs : (system.recording subscribedBy).ReachableUnder (fun s => allowed s.1) s)
    {envelope : AmqpEnvelope} (hworker : s.1.worker = .pullProcess envelope)
    {input : WorkerInput} {s' : ConsumerState Callback}
    (hstep : step s.1 (.worker input) = some s') : Dispatched s.2 envelope s.1 s' := by
  have hfollow := callbacksFollow_reachable hs (bindingPairOf envelope)
  obtain ⟨hrunning, -⟩ := move_of_step hstep
  have hs' : s' = { s.1 with
      worker := .pendingTest
      notes := (processEnvelope s.1.channelHandler envelope).map
        (fun invocation => .invoked invocation.1 invocation.2) ++ s.1.notes } := by
    rw [step, if_pos hrunning] at hstep
    simp only [workerStep, hworker] at hstep
    exact (Option.some.inj hstep).symm
  rw [hs']
  constructor
  · intro hexchange hsubscribed
    have hsome : s.2.lookup (bindingPairOf envelope) ≠ none := by
      rw [Ne, lookup_eq_none_iff_of_history]
      exact not_not.mpr hsubscribed
    obtain ⟨f, hf⟩ := Option.ne_none_iff_exists'.mp hsome
    refine ⟨f, hf, ?_⟩
    dsimp only
    rw [processEnvelope_eq, if_neg hexchange, hfollow, hf]
    rfl
  · intro hignored
    dsimp only
    rw [processEnvelope_eq, hfollow]
    rcases hignored with hempty | hnone
    · rw [if_pos hempty]
      rfl
    · rw [(lookup_eq_none_iff_of_history s.2 _).mpr hnone]
      split <;> rfl
  · exact ⟨carries_ofEnvelope envelope, (carries_ofEnvelope envelope).copy⟩
  · exact multiThreaded_of_built (built_reachable hs.forget)
  · rfl

/-- A message with key `a` on the exchange `e`, with a NUL byte in its body. -/
def withNul : AmqpEnvelope where
  channel := 1
  exchange := [101]
  routingKey := [97]
  body := [104, 0, 105]

/-- `Subscribe` to the same pair again with another callback, which is rejected. -/
def subscribeAgain : List (Action Nat) := [.subscribe ⟨[101], [97], 8, {}⟩, .subscribeStep 0]

/-- The message goes to the callback of the rejected `Subscribe`, the last one. -/
theorem dispatch_follows_rejected :
    ∃ (s : ConsumerState Nat × List (HashableBindingPair × Nat)) (s' : ConsumerState Nat),
      (system.recording subscribedBy).ReachableUnder (fun s => OneControl s.1) s ∧
        s.2 = [(⟨[101], [97]⟩, 8), (⟨[101], [97]⟩, 7)] ∧
        s'.notes = .invoked 8 (Message.ofEnvelope withNul) :: s.1.notes := by
  obtain ⟨s, hs, htest⟩ := TransitionSystem.exists_reachableUnder_of_run
    (M := system.recording subscribedBy) (fun s => OneControl s.1)
    (List.flatten [startUp, subscribeTo 97, subscribeAgain, List.replicate 4 (.worker {}),
      .worker { order := [1] } :: List.replicate 7 (.worker {}),
      [.worker { envelope := withNul }]])
    (fun s => decide (s.1.worker = .pullProcess withNul ∧
      s.2 = [(⟨[101], [97]⟩, 8), (⟨[101], [97]⟩, 7)] ∧ (step s.1 (.worker {})).isSome = true))
    (by decide +kernel)
  obtain ⟨hworker, hhistory, hsome⟩ := of_decide_eq_true htest
  obtain ⟨s', hstep⟩ := Option.isSome_iff_exists.mp hsome
  obtain ⟨f, hf, hnotes⟩ := (dispatch_follows_history hs hworker hstep).reached (by decide)
    ⟨8, by rw [hhistory]; decide⟩
  rw [hhistory] at hf
  obtain rfl : 8 = f := Option.some.inj hf
  exact ⟨s, s', hs, hhistory, hnotes⟩

/-! ### One `Subscribe` from beginning to end -/

/-- The pair of a `Subscribe`. -/
def SubscribeCall.bindingPair (call : SubscribeCall Callback) : HashableBindingPair :=
  ⟨call.exchange, call.bindingKey⟩

/-- `Subscribe`, with nothing else happening in between. -/
def subscribe (s : ConsumerState Callback) (call : SubscribeCall Callback) :
    ConsumerState Callback × HareError :=
  if s.isInitialized then
    let r := s.channelHandler.addChannelProcessor call.bindingPair call.callback
    if r.2 = -1 then ({ s with channelHandler := r.1 }, .unableToSubscribe)
    else
      ({ s with
        channelHandler := r.1.setQueueProperties r.2 call.queueProps
        pendingChannels :=
          if s.threadRunning then s.pendingChannels ++ [r.2] else s.pendingChannels }, .allGood)
  else (s, .notInitialized)

/-- `Subscribe` on a consumer that is not initialised. -/
theorem subscribe_of_not_initialized (hinit : s.isInitialized = false)
    (call : SubscribeCall Callback) : subscribe s call = (s, .notInitialized) := by
  rw [subscribe, hinit, if_neg Bool.false_ne_true]

/-- `Subscribe` for a pair that `AddChannelProcessor` knows. -/
theorem subscribe_of_known (hinit : s.isInitialized = true) {call : SubscribeCall Callback}
    (hknown : (s.channelHandler.addChannelProcessor call.bindingPair call.callback).2 = -1) :
    subscribe s call = ({ s with
      channelHandler :=
        (s.channelHandler.addChannelProcessor call.bindingPair call.callback).1 },
      .unableToSubscribe) := by
  rw [subscribe, if_pos hinit]
  exact if_pos hknown

/-- `Subscribe` for a new pair. -/
theorem subscribe_of_new (hinit : s.isInitialized = true) {call : SubscribeCall Callback}
    {handler : ChannelHandler Callback} {channel : Int}
    (hadd : s.channelHandler.addChannelProcessor call.bindingPair call.callback =
      (handler, channel)) (hnew : channel ≠ -1) :
    subscribe s call = ({ s with
      channelHandler := handler.setQueueProperties channel call.queueProps
      pendingChannels :=
        if s.threadRunning then s.pendingChannels ++ [channel] else s.pendingChannels },
      .allGood) := by
  rw [subscribe, if_pos hinit, hadd]
  exact if_neg hnew

/-- The next step of the `Subscribe` that moved last. -/
theorem step_subscribe_head (hrunning : s.status = .running) (pc : SubscribePc Callback) :
    step (subscribeGoesOn s pc) (.subscribeStep 0) = subscribeStep s pc := by
  have hstatus : (subscribeGoesOn s pc).status = .running := hrunning
  rw [step, if_pos hstatus]
  rfl

/-- The steps of a `Subscribe` after `AddChannelProcessor` has returned a channel. -/
theorem subscribe_run_new (hrunning : s.status = .running)
    (hfree : s.worker.holdsConsumerMutex = false) (channel : Int) (queueProps : QueueProperties) :
    ∃ actions, system.run (fun _ _ => True)
        (subscribeGoesOn s (.setQueueProperties channel queueProps)) actions =
      some (returnTo { s with
        channelHandler := s.channelHandler.setQueueProperties channel queueProps
        pendingChannels :=
          if s.threadRunning then s.pendingChannels ++ [channel] else s.pendingChannels }
        .subscribe .allGood) := by
  let t := { s with channelHandler := s.channelHandler.setQueueProperties channel queueProps }
  have hset : step (subscribeGoesOn s (.setQueueProperties channel queueProps))
      (.subscribeStep 0) = some (subscribeGoesOn t (.runningTest channel)) :=
    step_subscribe_head hrunning _
  have htest : step (subscribeGoesOn t (.runningTest channel)) (.subscribeStep 0) =
      if t.worker.holdsConsumerMutex then none
      else if t.threadRunning then some (subscribeGoesOn t (.push channel))
      else some (returnTo t .subscribe .allGood) := step_subscribe_head (s := t) hrunning _
  have hpush : step (subscribeGoesOn t (.push channel)) (.subscribeStep 0) =
      some (returnTo { t with pendingChannels := t.pendingChannels ++ [channel] } .subscribe
        .allGood) := step_subscribe_head (s := t) hrunning _
  rw [if_neg (show ¬t.worker.holdsConsumerMutex = true by simp [t, hfree])] at htest
  by_cases hthread : s.threadRunning = true
  · rw [if_pos (show t.threadRunning = true from hthread)] at htest
    refine ⟨[.subscribeStep 0, .subscribeStep 0, .subscribeStep 0], ?_⟩
    rw [run_step hset, run_step htest, run_step hpush, if_pos hthread]
    rfl
  · rw [if_neg (show ¬t.threadRunning = true from hthread)] at htest
    refine ⟨[.subscribeStep 0, .subscribeStep 0], ?_⟩
    rw [run_step hset, run_step htest, if_neg hthread]
    rfl

/-- The steps of a `Subscribe` that no other thread interrupts lead where `subscribe`
says, and return its code. -/
theorem subscribe_run (call : SubscribeCall Callback) (hrunning : s.status = .running)
    (hfree : s.worker.holdsConsumerMutex = false) :
    ∃ actions, system.run (fun _ _ => True) s actions =
      some (returnTo (subscribe s call).1 .subscribe (subscribe s call).2) := by
  have hbegin : step s (.subscribe call) = if s.isInitialized then
      some (subscribeGoesOn s (.add call)) else some (returnTo s .subscribe .notInitialized) := by
    rw [step, if_pos hrunning]
    simp only [hfree, Bool.false_eq_true, if_false]
  by_cases hinit : s.isInitialized = true
  · rw [if_pos hinit] at hbegin
    cases hresult : s.channelHandler.addChannelProcessor call.bindingPair call.callback with
    | mk handler channel =>
        have hadd : step (subscribeGoesOn s (.add call)) (.subscribeStep 0) =
            if (handler, channel).2 = -1 then
              some (returnTo { s with channelHandler := (handler, channel).1 } .subscribe
                .unableToSubscribe)
            else some (subscribeGoesOn { s with channelHandler := (handler, channel).1 }
              (.setQueueProperties (handler, channel).2 call.queueProps)) := by
          rw [← hresult]
          exact step_subscribe_head hrunning _
        by_cases hknown : channel = -1
        · rw [if_pos hknown] at hadd
          refine ⟨[.subscribe call, .subscribeStep 0], ?_⟩
          rw [run_step hbegin, run_step hadd,
            subscribe_of_known hinit (by rw [hresult]; exact hknown), hresult]
          rfl
        · rw [if_neg hknown] at hadd
          obtain ⟨actions, hactions⟩ := subscribe_run_new
            (s := { s with channelHandler := handler }) hrunning hfree channel call.queueProps
          refine ⟨.subscribe call :: .subscribeStep 0 :: actions, ?_⟩
          rw [run_step hbegin, run_step hadd, subscribe_of_new hinit hresult hknown]
          exact hactions
  · rw [if_neg hinit] at hbegin
    refine ⟨[.subscribe call], ?_⟩
    rw [run_step hbegin, subscribe_of_not_initialized (by simpa using hinit)]
    rfl

/-! ### What a rejected `Subscribe` changes -/

/-- A `Subscribe` that is rejected changes nothing: not the callback that is invoked
for any pair, the properties of any queue, the channel list or the pending channels.
One that is accepted sends the messages for its pair to its callback, until the pair
is subscribed again, and gives its channel the properties.  A delivery without the
name of an exchange is no message for a pair: `pullNextMessage` drops it. -/
structure SubscribeSound (s : ConsumerState Callback) (call : SubscribeCall Callback) :
    Prop where
  rejected : (subscribe s call).2 ≠ .allGood →
    (∀ bindingPair message, (subscribe s call).1.channelHandler.process bindingPair message =
      s.channelHandler.process bindingPair message) ∧
    (∀ channel, (subscribe s call).1.channelHandler.getQueueProperties channel =
      s.channelHandler.getQueueProperties channel) ∧
    (subscribe s call).1.channelHandler.getChannelList = s.channelHandler.getChannelList ∧
    (subscribe s call).1.pendingChannels = s.pendingChannels
  accepted : (subscribe s call).2 = .allGood →
    (∀ later : List (Operation Callback),
      (∀ operation ∈ later, operation.adds ≠ some call.bindingPair) →
      (∀ message, ((subscribe s call).1.channelHandler.onward later).process call.bindingPair
        message = [(call.callback, message)]) ∧
      ∀ envelope, bindingPairOf envelope = call.bindingPair → envelope.exchange ≠ [] →
        processEnvelope ((subscribe s call).1.channelHandler.onward later) envelope =
          [(call.callback, Message.ofEnvelope envelope)]) ∧
    ∃ channel, (subscribe s call).1.channelHandler.OnChannel call.bindingPair channel ∧
      (subscribe s call).1.channelHandler.getQueueProperties channel = call.queueProps

/-- The call is not made for a pair that is registered with another callback. -/
def NotRedirecting (s : ConsumerState Callback) (call : SubscribeCall Callback) : Prop :=
  s.isInitialized = true →
    ∀ f, s.channelHandler.callbackOf call.bindingPair = some f → f = call.callback

/-- The rejected call for a known pair. -/
theorem subscribeSound_known_iff (hfacts : HandlerFacts s.channelHandler)
    {call : SubscribeCall Callback} (hinit : s.isInitialized = true) {f : Callback}
    (hcallback : s.channelHandler.callbackOf call.bindingPair = some f) :
    SubscribeSound s call ↔ f = call.callback := by
  have hlookup : s.channelHandler.bindingPairLookup.lookup call.bindingPair ≠ none := by
    rw [Ne, ← hfacts.callbackOf_eq_none_iff, hcallback]
    simp
  have hknown := (hfacts.add_refused_iff call.bindingPair call.callback).mpr hlookup
  have hcall := subscribe_of_known hinit hknown
  constructor
  · intro h
    -- after the call the pair leads to the new callback
    have hsame := (h.rejected (by rw [hcall]; simp)).1 call.bindingPair {}
    rw [hcall, process_eq, process_eq, hfacts.callbackOf_add, if_pos rfl, hcallback] at hsame
    have hsame : call.callback = f := by simpa using hsame
    exact hsame.symm
  · rintro rfl
    constructor
    · intro _
      rw [hcall]
      refine ⟨?_, hfacts.getQueueProperties_add call.bindingPair call.callback, ?_, rfl⟩
      · intro bindingPair message
        dsimp only
        rw [process_eq, process_eq, hfacts.callbackOf_add]
        by_cases hpair : bindingPair = call.bindingPair
        · rw [if_pos hpair, hpair, hcallback]
        · rw [if_neg hpair]
      · exact hfacts.getChannelList_refused hknown
    · rw [hcall]
      intro h
      cases h

/-- The accepted call for a new pair. -/
theorem subscribeSound_new (hbuilt : Built s.channelHandler) {call : SubscribeCall Callback}
    (hinit : s.isInitialized = true)
    (hcallback : s.channelHandler.callbackOf call.bindingPair = none) :
    SubscribeSound s call := by
  have hfacts := hbuilt.facts
  have hnone := (hfacts.callbackOf_eq_none_iff call.bindingPair).mp hcallback
  have hnew : (s.channelHandler.addChannelProcessor call.bindingPair call.callback).2 ≠ -1 := by
    rw [Ne, hfacts.add_refused_iff, hnone]
    simp
  have hcall := subscribe_of_new hinit
    (Prod.mk.eta (p := s.channelHandler.addChannelProcessor call.bindingPair call.callback)).symm
    hnew
  have hhandler : Built (subscribe s call).1.channelHandler := by
    rw [hcall]
    exact (hbuilt.add call.bindingPair call.callback).setQueueProperties _ call.queueProps
  have hnow : (subscribe s call).1.channelHandler.callbackOf call.bindingPair =
      some call.callback := by
    rw [hcall]
    dsimp only
    rw [callbackOf_setQueueProperties, hfacts.callbackOf_add, if_pos rfl]
  constructor
  · rw [hcall]
    intro hrejected
    exact absurd rfl hrejected
  · intro _
    constructor
    · intro later hother
      have hprocess : ∀ message, ((subscribe s call).1.channelHandler.onward later).process
          call.bindingPair message = [(call.callback, message)] := by
        intro message
        rw [process_eq, (hhandler.callbackOf_onward hother).2, hnow]
        rfl
      refine ⟨hprocess, ?_⟩
      intro envelope hpair hexchange
      rw [processEnvelope, if_neg (by simpa using hexchange), hpair]
      exact hprocess (Message.ofEnvelope envelope)
    · refine ⟨(s.channelHandler.addChannelProcessor call.bindingPair call.callback).2, ?_, ?_⟩
      · rw [hcall]
        exact onChannel_setQueueProperties (hfacts.onChannel_add hnew) _ _
      · rw [hcall]
        dsimp only
        rw [(hfacts.add _ _).getQueueProperties_set (hfacts.mem_add hnew), if_pos rfl]

/-- In every reachable state, a `Subscribe` is sound exactly when it is not made for
a pair that is registered with another callback. -/
theorem subscribeSound_iff {allowed : ConsumerState Callback → Action Callback → Prop}
    (hs : system.ReachableUnder allowed s) (call : SubscribeCall Callback) :
    SubscribeSound s call ↔ NotRedirecting s call := by
  have hbuilt := built_reachable hs
  unfold NotRedirecting
  cases hinit : s.isInitialized with
  | false =>
      have hcall := subscribe_of_not_initialized hinit call
      constructor
      · intro _ h
        cases h
      · intro _
        constructor
        · rw [hcall]
          intro _
          exact ⟨fun _ _ => rfl, fun _ => rfl, rfl, rfl⟩
        · rw [hcall]
          intro h
          cases h
  | true =>
      cases hcallback : s.channelHandler.callbackOf call.bindingPair with
      | none =>
          have hsound := subscribeSound_new hbuilt hinit hcallback
          simp [hsound]
      | some f =>
          rw [subscribeSound_known_iff hbuilt.facts hinit hcallback]
          simp

/-- Subscribing once more with the same callback is rejected and changes nothing. -/
theorem subscribeSound_same_callback :
    ∃ s : ConsumerState Nat, system.ReachableUnder OneControl s ∧
      (subscribe s ⟨[101], [97], 7, {}⟩).2 = .unableToSubscribe ∧
      SubscribeSound s ⟨[101], [97], 7, {}⟩ := by
  obtain ⟨s, hs, htest⟩ := TransitionSystem.exists_reachableUnder_of_run (M := system) OneControl
    (List.flatten [startUp, subscribeTo 97])
    (fun s : ConsumerState Nat => decide (s.channelHandler.callbackOf ⟨[101], [97]⟩ = some 7 ∧
      (subscribe s ⟨[101], [97], 7, {}⟩).2 = .unableToSubscribe)) (by decide +kernel)
  obtain ⟨hcallback, hcode⟩ := of_decide_eq_true htest
  refine ⟨s, hs, hcode, (subscribeSound_iff hs _).mpr ?_⟩
  intro _ f hf
  exact Option.some.inj (hf.symm.trans hcallback)

/-- Subscribing once more with another callback is rejected and redirects the
pair. -/
theorem subscribeSound_redirected :
    ¬∀ (s : ConsumerState Nat) (call : SubscribeCall Nat),
      system.ReachableUnder OneControl s → SubscribeSound s call := by
  intro h
  obtain ⟨s, hs, htest⟩ := TransitionSystem.exists_reachableUnder_of_run (M := system) OneControl
    (List.flatten [startUp, subscribeTo 97])
    (fun s : ConsumerState Nat => decide ((subscribe s ⟨[101], [97], 8, {}⟩).2 ≠ .allGood ∧
      (subscribe s ⟨[101], [97], 8, {}⟩).1.channelHandler.process ⟨[101], [97]⟩ {} ≠
        s.channelHandler.process ⟨[101], [97]⟩ {})) (by decide +kernel)
  obtain ⟨hcode, hredirected⟩ := of_decide_eq_true htest
  exact hredirected (((h s _ hs).rejected hcode).1 ⟨[101], [97]⟩ {})

end Consumer
end HareCpp
