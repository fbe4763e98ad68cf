import HareCpp.Producer.System
import HareCpp.Consumer.System

/-!
# What a reply is decoded to

Every network operation but one takes its return code from `decodeRpcReply`, and
`PublishMessage` classifies the status of `amqp_basic_publish` on its own.  Both
know a part of rabbitmq-c's codes only.

* `decodeRpcReply_eq_allGood_iff` — what passes for a success: a normal reply, and
  every exception that the two switches do not list.
* `failureReported_iff` — a failure is seen as one exactly when it is listed.
* `lossAgreed_iff` — the two classifications agree on what a lost connection is,
  except for three statuses on which the producer keeps a dead connection.
-/

namespace HareCpp

open ConnectionBase

/-! ### What the decoders list -/

/-- The cases of `decodeLibraryException`. -/
def listedStatuses : List Int :=
  [statusIncompatibleAmqpVersion, statusConnectionClosed, statusInvalidParameter,
    statusSocketError, statusTimeout, statusSocketClosed, statusSslConnectionFailed,
    statusSslHostnameVerifyFailed, statusUnexpectedState]

/-- The cases of `decodeRpcReply` for the method of a server exception. -/
def listedMethods : List UInt32 := [connectionCloseMethod, channelCloseMethod]

/-- The switches have a case of their own for the reply. -/
def AmqpRpcReply.Listed (reply : AmqpRpcReply) : Prop :=
  (reply.replyType = .libraryException → reply.libraryError ∈ listedStatuses) ∧
    (reply.replyType = .serverException → reply.replyId ∈ listedMethods)

instance (reply : AmqpRpcReply) : Decidable reply.Listed :=
  inferInstanceAs (Decidable (_ ∧ _))

/-- A library or a server exception. -/
def AmqpRpcReply.IsException (reply : AmqpRpcReply) : Prop :=
  reply.replyType = .libraryException ∨ reply.replyType = .serverException

/-- A library exception with this status. -/
def libraryException (status : Int) : AmqpRpcReply :=
  { replyType := .libraryException, libraryError := status }

/-- Only the status is looked at. -/
theorem decodeLibraryException_eq (reply : AmqpRpcReply) :
    decodeLibraryException reply =
      decodeLibraryException (libraryException reply.libraryError) := rfl

/-- A status without a case falls through to the default. -/
theorem decodeLibraryException_of_unlisted {reply : AmqpRpcReply}
    (h : reply.libraryError ∉ listedStatuses) : decodeLibraryException reply = .allGood := by
  simp only [listedStatuses, List.mem_cons, List.not_mem_nil, or_false, not_or] at h
  obtain ⟨h₁, h₂, h₃, h₄, h₅, h₆, h₇, h₈, h₉⟩ := h
  rw [decodeLibraryException, if_neg h₁, if_neg h₂, if_neg h₃, if_neg h₄, if_neg h₅, if_neg h₆,
    if_neg h₇, if_neg h₈, if_neg h₉]

/-- A library exception passes for a success exactly when its status has no case. -/
theorem decodeLibraryException_eq_allGood_iff (reply : AmqpRpcReply) :
    decodeLibraryException reply = .allGood ↔ reply.libraryError ∉ listedStatuses := by
  have hlisted : ∀ status ∈ listedStatuses,
      decodeLibraryException (libraryException status) ≠ .allGood := by decide
  constructor
  · intro hgood hmem
    exact hlisted _ hmem hgood
  · exact decodeLibraryException_of_unlisted

/-- What passes for a success. -/
theorem decodeRpcReply_eq_allGood_iff (reply : AmqpRpcReply) :
    decodeRpcReply reply = .allGood ↔
      reply.replyType = .normal ∨
      reply.replyType = .libraryException ∧ reply.libraryError ∉ listedStatuses ∨
      reply.replyType = .serverException ∧ reply.replyId ∉ listedMethods := by
  unfold decodeRpcReply
  cases hkind : reply.replyType with
  | none => simp
  | normal => simp
  | libraryException => simp [decodeLibraryException_eq_allGood_iff]
  | serverException =>
      by_cases hconnection : reply.replyId = connectionCloseMethod
      · simp [hconnection, listedMethods]
      · by_cases hchannel : reply.replyId = channelCloseMethod
        · simp [hchannel, listedMethods, connectionCloseMethod, channelCloseMethod]
        · simp [hconnection, hchannel, listedMethods]

/-- Of the replies with a case of their own, only a normal one passes for a success. -/
theorem AmqpRpcReply.Listed.decoded {reply : AmqpRpcReply} (h : reply.Listed) :
    decodeRpcReply reply = .allGood ↔ reply.replyType = .normal := by
  obtain ⟨hlibrary, hserver⟩ := h
  rw [decodeRpcReply_eq_allGood_iff]
  constructor
  · rintro (hnormal | ⟨hkind, hunlisted⟩ | ⟨hkind, hunlisted⟩)
    · exact hnormal
    · exact absurd (hlibrary hkind) hunlisted
    · exact absurd (hserver hkind) hunlisted
  · exact .inl

/-! ### A failure is seen as one -/

/-- The reply is decoded to `ALL_GOOD` only if it is one, no operation that is
answered with an exception reports `ALL_GOOD`, and `pullNextMessage` takes no
envelope from such an answer. -/
structure FailureReported (reply : AmqpRpcReply) : Prop where
  decoded : decodeRpcReply reply = .allGood ↔ reply.replyType = .normal
  openChannel : reply.IsException → ∀ (base : ConnectionBase) channel closeOkStatus,
    (base.openChannel channel reply closeOkStatus).code ≠ .allGood
  declareExchange : reply.IsException → ∀ (base : ConnectionBase) channel exchange type,
    (base.declareExchange channel exchange type reply).code ≠ .allGood
  consumeMessage : reply.IsException → ∀ base : ConnectionBase,
    (base.consumeMessage reply).code ≠ .allGood
  startConsumption : reply.IsException → ∀ (base : ConnectionBase) channel queueName,
    (base.startConsumption channel queueName reply).code ≠ .allGood
  bindQueue : reply.IsException → ∀ (base : ConnectionBase) channel queueName exchange key,
    (base.bindQueue channel queueName exchange key reply).code ≠ .allGood
  pulled : reply.IsException →
    ∀ (Callback : Type) (s s' : ConsumerState Callback) (input : Consumer.WorkerInput),
      s.worker = .pullConsume → input.reply = reply → Consumer.workerStep s input = some s' →
      ∀ envelope, s'.worker ≠ .pullProcess envelope

/-- An operation that needs a connection succeeds only by its reply. -/
theorem consumeMessage_ne_allGood {reply : AmqpRpcReply} (hbad : decodeRpcReply reply ≠ .allGood)
    (base : ConnectionBase) : (base.consumeMessage reply).code ≠ .allGood := by
  unfold consumeMessage
  split
  · exact hbad
  · simp

/-- `pullNextMessage` goes on to `Process` only when `ConsumeMessage` succeeded. -/
theorem Consumer.not_pullProcess {Callback : Type} {s s' : ConsumerState Callback}
    {input : Consumer.WorkerInput} (hbad : decodeRpcReply input.reply ≠ .allGood)
    (hworker : s.worker = .pullConsume) (hstep : Consumer.workerStep s input = some s')
    (envelope : AmqpEnvelope) : s'.worker ≠ .pullProcess envelope := by
  unfold Consumer.workerStep at hstep
  rw [hworker] at hstep
  dsimp only at hstep
  split at hstep
  · cases hstep
    show s.worker ≠ _
    simp [hworker]
  · next base hbase =>
      have hcode := consumeMessage_ne_allGood hbad base
      rw [if_neg (by simpa using hcode)] at hstep
      split at hstep <;> cases hstep <;> simp

/-- A failure is seen as one exactly when the switches have a case for it. -/
theorem failureReported_iff (reply : AmqpRpcReply) :
    FailureReported reply ↔ reply.Listed := by
  constructor
  · intro h
    have hdecoded := h.decoded
    rw [decodeRpcReply_eq_allGood_iff] at hdecoded
    constructor
    · intro hlibrary
      by_contra hunlisted
      have hnormal := hdecoded.mp (.inr (.inl ⟨hlibrary, hunlisted⟩))
      rw [hlibrary] at hnormal
      cases hnormal
    · intro hserver
      by_contra hunlisted
      have hnormal := hdecoded.mp (.inr (.inr ⟨hserver, hunlisted⟩))
      rw [hserver] at hnormal
      cases hnormal
  · intro hlisted
    have hdecoded := hlisted.decoded
    have hbad : reply.IsException → decodeRpcReply reply ≠ .allGood := by
      intro hexception hgood
      have hnormal := hdecoded.mp hgood
      rcases hexception with hkind | hkind <;> rw [hnormal] at hkind <;> cases hkind
    refine ⟨hdecoded, ?_, ?_, ?_, ?_, ?_, ?_⟩
    · intro hexception base channel closeOkStatus
      unfold ConnectionBase.openChannel
      split
      · exact hbad hexception
      · simp
    · intro hexception base channel exchange type
      unfold ConnectionBase.declareExchange
      split
      · exact hbad hexception
      · simp
    · intro hexception base
      exact consumeMessage_ne_allGood (hbad hexception) base
    · intro hexception base channel queueName
      exact hbad hexception
    · intro hexception base channel queueName exchange key
      exact hbad hexception
    · intro hexception Callback s s' input hworker hreply hstep
      apply Consumer.not_pullProcess _ hworker hstep
      rw [hreply]
      exact hbad hexception

/-- `AMQP_STATUS_HEARTBEAT_TIMEOUT`, for which no switch has a case. -/
def statusHeartbeatTimeout : Int := -0x000F

/-- A lost heartbeat passes for a success. -/
theorem failureReported_heartbeat : ¬∀ reply : AmqpRpcReply, FailureReported reply := by
  intro h
  have hdecoded :=
    (h { replyType := .libraryException, libraryError := statusHeartbeatTimeout }).decoded
  exact absurd hdecoded (by decide)

/-! ### What a lost connection is -/

/-- The statuses for which `decodeLibraryException` reports a lost connection. -/
theorem serverFailure_decodeLibraryException (reply : AmqpRpcReply) :
    serverFailure (decodeLibraryException reply) = true ↔
      reply.libraryError ∈
        [statusConnectionClosed, statusSocketError, statusSocketClosed, statusUnexpectedState] := by
  have hlisted : ∀ status ∈ listedStatuses,
      (serverFailure (decodeLibraryException (libraryException status)) = true ↔ status ∈
        [statusConnectionClosed, statusSocketError, statusSocketClosed,
          statusUnexpectedState]) := by decide
  by_cases hmem : reply.libraryError ∈ listedStatuses
  · rw [decodeLibraryException_eq]
    exact hlisted _ hmem
  · rw [decodeLibraryException_of_unlisted hmem]
    have hnone : reply.libraryError ∉
        [statusConnectionClosed, statusSocketError, statusSocketClosed,
          statusUnexpectedState] := by
      intro hlost
      apply hmem
      simp only [listedStatuses, List.mem_cons, List.not_mem_nil, or_false] at hlost ⊢
      tauto
    simp [hnone, serverFailure]

/-- `PublishMessage` reports a lost connection for one status only. -/
theorem serverFailure_publishCode (status : Int) :
    serverFailure (publishCode status) = true ↔ status = statusSocketError := by
  unfold publishCode
  split_ifs with hneg hsocket
  · simpa [serverFailure] using hsocket
  · simpa [serverFailure] using hsocket
  · have hne : status ≠ statusSocketError := by
      rintro rfl
      exact hneg (by decide)
    simpa [serverFailure] using hne

/-- `PublishMessage`, answered with `status`, gives the connection up exactly when
an RPC does that ends in a library exception with that status; and so do the
producer's `publishNextInQueue` and the consumer's `pullNextMessage`. -/
structure LossAgreed (status : Int) : Prop where
  codes : ∀ (base : ConnectionBase) object message now (reply : AmqpRpcReply),
    base.isConnected = true → reply.libraryError = status →
      (serverFailure (base.publishMessage object message now status).1.code = true ↔
        serverFailure (decodeLibraryException reply) = true)
  workers : ∀ (Callback : Type) (p p' : ProducerState) (given : Producer.WorkerInput)
      (c c' : ConsumerState Callback) (input : Consumer.WorkerInput) object,
    p.worker = .publish object → Producer.isConnected p = true → given.publishStatus = status →
      Producer.workerStep p given = some p' →
    c.worker = .pullConsume → Consumer.isConnected c = true →
      input.reply.replyType = .libraryException → input.reply.libraryError = status →
      Consumer.workerStep c input = some c' →
    (p'.worker = .close .publishNextInQueue ↔ c'.worker = .pullRunning)

/-- On a connection, `publishNextInQueue` goes on to close it exactly when the
status says that it is lost. -/
theorem Producer.publish_closes_iff {p p' : ProducerState} {given : Producer.WorkerInput}
    {object : Nat} (hworker : p.worker = .publish object) (hup : Producer.isConnected p = true)
    (hstep : Producer.workerStep p given = some p') :
    p'.worker = .close .publishNextInQueue ↔
      serverFailure (publishCode given.publishStatus) = true := by
  unfold Producer.isConnected at hup
  unfold Producer.workerStep at hstep
  rw [hworker] at hstep
  dsimp only at hstep
  split at hstep
  · next hnone => simp [hnone] at hup
  · next base hbase =>
      simp only [hbase] at hup
      simp only [publishMessage, hup, if_true] at hstep
      split at hstep
      · next hfailure =>
          cases hstep
          simp [hfailure]
      · next hfailure => split at hstep <;> cases hstep <;> simp [hfailure]

/-- On a connection, `pullNextMessage` goes on to give it up exactly when the
reply says that it is lost. -/
theorem Consumer.pull_closes_iff {Callback : Type} {c c' : ConsumerState Callback}
    {input : Consumer.WorkerInput} (hworker : c.worker = .pullConsume)
    (hup : Consumer.isConnected c = true) (hstep : Consumer.workerStep c input = some c') :
    c'.worker = .pullRunning ↔ serverFailure (decodeRpcReply input.reply) = true := by
  unfold Consumer.isConnected at hup
  unfold Consumer.workerStep at hstep
  rw [hworker] at hstep
  dsimp only at hstep
  split at hstep
  · next hnone => simp [hnone] at hup
  · next base hbase =>
      simp only [hbase] at hup
      simp only [consumeMessage, hup, if_true] at hstep
      split at hstep
      · next hgood =>
          cases hstep
          rw [noError_eq_true] at hgood
          simp [hgood, serverFailure]
      · split at hstep
        · next hfailure =>
            cases hstep
            simp [hfailure]
        · next hfailure =>
            cases hstep
            simp [hfailure]

/-- A connection that is up. -/
def connectedBase : ConnectionBase := { ConnectionBase.new {} with isConnected := true }

/-- The two classifications agree on every status but three, on which the producer
goes on with the lost connection. -/
theorem lossAgreed_iff (status : Int) :
    LossAgreed status ↔
      status ∉ [statusConnectionClosed, statusSocketClosed, statusUnexpectedState] := by
  constructor
  · intro h hmem
    -- any connection that is up shows the difference
    have hcodes := h.codes connectedBase 0 {} 0
      { replyType := .libraryException, libraryError := status } rfl rfl
    rw [serverFailure_decodeLibraryException] at hcodes
    have hlost : status ∈ [statusConnectionClosed, statusSocketError, statusSocketClosed,
        statusUnexpectedState] := by
      simp only [List.mem_cons, List.not_mem_nil, or_false] at hmem ⊢
      tauto
    have hsocket := (serverFailure_publishCode status).mp (hcodes.mpr hlost)
    subst hsocket
    exact absurd hmem (by decide)
  · intro hmem
    have hagree : ∀ reply : AmqpRpcReply, reply.libraryError = status →
        (serverFailure (publishCode status) = true ↔
          serverFailure (decodeLibraryException reply) = true) := by
      intro reply hreply
      rw [serverFailure_publishCode, serverFailure_decodeLibraryException, hreply]
      simp only [List.mem_cons, List.not_mem_nil, or_false] at hmem ⊢
      tauto
    constructor
    · intro base object message now reply hup hreply
      have hcode : (base.publishMessage object message now status).1.code = publishCode status := by
        simp [publishMessage, hup]
      rw [hcode]
      exact hagree reply hreply
    · intro Callback p p' given c c' input object hp hpup hstatus hpstep hc hcup hkind herror hcstep
      rw [Producer.publish_closes_iff hp hpup hpstep, Consumer.pull_closes_iff hc hcup hcstep,
        hstatus, decodeRpcReply, hkind]
      exact hagree input.reply herror

/-- A producer that publishes on a closed connection keeps it. -/
theorem lossAgreed_connection_closed : ¬∀ status : Int, status < 0 → LossAgreed status := by
  intro h
  have hcodes := (h statusConnectionClosed (by decide)).codes connectedBase 0 {} 0
    { replyType := .libraryException, libraryError := statusConnectionClosed } rfl rfl
  exact absurd hcodes (by decide)

end HareCpp
