import HareCpp.Library.Heap
import HareCpp.Producer.Buffers
import Mathlib.Data.List.AList

/-!
# Who owns what a `Message` points to

`Message` objects with their pointers.  A body is allocated by a constructor or by
`SetPayload`, and freed by the destructor; `SetPayload` on a message that has one
loses the old body.  The copies that `hare_basic_properties_malloc_dup` makes of the
properties are never freed; of the table of headers it copies the pointer, which leads
into the pool of the envelope that the message was made of.  `SetReplyTo` and
`SetCorrelationId` make no copy, but point into the caller's string, and `Send` copies
the body but not the properties.  The default `operator=` copies the pointers.

* `memory_sound` — in careful programs nothing is freed twice or used after its free,
  and what is live is what the messages, the queue, the consumer and the caller own, and
  what was lost.
-/

namespace HareCpp
namespace MessageMemory

open Library TransitionSystem

/-- The properties that are strings, in the order of
`hare_basic_properties_malloc_dup`. -/
inductive BasicProperty
  | contentType
  | contentEncoding
  | correlationId
  | replyTo
  | expiration
  | messageId
  | type
  | userId
  | appId
  | clusterId
  deriving DecidableEq, Repr

/-- What a block is for. -/
inductive Part
  | body
  | property (name : BasicProperty)
  /-- a `std::string` of the caller -/
  | text
  /-- an `amqp_envelope_t`, with the pool that its headers lie in -/
  | envelope
  /-- a buffer of a `RawMessage` -/
  | queued (field : Producer.BufferField)
  /-- where an `m_body` points that was never set; no call allocates it -/
  | unset
  deriving DecidableEq, Repr

/-- A block: the number of the call that allocated it, and its part in it. -/
abbrev Block : Type := Nat × Part

/-- A `Message`: `m_body.bytes`, when it has been set, and the properties and the table
of headers whose flag is set. -/
structure MessageVar where
  body : Option Block
  properties : BasicProperty → Option Block
  headers : Option Block

/-- What `m_body.bytes` holds. -/
def MessageVar.bytes (value : MessageVar) : Block := value.body.getD (0, .unset)

/-- A `RawMessage` in the queue: its buffers are those of the `Send` of this number,
its properties and headers those of the message. -/
structure QueuedMessage where
  number : Nat
  properties : BasicProperty → Option Block
  headers : Option Block

/-- The messages, strings and envelopes of a program, by variable and by number, and the
queue of its producer.  `lost` are the blocks that will not be freed any more. -/
structure Memory where
  messages : AList fun _ : Nat => MessageVar
  texts : List Nat
  envelopes : List Nat
  queue : List QueuedMessage
  made : Nat
  lost : List Block

/-- The program has done nothing yet. -/
def initial : Memory where
  messages := ∅
  texts := []
  envelopes := []
  queue := []
  made := 0
  lost := []

/-- What a program does with messages; `x` and `y` are its variables. -/
inductive Op
  /-- `Message()` -/
  | blank (x : Nat)
  /-- `Message(const std::string&)`, `Message(std::string&&)` -/
  | ofString (x : Nat)
  /-- `amqp_consume_message` fills an envelope -/
  | receive
  /-- `amqp_destroy_envelope` -/
  | release (envelope : Nat)
  /-- `Message(const amqp_envelope_t&)`, with the properties that are marked, and the
  headers if they are -/
  | ofEnvelope (x envelope : Nat) (marked : BasicProperty → Bool) (headers : Bool)
  /-- `Message(const Message&)` -/
  | copy (x y : Nat)
  /-- `x = y` -/
  | assign (x y : Nat)
  /-- `SetPayload` -/
  | setPayload (x : Nat)
  /-- `SetReplyTo` with a string of the caller -/
  | setReplyTo (x text : Nat)
  /-- `SetCorrelationId` with a string of the caller -/
  | setCorrelationId (x text : Nat)
  /-- `String`, `Payload` -/
  | readBody (x : Nat)
  /-- `ReplyTo` -/
  | readReplyTo (x : Nat)
  /-- `~Message` -/
  | destroy (x : Nat)
  /-- a string of the caller comes into being -/
  | newText
  /-- a string of the caller dies -/
  | dropText (text : Nat)
  /-- `Send` -/
  | send (x : Nat)
  /-- `amqp_basic_publish` of the front -/
  | publish
  /-- `hare_free_message_risky` of the front, and `pop` -/
  | freeFront

/-! ### Calls -/

/-- The properties whose flag is set. -/
def flagged (properties : BasicProperty → Option Block) : List BasicProperty :=
  [.contentType, .contentEncoding, .correlationId, .replyTo, .expiration, .messageId, .type,
    .userId, .appId, .clusterId].filter fun name => (properties name).isSome

/-- The blocks that the properties point to. -/
def pointees (properties : BasicProperty → Option Block) : List Block :=
  (flagged properties).filterMap properties

/-- The copies that the call of this number makes of the properties. -/
def dupBlocks (number : Nat) (properties : BasicProperty → Option Block) : List Block :=
  (flagged properties).map fun name => (number, .property name)

/-- The pointers to them. -/
def dupProperties (number : Nat) (properties : BasicProperty → Option Block)
    (name : BasicProperty) : Option Block :=
  (properties name).map fun _ => (number, .property name)

/-- The properties of an envelope, which are marked or not. -/
def markedProperties (marked : BasicProperty → Bool) (name : BasicProperty) : Option Block :=
  if marked name then some (0, .property name) else none

/-- The buffers of a queued message, in the order in which `Send` allocates them. -/
def queuedBlocks (number : Nat) : List Block :=
  [(number, .queued .exchange), (number, .queued .routingKey), (number, .queued .message)]

/-- Blocks are read, then others allocated.  Nothing is freed in between, so that the
order in which a call does this is of no importance. -/
def readThenAlloc (reads allocs : List Block) : List (HeapEvent Block) :=
  allocs.map .alloc ++ reads.map .read

/-- A message is constructed, or gets other contents, by the call of number
`memory.made`. -/
def put (memory : Memory) (x : Nat) (value : MessageVar) (lost : List Block) : Memory :=
  { memory with
    messages := memory.messages.insert x value
    made := memory.made + 1
    lost := lost ++ memory.lost }

/-- A property of a message points to a string of the caller. -/
def pointTo (memory : Memory) (x : Nat) (name : BasicProperty) (text : Nat) :
    Option (Memory × List (HeapEvent Block)) :=
  match memory.messages.lookup x with
  | none => none
  | some old =>
      if text ∈ memory.texts then
        some (put memory x { old with
          properties := Function.update old.properties name (some (text, .text)) } [], [])
      else none

/-- What a call does to the memory, and to the heap, newest first; `none` where a
program cannot make it: a constructor needs a new variable, and a call a message, a
string, an envelope or a front where it works on one. -/
def call (memory : Memory) : Op → Option (Memory × List (HeapEvent Block))
  | .blank x =>
      match memory.messages.lookup x with
      | some _ => none
      | none => some (put memory x ⟨none, fun _ => none, none⟩ [], [])
  | .ofString x =>
      match memory.messages.lookup x with
      | some _ => none
      | none =>
          some (put memory x ⟨some (memory.made, .body), fun _ => none, none⟩ [],
            readThenAlloc [] [(memory.made, .body)])
  | .receive =>
      some ({ memory with
          envelopes := memory.made :: memory.envelopes
          made := memory.made + 1 },
        readThenAlloc [] [(memory.made, .envelope)])
  | .release envelope =>
      if envelope ∈ memory.envelopes then
        some ({ memory with envelopes := memory.envelopes.erase envelope },
          [(envelope, .envelope)].map .free)
      else none
  | .ofEnvelope x envelope marked headers =>
      match memory.messages.lookup x with
      | some _ => none
      | none =>
          if envelope ∈ memory.envelopes then
            let copies := dupBlocks memory.made (markedProperties marked)
            some (put memory x
                { body := some (memory.made, .body)
                  properties := dupProperties memory.made (markedProperties marked)
                  headers := if headers then some (envelope, .envelope) else none } copies,
              readThenAlloc [(envelope, .envelope)] (copies ++ [(memory.made, .body)]))
          else none
  | .copy x y =>
      match memory.messages.lookup x, memory.messages.lookup y with
      | none, some source =>
          -- the flag is copied, so that nothing will free the copy of an unset body
          let copies := dupBlocks memory.made source.properties
          let unfreed : List Block := if source.body.isSome then [] else [(memory.made, .body)]
          some (put memory x
              { body := source.body.map fun _ => (memory.made, .body)
                properties := dupProperties memory.made source.properties
                headers := source.headers } (unfreed ++ copies),
            readThenAlloc (source.bytes :: pointees source.properties)
              ((memory.made, .body) :: copies))
      | _, _ => none
  | .assign x y =>
      match memory.messages.lookup x, memory.messages.lookup y with
      | some old, some new =>
          if x = y then some (memory, [])
          else some (put memory x new old.body.toList, [])
      | _, _ => none
  | .setPayload x =>
      match memory.messages.lookup x with
      | none => none
      | some old =>
          some (put memory x { old with body := some (memory.made, .body) } old.body.toList,
            readThenAlloc [] [(memory.made, .body)])
  | .setReplyTo x text => pointTo memory x .replyTo text
  | .setCorrelationId x text => pointTo memory x .correlationId text
  | .readBody x =>
      match memory.messages.lookup x with
      | none => none
      | some old => some (memory, readThenAlloc old.body.toList [])
  | .readReplyTo x =>
      match memory.messages.lookup x with
      | none => none
      | some old => some (memory, readThenAlloc (old.properties .replyTo).toList [])
  | .destroy x =>
      match memory.messages.lookup x with
      | none => none
      | some old =>
          some ({ memory with messages := memory.messages.erase x }, old.body.toList.map .free)
  | .newText =>
      some ({ memory with texts := memory.made :: memory.texts, made := memory.made + 1 },
        readThenAlloc [] [(memory.made, .text)])
  | .dropText text =>
      if text ∈ memory.texts then
        some ({ memory with texts := memory.texts.erase text }, [(text, .text)].map .free)
      else none
  | .send x =>
      match memory.messages.lookup x with
      | none => none
      | some message =>
          some ({ memory with
              queue := memory.queue ++ [⟨memory.made, message.properties, message.headers⟩]
              made := memory.made + 1 },
            readThenAlloc [message.bytes] (queuedBlocks memory.made).reverse)
  | .publish =>
      match memory.queue with
      | [] => none
      | front :: _ =>
          some (memory, readThenAlloc (queuedBlocks front.number ++
            (pointees front.properties ++ front.headers.toList)) [])
  | .freeFront =>
      match memory.queue with
      | [] => none
      | front :: rest =>
          some ({ memory with queue := rest }, (queuedBlocks front.number).map .free)

/-- The program as a transition system, with the history of its heap. -/
def system : TransitionSystem (Memory × List (HeapEvent Block)) Op where
  init := (initial, [])
  step t op := (call t.1 op).map fun after => (after.1, after.2 ++ t.2)

/-! ### Owners -/

/-- The blocks of the messages, of the strings, of the envelopes and of the queue, and
those that are lost. -/
def owned (memory : Memory) : List Block :=
  memory.messages.entries.filterMap (·.2.body) ++ (memory.texts.map fun text => (text, .text)) ++
    (memory.envelopes.map fun envelope => (envelope, .envelope)) ++
    memory.queue.flatMap (fun queued => queuedBlocks queued.number) ++ memory.lost

/-- The blocks that the properties of messages point to, in the program and in the
queue. -/
def pointers (memory : Memory) : List Block :=
  memory.messages.entries.flatMap (fun entry => pointees entry.2.properties) ++
    memory.queue.flatMap fun queued => pointees queued.properties

/-- A block that the properties may point to: one that is never freed, or a string. -/
def Lasting (memory : Memory) (block : Block) : Prop :=
  block ∈ memory.lost ∨ ∃ text ∈ memory.texts, block = (text, .text)

/-- What a call does with the blocks: it reads some that have an owner and allocates
new ones, or it frees some. -/
inductive Handles (memory memory' : Memory) : List (HeapEvent Block) → Prop
  | takes (reads allocs : List Block) (hreads : ∀ block ∈ reads, block ∈ owned memory)
      (hnodup : allocs.Nodup) (hnew : ∀ block ∈ allocs, block.1 = memory.made)
      (hmade : allocs ≠ [] → memory'.made = memory.made + 1)
      (howned : (owned memory').Perm (allocs ++ owned memory)) :
      Handles memory memory' (readThenAlloc reads allocs)
  | frees (blocks : List Block) (howned : (owned memory).Perm (blocks ++ owned memory')) :
      Handles memory memory' (blocks.map .free)

/-- What holds of the memory after every careful history. -/
structure MemoryFacts (memory : Memory) (record : List (HeapEvent Block)) : Prop where
  live : heapAfter record = some (owned memory).toFinset
  nodup : (owned memory).Nodup
  old : ∀ block ∈ owned memory, block.1 < memory.made
  points : ∀ block ∈ pointers memory, Lasting memory block

/-- A call that handles its blocks so keeps the heap right. -/
theorem Handles.facts {memory memory' : Memory} {events record : List (HeapEvent Block)}
    (h : Handles memory memory' events) (hfacts : MemoryFacts memory record)
    (hmade : memory.made ≤ memory'.made) :
    heapAfter (events ++ record) = some (owned memory').toFinset ∧ (owned memory').Nodup ∧
      ∀ block ∈ owned memory', block.1 < memory'.made := by
  cases h with
  | takes reads allocs hreads hnodup hnew hnext howned =>
      have hfresh : ∀ block ∈ allocs, block ∉ owned memory := by
        intro block hblock hold
        have hless := hfacts.old block hold
        rw [hnew block hblock] at hless
        exact lt_irrefl _ hless
      refine ⟨?_, ?_, ?_⟩
      · have hread : heapAfter (reads.map HeapEvent.read ++ record) =
            some (owned memory).toFinset := by
          refine heapAfter_reads hfacts.live ?_
          exact fun block hblock => List.mem_toFinset.mpr (hreads block hblock)
        have halloc := heapAfter_allocs hread hnodup fun block hblock hlive =>
          hfresh block hblock (List.mem_toFinset.mp hlive)
        rw [readThenAlloc, List.append_assoc, halloc, List.toFinset_eq_of_perm _ _ howned,
          List.toFinset_append]
      · refine howned.nodup_iff.mpr (List.nodup_append.mpr ⟨hnodup, hfacts.nodup, ?_⟩)
        rintro block hblock other hother rfl
        exact hfresh block hblock hother
      · intro block hblock
        rcases List.mem_append.mp (howned.mem_iff.mp hblock) with hblock | hold
        · have hnext := hnext (List.ne_nil_of_mem hblock)
          have hnumber := hnew block hblock
          omega
        · exact (hfacts.old block hold).trans_le hmade
  | frees blocks howned =>
      have hall : (blocks ++ owned memory').Nodup := howned.nodup_iff.mp hfacts.nodup
      obtain ⟨hblocks, hrest, hapart⟩ := List.nodup_append.mp hall
      refine ⟨?_, hrest, ?_⟩
      · have hlive : ∀ block ∈ blocks, block ∈ (owned memory).toFinset := by
          intro block hblock
          exact List.mem_toFinset.mpr (howned.mem_iff.mpr (List.mem_append_left _ hblock))
        rw [heapAfter_frees hfacts.live hblocks hlive, List.toFinset_eq_of_perm _ _ howned,
          List.toFinset_append]
        congr 1
        ext block
        simp only [Finset.mem_sdiff, Finset.mem_union, List.mem_toFinset]
        constructor
        · rintro ⟨hblock | hblock, hnot⟩
          · exact absurd hblock hnot
          · exact hblock
        · intro hblock
          exact ⟨.inr hblock, fun hfreed => hapart block hfreed block hblock rfl⟩
      · intro block hblock
        have hold := hfacts.old block (howned.mem_iff.mpr (List.mem_append_right _ hblock))
        exact hold.trans_le hmade

/-! ### What each call does -/

section Calls

variable {memory memory' : Memory} {events : List (HeapEvent Block)}

theorem mem_pointees {properties : BasicProperty → Option Block} {block : Block} :
    block ∈ pointees properties ↔ ∃ name, properties name = some block := by
  simp only [pointees, flagged, List.mem_filterMap, List.mem_filter]
  constructor
  · rintro ⟨name, -, hname⟩
    exact ⟨name, hname⟩
  · rintro ⟨name, hname⟩
    refine ⟨name, ⟨?_, by rw [hname]; rfl⟩, hname⟩
    cases name <;> decide

theorem nodup_dupBlocks (number : Nat) (properties : BasicProperty → Option Block) :
    (dupBlocks number properties).Nodup := by
  refine List.Nodup.map ?_ (List.Nodup.filter _ (by decide))
  intro name name' heq
  simpa using heq

theorem of_mem_dupBlocks {number : Nat} {properties : BasicProperty → Option Block} {block : Block}
    (h : block ∈ dupBlocks number properties) :
    block.1 = number ∧ ∃ name, block.2 = .property name := by
  obtain ⟨name, -, rfl⟩ := List.mem_map.mp h
  exact ⟨rfl, name, rfl⟩

/-- The pointers to the copies point to the copies. -/
theorem pointees_dupProperties (number : Nat) (properties : BasicProperty → Option Block) :
    ∀ block ∈ pointees (dupProperties number properties), block ∈ dupBlocks number properties := by
  intro block hblock
  obtain ⟨name, hname⟩ := mem_pointees.mp hblock
  obtain ⟨source, hsource, rfl⟩ := Option.map_eq_some_iff.mp hname
  refine List.mem_map.mpr ⟨name, List.mem_filter.mpr ⟨?_, by rw [hsource]; rfl⟩, rfl⟩
  cases name <;> decide

/-- The messages other than `x`, and `x`. -/
theorem perm_of_lookup {x : Nat} {value : MessageVar} (h : memory.messages.lookup x = some value) :
    memory.messages.entries.Perm (⟨x, value⟩ :: (memory.messages.erase x).entries) := by
  have hmem : x ∈ memory.messages.entries.keys := by
    have hsome : x ∈ memory.messages := AList.lookup_isSome.mp (by rw [h]; rfl)
    exact hsome
  obtain ⟨value', before, after, hnot, hentries, herase⟩ := List.exists_of_kerase hmem
  have hvalue : value' = value := by
    have hlookup : List.dlookup x memory.messages.entries = some value := h
    rw [hentries, List.dlookup_append, List.dlookup_eq_none.mpr hnot, Option.none_or,
      List.dlookup_cons_eq] at hlookup
    exact Option.some.inj hlookup
  subst hvalue
  show memory.messages.entries.Perm (⟨x, value'⟩ :: List.kerase x memory.messages.entries)
  rw [herase, hentries]
  exact List.perm_middle

/-- The entries after a message was put in. -/
theorem entries_put (memory : Memory) (x : Nat) (value : MessageVar) (lost : List Block) :
    (put memory x value lost).messages.entries = ⟨x, value⟩ :: (memory.messages.erase x).entries :=
  rfl

/-- What a message owned is lost or its own, and so is what it gets. -/
theorem owned_put {x : Nat} {old : Option MessageVar} (h : memory.messages.lookup x = old)
    (value : MessageVar) (lost : List Block) :
    ((old.bind (·.body)).toList ++ owned (put memory x value lost)).Perm
      (value.body.toList ++ lost ++ owned memory) := by
  have hentries : (memory.messages.entries.filterMap (·.2.body)).Perm
      ((old.bind (·.body)).toList ++ (memory.messages.erase x).entries.filterMap (·.2.body)) := by
    cases old with
    | none =>
        have hnot : x ∉ memory.messages.entries.keys := List.dlookup_eq_none.mp h
        have herase : (memory.messages.erase x).entries = memory.messages.entries :=
          List.kerase_of_notMem_keys hnot
        rw [herase]
        exact List.Perm.refl _
    | some old =>
        refine ((perm_of_lookup h).filterMap _).trans ?_
        cases hbody : old.body <;> simp [hbody]
  have hput : (put memory x value lost).messages.entries.filterMap (·.2.body) =
      value.body.toList ++ (memory.messages.erase x).entries.filterMap (·.2.body) := by
    rw [entries_put]
    cases hbody : value.body <;> simp [hbody]
  unfold owned
  rw [hput, ← Multiset.coe_eq_coe]
  have hentries := Multiset.coe_eq_coe.mpr hentries
  simp only [← Multiset.coe_add] at hentries ⊢
  rw [hentries]
  show _ + (_ + _ + _ + _ + _ + ((lost ++ memory.lost : List Block) : Multiset Block)) = _
  rw [← Multiset.coe_add]
  simp only [put]
  abel

/-- A body belongs to the message. -/
theorem body_mem_owned {x : Nat} {value : MessageVar} {block : Block}
    (h : memory.messages.lookup x = some value) (hbody : value.body = some block) :
    block ∈ owned memory := by
  have hentry : (⟨x, value⟩ : Σ _ : Nat, MessageVar) ∈ memory.messages.entries :=
    (perm_of_lookup h).mem_iff.mpr List.mem_cons_self
  unfold owned
  simp only [List.mem_append, List.mem_filterMap]
  exact .inl (.inl (.inl (.inl ⟨_, hentry, hbody⟩)))

/-- An envelope that was not destroyed belongs to the consumer. -/
theorem envelope_mem_owned {envelope : Nat} (h : envelope ∈ memory.envelopes) :
    (envelope, .envelope) ∈ owned memory := by
  unfold owned
  simp only [List.mem_append, List.mem_map]
  exact .inl (.inl (.inr ⟨envelope, h, rfl⟩))

/-- What the properties of a message point to. -/
theorem pointees_mem_pointers {x : Nat} {value : MessageVar} {block : Block}
    (h : memory.messages.lookup x = some value) (hblock : block ∈ pointees value.properties) :
    block ∈ pointers memory := by
  have hentry : (⟨x, value⟩ : Σ _ : Nat, MessageVar) ∈ memory.messages.entries :=
    (perm_of_lookup h).mem_iff.mpr List.mem_cons_self
  unfold pointers
  exact List.mem_append_left _ (List.mem_flatMap.mpr ⟨_, hentry, hblock⟩)

/-- Pointers lead to something that has an owner. -/
theorem MemoryFacts.pointers_owned {record : List (HeapEvent Block)}
    (hfacts : MemoryFacts memory record) : ∀ block ∈ pointers memory, block ∈ owned memory := by
  intro block hblock
  unfold owned
  simp only [List.mem_append, List.mem_map]
  rcases hfacts.points block hblock with hlost | ⟨text, htext, rfl⟩
  · exact .inr hlost
  · exact .inl (.inl (.inl (.inr ⟨text, htext, rfl⟩)))

/-- A new message, with what its constructor allocates. -/
theorem handles_construct {x : Nat} (h : memory.messages.lookup x = none) (value : MessageVar)
    {reads copies : List Block} (hreads : ∀ block ∈ reads, block ∈ owned memory)
    (hbody : value.body = some (memory.made, .body))
    (hcopies : ∃ properties, copies = dupBlocks memory.made properties) {allocs : List Block}
    (hallocs : allocs.Perm ((memory.made, .body) :: copies)) :
    Handles memory (put memory x value copies) (readThenAlloc reads allocs) := by
  obtain ⟨properties, rfl⟩ := hcopies
  refine .takes reads allocs hreads ?_ ?_ (fun _ => rfl) ?_
  · refine hallocs.nodup_iff.mpr (List.nodup_cons.mpr ⟨?_, nodup_dupBlocks _ _⟩)
    intro hmem
    obtain ⟨-, name, hname⟩ := of_mem_dupBlocks hmem
    cases hname
  · intro block hblock
    rcases List.mem_cons.mp (hallocs.mem_iff.mp hblock) with rfl | hcopy
    · rfl
    · exact (of_mem_dupBlocks hcopy).1
  · have howned := owned_put h value (dupBlocks memory.made properties)
    rw [hbody] at howned
    exact howned.trans (hallocs.symm.append_right _)

/-- A message whose old body is lost gets another one. -/
theorem owned_replace {x : Nat} {old : MessageVar} (h : memory.messages.lookup x = some old)
    (value : MessageVar) :
    (owned (put memory x value old.body.toList)).Perm (value.body.toList ++ owned memory) := by
  have howned := owned_put h value old.body.toList
  rw [Option.bind_some] at howned
  refine (List.perm_append_left_iff old.body.toList).mp (howned.trans ?_)
  rw [← List.append_assoc]
  exact List.perm_append_comm.append_right _

/-- A pointer among the properties changes nothing about the owners. -/
theorem handles_pointTo {x text : Nat} {name : BasicProperty}
    (h : pointTo memory x name text = some (memory', events)) :
    Handles memory memory' events ∧ memory.made ≤ memory'.made := by
  unfold pointTo at h
  split at h
  · cases h
  · next old hold =>
      split at h
      · cases h
        refine ⟨.takes [] [] (by simp) (by simp) (by simp) (by simp) ?_, Nat.le_succ _⟩
        have howned := owned_put hold { old with
          properties := Function.update old.properties name (some (text, .text)) } []
        rw [Option.bind_some, List.append_nil] at howned
        exact (List.perm_append_left_iff _).mp howned
      · cases h

/-- The message, if there is one, has a body. -/
def BodySet (memory : Memory) (x : Nat) : Prop :=
  ∀ value ∈ memory.messages.lookup x, value.body.isSome

instance (memory : Memory) (x : Nat) : Decidable (BodySet memory x) :=
  inferInstanceAs (Decidable (∀ value ∈ memory.messages.lookup x, value.body.isSome))

/-- The headers of the front, if it has any, lie in an envelope that was not destroyed. -/
def HeadersLive (memory : Memory) : Prop :=
  ∀ block ∈ memory.queue.head?.bind (·.headers),
    block ∈ memory.envelopes.map fun envelope => ((envelope, .envelope) : Block)

instance (memory : Memory) : Decidable (HeadersLive memory) :=
  inferInstanceAs (Decidable (∀ block ∈ memory.queue.head?.bind (·.headers), block ∈ _))

/-- No `operator=`, no string dies while a message points into it, no message is copied
or sent before its body is set, and none is published with the headers of an envelope
that was destroyed. -/
def Careful (t : Memory × List (HeapEvent Block)) : Op → Prop
  | .assign _ _ => False
  | .dropText text => (text, .text) ∉ pointers t.1
  | .copy _ y => BodySet t.1 y
  | .send x => BodySet t.1 x
  | .publish => HeadersLive t.1
  | _ => True

instance (t : Memory × List (HeapEvent Block)) : (op : Op) → Decidable (Careful t op)
  | .assign .. => inferInstanceAs (Decidable False)
  | .dropText _ => inferInstanceAs (Decidable (_ ∉ _))
  | .copy _ _ | .send _ => inferInstanceAs (Decidable (BodySet _ _))
  | .publish => inferInstanceAs (Decidable (HeadersLive _))
  | .blank _ | .ofString _ | .receive | .release _ | .ofEnvelope .. | .setPayload _
  | .setReplyTo .. | .setCorrelationId .. | .readBody _ | .readReplyTo _ | .destroy _ | .newText
  | .freeFront => inferInstanceAs (Decidable True)

/-- Blocks that come in, wherever they stand among the others. -/
theorem perm_incoming (bodies texts envelopes queue lost new : List Block) :
    (bodies ++ (new ++ texts) ++ envelopes ++ queue ++ lost).Perm
        (new ++ (bodies ++ texts ++ envelopes ++ queue ++ lost)) ∧
      (bodies ++ texts ++ (new ++ envelopes) ++ queue ++ lost).Perm
        (new ++ (bodies ++ texts ++ envelopes ++ queue ++ lost)) ∧
      (bodies ++ texts ++ envelopes ++ (new ++ queue) ++ lost).Perm
        (new ++ (bodies ++ texts ++ envelopes ++ queue ++ lost)) := by
  refine ⟨?_, ?_, ?_⟩ <;>
    · rw [← Multiset.coe_eq_coe]
      simp only [← Multiset.coe_add]
      abel

/-- What every call does with the blocks. -/
theorem call_handles {op : Op} {record : List (HeapEvent Block)}
    (hfacts : MemoryFacts memory record) (hcareful : Careful (memory, record) op)
    (h : call memory op = some (memory', events)) :
    Handles memory memory' events ∧ memory.made ≤ memory'.made := by
  have hsame : ∀ reads : List Block, (∀ block ∈ reads, block ∈ owned memory) →
      Handles memory memory (readThenAlloc reads []) :=
    fun reads hreads => .takes reads [] hreads (by simp) (by simp) (by simp) (List.Perm.refl _)
  cases op with
  | blank x =>
      rw [call] at h
      split at h
      · cases h
      · next hnone =>
          cases h
          refine ⟨.takes [] [] (by simp) (by simp) (by simp) (by simp) ?_, Nat.le_succ _⟩
          exact owned_put hnone ⟨none, fun _ => none, none⟩ []
  | ofString x =>
      rw [call] at h
      split at h
      · cases h
      · next hnone =>
          cases h
          refine ⟨handles_construct hnone _ (by simp) rfl ⟨fun _ => none, rfl⟩ ?_, Nat.le_succ _⟩
          exact List.Perm.refl _
  | receive =>
      cases h
      refine ⟨.takes [] _ (by simp) (by simp) (by simp) (fun _ => rfl) ?_, Nat.le_succ _⟩
      exact (perm_incoming _ _ _ _ _ [(memory.made, .envelope)]).2.1
  | release envelope =>
      rw [call] at h
      split at h
      · next henvelope =>
          cases h
          refine ⟨.frees [(envelope, .envelope)] ?_, le_refl _⟩
          have henvelopes := (List.perm_cons_erase henvelope).map
            fun envelope => ((envelope, .envelope) : Block)
          refine List.Perm.trans ?_ (perm_incoming _ _ _ _ _ [(envelope, .envelope)]).2.1
          exact ((henvelopes.append_left _).append_right _).append_right _
      · cases h
  | ofEnvelope x envelope marked headers =>
      rw [call] at h
      split at h
      · cases h
      · next hnone =>
          split at h
          · next henvelope =>
              cases h
              refine ⟨handles_construct hnone _ ?_ rfl ⟨_, rfl⟩ ?_, Nat.le_succ _⟩
              · intro block hblock
                rw [List.mem_singleton.mp hblock]
                exact envelope_mem_owned henvelope
              · exact List.perm_append_singleton _ _
          · cases h
  | copy x y =>
      rw [call] at h
      split at h
      · next source hnone hsome =>
          obtain ⟨body, hbody⟩ := Option.isSome_iff_exists.mp (hcareful source hsome)
          simp only [hbody, MessageVar.bytes, Option.isSome_some, if_true, Option.map_some,
            Option.getD_some, List.nil_append] at h
          cases h
          refine ⟨handles_construct hnone _ ?_ rfl ⟨_, rfl⟩ (List.Perm.refl _), Nat.le_succ _⟩
          intro block hblock
          rcases List.mem_cons.mp hblock with rfl | hpointee
          · exact body_mem_owned hsome hbody
          · exact hfacts.pointers_owned _ (pointees_mem_pointers hsome hpointee)
      · cases h
  | assign x y => cases hcareful
  | setPayload x =>
      rw [call] at h
      split at h
      · cases h
      · next old hold =>
          cases h
          refine ⟨.takes [] _ (by simp) (by simp) (by simp) (fun _ => rfl) ?_, Nat.le_succ _⟩
          exact owned_replace hold { old with body := some (memory.made, .body) }
  | setReplyTo x text | setCorrelationId x text => exact handles_pointTo h
  | readBody x =>
      rw [call] at h
      split at h
      · cases h
      · next old hold =>
          cases h
          refine ⟨hsame _ fun block hblock => ?_, le_refl _⟩
          exact body_mem_owned hold (Option.mem_toList.mp hblock)
  | readReplyTo x =>
      rw [call] at h
      split at h
      · cases h
      · next old hold =>
          cases h
          refine ⟨hsame _ fun block hblock => ?_, le_refl _⟩
          refine hfacts.pointers_owned _ (pointees_mem_pointers hold ?_)
          exact mem_pointees.mpr ⟨.replyTo, Option.mem_toList.mp hblock⟩
  | destroy x =>
      rw [call] at h
      split at h
      · cases h
      · next old hold =>
          cases h
          refine ⟨.frees _ ?_, le_refl _⟩
          have hentries := (perm_of_lookup hold).filterMap (·.2.body)
          unfold owned
          rw [← List.append_assoc, ← List.append_assoc, ← List.append_assoc, ← List.append_assoc]
          refine ((hentries.trans ?_).append_right _).append_right _ |>.append_right _
            |>.append_right _
          cases hbody : old.body <;> simp [hbody]
  | newText =>
      cases h
      refine ⟨.takes [] _ (by simp) (by simp) (by simp) (fun _ => rfl) ?_, Nat.le_succ _⟩
      exact (perm_incoming _ _ _ _ _ [(memory.made, .text)]).1
  | dropText text =>
      rw [call] at h
      split at h
      · next htext =>
          cases h
          refine ⟨.frees [(text, .text)] ?_, le_refl _⟩
          have htexts := (List.perm_cons_erase htext).map fun text => ((text, .text) : Block)
          refine List.Perm.trans ?_ (perm_incoming _ _ _ _ _ [(text, .text)]).1
          exact (((htexts.append_left _).append_right _).append_right _).append_right _
      · cases h
  | send x =>
      rw [call] at h
      split at h
      · cases h
      · next message hsome =>
          obtain ⟨body, hbody⟩ := Option.isSome_iff_exists.mp (hcareful message hsome)
          simp only [MessageVar.bytes, hbody, Option.getD_some] at h
          cases h
          refine ⟨.takes [body] _ ?_ ?_ ?_ (fun _ => rfl) ?_, Nat.le_succ _⟩
          · intro block hblock
            rw [List.mem_singleton.mp hblock]
            exact body_mem_owned hsome hbody
          · rw [List.nodup_reverse]
            simp [queuedBlocks]
          · intro block hblock
            simp only [List.mem_reverse, queuedBlocks, List.mem_cons, List.not_mem_nil,
              or_false] at hblock
            rcases hblock with rfl | rfl | rfl <;> rfl
          · unfold owned
            rw [List.flatMap_append, List.flatMap_singleton]
            refine List.Perm.trans ?_ ((List.reverse_perm _).symm.append_right _)
            refine List.Perm.trans ?_ (perm_incoming _ _ _ _ _ (queuedBlocks memory.made)).2.2
            exact (List.perm_append_comm.append_left _).append_right _
  | publish =>
      rw [call] at h
      split at h
      · cases h
      · next front rest hqueue =>
          cases h
          refine ⟨hsame _ fun block hblock => ?_, le_refl _⟩
          have hfront : front ∈ memory.queue := by simp [hqueue]
          rcases List.mem_append.mp hblock with hbuffer | hmore
          · unfold owned
            simp only [List.mem_append, List.mem_flatMap]
            exact .inl (.inr ⟨front, hfront, hbuffer⟩)
          · rcases List.mem_append.mp hmore with hpointee | hheaders
            · refine hfacts.pointers_owned _ ?_
              exact List.mem_append_right _ (List.mem_flatMap.mpr ⟨front, hfront, hpointee⟩)
            · -- the envelope that the headers lie in was not destroyed
              have hlive : block ∈ memory.envelopes.map _ := hcareful block (by
                rw [hqueue]
                exact Option.mem_toList.mp hheaders)
              obtain ⟨envelope, henvelope, rfl⟩ := List.mem_map.mp hlive
              exact envelope_mem_owned henvelope
  | freeFront =>
      rw [call] at h
      split at h
      · cases h
      · next front rest hqueue =>
          cases h
          refine ⟨.frees _ ?_, le_refl _⟩
          unfold owned
          rw [hqueue, List.flatMap_cons]
          exact (perm_incoming _ _ _ _ _ (queuedBlocks front.number)).2.2

/-- The pointers of the other messages stay, and what they point to with them. -/
theorem lasting_put {x : Nat} {value : MessageVar} {lost : List Block}
    (hpoints : ∀ block ∈ pointers memory, Lasting memory block)
    (hvalue : ∀ block ∈ pointees value.properties, Lasting (put memory x value lost) block) :
    ∀ block ∈ pointers (put memory x value lost), Lasting (put memory x value lost) block := by
  have hkept : ∀ block, Lasting memory block → Lasting (put memory x value lost) block := by
    rintro block (hlost | htext)
    · exact .inl (List.mem_append_right _ hlost)
    · exact .inr htext
  intro block hblock
  rcases List.mem_append.mp hblock with hmessage | hqueued
  · rw [entries_put, List.flatMap_cons] at hmessage
    rcases List.mem_append.mp hmessage with hnew | hold
    · exact hvalue block hnew
    · obtain ⟨entry, hentry, hmem⟩ := List.mem_flatMap.mp hold
      refine hkept block (hpoints block (List.mem_append_left _ (List.mem_flatMap.mpr ?_)))
      exact ⟨entry, (List.kerase_sublist x _).subset hentry, hmem⟩
  · exact hkept block (hpoints block (List.mem_append_right _ hqueued))

/-- The properties of a message that is not changed. -/
theorem lasting_of_lookup {x y : Nat} {value old : MessageVar} {lost : List Block}
    (hpoints : ∀ block ∈ pointers memory, Lasting memory block)
    (hold : memory.messages.lookup x = some old) {block : Block}
    (hblock : block ∈ pointees old.properties) : Lasting (put memory y value lost) block := by
  rcases hpoints block (pointees_mem_pointers hold hblock) with hlost | htext
  · exact .inl (List.mem_append_right _ hlost)
  · exact .inr htext

/-- A pointer among the properties. -/
theorem lasting_pointTo {x text : Nat} {name : BasicProperty}
    (hpoints : ∀ block ∈ pointers memory, Lasting memory block)
    (h : pointTo memory x name text = some (memory', events)) :
    ∀ block ∈ pointers memory', Lasting memory' block := by
  unfold pointTo at h
  split at h
  · cases h
  · next old hold =>
      split at h
      · next htext =>
          cases h
          refine lasting_put hpoints fun block hblock => ?_
          obtain ⟨other, hother⟩ := mem_pointees.mp hblock
          have hother : Function.update old.properties name (some (text, .text)) other =
            some block := hother
          by_cases hname : other = name
          · subst hname
            rw [Function.update_self] at hother
            exact .inr ⟨text, htext, (Option.some.inj hother).symm⟩
          · rw [Function.update_of_ne hname] at hother
            exact lasting_of_lookup hpoints hold (mem_pointees.mpr ⟨other, hother⟩)
      · cases h

/-- The properties point to copies that are never freed, or to strings that live. -/
theorem call_points {op : Op} {record : List (HeapEvent Block)}
    (hpoints : ∀ block ∈ pointers memory, Lasting memory block)
    (hcareful : Careful (memory, record) op) (h : call memory op = some (memory', events)) :
    ∀ block ∈ pointers memory', Lasting memory' block := by
  have hnone : ∀ {m : Memory} {block : Block}, block ∈ pointees (fun _ => none) →
      Lasting m block := by
    intro m block hblock
    obtain ⟨name, hname⟩ := mem_pointees.mp hblock
    cases hname
  cases op with
  | blank x | ofString x =>
      rw [call] at h
      split at h
      · cases h
      · cases h
        exact lasting_put hpoints fun block hblock => hnone hblock
  | receive =>
      cases h
      exact hpoints
  | release envelope =>
      rw [call] at h
      split at h
      · cases h
        exact hpoints
      · cases h
  | ofEnvelope x envelope marked headers =>
      rw [call] at h
      split at h
      · cases h
      · split at h
        · cases h
          refine lasting_put hpoints fun block hblock => ?_
          exact .inl (List.mem_append_left _ (pointees_dupProperties _ _ block hblock))
        · cases h
  | copy x y =>
      rw [call] at h
      split at h
      · cases h
        refine lasting_put hpoints fun block hblock => ?_
        refine .inl (List.mem_append_left _ (List.mem_append_right _ ?_))
        exact pointees_dupProperties _ _ block hblock
      · cases h
  | assign x y => cases hcareful
  | setPayload x =>
      rw [call] at h
      split at h
      · cases h
      · next old hold =>
          cases h
          exact lasting_put hpoints fun block hblock => lasting_of_lookup hpoints hold hblock
  | setReplyTo x text | setCorrelationId x text => exact lasting_pointTo hpoints h
  | readBody x | readReplyTo x =>
      rw [call] at h
      split at h
      · cases h
      · cases h
        exact hpoints
  | destroy x =>
      rw [call] at h
      split at h
      · cases h
      · cases h
        intro block hblock
        refine hpoints block ?_
        rcases List.mem_append.mp hblock with hmessage | hqueued
        · obtain ⟨entry, hentry, hmem⟩ := List.mem_flatMap.mp hmessage
          refine List.mem_append_left _ (List.mem_flatMap.mpr ⟨entry, ?_, hmem⟩)
          exact (List.kerase_sublist x _).subset hentry
        · exact List.mem_append_right _ hqueued
  | newText =>
      cases h
      intro block hblock
      rcases hpoints block hblock with hlost | ⟨text, htext, heq⟩
      · exact .inl hlost
      · exact .inr ⟨text, .tail _ htext, heq⟩
  | dropText text =>
      rw [call] at h
      split at h
      · cases h
        intro block hblock
        rcases hpoints block hblock with hlost | ⟨other, hother, rfl⟩
        · exact .inl hlost
        · -- the string that dies is not pointed to
          have hne : other ≠ text := by
            rintro rfl
            exact hcareful hblock
          exact .inr ⟨other, (List.mem_erase_of_ne hne).mpr hother, rfl⟩
      · cases h
  | send x =>
      rw [call] at h
      split at h
      · cases h
      · next message hsome =>
          cases h
          intro block hblock
          refine hpoints block ?_
          rcases List.mem_append.mp hblock with hmessage | hqueued
          · exact List.mem_append_left _ hmessage
          · rw [List.flatMap_append, List.flatMap_singleton] at hqueued
            rcases List.mem_append.mp hqueued with hold | hnew
            · exact List.mem_append_right _ hold
            · exact pointees_mem_pointers hsome hnew
  | publish =>
      rw [call] at h
      split at h
      · cases h
      · cases h
        exact hpoints
  | freeFront =>
      rw [call] at h
      split at h
      · cases h
      · next front rest hqueue =>
          cases h
          intro block hblock
          refine hpoints block ?_
          rcases List.mem_append.mp hblock with hmessage | hqueued
          · exact List.mem_append_left _ hmessage
          · refine List.mem_append_right _ ?_
            rw [hqueue, List.flatMap_cons]
            exact List.mem_append_right _ hqueued

end Calls

/-! ### Careful programs -/

theorem memoryFacts_reachable {t : Memory × List (HeapEvent Block)}
    (ht : system.ReachableUnder Careful t) : MemoryFacts t.1 t.2 := by
  refine ht.induction (fun t => MemoryFacts t.1 t.2) ?_ ?_
  · exact ⟨rfl, by decide, by simp [system, initial, owned], by simp [system, initial, pointers]⟩
  · intro t op t' _ hcareful hfacts hstep
    obtain ⟨⟨memory', events⟩, hcall, rfl⟩ := Option.map_eq_some_iff.mp hstep
    obtain ⟨hhandles, hmade⟩ := call_handles hfacts hcareful hcall
    obtain ⟨hlive, hnodup, hold⟩ := hhandles.facts hfacts hmade
    exact ⟨hlive, hnodup, hold, call_points hfacts.points hcareful hcall⟩

/-- In every program without `operator=` in which no string dies while a message, in
the program or in the queue, points into it, no message is copied or sent before its
body is set, and none is published with the headers of an envelope that was destroyed:
nothing is freed twice or used after its free, every block has one owner, and what is
live are the bodies of the messages, the strings, the envelopes that were not destroyed,
the buffers of the queue, and what was lost: bodies that `SetPayload` replaced, and the
copies of properties. -/
theorem memory_sound {t : Memory × List (HeapEvent Block)}
    (ht : system.ReachableUnder Careful t) :
    heapAfter t.2 = some (owned t.1).toFinset ∧ (owned t.1).Nodup :=
  ⟨(memoryFacts_reachable ht).live, (memoryFacts_reachable ht).nodup⟩

/-- A message with a reply-to is copied, sent and published, both are destroyed, and
then the string dies: the copy of the reply-to and a replaced body are lost.  In between
a message with headers is received and sent on before its envelope is destroyed. -/
theorem memory_sound_run :
    ∃ t : Memory × List (HeapEvent Block), (system.ReachableUnder Careful t ∧
        t.1.messages.entries.length = 0 ∧ t.1.texts = [] ∧
        t.1.lost = [(7, .property .contentType), (1, .body), (3, .property .replyTo)]) ∧
      heapAfter t.2 = some (owned t.1).toFinset ∧ (owned t.1).Nodup := by
  obtain ⟨t, ht, htest⟩ := exists_reachableUnder_of_run (M := system) Careful
    [.newText, .ofString 0, .setReplyTo 0 0, .copy 1 0, .send 0, .setPayload 0, .publish,
      .freeFront, .receive, .ofEnvelope 2 6 (· == .contentType) true, .send 2, .publish, .release 6,
      .freeFront, .destroy 2, .readReplyTo 1, .readBody 1, .destroy 0, .destroy 1, .dropText 0]
    (fun t => decide (t.1.messages.entries.length = 0 ∧ t.1.texts = [] ∧
      t.1.lost = [(7, .property .contentType), (1, .body), (3, .property .replyTo)]))
    (by decide +kernel)
  exact ⟨t, ⟨ht, of_decide_eq_true htest⟩, memory_sound ht⟩

end MessageMemory
end HareCpp
