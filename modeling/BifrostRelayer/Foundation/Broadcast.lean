import BifrostRelayer.Foundation.Runs

/-!
# Broadcast channels

A broadcast channel keeps the last `capacity` values that were sent.  Every receiver has a position
of its own and gets the values in order; a receiver whose next value is no longer kept is told how
many values it has missed and goes on with the oldest one that is kept.

`Broadcast.Holds` relates the channel to the list of all values that were ever sent, and `Reads`
says which part of that list a receiver has gone through and what it has seen of it.  A `Pipeline`
is a producer, given as a labelled system whose labels tell what is to be sent, with a channel and its
receivers, interleaved in any way.  A value that is sent while there is no receiver makes the
producer die.

`Pipeline.history_of_run` is the conservation law: what was emitted is what each receiver has gone
through, followed by what is still kept for it, followed by what is not sent yet.
-/

namespace BifrostRelayer

/-- A broadcast channel: how many values it has released, and the values it keeps. -/
structure Broadcast (μ : Type*) (capacity : ℕ) where
  released : ℕ
  kept : List μ
  bounded : kept.length ≤ capacity

/-- What a receiver gets: a value, or the number of values that it has missed. -/
inductive Received (μ : Type*) where
  | value (v : μ)
  | lagged (n : ℕ)
deriving DecidableEq

namespace Broadcast

variable {μ : Type*} {capacity : ℕ}

/-- A new channel. -/
def empty : Broadcast μ capacity := ⟨0, [], Nat.zero_le _⟩

/-- The number of values that were sent. -/
def sent (b : Broadcast μ capacity) : ℕ := b.released + b.kept.length

/-- A full channel releases its oldest value. -/
def send (b : Broadcast μ capacity) (v : μ) : Broadcast μ capacity :=
  if h : b.kept.length < capacity then ⟨b.released, b.kept ++ [v], by simpa using h⟩
  else ⟨b.released + 1, (b.kept ++ [v]).tail, by simpa using b.bounded⟩

/-- What a receiver at a position gets, and its new position; `none` if it has to wait. -/
def recv (b : Broadcast μ capacity) (position : ℕ) : Option (Received μ × ℕ) :=
  if position < b.released then some (.lagged (b.released - position), b.released)
  else (b.kept[position - b.released]?).map fun v => (.value v, position + 1)

/-- The channel after the values of a list were sent. -/
structure Holds (b : Broadcast μ capacity) (history : List μ) : Prop where
  kept : b.kept = history.drop b.released
  released : b.released = history.length - capacity

variable {b : Broadcast μ capacity} {history : List μ} {position position' : ℕ}

lemma Holds.empty : Holds (Broadcast.empty : Broadcast μ capacity) [] :=
  ⟨rfl, by simp [Broadcast.empty]⟩

/-- The channel counts what was sent. -/
lemma Holds.sent_eq (h : b.Holds history) : b.sent = history.length := by
  have hkept := h.kept
  have hreleased := h.released
  rw [sent, hkept, List.length_drop]
  omega

/-- A value that is sent is the last one. -/
lemma Holds.send (h : b.Holds history) (v : μ) : (b.send v).Holds (history ++ [v]) := by
  have hreleased := h.released
  have hlength : b.kept.length = history.length - b.released := by
    rw [h.kept, List.length_drop]
  unfold Broadcast.send
  split
  next hroom =>
    constructor
    · simp only
      rw [h.kept, List.drop_append_of_le_length (by omega)]
    · simp only [List.length_append, List.length_singleton]
      omega
  next hfull =>
    have hbounded := b.bounded
    constructor
    · simp only
      rw [h.kept, ← List.drop_append_of_le_length (by omega), List.tail_drop]
    · simp only [List.length_append, List.length_singleton]
      omega

/-- A value that is received is the one at the position. -/
lemma Holds.recv_value (h : b.Holds history) {v : μ}
    (hrecv : b.recv position = some (.value v, position')) :
    history[position]? = some v ∧ position' = position + 1 := by
  unfold recv at hrecv
  split at hrecv
  · simp at hrecv
  next hle =>
    rw [Option.map_eq_some_iff] at hrecv
    obtain ⟨w, hw, heq⟩ := hrecv
    obtain ⟨hv, rfl⟩ := Prod.mk.inj heq
    obtain rfl := Received.value.inj hv
    rw [h.kept, List.getElem?_drop] at hw
    exact ⟨by rwa [Nat.add_sub_cancel' (by omega)] at hw, rfl⟩

/-- A receiver misses values only if it is further behind than the channel keeps them. -/
lemma Holds.recv_lagged (h : b.Holds history) {n : ℕ}
    (hrecv : b.recv position = some (.lagged n, position')) :
    0 < n ∧ position' = position + n ∧ position' + capacity = history.length := by
  have hreleased := h.released
  unfold recv at hrecv
  split at hrecv
  next hlt =>
    obtain ⟨hn, rfl⟩ := Prod.mk.inj (Option.some.inj hrecv)
    obtain rfl := Received.lagged.inj hn
    omega
  · simp [Option.map_eq_some_iff] at hrecv

end Broadcast

/-! ### What a receiver has seen -/

section Reads

variable {μ : Type*}

/-- A receiver that got `items` has gone through the values `l`. -/
inductive Reads : List (Received μ) → List μ → Prop where
  | nil : Reads [] []
  | value {items : List (Received μ)} {l : List μ} (v : μ) :
      Reads items l → Reads (items ++ [.value v]) (l ++ [v])
  | lagged {items : List (Received μ)} {l part : List μ} :
      Reads items l → Reads (items ++ [.lagged part.length]) (l ++ part)

/-- The value of an item. -/
def Received.toValue : Received μ → Option μ
  | .value v => some v
  | .lagged _ => none

/-- The number of values that an item says were missed. -/
def Received.missed : Received μ → ℕ
  | .value _ => 0
  | .lagged n => n

/-- The values among what a receiver got. -/
def valuesOf (items : List (Received μ)) : List μ := items.filterMap Received.toValue

/-- The number of values that a receiver has missed. -/
def missedOf (items : List (Received μ)) : ℕ := (items.map Received.missed).sum

@[simp] lemma valuesOf_concat_value (items : List (Received μ)) (v : μ) :
    valuesOf (items ++ [.value v]) = valuesOf items ++ [v] := by
  simp [valuesOf, Received.toValue]

@[simp] lemma valuesOf_concat_lagged (items : List (Received μ)) (n : ℕ) :
    valuesOf (items ++ [.lagged n]) = valuesOf items := by
  simp [valuesOf, Received.toValue]

@[simp] lemma missedOf_concat (items : List (Received μ)) (item : Received μ) :
    missedOf (items ++ [item]) = missedOf items + item.missed := by
  simp [missedOf]

/-- Every value was received or counted as missed. -/
lemma Reads.length_eq {items : List (Received μ)} {l : List μ} (h : Reads items l) :
    (valuesOf items).length + missedOf items = l.length := by
  induction h with
  | nil => rfl
  | value v _ ih =>
    simp only [valuesOf_concat_value, missedOf_concat, Received.missed, List.length_append,
      List.length_singleton]
    omega
  | lagged _ ih =>
    simp only [valuesOf_concat_lagged, missedOf_concat, Received.missed, List.length_append]
    omega

/-- A receiver that never missed a value got all of them. -/
lemma Reads.eq_of_not_lagged {items : List (Received μ)} {l : List μ} (h : Reads items l)
    (hall : ∀ n, .lagged n ∉ items) : items = l.map .value := by
  induction h with
  | nil => rfl
  | value v _ ih => simp [ih fun n hn => hall n (List.mem_append_left _ hn)]
  | @lagged items l part _ ih => exact absurd (by simp) (hall part.length)

lemma valuesOf_map_value (l : List μ) : valuesOf (l.map .value) = l := by
  induction l with
  | nil => rfl
  | cons v l ih => simpa [valuesOf, Received.toValue] using ih

/-- An item takes a receiver from its position to the next one. -/
lemma Broadcast.Holds.reads {capacity : ℕ} {b : Broadcast μ capacity} {history : List μ}
    {position position' : ℕ} {item : Received μ} {items : List (Received μ)}
    (h : b.Holds history) (hrecv : b.recv position = some (item, position'))
    (hreads : Reads items (history.take position)) :
    position' ≤ history.length ∧ Reads (items ++ [item]) (history.take position') := by
  cases item with
  | value v =>
    obtain ⟨hv, rfl⟩ := h.recv_value hrecv
    obtain ⟨hlt, hget⟩ := List.getElem?_eq_some_iff.mp hv
    rw [← List.take_concat_get' _ _ hlt, hget]
    exact ⟨hlt, hreads.value v⟩
  | lagged n =>
    obtain ⟨-, rfl, hlength⟩ := h.recv_lagged hrecv
    have hpart : ((history.drop position).take n).length = n := by
      rw [List.length_take, List.length_drop]
      omega
    have htake : history.take (position + n) =
        history.take position ++ (history.drop position).take n := List.take_add
    have hmore := @Reads.lagged μ items _ ((history.drop position).take n) hreads
    rw [hpart] at hmore
    exact ⟨by omega, htake ▸ hmore⟩

end Reads

/-! ### Pipelines -/

/-- A producer with its channel: the state of the producer, if it has not died, the values that it has
still to send, the channel, and the positions of the receivers. -/
structure Pipeline (σ μ : Type*) (capacity receivers : ℕ) where
  producer : Option σ
  outbox : List μ
  channel : Broadcast μ capacity
  position : Fin receivers → ℕ

/-- A step of the producer, of sending one value, or of a receiver. -/
inductive PipelineStep (ℓ μ : Type*) (receivers : ℕ) where
  | produce (a : ℓ)
  | send
  | receive (i : Fin receivers) (item : Received μ)

namespace Pipeline

variable {σ ℓ μ : Type*} {capacity receivers : ℕ}

/-- The steps of a pipeline.  The producer goes on when it has sent everything. -/
inductive Step (S : LabelledSystem σ ℓ) (emit : ℓ → List μ) :
    Pipeline σ μ capacity receivers → PipelineStep ℓ μ receivers →
      Pipeline σ μ capacity receivers → Prop where
  | produce {s : Pipeline σ μ capacity receivers} {p p' : σ} {a : ℓ}
      (hproducer : s.producer = some p) (houtbox : s.outbox = []) (hstep : S.step p a p') :
      Step S emit s (.produce a) { s with producer := some p', outbox := emit a }
  | send {s : Pipeline σ μ capacity receivers} {p : σ} {v : μ} {rest : List μ}
      (hproducer : s.producer = some p) (houtbox : s.outbox = v :: rest)
      (hreceivers : 0 < receivers) :
      Step S emit s .send { s with outbox := rest, channel := s.channel.send v }
  | die {s : Pipeline σ μ capacity receivers} {p : σ} {v : μ} {rest : List μ}
      (hproducer : s.producer = some p) (houtbox : s.outbox = v :: rest)
      (hreceivers : receivers = 0) :
      Step S emit s .send { s with producer := none }
  | receive {s : Pipeline σ μ capacity receivers} {i : Fin receivers} {item : Received μ}
      {position : ℕ} (hrecv : s.channel.recv (s.position i) = some (item, position)) :
      Step S emit s (.receive i item)
        { s with position := Function.update s.position i position }

/-- The runs of a pipeline. -/
def system (S : LabelledSystem σ ℓ) (emit : ℓ → List μ) (capacity receivers : ℕ) :
    LabelledSystem (Pipeline σ μ capacity receivers) (PipelineStep ℓ μ receivers) where
  init s := ∃ p, S.init p ∧ s = ⟨some p, [], .empty, fun _ => 0⟩
  step := Step S emit

/-- The steps of the producer in a trace. -/
def produced (tr : List (PipelineStep ℓ μ receivers)) : List ℓ :=
  tr.filterMap fun
    | .produce a => some a
    | _ => none

/-- What a receiver got in a trace. -/
def receivedBy (i : Fin receivers) (tr : List (PipelineStep ℓ μ receivers)) :
    List (Received μ) :=
  tr.filterMap fun
    | .receive j item => if j = i then some item else none
    | _ => none

/-- What the producer has emitted is what was sent and what is still to be sent; each receiver has
gone through what was sent up to its position. -/
structure History (S : LabelledSystem σ ℓ) (emit : ℓ → List μ)
    (tr : List (PipelineStep ℓ μ receivers)) (s : Pipeline σ μ capacity receivers)
    (history : List μ) : Prop where
  run : ∃ p, S.Run (produced tr) p ∧ (s.producer = some p ∨
    s.producer = none ∧ receivers = 0 ∧ s.outbox ≠ [])
  emitted : (produced tr).flatMap emit = history ++ s.outbox
  holds : s.channel.Holds history
  position_le : ∀ i, s.position i ≤ history.length
  reads : ∀ i, Reads (receivedBy i tr) (history.take (s.position i))

variable {S : LabelledSystem σ ℓ} {emit : ℓ → List μ} {tr : List (PipelineStep ℓ μ receivers)}
  {s : Pipeline σ μ capacity receivers}

/-- Every run of a pipeline has a history. -/
theorem history_of_run (h : (system S emit capacity receivers).Run tr s) :
    ∃ history, History S emit tr s history := by
  refine h.induction (P := fun tr s => ∃ history, History S emit tr s history) ?_ ?_
  · rintro s ⟨p, hp, rfl⟩
    exact ⟨[], ⟨p, .start hp, .inl rfl⟩, rfl, .empty, fun _ => le_rfl, fun _ => .nil⟩
  · rintro tr s a s' - ⟨history, hrun, hemitted, hholds, hle, hreads⟩ hstep
    cases hstep with
    | @produce p p' a hproducer houtbox hstep =>
      obtain ⟨q, hq, hsome | ⟨hnone, -⟩⟩ := hrun
      · obtain rfl : q = p := by simpa [hproducer] using hsome.symm
        refine ⟨history, ⟨p', ?_, .inl rfl⟩, ?_, hholds, hle, ?_⟩
        · simpa [produced] using hq.snoc hstep
        · simpa [produced, houtbox] using hemitted
        · simpa [receivedBy] using hreads
      · simp [hproducer] at hnone
    | @send p v rest hproducer houtbox hreceivers =>
      refine ⟨history ++ [v], ?_, ?_, hholds.send v, fun i => ?_, fun i => ?_⟩
      · obtain ⟨q, hq, hsome | ⟨hnone, -⟩⟩ := hrun
        · exact ⟨q, by simpa [produced] using hq, .inl hsome⟩
        · simp [hproducer] at hnone
      · simpa [produced, houtbox] using hemitted
      · exact (hle i).trans (by simp)
      · rw [List.take_append_of_le_length (hle i)]
        simpa [receivedBy] using hreads i
    | @die p v rest hproducer houtbox hreceivers =>
      refine ⟨history, ?_, ?_, hholds, hle, ?_⟩
      · obtain ⟨q, hq, -⟩ := hrun
        exact ⟨q, by simpa [produced] using hq, .inr ⟨rfl, hreceivers, by simp [houtbox]⟩⟩
      · simpa [produced] using hemitted
      · simpa [receivedBy] using hreads
    | @receive i item position hrecv =>
      refine ⟨history, by simpa [produced] using hrun, by simpa [produced] using hemitted, hholds,
        ?_, ?_⟩
      · intro j
        by_cases hj : j = i
        · subst hj
          simpa using (hholds.reads hrecv (hreads j)).1
        · simpa [hj] using hle j
      · intro j
        by_cases hj : j = i
        · subst hj
          simpa [receivedBy] using (hholds.reads hrecv (hreads j)).2
        · simpa [receivedBy, hj, Ne.symm hj] using hreads j

/-- With a receiver the producer does not die. -/
lemma History.exists_producer {history : List μ} (h : History S emit tr s history)
    (hreceivers : 0 < receivers) : ∃ p, s.producer = some p ∧ S.Run (produced tr) p := by
  obtain ⟨p, hrun, hsome | ⟨-, hnone, -⟩⟩ := h.run
  · exact ⟨p, hsome, hrun⟩
  · omega

/-! ### Receivers that keep up -/

/-- Before the step the receiver is behind by at most what the channel keeps. -/
def KeepsUp (i : Fin receivers) (s : Pipeline σ μ capacity receivers)
    (_ : PipelineStep ℓ μ receivers) : Prop :=
  s.channel.sent ≤ s.position i + capacity

instance (i : Fin receivers) (s : Pipeline σ μ capacity receivers)
    (a : PipelineStep ℓ μ receivers) : Decidable (KeepsUp i s a) :=
  inferInstanceAs (Decidable (s.channel.sent ≤ s.position i + capacity))

/-- A receiver that keeps up gets every value that was sent up to its position. -/
theorem received_of_keepsUp {i : Fin receivers}
    (h : ((system S emit capacity receivers).restrict (KeepsUp i)).Run tr s) :
    ∃ history, History S emit tr s history ∧
      receivedBy i tr = (history.take (s.position i)).map .value := by
  obtain ⟨history, hist⟩ := history_of_run h.of_restrict
  refine ⟨history, hist, (hist.reads i).eq_of_not_lagged fun n hn => ?_⟩
  obtain ⟨a, ha, hitem⟩ := List.mem_filterMap.mp hn
  obtain ⟨before, after, rfl⟩ := List.append_of_mem ha
  obtain ⟨s₁, s₂, hrun, hstep, hkeeps⟩ := h.split
  obtain ⟨history₁, hist₁⟩ := history_of_run hrun.of_restrict
  cases hstep with
  | produce => simp at hitem
  | send => simp at hitem
  | die => simp at hitem
  | @receive j item position hrecv =>
    obtain ⟨rfl, rfl⟩ : j = i ∧ item = .lagged n := by simpa using hitem
    obtain ⟨hpos, rfl, hlength⟩ := hist₁.holds.recv_lagged hrecv
    rw [KeepsUp, hist₁.holds.sent_eq] at hkeeps
    omega

/-! ### Without receivers -/

/-- Without receivers nothing is sent, and the producer makes no step after one that emits. -/
theorem last_of_emit (hreceivers : receivers = 0)
    (h : (system S emit capacity receivers).Run tr s) :
    s.channel.sent = 0 ∧ (produced tr).flatMap emit = s.outbox ∧
      ∀ before a after, produced tr = before ++ a :: after → emit a ≠ [] → after = [] := by
  refine h.induction (P := fun tr s => s.channel.sent = 0 ∧ (produced tr).flatMap emit = s.outbox ∧
    ∀ before a after, produced tr = before ++ a :: after → emit a ≠ [] → after = []) ?_ ?_
  · rintro s ⟨p, -, rfl⟩
    exact ⟨rfl, rfl, fun before a after hnil => by simp [produced] at hnil⟩
  · rintro tr s a s' - ⟨hsent, hemitted, hlast⟩ hstep
    cases hstep with
    | @produce p p' a hproducer houtbox hstep =>
      rw [houtbox] at hemitted
      have hproduced : produced (tr ++ [.produce a] : List (PipelineStep ℓ μ receivers)) =
          produced tr ++ [a] := by
        simp [produced]
      refine ⟨hsent, by rw [hproduced, List.flatMap_append, hemitted]; simp, ?_⟩
      intro before b after hsplit hb
      rw [hproduced] at hsplit
      rcases after.eq_nil_or_concat with rfl | ⟨after, c, rfl⟩
      · rfl
      · -- An earlier step that emits would have left something to send.
        have hbefore : produced tr = before ++ b :: after := by
          have hassoc : produced tr ++ [a] = (before ++ b :: after) ++ [c] := by simpa using hsplit
          exact (List.append_inj' hassoc rfl).1
        have hempty := List.flatMap_eq_nil_iff.mp hemitted b (by rw [hbefore]; simp)
        exact absurd hempty hb
    | send _ _ hpos => omega
    | @die p v rest hproducer houtbox =>
      have hproduced : produced (tr ++ [.send] : List (PipelineStep ℓ μ receivers)) =
          produced tr := by
        simp [produced]
      rw [hproduced]
      exact ⟨hsent, hemitted, hlast⟩
    | @receive i => exact absurd i.2 (by omega)

/-! ### Computing runs -/

/-- A step of a pipeline whose producer makes the steps of a partial function. -/
def next [DecidableEq μ] (f : σ → ℓ → Option σ) (emit : ℓ → List μ)
    (s : Pipeline σ μ capacity receivers) :
    PipelineStep ℓ μ receivers → Option (Pipeline σ μ capacity receivers)
  | .produce a =>
      match s.producer, s.outbox with
      | some p, [] => (f p a).map fun p' => { s with producer := some p', outbox := emit a }
      | _, _ => none
  | .send =>
      match s.producer, s.outbox with
      | some _, v :: rest =>
          if receivers = 0 then some { s with producer := none }
          else some { s with outbox := rest, channel := s.channel.send v }
      | _, _ => none
  | .receive i item =>
      match s.channel.recv (s.position i) with
      | some (item', position) =>
          if item = item' then some { s with position := Function.update s.position i position }
          else none
      | none => none

/-- A computed step is one of the pipeline. -/
lemma step_of_next [DecidableEq μ] {f : σ → ℓ → Option σ}
    (hf : ∀ p a p', f p a = some p' → S.step p a p')
    {s s' : Pipeline σ μ capacity receivers} {a : PipelineStep ℓ μ receivers}
    (h : next f emit s a = some s') : (system S emit capacity receivers).step s a s' := by
  cases a with
  | produce a =>
    simp only [next] at h
    split at h
    next p hproducer houtbox =>
      obtain ⟨p', hp', rfl⟩ := Option.map_eq_some_iff.mp h
      exact .produce hproducer houtbox (hf p a p' hp')
    next => cases h
  | send =>
    simp only [next] at h
    split at h
    next p v rest hproducer houtbox =>
      split at h
      next hzero =>
        obtain rfl := Option.some.inj h
        exact .die hproducer houtbox hzero
      next hpos =>
        obtain rfl := Option.some.inj h
        exact .send hproducer houtbox (Nat.pos_of_ne_zero hpos)
    next => cases h
  | receive i item =>
    simp only [next] at h
    split at h
    next item' position hrecv =>
      rw [Option.ite_none_right_eq_some] at h
      obtain ⟨rfl, h⟩ := h
      obtain rfl := Option.some.inj h
      exact .receive hrecv
    next => cases h

end Pipeline

end BifrostRelayer
