import Mathlib

/-!
# Consumers of a stream of messages

A consumer takes messages from a stream and passes the items of each message on, one after the
other.  If passing on an item fails, the loop over the items is left, the call of the consumer
returns, and it is called again on what is left of the stream.  A message that was started is not
delivered again.

`forEach` is the loop over the items of one message and `forEach_fst_eq_iff` says when it gets to
all of them; `serve` is the consumer with its restarts, and `serve_eq` says that it treats the
messages one by one.
-/

namespace BifrostRelayer

/-- How a piece of work ends: it returns, with or without an error, or the process dies. -/
inductive Ending (ε : Type*) where
  | done
  | failed (e : ε)
  | died
deriving DecidableEq

namespace Consumers

variable {α β μ ε : Type*}

/-! ### The items of a message -/

/-- Pass on the items of a list until one of them does not end well: the items that were passed on,
and how the loop ends. -/
def forEach (f : α → Ending ε) : List α → List α × Ending ε
  | [] => ([], .done)
  | a :: l =>
    match f a with
    | .done => (a :: (forEach f l).1, (forEach f l).2)
    | ending => ([a], ending)

/-- An item that ends well is followed by the rest. -/
lemma forEach_cons_of_done {f : α → Ending ε} {a : α} {l : List α} (h : f a = .done) :
    forEach f (a :: l) = (a :: (forEach f l).1, (forEach f l).2) := by
  simp [forEach, h]

/-- An item that does not end well is the last one. -/
lemma forEach_cons_of_ne_done {f : α → Ending ε} {a : α} {l : List α} (h : f a ≠ .done) :
    forEach f (a :: l) = ([a], f a) := by
  cases ha : f a with
  | done => exact absurd ha h
  | failed e => simp [forEach, ha]
  | died => simp [forEach, ha]

/-- The loop gets to all items exactly if all but the last one end well. -/
theorem forEach_fst_eq_iff (f : α → Ending ε) (l : List α) :
    (forEach f l).1 = l ↔ ∀ a ∈ l.dropLast, f a = .done := by
  induction l with
  | nil => simp [forEach]
  | cons a l ih =>
    by_cases ha : f a = .done
    · rw [forEach_cons_of_done ha]
      cases l with
      | nil => simp [forEach]
      | cons b l =>
        rw [List.dropLast_cons_cons, List.forall_mem_cons, ← ih]
        simp [ha]
    · rw [forEach_cons_of_ne_done ha]
      cases l with
      | nil => simp
      | cons b l =>
        rw [List.dropLast_cons_cons, List.forall_mem_cons]
        simp [ha]

/-- The loop dies only at an item that does. -/
lemma forEach_ne_died {f : α → Ending ε} {l : List α} (h : ∀ a ∈ l, f a ≠ .died) :
    (forEach f l).2 ≠ .died := by
  induction l with
  | nil => simp [forEach]
  | cons a l ih =>
    by_cases ha : f a = .done
    · rw [forEach_cons_of_done ha]
      exact ih fun b hb => h b (List.mem_cons_of_mem _ hb)
    · rw [forEach_cons_of_ne_done ha]
      exact h a List.mem_cons_self

/-! ### The messages of a stream -/

/-- One call of the consumer on a stream: the messages it has taken with what became of them, how
the call ends, and what is left of the stream.  An item of the stream that is not a message ends the
call without an error. -/
def run (handle : μ → β × Ending ε) :
    List (Option μ) → List (μ × β) × Ending ε × List (Option μ)
  | [] => ([], .done, [])
  | none :: rest => ([], .done, rest)
  | some m :: rest =>
    match (handle m).2 with
    | .done =>
      let later := run handle rest
      ((m, (handle m).1) :: later.1, later.2)
    | ending => ([(m, (handle m).1)], ending, rest)

/-- The consumer is called again whenever a call returns, at most `fuel` times. -/
def serve (handle : μ → β × Ending ε) : ℕ → List (Option μ) → List (μ × β)
  | 0, _ => []
  | _ + 1, [] => []
  | fuel + 1, item :: rest =>
    match run handle (item :: rest) with
    | (taken, .died, _) => taken
    | (taken, _, left) => taken ++ serve handle fuel left

/-- The messages that are delivered: all of the stream, up to one at which the process dies. -/
def delivered (handle : μ → β × Ending ε) : List (Option μ) → List μ
  | [] => []
  | none :: rest => delivered handle rest
  | some m :: rest =>
    match (handle m).2 with
    | .died => [m]
    | _ => m :: delivered handle rest

variable {handle : μ → β × Ending ε}

/-- A call takes at least one item from a stream that is not empty. -/
lemma length_run_lt (item : Option μ) (rest : List (Option μ)) :
    (run handle (item :: rest)).2.2.length ≤ rest.length := by
  induction rest generalizing item with
  | nil =>
    cases item with
    | none => simp [run]
    | some m => cases hm : (handle m).2 <;> simp [run, hm]
  | cons next rest ih =>
    cases item with
    | none => simp [run]
    | some m =>
      cases hm : (handle m).2 with
      | done => simpa [run, hm] using (ih next).trans (Nat.le_succ _)
      | failed e => simp [run, hm]
      | died => simp [run, hm]

/-- A call and what follows it deliver what the stream delivers. -/
lemma run_delivered (stream : List (Option μ)) :
    (delivered handle stream).map (fun m => (m, (handle m).1)) =
      (run handle stream).1 ++
        match (run handle stream).2.1 with
        | .died => []
        | _ => (delivered handle (run handle stream).2.2).map (fun m => (m, (handle m).1)) := by
  induction stream with
  | nil => simp [run, delivered]
  | cons item rest ih =>
    cases item with
    | none => simp [run, delivered]
    | some m => cases hm : (handle m).2 <;> simp [run, delivered, hm, ih]

/-- If no message kills the process, all messages of the stream are delivered. -/
lemma delivered_of_ne_died {stream : List (Option μ)}
    (h : ∀ m, some m ∈ stream → (handle m).2 ≠ .died) :
    delivered handle stream = stream.reduceOption := by
  induction stream with
  | nil => rfl
  | cons item rest ih =>
    have hrest := ih fun m hm => h m (List.mem_cons_of_mem _ hm)
    cases item with
    | none => simpa [delivered] using hrest
    | some m =>
      have hm := h m List.mem_cons_self
      cases hend : (handle m).2 with
      | died => exact absurd hend hm
      | _ => simp [delivered, hend, hrest]

/-- With enough calls every message that is delivered is handled, once and on its own. -/
theorem serve_eq {fuel : ℕ} {stream : List (Option μ)} (h : stream.length ≤ fuel) :
    serve handle fuel stream =
      (delivered handle stream).map fun m => (m, (handle m).1) := by
  induction fuel generalizing stream with
  | zero =>
    obtain rfl : stream = [] := List.length_eq_zero_iff.1 (Nat.le_zero.1 h)
    rfl
  | succ fuel ih =>
    cases stream with
    | nil => rfl
    | cons item rest =>
      have hleft : (run handle (item :: rest)).2.2.length ≤ fuel :=
        (length_run_lt item rest).trans (Nat.le_of_succ_le_succ h)
      rw [run_delivered, serve]
      rcases hrun : run handle (item :: rest) with ⟨taken, ending, left⟩
      rw [hrun] at hleft
      cases ending with
      | died => simp
      | done => simp [ih hleft]
      | failed e => simp [ih hleft]

end Consumers

end BifrostRelayer
