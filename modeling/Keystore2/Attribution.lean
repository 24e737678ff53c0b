import Keystore2.Binder

/-!
# Keystore2 — the transaction behind a change

A run of the service is a list of transactions, and most results about the
service are first proved for one transaction: what it writes, what the Access
Gate granted its caller, what it hands KeyMint. They say something about a run
once each change the run makes is traced back to the transaction that made it,
with that transaction's caller and its own events. This module names that
transaction. `TxOf` places a transaction in a run by the transactions before
and after it, with the world it starts in and the one it ends in. A part of
the Key Store that differs at the end of a run was last changed by one of the
run's transactions, to its final value. Every event of a run is an event of
one of its transactions.

## Results

* `TxOf` — a transaction of a run, with the worlds it starts and ends in.
* `serve_last_change` — a part of the Key Store that differs at the end of a
  run was last changed, to its final value, by one of the run's transactions.
* `serve_event_tx` — every event of a run is an event of one of its
  transactions.
-/

namespace Keystore2

open KeystoreSecurityLevel

variable (env : Env) (self : KeystoreSecurityLevel)

/-- The transaction `(c, rq)` of a run of `txs` from `w` to `w'`: the
transactions `pre` before it reach the world `v` it starts in; under the caller
`c` it runs from `v` to `v'`; and the transactions `post` after it reach `w'`
from `v'`. -/
def TxOf (txs : List (Caller × Request)) (w w' : World) (c : Caller) (rq : Request)
    (v v' : World) : Prop :=
  ∃ pre post, txs = pre ++ (c, rq) :: post ∧ (∃ rs, serve env self pre w = some (rs, v)) ∧
    (∃ r, (dispatch env self rq).run (v.withCaller c) = some (r, v')) ∧
    ∃ rs, serve env self post v' = some (rs, w')

variable {env} {self}

-- ---------------------------------------------------------------------------
-- A transaction of a run
-- ---------------------------------------------------------------------------

section TxOf

variable {txs : List (Caller × Request)} {w w' v v' : World} {c : Caller} {rq : Request}

theorem TxOf.mem (h : TxOf env self txs w w' c rq v v') : (c, rq) ∈ txs := by
  obtain ⟨pre, post, rfl, -⟩ := h
  exact List.mem_append_right _ (List.mem_cons_self _ _)

theorem TxOf.run (h : TxOf env self txs w w' c rq v v') :
    ∃ r, (dispatch env self rq).run (v.withCaller c) = some (r, v') :=
  let ⟨_, _, _, _, hr, _⟩ := h
  hr

theorem TxOf.extends_start (h : TxOf env self txs w w' c rq v v') : w.Extends v :=
  let ⟨_, _, _, ⟨_, hpre⟩, _⟩ := h
  serve_extends hpre

theorem TxOf.extends_end (h : TxOf env self txs w w' c rq v v') : v'.Extends w' :=
  let ⟨_, _, _, _, _, _, hpost⟩ := h
  serve_extends hpost

theorem TxOf.extends (h : TxOf env self txs w w' c rq v v') : v.Extends v' :=
  let ⟨_, hr⟩ := h.run
  .of_withCaller (Svc.follows _ hr)

/-- The events of a transaction are events of the run. -/
theorem TxOf.events_sub (h : TxOf env self txs w w' c rq v v') :
    ∀ ev ∈ v.eventsTo v', ev ∈ w.eventsTo w' := fun ev hev => by
  rw [h.extends_start.eventsTo_trans (h.extends.trans h.extends_end),
    h.extends.eventsTo_trans h.extends_end]
  exact List.mem_append_right _ (List.mem_append_left _ hev)

/-- The first transaction of a run. -/
theorem TxOf.head {rs : List (Except AnyhowError Response)} {r : Except AnyhowError Response}
    (h1 : (dispatch env self rq).run (w.withCaller c) = some (r, v'))
    (h2 : serve env self txs v' = some (rs, w')) : TxOf env self ((c, rq) :: txs) w w' c rq w v' :=
  ⟨[], txs, rfl, ⟨[], rfl⟩, ⟨r, h1⟩, ⟨rs, h2⟩⟩

/-- A transaction of the rest of a run, after a first transaction. -/
theorem TxOf.cons {w0 : World} {c0 : Caller} {rq0 : Request} {r0 : Except AnyhowError Response}
    (h0 : (dispatch env self rq0).run (w0.withCaller c0) = some (r0, w))
    (h : TxOf env self txs w w' c rq v v') : TxOf env self ((c0, rq0) :: txs) w0 w' c rq v v' := by
  obtain ⟨pre, post, rfl, ⟨rs, hpre⟩, hr, hpost⟩ := h
  refine ⟨(c0, rq0) :: pre, post, rfl, ⟨r0 :: rs, ?_⟩, hr, hpost⟩
  simp only [serve, h0, hpre, Option.map_some']

end TxOf

-- ---------------------------------------------------------------------------
-- The transaction behind a change, and behind an event
-- ---------------------------------------------------------------------------

/-- **The last change.** A part `f` of the Key Store that differs at the end of
a run from its start was changed by a transaction of the run, to the value it
has at the end: the last transaction that changed it. -/
theorem serve_last_change {β : Type} (f : KeyStore → β) :
    ∀ {txs : List (Caller × Request)} {w w' : World} {rs : List (Except AnyhowError Response)},
      serve env self txs w = some (rs, w') → f w'.store ≠ f w.store →
      ∃ c rq v v', TxOf env self txs w w' c rq v v' ∧ f v'.store ≠ f v.store ∧
        f v'.store = f w'.store
  | [], _, _, _, h, hne => by
    cases h
    exact absurd rfl hne
  | (c, rq) :: _, w, w', _, h, hne => by
    obtain ⟨_, w1, _, h1, h2, -⟩ := serve_cons h
    by_cases hrest : f w'.store = f w1.store
    · -- nothing after the first transaction changed it
      exact ⟨c, rq, w, w1, .head h1 h2, hrest ▸ hne, hrest.symm⟩
    · obtain ⟨c', rq', v, v', ht, hc, he⟩ := serve_last_change f h2 hrest
      exact ⟨c', rq', v, v', ht.cons h1, hc, he⟩

/-- **The transaction of an event.** Every event of a run is an event of one of
its transactions. -/
theorem serve_event_tx :
    ∀ {txs : List (Caller × Request)} {w w' : World} {rs : List (Except AnyhowError Response)},
      serve env self txs w = some (rs, w') → ∀ ev ∈ w.eventsTo w',
        ∃ c rq v v', TxOf env self txs w w' c rq v v' ∧ ev ∈ v.eventsTo v'
  | [], _, _, _, h, ev, hev => by
    cases h
    rw [World.eventsTo_self] at hev
    cases hev
  | (c, rq) :: _, w, _, _, h, ev, hev => by
    obtain ⟨_, w1, _, h1, h2, -⟩ := serve_cons h
    rw [World.Extends.eventsTo_trans (.of_withCaller (Svc.follows _ h1)) (serve_extends h2)] at hev
    rcases List.mem_append.mp hev with hev | hev
    · exact ⟨c, rq, w, w1, .head h1 h2, hev⟩
    · obtain ⟨c', rq', v, v', ht, hm⟩ := serve_event_tx h2 ev hev
      exact ⟨c', rq', v, v', ht.cons h1, hm⟩

end Keystore2
