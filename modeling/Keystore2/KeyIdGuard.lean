import Keystore2.Types
import Mathlib.Logic.Function.Basic

/-!
# Keystore2 — many requests on one key id

`load_key_entry` hands out a `KeyIdGuard` for the key id it resolves, and no
other request gets a guard for that id until it is dropped (modelled from the
spec: `database.rs` is not in the source tree). `create_operation` and
`import_wrapped_key` keep the guard of the key they loaded until they return,
and hand it to the upgrade-retry protocol, which writes the upgraded KM blob
under it.

This module models any number of requests on one key id `k`, interleaved step
by step. What one request does with `k` is a `KStep`: load its KM blob (taking
the guard), have KeyMint upgrade a blob, write `k`'s KM blob, return (dropping
the guard); `Req.step` is the order in which the handlers take those steps.
`System.step` adds what the requests share: the KM blob of `k` in the Key Store
and the holder of its guard. A load waits for a free guard and reads the blob
that is current at that moment.

## Results

* `System.Inv` — the guard's holder is the one request between its load and
  its return, and the blob such a request loaded and has not yet replaced is
  still `k`'s current blob.
* `System.inv_step`, `System.inv_run` — every step, and so every interleaving of
  any number of requests, keeps it.
* `System.write_of_upgraded` — so every KM blob write for `k` stores KeyMint's
  upgrade of the blob the writer loaded, and that blob is the current one when
  it is replaced.
-/

namespace Keystore2

/-- What a request does with the KM blob of key id `k`. -/
inductive KStep
  /-- `load_key_entry` resolved `k`, took its guard, and read its KM blob. -/
  | load (blob : Blob)
  /-- KeyMint's `upgradeKey` upgraded the blob `old` into `new`. -/
  | upgrade (old new : Blob)
  /-- The KM blob of `k` was written. -/
  | write (blob : Blob)
  /-- The request returned, dropping its guard. -/
  | drop
  deriving DecidableEq, Repr

/-- Where a request stands with key id `k`. -/
inductive Req
  /-- It has not loaded `k`. -/
  | idle
  /-- It holds the guard of `k` and loaded `blob`. -/
  | loaded (blob : Blob)
  /-- It holds the guard, and KeyMint upgraded the loaded `old` into `new`. -/
  | upgraded (old new : Blob)
  /-- It holds the guard and wrote the upgraded blob; the closure runs once more. -/
  | retried
  /-- It returned. -/
  | done
  deriving DecidableEq, Repr

namespace Req

/-- Whether the request holds the guard of `k`. -/
def holds : Req → Bool
  | .loaded _ | .upgraded _ _ | .retried => true
  | .idle | .done => false

/-- The blob the request loaded, while it holds the guard and has not written. -/
def current : Req → Option Blob
  | .loaded b | .upgraded b _ => some b
  | _ => none

theorem holds_of_current {q : Req} {b : Blob} (h : q.current = some b) : q.holds := by
  cases q <;> simp_all [current, holds]

/-- One step of a request on its own, in the order the handlers take them: an
upgrade before any load of `k` is of a blob that is not `k`'s (a `BLOB` key, or
another key id) and leaves the request as it is; once `k` is loaded, the upgrade
is of the loaded blob, and the write is of KeyMint's answer; the request returns
holding the guard. -/
def step : Req → KStep → Option Req
  | .idle, .load b => some (.loaded b)
  | .idle, .upgrade _ _ => some .idle
  | .loaded b, .upgrade old new => if old = b then some (.upgraded old new) else none
  | .upgraded _ new, .write b => if b = new then some .retried else none
  | q, .drop => if q.holds then some .done else none
  | _, _ => none

/-- The steps `as`, one after another. -/
def run : Req → List KStep → Option Req
  | q, [] => some q
  | q, a :: as => (q.step a).bind (run · as)

@[simp] theorem run_nil (q : Req) : q.run [] = some q := rfl

@[simp] theorem run_cons (q : Req) (a : KStep) (as : List KStep) :
    q.run (a :: as) = (q.step a).bind (run · as) := rfl

theorem run_append (q : Req) (as bs : List KStep) :
    q.run (as ++ bs) = (q.run as).bind (run · bs) := by
  induction as generalizing q with
  | nil => rfl
  | cons a as ih =>
    simp only [List.cons_append, run_cons]
    cases q.step a <;> simp [ih]

end Req

/-- Requests `ι` on key id `k`: the KM blob of `k` in the Key Store, the request
holding its guard, and where each request stands. -/
structure System (ι : Type) where
  blob : Option Blob
  holder : Option ι
  reqs : ι → Req

namespace System

variable {ι : Type} [DecidableEq ι]

/-- No request has started; the KM blob of `k` is `blob`. -/
def init (blob : Option Blob) : System ι := ⟨blob, none, fun _ => .idle⟩

/-- Request `i` takes step `a`, when its handler can: a load waits for the
guard to be free and reads the current blob, a write replaces the blob, and a
return frees the guard. -/
def step (s : System ι) (i : ι) (a : KStep) : Option (System ι) :=
  ((s.reqs i).step a).bind fun q =>
    let reqs := Function.update s.reqs i q
    match a with
    | .load b =>
      if s.holder = none ∧ s.blob = some b then some ⟨s.blob, some i, reqs⟩ else none
    | .upgrade _ _ => some ⟨s.blob, s.holder, reqs⟩
    | .write b => some ⟨some b, s.holder, reqs⟩
    | .drop => some ⟨s.blob, none, reqs⟩

/-- An interleaving: which request takes which step, in order. -/
def run : System ι → List (ι × KStep) → Option (System ι)
  | s, [] => some s
  | s, (i, a) :: sched => (s.step i a).bind (run · sched)

-- ---------------------------------------------------------------------------
-- One step of each kind
-- ---------------------------------------------------------------------------

theorem step_load {s s' : System ι} {i : ι} {b : Blob} (h : s.step i (.load b) = some s') :
    s.reqs i = .idle ∧ s.holder = none ∧ s.blob = some b ∧
      s' = ⟨s.blob, some i, Function.update s.reqs i (.loaded b)⟩ := by
  unfold step at h
  cases hq : s.reqs i <;> simp only [hq, Req.step, Option.some_bind, Option.none_bind] at h <;>
    try cases h
  split at h
  · cases h
    exact ⟨rfl, ‹_ ∧ _›.1, ‹_ ∧ _›.2, rfl⟩
  · cases h

theorem step_upgrade {s s' : System ι} {i : ι} {old new : Blob}
    (h : s.step i (.upgrade old new) = some s') :
    s'.blob = s.blob ∧ s'.holder = s.holder ∧
      ((s.reqs i = .idle ∧ s'.reqs = s.reqs) ∨
        (s.reqs i = .loaded old ∧ s'.reqs = Function.update s.reqs i (.upgraded old new))) := by
  unfold step at h
  cases hq : s.reqs i with
  | idle =>
    simp only [hq, Req.step, Option.some_bind, Option.some.injEq] at h
    subst h
    exact ⟨rfl, rfl, .inl ⟨rfl, by rw [← hq, Function.update_eq_self]⟩⟩
  | loaded b =>
    simp only [hq, Req.step] at h
    split at h
    · subst old
      simp only [Option.some_bind, Option.some.injEq] at h
      subst h
      exact ⟨rfl, rfl, .inr ⟨rfl, rfl⟩⟩
    · cases h
  | _ => simp [hq, Req.step] at h

theorem step_write {s s' : System ι} {i : ι} {b : Blob} (h : s.step i (.write b) = some s') :
    ∃ old, s.reqs i = .upgraded old b ∧
      s' = ⟨some b, s.holder, Function.update s.reqs i .retried⟩ := by
  unfold step at h
  cases hq : s.reqs i with
  | upgraded old new =>
    simp only [hq, Req.step] at h
    split at h
    · subst b
      simp only [Option.some_bind, Option.some.injEq] at h
      exact ⟨old, rfl, h.symm⟩
    · cases h
  | _ => simp [hq, Req.step] at h

theorem step_drop {s s' : System ι} {i : ι} (h : s.step i .drop = some s') :
    (s.reqs i).holds ∧ s' = ⟨s.blob, none, Function.update s.reqs i .done⟩ := by
  unfold step at h
  simp only [Req.step] at h
  split at h
  · simp only [Option.some_bind, Option.some.injEq] at h
    exact ⟨‹_›, h.symm⟩
  · cases h

-- ---------------------------------------------------------------------------
-- The invariant
-- ---------------------------------------------------------------------------

/-- The invariant of the requests on `k`. -/
structure Inv (s : System ι) : Prop where
  /-- A request that holds the guard is its holder. -/
  holder_of_holds : ∀ i, (s.reqs i).holds → s.holder = some i
  /-- The blob a holder loaded and has not replaced is `k`'s current blob. -/
  current_eq : ∀ i b, (s.reqs i).current = some b → s.blob = some b

omit [DecidableEq ι] in
theorem inv_init (blob : Option Blob) : (init blob : System ι).Inv :=
  ⟨fun _ h => (by cases h), fun _ _ h => (by cases h)⟩

omit [DecidableEq ι] in
/-- While the guard is free, no request holds it. -/
theorem Inv.not_holds {s : System ι} (hs : s.Inv) (hf : s.holder = none) (j : ι) :
    (s.reqs j).holds = false := by
  cases h : (s.reqs j).holds
  · rfl
  · cases (hs.holder_of_holds j h).symm.trans hf

omit [DecidableEq ι] in
/-- Only the holder holds the guard. -/
theorem Inv.not_holds_of_ne {s : System ι} (hs : s.Inv) {i j : ι} (hi : (s.reqs i).holds)
    (hj : j ≠ i) : (s.reqs j).holds = false := by
  cases h : (s.reqs j).holds
  · rfl
  · exact absurd (Option.some.inj ((hs.holder_of_holds j h).symm.trans
      (hs.holder_of_holds i hi))) hj

theorem inv_step {s s' : System ι} {i : ι} {a : KStep} (hs : s.Inv) (h : s.step i a = some s') :
    s'.Inv := by
  cases a with
  | load b =>
    obtain ⟨-, hfree, hb, rfl⟩ := step_load h
    refine ⟨fun j hj => ?_, fun j b' hj => ?_⟩ <;> by_cases hji : j = i
    · rw [hji]
    · simp only [Function.update_noteq hji, hs.not_holds hfree j] at hj
      cases hj
    · subst hji
      simp only [Function.update_same, Req.current, Option.some.injEq] at hj
      rw [hb, hj]
    · simp only [Function.update_noteq hji] at hj
      cases (hs.not_holds hfree j).symm.trans (Req.holds_of_current hj)
  | upgrade old new =>
    obtain ⟨hb, hh, ⟨-, hr⟩ | ⟨hq, hr⟩⟩ := step_upgrade h
    · exact ⟨fun j hj => hh ▸ hs.holder_of_holds j (hr ▸ hj),
        fun j b' hj => hb ▸ hs.current_eq j b' (hr ▸ hj)⟩
    · have hhi := hs.holder_of_holds i (by rw [hq]; rfl)
      refine ⟨fun j hj => ?_, fun j b' hj => ?_⟩ <;> rw [hr] at hj <;> by_cases hji : j = i
      · rw [hh, hji, hhi]
      · simp only [Function.update_noteq hji] at hj
        exact hh ▸ hs.holder_of_holds j hj
      · subst hji
        simp only [Function.update_same, Req.current, Option.some.injEq] at hj
        rw [hb, ← hj]
        exact hs.current_eq _ old (by rw [hq]; rfl)
      · simp only [Function.update_noteq hji] at hj
        exact hb ▸ hs.current_eq j b' hj
  | write b =>
    obtain ⟨old, hq, rfl⟩ := step_write h
    have hi : (s.reqs i).holds := by rw [hq]; rfl
    refine ⟨fun j hj => ?_, fun j b' hj => ?_⟩ <;> by_cases hji : j = i
    · rw [hji]
      exact hs.holder_of_holds i hi
    · simp only [Function.update_noteq hji] at hj
      exact hs.holder_of_holds j hj
    · subst hji
      simp [Req.current] at hj
    · simp only [Function.update_noteq hji] at hj
      cases (hs.not_holds_of_ne hi hji).symm.trans (Req.holds_of_current hj)
  | drop =>
    obtain ⟨hi, rfl⟩ := step_drop h
    refine ⟨fun j hj => ?_, fun j b' hj => ?_⟩ <;> by_cases hji : j = i
    · subst hji
      simp [Req.holds] at hj
    · simp only [Function.update_noteq hji] at hj
      cases (hs.not_holds_of_ne hi hji).symm.trans hj
    · subst hji
      simp [Req.current] at hj
    · simp only [Function.update_noteq hji] at hj
      exact hs.current_eq j b' hj

theorem inv_run {s s' : System ι} {sched : List (ι × KStep)} (hs : s.Inv)
    (h : s.run sched = some s') : s'.Inv := by
  induction sched generalizing s with
  | nil => cases h; exact hs
  | cons ia sched ih =>
    obtain ⟨i, a⟩ := ia
    simp only [run] at h
    cases hst : s.step i a with
    | none => rw [hst] at h; cases h
    | some s1 =>
      rw [hst, Option.some_bind] at h
      exact ih (inv_step hs hst) h

/-- **No lost upgrade.** In every interleaving of any number of requests on key
id `k`, every write of `k`'s KM blob stores KeyMint's upgrade `b` of a blob
`old` the writer loaded, and `old` is `k`'s blob up to that write. -/
theorem write_of_upgraded (blob : Option Blob) {sched : List (ι × KStep)} {s s' : System ι}
    {i : ι} {b : Blob} (h : (init blob).run sched = some s) (hw : s.step i (.write b) = some s') :
    ∃ old, s.reqs i = .upgraded old b ∧ s.blob = some old ∧ s'.blob = some b := by
  obtain ⟨old, hq, rfl⟩ := step_write hw
  exact ⟨old, hq, (inv_run (inv_init blob) h).current_eq i old (by rw [hq]; rfl), rfl⟩

/- A second load waits for the guard; once it is dropped, the next request
loads the upgraded blob. -/
example : (init (some [1]) : System Bool).run [(false, .load [1]), (true, .load [1])] = none :=
  rfl

example : ((init (some [1]) : System Bool).run [(false, .load [1]), (false, .upgrade [1] [2]),
    (false, .write [2]), (false, .drop), (true, .load [2])]).isSome := rfl

end System

end Keystore2
