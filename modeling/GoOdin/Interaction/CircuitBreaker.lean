import Mathlib.Algebra.Ring.Nat
import Mathlib.Data.List.Basic

/-!
# Circuit breakers as their clients see them

A breaker is asked before a request, and told afterwards how it ended. It admits the request,
and gives a ticket under which the end is reported, or refuses it with an error. Nothing else is
known of a breaker here: how it keeps its state and when it admits a request is up to the
breaker. Times are in nanoseconds.

`Breaker.Laws` is what a client may assume if it needs more: what a closed breaker counts, when
it opens, and for how long an open one refuses everything. Nothing is assumed about the time
after that.
-/

namespace CircuitBreaker

/-- The numbers that a breaker hands to `ReadyToTrip`. -/
structure Counts where
  requests : UInt32 := 0
  totalSuccesses : UInt32 := 0
  totalFailures : UInt32 := 0
  consecutiveSuccesses : UInt32 := 0
  consecutiveFailures : UInt32 := 0
  deriving DecidableEq, Repr

structure Settings where
  timeout : Nat
  readyToTrip : Counts → Bool

structure Breaker (S T ε : Type) where
  new : S
  allow : S → Nat → Except ε T × S
  report : S → T → Nat → Bool → S

namespace Breaker

variable {S T ε : Type}

/-- One request, when nothing else happens between its start and its end. -/
def execute {α e : Type} (b : Breaker S T ε) (s : S) (started ended : Nat) (req : Except e α) :
    Except (ε ⊕ e) α × S :=
  match b.allow s started with
  | (.error refusal, s) => (.error (.inl refusal), s)
  | (.ok ticket, s) => (req.mapError .inr, b.report s ticket ended req.toOption.isSome)

/-- `closed s n f` is a closed breaker after `n` requests of which `f` failed; `opened s expiry`
is one that is open until then. The counters have 32 bits. -/
structure Laws (b : Breaker S T ε) (st : Settings) (closed : S → Nat → Nat → Prop)
    (opened : S → Nat → Prop) : Prop where
  new : closed b.new 0 0
  /-- A closed breaker admits every request. -/
  admits : ∀ {s n f}, closed s n f → ∀ now, ∃ ticket s', b.allow s now = (.ok ticket, s')
  /-- It counts the successes. -/
  succeeded : ∀ {s n f now ticket s'}, closed s n f → b.allow s now = (.ok ticket, s') →
    n + 1 < 2 ^ 32 → ∀ ended, closed (b.report s' ticket ended true) (n + 1) f
  /-- It counts the failures, and opens for the timeout if its client finds it ready to trip. -/
  failed : ∀ {s n f now ticket s'}, closed s n f → b.allow s now = (.ok ticket, s') →
    n + 1 < 2 ^ 32 → ∀ ended, ∃ counts : Counts,
      counts.requests.toNat = n + 1 ∧ counts.totalFailures.toNat = f + 1 ∧
      if st.readyToTrip counts = true then
        opened (b.report s' ticket ended false) (ended + st.timeout)
      else closed (b.report s' ticket ended false) (n + 1) (f + 1)
  /-- An open breaker refuses every request until it expires. -/
  refuses : ∀ {s expiry now}, opened s expiry → now ≤ expiry →
    ∃ refusal s', b.allow s now = (.error refusal, s')

variable {b : Breaker S T ε} {st : Settings} {closed : S → Nat → Nat → Prop}
  {opened : S → Nat → Prop} {s : S} {n f : Nat}

/-- A closed breaker lets the request through; the client sees its outcome. -/
theorem Laws.execute_closed (laws : b.Laws st closed opened) (isClosed : closed s n f)
    (room : n + 1 < 2 ^ 32) {α e : Type} (started ended : Nat) (req : Except e α) :
    (b.execute s started ended req).1 = req.mapError .inr ∧
      if req.toOption.isSome = true then closed (b.execute s started ended req).2 (n + 1) f
      else ∃ counts : Counts,
        counts.requests.toNat = n + 1 ∧ counts.totalFailures.toNat = f + 1 ∧
        if st.readyToTrip counts = true then
          opened (b.execute s started ended req).2 (ended + st.timeout)
        else closed (b.execute s started ended req).2 (n + 1) (f + 1) := by
  obtain ⟨ticket, s', admitted⟩ := laws.admits isClosed started
  rw [execute, admitted]
  cases req with
  | ok a => exact ⟨rfl, laws.succeeded isClosed admitted room ended⟩
  | error err => exact ⟨rfl, laws.failed isClosed admitted room ended⟩

/-- An open breaker refuses it. -/
theorem Laws.execute_opened (laws : b.Laws st closed opened) {expiry : Nat}
    (isOpen : opened s expiry) {started : Nat} (early : started ≤ expiry) {α e : Type}
    (ended : Nat) (req : Except e α) :
    ∃ refusal, (b.execute s started ended req).1 = .error (.inl refusal) := by
  obtain ⟨refusal, s', refused⟩ := laws.refuses isOpen early
  rw [execute, refused]
  exact ⟨refusal, rfl⟩

end Breaker

/-! ## A breaker with these laws -/

/-- The simplest one: once it has opened it stays open. -/
inductive Latch where
  | closed (requests failures : Nat)
  | opened
  deriving DecidableEq, Repr

namespace Latch

variable (st : Settings)

/-- The numbers that it hands to `ReadyToTrip`. -/
def counts (requests failures : Nat) : Counts :=
  { requests := .ofNat requests, totalFailures := .ofNat failures }

def report (l : Latch) (success : Bool) : Latch :=
  match l with
  | .opened => .opened
  | .closed requests failures =>
      if success then .closed (requests + 1) failures
      else if st.readyToTrip (counts (requests + 1) (failures + 1)) then .opened
      else .closed (requests + 1) (failures + 1)

def breaker : Breaker Latch Unit Unit where
  new := .closed 0 0
  allow l _ := (if l = .opened then .error () else .ok (), l)
  report l _ _ success := l.report st success

theorem laws : (breaker st).Laws st (fun l n f => l = .closed n f ∧ f ≤ n)
    (fun l _ => l = .opened) where
  new := ⟨rfl, Nat.le_refl 0⟩
  admits := by
    rintro _ n f ⟨rfl, -⟩ now
    exact ⟨(), _, rfl⟩
  succeeded := by
    rintro _ n f now ⟨⟩ s' ⟨rfl, few⟩ ⟨⟩ - ended
    exact ⟨rfl, Nat.le_succ_of_le few⟩
  failed := by
    rintro _ n f now ⟨⟩ s' ⟨rfl, few⟩ ⟨⟩ room ended
    refine ⟨counts (n + 1) (f + 1), ?_, ?_, ?_⟩
    · exact UInt32.toNat_ofNat_of_lt' room
    · exact UInt32.toNat_ofNat_of_lt' (Nat.lt_of_le_of_lt (Nat.succ_le_succ few) room)
    · by_cases trips : st.readyToTrip (counts (n + 1) (f + 1)) = true
      · rw [if_pos trips]
        simp [breaker, report, trips]
      · rw [if_neg trips]
        simp [breaker, report, trips, few]
  refuses := by
    rintro _ expiry now rfl -
    exact ⟨(), _, rfl⟩

end Latch

end CircuitBreaker
